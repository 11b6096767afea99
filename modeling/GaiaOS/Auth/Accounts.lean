/-
Accounts and API keys, after `app/api/v1/auth.py`, `app/api/v1/api_keys.py`,
`tools/create_admin.py`, `auth/dependencies.py` and `UserRepository` of `db/repository.py`.

A call reads, may draw secrets, and commits one write; other calls run between any two of
these.  A read is what is committed when it runs.  A write is what the unit of work makes of the
object that was read: an attribute that was set to the value it already had is not written, so a
commit changes the columns its call has changed and leaves the others as they are by then.  The
unique indexes on `users.email` and `api_keys.key_id` refuse an insert.

What authenticates a request, and the selection of a key with its owner, is one read.  A
password reset is given by what its commit writes; `PasswordReset` has its statements.  Calls
stay in the state once they are answered, so the state carries what every client has been told.
The mail with a link is a line in the log and is left out.

Times are microseconds.
-/
import GaiaOS.Auth.PasswordReset
import GaiaOS.Auth.Providers

namespace GaiaOS

namespace Accounts

open Auth

/-- A row of `users`; the key is `id`. -/
structure Account where
  email : String
  hashedPassword : String
  fullName : Option String
  role : String
  isActive : Bool
  isVerified : Bool
  hashedVerificationToken : Option String
  verificationTokenExpiresAt : Option Int
  lastLoginAt : Option Int
  deletedAt : Option Int
  createdAt : Int
  deriving DecidableEq

/-- A row of `api_keys`; the key is `key_id`. -/
structure KeyRow where
  keyHash : String
  name : String
  ownerId : Uuid
  isRevoked : Bool
  createdAt : Int
  revokedAt : Option Int
  deriving DecidableEq

/-- `api_key.is_revoked = True; api_key.revoked_at = now`. -/
def KeyRow.revoke (row : KeyRow) (now : Int) : KeyRow :=
  { row with isRevoked := true, revokedAt := some now }

/-- What a request is decided by. -/
def Account.user (userId : Uuid) (account : Account) : User where
  id := userId
  role := account.role
  isActive := account.isActive
  isVerified := account.isVerified
  deletedAt := account.deletedAt

/-- `UserResponse`. -/
structure UserResponse where
  id : Uuid
  email : String
  fullName : Option String
  role : String
  isActive : Bool
  isVerified : Bool
  createdAt : Int
  lastLoginAt : Option Int
  deriving DecidableEq

/-- The claims of an access token; the issuer and the audience are those of the settings. -/
structure AccessToken where
  sub : Uuid
  role : String
  iat : Int
  exp : Int
  deriving DecidableEq

/-- What a client is told. -/
inductive Answer
  /-- A `JSONResponse` with an error code. -/
  | refused (statusCode : Nat) (detail errorCode : String)
  | raised (error : HttpException)
  /-- The 401 of a rejected API key. -/
  | rejectedKey (code message : String)
  /-- An exception nobody catches. -/
  | failed
  | registered (user : UserResponse)
  | token (accessToken : AccessToken) (expiresIn : Int)
  | message (text : String)
  | keyCreated (keyId name key : String) (createdAt : Int)
  | keyRevoked (keyId : String)
  /-- What `soft_delete_user` returns. -/
  | softDeleted (deleted : Bool)
  /-- `create_admin` ends, with an exit code. -/
  | exited (code : Nat)
  deriving DecidableEq

/-! ### The unit of work -/

/-- The attributes that a function of the repository sets on the object it has loaded. -/
inductive Change
  | updateVerificationToken (hashedToken : String) (expiresAt : Int)
  | verifyUserEmail
  | updateLastLogin (now : Int)
  | softDeleteUser (now : Int)
  | promote (hashedPassword : String) (fullName : Option String)
  deriving DecidableEq

/-- The object after the assignments. -/
def Change.apply (account : Account) : Change → Account
  | .updateVerificationToken hashedToken expiresAt =>
      { account with
        hashedVerificationToken := some hashedToken
        verificationTokenExpiresAt := some expiresAt }
  | .verifyUserEmail =>
      { account with
        isVerified := true
        hashedVerificationToken := none
        verificationTokenExpiresAt := none }
  | .updateLastLogin now => { account with lastLoginAt := some now }
  | .softDeleteUser now => { account with deletedAt := some now, isActive := false }
  | .promote hashedPassword fullName =>
      { account with
        role := Role.admin.value
        isActive := true
        isVerified := true
        hashedPassword := hashedPassword
        fullName := if fullName.any (· ≠ "") then fullName else account.fullName }

/-- A column of an `UPDATE`: written if the attribute differs from what was loaded. -/
def writeColumn {α : Type} [DecidableEq α] (loaded new current : α) : α :=
  if new = loaded then current else new

/-- The row after the `UPDATE` that a flush emits for an object. -/
def Account.flush (loaded new current : Account) : Account where
  email := writeColumn loaded.email new.email current.email
  hashedPassword := writeColumn loaded.hashedPassword new.hashedPassword current.hashedPassword
  fullName := writeColumn loaded.fullName new.fullName current.fullName
  role := writeColumn loaded.role new.role current.role
  isActive := writeColumn loaded.isActive new.isActive current.isActive
  isVerified := writeColumn loaded.isVerified new.isVerified current.isVerified
  hashedVerificationToken := writeColumn loaded.hashedVerificationToken
    new.hashedVerificationToken current.hashedVerificationToken
  verificationTokenExpiresAt := writeColumn loaded.verificationTokenExpiresAt
    new.verificationTokenExpiresAt current.verificationTokenExpiresAt
  lastLoginAt := writeColumn loaded.lastLoginAt new.lastLoginAt current.lastLoginAt
  deletedAt := writeColumn loaded.deletedAt new.deletedAt current.deletedAt
  createdAt := writeColumn loaded.createdAt new.createdAt current.createdAt

/-- Who inserts a user. -/
inductive Origin
  | register
  | createAdmin
  deriving DecidableEq

/-- What a call commits. -/
inductive Write
  | insertUser (origin : Origin) (userId : Uuid) (account : Account)
  | updateUser (userId : Uuid) (loaded : Account) (change : Change)
  /-- The key itself is only known to the call. -/
  | insertKey (keyId key : String) (row : KeyRow)
  /-- On a key that was loaded unrevoked. -/
  | revokeKey (keyId : String) (revokedAt : Int)
  deriving DecidableEq

/-- A call that has read and is about to draw a token, a key or the salt of a password. -/
inductive Plan
  | register (email password : String) (fullName : Option String)
  | resendVerification (userId : Uuid) (loaded : Account)
  | createAdmin (email password : String) (fullName : Option String)
  | promote (userId : Uuid) (loaded : Account) (password : String) (fullName : Option String)
  | createApiKey (ownerId : Uuid) (name : String)
  deriving DecidableEq

/-- Where a call stands. -/
inductive Phase
  | drawing (plan : Plan)
  /-- The commit is next. -/
  | writing (write : Write)
  | answered (answer : Answer)
  deriving DecidableEq

/-- A call, with the user it is authenticated as where it has to be. -/
structure Call where
  caller : Option Uuid
  phase : Phase
  deriving DecidableEq

/-- The committed tables and the calls, those that are answered included. -/
structure State where
  clock : Int
  users : Dict Uuid Account
  apiKeys : Dict String KeyRow
  calls : Dict Nat Call

/-- Nobody has called. -/
def State.empty : State := ⟨0, .empty, .empty, .empty⟩

/-- What the code takes from elsewhere. -/
structure Library where
  rt : Runtime
  sha256Hex : String → String
  /-- Argon2id: the hash of a password with a salt, and the check against a hash. -/
  hashPassword : String → String → String
  verifyPassword : String → String → Bool
  /-- `jwt.decode` at a time, by the `sub` claim. -/
  decodeAccessToken : Int → String → Except TokenError (Option String)
  jwtSecretKey : String
  jwtExpiryMinutes : Int
  prometheusMetricsToken : Option String

variable (lib : Library)

/-! ### Reads -/

/-- `email.lower().strip()`. -/
def normalize (email : String) : String := pyStrip (lib.rt.lower email)

/-- `get_user_by_email(session, email)`. -/
def State.getUserByEmail (s : State) (email : String) : Except PyError (Option (Uuid × Account)) :=
  scalarOneOrNone (s.users.entries.filter fun e =>
    e.2.email = normalize lib email ∧ e.2.deletedAt = none)

/-- `get_user_by_id(session, user_id)`. -/
def State.getUserById (s : State) (userId : Uuid) : Option Account :=
  (s.users.get? userId).filter fun account => account.deletedAt.isNone

/-- `get_user_by_hashed_verification_token(session, hashed_token)`. -/
def State.getUserByHashedVerificationToken (s : State) (hashedToken : String) :
    Except PyError (Option (Uuid × Account)) :=
  scalarOneOrNone (s.users.entries.filter fun e =>
    e.2.hashedVerificationToken = some hashedToken ∧ e.2.deletedAt = none)

/-- What the providers look at. -/
def State.authEnv (s : State) : AuthEnv where
  rt := lib.rt
  prometheusMetricsToken := lib.prometheusMetricsToken
  decodeAccessToken := lib.decodeAccessToken s.clock
  hashApiKey := lib.sha256Hex
  apiKeys := s.apiKeys.entries.map fun e => ⟨e.1, e.2.keyHash, e.2.isRevoked, e.2.ownerId⟩
  users userId := (s.users.get? userId).map (Account.user userId)

/-- `get_current_user`. -/
def getCurrentUser (state : RequestState) : Except Answer User :=
  match state.apiKeyError, state.user with
  | some (code, message), _ => .error (.rejectedKey code message)
  | none, none => .error (.raised (unauthorized "Authentication required."))
  | none, some user => .ok user

/-- `get_current_active_user`. -/
def getCurrentActiveUser (state : RequestState) : Except Answer User :=
  match getCurrentUser state with
  | .error refusal => .error refusal
  | .ok user =>
      if !user.isActive then .error (.raised ⟨401, "User account is inactive.", none, none⟩)
      else if !user.isVerified then
        .error (.raised ⟨401, "Email address is not verified.", none, none⟩)
      else .ok user

/-- `RequireRole(*allowed_roles)`. -/
def requireRole (allowedRoles : List Role) (state : RequestState) : Except Answer User :=
  match getCurrentActiveUser state with
  | .error refusal => .error refusal
  | .ok user =>
      if user.role = Role.admin.value ∨ user.role ∈ allowedRoles.map Role.value then .ok user
      else .error (.raised ⟨403, "Insufficient permissions for this resource.", none, none⟩)

/-- The user a route is handed: the chain of the gateway, then the dependency of the route. -/
def authenticated (s : State) (request : Request)
    (dependency : RequestState → Except Answer User) : Except Answer User :=
  match runChain (s.authEnv lib) request authChain {} with
  | .error (.http e) => .error (.raised e)
  | .error (.crash _) => .error .failed
  | .ok state => dependency state

/-! ### What is asked -/

/-- A request whose body has been validated, or a run of `create_admin`, or a call of
`soft_delete_user`. -/
inductive Ask
  | register (email password : String) (fullName : Option String)
  | login (email password : String)
  | verifyEmail (token : String)
  | resendVerification (email : String)
  | createAdmin (email password : String) (fullName : Option String)
  | softDeleteUser (userId : Uuid)
  | createApiKey (request : Request) (name : String)
  | revokeApiKey (request : Request) (keyId : String)

def verificationSent : Answer :=
  .message "If an unverified account exists with that email, a verification link has been sent."

def invalidVerificationToken : Answer :=
  .refused 400 "Invalid or expired verification token." "invalid_verification_token"

def invalidCredentials : Answer :=
  .refused 401 "Invalid email or password." "invalid_credentials"

/-- `register`, up to the draw. -/
def State.register (s : State) (email password : String) (fullName : Option String) : Phase :=
  match PasswordReset.validatePasswordPolicy password with
  | some detail => .answered (.refused 422 detail "password_policy_violation")
  | none =>
      match s.getUserByEmail lib email with
      | .error _ => .answered .failed
      | .ok (some _) =>
          .answered (.refused 409 "An account with this email already exists."
            "email_already_exists")
      | .ok none => .drawing (.register email password fullName)

/-- `login`, up to `update_last_login`. -/
def State.login (s : State) (email password : String) : Phase :=
  match s.getUserByEmail lib email with
  | .error _ => .answered .failed
  | .ok none => .answered invalidCredentials
  | .ok (some (userId, user)) =>
      if !lib.verifyPassword password user.hashedPassword then .answered invalidCredentials
      else if !user.isActive then
        .answered (.refused 401 "User account is inactive." "account_inactive")
      else if !user.isVerified then
        .answered (.refused 401 "Email address is not verified." "email_unverified")
      else .writing (.updateUser userId user (.updateLastLogin s.clock))

/-- `verify_email`, up to `verify_user_email`. -/
def State.verifyEmail (s : State) (token : String) : Phase :=
  match s.getUserByHashedVerificationToken (lib.sha256Hex token) with
  | .error _ => .answered .failed
  | .ok none => .answered invalidVerificationToken
  | .ok (some (userId, user)) =>
      match user.verificationTokenExpiresAt with
      | none => .answered invalidVerificationToken
      | some expiresAt =>
          if expiresAt < s.clock then
            .answered (.refused 400 "Verification token has expired." "verification_token_expired")
          else .writing (.updateUser userId user .verifyUserEmail)

/-- `resend_verification`, up to the draw. -/
def State.resendVerification (s : State) (email : String) : Phase :=
  match s.getUserByEmail lib email with
  | .error _ => .answered .failed
  | .ok none => .answered verificationSent
  | .ok (some (userId, user)) =>
      if !user.isVerified && user.isActive then .drawing (.resendVerification userId user)
      else .answered verificationSent

/-- `create_admin`, up to `hash_password`. -/
def State.createAdmin (s : State) (email password : String) (fullName : Option String) : Phase :=
  match PasswordReset.validatePasswordPolicy password with
  | some _ => .answered (.exited 1)
  | none =>
      match s.getUserByEmail lib email with
      | .error _ => .answered .failed
      | .ok (some (userId, user)) => .drawing (.promote userId user password fullName)
      | .ok none => .drawing (.createAdmin email password fullName)

/-- `soft_delete_user`, up to its commit. -/
def State.softDeleteUser (s : State) (userId : Uuid) : Phase :=
  match s.getUserById userId with
  | none => .answered (.softDeleted false)
  | some user => .writing (.updateUser userId user (.softDeleteUser s.clock))

/-- `create_api_key` for a user, up to the draw. -/
def createApiKey (user : User) (name : String) : Phase := .drawing (.createApiKey user.id name)

/-- `revoke_api_key` for a user, up to its commit. -/
def State.revokeApiKey (s : State) (user : User) (keyId : String) : Phase :=
  match s.apiKeys.get? keyId with
  | none => .answered (.raised ⟨404, "API key not found.", none, none⟩)
  | some row =>
      match checkOwnerOrRole (some row.ownerId) user [.admin] with
      | .error e => .answered (.raised e)
      | .ok () =>
          if row.isRevoked then .answered (.keyRevoked keyId)
          else .writing (.revokeKey keyId s.clock)

/-- A route for authenticated users. -/
def State.forUser (s : State) (request : Request)
    (dependency : RequestState → Except Answer User) (route : User → Phase) : Call :=
  match authenticated lib s request dependency with
  | .error refusal => ⟨none, .answered refusal⟩
  | .ok user => ⟨some user.id, route user⟩

/-- A call after its reads. -/
def State.ask (s : State) : Ask → Call
  | .register email password fullName => ⟨none, s.register lib email password fullName⟩
  | .login email password => ⟨none, s.login lib email password⟩
  | .verifyEmail token => ⟨none, s.verifyEmail lib token⟩
  | .resendVerification email => ⟨none, s.resendVerification lib email⟩
  | .createAdmin email password fullName => ⟨none, s.createAdmin lib email password fullName⟩
  | .softDeleteUser userId => ⟨none, s.softDeleteUser userId⟩
  | .createApiKey request name =>
      s.forUser lib request (requireRole [.researcher, .admin]) fun user => createApiKey user name
  | .revokeApiKey request keyId =>
      s.forUser lib request getCurrentActiveUser fun user => s.revokeApiKey user keyId

/-! ### Draws -/

/-- Fresh randomness: the id of a row, a token or key, a salt and the public id of a key. -/
structure Drawn where
  userId : Uuid
  secret : String
  salt : String
  keyId : String
  deriving DecidableEq

/-- `timedelta(hours=24)`. -/
def verificationLifetime : Int := 24 * 3600 * 1000000

/-- What a call goes on to commit, with what it has drawn and the time. -/
def Plan.draw (now : Int) (drawn : Drawn) : Plan → Write
  | .register email password fullName =>
      .insertUser .register drawn.userId
        { email := normalize lib email
          hashedPassword := lib.hashPassword drawn.salt password
          fullName := fullName
          role := Role.user.value
          isActive := true
          isVerified := false
          hashedVerificationToken := some (lib.sha256Hex drawn.secret)
          verificationTokenExpiresAt := some (now + verificationLifetime)
          lastLoginAt := none
          deletedAt := none
          createdAt := now }
  | .resendVerification userId loaded =>
      .updateUser userId loaded (.updateVerificationToken (lib.sha256Hex drawn.secret)
        (now + verificationLifetime))
  | .createAdmin email password fullName =>
      .insertUser .createAdmin drawn.userId
        { email := normalize lib email
          hashedPassword := lib.hashPassword drawn.salt password
          fullName := fullName
          role := Role.admin.value
          isActive := true
          isVerified := true
          hashedVerificationToken := none
          verificationTokenExpiresAt := none
          lastLoginAt := none
          deletedAt := none
          createdAt := now }
  | .promote userId loaded password fullName =>
      .updateUser userId loaded (.promote (lib.hashPassword drawn.salt password) fullName)
  | .createApiKey ownerId name =>
      .insertKey ("gaios_key_" ++ drawn.keyId) ("gaios_live_" ++ drawn.secret)
        { keyHash := lib.sha256Hex ("gaios_live_" ++ drawn.secret)
          name := name
          ownerId := ownerId
          isRevoked := false
          createdAt := now
          revokedAt := none }

/-! ### Commits -/

/-- `update_last_login` selects the user again and does nothing for one that is gone. -/
def Change.skips (current : Account) : Change → Bool
  | .updateLastLogin _ => current.deletedAt.isSome
  | _ => false

/-- The tables after a commit; `none` where the database refuses it. -/
def State.write (s : State) : Write → Option State
  | .insertUser _ userId account =>
      if s.users.contains userId || s.users.entries.any (fun e => e.2.email == account.email) then
        none
      else some { s with users := s.users.set userId account }
  | .updateUser userId loaded change =>
      match s.users.get? userId with
      | none => none
      | some current =>
          if change.skips current then some s
          else some { s with
            users := s.users.set userId (loaded.flush (change.apply loaded) current) }
  | .insertKey keyId _ row =>
      if s.apiKeys.contains keyId then none
      else some { s with apiKeys := s.apiKeys.set keyId row }
  | .revokeKey keyId revokedAt =>
      match s.apiKeys.get? keyId with
      | none => none
      | some row => some { s with apiKeys := s.apiKeys.set keyId (row.revoke revokedAt) }

/-- `UserResponse` for a row. -/
def Account.response (userId : Uuid) (account : Account) : UserResponse where
  id := userId
  email := account.email
  fullName := account.fullName
  role := account.role
  isActive := account.isActive
  isVerified := account.isVerified
  createdAt := account.createdAt
  lastLoginAt := account.lastLoginAt

/-- `create_access_token(user.id, user.role)` in the answer to a login. -/
def tokenResponse (now : Int) (userId : Uuid) (role : String) : Answer :=
  if lib.jwtSecretKey = "" then .failed
  else .token
    { sub := userId
      role := role
      iat := now.tdiv 1000000
      exp := (now + lib.jwtExpiryMinutes * 60000000).tdiv 1000000 }
    (lib.jwtExpiryMinutes * 60)

/-- The answer when the commit goes through. -/
def Write.onSuccess (now : Int) : Write → Answer
  | .insertUser .register userId account => .registered (account.response userId)
  | .insertUser .createAdmin _ _ => .exited 0
  | .updateUser _ _ (.updateVerificationToken _ _) => verificationSent
  | .updateUser _ _ .verifyUserEmail => .message "Email address verified successfully."
  | .updateUser userId loaded (.updateLastLogin _) => tokenResponse lib now userId loaded.role
  | .updateUser _ _ (.softDeleteUser _) => .softDeleted true
  | .updateUser _ _ (.promote _ _) => .exited 0
  | .insertKey keyId key row => .keyCreated keyId row.name key row.createdAt
  | .revokeKey keyId _ => .keyRevoked keyId

/-- The answer when it does not.  Two of the functions swallow the exception. -/
def Write.onFailure (now : Int) : Write → Answer
  | .updateUser userId loaded (.updateLastLogin _) => tokenResponse lib now userId loaded.role
  | .updateUser _ _ (.softDeleteUser _) => .softDeleted false
  | _ => .failed

/-! ### Events -/

inductive Event
  /-- Time passes. -/
  | tick (elapsed : Nat)
  | ask (id : Nat) (ask : Ask)
  | draw (id : Nat) (drawn : Drawn)
  | commit (id : Nat)
  /-- The database or the connection fails the call. -/
  | abort (id : Nat)
  /-- A password reset commits. -/
  | resetPassword (userId : Uuid) (newPassword salt : String)

/-- A call moves on. -/
def State.move (s : State) (id : Nat) (caller : Option Uuid) (phase : Phase) : State :=
  { s with calls := s.calls.set id ⟨caller, phase⟩ }

/-- One event; `none` where it cannot happen. -/
def step (s : State) : Event → Option State
  | .tick elapsed => some { s with clock := s.clock + elapsed }
  | .ask id ask =>
      if s.calls.contains id then none
      else some { s with calls := s.calls.set id (s.ask lib ask) }
  | .draw id drawn =>
      match s.calls.get? id with
      | some ⟨caller, .drawing plan⟩ =>
          some (s.move id caller (.writing (plan.draw lib s.clock drawn)))
      | _ => none
  | .commit id =>
      match s.calls.get? id with
      | some ⟨caller, .writing write⟩ =>
          match s.write write with
          | some s' => some (s'.move id caller (.answered (write.onSuccess lib s.clock)))
          | none => some (s.move id caller (.answered (write.onFailure lib s.clock)))
      | _ => none
  | .abort id =>
      match s.calls.get? id with
      | some ⟨caller, .drawing _⟩ => some (s.move id caller (.answered .failed))
      | some ⟨caller, .writing write⟩ =>
          some (s.move id caller (.answered (write.onFailure lib s.clock)))
      | _ => none
  | .resetPassword userId newPassword salt =>
      match PasswordReset.validatePasswordPolicy newPassword, s.users.get? userId with
      | none, some account =>
          let hashedPassword := lib.hashPassword salt newPassword
          some { s with users := s.users.set userId { account with hashedPassword } }
      | _, _ => none

end Accounts

end GaiaOS
