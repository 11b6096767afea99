/-
Password reset, after `app/api/v1/auth.py`, `db/repository.py` and `auth/password_hashing.py`.

A reset is one transaction of several statements under READ COMMITTED: it locks the presented
token (`SELECT ... FOR UPDATE`), reads the user, sets `used_at` on every open token of the user
and, as the session flushes only on commit, writes the password last.  Each statement is an
event of its own, so the resets and requests of any number of clients interleave freely.

A statement sees what is committed when it starts.  One that finds a row it wants to lock
waits until no other transaction holds the row, takes the lock, and looks at the row again as
it is committed then; the lock stays until the transaction ends.  An uncommitted write is kept
with its transaction and becomes visible when it commits.  `abort` may strike a transaction at
any time, as the deadlock detector or a lost connection does.

Times are microseconds.
-/
import GaiaOS.Lib.Dict

namespace GaiaOS

namespace PasswordReset

structure UserRow where
  email : String
  hashedPassword : String
  isActive : Bool
  deletedAt : Option Int
  updatedAt : Int
  deriving DecidableEq

/-- A row of `password_reset_tokens`; `hashed_token` is unique and is its key. -/
structure TokenRow where
  userId : Nat
  expiresAt : Int
  usedAt : Option Int
  deriving DecidableEq

/-- `used_at IS NULL AND expires_at > now`. -/
def TokenRow.isOpen (now : Int) (row : TokenRow) : Bool := row.usedAt.isNone && now < row.expiresAt

/-- Where a reset stands. -/
inductive Phase
  /-- `now` is taken, nothing is read. -/
  | begun
  /-- The `SELECT ... FOR UPDATE` found the token and wants its lock. -/
  | waiting
  /-- The token is locked and belongs to this user. -/
  | selected (userId : Nat)
  /-- The user is active. -/
  | checked (userId : Nat)
  /-- The `UPDATE` of the tokens runs: rows of its snapshot still to visit, and rows written. -/
  | updating (userId : Nat) (todo written : List String)
  /-- The password is written, with this `updated_at`. -/
  | flushed (userId : Nat) (written : List String) (updatedAt : Int)
  /-- `None` was returned; the session is still open. -/
  | returnedNone
  | committed
  | failed
  | aborted
  deriving DecidableEq

/-- A reset that has ended holds no locks and takes no more steps. -/
def Phase.ended : Phase → Bool
  | .committed | .failed | .aborted => true
  | _ => false

/-- A call of `reset_password_with_token`. -/
structure Reset where
  hashedToken : String
  newHashedPassword : String
  now : Int
  phase : Phase
  tokenLocks : List String
  userLock : Option Nat
  deriving DecidableEq

/-- A call of `request_password_reset` that found an active user. -/
inductive Request
  | asked (userId : Nat)
  | composed (userId : Nat) (hashedToken : String) (expiresAt : Int)
  | done
  deriving DecidableEq

/-- The committed tables and the calls in progress. -/
structure State where
  clock : Int
  users : Dict Nat UserRow
  tokens : Dict String TokenRow
  requests : Dict Nat Request
  resets : Dict Nat Reset

namespace State

/-- No other transaction holds the token's row. -/
def tokenFree (s : State) (id : Nat) (hashedToken : String) : Bool :=
  s.resets.entries.all fun e => e.1 == id || !e.2.tokenLocks.contains hashedToken

/-- No other transaction holds the user's row. -/
def userFree (s : State) (id userId : Nat) : Bool :=
  s.resets.entries.all fun e => e.1 == id || e.2.userLock != some userId

/-- The open tokens of a user, as committed. -/
def openTokens (s : State) (userId : Nat) : List String :=
  (s.tokens.entries.filter fun e => e.2.userId == userId && e.2.usedAt.isNone).map Prod.fst

end State

/-- The statements of a reset before its commit, and the ways it can end without one. -/
inductive Statement
  | selectToken
  | lockToken
  | selectUser
  | updateTokens
  | updateToken (hashedToken : String)
  | flushUser
  | close
  | abort
  deriving DecidableEq

/-- `return None`. -/
def Reset.returnNone (tx : Reset) : Reset := { tx with phase := .returnedNone }

/-- The transaction is over and its locks are released. -/
def Reset.endAs (tx : Reset) (phase : Phase) : Reset :=
  { tx with phase := phase, tokenLocks := [], userLock := none }

/-- What a statement makes of a reset; `none` where it is not the next one or has to wait. -/
def Reset.next (s : State) (id : Nat) (tx : Reset) : Statement → Option Reset
  | .selectToken =>
      match tx.phase, s.tokens.get? tx.hashedToken with
      | .begun, some row =>
          if row.isOpen tx.now then some { tx with phase := .waiting } else some tx.returnNone
      | .begun, none => some tx.returnNone
      | _, _ => none
  | .lockToken =>
      match tx.phase, s.tokens.get? tx.hashedToken with
      | .waiting, some row =>
          if s.tokenFree id tx.hashedToken then
            let tx := { tx with tokenLocks := [tx.hashedToken] }
            if row.isOpen tx.now then some { tx with phase := .selected row.userId }
            else some tx.returnNone
          else none
      | .waiting, none => some tx.returnNone
      | _, _ => none
  | .selectUser =>
      match tx.phase with
      | .selected userId =>
          match s.users.get? userId with
          | some user =>
              if user.deletedAt.isNone && user.isActive then
                some { tx with phase := .checked userId }
              else some tx.returnNone
          | none => some tx.returnNone
      | _ => none
  | .updateTokens =>
      match tx.phase with
      | .checked userId => some { tx with phase := .updating userId (s.openTokens userId) [] }
      | _ => none
  | .updateToken hashedToken =>
      match tx.phase, s.tokens.get? hashedToken with
      | .updating userId todo written, some row =>
          if todo.contains hashedToken && s.tokenFree id hashedToken then
            let written := if row.userId == userId && row.usedAt.isNone then hashedToken :: written
              else written
            some { tx with
              phase := .updating userId (todo.erase hashedToken) written
              tokenLocks := hashedToken :: tx.tokenLocks }
          else none
      | _, _ => none
  | .flushUser =>
      match tx.phase with
      | .updating userId [] written =>
          if s.userFree id userId then
            some { tx with phase := .flushed userId written s.clock, userLock := some userId }
          else none
      | _ => none
  | .close => if tx.phase = .returnedNone then some (tx.endAs .failed) else none
  | .abort => if tx.phase.ended then none else some (tx.endAs .aborted)

/-- The tables after a commit: the password and `updated_at` of the user, and `used_at` of the
tokens that were written. -/
def State.commit (s : State) (id : Nat) (tx : Reset) (userId : Nat) (written : List String)
    (updatedAt : Int) : State :=
  { s with
    users := s.users.mapValues fun k user =>
      if k = userId then
        { user with hashedPassword := tx.newHashedPassword, updatedAt := updatedAt }
      else user
    tokens := s.tokens.mapValues fun k row =>
      if written.contains k then { row with usedAt := some tx.now } else row
    resets := s.resets.set id (tx.endAs .committed) }

/-- `validate_password_policy(password)`: the error message, `none` for a valid password. -/
def validatePasswordPolicy (password : String) : Option String :=
  let chars := password.toList
  if chars.length < 8 then some "Password must be at least 8 characters long."
  else if !chars.any Char.isUpper then some "Password must contain at least one uppercase letter."
  else if !chars.any Char.isLower then some "Password must contain at least one lowercase letter."
  else if !chars.any Char.isDigit then some "Password must contain at least one digit."
  else if !chars.any "!@#$%^&*()_+-=[]\x7b\x7d|;:,.<>?".toList.contains then
    some "Password must contain at least one special character."
  else none

/-- What the code takes from elsewhere. -/
structure Runtime where
  hashVerificationToken : String → String
  /-- `email.lower().strip()`. -/
  normalize : String → String
  passwordResetExpiryMinutes : Int

inductive Event
  /-- Time passes. -/
  | tick (elapsed : Nat)
  /-- `POST /request-reset` looks up the user. -/
  | request (id : Nat) (email : String)
  /-- It draws a token and takes the time. -/
  | compose (id : Nat) (rawToken : String)
  /-- It commits the token. -/
  | issue (id : Nat)
  /-- `POST /reset`; the hash of the password is salted. -/
  | reset (id : Nat) (token newPassword newHashedPassword : String)
  | statement (id : Nat) (statement : Statement)
  | commit (id : Nat)
  deriving DecidableEq

/-- `get_user_by_email(email)`. -/
def State.userByEmail (s : State) (email : String) : Option (Nat × UserRow) :=
  s.users.entries.find? fun e => e.2.email == email && e.2.deletedAt.isNone

/-- One event; `none` where it cannot happen. -/
def step (rt : Runtime) (s : State) : Event → Option State
  | .tick elapsed => some { s with clock := s.clock + elapsed }
  | .request id email =>
      match s.requests.get? id with
      | some _ => none
      | none =>
          match s.userByEmail (rt.normalize email) with
          | some (userId, user) =>
              if user.isActive then some { s with requests := s.requests.set id (.asked userId) }
              else some { s with requests := s.requests.set id .done }
          | none => some { s with requests := s.requests.set id .done }
  | .compose id rawToken =>
      match s.requests.get? id with
      | some (.asked userId) =>
          some { s with requests := s.requests.set id (.composed userId
            (rt.hashVerificationToken rawToken)
            (s.clock + rt.passwordResetExpiryMinutes * 60000000)) }
      | _ => none
  | .issue id =>
      match s.requests.get? id with
      | some (.composed userId hashedToken expiresAt) =>
          -- the unique index refuses a second token with the same hash
          if s.tokens.contains hashedToken then
            some { s with requests := s.requests.set id .done }
          else
            some { s with
              tokens := s.tokens.set hashedToken ⟨userId, expiresAt, none⟩
              requests := s.requests.set id .done }
      | _ => none
  | .reset id token newPassword newHashedPassword =>
      match s.resets.get? id, validatePasswordPolicy newPassword with
      | none, none =>
          some { s with resets := s.resets.set id ⟨rt.hashVerificationToken token,
            newHashedPassword, s.clock, .begun, [], none⟩ }
      | none, some _ =>
          -- 422, without a look at the database
          some { s with resets := s.resets.set id ⟨rt.hashVerificationToken token,
            newHashedPassword, s.clock, .failed, [], none⟩ }
      | some _, _ => none
  | .statement id statement =>
      match s.resets.get? id with
      | some tx =>
          match tx.next s id statement with
          | some tx => some { s with resets := s.resets.set id tx }
          | none => none
      | none => none
  | .commit id =>
      match s.resets.get? id with
      | some tx =>
          match tx.phase with
          | .flushed userId written updatedAt => some (s.commit id tx userId written updatedAt)
          | _ => none
      | none => none

/-- A run of events. -/
def run (rt : Runtime) (s : State) (events : List Event) : Option State :=
  events.foldlM (step rt) s

end PasswordReset

end GaiaOS
