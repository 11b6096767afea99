/-
What the tables of accounts and keys are like, in every run.

`Effect` says what an event can do, `Wrote` what a commit can and `Asked` what the reads of a
call can come to; every invariant is derived from the three.

A row only moves forward (`Later`): its email stays, what has been granted to it stays granted,
and a deletion is final.  The object a call has loaded is a version of the row from before
(`Loaded`), and since a flush writes only what the call has changed, a commit that has been
overtaken by others takes nothing back from them.
-/
import GaiaOS.Auth.Accounts
import GaiaOS.Lib.Machine
import GaiaOS.Proofs.Confidentiality

namespace GaiaOS

namespace Accounts

open Auth InvestigationsApi

variable {lib : Library} {s s' : State}

/-! ### What a commit can do -/

/-- The writes that go through. -/
inductive Wrote (s : State) : Write → State → Prop
  | insertUser {origin : Origin} {userId : Uuid} {account : Account}
      (hid : s.users.get? userId = none)
      (hemail : ∀ u a, s.users.get? u = some a → a.email ≠ account.email) :
      Wrote s (.insertUser origin userId account)
        { s with users := s.users.set userId account }
  | updateUser {userId : Uuid} {loaded current : Account} {change : Change}
      (hcurrent : s.users.get? userId = some current) :
      Wrote s (.updateUser userId loaded change)
        { s with users := s.users.set userId (loaded.flush (change.apply loaded) current) }
  | skipped {userId : Uuid} {loaded : Account} {now : Int} :
      Wrote s (.updateUser userId loaded (.updateLastLogin now)) s
  | insertKey {keyId key : String} {row : KeyRow} (hnew : s.apiKeys.get? keyId = none) :
      Wrote s (.insertKey keyId key row) { s with apiKeys := s.apiKeys.set keyId row }
  | revokeKey {keyId : String} {revokedAt : Int} {row : KeyRow}
      (hrow : s.apiKeys.get? keyId = some row) :
      Wrote s (.revokeKey keyId revokedAt)
        { s with apiKeys := s.apiKeys.set keyId (row.revoke revokedAt) }

theorem write_wrote {write : Write} (h : s.write write = some s') : Wrote s write s' := by
  cases write with
  | insertUser origin userId account =>
      simp only [State.write] at h
      split at h
      · cases h
      · rename_i hfree
        simp only [Bool.or_eq_true, not_or, Bool.not_eq_true] at hfree
        cases h
        refine .insertUser (by simpa [Dict.contains] using hfree.1) fun u a hget hsame => ?_
        have hany := List.any_eq_false.mp hfree.2 (u, a) ((s.users.mem_entries_iff).mpr hget)
        exact hany (by simpa using hsame)
  | updateUser userId loaded change =>
      simp only [State.write] at h
      split at h
      · cases h
      · rename_i current hcurrent
        split at h
        · rename_i hskips
          cases h
          cases change with
          | updateLastLogin now => exact .skipped
          | updateVerificationToken => cases hskips
          | verifyUserEmail => cases hskips
          | softDeleteUser => cases hskips
          | promote => cases hskips
        · cases h
          exact .updateUser hcurrent
  | insertKey keyId key row =>
      simp only [State.write] at h
      split at h
      · cases h
      · rename_i hfree
        cases h
        exact .insertKey (by simpa [Dict.contains] using hfree)
  | revokeKey keyId revokedAt =>
      simp only [State.write] at h
      split at h
      · cases h
      · rename_i row hrow
        cases h
        exact .revokeKey hrow

theorem Wrote.calls {write : Write} (h : Wrote s write s') : s'.calls = s.calls := by
  cases h <;> rfl

theorem Wrote.clock {write : Write} (h : Wrote s write s') : s'.clock = s.clock := by
  cases h <;> rfl

/-! ### What an event can do -/

inductive Effect (lib : Library) (s : State) : Event → State → Prop
  | ticked {elapsed : Nat} : Effect lib s (.tick elapsed) { s with clock := s.clock + elapsed }
  | asked {id : Nat} {ask : Ask} (hnew : s.calls.get? id = none) :
      Effect lib s (.ask id ask) { s with calls := s.calls.set id (s.ask lib ask) }
  | drew {id : Nat} {drawn : Drawn} {caller : Option Uuid} {plan : Plan}
      (hget : s.calls.get? id = some ⟨caller, .drawing plan⟩) :
      Effect lib s (.draw id drawn)
        (s.move id caller (.writing (plan.draw lib s.clock drawn)))
  | committed {id : Nat} {caller : Option Uuid} {write : Write} {s' : State}
      (hget : s.calls.get? id = some ⟨caller, .writing write⟩) (hwrote : Wrote s write s') :
      Effect lib s (.commit id) (s'.move id caller (.answered (write.onSuccess lib s.clock)))
  | gaveUp {e : Event} {id : Nat} {caller : Option Uuid} {write : Write}
      (hget : s.calls.get? id = some ⟨caller, .writing write⟩) :
      Effect lib s e (s.move id caller (.answered (write.onFailure lib s.clock)))
  | aborted {id : Nat} {caller : Option Uuid} {plan : Plan}
      (hget : s.calls.get? id = some ⟨caller, .drawing plan⟩) :
      Effect lib s (.abort id) (s.move id caller (.answered .failed))
  | reset {userId : Uuid} {newPassword salt : String} {account : Account}
      (hpolicy : PasswordReset.validatePasswordPolicy newPassword = none)
      (hget : s.users.get? userId = some account) :
      Effect lib s (.resetPassword userId newPassword salt) { s with
        users := s.users.set userId
          { account with hashedPassword := lib.hashPassword salt newPassword } }

theorem step_effect {e : Event} (h : step lib s e = some s') : Effect lib s e s' := by
  cases e with
  | tick elapsed =>
      cases h
      exact .ticked
  | ask id ask =>
      simp only [step] at h
      split at h
      · cases h
      · rename_i hnew
        cases h
        exact .asked (by simpa [Dict.contains] using hnew)
  | draw id drawn =>
      simp only [step] at h
      split at h
      · rename_i caller plan hget
        cases h
        exact .drew hget
      · cases h
  | commit id =>
      simp only [step] at h
      split at h
      · rename_i caller write hget
        split at h
        · rename_i s₁ hwrite
          cases h
          exact .committed hget (write_wrote hwrite)
        · cases h
          exact .gaveUp hget
      · cases h
  | abort id =>
      simp only [step] at h
      split at h
      · rename_i caller plan hget
        cases h
        exact .aborted hget
      · rename_i caller write hget
        cases h
        exact .gaveUp hget
      · cases h
  | resetPassword userId newPassword salt =>
      simp only [step] at h
      split at h
      · rename_i account hpolicy hget
        cases h
        exact .reset hpolicy hget
      · cases h

/-! ### Rows -/

/-- What every row is like: an account is active exactly if it is not deleted, an administrator
is verified, and the password obeys the policy. -/
structure Sound (lib : Library) (a : Account) : Prop where
  email : ∃ email, a.email = normalize lib email
  password : ∃ salt password, PasswordReset.validatePasswordPolicy password = none ∧
    a.hashedPassword = lib.hashPassword salt password
  role : a.role = Role.user.value ∨ a.role = Role.admin.value
  active : a.isActive = a.deletedAt.isNone
  verified : a.role = Role.admin.value → a.isVerified = true

/-- `b` is the same account later on. -/
structure Later (a b : Account) : Prop where
  email : b.email = a.email
  admin : a.role = Role.admin.value → b.role = Role.admin.value
  verified : a.isVerified = true → b.isVerified = true
  deleted : a.deletedAt.isSome = true → b.deletedAt.isSome = true

theorem Later.refl (a : Account) : Later a a := ⟨rfl, id, id, id⟩

theorem Later.trans {a b c : Account} (h : Later a b) (h' : Later b c) : Later a c where
  email := h'.email.trans h.email
  admin hadmin := h'.admin (h.admin hadmin)
  verified hverified := h'.verified (h.verified hverified)
  deleted hdeleted := h'.deleted (h.deleted hdeleted)

theorem writeColumn_self {α : Type} [DecidableEq α] (loaded current : α) :
    writeColumn loaded loaded current = current := if_pos rfl

/-- A column that is only ever set to one value keeps that value. -/
theorem writeColumn_of_eq {α : Type} [DecidableEq α] {loaded new current : α}
    (h : current = new) : writeColumn loaded new current = new := by
  unfold writeColumn
  split
  · exact h
  · rfl

theorem writeColumn_cases {α : Type} [DecidableEq α] (loaded new current : α) :
    (new = loaded ∧ writeColumn loaded new current = current) ∨
      (new ≠ loaded ∧ writeColumn loaded new current = new) := by
  by_cases h : new = loaded
  · exact Or.inl ⟨h, if_pos h⟩
  · exact Or.inr ⟨h, if_neg h⟩

theorem flush_later (loaded current : Account) (change : Change) :
    Later current (loaded.flush (change.apply loaded) current) where
  email := by cases change <;> exact writeColumn_self _ _
  admin hadmin := by
    cases change with
    | promote => exact writeColumn_of_eq hadmin
    | _ => exact (writeColumn_self _ _).trans hadmin
  verified hverified := by
    cases change with
    | promote => exact writeColumn_of_eq hverified
    | verifyUserEmail => exact writeColumn_of_eq hverified
    | _ => exact (writeColumn_self _ _).trans hverified
  deleted hdeleted := by
    cases change with
    | softDeleteUser now =>
        simp only [Account.flush, Change.apply]
        rcases writeColumn_cases loaded.deletedAt (some now) current.deletedAt with
          ⟨-, hsame⟩ | ⟨-, hwritten⟩
        · rwa [hsame]
        · rw [hwritten]
          rfl
    | _ =>
        simp only [Account.flush, Change.apply, writeColumn_self]
        exact hdeleted

/-- What a change sets that the policy has a say in. -/
def Change.Proper (lib : Library) : Change → Prop
  | .promote hashedPassword _ => ∃ salt password,
      PasswordReset.validatePasswordPolicy password = none ∧
        hashedPassword = lib.hashPassword salt password
  | _ => True

/-- A commit keeps a row sound if it was sound, and not deleted, when it was loaded. -/
theorem flush_sound {loaded current : Account} {change : Change} (hloaded : Sound lib loaded)
    (hopen : loaded.deletedAt = none) (hcurrent : Sound lib current)
    (hlater : Later loaded current) (hproper : change.Proper lib) :
    Sound lib (loaded.flush (change.apply loaded) current) where
  email := by
    obtain ⟨email, hemail⟩ := hcurrent.email
    exact ⟨email, (flush_later loaded current change).email.trans hemail⟩
  password := by
    cases change with
    | promote hashedPassword fullName =>
        simp only [Account.flush, Change.apply]
        rcases writeColumn_cases loaded.hashedPassword hashedPassword current.hashedPassword with
          ⟨-, hsame⟩ | ⟨-, hwritten⟩
        · rw [hsame]
          exact hcurrent.password
        · rw [hwritten]
          exact hproper
    | _ =>
        simp only [Account.flush, Change.apply, writeColumn_self]
        exact hcurrent.password
  role := by
    cases change with
    | promote hashedPassword fullName =>
        simp only [Account.flush, Change.apply]
        rcases writeColumn_cases loaded.role Role.admin.value current.role with
          ⟨-, hsame⟩ | ⟨-, hwritten⟩
        · rw [hsame]
          exact hcurrent.role
        · exact Or.inr hwritten
    | _ =>
        simp only [Account.flush, Change.apply, writeColumn_self]
        exact hcurrent.role
  active := by
    have hactive : loaded.isActive = true := by
      rw [hloaded.active, hopen]
      rfl
    cases change with
    | softDeleteUser now =>
        -- both columns change, so both are written
        simp [Account.flush, Change.apply, writeColumn, hactive, hopen]
    | promote hashedPassword fullName =>
        -- `is_active` is as it was loaded, so a deletion in between is not undone
        simp only [Account.flush, Change.apply, hactive, writeColumn_self]
        exact hcurrent.active
    | _ =>
        simp only [Account.flush, Change.apply, writeColumn_self]
        exact hcurrent.active
  verified := by
    intro hadmin
    cases change with
    | promote hashedPassword fullName =>
        simp only [Account.flush, Change.apply]
        rcases writeColumn_cases loaded.isVerified true current.isVerified with
          ⟨hverified, hsame⟩ | ⟨-, hwritten⟩
        · rw [hsame]
          exact hlater.verified hverified.symm
        · exact hwritten
    | _ =>
        simp only [Account.flush, Change.apply, writeColumn_self] at hadmin
        exact (flush_later loaded current _).verified (hcurrent.verified hadmin)

/-! ### What is known of a call -/

/-- Every account is still there, as a later version of itself. -/
def Onward (s s' : State) : Prop :=
  ∀ u a, s.users.get? u = some a → ∃ b, s'.users.get? u = some b ∧ Later a b

theorem Onward.of_users (h : s'.users = s.users) : Onward s s' :=
  fun u a hget => ⟨a, by rw [h, hget], Later.refl a⟩

theorem Onward.trans {s'' : State} (h : Onward s s') (h' : Onward s' s'') : Onward s s'' := by
  intro u a hget
  obtain ⟨b, hb, hlater⟩ := h u a hget
  obtain ⟨c, hc, hlater'⟩ := h' u b hb
  exact ⟨c, hc, hlater.trans hlater'⟩

/-- What a call has loaded of an account that was not deleted then. -/
structure Loaded (lib : Library) (s : State) (u : Uuid) (loaded : Account) : Prop where
  sound : Sound lib loaded
  undeleted : loaded.deletedAt = none
  row : ∃ current, s.users.get? u = some current ∧ Later loaded current

/-- The account of an administrator. -/
def IsAdmin (s : State) (u : Uuid) : Prop :=
  ∃ a, s.users.get? u = some a ∧ a.role = Role.admin.value

theorem Loaded.onward {u : Uuid} {loaded : Account} (h : Loaded lib s u loaded)
    (hon : Onward s s') : Loaded lib s' u loaded := by
  obtain ⟨current, hcurrent, hlater⟩ := h.row
  obtain ⟨b, hb, hlater'⟩ := hon u current hcurrent
  exact ⟨h.sound, h.undeleted, b, hb, hlater.trans hlater'⟩

theorem IsAdmin.onward {u : Uuid} (h : IsAdmin s u) (hon : Onward s s') : IsAdmin s' u := by
  obtain ⟨a, hget, hadmin⟩ := h
  obtain ⟨b, hb, hlater⟩ := hon u a hget
  exact ⟨b, hb, hlater.admin hadmin⟩

/-- What has been checked by the time a call stands where it stands. -/
def PhaseOk (lib : Library) (s : State) : Phase → Prop
  | .drawing (.register _ password _) => PasswordReset.validatePasswordPolicy password = none
  | .drawing (.resendVerification userId loaded) => Loaded lib s userId loaded
  | .drawing (.createAdmin _ password _) => PasswordReset.validatePasswordPolicy password = none
  | .drawing (.promote userId loaded password _) =>
      Loaded lib s userId loaded ∧ PasswordReset.validatePasswordPolicy password = none
  | .drawing (.createApiKey ownerId _) => IsAdmin s ownerId
  | .writing (.insertUser _ _ account) => Sound lib account
  | .writing (.updateUser userId loaded change) =>
      Loaded lib s userId loaded ∧ change.Proper lib
  | .writing (.insertKey _ _ row) => IsAdmin s row.ownerId
  | .writing (.revokeKey _ _) => True
  | .answered _ => True

theorem PhaseOk.onward {phase : Phase} (h : PhaseOk lib s phase) (hon : Onward s s') :
    PhaseOk lib s' phase := by
  cases phase with
  | drawing plan =>
      cases plan with
      | register => exact h
      | resendVerification => exact Loaded.onward h hon
      | createAdmin => exact h
      | promote => exact ⟨Loaded.onward h.1 hon, h.2⟩
      | createApiKey => exact IsAdmin.onward h hon
  | writing write =>
      cases write with
      | insertUser => exact h
      | updateUser => exact ⟨Loaded.onward h.1 hon, h.2⟩
      | insertKey => exact IsAdmin.onward h hon
      | revokeKey => exact h
  | answered answer => exact h

/-! ### Reads -/

theorem scalarOneOrNone_some {α : Type} {rows : List α} {row : α}
    (h : scalarOneOrNone rows = .ok (some row)) : row ∈ rows := by
  cases rows with
  | nil => cases h
  | cons first rest =>
      cases rest with
      | nil =>
          cases h
          exact List.mem_cons_self
      | cons second rest => cases h

theorem getUserByEmail_some {email : String} {u : Uuid} {a : Account}
    (h : s.getUserByEmail lib email = .ok (some (u, a))) :
    s.users.get? u = some a ∧ a.email = normalize lib email ∧ a.deletedAt = none := by
  have hmem := List.mem_filter.mp (scalarOneOrNone_some h)
  exact ⟨s.users.mem_entries_iff.mp hmem.1, by simpa using hmem.2⟩

theorem getUserByHashedVerificationToken_some {hashedToken : String} {u : Uuid} {a : Account}
    (h : s.getUserByHashedVerificationToken hashedToken = .ok (some (u, a))) :
    s.users.get? u = some a ∧ a.hashedVerificationToken = some hashedToken ∧
      a.deletedAt = none := by
  have hmem := List.mem_filter.mp (scalarOneOrNone_some h)
  exact ⟨s.users.mem_entries_iff.mp hmem.1, by simpa using hmem.2⟩

theorem getUserById_some {u : Uuid} {a : Account} (h : s.getUserById u = some a) :
    s.users.get? u = some a ∧ a.deletedAt = none := by
  simpa [State.getUserById, Option.filter_eq_some_iff] using h

theorem tokenUser_ok {env : AuthEnv} {sub : Option String} {user : User}
    (h : tokenUser env sub = .ok user) :
    ∃ userId, env.users userId = some user ∧ user.deletedAt = none ∧ user.isActive = true := by
  unfold tokenUser at h
  split at h
  · cases h
  · split at h
    · cases h
    · rename_i userId _
      split at h
      · split at h
        · cases h
        · rename_i found hfound
          split at h
          · cases h
          · rename_i hactive
            split at h
            · cases h
            · cases h
              have hrow := Option.filter_eq_some_iff.mp hfound
              exact ⟨userId, hrow.1, by simpa using hrow.2, by simpa using hactive⟩
      · cases h

/-- Whoever the chain attaches is an account that is there, active and not deleted. -/
theorem authenticated_row {request : Request} {user : User}
    (h : Authenticated (s.authEnv lib) request user) :
    ∃ a, s.users.get? user.id = some a ∧ user = a.user user.id ∧ a.deletedAt = none ∧
      a.isActive = true := by
  have hrow : ∃ userId, (s.authEnv lib).users userId = some user ∧ user.deletedAt = none ∧
      user.isActive = true := by
    rcases h with ⟨rawKey, -, key, -, -, huser, husable⟩ | ⟨-, token, -, -, hbearer⟩
    · exact ⟨key.ownerId, huser, husable⟩
    · unfold bearerUser at hbearer
      split at hbearer
      · cases hbearer
      · cases hbearer
      · cases hbearer
      · exact tokenUser_ok hbearer
  obtain ⟨userId, huser, hdeleted, hactive⟩ := hrow
  obtain ⟨a, ha, hsame⟩ := Option.map_eq_some_iff.mp huser
  subst hsame
  exact ⟨a, ha, rfl, hdeleted, hactive⟩

theorem getCurrentUser_ok {state : RequestState} {user : User}
    (h : getCurrentUser state = .ok user) : state.user = some user := by
  unfold getCurrentUser at h
  split at h
  · cases h
  · cases h
  · rename_i huser
    cases h
    exact huser

theorem getCurrentActiveUser_ok {state : RequestState} {user : User}
    (h : getCurrentActiveUser state = .ok user) : state.user = some user := by
  unfold getCurrentActiveUser at h
  split at h
  · cases h
  · rename_i found hfound
    split at h
    · cases h
    · split at h
      · cases h
      · cases h
        exact getCurrentUser_ok hfound

theorem requireRole_ok {allowedRoles : List Role} {state : RequestState} {user : User}
    (h : requireRole allowedRoles state = .ok user) :
    state.user = some user ∧
      (user.role = Role.admin.value ∨ user.role ∈ allowedRoles.map Role.value) := by
  unfold requireRole at h
  split at h
  · cases h
  · rename_i found hfound
    split at h
    · rename_i hrole
      cases h
      exact ⟨getCurrentActiveUser_ok hfound, hrole⟩
    · cases h

theorem authenticated_ok {request : Request} {dependency : RequestState → Except Answer User}
    {user : User} (h : authenticated lib s request dependency = .ok user) :
    ∃ state, runChain (s.authEnv lib) request authChain {} = .ok state ∧
      dependency state = .ok user := by
  unfold authenticated at h
  split at h
  · cases h
  · cases h
  · rename_i state hchain
    exact ⟨state, hchain, h⟩

/-! ### The invariant -/

structure Inv (lib : Library) (s : State) : Prop where
  sound : ∀ u a, s.users.get? u = some a → Sound lib a
  emails : ∀ u v a b, s.users.get? u = some a → s.users.get? v = some b → a.email = b.email → u = v
  owners : ∀ k row, s.apiKeys.get? k = some row → IsAdmin s row.ownerId
  calls : ∀ id call, s.calls.get? id = some call → PhaseOk lib s call.phase

theorem inv_empty : Inv lib .empty where
  sound _ _ h := by cases h
  emails _ _ _ _ h := by cases h
  owners _ _ h := by cases h
  calls _ _ h := by cases h

theorem Inv.loaded (h : Inv lib s) {u : Uuid} {a : Account} (hget : s.users.get? u = some a)
    (hundeleted : a.deletedAt = none) : Loaded lib s u a :=
  ⟨h.sound u a hget, hundeleted, a, hget, Later.refl a⟩

/-- The reads of a call check what they should. -/
theorem ask_ok (h : Inv lib s) (ask : Ask) : PhaseOk lib s (s.ask lib ask).phase := by
  cases ask with
  | register email password fullName =>
      simp only [State.ask, State.register]
      split
      · trivial
      · rename_i hpolicy
        split
        · trivial
        · trivial
        · exact hpolicy
  | login email password =>
      simp only [State.ask, State.login]
      split
      · trivial
      · trivial
      · rename_i userId user hfound
        obtain ⟨hget, -, hundeleted⟩ := getUserByEmail_some hfound
        split
        · trivial
        · split
          · trivial
          · split
            · trivial
            · exact ⟨h.loaded hget hundeleted, trivial⟩
  | verifyEmail token =>
      simp only [State.ask, State.verifyEmail]
      split
      · trivial
      · trivial
      · rename_i userId user hfound
        obtain ⟨hget, -, hundeleted⟩ := getUserByHashedVerificationToken_some hfound
        split
        · trivial
        · split
          · trivial
          · exact ⟨h.loaded hget hundeleted, trivial⟩
  | resendVerification email =>
      simp only [State.ask, State.resendVerification]
      split
      · trivial
      · trivial
      · rename_i userId user hfound
        obtain ⟨hget, -, hundeleted⟩ := getUserByEmail_some hfound
        split
        · exact h.loaded hget hundeleted
        · trivial
  | createAdmin email password fullName =>
      simp only [State.ask, State.createAdmin]
      split
      · trivial
      · rename_i hpolicy
        split
        · trivial
        · rename_i userId user hfound
          obtain ⟨hget, -, hundeleted⟩ := getUserByEmail_some hfound
          exact ⟨h.loaded hget hundeleted, hpolicy⟩
        · exact hpolicy
  | softDeleteUser userId =>
      simp only [State.ask, State.softDeleteUser]
      split
      · trivial
      · rename_i user hfound
        obtain ⟨hget, hundeleted⟩ := getUserById_some hfound
        exact ⟨h.loaded hget hundeleted, trivial⟩
  | createApiKey request name =>
      simp only [State.ask, State.forUser]
      split
      · trivial
      · rename_i user hfound
        obtain ⟨state, hchain, hdependency⟩ := authenticated_ok hfound
        obtain ⟨hstate, hrole⟩ := requireRole_ok hdependency
        obtain ⟨a, hget, hsame, -⟩ :=
          authenticated_row ((runChain_user user).mp ⟨state, hchain, hstate⟩)
        -- nobody is a researcher, so the caller can only be an administrator
        have hrow : a.role = user.role := by rw [hsame]; rfl
        rcases (h.sound _ _ hget).role with huser | hadmin
        · rw [← hrow, huser] at hrole
          exact absurd hrole (by decide)
        · exact ⟨a, hget, hadmin⟩
  | revokeApiKey request keyId =>
      simp only [State.ask, State.forUser]
      split
      · trivial
      · simp only [State.revokeApiKey]
        split
        · trivial
        · split
          · trivial
          · split <;> trivial

theorem draw_ok {plan : Plan} (h : PhaseOk lib s (.drawing plan)) (now : Int) (drawn : Drawn) :
    PhaseOk lib s (.writing (plan.draw lib now drawn)) := by
  cases plan with
  | register email password fullName =>
      exact ⟨⟨email, rfl⟩, ⟨drawn.salt, password, h, rfl⟩, Or.inl rfl, rfl, fun hadmin =>
        absurd (show Role.user.value = Role.admin.value from hadmin) (by decide)⟩
  | resendVerification userId loaded => exact ⟨h, trivial⟩
  | createAdmin email password fullName =>
      exact ⟨⟨email, rfl⟩, ⟨drawn.salt, password, h, rfl⟩, Or.inr rfl, rfl, fun _ => rfl⟩
  | promote userId loaded password fullName => exact ⟨h.1, drawn.salt, password, h.2, rfl⟩
  | createApiKey ownerId name => exact h

/-! ### Every step moves forward -/

theorem onward_set {u : Uuid} {a b : Account} {users : Dict Uuid Account}
    (husers : s'.users = users.set u b) (hsame : users = s.users)
    (hget : s.users.get? u = some a) (hlater : Later a b) : Onward s s' := by
  intro v c hc
  rw [husers, hsame, Dict.get?_set]
  by_cases huv : u = v
  · subst huv
    rw [hget] at hc
    cases hc
    exact ⟨b, if_pos rfl, hlater⟩
  · exact ⟨c, by rw [if_neg huv, hc], Later.refl c⟩

theorem Wrote.onward {write : Write} (h : Wrote s write s') : Onward s s' := by
  cases h with
  | insertUser hid hemail =>
      intro v c hc
      refine ⟨c, ?_, Later.refl c⟩
      rw [Dict.get?_set, if_neg, hc]
      rintro rfl
      rw [hid] at hc
      cases hc
  | updateUser hcurrent => exact onward_set rfl rfl hcurrent (flush_later _ _ _)
  | skipped => exact .of_users rfl
  | insertKey => exact .of_users rfl
  | revokeKey => exact .of_users rfl

theorem Effect.onward {e : Event} (h : Effect lib s e s') : Onward s s' := by
  cases h with
  | committed _ hwrote => exact fun u a hget => hwrote.onward u a hget
  | reset _ hget => exact onward_set rfl rfl hget ⟨rfl, id, id, id⟩
  | _ => exact .of_users rfl

/-! ### Every step keeps the invariant -/

/-- Emails stay apart when a row changes and keeps its own. -/
theorem emails_set (h : Inv lib s) {userId : Uuid} {current new : Account}
    (hcurrent : s.users.get? userId = some current) (hemail : new.email = current.email)
    (u v : Uuid) (a b : Account) (hu : (s.users.set userId new).get? u = some a)
    (hv : (s.users.set userId new).get? v = some b) (hsame : a.email = b.email) : u = v := by
  have hrow : ∀ w c, (s.users.set userId new).get? w = some c →
      ∃ d, s.users.get? w = some d ∧ c.email = d.email := by
    intro w c hget
    rw [Dict.get?_set] at hget
    split at hget
    · rename_i heq
      cases hget
      exact ⟨current, by rw [← heq, hcurrent], hemail⟩
    · exact ⟨c, hget, rfl⟩
  obtain ⟨a', ha', hea⟩ := hrow u a hu
  obtain ⟨b', hb', heb⟩ := hrow v b hv
  exact h.emails u v a' b' ha' hb' (by rw [← hea, hsame, heb])

theorem Wrote.inv {write : Write} (hwrote : Wrote s write s') (h : Inv lib s)
    (hphase : PhaseOk lib s (.writing write)) : Inv lib s' := by
  have hon := hwrote.onward
  cases hwrote with
  | @insertUser origin userId account hid hemail =>
      refine ⟨?_, ?_, fun k row hrow => (h.owners k row hrow).onward hon, fun id call hcall =>
        (h.calls id call hcall).onward hon⟩
      · intro u a hget
        rw [Dict.get?_set] at hget
        split at hget
        · cases hget
          exact hphase
        · exact h.sound u a hget
      · intro u v a b hu hv hsame
        rw [Dict.get?_set] at hu hv
        split at hu
        · rename_i hnew
          cases hu
          split at hv
          · rename_i hnew'
            exact hnew.symm.trans hnew'
          · exact absurd hsame.symm (hemail v b hv)
        · split at hv
          · cases hv
            exact absurd hsame (hemail u a hu)
          · exact h.emails u v a b hu hv hsame
  | @updateUser userId loaded current change hcurrent =>
      have hlater := flush_later loaded current change
      obtain ⟨hloaded, hproper⟩ := hphase
      obtain ⟨row, hrow, hsince⟩ := hloaded.row
      rw [hcurrent] at hrow
      cases hrow
      refine ⟨?_, ?_, fun k row hrow => (h.owners k row hrow).onward hon, fun id call hcall =>
        (h.calls id call hcall).onward hon⟩
      · intro u a hget
        rw [Dict.get?_set] at hget
        split at hget
        · cases hget
          exact flush_sound hloaded.sound hloaded.undeleted (h.sound userId current hcurrent)
            hsince hproper
        · exact h.sound u a hget
      · exact emails_set h hcurrent hlater.email
  | skipped => exact h
  | insertKey hnew =>
      refine ⟨h.sound, h.emails, ?_, fun id call hcall => (h.calls id call hcall).onward hon⟩
      intro k row hrow
      rw [Dict.get?_set] at hrow
      split at hrow
      · cases hrow
        exact hphase
      · exact h.owners k row hrow
  | @revokeKey keyId revokedAt row hget =>
      refine ⟨h.sound, h.emails, ?_, fun id call hcall => (h.calls id call hcall).onward hon⟩
      intro k row' hrow
      rw [Dict.get?_set] at hrow
      split at hrow
      · cases hrow
        exact h.owners keyId row hget
      · exact h.owners k row' hrow

theorem Inv.move (h : Inv lib s) {id : Nat} {caller : Option Uuid} {phase : Phase}
    (hphase : PhaseOk lib s phase) : Inv lib (s.move id caller phase) := by
  refine ⟨h.sound, h.emails, h.owners, fun id' call hcall => ?_⟩
  simp only [State.move] at hcall
  rw [Dict.get?_set] at hcall
  split at hcall
  · cases hcall
    exact hphase.onward (.of_users rfl)
  · exact (h.calls id' call hcall).onward (.of_users rfl)

theorem Effect.inv {e : Event} (heffect : Effect lib s e s') (h : Inv lib s) : Inv lib s' := by
  have hon := heffect.onward
  cases heffect with
  | ticked =>
      exact ⟨h.sound, h.emails, h.owners, fun id call hcall => (h.calls id call hcall).onward hon⟩
  | @asked id ask hnew => exact h.move (ask_ok h ask)
  | drew hget => exact h.move (draw_ok (h.calls _ _ hget) _ _)
  | committed hget hwrote => exact (hwrote.inv h (h.calls _ _ hget)).move trivial
  | gaveUp hget => exact h.move trivial
  | aborted hget => exact h.move trivial
  | @reset userId newPassword salt account hpolicy hget =>
      have hold := h.sound userId account hget
      refine ⟨?_, ?_, fun k row hrow => (h.owners k row hrow).onward hon, fun id call hcall =>
        (h.calls id call hcall).onward hon⟩
      · intro u a hu
        rw [Dict.get?_set] at hu
        split at hu
        · cases hu
          exact ⟨hold.email, ⟨salt, newPassword, hpolicy, rfl⟩, hold.role, hold.active,
            hold.verified⟩
        · exact h.sound u a hu
      · exact emails_set h hget rfl

/-- What a run comes to, from a state on. -/
abbrev Runs (lib : Library) (s : State) (events : List Event) (s' : State) : Prop :=
  Reaches (step lib) (fun _ _ => True) s events s'

theorem inv_of_runs {events : List Event} (h : Runs lib .empty events s) : Inv lib s :=
  h.invariant inv_empty fun _ _ _ hinv _ hstep => (step_effect hstep).inv hinv

theorem runs_of_foldlM {events : List Event} (h : events.foldlM (step lib) s = some s') :
    Runs lib s events s' :=
  Reaches.of_foldlM (fun _ _ => trivial) h

/-- A run that ends in a state with a property. -/
theorem exists_runs {events : List Event} {P : State → Bool}
    (h : (events.foldlM (step lib) .empty).any P = true) :
    ∃ s, Runs lib .empty events s ∧ P s = true := by
  obtain ⟨s, hs, hP⟩ := (Option.any_eq_true _ _).mp h
  exact ⟨s, runs_of_foldlM hs, hP⟩

/-- A library for evaluation: texts stand for their own hashes, and no token is accepted. -/
def sampleLibrary : Library where
  rt := Runtime.reference
  sha256Hex text := text
  hashPassword salt password := salt ++ password
  verifyPassword password hashedPassword := hashedPassword.endsWith password
  decodeAccessToken _ _ := .error .expired
  jwtSecretKey := "secret"
  jwtExpiryMinutes := 60
  prometheusMetricsToken := none

def sampleUserId : Uuid := ⟨"00000000-0000-4000-8000-0000000000a1", by decide⟩

end Accounts

end GaiaOS
