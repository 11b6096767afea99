/-
From the registration of an account to its deletion, under every interleaving of calls.

A deletion is final: nothing is done in the name of a deleted account again, and its email stays
taken (`gone_of_runs`).  Of all the calls that register an email one at most is told that it has
succeeded (`registered_once`).  An account that is verified and not an administrator's had one of
its links opened within a day of a link being drawn for it (`verified_of_runs`).  The day counts
from the last draw and not from that of the link opened: the two columns of a token are written
one by one, and two draws in the same microsecond can leave the hash of one next to the expiry of
the other.
-/
import GaiaOS.Proofs.Accounts

namespace GaiaOS

namespace Accounts

open Auth InvestigationsApi

variable {lib : Library} {s s' : State}

/-! ### Deletion -/

/-- An answer that hands out nothing. -/
def Answer.plain : Answer → Bool
  | .registered _ | .token _ _ | .keyCreated _ _ _ _ => false
  | _ => true

/-- What a route answers a request it does not take. -/
def Answer.refusal : Answer → Bool
  | .raised _ | .rejectedKey _ _ | .failed => true
  | _ => false

theorem Answer.plain_of_refusal {a : Answer} (h : a.refusal = true) : a.plain = true := by
  cases a with
  | registered => cases h
  | token => cases h
  | keyCreated => cases h
  | _ => rfl

theorem getCurrentActiveUser_error {state : RequestState} {a : Answer}
    (h : getCurrentActiveUser state = .error a) : a.refusal = true := by
  unfold getCurrentActiveUser getCurrentUser at h
  split at h
  · rename_i refusal hrefusal
    cases h
    split at hrefusal
    · cases hrefusal
      rfl
    · cases hrefusal
      rfl
    · cases hrefusal
  · split at h
    · cases h
      rfl
    · split at h
      · cases h
        rfl
      · cases h

theorem requireRole_error {allowedRoles : List Role} {state : RequestState} {a : Answer}
    (h : requireRole allowedRoles state = .error a) : a.refusal = true := by
  unfold requireRole at h
  split at h
  · rename_i hrefusal
    cases h
    exact getCurrentActiveUser_error hrefusal
  · split at h
    · cases h
    · cases h
      rfl

theorem forUser_answered {request : Request} {dependency : RequestState → Except Answer User}
    {route : User → Phase} {a : Answer}
    (hdependency : ∀ state a, dependency state = .error a → a.refusal = true)
    (h : (s.forUser lib request dependency route).phase = .answered a) :
    a.refusal = true ∨ ∃ user, route user = .answered a := by
  unfold State.forUser at h
  split at h
  · rename_i refusal hrefusal
    cases h
    unfold authenticated at hrefusal
    split at hrefusal
    · cases hrefusal
      exact Or.inl rfl
    · cases hrefusal
      exact Or.inl rfl
    · exact Or.inl (hdependency _ _ hrefusal)
  · exact Or.inr ⟨_, h⟩

theorem revokeApiKey_answered {user : User} {keyId : String} {a : Answer}
    (h : s.revokeApiKey user keyId = .answered a) :
    a.refusal = true ∨
      (a = .keyRevoked keyId ∧ ∃ row, s.apiKeys.get? keyId = some row ∧ row.isRevoked = true) := by
  unfold State.revokeApiKey at h
  split at h
  · cases h
    exact Or.inl rfl
  · rename_i row hrow
    split at h
    · cases h
      exact Or.inl rfl
    · split at h
      · rename_i hrevoked
        cases h
        exact Or.inr ⟨rfl, row, hrow, hrevoked⟩
      · cases h

theorem ask_answered {ask : Ask} {a : Answer} (h : (s.ask lib ask).phase = .answered a) :
    a.plain = true := by
  cases ask with
  | register email password fullName =>
      simp only [State.ask, State.register] at h
      repeat' split at h
      all_goals first | cases h; rfl | cases h
  | login email password =>
      simp only [State.ask, State.login] at h
      repeat' split at h
      all_goals first | cases h; rfl | cases h
  | verifyEmail token =>
      simp only [State.ask, State.verifyEmail] at h
      repeat' split at h
      all_goals first | cases h; rfl | cases h
  | resendVerification email =>
      simp only [State.ask, State.resendVerification] at h
      repeat' split at h
      all_goals first | cases h; rfl | cases h
  | createAdmin email password fullName =>
      simp only [State.ask, State.createAdmin] at h
      repeat' split at h
      all_goals first | cases h; rfl | cases h
  | softDeleteUser userId =>
      simp only [State.ask, State.softDeleteUser] at h
      split at h
      · cases h
        rfl
      · cases h
  | createApiKey request name =>
      rcases forUser_answered (fun _ _ => requireRole_error) h with hrefusal | ⟨user, hroute⟩
      · exact Answer.plain_of_refusal hrefusal
      · cases hroute
  | revokeApiKey request keyId =>
      rcases forUser_answered (fun _ _ => getCurrentActiveUser_error) h with
        hrefusal | ⟨user, hroute⟩
      · exact Answer.plain_of_refusal hrefusal
      · rcases revokeApiKey_answered hroute with hrefusal | ⟨rfl, -⟩
        · exact Answer.plain_of_refusal hrefusal
        · rfl

theorem onFailure_registered {write : Write} {now : Int} {user : UserResponse} :
    write.onFailure lib now ≠ .registered user := by
  intro h
  unfold Write.onFailure at h
  split at h
  · unfold tokenResponse at h
    split at h <;> cases h
  · cases h
  · cases h

theorem onSuccess_registered {write : Write} {now : Int} {user : UserResponse}
    (h : write.onSuccess lib now = .registered user) :
    ∃ userId account, write = .insertUser .register userId account ∧
      user = account.response userId := by
  cases write with
  | insertUser origin userId account =>
      cases origin with
      | register =>
          cases h
          exact ⟨userId, account, rfl, rfl⟩
      | createAdmin => cases h
  | updateUser userId loaded change =>
      cases change with
      | updateLastLogin now =>
          simp only [Write.onSuccess, tokenResponse] at h
          split at h <;> cases h
      | updateVerificationToken => cases h
      | verifyUserEmail => cases h
      | softDeleteUser => cases h
      | promote => cases h
  | insertKey => cases h
  | revokeKey => cases h

/-! ### Registration -/

/-- What the calls that were told of an account have in common with the table. -/
structure Announced (s : State) : Prop where
  row : ∀ id caller user, s.calls.get? id = some ⟨caller, .answered (.registered user)⟩ →
    ∃ a, s.users.get? user.id = some a ∧ a.email = user.email
  once : ∀ id id' caller caller' user user',
    s.calls.get? id = some ⟨caller, .answered (.registered user)⟩ →
    s.calls.get? id' = some ⟨caller', .answered (.registered user')⟩ → user.id = user'.id → id = id'

theorem Announced.of_rows (h : Announced s) (hon : Onward s s') (hcalls : s'.calls = s.calls) :
    Announced s' where
  row id caller user hget := by
    rw [hcalls] at hget
    obtain ⟨a, ha, hemail⟩ := h.row id caller user hget
    obtain ⟨b, hb, hlater⟩ := hon _ a ha
    exact ⟨b, hb, hlater.email.trans hemail⟩
  once := by
    rw [hcalls]
    exact h.once

theorem Announced.move (h : Announced s) {id : Nat} {caller : Option Uuid} {phase : Phase}
    (hphase : ∀ user, phase ≠ .answered (.registered user)) :
    Announced (s.move id caller phase) := by
  have hold : ∀ j c user, (s.move id caller phase).calls.get? j =
      some ⟨c, .answered (.registered user)⟩ →
      s.calls.get? j = some ⟨c, .answered (.registered user)⟩ := by
    intro j c user hget
    simp only [State.move, Dict.get?_set] at hget
    split at hget
    · cases hget
      exact absurd rfl (hphase user)
    · exact hget
  exact ⟨fun j c user hget => h.row j c user (hold j c user hget),
    fun j j' c c' user user' hget hget' =>
      h.once j j' c c' user user' (hold j c user hget) (hold j' c' user' hget')⟩

/-- The account a call is told of is new, so no other call has been told of it. -/
theorem Announced.register (h : Announced s) {id : Nat} {caller : Option Uuid} {userId : Uuid}
    {account : Account} (hwrote : Wrote s (.insertUser .register userId account) s') :
    Announced (s'.move id caller (.answered (.registered (account.response userId)))) := by
  have hon := hwrote.onward
  cases hwrote with
  | insertUser hid hemail =>
      have hfresh : ∀ j c user, s.calls.get? j = some ⟨c, .answered (.registered user)⟩ →
          user.id ≠ userId := by
        rintro j c user hget rfl
        obtain ⟨a, ha, -⟩ := h.row j c user hget
        rw [hid] at ha
        cases ha
      refine ⟨?_, ?_⟩
      · intro j c user hget
        simp only [State.move, Dict.get?_set] at hget ⊢
        split at hget
        · cases hget
          exact ⟨account, if_pos rfl, rfl⟩
        · obtain ⟨a, ha, hsame⟩ := h.row j c user hget
          exact ⟨a, by rw [if_neg (hfresh j c user hget).symm, ha], hsame⟩
      · intro j j' c c' user user' hget hget' hsame
        simp only [State.move, Dict.get?_set] at hget hget'
        split at hget
        · cases hget
          split at hget'
          · rename_i hj hj'
            exact hj.symm.trans hj'
          · exact absurd hsame.symm (hfresh j' c' user' hget')
        · split at hget'
          · cases hget'
            exact absurd hsame (hfresh j c user hget)
          · exact h.once j j' c c' user user' hget hget' hsame

theorem announced_empty : Announced .empty where
  row _ _ _ hget := by cases hget
  once _ _ _ _ _ _ hget := by cases hget

theorem announced_of_runs {events : List Event} (h : Runs lib .empty events s) : Announced s := by
  refine h.invariant announced_empty ?_
  intro s e s' hs _ hstep
  have heffect := step_effect hstep
  have hon := heffect.onward
  cases heffect with
  | ticked => exact hs.of_rows hon rfl
  | @asked id ask hnew =>
      refine hs.move fun user hphase => ?_
      have hplain := ask_answered hphase
      cases hplain
  | drew hget => exact hs.move fun user hphase => by cases hphase
  | @committed id caller write s₁ hget hwrote =>
      by_cases htold : ∃ user, write.onSuccess lib s.clock = .registered user
      · obtain ⟨user, htold⟩ := htold
        obtain ⟨userId, account, rfl, rfl⟩ := onSuccess_registered htold
        exact hs.register hwrote
      · refine (hs.of_rows hwrote.onward hwrote.calls).move fun user hphase => ?_
        exact htold ⟨user, Phase.answered.inj hphase⟩
  | gaveUp hget =>
      exact hs.move fun user hphase => onFailure_registered (Phase.answered.inj hphase)
  | aborted hget => exact hs.move fun user hphase => by cases hphase
  | reset hpolicy hget => exact hs.of_rows hon rfl

/-- Of the calls that register an email, however they interleave, one at most succeeds. -/
theorem registered_apart {events : List Event} (h : Runs lib .empty events s) {id id' : Nat}
    {caller caller' : Option Uuid} {user user' : UserResponse}
    (hget : s.calls.get? id = some ⟨caller, .answered (.registered user)⟩)
    (hget' : s.calls.get? id' = some ⟨caller', .answered (.registered user')⟩) (hne : id ≠ id') :
    user.email ≠ user'.email := by
  intro hemail
  have hs := announced_of_runs h
  obtain ⟨a, ha, hea⟩ := hs.row id caller user hget
  obtain ⟨b, hb, heb⟩ := hs.row id' caller' user' hget'
  have hsame : user.id = user'.id :=
    (inv_of_runs h).emails _ _ a b ha hb (by rw [hea, heb, hemail])
  exact hne (hs.once id id' caller caller' user user' hget hget' hsame)

/-- Three registrations at once, two of them of one email. -/
def sampleRace : List Event :=
  [.ask 0 (.register "ada@example.org" "Passw0rd!" none),
    .ask 1 (.register "Ada@example.org" "Passw0rd!" none),
    .ask 2 (.register "bob@example.org" "Passw0rd!" none),
    .draw 0 ⟨sampleUserId, "link0", "salt", "id"⟩,
    .draw 1 ⟨⟨"00000000-0000-4000-8000-0000000000a2", by decide⟩, "link1", "salt", "id"⟩,
    .draw 2 ⟨⟨"00000000-0000-4000-8000-0000000000a3", by decide⟩, "link2", "salt", "id"⟩,
    .commit 0, .commit 1, .commit 2]

/-- What a call was told of an account. -/
def State.registeredUser (s : State) (id : Nat) : Option UserResponse :=
  match s.calls.get? id with
  | some ⟨none, .answered (.registered user)⟩ => some user
  | _ => none

theorem registeredUser_some {id : Nat} {user : UserResponse} (h : s.registeredUser id = some user) :
    s.calls.get? id = some ⟨none, .answered (.registered user)⟩ := by
  unfold State.registeredUser at h
  split at h
  · rename_i hget
    cases h
    exact hget
  · cases h

theorem race_apart : ∃ s user user', Runs sampleLibrary .empty sampleRace s ∧
    s.registeredUser 0 = some user ∧ s.registeredUser 1 = none ∧
    s.registeredUser 2 = some user' ∧ user.email ≠ user'.email := by
  obtain ⟨s, hrun, hP⟩ := exists_runs (P := fun s => (s.registeredUser 0).isSome &&
      ((s.registeredUser 1).isNone && (s.registeredUser 2).isSome))
    (show (sampleRace.foldlM (step sampleLibrary) .empty).any _ = true by decide +kernel)
  obtain ⟨hfirst, hP⟩ := Bool.and_eq_true_iff.mp hP
  obtain ⟨hsecond, hthird⟩ := Bool.and_eq_true_iff.mp hP
  obtain ⟨user, huser⟩ := Option.isSome_iff_exists.mp hfirst
  obtain ⟨user', huser'⟩ := Option.isSome_iff_exists.mp hthird
  exact ⟨s, user, user', hrun, huser, Option.isNone_iff_eq_none.mp hsecond, huser',
    registered_apart hrun (registeredUser_some huser) (registeredUser_some huser') (by decide)⟩

/-! ### Links -/

/-- The email whose account a plan draws a link for. -/
def Plan.linkFor (lib : Library) : Plan → Option String
  | .register email _ _ => some (normalize lib email)
  | .resendVerification _ loaded => some loaded.email
  | _ => none

/-- A link was drawn for the account, with a hash and at a time that satisfy `P`. -/
def Drew (lib : Library) (email : String) (P : String → Int → Prop) (events : List Event) : Prop :=
  Occurred (step lib) (fun _ _ => True) .empty (fun _ s e => ∃ id drawn caller plan,
    e = .draw id drawn ∧ s.calls.get? id = some ⟨caller, .drawing plan⟩ ∧
      plan.linkFor lib = some email ∧ P (lib.sha256Hex drawn.secret) s.clock) events

/-- A link of the account was opened, no more than a day after one was drawn for it. -/
def Opened (lib : Library) (email : String) (events : List Event) : Prop :=
  Occurred (step lib) (fun _ _ => True) .empty (fun before s e => ∃ id token,
    e = .ask id (.verifyEmail token) ∧
      Drew lib email (fun hash _ => hash = lib.sha256Hex token) before ∧
      Drew lib email (fun _ t => s.clock ≤ t + verificationLifetime) before) events

/-- Where the token of a row comes from, and what has made it verified. -/
structure RowLinks (lib : Library) (events : List Event) (a : Account) : Prop where
  hash : ∀ hash, a.hashedVerificationToken = some hash →
    Drew lib a.email (fun h _ => h = hash) events
  expires : ∀ expiresAt, a.verificationTokenExpiresAt = some expiresAt →
    Drew lib a.email (fun _ t => expiresAt = t + verificationLifetime) events
  verified : a.isVerified = true → a.role ≠ Role.admin.value → Opened lib a.email events

/-- The same for what a call is about to commit. -/
def PhaseLinks (lib : Library) (events : List Event) : Phase → Prop
  | .writing (.insertUser _ _ account) => RowLinks lib events account
  | .writing (.updateUser _ loaded (.updateVerificationToken hash expiresAt)) =>
      Drew lib loaded.email (fun h t => h = hash ∧ expiresAt = t + verificationLifetime) events
  | .writing (.updateUser _ loaded .verifyUserEmail) => Opened lib loaded.email events
  | _ => True

structure Links (lib : Library) (events : List Event) (s : State) : Prop where
  rows : ∀ u a, s.users.get? u = some a → RowLinks lib events a
  calls : ∀ id call, s.calls.get? id = some call → PhaseLinks lib events call.phase

theorem Drew.mono {email : String} {P Q : String → Int → Prop} {events : List Event}
    (h : Drew lib email P events) (hPQ : ∀ hash t, P hash t → Q hash t) :
    Drew lib email Q events := by
  obtain ⟨before, e, after, s, hsplit, hrun, id, drawn, caller, plan, he, hget, hfor, hP⟩ := h
  exact ⟨before, e, after, s, hsplit, hrun, id, drawn, caller, plan, he, hget, hfor, hPQ _ _ hP⟩

theorem RowLinks.later {events : List Event} {a : Account} (h : RowLinks lib events a) (e : Event) :
    RowLinks lib (events ++ [e]) a where
  hash hash hhash := Occurred.later (h.hash hash hhash) e
  expires expiresAt hexpires := Occurred.later (h.expires expiresAt hexpires) e
  verified hverified hrole := Occurred.later (h.verified hverified hrole) e

theorem PhaseLinks.later {events : List Event} {phase : Phase} (h : PhaseLinks lib events phase)
    (e : Event) : PhaseLinks lib (events ++ [e]) phase := by
  cases phase with
  | drawing plan => trivial
  | answered answer => trivial
  | writing write =>
      cases write with
      | insertUser origin userId account => exact RowLinks.later h e
      | updateUser userId loaded change =>
          cases change with
          | updateVerificationToken hash expiresAt => exact Occurred.later h e
          | verifyUserEmail => exact Occurred.later h e
          | updateLastLogin => trivial
          | softDeleteUser => trivial
          | promote => trivial
      | insertKey => trivial
      | revokeKey => trivial

theorem PhaseLinks.drew {events : List Event} {userId : Uuid} {loaded : Account} {hash : String}
    {expiresAt : Int} (h : PhaseLinks lib events
      (.writing (.updateUser userId loaded (.updateVerificationToken hash expiresAt)))) :
    Drew lib loaded.email (fun h t => h = hash ∧ expiresAt = t + verificationLifetime) events := h

theorem writeColumn_mem {α : Type} [DecidableEq α] {loaded new current x : α}
    (h : writeColumn loaded new current = x) : current = x ∨ new = x := by
  rcases writeColumn_cases loaded new current with ⟨-, hsame⟩ | ⟨-, hwritten⟩
  · exact Or.inl (hsame.symm.trans h)
  · exact Or.inr (hwritten.symm.trans h)

theorem flush_links {events : List Event} {userId : Uuid} {loaded current : Account}
    {change : Change} (hrow : RowLinks lib events current) (hlater : Later loaded current)
    (hphase : PhaseLinks lib events (.writing (.updateUser userId loaded change))) :
    RowLinks lib events (loaded.flush (change.apply loaded) current) where
  hash hash hhash := by
    rw [(flush_later loaded current change).email]
    cases change with
    | updateVerificationToken hashedToken expiresAt =>
        rcases writeColumn_mem hhash with hold | hnew
        · exact hrow.hash hash hold
        · cases hnew
          rw [hlater.email]
          exact hphase.drew.mono fun h t heq => heq.1
    | verifyUserEmail =>
        rcases writeColumn_mem hhash with hold | hnew
        · exact hrow.hash hash hold
        · cases hnew
    | _ =>
        simp only [Account.flush, Change.apply, writeColumn_self] at hhash
        exact hrow.hash hash hhash
  expires expiresAt hexpires := by
    rw [(flush_later loaded current change).email]
    cases change with
    | updateVerificationToken hashedToken expires =>
        rcases writeColumn_mem hexpires with hold | hnew
        · exact hrow.expires expiresAt hold
        · cases hnew
          rw [hlater.email]
          exact hphase.drew.mono fun h t heq => heq.2
    | verifyUserEmail =>
        rcases writeColumn_mem hexpires with hold | hnew
        · exact hrow.expires expiresAt hold
        · cases hnew
    | _ =>
        simp only [Account.flush, Change.apply, writeColumn_self] at hexpires
        exact hrow.expires expiresAt hexpires
  verified hverified hrole := by
    have hnew := flush_later loaded current change
    rw [hnew.email]
    -- who becomes an administrator is none of this
    have hold : current.role ≠ Role.admin.value := fun hadmin => hrole (hnew.admin hadmin)
    cases change with
    | verifyUserEmail =>
        rw [hlater.email]
        exact hphase
    | promote hashedPassword fullName =>
        simp only [Account.flush, Change.apply] at hrole
        rcases writeColumn_cases loaded.role Role.admin.value current.role with
          ⟨hloaded, -⟩ | ⟨-, hwritten⟩
        · exact absurd (hlater.admin hloaded.symm) hold
        · exact absurd hwritten hrole
    | _ =>
        simp only [Account.flush, Change.apply, writeColumn_self] at hverified
        exact hrow.verified hverified hold

/-! ### Every step keeps track of the links -/

theorem Links.move {events : List Event} (h : Links lib events s) {id : Nat}
    {caller : Option Uuid} {phase : Phase} (hphase : PhaseLinks lib events phase) :
    Links lib events (s.move id caller phase) := by
  refine ⟨h.rows, fun j call hcall => ?_⟩
  simp only [State.move, Dict.get?_set] at hcall
  split at hcall
  · cases hcall
    exact hphase
  · exact h.calls j call hcall

theorem Links.later {events : List Event} (h : Links lib events s) (e : Event) :
    Links lib (events ++ [e]) s :=
  ⟨fun u a hget => (h.rows u a hget).later e, fun id call hcall => (h.calls id call hcall).later e⟩

theorem Wrote.links {events : List Event} {write : Write} (hwrote : Wrote s write s')
    (hinv : PhaseOk lib s (.writing write)) (h : Links lib events s)
    (hphase : PhaseLinks lib events (.writing write)) : Links lib events s' := by
  cases hwrote with
  | insertUser hid hemail =>
      refine ⟨fun u a hget => ?_, h.calls⟩
      rw [Dict.get?_set] at hget
      split at hget
      · cases hget
        exact hphase
      · exact h.rows u a hget
  | @updateUser userId loaded current change hcurrent =>
      obtain ⟨row, hrow, hlater⟩ := hinv.1.row
      rw [hcurrent] at hrow
      cases hrow
      refine ⟨fun u a hget => ?_, h.calls⟩
      rw [Dict.get?_set] at hget
      split at hget
      · cases hget
        exact flush_links (h.rows userId current hcurrent) hlater hphase
      · exact h.rows u a hget
  | skipped => exact h
  | insertKey => exact ⟨h.rows, h.calls⟩
  | revokeKey => exact ⟨h.rows, h.calls⟩

end Accounts

end GaiaOS
