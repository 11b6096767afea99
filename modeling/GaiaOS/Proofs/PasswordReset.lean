/-
Reset tokens are single use under every interleaving.

The invariant ties each reset to the rows it has locked: from the moment the presented token is
locked until the transaction ends, its row is open and belongs to the user the reset works for,
because a row changes only when the transaction that holds its lock commits, and no two
transactions hold the same row.  A commit sets `used_at` on the presented token and on every
token the user had when the reset began, and a set `used_at` stays set, so none of them can be
open for a later commit.

`Move` says what one statement of a reset can do and `Effect` what one event can do; every
invariant is derived from the two.
-/
import Mathlib.Data.List.Induction
import GaiaOS.Auth.PasswordReset

namespace GaiaOS

namespace PasswordReset

variable {rt : Runtime} {s s' : State} {id : Nat} {tx tx' : Reset}

/-! ### What a statement can do -/

/-- The statements of a reset, with what they find. -/
inductive Move (s : State) (id : Nat) (tx : Reset) : Reset → Prop
  | found (hphase : tx.phase = .begun) : Move s id tx { tx with phase := .waiting }
  | returned (hphase : tx.phase.ended = false) : Move s id tx { tx with phase := .returnedNone }
  | passedOver (hphase : tx.phase = .waiting) (hfree : s.tokenFree id tx.hashedToken = true) :
      Move s id tx { tx with phase := .returnedNone, tokenLocks := [tx.hashedToken] }
  | locked {row : TokenRow} (hphase : tx.phase = .waiting)
      (hfree : s.tokenFree id tx.hashedToken = true)
      (hrow : s.tokens.get? tx.hashedToken = some row) (hopen : row.isOpen tx.now = true) :
      Move s id tx { tx with phase := .selected row.userId, tokenLocks := [tx.hashedToken] }
  | active {userId : Nat} {user : UserRow} (hphase : tx.phase = .selected userId)
      (huser : s.users.get? userId = some user) : Move s id tx { tx with phase := .checked userId }
  | snapshot {userId : Nat} (hphase : tx.phase = .checked userId) :
      Move s id tx { tx with phase := .updating userId (s.openTokens userId) [] }
  | visited {userId : Nat} {todo written written' : List String} {hashedToken : String}
      {row : TokenRow} (hphase : tx.phase = .updating userId todo written)
      (hmem : hashedToken ∈ todo) (hfree : s.tokenFree id hashedToken = true)
      (hrow : s.tokens.get? hashedToken = some row)
      (hwritten : written' = if row.userId == userId && row.usedAt.isNone then
        hashedToken :: written else written) :
      Move s id tx { tx with
        phase := .updating userId (todo.erase hashedToken) written'
        tokenLocks := hashedToken :: tx.tokenLocks }
  | flushed {userId : Nat} {written : List String}
      (hphase : tx.phase = .updating userId [] written) :
      Move s id tx { tx with phase := .flushed userId written s.clock, userLock := some userId }
  | ended {phase : Phase} (hphase : tx.phase.ended = false) (hended : phase.ended = true)
      (hfailed : phase ≠ .committed) : Move s id tx (tx.endAs phase)

theorem next_move {statement : Statement} (h : tx.next s id statement = some tx') :
    Move s id tx tx' := by
  cases statement with
  | selectToken =>
      simp only [Reset.next] at h
      split at h
      · rename_i row hphase hrow
        split at h
        · cases h
          exact .found hphase
        · cases h
          exact .returned (by rw [hphase]; rfl)
      · rename_i hphase hrow
        cases h
        exact .returned (by rw [hphase]; rfl)
      · cases h
  | lockToken =>
      simp only [Reset.next] at h
      split at h
      · rename_i row hphase hrow
        split at h
        · rename_i hfree
          split at h
          · rename_i hopen
            cases h
            exact .locked hphase hfree hrow hopen
          · cases h
            exact .passedOver hphase hfree
        · cases h
      · rename_i hphase hrow
        cases h
        exact .returned (by rw [hphase]; rfl)
      · cases h
  | selectUser =>
      simp only [Reset.next] at h
      split at h
      · rename_i userId hphase
        have hrunning : tx.phase.ended = false := by rw [hphase]; rfl
        split at h
        · rename_i user huser
          split at h
          · cases h
            exact .active hphase huser
          · cases h
            exact .returned hrunning
        · cases h
          exact .returned hrunning
      · cases h
  | updateTokens =>
      simp only [Reset.next] at h
      split at h
      · rename_i userId hphase
        cases h
        exact .snapshot hphase
      · cases h
  | updateToken hashedToken =>
      simp only [Reset.next] at h
      split at h
      · rename_i userId todo written row hphase hrow
        split at h
        · rename_i hguard
          rw [Bool.and_eq_true, List.contains_iff_mem] at hguard
          cases h
          exact .visited hphase hguard.1 hguard.2 hrow rfl
        · cases h
      · cases h
  | flushUser =>
      simp only [Reset.next] at h
      split at h
      · rename_i userId written hphase
        split at h
        · cases h
          exact .flushed hphase
        · cases h
      · cases h
  | close =>
      simp only [Reset.next] at h
      split at h
      · rename_i hphase
        cases h
        exact .ended (by rw [hphase]; rfl) rfl (by simp)
      · cases h
  | abort =>
      simp only [Reset.next] at h
      split at h
      · cases h
      · rename_i hended
        cases h
        exact .ended (Bool.eq_false_iff.mpr hended) rfl (by simp)

/-! ### What an event can do -/

/-- The events of a run: most leave the tables alone, a request adds a token and a commit writes
what its reset has prepared. -/
inductive Effect (rt : Runtime) (s : State) : Event → State → Prop
  | quiet {e : Event} {s' : State} (husers : s'.users = s.users) (htokens : s'.tokens = s.tokens)
      (hresets : s'.resets = s.resets) : Effect rt s e s'
  | issued {id : Nat} {s' : State} (hashedToken : String) (row : TokenRow)
      (hnew : s.tokens.get? hashedToken = none) (husers : s'.users = s.users)
      (htokens : s'.tokens = s.tokens.set hashedToken row) (hresets : s'.resets = s.resets) :
      Effect rt s (.issue id) s'
  | began {id : Nat} {token newPassword newHashedPassword : String} {phase : Phase}
      (hnew : s.resets.get? id = none) (hphase : phase = .begun ∨ phase = .failed) :
      Effect rt s (.reset id token newPassword newHashedPassword)
        { s with resets := s.resets.set id ⟨rt.hashVerificationToken token, newHashedPassword,
          s.clock, phase, [], none⟩ }
  | moved {id : Nat} {statement : Statement} {tx tx' : Reset} (hget : s.resets.get? id = some tx)
      (hmove : Move s id tx tx') :
      Effect rt s (.statement id statement) { s with resets := s.resets.set id tx' }
  | committed {id : Nat} {tx : Reset} {userId : Nat} {written : List String} {updatedAt : Int}
      (hget : s.resets.get? id = some tx) (hphase : tx.phase = .flushed userId written updatedAt) :
      Effect rt s (.commit id) (s.commit id tx userId written updatedAt)

theorem step_effect {e : Event} (h : step rt s e = some s') : Effect rt s e s' := by
  cases e with
  | tick elapsed =>
      cases h
      exact .quiet rfl rfl rfl
  | request id email =>
      simp only [step] at h
      split at h
      · cases h
      · split at h
        · split at h <;> (cases h; exact .quiet rfl rfl rfl)
        · cases h
          exact .quiet rfl rfl rfl
  | compose id rawToken =>
      simp only [step] at h
      split at h
      · cases h
        exact .quiet rfl rfl rfl
      · cases h
  | issue id =>
      simp only [step] at h
      split at h
      · split at h
        · cases h
          exact .quiet rfl rfl rfl
        · rename_i userId hashedToken expiresAt _ hnew
          cases h
          refine .issued hashedToken ⟨userId, expiresAt, none⟩ ?_ rfl rfl rfl
          simpa [Dict.contains] using hnew
      · cases h
  | reset id token newPassword newHashedPassword =>
      simp only [step] at h
      split at h
      · rename_i hnew _
        cases h
        exact .began hnew (.inl rfl)
      · rename_i hnew _
        cases h
        exact .began hnew (.inr rfl)
      · cases h
  | statement id statement =>
      simp only [step] at h
      split at h
      · rename_i tx hget
        split at h
        · rename_i tx' hnext
          cases h
          exact .moved hget (next_move hnext)
        · cases h
      · cases h
  | commit id =>
      simp only [step] at h
      split at h
      · rename_i tx hget
        split at h
        · rename_i userId written updatedAt hphase
          cases h
          exact .committed hget hphase
        · cases h
      · cases h

/-! ### Rows stay -/

/-- No row disappears, a token keeps its user and its expiry, and `used_at` stays set. -/
structure Grows (s s' : State) : Prop where
  users : ∀ userId, (s.users.get? userId).isSome = true → (s'.users.get? userId).isSome = true
  tokens : ∀ hashedToken row, s.tokens.get? hashedToken = some row →
    ∃ row', s'.tokens.get? hashedToken = some row' ∧ row'.userId = row.userId ∧
      row'.expiresAt = row.expiresAt ∧ (row.usedAt.isSome = true → row'.usedAt.isSome = true)

theorem Grows.of_tables (husers : s'.users = s.users) (htokens : s'.tokens = s.tokens) :
    Grows s s' where
  users userId h := by rwa [husers]
  tokens hashedToken row h := ⟨row, by rw [htokens, h], rfl, rfl, id⟩

theorem Grows.trans {s'' : State} (h : Grows s s') (h' : Grows s' s'') : Grows s s'' where
  users userId hsome := h'.users userId (h.users userId hsome)
  tokens hashedToken row hrow := by
    obtain ⟨row', hrow', huser, hexpires, hused⟩ := h.tokens hashedToken row hrow
    obtain ⟨row'', hrow'', huser', hexpires', hused'⟩ := h'.tokens hashedToken row' hrow'
    exact ⟨row'', hrow'', huser'.trans huser, hexpires'.trans hexpires, fun hsome =>
      hused' (hused hsome)⟩

theorem commit_tokens_get? (s : State) (id : Nat) (tx : Reset) (userId : Nat)
    (written : List String) (updatedAt : Int) (hashedToken : String) :
    (s.commit id tx userId written updatedAt).tokens.get? hashedToken =
      (s.tokens.get? hashedToken).map fun row =>
        if written.contains hashedToken then { row with usedAt := some tx.now } else row :=
  Dict.get?_mapValues _ _ _

theorem commit_users_get? (s : State) (id : Nat) (tx : Reset) (userId : Nat)
    (written : List String) (updatedAt : Int) (k : Nat) :
    (s.commit id tx userId written updatedAt).users.get? k =
      (s.users.get? k).map fun user =>
        if k = userId then
          { user with hashedPassword := tx.newHashedPassword, updatedAt := updatedAt }
        else user :=
  Dict.get?_mapValues _ _ _

theorem grows_commit (s : State) (id : Nat) (tx : Reset) (userId : Nat) (written : List String)
    (updatedAt : Int) : Grows s (s.commit id tx userId written updatedAt) where
  users k hsome := by
    rw [commit_users_get?, Option.isSome_map]
    exact hsome
  tokens hashedToken row hrow := by
    rw [commit_tokens_get?, hrow, Option.map_some]
    refine ⟨_, rfl, ?_⟩
    split
    · exact ⟨rfl, rfl, fun _ => rfl⟩
    · exact ⟨rfl, rfl, fun hused => hused⟩

theorem Effect.grows {e : Event} (h : Effect rt s e s') : Grows s s' := by
  cases h with
  | quiet husers htokens hresets => exact .of_tables husers htokens
  | issued hashedToken row hnew husers htokens hresets =>
      refine ⟨fun userId hsome => by rwa [husers], fun h' row' hrow' => ⟨row', ?_, rfl, rfl, id⟩⟩
      have hne : hashedToken ≠ h' := by
        intro heq
        rw [← heq, hnew] at hrow'
        cases hrow'
      rw [htokens, Dict.get?_set_of_ne _ hne, hrow']
  | began hnew hphase => exact .of_tables rfl rfl
  | moved hget hmove => exact .of_tables rfl rfl
  | committed hget hphase => exact grows_commit ..

/-! ### The invariant -/

/-- The user a reset works for, once the token is locked. -/
def Phase.owner? : Phase → Option Nat
  | .selected userId | .checked userId | .updating userId _ _ | .flushed userId _ _ => some userId
  | _ => none

/-- The rows a reset has written. -/
def Phase.written : Phase → List String
  | .updating _ _ written | .flushed _ written _ => written
  | _ => []

/-- The rows of the snapshot a reset has still to visit. -/
def Phase.todo : Phase → List String
  | .updating _ todo _ => todo
  | _ => []

/-- The user a reset works for, once it was read. -/
def Phase.user? : Phase → Option Nat
  | .checked userId | .updating userId _ _ | .flushed userId _ _ => some userId
  | _ => none

/-- The `UPDATE` of the tokens has started. -/
def Phase.started : Phase → Bool
  | .updating .. | .flushed .. => true
  | _ => false

/-- The presented token is locked and its row is open and the user's. -/
def Reset.Holds (s : State) (tx : Reset) (userId : Nat) : Prop :=
  tx.hashedToken ∈ tx.tokenLocks ∧ ∃ row, s.tokens.get? tx.hashedToken = some row ∧
    row.userId = userId ∧ row.isOpen tx.now = true

/-- What holds of a reset at every phase. -/
structure Reset.Ok (s : State) (tx : Reset) : Prop where
  unlocked : tx.phase.ended = true → tx.tokenLocks = []
  holds : ∀ userId, tx.phase.owner? = some userId → tx.Holds s userId
  owned : ∀ userId, tx.phase.owner? = some userId →
    ∀ hashedToken, hashedToken ∈ tx.phase.todo ∨ hashedToken ∈ tx.phase.written →
      ∃ row, s.tokens.get? hashedToken = some row ∧ row.userId = userId
  locked : ∀ hashedToken ∈ tx.phase.written, hashedToken ∈ tx.tokenLocks
  presented : tx.phase.started = true →
    tx.hashedToken ∈ tx.phase.todo ∨ tx.hashedToken ∈ tx.phase.written
  user : ∀ userId, tx.phase.user? = some userId → (s.users.get? userId).isSome = true

/-- A change of the tables that leaves the presented token alone keeps a reset as it should be. -/
theorem Reset.Ok.grows (h : tx.Ok s) (hgrows : Grows s s')
    (hsame : ∀ userId, tx.Holds s userId →
      s'.tokens.get? tx.hashedToken = s.tokens.get? tx.hashedToken) : tx.Ok s' where
  unlocked := h.unlocked
  holds userId howner := by
    have hrow' := hsame userId (h.holds userId howner)
    obtain ⟨hmem, row, hrow, hopen⟩ := h.holds userId howner
    exact ⟨hmem, row, by rw [hrow', hrow], hopen⟩
  owned userId howner hashedToken hmem := by
    obtain ⟨row, hrow, huser⟩ := h.owned userId howner hashedToken hmem
    obtain ⟨row', hrow', huser', -⟩ := hgrows.tokens _ row hrow
    exact ⟨row', hrow', huser'.trans huser⟩
  locked := h.locked
  presented := h.presented
  user userId huser := hgrows.users userId (h.user userId huser)

theorem mem_openTokens {userId : Nat} {hashedToken : String} :
    hashedToken ∈ s.openTokens userId ↔ ∃ row, s.tokens.get? hashedToken = some row ∧
      row.userId = userId ∧ row.usedAt = none := by
  unfold State.openTokens
  simp only [List.mem_map, List.mem_filter, Prod.exists, exists_and_right, exists_eq_right,
    Dict.mem_entries_iff, Bool.and_eq_true, beq_iff_eq, Option.isNone_iff_eq_none]

/-- A reset that holds no token for a user yet, or no longer. -/
theorem Reset.Ok.idle (howner : tx.phase.owner? = none)
    (hunlocked : tx.phase.ended = true → tx.tokenLocks = []) : tx.Ok s := by
  cases hphase : tx.phase with
  | selected | checked | updating | flushed =>
      rw [hphase] at howner
      cases howner
  | begun | waiting | returnedNone | committed | failed | aborted =>
      refine ⟨hunlocked, ?_, ?_, ?_, ?_, ?_⟩ <;>
        simp [hphase, Phase.owner?, Phase.written, Phase.started, Phase.user?]

theorem Phase.owner?_of_ended {phase : Phase} (h : phase.ended = true) : phase.owner? = none := by
  cases phase with
  | committed | failed | aborted => rfl
  | _ => cases h

theorem Move.ok (hmove : Move s id tx tx') (h : tx.Ok s) : tx'.Ok s := by
  cases hmove with
  | found hphase => exact .idle rfl (by simp [Phase.ended])
  | returned hphase => exact .idle rfl (by simp [Phase.ended])
  | passedOver hphase hfree => exact .idle rfl (by simp [Phase.ended])
  | @locked row hphase hfree hrow hopen =>
      refine ⟨by simp [Phase.ended], ?_, ?_, by simp [Phase.written], by simp [Phase.started],
        by simp [Phase.user?]⟩
      · intro userId howner
        obtain rfl : row.userId = userId := by simpa [Phase.owner?] using howner
        exact ⟨List.mem_singleton.mpr rfl, row, hrow, rfl, hopen⟩
      · simp [Phase.todo, Phase.written]
  | @active userId user hphase huser =>
      refine ⟨by simp [Phase.ended], ?_, ?_, by simp [Phase.written], by simp [Phase.started], ?_⟩
      · intro userId' howner
        exact h.holds userId' (by rw [hphase]; exact howner)
      · simp [Phase.todo, Phase.written]
      · intro userId' huser'
        obtain rfl : userId = userId' := by simpa [Phase.user?] using huser'
        rw [huser]
        rfl
  | @snapshot userId hphase =>
      have hholds : tx.Holds s userId := h.holds userId (by rw [hphase]; rfl)
      refine ⟨by simp [Phase.ended], ?_, ?_, by simp [Phase.written], ?_, ?_⟩
      · intro userId' howner
        obtain rfl : userId = userId' := by simpa [Phase.owner?] using howner
        exact hholds
      · intro userId' howner hashedToken hmem
        obtain rfl : userId = userId' := by simpa [Phase.owner?] using howner
        have hopen : hashedToken ∈ s.openTokens userId := by
          simpa [Phase.todo, Phase.written] using hmem
        obtain ⟨row, hrow, huser, -⟩ := mem_openTokens.mp hopen
        exact ⟨row, hrow, huser⟩
      · intro _
        obtain ⟨-, row, hrow, huser, hopen⟩ := hholds
        refine .inl (mem_openTokens.mpr ⟨row, hrow, huser, ?_⟩)
        simp only [TokenRow.isOpen, Bool.and_eq_true, Option.isNone_iff_eq_none] at hopen
        exact hopen.1
      · intro userId' huser'
        exact h.user userId' (by rw [hphase]; exact huser')
  | @visited userId todo written written' hashedToken row hphase hmem hfree hrow hwritten =>
      have howner : tx.phase.owner? = some userId := by rw [hphase]; rfl
      obtain ⟨hlock, hheld⟩ := h.holds userId howner
      have howned : ∀ k, k ∈ todo ∨ k ∈ written →
          ∃ row, s.tokens.get? k = some row ∧ row.userId = userId := fun k hk =>
        h.owned userId howner k (by rw [hphase]; exact hk)
      have hsub : ∀ k ∈ written', k = hashedToken ∨ k ∈ written := by
        intro k hk
        rw [hwritten] at hk
        split at hk
        · exact List.mem_cons.mp hk
        · exact .inr hk
      have hkeep : ∀ k ∈ written, k ∈ written' := by
        intro k hk
        rw [hwritten]
        split
        · exact List.mem_cons_of_mem _ hk
        · exact hk
      refine ⟨by simp [Phase.ended], ?_, ?_, ?_, ?_, ?_⟩
      · intro userId' howner'
        obtain rfl : userId = userId' := by simpa [Phase.owner?] using howner'
        exact ⟨List.mem_cons_of_mem _ hlock, hheld⟩
      · intro userId' howner' k hk
        obtain rfl : userId = userId' := by simpa [Phase.owner?] using howner'
        rcases hk with hk | hk
        · exact howned k (.inl (List.mem_of_mem_erase hk))
        · rcases hsub k hk with rfl | hk
          · exact howned k (.inl hmem)
          · exact howned k (.inr hk)
      · intro k hk
        rcases hsub k hk with rfl | hk
        · exact List.mem_cons_self
        · exact List.mem_cons_of_mem _ (h.locked k (by rw [hphase]; exact hk))
      · intro _
        have hpresented := h.presented (by rw [hphase]; rfl)
        rw [hphase] at hpresented
        rcases hpresented with hk | hk
        · by_cases heq : tx.hashedToken = hashedToken
          · -- the presented token is open, so the statement writes it
            obtain ⟨row', hrow', huser, hopen⟩ := hheld
            rw [heq, hrow] at hrow'
            cases hrow'
            simp only [TokenRow.isOpen, Bool.and_eq_true] at hopen
            refine .inr ?_
            show tx.hashedToken ∈ written'
            rw [hwritten, heq]
            simp [huser, hopen.1]
          · exact .inl ((List.mem_erase_of_ne heq).mpr hk)
        · exact .inr (hkeep _ hk)
      · intro userId' huser'
        exact h.user userId' (by rw [hphase]; exact huser')
  | @flushed userId written hphase =>
      refine ⟨by simp [Phase.ended], ?_, ?_, ?_, ?_, ?_⟩
      · intro userId' howner
        exact h.holds userId' (by rw [hphase]; exact howner)
      · intro userId' howner k hk
        exact h.owned userId' (by rw [hphase]; exact howner) k (by rw [hphase]; exact hk)
      · intro k hk
        exact h.locked k (by rw [hphase]; exact hk)
      · intro _
        have hpresented := h.presented (by rw [hphase]; rfl)
        rw [hphase] at hpresented
        exact hpresented
      · intro userId' huser'
        exact h.user userId' (by rw [hphase]; exact huser')
  | ended hphase hended hfailed =>
      exact .idle (Phase.owner?_of_ended hended) fun _ => rfl

/-- A statement locks only rows that no other transaction holds. -/
theorem Move.locks (hmove : Move s id tx tx') :
    ∀ hashedToken ∈ tx'.tokenLocks,
      hashedToken ∈ tx.tokenLocks ∨ s.tokenFree id hashedToken = true := by
  intro hashedToken hmem
  cases hmove with
  | found | returned | active | snapshot | flushed => exact .inl hmem
  | passedOver hphase hfree =>
      obtain rfl := List.mem_singleton.mp hmem
      exact .inr hfree
  | locked hphase hfree hrow hopen =>
      obtain rfl := List.mem_singleton.mp hmem
      exact .inr hfree
  | visited hphase hmem' hfree hrow hwritten =>
      rcases List.mem_cons.mp hmem with rfl | hmem
      · exact .inr hfree
      · exact .inl hmem
  | ended hphase hended hfailed => cases hmem

/-- Every reset is as it should be and no two hold the same row. -/
structure Inv (s : State) : Prop where
  ok : ∀ id tx, s.resets.get? id = some tx → tx.Ok s
  exclusive : ∀ id id' tx tx', id ≠ id' → s.resets.get? id = some tx →
    s.resets.get? id' = some tx' → ∀ hashedToken ∈ tx.tokenLocks, hashedToken ∉ tx'.tokenLocks

theorem tokenFree_iff {hashedToken : String} :
    s.tokenFree id hashedToken = true ↔ ∀ id' tx', id' ≠ id → s.resets.get? id' = some tx' →
      hashedToken ∉ tx'.tokenLocks := by
  simp only [State.tokenFree, List.all_eq_true, Prod.forall, Dict.mem_entries_iff, Bool.or_eq_true,
    beq_iff_eq, Bool.not_eq_true', List.contains_eq_mem, decide_eq_false_iff_not]
  refine forall₂_congr fun id' tx' => ?_
  constructor
  · intro h hne hget
    exact (h hget).resolve_left hne
  · intro h hget
    by_cases hne : id' = id
    · exact .inl hne
    · exact .inr (h hne hget)

/-- The tables may grow and one reset may move, as long as the rows that the others hold are left
alone and none of them is locked again. -/
theorem Inv.update (h : Inv s) (hresets : s'.resets = s.resets.set id tx') (hgrows : Grows s s')
    (hok : tx'.Ok s')
    (hrows : ∀ id'' tx'', id'' ≠ id → s.resets.get? id'' = some tx'' →
      ∀ hashedToken ∈ tx''.tokenLocks, s'.tokens.get? hashedToken = s.tokens.get? hashedToken)
    (hfree : ∀ hashedToken ∈ tx'.tokenLocks, ∀ id'' tx'', id'' ≠ id →
      s.resets.get? id'' = some tx'' → hashedToken ∉ tx''.tokenLocks) : Inv s' := by
  have hcases : ∀ k tx, s'.resets.get? k = some tx →
      k = id ∧ tx = tx' ∨ k ≠ id ∧ s.resets.get? k = some tx := by
    intro k tx hget
    rw [hresets, Dict.get?_set] at hget
    split at hget
    · rename_i heq
      exact .inl ⟨heq.symm, by simpa using hget.symm⟩
    · rename_i hne
      exact .inr ⟨Ne.symm hne, hget⟩
  refine ⟨fun k tx hget => ?_, fun k k' tx tx₂ hne hget hget' hashedToken hmem => ?_⟩
  · rcases hcases k tx hget with ⟨-, rfl⟩ | ⟨hk, hget⟩
    · exact hok
    · exact (h.ok k tx hget).grows hgrows fun _ hholds => hrows k tx hk hget _ hholds.1
  · rcases hcases k tx hget with ⟨rfl, rfl⟩ | ⟨hk, hget⟩
    · rcases hcases k' tx₂ hget' with ⟨rfl, -⟩ | ⟨hk', hget'⟩
      · exact absurd rfl hne
      · exact hfree hashedToken hmem k' tx₂ hk' hget'
    · rcases hcases k' tx₂ hget' with ⟨rfl, rfl⟩ | ⟨hk', hget'⟩
      · exact fun hmem' => hfree hashedToken hmem' k tx hk hget hmem
      · exact h.exclusive k k' tx tx₂ hne hget hget' hashedToken hmem

variable {userId : Nat} {written : List String} {updatedAt : Int}

/-- A commit writes only rows its own reset has locked. -/
theorem commit_other_rows (h : Inv s) (hget : s.resets.get? id = some tx)
    (hphase : tx.phase = .flushed userId written updatedAt) {id' : Nat} (hne : id' ≠ id)
    (hget' : s.resets.get? id' = some tx') :
    ∀ hashedToken ∈ tx'.tokenLocks,
      (s.commit id tx userId written updatedAt).tokens.get? hashedToken =
        s.tokens.get? hashedToken := by
  intro hashedToken hmem
  have hnot : hashedToken ∉ written := by
    intro hwritten
    have hlock := (h.ok id tx hget).locked hashedToken (by rw [hphase]; exact hwritten)
    exact h.exclusive id' id tx' tx hne hget' hget hashedToken hmem hlock
  rw [commit_tokens_get?]
  simp [hnot]

theorem Effect.inv {e : Event} (heffect : Effect rt s e s') (h : Inv s) : Inv s' := by
  have hgrows := heffect.grows
  cases heffect with
  | quiet husers htokens hresets =>
      refine ⟨fun k tx hget => ?_, fun k k' tx tx' hne hget hget' => ?_⟩
      · exact (h.ok k tx (hresets ▸ hget)).grows hgrows fun _ _ => by rw [htokens]
      · exact h.exclusive k k' tx tx' hne (hresets ▸ hget) (hresets ▸ hget')
  | issued hashedToken row hnew husers htokens hresets =>
      refine ⟨fun k tx hget => ?_, fun k k' tx tx' hne hget hget' => ?_⟩
      · refine (h.ok k tx (hresets ▸ hget)).grows hgrows fun userId hholds => ?_
        obtain ⟨-, row', hrow', -⟩ := hholds
        have hne : hashedToken ≠ tx.hashedToken := by
          intro heq
          rw [← heq, hnew] at hrow'
          cases hrow'
        rw [htokens, Dict.get?_set_of_ne _ hne]
      · exact h.exclusive k k' tx tx' hne (hresets ▸ hget) (hresets ▸ hget')
  | began hnew hphase =>
      refine h.update rfl hgrows (.idle ?_ fun _ => rfl) (fun _ _ _ _ _ _ => rfl) ?_
      · rcases hphase with rfl | rfl <;> rfl
      · intro hashedToken hmem
        cases hmem
  | moved hget hmove =>
      refine h.update rfl hgrows ?_ (fun _ _ _ _ _ _ => rfl) ?_
      · exact (hmove.ok (h.ok _ _ hget)).grows hgrows fun _ _ => rfl
      · intro hashedToken hmem id'' tx'' hne hget''
        rcases hmove.locks hashedToken hmem with hmem | hfree
        · exact h.exclusive _ id'' _ tx'' (Ne.symm hne) hget hget'' hashedToken hmem
        · exact tokenFree_iff.mp hfree id'' tx'' hne hget''
  | committed hget hphase =>
      refine h.update rfl hgrows (.idle rfl fun _ => rfl) ?_ ?_
      · intro id'' tx'' hne hget''
        exact commit_other_rows h hget hphase hne hget''
      · intro hashedToken hmem
        cases hmem

/-! ### Runs -/

theorem run_cons {e : Event} {events : List Event} :
    run rt s (e :: events) = some s' ↔
      ∃ s₁, step rt s e = some s₁ ∧ run rt s₁ events = some s' := by
  unfold run
  rw [List.foldlM_cons]
  exact Option.bind_eq_some_iff

theorem run_append {before after : List Event} :
    run rt s (before ++ after) = some s' ↔
      ∃ s₁, run rt s before = some s₁ ∧ run rt s₁ after = some s' := by
  unfold run
  rw [List.foldlM_append]
  exact Option.bind_eq_some_iff

/-- What every event keeps, a run keeps. -/
theorem run_invariant {P : State → Prop} (hstep : ∀ {s e s'}, Effect rt s e s' → P s → P s')
    {events : List Event} (hrun : run rt s events = some s') (h : P s) : P s' := by
  induction events generalizing s with
  | nil =>
      cases hrun
      exact h
  | cons e events ih =>
      obtain ⟨s₁, he, hrun⟩ := run_cons.mp hrun
      exact ih hrun (hstep (step_effect he) h)

theorem run_inv {events : List Event} (hrun : run rt s events = some s') (h : Inv s) : Inv s' :=
  run_invariant Effect.inv hrun h

theorem run_grows {events : List Event} (hrun : run rt s events = some s') : Grows s s' :=
  run_invariant (P := Grows s) (fun heffect h => h.trans heffect.grows) hrun (.of_tables rfl rfl)

/-- A reset goes on with the token and the time it began with. -/
theorem Move.same (hmove : Move s id tx tx') :
    tx'.hashedToken = tx.hashedToken ∧ tx'.newHashedPassword = tx.newHashedPassword ∧
      tx'.now = tx.now := by
  cases hmove <;> exact ⟨rfl, rfl, rfl⟩

/-- A reset that has ended takes no more steps. -/
theorem Move.not_ended (hmove : Move s id tx tx') : tx.phase.ended = false := by
  cases hmove with
  | found hphase | passedOver hphase | locked hphase | active hphase | snapshot hphase
  | visited hphase | flushed hphase =>
      rw [hphase]
      rfl
  | returned hphase => exact hphase
  | ended hphase => exact hphase

/-- The reset with this id, if any, went on as a reset of the same token and time. -/
theorem Effect.reset {e : Event} (heffect : Effect rt s e s') (hget : s.resets.get? id = some tx) :
    ∃ tx', s'.resets.get? id = some tx' ∧ tx'.hashedToken = tx.hashedToken ∧
      tx'.newHashedPassword = tx.newHashedPassword ∧ tx'.now = tx.now ∧
      (tx.phase = .committed → tx'.phase = .committed) := by
  cases heffect with
  | quiet husers htokens hresets => exact ⟨tx, by rw [hresets, hget], rfl, rfl, rfl, fun h => h⟩
  | issued hashedToken row hnew husers htokens hresets =>
      exact ⟨tx, by rw [hresets, hget], rfl, rfl, rfl, fun h => h⟩
  | @began id' _ _ _ phase hnew hphase =>
      have hne : id' ≠ id := by
        intro heq
        rw [heq, hget] at hnew
        cases hnew
      exact ⟨tx, by rw [Dict.get?_set_of_ne _ hne, hget], rfl, rfl, rfl, fun h => h⟩
  | @moved id' _ tx₁ tx₁' hget₁ hmove =>
      dsimp only
      rw [Dict.get?_set]
      by_cases heq : id' = id
      · subst heq
        rw [hget] at hget₁
        cases hget₁
        obtain ⟨htoken, hpassword, hnow⟩ := hmove.same
        refine ⟨tx₁', if_pos rfl, htoken, hpassword, hnow, fun hcommitted => ?_⟩
        have hrunning := hmove.not_ended
        rw [hcommitted] at hrunning
        cases hrunning
      · exact ⟨tx, by rw [if_neg heq, hget], rfl, rfl, rfl, fun h => h⟩
  | @committed id' tx₁ _ _ _ hget₁ hphase =>
      show ∃ tx', (s.resets.set id' (tx₁.endAs .committed)).get? id = some tx' ∧ _
      rw [Dict.get?_set]
      by_cases heq : id' = id
      · subst heq
        rw [hget] at hget₁
        cases hget₁
        exact ⟨_, if_pos rfl, rfl, rfl, rfl, fun _ => rfl⟩
      · exact ⟨tx, by rw [if_neg heq, hget], rfl, rfl, rfl, fun h => h⟩

/-- Where a reset comes from that an event leaves in the table: it was there, began with the event,
moved, or was committed. -/
theorem Effect.reset_cases {e : Event} (heffect : Effect rt s e s')
    (hget : s'.resets.get? id = some tx) :
    s.resets.get? id = some tx ∨
    (∃ token newPassword newHashedPassword, e = .reset id token newPassword newHashedPassword ∧
      (tx.phase = .begun ∨ tx.phase = .failed) ∧ tx.now = s.clock ∧
      tx.hashedToken = rt.hashVerificationToken token ∧
      tx.newHashedPassword = newHashedPassword) ∨
    (∃ tx₁, s.resets.get? id = some tx₁ ∧ Move s id tx₁ tx) ∨
    ∃ tx₁, s.resets.get? id = some tx₁ ∧ tx.phase = .committed := by
  -- an event that writes the table writes one entry
  have hset : ∀ {id' : Nat} {tx' : Reset}, (s.resets.set id' tx').get? id = some tx →
      id' = id ∧ tx' = tx ∨ s.resets.get? id = some tx := by
    intro id' tx' hget
    by_cases heq : id' = id
    · subst heq
      rw [Dict.get?_set_self] at hget
      exact .inl ⟨rfl, Option.some.inj hget⟩
    · rw [Dict.get?_set_of_ne _ heq] at hget
      exact .inr hget
  cases heffect with
  | quiet husers htokens hresets | issued _ _ _ _ _ hresets => exact .inl (hresets ▸ hget)
  | @began id' token newPassword newHashedPassword phase hnew hphase =>
      rcases hset hget with ⟨rfl, rfl⟩ | hget
      · exact .inr (.inl ⟨token, newPassword, newHashedPassword, rfl, hphase, rfl, rfl, rfl⟩)
      · exact .inl hget
  | moved hget₁ hmove =>
      rcases hset hget with ⟨rfl, rfl⟩ | hget
      · exact .inr (.inr (.inl ⟨_, hget₁, hmove⟩))
      · exact .inl hget
  | committed hget₁ hphase =>
      rcases hset hget with ⟨rfl, rfl⟩ | hget
      · exact .inr (.inr (.inr ⟨_, hget₁, rfl⟩))
      · exact .inl hget

/-! ### A commit uses up the tokens there were when the reset began -/

def Used (s : State) (hashedToken : String) : Prop :=
  ∃ row, s.tokens.get? hashedToken = some row ∧ row.usedAt.isSome = true

theorem Used.grows {hashedToken : String} (h : Used s hashedToken) (hgrows : Grows s s') :
    Used s' hashedToken := by
  obtain ⟨row, hrow, hused⟩ := h
  obtain ⟨row', hrow', -, -, hkeep⟩ := hgrows.tokens hashedToken row hrow
  exact ⟨row', hrow', hkeep hused⟩

/-- Of the tokens there were in `base`, those of the reset's user are used, written or still to
be visited once its `UPDATE` has started. -/
structure Covers (base : State) (id : Nat) (s : State) : Prop where
  grows : Grows base s
  covered : ∀ tx userId, s.resets.get? id = some tx → tx.phase.started = true →
    tx.phase.owner? = some userId → ∀ hashedToken row, base.tokens.get? hashedToken = some row →
      row.userId = userId →
        Used s hashedToken ∨ hashedToken ∈ tx.phase.todo ∨ hashedToken ∈ tx.phase.written

variable {base : State}

theorem Move.covers (hmove : Move s id tx tx') (hget : s.resets.get? id = some tx)
    (h : Covers base id s) {userId : Nat} (hstarted : tx'.phase.started = true)
    (howner : tx'.phase.owner? = some userId) {hashedToken : String} {row : TokenRow}
    (hrow : base.tokens.get? hashedToken = some row) (huser : row.userId = userId) :
    Used s hashedToken ∨ hashedToken ∈ tx'.phase.todo ∨ hashedToken ∈ tx'.phase.written := by
  obtain ⟨row', hrow', huser', -⟩ := h.grows.tokens hashedToken row hrow
  cases hmove with
  | found | returned | passedOver | locked | active => cases hstarted
  | ended hphase hended hfailed =>
      have hnone : some userId = none := howner.symm.trans (Phase.owner?_of_ended hended)
      cases hnone
  | @snapshot userId' hphase =>
      obtain rfl : userId' = userId := by simpa [Phase.owner?] using howner
      cases hused : row'.usedAt with
      | none => exact .inr (.inl (mem_openTokens.mpr ⟨row', hrow', huser'.trans huser, hused⟩))
      | some t => exact .inl ⟨row', hrow', by rw [hused]; rfl⟩
  | @visited userId' todo written written' hashedToken' row₁ hphase hmem hfree hrow₁ hwritten =>
      obtain rfl : userId' = userId := by simpa [Phase.owner?] using howner
      have hcovered := h.covered tx userId' hget (by rw [hphase]; rfl) (by rw [hphase]; rfl)
        hashedToken row hrow huser
      rw [hphase] at hcovered
      show _ ∨ hashedToken ∈ todo.erase hashedToken' ∨ hashedToken ∈ written'
      by_cases heq : hashedToken = hashedToken'
      · -- the row that is visited is written if it is open, and used if it is not
        subst heq
        rw [hrow'] at hrow₁
        cases hrow₁
        cases hused : row'.usedAt with
        | none =>
            refine .inr (.inr ?_)
            rw [hwritten]
            simp [huser'.trans huser, hused]
        | some t => exact .inl ⟨row', hrow', by rw [hused]; rfl⟩
      · rcases hcovered with hused | htodo | hdone
        · exact .inl hused
        · exact .inr (.inl ((List.mem_erase_of_ne heq).mpr htodo))
        · refine .inr (.inr ?_)
          rw [hwritten]
          split
          · exact List.mem_cons_of_mem _ hdone
          · exact hdone
  | @flushed userId' written hphase =>
      obtain rfl : userId' = userId := by simpa [Phase.owner?] using howner
      have hcovered := h.covered tx userId' hget (by rw [hphase]; rfl) (by rw [hphase]; rfl)
        hashedToken row hrow huser
      rw [hphase] at hcovered
      exact hcovered

theorem Effect.covers {e : Event} (heffect : Effect rt s e s') (h : Covers base id s) :
    Covers base id s' := by
  have hgrows := heffect.grows
  refine ⟨h.grows.trans hgrows, fun tx userId hget hstarted howner hashedToken row hrow huser => ?_⟩
  -- what is used stays so, and a reset that did not move has the same rows before it
  have hkeep : s.resets.get? id = some tx → Used s' hashedToken ∨ hashedToken ∈ tx.phase.todo ∨
      hashedToken ∈ tx.phase.written := fun hget =>
    (h.covered tx userId hget hstarted howner hashedToken row hrow huser).imp_left
      fun hused => hused.grows hgrows
  rcases heffect.reset_cases hget with hget | ⟨_, _, _, -, hphase, -⟩ | ⟨tx₁, hget₁, hmove⟩ |
    ⟨tx₁, -, hphase⟩
  · exact hkeep hget
  · rcases hphase with hphase | hphase <;> rw [hphase] at hstarted <;> cases hstarted
  · exact (hmove.covers hget₁ h hstarted howner hrow huser).imp_left fun hused =>
      hused.grows hgrows
  · rw [hphase] at hstarted
    cases hstarted

/-- After the commit every such token is used. -/
theorem Covers.commit (h : Covers base id s) (hget : s.resets.get? id = some tx)
    (hphase : tx.phase = .flushed userId written updatedAt)
    {hashedToken : String} {row : TokenRow} (hrow : base.tokens.get? hashedToken = some row)
    (huser : row.userId = userId) : Used (s.commit id tx userId written updatedAt) hashedToken := by
  have hcovered := h.covered tx userId hget (by rw [hphase]; rfl) (by rw [hphase]; rfl)
    hashedToken row hrow huser
  obtain ⟨row', hrow', -⟩ := h.grows.tokens hashedToken row hrow
  rw [hphase] at hcovered
  rcases hcovered with hused | htodo | hwritten
  · exact hused.grows (grows_commit ..)
  · cases htodo
  · have hcontains : written.contains hashedToken = true := List.contains_iff_mem.mpr hwritten
    refine ⟨_, by rw [commit_tokens_get?, hrow', Option.map_some], ?_⟩
    rw [if_pos hcontains]
    rfl

/-- Every reset began with an event of the run, and covers the tokens there were then. -/
theorem began_of_get {s₀ : State} (hempty : s₀.resets = .empty) :
    ∀ {events : List Event} {s : State} {tx : Reset}, run rt s₀ events = some s →
      s.resets.get? id = some tx →
      ∃ pre token newPassword newHashedPassword mid s₁,
        events = pre ++ .reset id token newPassword newHashedPassword :: mid ∧
        run rt s₀ pre = some s₁ ∧ tx.now = s₁.clock ∧
        tx.hashedToken = rt.hashVerificationToken token ∧
        tx.newHashedPassword = newHashedPassword ∧ Covers s₁ id s := by
  intro events
  induction events using List.reverseRecOn with
  | nil =>
      intro s tx hrun hget
      cases hrun
      rw [hempty] at hget
      cases hget
  | append_singleton events e ih =>
      intro s tx hrun hget
      obtain ⟨s', hrun', hlast⟩ := run_append.mp hrun
      obtain ⟨s'', hstep, hnil⟩ := run_cons.mp hlast
      obtain rfl : s'' = s := by simpa [run] using hnil
      have heffect := step_effect hstep
      cases hget' : s'.resets.get? id with
      | some tx' =>
          obtain ⟨pre, token, newPassword, newHashedPassword, mid, s₁, rfl, hpre, hnow, htoken,
            hpassword, hcovers⟩ := ih hrun' hget'
          obtain ⟨tx'', hget'', htoken', hpassword', hnow', -⟩ := heffect.reset hget'
          rw [hget] at hget''
          cases hget''
          exact ⟨pre, token, newPassword, newHashedPassword, mid ++ [e], s₁, by simp, hpre,
            hnow'.trans hnow, htoken'.trans htoken, hpassword'.trans hpassword,
            heffect.covers hcovers⟩
      | none =>
          -- the reset is new, so this is the event that began it
          have hcovers : Covers s' id s'' := by
            refine heffect.covers ⟨.of_tables rfl rfl, fun tx _ hget'' => ?_⟩
            rw [hget'] at hget''
            cases hget''
          have habsurd : ∀ tx₁, s'.resets.get? id ≠ some tx₁ := by simp [hget']
          rcases heffect.reset_cases hget with hget |
            ⟨token, newPassword, newHashedPassword, rfl, -, hnow, htoken, hpassword⟩ |
            ⟨tx₁, hget₁, -⟩ | ⟨tx₁, hget₁, -⟩
          · exact absurd hget (habsurd tx)
          · exact ⟨events, token, newPassword, newHashedPassword, [], s', rfl, hrun', hnow, htoken,
              hpassword, hcovers⟩
          · exact absurd hget₁ (habsurd tx₁)
          · exact absurd hget₁ (habsurd tx₁)

/-! ### Successes -/

/-- The token a commit succeeds with. -/
def succeeded (s : State) : Event → List String
  | .commit id => ((s.resets.get? id).map Reset.hashedToken).toList
  | _ => []

/-- The tokens that resets succeed with in a run, in order. -/
def successes (rt : Runtime) : State → List Event → List String
  | _, [] => []
  | s, e :: events =>
      match step rt s e with
      | none => []
      | some s' => succeeded s e ++ successes rt s' events

theorem successes_cons {e : Event} {events : List Event} (h : step rt s e = some s') :
    successes rt s (e :: events) = succeeded s e ++ successes rt s' events := by
  rw [successes, h]

/-- The reset that an enabled commit ends. -/
theorem commit_cases (h : step rt s (.commit id) = some s') :
    ∃ tx userId written updatedAt, s.resets.get? id = some tx ∧
      tx.phase = .flushed userId written updatedAt ∧
      s' = s.commit id tx userId written updatedAt := by
  simp only [step] at h
  split at h
  · rename_i tx hget
    split at h
    · rename_i userId written updatedAt hphase
      cases h
      exact ⟨tx, userId, written, updatedAt, hget, hphase, rfl⟩
    · cases h
  · cases h

/-- A reset can only commit while its token is open. -/
theorem Inv.presented_open (h : Inv s) (hget : s.resets.get? id = some tx)
    (hphase : tx.phase = .flushed userId written updatedAt) :
    ∃ row, s.tokens.get? tx.hashedToken = some row ∧ row.userId = userId ∧
      row.usedAt = none ∧ tx.now < row.expiresAt := by
  obtain ⟨-, row, hrow, huser, hopen⟩ := (h.ok id tx hget).holds userId (by rw [hphase]; rfl)
  simp only [TokenRow.isOpen, Bool.and_eq_true, Option.isNone_iff_eq_none, decide_eq_true_eq]
    at hopen
  exact ⟨row, hrow, huser, hopen⟩

/-- After its commit the presented token is used. -/
theorem Inv.commit_used (h : Inv s) (hget : s.resets.get? id = some tx)
    (hphase : tx.phase = .flushed userId written updatedAt) :
    Used (s.commit id tx userId written updatedAt) tx.hashedToken := by
  obtain ⟨row, hrow, -⟩ := h.presented_open hget hphase
  have hpresented := (h.ok id tx hget).presented (by rw [hphase]; rfl)
  rw [hphase] at hpresented
  rcases hpresented with htodo | hwritten
  · cases htodo
  · have hcontains : written.contains tx.hashedToken = true := List.contains_iff_mem.mpr hwritten
    refine ⟨_, by rw [commit_tokens_get?, hrow, Option.map_some], ?_⟩
    rw [if_pos hcontains]
    rfl

/-- A used token does not succeed any more. -/
theorem not_mem_successes {hashedToken : String} {events : List Event} (h : Inv s)
    (hused : Used s hashedToken) : hashedToken ∉ successes rt s events := by
  induction events generalizing s with
  | nil => simp [successes]
  | cons e events ih =>
      cases hstep : step rt s e with
      | none => simp [successes, hstep]
      | some s' =>
          have heffect := step_effect hstep
          have hrest := ih (heffect.inv h) (hused.grows heffect.grows)
          rw [successes_cons hstep, List.mem_append, not_or]
          refine ⟨?_, hrest⟩
          cases e with
          | commit id =>
              obtain ⟨tx, userId, written, updatedAt, hget, hphase, -⟩ := commit_cases hstep
              obtain ⟨row, hrow, -, hopen, -⟩ := h.presented_open hget hphase
              intro hmem
              obtain rfl : hashedToken = tx.hashedToken := by simpa [succeeded, hget] using hmem
              obtain ⟨row', hrow', hused'⟩ := hused
              rw [hrow] at hrow'
              cases hrow'
              rw [hopen] at hused'
              cases hused'
          | _ => simp [succeeded]

/-- No token succeeds twice. -/
theorem nodup_successes {events : List Event} (h : Inv s) : (successes rt s events).Nodup := by
  induction events generalizing s with
  | nil => exact .nil
  | cons e events ih =>
      cases hstep : step rt s e with
      | none => simp [successes, hstep]
      | some s' =>
          have hinv := (step_effect hstep).inv h
          rw [successes_cons hstep]
          cases e with
          | commit id =>
              obtain ⟨tx, userId, written, updatedAt, hget, hphase, rfl⟩ := commit_cases hstep
              simp only [succeeded, hget, Option.map_some, Option.toList_some,
                List.singleton_append]
              refine List.nodup_cons.mpr ⟨?_, ih hinv⟩
              exact not_mem_successes hinv (h.commit_used hget hphase)
          | _ => exact ih hinv

/-! ### The law -/

/-- Between two states only the password and `updated_at` of one user and `used_at` of its tokens
differ. -/
structure ChangesOnly (userId : Nat) (newHashedPassword : String) (s s' : State) : Prop where
  others : ∀ k, k ≠ userId → s'.users.get? k = s.users.get? k
  password : ∃ user updatedAt, s.users.get? userId = some user ∧ s'.users.get? userId =
    some { user with hashedPassword := newHashedPassword, updatedAt := updatedAt }
  foreign : ∀ hashedToken row, s.tokens.get? hashedToken = some row → row.userId ≠ userId →
    s'.tokens.get? hashedToken = some row
  own : ∀ hashedToken row, s.tokens.get? hashedToken = some row →
    ∃ usedAt, s'.tokens.get? hashedToken = some { row with usedAt := usedAt }
  noNew : ∀ hashedToken, s.tokens.get? hashedToken = none → s'.tokens.get? hashedToken = none

theorem Inv.changesOnly (h : Inv s) (hget : s.resets.get? id = some tx)
    (hphase : tx.phase = .flushed userId written updatedAt) :
    ChangesOnly userId tx.newHashedPassword s (s.commit id tx userId written updatedAt) where
  others k hne := by
    rw [commit_users_get?]
    simp [hne]
  password := by
    have hsome := (h.ok id tx hget).user userId (by rw [hphase]; rfl)
    obtain ⟨user, huser⟩ := Option.isSome_iff_exists.mp hsome
    refine ⟨user, updatedAt, huser, ?_⟩
    rw [commit_users_get?, huser, Option.map_some, if_pos rfl]
  foreign hashedToken row hrow hne := by
    have hnot : hashedToken ∉ written := by
      intro hwritten
      obtain ⟨row', hrow', huser⟩ := (h.ok id tx hget).owned userId (by rw [hphase]; rfl)
        hashedToken (by rw [hphase]; exact .inr hwritten)
      rw [hrow] at hrow'
      cases hrow'
      exact hne huser
    rw [commit_tokens_get?, hrow]
    simp [hnot]
  own hashedToken row hrow := by
    rw [commit_tokens_get?, hrow, Option.map_some]
    split
    · exact ⟨some tx.now, rfl⟩
    · exact ⟨row.usedAt, rfl⟩
  noNew hashedToken hnone := by rw [commit_tokens_get?, hnone, Option.map_none]

/-- The reset an event belongs to. -/
def Event.reset? : Event → Option Nat
  | .reset id .. | .statement id _ | .commit id => some id
  | _ => none

/-- The law of a run from `s₀` to `s`: no token succeeds twice; a success is with an open token
whose reset began before it expired, changes only the user's password and tokens, and leaves
none of the tokens the user had when the reset began to succeed later; and the events of a reset
that does not commit leave the tables as they were. -/
structure SingleUse (rt : Runtime) (s₀ : State) (events : List Event) (s : State) : Prop where
  once : (successes rt s₀ events).Nodup
  success : ∀ before id after, events = before ++ .commit id :: after →
    ∃ pre token newPassword newHashedPassword mid s₁ s₂ s₃ row,
      before = pre ++ .reset id token newPassword newHashedPassword :: mid ∧
      run rt s₀ pre = some s₁ ∧ run rt s₀ before = some s₂ ∧
      step rt s₂ (.commit id) = some s₃ ∧
      s₂.tokens.get? (rt.hashVerificationToken token) = some row ∧
      row.usedAt = none ∧ s₁.clock < row.expiresAt ∧
      ChangesOnly row.userId newHashedPassword s₂ s₃ ∧
      ∀ hashedToken old, s₁.tokens.get? hashedToken = some old → old.userId = row.userId →
        hashedToken ∉ successes rt s₃ after
  failure : ∀ id tx, s.resets.get? id = some tx → tx.phase ≠ .committed →
    ∀ before e after s₁ s₂, events = before ++ e :: after → e.reset? = some id →
      run rt s₀ before = some s₁ → step rt s₁ e = some s₂ →
      s₂.users = s₁.users ∧ s₂.tokens = s₁.tokens

/-- A committed reset stays committed. -/
theorem run_committed {events : List Event} (hrun : run rt s events = some s')
    (hget : s.resets.get? id = some tx) (hphase : tx.phase = .committed) :
    ∃ tx', s'.resets.get? id = some tx' ∧ tx'.phase = .committed := by
  refine run_invariant (P := fun s => ∃ tx, s.resets.get? id = some tx ∧ tx.phase = .committed)
    ?_ hrun ⟨tx, hget, hphase⟩
  rintro s e s' heffect ⟨tx, hget, hphase⟩
  obtain ⟨tx', hget', -, -, -, hkeep⟩ := heffect.reset hget
  exact ⟨tx', hget', hkeep hphase⟩

theorem failure_changes_nothing {e : Event} {after : List Event} {s₁ s₂ : State}
    (hstep : step rt s₁ e = some s₂) (hrun : run rt s₂ after = some s)
    (hevent : e.reset? = some id) (hget : s.resets.get? id = some tx)
    (hphase : tx.phase ≠ .committed) : s₂.users = s₁.users ∧ s₂.tokens = s₁.tokens := by
  have heffect := step_effect hstep
  cases heffect with
  | quiet husers htokens hresets => exact ⟨husers, htokens⟩
  | issued => cases hevent
  | began hnew hbegun => exact ⟨rfl, rfl⟩
  | moved hget' hmove => exact ⟨rfl, rfl⟩
  | @committed id' tx₁ userId written updatedAt hget' hflushed =>
      obtain rfl : id' = id := by simpa [Event.reset?] using hevent
      have hcommitted : (s₁.commit id' tx₁ userId written updatedAt).resets.get? id' =
          some (tx₁.endAs .committed) := by
        show (s₁.resets.set id' _).get? id' = _
        rw [Dict.get?_set_self]
      obtain ⟨tx', hget'', hphase'⟩ := run_committed hrun hcommitted rfl
      rw [hget] at hget''
      cases hget''
      exact absurd hphase' hphase

/-- Whatever tables the service starts on, and however requests and resets interleave, abort and
wait for each other, the law holds of the run. -/
theorem reset_tokens_single_use (rt : Runtime) (s₀ s : State) (events : List Event)
    (hempty : s₀.resets = .empty) (hrun : run rt s₀ events = some s) :
    SingleUse rt s₀ events s := by
  have hstart : Inv s₀ := by
    refine ⟨fun id tx hget => ?_, fun id id' tx tx' _ hget => ?_⟩ <;>
      rw [hempty] at hget <;> cases hget
  refine ⟨nodup_successes hstart, ?_, ?_⟩
  · rintro before id after rfl
    obtain ⟨s₂, hbefore, hrest⟩ := run_append.mp hrun
    obtain ⟨s₃, hstep, -⟩ := run_cons.mp hrest
    obtain ⟨tx, userId, written, updatedAt, hget, hphase, rfl⟩ := commit_cases hstep
    have hinv := run_inv hbefore hstart
    obtain ⟨pre, token, newPassword, newHashedPassword, mid, s₁, rfl, hpre, hnow, htoken, rfl,
      hcovers⟩ := began_of_get hempty hbefore hget
    obtain ⟨row, hrow, rfl, hopen, hexpires⟩ := hinv.presented_open hget hphase
    refine ⟨pre, token, newPassword, _, mid, s₁, s₂, _, row, rfl, hpre, hbefore, hstep,
      htoken ▸ hrow, hopen, hnow ▸ hexpires, hinv.changesOnly hget hphase, ?_⟩
    intro hashedToken old hold huser
    exact not_mem_successes ((step_effect hstep).inv hinv) (hcovers.commit hget hphase hold huser)
  · rintro id tx hget hphase before e after s₁ s₂ rfl hevent hbefore hstep
    obtain ⟨s₁', hbefore', hrest⟩ := run_append.mp hrun
    rw [hbefore] at hbefore'
    cases hbefore'
    obtain ⟨s₂', hstep', hafter⟩ := run_cons.mp hrest
    rw [hstep] at hstep'
    cases hstep'
    exact failure_changes_nothing hstep hafter hevent hget hphase

/-! Two resets of one user lock their tokens and then wait for each other's.  The deadlock detector
takes two time units to abort the second one; the first goes on and commits, after its token has
expired. -/

def plainRuntime : Runtime := ⟨fun token => token, fun email => email, 15⟩

def twoTokens : State where
  clock := 9
  users := Dict.empty.set 1 ⟨"a@example.org", "old", true, none, 0⟩
  tokens := (Dict.empty.set "first" ⟨1, 10, none⟩).set "second" ⟨1, 10, none⟩
  requests := .empty
  resets := .empty

def deadlockEvents : List Event :=
  [.reset 1 "first" "Passw0rd!" "new-1", .statement 1 .selectToken, .statement 1 .lockToken,
    .reset 2 "second" "Passw0rd!" "new-2", .statement 2 .selectToken, .statement 2 .lockToken,
    .statement 1 .selectUser, .statement 1 .updateTokens, .statement 2 .selectUser,
    .statement 2 .updateTokens, .statement 1 (.updateToken "first"), .tick 2, .statement 2 .abort,
    .statement 1 (.updateToken "second"), .statement 1 .flushUser]

theorem deadlockEvents_single_use :
    ∃ s, run plainRuntime twoTokens (deadlockEvents ++ [.commit 1]) = some s ∧
      SingleUse plainRuntime twoTokens (deadlockEvents ++ [.commit 1]) s := by
  have hrun : (run plainRuntime twoTokens (deadlockEvents ++ [.commit 1])).isSome = true := by
    decide +kernel
  obtain ⟨s, hs⟩ := Option.isSome_iff_exists.mp hrun
  exact ⟨s, hs, reset_tokens_single_use plainRuntime twoTokens s _ rfl hs⟩

/-- The token has expired when the reset succeeds, and the success also changes `updated_at`. -/
theorem success_after_expiry :
    ∃ s₂ s₃, run plainRuntime twoTokens deadlockEvents = some s₂ ∧
      step plainRuntime s₂ (.commit 1) = some s₃ ∧
      successes plainRuntime twoTokens (deadlockEvents ++ [.commit 1]) = ["first"] ∧
      s₂.tokens.get? "first" = some ⟨1, 10, none⟩ ∧ ¬ s₂.clock < 10 ∧
      s₂.users.get? 1 = some ⟨"a@example.org", "old", true, none, 0⟩ ∧
      s₃.users.get? 1 = some ⟨"a@example.org", "new-1", true, none, 11⟩ := by
  have hcheck : ((run plainRuntime twoTokens deadlockEvents).bind fun s₂ =>
      (step plainRuntime s₂ (.commit 1)).map fun s₃ =>
        decide (s₂.tokens.get? "first" = some ⟨1, 10, none⟩ ∧ ¬ s₂.clock < 10 ∧
          s₂.users.get? 1 = some ⟨"a@example.org", "old", true, none, 0⟩ ∧
          s₃.users.get? 1 = some ⟨"a@example.org", "new-1", true, none, 11⟩)) = some true := by
    decide +kernel
  obtain ⟨s₂, hrun, hcheck⟩ := Option.bind_eq_some_iff.mp hcheck
  obtain ⟨s₃, hstep, hcheck⟩ := Option.map_eq_some_iff.mp hcheck
  exact ⟨s₂, s₃, hrun, hstep, by decide +kernel, of_decide_eq_true hcheck⟩

end PasswordReset

end GaiaOS
