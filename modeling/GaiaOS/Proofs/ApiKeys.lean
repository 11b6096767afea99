/-
An API key opens the account it was handed out for until a revocation is confirmed.

The law is read off the answers alone (`key_opens_iff`): a request that carries a raw key is
authenticated as a user exactly if some call was told of that key and its caller is the user, no
call has been told that it is revoked, and the account is not deleted.  It holds as long as the
keys drawn hash differently; two rows with one hash would make the provider fail on both.
-/
import GaiaOS.Proofs.AccountLifecycle

namespace GaiaOS

namespace Accounts

open Auth InvestigationsApi

variable {lib : Library} {s s' : State}

/-! ### What the clients know -/

/-- A call was told of the key, and its caller is the user. -/
def HandedOut (lib : Library) (s : State) (keyId rawKey : String) (userId : Uuid) : Prop :=
  ∃ id name key createdAt, lib.sha256Hex key = lib.sha256Hex rawKey ∧
    s.calls.get? id = some ⟨some userId, .answered (.keyCreated keyId name key createdAt)⟩

/-- A call was told that the key is revoked. -/
def ToldRevoked (s : State) (keyId : String) : Prop :=
  ∃ id caller, s.calls.get? id = some ⟨caller, .answered (.keyRevoked keyId)⟩

/-! ### Keys that are drawn differ -/

/-- The hash of a key that is about to be stored. -/
def Phase.keyHash : Phase → Option String
  | .writing (.insertKey _ _ row) => some row.keyHash
  | _ => none

/-- The hashes of the keys that are stored or about to be. -/
def State.keyHashes (s : State) : List String :=
  s.apiKeys.entries.map (fun e => e.2.keyHash) ++
    s.calls.entries.filterMap fun e => e.2.phase.keyHash

/-- A key that is drawn has a hash that no other has. -/
def FreshKeys (lib : Library) (s : State) : Event → Prop
  | .draw _ drawn => lib.sha256Hex ("gaios_live_" ++ drawn.secret) ∉ s.keyHashes
  | _ => True

instance (s : State) (e : Event) : Decidable (FreshKeys lib s e) := by
  unfold FreshKeys
  split <;> infer_instance

theorem row_mem_keyHashes {keyId : String} {row : KeyRow} (h : s.apiKeys.get? keyId = some row) :
    row.keyHash ∈ s.keyHashes :=
  List.mem_append_left _ (List.mem_map.mpr ⟨(keyId, row), s.apiKeys.mem_entries_iff.mpr h, rfl⟩)

theorem call_mem_keyHashes {id : Nat} {call : Call} {hash : String}
    (h : s.calls.get? id = some call) (hhash : call.phase.keyHash = some hash) :
    hash ∈ s.keyHashes :=
  List.mem_append_right _
    (List.mem_filterMap.mpr ⟨(id, call), s.calls.mem_entries_iff.mpr h, hhash⟩)

structure KeysApart (s : State) : Prop where
  rows : ∀ k k' row row', s.apiKeys.get? k = some row → s.apiKeys.get? k' = some row' →
    row.keyHash = row'.keyHash → k = k'
  stored : ∀ k row id call hash, s.apiKeys.get? k = some row → s.calls.get? id = some call →
    call.phase.keyHash = some hash → row.keyHash ≠ hash
  calls : ∀ id id' call call' hash, s.calls.get? id = some call → s.calls.get? id' = some call' →
    call.phase.keyHash = some hash → call'.phase.keyHash = some hash → id = id'

theorem KeysApart.of_tables (h : KeysApart s) (hkeys : s'.apiKeys = s.apiKeys)
    (hcalls : s'.calls = s.calls) : KeysApart s' := by
  refine ⟨?_, ?_, ?_⟩
  · rw [hkeys]
    exact h.rows
  · rw [hkeys, hcalls]
    exact h.stored
  · rw [hcalls]
    exact h.calls

/-- A call moves on, to store a key of its own at most. -/
theorem KeysApart.move (h : KeysApart s) {id : Nat} {caller : Option Uuid} {phase : Phase}
    (hphase : ∀ hash, phase.keyHash = some hash → hash ∉ s.keyHashes) :
    KeysApart (s.move id caller phase) := by
  have hcall : ∀ j call hash, (s.move id caller phase).calls.get? j = some call →
      call.phase.keyHash = some hash →
      (j = id ∧ hash ∉ s.keyHashes) ∨ s.calls.get? j = some call := by
    intro j call hash hget hhash
    simp only [State.move, Dict.get?_set] at hget
    split at hget
    · rename_i hj
      cases hget
      exact Or.inl ⟨hj.symm, hphase hash hhash⟩
    · exact Or.inr hget
  refine ⟨h.rows, ?_, ?_⟩
  · intro k row j call hash hrow hget hhash hsame
    rcases hcall j call hash hget hhash with ⟨-, hfresh⟩ | hold
    · exact hfresh (hsame ▸ row_mem_keyHashes hrow)
    · exact h.stored k row j call hash hrow hold hhash hsame
  · intro j j' call call' hash hget hget' hhash hhash'
    rcases hcall j call hash hget hhash with ⟨hj, hfresh⟩ | hold
    · rcases hcall j' call' hash hget' hhash' with ⟨hj', -⟩ | hold'
      · exact hj.trans hj'.symm
      · exact absurd (call_mem_keyHashes hold' hhash') hfresh
    · rcases hcall j' call' hash hget' hhash' with ⟨-, hfresh'⟩ | hold'
      · exact absurd (call_mem_keyHashes hold hhash) hfresh'
      · exact h.calls j j' call call' hash hold hold' hhash hhash'

/-- A key that is stored is no longer about to be. -/
theorem KeysApart.insert (h : KeysApart s) {id : Nat} {caller : Option Uuid} {keyId key : String}
    {row : KeyRow} {answer : Answer}
    (hget : s.calls.get? id = some ⟨caller, .writing (.insertKey keyId key row)⟩) :
    KeysApart (State.move { s with apiKeys := s.apiKeys.set keyId row } id caller
      (.answered answer)) := by
  have hrow : ∀ k r, (s.apiKeys.set keyId row).get? k = some r →
      (k = keyId ∧ r = row) ∨ s.apiKeys.get? k = some r := by
    intro k r hr
    rw [Dict.get?_set] at hr
    split at hr
    · rename_i hk
      cases hr
      exact Or.inl ⟨hk.symm, rfl⟩
    · exact Or.inr hr
  have hcall : ∀ j call hash, (s.calls.set id ⟨caller, .answered answer⟩).get? j = some call →
      call.phase.keyHash = some hash → j ≠ id ∧ s.calls.get? j = some call := by
    intro j call hash hj hhash
    rw [Dict.get?_set] at hj
    split at hj
    · cases hj
      cases hhash
    · rename_i hne
      exact ⟨fun heq => hne heq.symm, hj⟩
  refine ⟨?_, ?_, ?_⟩
  · intro k k' r r' hr hr' hsame
    rcases hrow k r hr with ⟨hk, hnew⟩ | hold
    · rcases hrow k' r' hr' with ⟨hk', -⟩ | hold'
      · exact hk.trans hk'.symm
      · exact absurd (hsame.symm.trans (by rw [hnew])) (h.stored k' r' id _ _ hold' hget rfl)
    · rcases hrow k' r' hr' with ⟨-, hnew⟩ | hold'
      · exact absurd (hsame.trans (by rw [hnew])) (h.stored k r id _ _ hold hget rfl)
      · exact h.rows k k' r r' hold hold' hsame
  · intro k r j call hash hr hj hhash hsame
    obtain ⟨hne, hold⟩ := hcall j call hash hj hhash
    rcases hrow k r hr with ⟨-, hnew⟩ | hold'
    · refine hne (h.calls j id call _ hash hold hget hhash ?_)
      rw [← hsame, hnew]
      rfl
    · exact h.stored k r j call hash hold' hold hhash hsame
  · intro j j' call call' hash hj hj' hhash hhash'
    exact h.calls j j' call call' hash (hcall j call hash hj hhash).2
      (hcall j' call' hash hj' hhash').2 hhash hhash'

theorem KeysApart.revoke (h : KeysApart s) {keyId : String} {row : KeyRow}
    (hget : s.apiKeys.get? keyId = some row) (revokedAt : Int) :
    KeysApart { s with apiKeys := s.apiKeys.set keyId (row.revoke revokedAt) } := by
  have hrow : ∀ k r, (s.apiKeys.set keyId (row.revoke revokedAt)).get? k = some r →
      ∃ r₀, s.apiKeys.get? k = some r₀ ∧ r.keyHash = r₀.keyHash := by
    intro k r hr
    rw [Dict.get?_set] at hr
    split at hr
    · rename_i hk
      cases hr
      exact ⟨row, by rw [← hk, hget], rfl⟩
    · exact ⟨r, hr, rfl⟩
  refine ⟨?_, ?_, h.calls⟩
  · intro k k' r r' hr hr' hsame
    obtain ⟨r₀, hr₀, heq⟩ := hrow k r hr
    obtain ⟨r₀', hr₀', heq'⟩ := hrow k' r' hr'
    exact h.rows k k' r₀ r₀' hr₀ hr₀' (by rw [← heq, hsame, heq'])
  · intro k r id call hash hr hcall hcallHash
    obtain ⟨r₀, hr₀, heq⟩ := hrow k r hr
    rw [heq]
    exact h.stored k r₀ id call hash hr₀ hcall hcallHash

/-! ### What is answered is what is stored -/

/-- What is known of a call that is about to issue a key. -/
def PhaseKeys (lib : Library) (caller : Option Uuid) : Phase → Prop
  | .drawing (.createApiKey ownerId _) => caller = some ownerId
  | .writing (.insertKey _ key row) =>
      caller = some row.ownerId ∧ row.keyHash = lib.sha256Hex key ∧ row.isRevoked = false
  | _ => True

structure KeysTold (lib : Library) (s : State) : Prop where
  rows : ∀ k row, s.apiKeys.get? k = some row → ∃ id name key createdAt,
    lib.sha256Hex key = row.keyHash ∧
      s.calls.get? id = some ⟨some row.ownerId, .answered (.keyCreated k name key createdAt)⟩
  calls : ∀ id caller k name key createdAt,
    s.calls.get? id = some ⟨caller, .answered (.keyCreated k name key createdAt)⟩ →
    ∃ row, s.apiKeys.get? k = some row ∧ row.keyHash = lib.sha256Hex key ∧
      caller = some row.ownerId
  revoked : ∀ k, ToldRevoked s k ↔ ∃ row, s.apiKeys.get? k = some row ∧ row.isRevoked = true
  phases : ∀ id call, s.calls.get? id = some call → PhaseKeys lib call.caller call.phase

/-- A call that may still move. -/
def Unanswered (s : State) (id : Nat) : Prop :=
  ∀ caller answer, s.calls.get? id ≠ some ⟨caller, .answered answer⟩

section Move

variable {id : Nat} {caller : Option Uuid} {phase : Phase}

theorem answered_move (hopen : Unanswered s id) {j : Nat} {c : Option Uuid} {answer : Answer}
    (h : s.calls.get? j = some ⟨c, .answered answer⟩) :
    (s.move id caller phase).calls.get? j = some ⟨c, .answered answer⟩ := by
  simp only [State.move, Dict.get?_set]
  rw [if_neg, h]
  rintro rfl
  exact hopen c answer h

theorem answered_of_move {j : Nat} {c : Option Uuid} {answer : Answer}
    (h : (s.move id caller phase).calls.get? j = some ⟨c, .answered answer⟩) :
    (c = caller ∧ phase = .answered answer) ∨ s.calls.get? j = some ⟨c, .answered answer⟩ := by
  simp only [State.move, Dict.get?_set] at h
  split at h
  · cases h
    exact Or.inl ⟨rfl, rfl⟩
  · exact Or.inr h

theorem phases_move
    (h : ∀ j call, s.calls.get? j = some call → PhaseKeys lib call.caller call.phase)
    (hphase : PhaseKeys lib caller phase) (j : Nat) (call : Call)
    (hget : (s.move id caller phase).calls.get? j = some call) :
    PhaseKeys lib call.caller call.phase := by
  simp only [State.move, Dict.get?_set] at hget
  split at hget
  · cases hget
    exact hphase
  · exact h j call hget

/-- A call moves on without issuing or revoking a key. -/
theorem KeysTold.move (h : KeysTold lib s) (hopen : Unanswered s id)
    (hphase : PhaseKeys lib caller phase)
    (hcreated : ∀ k name key createdAt, phase ≠ .answered (.keyCreated k name key createdAt))
    (hrevoked : ∀ k, phase = .answered (.keyRevoked k) →
      ∃ row, s.apiKeys.get? k = some row ∧ row.isRevoked = true) :
    KeysTold lib (s.move id caller phase) := by
  refine ⟨?_, ?_, ?_, phases_move h.phases hphase⟩
  · intro k row hrow
    obtain ⟨j, name, key, createdAt, hhash, hget⟩ := h.rows k row hrow
    exact ⟨j, name, key, createdAt, hhash, answered_move hopen hget⟩
  · intro j c k name key createdAt hget
    rcases answered_of_move hget with ⟨-, hnew⟩ | hold
    · exact absurd hnew (hcreated k name key createdAt)
    · exact h.calls j c k name key createdAt hold
  · intro k
    constructor
    · rintro ⟨j, c, hget⟩
      rcases answered_of_move hget with ⟨-, hnew⟩ | hold
      · exact hrevoked k hnew
      · exact (h.revoked k).mp ⟨j, c, hold⟩
    · intro hrow
      obtain ⟨j, c, hget⟩ := (h.revoked k).mpr hrow
      exact ⟨j, c, answered_move hopen hget⟩

/-- A call issues a key. -/
theorem KeysTold.insert (h : KeysTold lib s) {keyId key : String} {row : KeyRow}
    (hget : s.calls.get? id = some ⟨caller, .writing (.insertKey keyId key row)⟩)
    (hnew : s.apiKeys.get? keyId = none) :
    KeysTold lib (State.move { s with apiKeys := s.apiKeys.set keyId row } id caller
      (.answered (.keyCreated keyId row.name key row.createdAt))) := by
  obtain ⟨hcaller, hhash, hunrevoked⟩ := h.phases id _ hget
  have hopen : Unanswered s id := by
    intro c answer heq
    rw [hget] at heq
    cases heq
  have hrow : ∀ k r, (s.apiKeys.set keyId row).get? k = some r →
      (k = keyId ∧ r = row) ∨ (k ≠ keyId ∧ s.apiKeys.get? k = some r) := by
    intro k r hr
    rw [Dict.get?_set] at hr
    split at hr
    · rename_i hk
      cases hr
      exact Or.inl ⟨hk.symm, rfl⟩
    · rename_i hne
      exact Or.inr ⟨fun heq => hne heq.symm, hr⟩
  have hkeep : ∀ k r, s.apiKeys.get? k = some r → (s.apiKeys.set keyId row).get? k = some r := by
    intro k r hr
    rw [Dict.get?_set, if_neg, hr]
    rintro rfl
    rw [hnew] at hr
    cases hr
  refine ⟨?_, ?_, ?_, phases_move h.phases trivial⟩
  · intro k r hr
    rcases hrow k r hr with ⟨rfl, rfl⟩ | ⟨-, hold⟩
    · refine ⟨id, r.name, key, r.createdAt, hhash.symm, ?_⟩
      rw [← hcaller]
      exact Dict.get?_set_self _ _ _
    · obtain ⟨j, name, key', createdAt, hsame, hj⟩ := h.rows k r hold
      exact ⟨j, name, key', createdAt, hsame, answered_move hopen hj⟩
  · intro j c k name key' createdAt hj
    rcases answered_of_move (s := s) hj with ⟨hc, htold⟩ | hold
    · cases htold
      exact ⟨row, Dict.get?_set_self _ _ _, hhash, hc.trans hcaller⟩
    · obtain ⟨r, hr, hsame, hc⟩ := h.calls j c k name key' createdAt hold
      exact ⟨r, hkeep k r hr, hsame, hc⟩
  · intro k
    constructor
    · rintro ⟨j, c, hj⟩
      rcases answered_of_move (s := s) hj with ⟨-, htold⟩ | hold
      · cases htold
      · obtain ⟨r, hr, hset⟩ := (h.revoked k).mp ⟨j, c, hold⟩
        exact ⟨r, hkeep k r hr, hset⟩
    · rintro ⟨r, hr, hset⟩
      rcases hrow k r hr with ⟨-, rfl⟩ | ⟨-, hold⟩
      · rw [hunrevoked] at hset
        cases hset
      · obtain ⟨j, c, hj⟩ := (h.revoked k).mpr ⟨r, hold, hset⟩
        exact ⟨j, c, answered_move hopen hj⟩

/-- A call revokes a key. -/
theorem KeysTold.revoke (h : KeysTold lib s) {keyId : String} {revokedAt : Int} {row : KeyRow}
    (hget : s.calls.get? id = some ⟨caller, .writing (.revokeKey keyId revokedAt)⟩)
    (hstored : s.apiKeys.get? keyId = some row) :
    KeysTold lib (State.move { s with apiKeys := s.apiKeys.set keyId (row.revoke revokedAt) } id
      caller (.answered (.keyRevoked keyId))) := by
  have hopen : Unanswered s id := by
    intro c answer heq
    rw [hget] at heq
    cases heq
  refine ⟨?_, ?_, ?_, phases_move h.phases trivial⟩
  · intro k r hr
    rw [State.move, Dict.get?_set] at hr
    split at hr
    · rename_i hk
      cases hr
      obtain ⟨j, name, key, createdAt, hsame, hj⟩ := h.rows keyId row hstored
      exact ⟨j, name, key, createdAt, hsame, hk ▸ answered_move hopen hj⟩
    · obtain ⟨j, name, key, createdAt, hsame, hj⟩ := h.rows k r hr
      exact ⟨j, name, key, createdAt, hsame, answered_move hopen hj⟩
  · intro j c k name key createdAt hj
    rcases answered_of_move (s := s) hj with ⟨-, htold⟩ | hold
    · cases htold
    · obtain ⟨r, hr, hsame, hc⟩ := h.calls j c k name key createdAt hold
      by_cases hk : keyId = k
      · subst hk
        rw [hstored] at hr
        cases hr
        exact ⟨_, Dict.get?_set_self _ _ _, hsame, hc⟩
      · exact ⟨r, (Dict.get?_set_of_ne _ hk _).trans hr, hsame, hc⟩
  · intro k
    by_cases hk : keyId = k
    · subst hk
      exact ⟨fun _ => ⟨_, Dict.get?_set_self _ _ _, rfl⟩,
        fun _ => ⟨id, caller, Dict.get?_set_self _ _ _⟩⟩
    · have hrow : (s.apiKeys.set keyId (row.revoke revokedAt)).get? k = s.apiKeys.get? k :=
        Dict.get?_set_of_ne _ hk _
      constructor
      · rintro ⟨j, c, hj⟩
        rcases answered_of_move (s := s) hj with ⟨-, htold⟩ | hold
        · cases htold
          exact absurd rfl hk
        · obtain ⟨r, hr, hset⟩ := (h.revoked k).mp ⟨j, c, hold⟩
          exact ⟨r, hrow.trans hr, hset⟩
      · rintro ⟨r, hr, hset⟩
        obtain ⟨j, c, hj⟩ := (h.revoked k).mpr ⟨r, hrow.symm.trans hr, hset⟩
        exact ⟨j, c, answered_move hopen hj⟩

end Move

/-! ### Reads -/

theorem ask_keys (ask : Ask) :
    PhaseKeys lib (s.ask lib ask).caller (s.ask lib ask).phase ∧
      (s.ask lib ask).phase.keyHash = none := by
  cases ask with
  | register email password fullName =>
      simp only [State.ask, State.register]
      repeat' split
      all_goals exact ⟨trivial, rfl⟩
  | login email password =>
      simp only [State.ask, State.login]
      repeat' split
      all_goals exact ⟨trivial, rfl⟩
  | verifyEmail token =>
      simp only [State.ask, State.verifyEmail]
      repeat' split
      all_goals exact ⟨trivial, rfl⟩
  | resendVerification email =>
      simp only [State.ask, State.resendVerification]
      repeat' split
      all_goals exact ⟨trivial, rfl⟩
  | createAdmin email password fullName =>
      simp only [State.ask, State.createAdmin]
      repeat' split
      all_goals exact ⟨trivial, rfl⟩
  | softDeleteUser userId =>
      simp only [State.ask, State.softDeleteUser]
      split
      all_goals exact ⟨trivial, rfl⟩
  | createApiKey request name =>
      simp only [State.ask, State.forUser]
      split
      · exact ⟨trivial, rfl⟩
      · exact ⟨rfl, rfl⟩
  | revokeApiKey request keyId =>
      simp only [State.ask, State.forUser, State.revokeApiKey]
      repeat' split
      all_goals exact ⟨trivial, rfl⟩

/-- Before it has written anything, a call is told of a revocation only if there has been one. -/
theorem ask_keyRevoked {ask : Ask} {k : String}
    (h : (s.ask lib ask).phase = .answered (.keyRevoked k)) :
    ∃ row, s.apiKeys.get? k = some row ∧ row.isRevoked = true := by
  cases ask with
  | register email password fullName =>
      simp only [State.ask, State.register] at h
      repeat' split at h
      all_goals cases h
  | login email password =>
      simp only [State.ask, State.login, invalidCredentials] at h
      repeat' split at h
      all_goals cases h
  | verifyEmail token =>
      simp only [State.ask, State.verifyEmail, invalidVerificationToken] at h
      repeat' split at h
      all_goals cases h
  | resendVerification email =>
      simp only [State.ask, State.resendVerification, verificationSent] at h
      repeat' split at h
      all_goals cases h
  | createAdmin email password fullName =>
      simp only [State.ask, State.createAdmin] at h
      repeat' split at h
      all_goals cases h
  | softDeleteUser userId =>
      simp only [State.ask, State.softDeleteUser] at h
      split at h
      all_goals cases h
  | createApiKey request name =>
      rcases forUser_answered (fun _ _ => requireRole_error) h with hrefusal | ⟨user, hroute⟩
      · cases hrefusal
      · cases hroute
  | revokeApiKey request keyId =>
      rcases forUser_answered (fun _ _ => getCurrentActiveUser_error) h with
        hrefusal | ⟨user, hroute⟩
      · cases hrefusal
      · rcases revokeApiKey_answered hroute with hrefusal | ⟨hsame, hrow⟩
        · cases hrefusal
        · cases hsame
          exact hrow

theorem onFailure_plain {write : Write} {now : Int} :
    (∀ k name key createdAt, write.onFailure lib now ≠ .keyCreated k name key createdAt) ∧
      ∀ k, write.onFailure lib now ≠ .keyRevoked k := by
  unfold Write.onFailure tokenResponse
  refine ⟨fun k name key createdAt h => ?_, fun k h => ?_⟩
  · repeat' split at h
    all_goals cases h
  · repeat' split at h
    all_goals cases h

theorem onSuccess_update {userId : Uuid} {loaded : Account} {change : Change} {now : Int} :
    (∀ k name key createdAt, (Write.updateUser userId loaded change).onSuccess lib now ≠
      .keyCreated k name key createdAt) ∧
      ∀ k, (Write.updateUser userId loaded change).onSuccess lib now ≠ .keyRevoked k := by
  cases change with
  | updateLastLogin now' =>
      simp only [Write.onSuccess, tokenResponse]
      split
      all_goals simp
  | _ => simp [Write.onSuccess, verificationSent]

theorem onSuccess_insertUser {origin : Origin} {userId : Uuid} {account : Account} {now : Int} :
    (∀ k name key createdAt, (Write.insertUser origin userId account).onSuccess lib now ≠
      .keyCreated k name key createdAt) ∧
      ∀ k, (Write.insertUser origin userId account).onSuccess lib now ≠ .keyRevoked k := by
  cases origin with
  | register => simp [Write.onSuccess]
  | createAdmin => simp [Write.onSuccess]

/-! ### Runs -/

structure KeysInv (lib : Library) (s : State) : Prop where
  apart : KeysApart s
  told : KeysTold lib s

theorem keysInv_empty : KeysInv lib .empty where
  apart := ⟨fun _ _ _ _ h => (by cases h), fun _ _ _ _ _ h => (by cases h),
    fun _ _ _ _ _ h => (by cases h)⟩
  told := ⟨fun _ _ h => (by cases h), fun _ _ _ _ _ _ h => (by cases h),
    fun k => ⟨fun ⟨_, _, h⟩ => (by cases h), fun ⟨_, h, _⟩ => (by cases h)⟩,
    fun _ _ h => (by cases h)⟩

theorem KeysInv.of_tables (h : KeysInv lib s) (hkeys : s'.apiKeys = s.apiKeys)
    (hcalls : s'.calls = s.calls) : KeysInv lib s' := by
  refine ⟨h.apart.of_tables hkeys hcalls, ?_, ?_, ?_, ?_⟩
  · rw [hkeys, hcalls]
    exact h.told.rows
  · rw [hkeys, hcalls]
    exact h.told.calls
  · simp only [ToldRevoked, hkeys, hcalls]
    exact h.told.revoked
  · rw [hcalls]
    exact h.told.phases

theorem KeysInv.of_users (h : KeysInv lib s) (users : Dict Uuid Account) :
    KeysInv lib { s with users := users } := h.of_tables rfl rfl

theorem unanswered_of_phase {id : Nat} {call : Call} (hget : s.calls.get? id = some call)
    (hphase : ∀ answer, call.phase ≠ .answered answer) : Unanswered s id := by
  intro caller answer heq
  rw [hget] at heq
  cases heq
  exact hphase answer rfl

/-- A call gives its answer, without a word on keys. -/
theorem KeysInv.answer (h : KeysInv lib s) {id : Nat} {caller : Option Uuid} {answer : Answer}
    (hopen : Unanswered s id) (hplain : (∀ k name key createdAt,
      answer ≠ .keyCreated k name key createdAt) ∧ ∀ k, answer ≠ .keyRevoked k) :
    KeysInv lib (s.move id caller (.answered answer)) where
  apart := h.apart.move fun hash hhash => by cases hhash
  told := h.told.move hopen trivial
    (fun k name key createdAt heq => hplain.1 k name key createdAt (Phase.answered.inj heq))
    fun k heq => absurd (Phase.answered.inj heq) (hplain.2 k)

theorem keysInv_step {e : Event} (h : KeysInv lib s) (hfresh : FreshKeys lib s e)
    (hstep : step lib s e = some s') : KeysInv lib s' := by
  have heffect := step_effect hstep
  cases heffect with
  | ticked => exact h.of_tables rfl rfl
  | reset hpolicy hget => exact h.of_tables rfl rfl
  | @asked id ask hnew =>
      have hopen : Unanswered s id := fun caller answer heq => by
        rw [hnew] at heq
        cases heq
      obtain ⟨hphase, hnone⟩ := @ask_keys lib s ask
      show KeysInv lib (s.move id (s.ask lib ask).caller (s.ask lib ask).phase)
      refine ⟨h.apart.move fun hash hhash => ?_, h.told.move hopen hphase ?_ fun k heq =>
        ask_keyRevoked heq⟩
      · rw [hnone] at hhash
        cases hhash
      · intro k name key createdAt heq
        have hplain := ask_answered heq
        cases hplain
  | @drew id drawn caller plan hget =>
      have hopen := unanswered_of_phase hget fun answer heq => by cases heq
      have hphase := h.told.phases id _ hget
      refine ⟨h.apart.move fun hash hhash => ?_, h.told.move hopen ?_ (fun _ _ _ _ heq => ?_)
        fun _ heq => ?_⟩
      · cases plan with
        | createApiKey ownerId name =>
            cases hhash
            exact hfresh
        | register => cases hhash
        | resendVerification => cases hhash
        | createAdmin => cases hhash
        | promote => cases hhash
      · cases plan with
        | createApiKey ownerId name => exact ⟨hphase, rfl, rfl⟩
        | register => trivial
        | resendVerification => trivial
        | createAdmin => trivial
        | promote => trivial
      · cases heq
      · cases heq
  | @committed id caller write s₁ hget hwrote =>
      have hopen := unanswered_of_phase hget fun answer heq => by cases heq
      cases hwrote with
      | insertUser => exact (h.of_users _).answer hopen onSuccess_insertUser
      | updateUser => exact (h.of_users _).answer hopen onSuccess_update
      | skipped => exact h.answer hopen onSuccess_update
      | insertKey hnew => exact ⟨h.apart.insert hget, h.told.insert hget hnew⟩
      | revokeKey hrow =>
          refine ⟨(h.apart.revoke hrow _).move fun hash hhash => ?_, h.told.revoke hget hrow⟩
          cases hhash
  | gaveUp hget =>
      exact h.answer (unanswered_of_phase hget fun answer heq => by cases heq) onFailure_plain
  | aborted hget =>
      exact h.answer (unanswered_of_phase hget fun answer heq => by cases heq) (by simp)

theorem keysInv_of_runs {events : List Event}
    (h : Reaches (step lib) (FreshKeys lib) .empty events s) : KeysInv lib s :=
  h.invariant keysInv_empty fun _ _ _ hinv hfresh hstep => keysInv_step hinv hfresh hstep

/-! ### What a key opens -/

/-- The stored keys that a raw key matches are those with its hash. -/
theorem matchingKeys_iff (s : State) (rawKey : String) (key : ApiKey) :
    key ∈ matchingKeys (s.authEnv lib) rawKey ↔ ∃ row, s.apiKeys.get? key.keyId = some row ∧
      key = ⟨key.keyId, row.keyHash, row.isRevoked, row.ownerId⟩ ∧
      row.keyHash = lib.sha256Hex rawKey := by
  simp only [matchingKeys, State.authEnv, List.mem_filter, List.mem_map]
  constructor
  · rintro ⟨⟨e, hmem, rfl⟩, hhash⟩
    exact ⟨e.2, s.apiKeys.mem_entries_iff.mp hmem, rfl, of_decide_eq_true hhash⟩
  · rintro ⟨row, hget, hkey, hhash⟩
    refine ⟨⟨(key.keyId, row), s.apiKeys.mem_entries_iff.mpr hget, hkey.symm⟩, ?_⟩
    rw [hkey]
    exact decide_eq_true hhash

theorem nodup_matchingKeys (s : State) (rawKey : String) :
    (matchingKeys (s.authEnv lib) rawKey).Nodup := by
  refine List.Nodup.filter _ (List.Nodup.of_map ApiKey.keyId ?_)
  simp only [State.authEnv, List.map_map]
  exact s.apiKeys.nodup

theorem eq_singleton_of_mem {α : Type} {l : List α} {x : α} (hnodup : l.Nodup) (hmem : x ∈ l)
    (hall : ∀ y ∈ l, y = x) : l = [x] := by
  cases l with
  | nil => cases hmem
  | cons first rest =>
      cases rest with
      | nil => rw [hall first (by simp)]
      | cons second rest =>
          have hsame : first = second := (hall first (by simp)).trans (hall second (by simp)).symm
          rw [hsame] at hnodup
          simp at hnodup

theorem KeysInv.matchingKeys_eq (h : KeysInv lib s) {keyId rawKey : String} {row : KeyRow}
    (hget : s.apiKeys.get? keyId = some row) (hhash : row.keyHash = lib.sha256Hex rawKey) :
    matchingKeys (s.authEnv lib) rawKey =
      [⟨keyId, row.keyHash, row.isRevoked, row.ownerId⟩] := by
  refine eq_singleton_of_mem (nodup_matchingKeys s rawKey)
    ((matchingKeys_iff s rawKey _).mpr ⟨row, hget, rfl, hhash⟩) fun key hkey => ?_
  obtain ⟨row', hget', hkey, hhash'⟩ := (matchingKeys_iff s rawKey key).mp hkey
  have hid := h.apart.rows keyId key.keyId row row' hget hget' (hhash.trans hhash'.symm)
  rw [← hid, hget] at hget'
  cases hget'
  rw [hkey, ← hid]

/-- A request that carries a key is authenticated as a user exactly if the user was handed the
key out, nobody has been told that it is revoked, and the account is not deleted. -/
theorem key_opens_iff {events : List Event}
    (h : Reaches (step lib) (FreshKeys lib) .empty events s) {request : Request} {rawKey : String}
    (hkey : presentHeader request.xApiKey = some rawKey) (userId : Uuid) :
    (∃ state user, runChain (s.authEnv lib) request authChain {} = .ok state ∧
        state.user = some user ∧ user.id = userId) ↔
      ∃ keyId, HandedOut lib s keyId rawKey userId ∧ ¬ ToldRevoked s keyId ∧
        ∃ a, s.users.get? userId = some a ∧ a.deletedAt = none := by
  have hkeys := keysInv_of_runs h
  have hinv := inv_of_runs (h.weaken fun _ _ _ => trivial)
  have hpresented : presentedKey (s.authEnv lib) request = some rawKey := hkey
  constructor
  · rintro ⟨state, user, hchain, huser, rfl⟩
    have hauth := (runChain_user user).mp ⟨state, hchain, huser⟩
    obtain ⟨a, ha, -, hundeleted, -⟩ := authenticated_row hauth
    rcases hauth with ⟨raw, hraw, key, hmatch, hunrevoked, howner, -⟩ | ⟨hnone, -⟩
    · rw [hpresented] at hraw
      cases hraw
      obtain ⟨row, hget, hrow, hhash⟩ := (matchingKeys_iff s rawKey key).mp
        (hmatch ▸ List.mem_cons_self)
      obtain ⟨id, name, issued, createdAt, hsame, hcall⟩ := hkeys.told.rows _ row hget
      obtain ⟨b, -, hb⟩ := Option.map_eq_some_iff.mp howner
      have hid : row.ownerId = user.id := by rw [← hb, hrow]; rfl
      refine ⟨key.keyId, ⟨id, name, issued, createdAt, hsame.trans hhash, hid ▸ hcall⟩, ?_, a, ha,
        hundeleted⟩
      intro htold
      obtain ⟨row', hget', hset⟩ := (hkeys.told.revoked _).mp htold
      rw [hget] at hget'
      cases hget'
      rw [hrow] at hunrevoked
      exact absurd (hset.symm.trans hunrevoked) (by decide)
    · rw [hpresented] at hnone
      cases hnone
  · rintro ⟨keyId, ⟨id, name, issued, createdAt, hsame, hcall⟩, hnot, a, ha, hundeleted⟩
    obtain ⟨row, hget, hhash, howner⟩ := hkeys.told.calls id _ keyId name issued createdAt hcall
    have hactive : a.isActive = true := by
      rw [(hinv.sound userId a ha).active, hundeleted]
      rfl
    have hunrevoked : row.isRevoked = false := by
      refine Bool.eq_false_iff.mpr fun hset => hnot ?_
      exact (hkeys.told.revoked keyId).mpr ⟨row, hget, hset⟩
    have huser : (s.authEnv lib).users row.ownerId = some (a.user userId) := by
      rw [← Option.some.inj howner]
      simp [State.authEnv, ha]
    obtain ⟨state, hchain, hstate⟩ := (runChain_user (a.user userId)).mpr
      (Or.inl ⟨rawKey, hpresented, _, hkeys.matchingKeys_eq hget (hhash.trans hsame), hunrevoked,
        huser, hundeleted, hactive⟩)
    exact ⟨state, a.user userId, hchain, hstate, rfl⟩

def sampleAdminId : Uuid := ⟨"00000000-0000-4000-8000-0000000000ad", by decide⟩

/-- A library that takes a token for the id in it. -/
def tokenLibrary : Library :=
  { sampleLibrary with decodeAccessToken := fun _ token => .ok (some token) }

def bearer (token : String) : Request where
  method := "POST"
  path := "/api/v1/api-keys"
  authorization := some ("Bearer " ++ token)
  xApiKey := none
  xForwardedFor := none
  clientHost := none

/-- An administrator issues two keys and revokes the second. -/
def sampleIssue : List Event :=
  [.ask 0 (.createAdmin "root@example.org" "Passw0rd!" none),
    .draw 0 ⟨sampleAdminId, "", "salt", ""⟩, .commit 0,
    .ask 1 (.createApiKey (bearer sampleAdminId.text) "first"),
    .ask 2 (.createApiKey (bearer sampleAdminId.text) "second"),
    .draw 1 ⟨sampleAdminId, "one", "", "1"⟩, .draw 2 ⟨sampleAdminId, "two", "", "2"⟩,
    .commit 2, .commit 1,
    .ask 3 (.revokeApiKey (bearer sampleAdminId.text) "gaios_key_2"), .commit 3]

def keyRequest (rawKey : String) : Request where
  method := "GET"
  path := "/api/v1/investigations"
  authorization := none
  xApiKey := some rawKey
  xForwardedFor := none
  clientHost := none

/-- What the run leaves: the first key handed out and never revoked, and its owner. -/
def sampleIssueCheck (s : State) : Bool :=
  s.calls.get? 1 = some ⟨some sampleAdminId,
      .answered (.keyCreated "gaios_key_1" "first" "gaios_live_one" 0)⟩ ∧
    (∀ e ∈ s.calls.entries, e.2.phase ≠ .answered (.keyRevoked "gaios_key_1")) ∧
    (s.users.get? sampleAdminId).any fun a => a.deletedAt = none

/-- The first key opens the administrator's account although the second has been revoked. -/
theorem sampleIssue_opens : ∃ s state user,
    Reaches (step tokenLibrary) (FreshKeys tokenLibrary) .empty sampleIssue s ∧
      runChain (s.authEnv tokenLibrary) (keyRequest "gaios_live_one") authChain {} = .ok state ∧
      state.user = some user ∧ user.id = sampleAdminId := by
  obtain ⟨s, hs, hcheck⟩ := (Option.any_eq_true _ _).mp
    (show (runAllowed (step tokenLibrary) (FreshKeys tokenLibrary) sampleIssue .empty).any
      sampleIssueCheck = true by decide +kernel)
  have hrun := Reaches.of_runAllowed hs
  obtain ⟨hcall, hnone, huser⟩ := of_decide_eq_true hcheck
  obtain ⟨a, ha, hundeleted⟩ := (Option.any_eq_true _ _).mp huser
  have hnot : ¬ ToldRevoked s "gaios_key_1" := by
    rintro ⟨id, caller, hget⟩
    exact hnone _ (s.calls.mem_entries_iff.mpr hget) rfl
  obtain ⟨state, user, hchain, hstate, hid⟩ :=
    (key_opens_iff hrun (show presentHeader (keyRequest "gaios_live_one").xApiKey = _ from rfl)
      sampleAdminId).mpr
      ⟨"gaios_key_1", ⟨1, "first", "gaios_live_one", 0, rfl, hcall⟩, hnot, a, ha,
        of_decide_eq_true hundeleted⟩
  exact ⟨s, state, user, hrun, hchain, hstate, hid⟩

end Accounts

end GaiaOS
