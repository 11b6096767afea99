/-
Reading a checkpoint back through the application's own client.

`init_redis` creates the client with `decode_responses`, so what comes back is text, and
the serialiser looks for a byte in it.  Nothing that is stored can be read: `aget_tuple`
never returns a tuple, whatever was put.  The round trip one expects of a thread's calls
therefore holds exactly when no call put a checkpoint, where there is nothing to return.
-/
import GaiaOS.Graph.Checkpointer

namespace GaiaOS

namespace Checkpointer

/-- A call that stores something on a thread. -/
inductive SaverCall
  | aput (parentId : String) (raw checkpoint metadata : PyObj)
  | aputWrites (checkpointId : String) (raw : PyObj) (writes : List (PyObj × PyObj))
      (taskId : String)

variable (serde : JsonPlus) (client : Client) (threadId : String)

def SaverCall.apply (store : Store) : SaverCall → Except PyError Store
  | .aput parentId raw checkpoint metadata =>
      Checkpointer.aput serde store ⟨threadId, parentId, raw⟩ checkpoint metadata
  | .aputWrites checkpointId raw writes taskId =>
      Checkpointer.aputWrites serde store ⟨threadId, checkpointId, raw⟩ writes taskId

/-- The calls in order, from an empty thread; the first that raises ends it. -/
def applyAll (calls : List SaverCall) : Except PyError Store :=
  calls.foldlM (fun store call => call.apply serde threadId store) Dict.empty

/-! ### What should be read back -/

/-- The identifier, checkpoint and metadata a call puts. -/
def SaverCall.put? : SaverCall → Option (String × PyObj × PyObj)
  | .aput _ _ checkpoint metadata =>
      match checkpointIdOf checkpoint with
      | .ok id => some (id, checkpoint, metadata)
      | .error _ => none
  | .aputWrites .. => none

/-- What `aget_tuple` is asked for: the last checkpoint put, or the last under an identifier. -/
def wanted (calls : List SaverCall) (checkpointId : String) : Option (String × PyObj × PyObj) :=
  ((calls.filterMap SaverCall.put?).filter fun put =>
    checkpointId = "" ∨ put.1 = checkpointId).getLast?

/-- The writes of one task, as they are stored. -/
def storedWrites (writes : List (PyObj × PyObj)) : List (PyObj × PyObj) :=
  (writes.filter fun w => !w.1.isStr "stream_writer" && !w.2.isCallable).map fun w =>
    (normalizeSerializable serde w.1, normalizeSerializable serde w.2)

/-- The pending writes of a checkpoint: for each task the last ones stored. -/
def pendingWritesOf (calls : List SaverCall) (checkpointId : String) :
    List (String × PyObj × PyObj) :=
  (Dict.ofPairs (calls.filterMap fun
    | .aputWrites id _ writes taskId => if id = checkpointId then some (taskId, writes) else none
    | .aput .. => none)).entries.flatMap fun entry =>
      (storedWrites serde entry.2).map fun w => (entry.1, w.1, w.2)

/--
The round trip of a thread: no call raises, and what was put is read back, with its
metadata and with the pending writes of exactly that checkpoint, in any order.
-/
def RoundTrips (calls : List SaverCall) : Prop :=
  ∃ store, applyAll serde threadId calls = .ok store ∧
    ∀ checkpointId raw, ∃ result,
      agetTuple serde client store ⟨threadId, checkpointId, raw⟩ = .ok result ∧
      ∀ id checkpoint metadata, wanted calls checkpointId = some (id, checkpoint, metadata) →
        ∃ t, result = some t ∧
          t.checkpoint = normalizeSerializable serde checkpoint ∧
          t.metadata = normalizeSerializable serde metadata ∧
          t.pendingWrites.Perm (pendingWritesOf serde calls id)

/-- A call that stores writes and does not raise. -/
def SaverCall.StoresWrites : SaverCall → Prop
  | .aput .. => False
  | .aputWrites checkpointId _ writes _ =>
      threadId ≠ "" ∧ checkpointId ≠ "" ∧
        ∃ data, dumps serde (normalizeSerializable serde (filteredWrites writes)) = .ok data

/-! ### Text cannot be read -/

section Text

variable {serde client threadId}

theorem get_text (htext : client.decodeResponses = true) {store : Store} {key : String}
    {response : Response} (h : client.get store key = .ok (some response)) :
    ∃ s, response = .text s := by
  unfold Client.get at h
  split at h
  · cases h
  · rw [if_pos htext] at h
    split at h
    · rename_i s _
      cases h
      exact ⟨s, rfl⟩
    · cases h

/-- A client that decodes responses never gets a tuple. -/
theorem agetTuple_text_ne_some (htext : client.decodeResponses = true) (store : Store)
    (config : RunnableConfig) (t : CheckpointTuple) :
    agetTuple serde client store config ≠ .ok (some t) := by
  intro h
  unfold agetTuple at h
  by_cases hthread : config.threadId = ""
  · rw [if_pos hthread] at h
    cases h
  · rw [if_neg hthread] at h
    obtain ⟨checkpointId, -, h⟩ := ok_of_bind h
    by_cases hid : checkpointId = ""
    · rw [if_pos hid] at h
      cases h
    · rw [if_neg hid] at h
      obtain ⟨response, hget, h⟩ := ok_of_bind h
      cases response with
      | none => cases h
      | some serialized =>
          obtain ⟨s, rfl⟩ := get_text htext hget
          by_cases hempty : (Response.text s).isEmpty = true
          · simp only [hempty, if_true] at h
            cases h
          · simp only [hempty] at h
            -- `loads` on text raises before anything is read
            cases h

end Text

/-! ### Without a checkpoint there is nothing to read -/

section WritesOnly

variable {serde client threadId}

/-- Every key of the store is a task's. -/
def WritesOnly (threadId : String) (store : Store) : Prop :=
  ∀ key, (store.get? key).isSome = true → ∃ checkpointId taskId,
    key = keyWrites threadId checkpointId taskId

/-- The three kinds of key differ right after the thread. -/
theorem threadKey_ne (rest rest' : String) (h : rest.toList[1]? ≠ rest'.toList[1]?) :
    "gaiaos:checkpoint:" ++ threadId ++ rest ≠ "gaiaos:checkpoint:" ++ threadId ++ rest' := by
  intro heq
  rw [String.append_right_inj] at heq
  exact h (by rw [heq])

theorem keyWrites_eq (checkpointId taskId : String) :
    keyWrites threadId checkpointId taskId
      = "gaiaos:checkpoint:" ++ threadId ++ (":writes:" ++ (checkpointId ++ (":" ++ taskId))) := by
  unfold keyWrites
  rw [String.append_assoc, String.append_assoc, String.append_assoc]

theorem keyCheckpoint_eq (checkpointId : String) :
    keyCheckpoint threadId checkpointId
      = "gaiaos:checkpoint:" ++ threadId ++ (":checkpoint:" ++ checkpointId) := by
  unfold keyCheckpoint
  rw [String.append_assoc]

theorem keyWrites_ne_keyLatest (checkpointId taskId : String) :
    keyWrites threadId checkpointId taskId ≠ keyLatest threadId := by
  rw [keyWrites_eq]
  exact threadKey_ne _ ":latest" (by simp)

theorem keyWrites_ne_keyCheckpoint (checkpointId taskId otherId : String) :
    keyWrites threadId checkpointId taskId ≠ keyCheckpoint threadId otherId := by
  rw [keyWrites_eq, keyCheckpoint_eq]
  exact threadKey_ne _ _ (by simp)

/-- A call that stores writes adds one key of its task. -/
theorem StoresWrites.apply_eq (store : Store) {call : SaverCall}
    (h : call.StoresWrites serde threadId) :
    ∃ checkpointId taskId data,
      call.apply serde threadId store =
        .ok (store.set (keyWrites threadId checkpointId taskId) data) := by
  cases call with
  | aput parentId raw checkpoint metadata => exact absurd h id
  | aputWrites checkpointId raw writes taskId =>
      obtain ⟨hthread, hid, data, hdata⟩ := h
      refine ⟨checkpointId, taskId, data, ?_⟩
      show aputWrites serde store ⟨threadId, checkpointId, raw⟩ writes taskId = _
      unfold aputWrites
      rw [if_neg (by simp [hthread, hid]), hdata]
      rfl

theorem WritesOnly.set {store : Store} (h : WritesOnly threadId store)
    (checkpointId taskId : String) (data : List UInt8) :
    WritesOnly threadId (store.set (keyWrites threadId checkpointId taskId) data) := by
  intro key hkey
  rw [Dict.get?_set] at hkey
  by_cases heq : keyWrites threadId checkpointId taskId = key
  · exact ⟨checkpointId, taskId, heq.symm⟩
  · rw [if_neg heq] at hkey
    exact h key hkey

/-- Calls that store writes only leave nothing but writes behind. -/
theorem applyAll_writesOnly {calls : List SaverCall}
    (h : ∀ call ∈ calls, call.StoresWrites serde threadId) :
    ∃ store, applyAll serde threadId calls = .ok store ∧ WritesOnly threadId store := by
  have hrun : ∀ (calls : List SaverCall) (store : Store), WritesOnly threadId store →
      (∀ call ∈ calls, call.StoresWrites serde threadId) →
      ∃ store', calls.foldlM (fun store call => call.apply serde threadId store) store = .ok store' ∧
        WritesOnly threadId store' := by
    intro calls
    induction calls with
    | nil =>
        intro store hstore _
        exact ⟨store, rfl, hstore⟩
    | cons call rest ih =>
        intro store hstore hall
        obtain ⟨checkpointId, taskId, data, happly⟩ :=
          StoresWrites.apply_eq store (hall call (List.mem_cons_self ..))
        obtain ⟨store', hfold, hstore'⟩ := ih _ (hstore.set checkpointId taskId data)
          fun c hc => hall c (List.mem_cons_of_mem _ hc)
        refine ⟨store', ?_, hstore'⟩
        rw [List.foldlM_cons, happly]
        exact hfold
  refine hrun calls Dict.empty ?_ h
  intro key hkey
  rw [Dict.get?_empty] at hkey
  cases hkey

/-- A store of writes has no checkpoint to return. -/
theorem WritesOnly.agetTuple_eq {store : Store} (h : WritesOnly threadId store)
    (checkpointId : String) (raw : PyObj) :
    agetTuple serde client store ⟨threadId, checkpointId, raw⟩ = .ok none := by
  have hget : ∀ key, (∀ checkpointId taskId, keyWrites threadId checkpointId taskId ≠ key) →
      client.get store key = .ok none := by
    intro key hne
    have hnone : store.get? key = none := by
      by_contra hsome
      obtain ⟨checkpointId, taskId, heq⟩ := h key (Option.isSome_iff_ne_none.mpr hsome)
      exact hne checkpointId taskId heq.symm
    unfold Client.get
    rw [hnone]
  have hlatest : latestId client store threadId = .ok "" := by
    unfold latestId
    rw [hget _ fun _ _ => keyWrites_ne_keyLatest _ _]
    rfl
  have hcheckpoint : ∀ id, client.get store (keyCheckpoint threadId id) = .ok none :=
    fun id => hget _ fun _ _ => keyWrites_ne_keyCheckpoint _ _ _
  unfold agetTuple requestedId
  by_cases hthread : threadId = ""
  · rw [if_pos hthread]
    rfl
  · rw [if_neg hthread]
    by_cases hid : checkpointId = ""
    · simp only [hid, if_true, hlatest]
      rfl
    · simp only [if_neg hid]
      show (if checkpointId = "" then _ else _) = _
      rw [if_neg hid, hcheckpoint]
      rfl

end WritesOnly

/-! ### The round trip -/

section RoundTrip

variable {serde client threadId}

/-- In a sequence of calls none of which raised, each call returned. -/
theorem apply_of_applyAll {calls : List SaverCall} {store : Store}
    (h : applyAll serde threadId calls = .ok store) :
    ∀ call ∈ calls, ∃ s s', call.apply serde threadId s = .ok s' := by
  have hrun : ∀ (calls : List SaverCall) (s₀ : Store),
      calls.foldlM (fun store call => call.apply serde threadId store) s₀ = .ok store →
      ∀ call ∈ calls, ∃ s s', call.apply serde threadId s = .ok s' := by
    intro calls
    induction calls with
    | nil =>
        intro s₀ _ call hcall
        cases hcall
    | cons first rest ih =>
        intro s₀ hfold call hcall
        rw [List.foldlM_cons] at hfold
        obtain ⟨s₁, hfirst, hrest⟩ := ok_of_bind hfold
        rcases List.mem_cons.mp hcall with rfl | hmem
        · exact ⟨s₀, s₁, hfirst⟩
        · exact ih s₁ hrest call hmem
  exact hrun calls Dict.empty h

/-- A call that returned put a checkpoint or stored writes. -/
theorem put_or_storesWrites {call : SaverCall} {s s' : Store}
    (h : call.apply serde threadId s = .ok s') :
    (∃ put, call.put? = some put) ∨ call.StoresWrites serde threadId := by
  cases call with
  | aput parentId raw checkpoint metadata =>
      obtain ⟨id, hid, -⟩ := ok_of_bind h
      exact Or.inl ⟨(id, checkpoint, metadata), by simp only [SaverCall.put?, hid]⟩
  | aputWrites checkpointId raw writes taskId =>
      refine Or.inr ?_
      have hcall : aputWrites serde s ⟨threadId, checkpointId, raw⟩ writes taskId = .ok s' := h
      unfold aputWrites at hcall
      by_cases hguard : threadId = "" ∨ checkpointId = ""
      · rw [if_pos hguard] at hcall
        cases hcall
      · rw [if_neg hguard] at hcall
        obtain ⟨data, hdata, -⟩ := ok_of_bind hcall
        exact ⟨fun heq => hguard (Or.inl heq), fun heq => hguard (Or.inr heq), data, hdata⟩

/-- Once something was put, the latest checkpoint is wanted. -/
theorem wanted_of_put {calls : List SaverCall} {call : SaverCall} (hcall : call ∈ calls)
    {put : String × PyObj × PyObj} (hput : call.put? = some put) :
    ∃ last, wanted calls "" = some last := by
  have hmem : put ∈ calls.filterMap SaverCall.put? := List.mem_filterMap.mpr ⟨call, hcall, hput⟩
  have hall : (calls.filterMap SaverCall.put?).filter (fun put => "" = "" ∨ put.1 = "")
      = calls.filterMap SaverCall.put? := by
    rw [List.filter_eq_self]
    intro p _
    simp
  unfold wanted
  rw [hall]
  exact ⟨_, List.getLast?_eq_getLast_of_ne_nil (List.ne_nil_of_mem hmem)⟩

theorem wanted_eq_none {calls : List SaverCall}
    (h : ∀ call ∈ calls, call.StoresWrites serde threadId) (checkpointId : String) :
    wanted calls checkpointId = none := by
  have hnone : calls.filterMap SaverCall.put? = [] := by
    rw [List.filterMap_eq_nil_iff]
    intro call hcall
    cases call with
    | aput parentId raw checkpoint metadata => exact absurd (h _ hcall) id
    | aputWrites checkpointId raw writes taskId => rfl
  unfold wanted
  rw [hnone]
  rfl

/-- With the application's client, a thread that put a checkpoint does not round trip. -/
theorem not_roundTrips_of_put (scanMatch : String → String → Bool) {calls : List SaverCall}
    {call : SaverCall} (hcall : call ∈ calls) {put : String × PyObj × PyObj}
    (hput : call.put? = some put) : ¬ RoundTrips serde (initRedis scanMatch) threadId calls := by
  rintro ⟨store, -, hread⟩
  obtain ⟨⟨id, checkpoint, metadata⟩, hwanted⟩ := wanted_of_put hcall hput
  obtain ⟨result, hget, hresult⟩ := hread "" .none
  obtain ⟨t, rfl, -⟩ := hresult id checkpoint metadata hwanted
  exact agetTuple_text_ne_some rfl store _ t hget

end RoundTrip

/--
**A thread round trips through the application's client exactly when it put nothing.**

With the client `init_redis` creates, every call returns and what was put is read back if
and only if each call of the thread stores writes under given identifiers, and so none
puts a checkpoint.
-/
theorem checkpoint_round_trip_iff (serde : JsonPlus) (scanMatch : String → String → Bool)
    (threadId : String) (calls : List SaverCall) :
    RoundTrips serde (initRedis scanMatch) threadId calls
      ↔ ∀ call ∈ calls, call.StoresWrites serde threadId := by
  constructor
  · intro h call hcall
    obtain ⟨store, happly, -⟩ := id h
    obtain ⟨s, s', hstep⟩ := apply_of_applyAll happly call hcall
    rcases put_or_storesWrites hstep with ⟨put, hput⟩ | hwrites
    · exact absurd h (not_roundTrips_of_put scanMatch hcall hput)
    · exact hwrites
  · intro h
    obtain ⟨store, happly, hstore⟩ := applyAll_writesOnly h
    refine ⟨store, happly, ?_⟩
    intro checkpointId raw
    refine ⟨none, hstore.agetTuple_eq checkpointId raw, ?_⟩
    intro id checkpoint metadata hwanted
    rw [wanted_eq_none h] at hwanted
    cases hwanted

/-- The msgpack bytes of the data of a first checkpoint. -/
def firstPayload : List UInt8 :=
  0x83 :: 0xaa :: encodeUtf8 "checkpoint" ++ 0x81 :: 0xa2 :: encodeUtf8 "id" ++
    0xa2 :: encodeUtf8 "c1" ++ 0xa8 :: encodeUtf8 "metadata" ++ 0x80 ::
    0xad :: encodeUtf8 "parent_config" ++ [0xc0]

/-- A serialiser that knows that one object. -/
def firstSerde : JsonPlus where
  strOf
    | .str s => s
    | _ => ""
  dumpsTyped
    | .mapping [(.str "checkpoint", .mapping [(.str "id", .str "c1")]),
        (.str "metadata", .mapping []), (.str "parent_config", .none)] =>
        some ("msgpack", firstPayload)
    | _ => none
  loadsTyped _ _ := .ok (.mapping [(.str "checkpoint", .mapping [(.str "id", .str "c1")]),
    (.str "metadata", .mapping []), (.str "parent_config", .none)])
  jsonDumps _ := .error (.exception "not JSON serializable")
  strOf_str _ := rfl
  roundtrip := by
    intro obj tag payload h
    split at h
    · rfl
    · cases h
  tag_no_colon := by
    intro obj tag payload h
    split at h
    · cases h
      decide
    · cases h

/-- One checkpoint put on a thread cannot be read back. -/
theorem first_checkpoint_unreadable :
    (∃ store,
      applyAll firstSerde "t1" [.aput "" .none (.mapping [(.str "id", .str "c1")]) (.mapping [])]
        = .ok store ∧
      agetTuple firstSerde (initRedis fun _ _ => false) store ⟨"t1", "", .none⟩
        = .error .unicodeDecodeError) ∧
    ¬ RoundTrips firstSerde (initRedis fun _ _ => false) "t1"
        [.aput "" .none (.mapping [(.str "id", .str "c1")]) (.mapping [])] := by
  refine ⟨⟨_, rfl, ?_⟩, not_roundTrips_of_put _ (List.mem_singleton.mpr rfl) rfl⟩
  rfl

end Checkpointer

end GaiaOS
