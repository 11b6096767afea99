/-
The Redis checkpointer, after `orchestrator/graph/checkpointer.py`.

Three layers have to agree on a representation.  The serialiser writes a type tag, a
colon and a payload, all bytes; the client stores bytes and hands back bytes or, when it
was created with `decode_responses`, text; and the reader splits what it is handed at the
first colon, as bytes.  `JsonPlusSerializer` is a parameter, with the round trip of its
typed pair and tags without a colon as fields.  So is the matching of key patterns, which
Redis does.

Time to live is left out: nothing expires here.
-/
import GaiaOS.Lib.PyObj

namespace GaiaOS

/-- `JsonPlusSerializer`, with `none` where `dumps_typed` raises, and `json.dumps`. -/
structure JsonPlus where
  strOf : PyObj → String
  dumpsTyped : PyObj → Option (String × List UInt8)
  loadsTyped : String → List UInt8 → Except PyError PyObj
  jsonDumps : PyObj → Except PyError (List UInt8)
  strOf_str : ∀ s, strOf (.str s) = s
  /-- `loads_typed` inverts `dumps_typed`. -/
  roundtrip : ∀ obj tag payload, dumpsTyped obj = some (tag, payload) →
    loadsTyped tag payload = .ok obj
  /-- Type tags are plain words. -/
  tag_no_colon : ∀ obj tag payload, dumpsTyped obj = some (tag, payload) →
    58 ∉ encodeUtf8 tag

namespace Checkpointer

variable (serde : JsonPlus)

/-! ### `_normalize_serializable` -/

/-- `_is_unpicklable_callable`. -/
def isUnpicklableCallable : PyObj → Bool
  | .callable _ => true
  | _ => false

mutual

/-- `_normalize_serializable`. -/
def normalizeSerializable : PyObj → PyObj
  | .callable _ => .none
  | .mapping entries => .dict (Dict.ofPairs (normalizeEntries entries))
  | .tuple items => .tuple (normalizeItems items)
  | .list items => .list (normalizeItems items)
  | .set items => .list (normalizeItems items)
  | obj => obj

/-- The items that are kept, normalised. -/
def normalizeItems : List PyObj → List PyObj
  | [] => []
  | item :: rest =>
      if isUnpicklableCallable item then normalizeItems rest
      else normalizeSerializable item :: normalizeItems rest

/-- The entries that are kept, with text keys. -/
def normalizeEntries : List (PyObj × PyObj) → List (String × PyObj)
  | [] => []
  | (k, v) :: rest =>
      if k.isStr "stream_writer" || isUnpicklableCallable v then normalizeEntries rest
      else (serde.strOf k, normalizeSerializable v) :: normalizeEntries rest

end

/-! ### `GaiaOSSerializer` -/

/-- `dumps_typed`: with a fallback to plain JSON. -/
def dumpsTyped (obj : PyObj) : Except PyError (String × List UInt8) :=
  let sanitized := normalizeSerializable serde obj
  match serde.dumpsTyped sanitized with
  | some typed => .ok typed
  | none => do
      let payload ← serde.jsonDumps sanitized
      return ("json", payload)

/-- `dumps`. -/
def dumps (obj : PyObj) : Except PyError (List UInt8) := do
  let (tag, payload) ← dumpsTyped serde obj
  return encodeUtf8 tag ++ 58 :: payload

/-- What the client hands back. -/
inductive Response
  | bytes (b : List UInt8)
  | text (s : String)

/-- `not response`. -/
def Response.isEmpty : Response → Bool
  | .bytes b => b.isEmpty
  | .text s => s.isEmpty

/-- `loads`.  Looking for bytes inside text raises. -/
def loads : Response → Except PyError PyObj
  | .text _ => .error (.typeError "'in <string>' requires string as left operand, not bytes")
  | .bytes data =>
      if 58 ∈ data then
        match decodeUtf8 (data.takeWhile (· ≠ 58)) with
        | some tag => serde.loadsTyped tag (data.dropWhile (· ≠ 58)).tail
        | none => .error .unicodeDecodeError
      else serde.loadsTyped "msgpack" data

/-! ### The client -/

/-- A Redis client: whether it decodes responses, and how the server matches a pattern. -/
structure Client where
  decodeResponses : Bool
  scanMatch : String → String → Bool

/-- The client `init_redis` creates. -/
def initRedis (scanMatch : String → String → Bool) : Client where
  decodeResponses := true
  scanMatch := scanMatch

/-- The keys and values of the server. -/
abbrev Store := Dict String (List UInt8)

/-- `client.get(key)`. -/
def Client.get (client : Client) (store : Store) (key : String) :
    Except PyError (Option Response) :=
  match store.get? key with
  | none => .ok none
  | some data =>
      if client.decodeResponses then
        match decodeUtf8 data with
        | some text => .ok (some (.text text))
        | none => .error .unicodeDecodeError
      else .ok (some (.bytes data))

/-- `client.scan_iter(match=pattern)`. -/
def Client.scanIter (client : Client) (store : Store) (pattern : String) : List String :=
  store.keys.filter (client.scanMatch pattern)

def keyLatest (threadId : String) : String := "gaiaos:checkpoint:" ++ threadId ++ ":latest"

def keyCheckpoint (threadId checkpointId : String) : String :=
  "gaiaos:checkpoint:" ++ threadId ++ ":checkpoint:" ++ checkpointId

def keyWrites (threadId checkpointId taskId : String) : String :=
  "gaiaos:checkpoint:" ++ threadId ++ ":writes:" ++ checkpointId ++ ":" ++ taskId

/-! ### `RedisCheckpointSaver` -/

/-- A `RunnableConfig`: its two identifiers, empty when missing, and itself as an object. -/
structure RunnableConfig where
  threadId : String
  checkpointId : String
  raw : PyObj

/-- `CheckpointTuple`. -/
structure CheckpointTuple where
  config : RunnableConfig
  checkpoint : PyObj
  metadata : PyObj
  parentConfig : PyObj
  pendingWrites : List (String × PyObj × PyObj)

/-- `for channel, value in channel_values` of one task. -/
def readWrites (taskId : String) : PyObj → Except PyError (List (String × PyObj × PyObj))
  | .list items | .tuple items => items.mapM fun
      | .tuple [channel, value] | .list [channel, value] => .ok (taskId, channel, value)
      | _ => .error (.valueError "not enough values to unpack (expected 2)")
  | _ => .error (.typeError "object is not iterable")

/-- `wkey_str.split(":")[-1]`: the text after the last colon. -/
def taskOfKey (wkey : String) : String :=
  String.ofList (wkey.toList.reverse.takeWhile (· ≠ ':')).reverse

/-- The writes stored under one key. -/
def loadWrites (client : Client) (store : Store) (wkey : String) :
    Except PyError (List (String × PyObj × PyObj)) := do
  match ← client.get store wkey with
  | none => return []
  | some data =>
      if data.isEmpty then return []
      else readWrites (taskOfKey wkey) (← loads serde data)

/-- The identifier of the latest checkpoint, empty when there is none. -/
def latestId (client : Client) (store : Store) (threadId : String) : Except PyError String := do
  match ← client.get store (keyLatest threadId) with
  | none => return ""
  | some (.text s) => return s
  | some (.bytes b) =>
      match decodeUtf8 b with
      | some s => return s
      | none => .error .unicodeDecodeError

/-- The tuple of a checkpoint whose value was found. -/
def loadTuple (client : Client) (store : Store) (config : RunnableConfig) (checkpointId : String)
    (serialized : Response) : Except PyError CheckpointTuple := do
  let data ← loads serde serialized
  let checkpoint ← data.getItem "checkpoint"
  let metadata ← data.getItem "metadata"
  let parentConfig := match data.getItem "parent_config" with
    | .ok v => v
    | .error _ => .none
  let writeKeys := client.scanIter store (keyWrites config.threadId checkpointId "*")
  let pendingWrites ← writeKeys.mapM (loadWrites serde client store)
  return { config, checkpoint, metadata, parentConfig, pendingWrites := pendingWrites.flatten }

/-- The checkpoint an `aget_tuple` is about: the one asked for, else the latest. -/
def requestedId (client : Client) (store : Store) (config : RunnableConfig) :
    Except PyError String :=
  if config.checkpointId = "" then latestId client store config.threadId
  else .ok config.checkpointId

/-- `aget_tuple`. -/
def agetTuple (client : Client) (store : Store) (config : RunnableConfig) :
    Except PyError (Option CheckpointTuple) := do
  if config.threadId = "" then return none
  let checkpointId ← requestedId client store config
  if checkpointId = "" then return none
  match ← client.get store (keyCheckpoint config.threadId checkpointId) with
  | none => return none
  | some serialized =>
      if serialized.isEmpty then return none
      else return some (← loadTuple serde client store config checkpointId serialized)

/-- `checkpoint["id"]`, which LangGraph makes a text. -/
def checkpointIdOf (checkpoint : PyObj) : Except PyError String := do
  match ← checkpoint.getItem "id" with
  | .str s => return s
  | _ => .error (.typeError "checkpoint id must be text")

/-- `aput`: the checkpoint, then the pointer to it. -/
def aput (store : Store) (config : RunnableConfig) (checkpoint metadata : PyObj) :
    Except PyError Store := do
  let checkpointId ← checkpointIdOf checkpoint
  if config.threadId = "" then .error (.valueError "thread_id is required in config.configurable.")
  else
    let data := PyObj.mapping
      [(.str "checkpoint", normalizeSerializable serde checkpoint),
        (.str "metadata", normalizeSerializable serde metadata),
        (.str "parent_config", normalizeSerializable serde config.raw)]
    let serialized ← dumps serde data
    return (store.set (keyCheckpoint config.threadId checkpointId) serialized).set
      (keyLatest config.threadId) (encodeUtf8 checkpointId)

/-- `filtered_writes`, as the list of pairs that is serialised. -/
def filteredWrites (writes : List (PyObj × PyObj)) : PyObj :=
  .list ((writes.filter fun w => !w.1.isStr "stream_writer" && !w.2.isCallable).map fun w =>
    .tuple [w.1, w.2])

/-- `aput_writes`. -/
def aputWrites (store : Store) (config : RunnableConfig) (writes : List (PyObj × PyObj))
    (taskId : String) : Except PyError Store :=
  if config.threadId = "" ∨ config.checkpointId = "" then
    .error (.valueError "thread_id and checkpoint_id are required for aput_writes.")
  else do
    let serialized ← dumps serde (normalizeSerializable serde (filteredWrites writes))
    return store.set (keyWrites config.threadId config.checkpointId taskId) serialized

end Checkpointer

end GaiaOS
