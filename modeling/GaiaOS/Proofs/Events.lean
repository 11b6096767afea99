/-
What a subscriber sees of a stream of events.

`parse_event` and `model_dump_json` live in different files and agree on six of the
seven event models.  For those the round trip is exact as long as the payload holds no
float that is not a number, which pydantic writes as `null`; the seventh,
`ReplanningEvent`, has no branch in the dispatch and always raises.

The generator stops at the first event it cannot read.  A stream is therefore delivered
whole exactly when each of its events can be read, whatever other investigations publish
in between: channels are told apart by the identifier at their end.
-/
import GaiaOS.Cache.Client

namespace GaiaOS

/-! ### Payloads without odd floats -/

def PyFloat.isFinite : PyFloat → Bool
  | .finite _ => true
  | _ => false

mutual

/-- No float in the tree is a NaN or an infinity. -/
def Json.isFinite : Json → Bool
  | .float x => x.isFinite
  | .arr items => Json.itemsFinite items
  | .obj entries => Json.entriesFinite entries
  | _ => true

def Json.itemsFinite : List Json → Bool
  | [] => true
  | j :: rest => j.isFinite && Json.itemsFinite rest

def Json.entriesFinite : List (String × Json) → Bool
  | [] => true
  | (_, j) :: rest => j.isFinite && Json.entriesFinite rest

end

theorem PyFloat.dump_eq_self (x : PyFloat) : x.dump = .float x ↔ x.isFinite = true := by
  cases x <;> simp [PyFloat.dump, PyFloat.isFinite]

mutual

/-- Serialisation leaves a tree alone exactly when its floats are numbers. -/
theorem Json.dump_eq_self : ∀ j : Json, j.dump = j ↔ j.isFinite = true
  | .float x => by
      simp only [Json.dump, Json.isFinite]
      exact x.dump_eq_self
  | .arr items => by
      simp only [Json.dump, Json.isFinite, Json.arr.injEq]
      exact Json.dumpItems_eq_self items
  | .obj entries => by
      simp only [Json.dump, Json.isFinite, Json.obj.injEq]
      exact Json.dumpEntries_eq_self entries
  | .null => by simp [Json.dump, Json.isFinite]
  | .bool _ => by simp [Json.dump, Json.isFinite]
  | .int _ => by simp [Json.dump, Json.isFinite]
  | .str _ => by simp [Json.dump, Json.isFinite]

theorem Json.dumpItems_eq_self :
    ∀ items : List Json, Json.dumpItems items = items ↔ Json.itemsFinite items = true
  | [] => by simp [Json.dumpItems, Json.itemsFinite]
  | j :: rest => by
      simp only [Json.dumpItems, Json.itemsFinite, List.cons.injEq, Bool.and_eq_true]
      rw [Json.dump_eq_self j, Json.dumpItems_eq_self rest]

theorem Json.dumpEntries_eq_self :
    ∀ entries : List (String × Json),
      Json.dumpEntries entries = entries ↔ Json.entriesFinite entries = true
  | [] => by simp [Json.dumpEntries, Json.entriesFinite]
  | (k, j) :: rest => by
      simp only [Json.dumpEntries, Json.entriesFinite, List.cons.injEq, Prod.mk.injEq, true_and,
        Bool.and_eq_true]
      rw [Json.dump_eq_self j, Json.dumpEntries_eq_self rest]

end

theorem Json.keys_dumpEntries (entries : List (String × Json)) :
    (Json.dumpEntries entries).map Prod.fst = entries.map Prod.fst := by
  induction entries with
  | nil => rfl
  | cons e rest ih =>
      obtain ⟨k, j⟩ := e
      simp only [Json.dumpEntries, List.map_cons, ih]

/-! ### One event -/

namespace InvestigationEvent

def isReplanning : InvestigationEvent → Bool
  | .replanning _ => true
  | _ => false

/-- Every float of the payload is a number. -/
def finitePayload : InvestigationEvent → Bool
  | .synthesizing d => Json.entriesFinite d.entries
  | .criticFlag d => d.confidence.isFinite
  | _ => true

/-- The events `parse_event` reads back as they were. -/
def Readable (e : InvestigationEvent) : Prop := e.isReplanning = false ∧ e.finitePayload = true

end InvestigationEvent

section Parse

variable (rt : Runtime)

/-- A present field that reads is the value read. -/
theorem readField_of_present {α : Type} {model loc key : String} {entries : List (String × Json)}
    {read : Json → Option α} {fallback : Option α} {v : Json} {a : α}
    (hfield : Json.field? entries key = some v) (hread : read v = some a) :
    readField model loc entries key read fallback = .ok a := by
  unfold readField
  simp only [hfield, hread]

/-- A payload read back as a dict is the dict that was written, up to its floats. -/
theorem parseEvent_synthesizing (d : Dict String Json) :
    parseEvent rt (InvestigationEvent.synthesizing d).modelDumpJson
      = .ok (.synthesizing
          ⟨Json.dumpEntries d.entries, (Json.keys_dumpEntries d.entries).symm ▸ d.nodup⟩) := by
  have hread : Dict.ofPairs (Json.dumpEntries d.entries)
      = ⟨Json.dumpEntries d.entries, (Json.keys_dumpEntries d.entries).symm ▸ d.nodup⟩ :=
    Dict.ofPairs_entries ⟨Json.dumpEntries d.entries, _⟩
  rw [← hread]
  rfl

/-- The float of a critic flag comes back, or is refused because it was written as `null`. -/
theorem parseEvent_criticFlag (d : CriticFlagData) :
    parseEvent rt (InvestigationEvent.criticFlag d).modelDumpJson
      = if d.confidence.isFinite then .ok (.criticFlag d)
        else .error (.validationError "CriticFlagEvent" "data.confidence") := by
  obtain ⟨claim, confidence, reason⟩ := d
  cases confidence <;> rfl

theorem parseEvent_done (d : DoneData) :
    parseEvent rt (InvestigationEvent.done d).modelDumpJson = .ok (.done d) := by
  have hid : readField "DoneEvent" "data."
      [("investigation_id", .str d.investigationId.text), ("status", .str d.status)]
      "investigation_id" (Json.asUuid? rt) none = .ok d.investigationId :=
    readField_of_present rfl (rt.uuidOf_text d.investigationId)
  show (do
    let investigationId ← readField "DoneEvent" "data." _ "investigation_id" (Json.asUuid? rt) none
    Except.ok (InvestigationEvent.done ⟨investigationId, d.status⟩)) = _
  rw [hid]
  rfl

/-- The seventh model has no branch. -/
theorem parseEvent_replanning (d : ReplanningData) :
    parseEvent rt (InvestigationEvent.replanning d).modelDumpJson
      = .error (.valueError "Unknown event type: replanning") := by
  show Except.error (PyError.valueError ("Unknown event type: " ++ rt.strOf (.str "replanning"))) = _
  rw [rt.strOf_str]
  rfl

/-- One event survives the wire exactly when it is readable. -/
theorem parseEvent_dump (e : InvestigationEvent) :
    parseEvent rt e.modelDumpJson = .ok e ↔ e.Readable := by
  cases e with
  | planning d => exact iff_of_true rfl ⟨rfl, rfl⟩
  | agentStarted d => exact iff_of_true rfl ⟨rfl, rfl⟩
  | agentCompleted d => exact iff_of_true rfl ⟨rfl, rfl⟩
  | synthesizing d =>
      rw [parseEvent_synthesizing]
      refine Iff.trans ?_ (Iff.trans (Json.dumpEntries_eq_self d.entries) ?_)
      · constructor
        · intro h
          injection h with h
          injection h with h
          exact congrArg Dict.entries h
        · intro h
          exact congrArg (fun d => Except.ok (InvestigationEvent.synthesizing d))
            (Dict.ext_entries h)
      · exact ⟨fun h => ⟨rfl, h⟩, fun h => h.2⟩
  | criticFlag d =>
      rw [parseEvent_criticFlag]
      by_cases hfin : d.confidence.isFinite = true
      · rw [if_pos hfin]
        exact iff_of_true rfl ⟨rfl, hfin⟩
      · rw [if_neg hfin]
        exact iff_of_false (by simp) fun h => hfin h.2
  | replanning d =>
      rw [parseEvent_replanning]
      exact iff_of_false (by simp) fun h => Bool.noConfusion h.1
  | done d =>
      rw [parseEvent_done]
      exact iff_of_true rfl ⟨rfl, rfl⟩

end Parse

/-! ### A stream -/

theorem eventChannelKey_injective {a b : String} (h : eventChannelKey a = eventChannelKey b) :
    a = b := by
  unfold eventChannelKey at h
  exact String.append_right_inj _ |>.mp h

/-- The events of one investigation in a log of all of them. -/
def eventsOf (investigationId : Uuid) (log : List (Uuid × InvestigationEvent)) :
    List InvestigationEvent :=
  (log.filter fun p => p.1 = investigationId).map (·.2)

/-- What a subscriber is handed: the confirmation, then its own events and no others. -/
theorem listen_publish (investigationId : Uuid) (log : List (Uuid × InvestigationEvent)) :
    listen (eventChannelKey investigationId.text) (log.map fun p => publishEvent p.1 p.2)
      = ⟨"subscribe", .int 1⟩ ::
        (eventsOf investigationId log).map fun e => ⟨"message", e.modelDumpJson⟩ := by
  have hchannel : ∀ p : Uuid × InvestigationEvent,
      ((publishEvent p.1 p.2).channel = eventChannelKey investigationId.text)
        ↔ p.1 = investigationId := by
    intro p
    constructor
    · intro h
      exact Uuid.ext_text (eventChannelKey_injective h)
    · intro h
      rw [h]
      rfl
  unfold listen eventsOf
  rw [List.filter_map, List.map_map, List.map_map]
  congr 2
  refine List.filter_congr ?_
  intro p _
  exact decide_eq_decide.mpr (hchannel p)

/-- The loop yields every event and no error exactly when it can read every event. -/
theorem subscribeLoop_eq (rt : Runtime) (events : List InvestigationEvent) :
    subscribeLoop rt (events.map fun e => ⟨"message", e.modelDumpJson⟩) = (events, none)
      ↔ ∀ e ∈ events, e.Readable := by
  induction events with
  | nil => simp [subscribeLoop]
  | cons e rest ih =>
      rw [List.map_cons, subscribeLoop, if_pos rfl, List.forall_mem_cons, ← ih,
        ← parseEvent_dump rt e]
      cases hparse : parseEvent rt e.modelDumpJson with
      | error err => simp
      | ok event =>
          simp only [List.cons.injEq, Except.ok.injEq, Prod.ext_iff]
          tauto

/--
**The wire format loses replanning events and nothing else.**

An event comes back as it was exactly when it is readable, and a subscriber is handed
exactly the events published for its investigation, without an error, exactly when each
of them is.
-/
theorem event_stream_delivered_iff (rt : Runtime) :
    (∀ e : InvestigationEvent, parseEvent rt e.modelDumpJson = .ok e ↔ e.Readable) ∧
    ∀ (investigationId : Uuid) (log : List (Uuid × InvestigationEvent)),
      subscribe rt investigationId (log.map fun p => publishEvent p.1 p.2)
          = (eventsOf investigationId log, none)
        ↔ ∀ e ∈ eventsOf investigationId log, e.Readable := by
  refine ⟨parseEvent_dump rt, ?_⟩
  intro investigationId log
  unfold subscribe
  rw [listen_publish, subscribeLoop, if_neg (by decide)]
  exact subscribeLoop_eq rt (eventsOf investigationId log)

/-- An investigation that replans once and then completes. -/
def replannedStream (investigationId : Uuid) : List InvestigationEvent :=
  [.planning {}, .replanning ⟨1, ["seismic"], "Persistent hypocenter contradiction"⟩,
    .done ⟨investigationId, "complete"⟩]

def replannedInvestigation : Uuid := ⟨"550e8400-e29b-41d4-a716-446655440000", rfl⟩

/-- The generator raises at the replanning event, and `done` never arrives. -/
theorem replanned_stream_lost :
    subscribe Runtime.reference replannedInvestigation
        ((replannedStream replannedInvestigation).map (publishEvent replannedInvestigation))
      = ([.planning {}], some (.valueError "Unknown event type: replanning")) ∧
    ¬ ∀ e ∈ replannedStream replannedInvestigation,
        parseEvent Runtime.reference e.modelDumpJson = .ok e := by
  refine ⟨rfl, ?_⟩
  intro h
  have hparse := h (.replanning ⟨1, ["seismic"], "Persistent hypocenter contradiction"⟩)
    (by simp [replannedStream])
  rw [parseEvent_replanning] at hparse
  cases hparse

end GaiaOS
