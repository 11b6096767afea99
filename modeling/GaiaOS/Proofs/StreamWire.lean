/-
What a client of an event stream gets, from the worker's publications to the SDK's events.

The text of a stream is a list of frames, each sound because an event's name and its JSON stay on
one line.  So the SDK yields the events the stream hears, as many of them as have arrived whole,
each with its name and payload (`sdk_hears`); a client that listens on after the stream broke off
cannot tell.  The command line prints none of them (`printStream_eq`).
-/
import GaiaOS.Proofs.StreamEnd
import GaiaOS.Sdk.Streaming

namespace GaiaOS

namespace InvestigationStream

open EventStream

variable {rt : Runtime} {job : Job} {text : JsonText}

/-- The JSON of an event's payload stays on one line and is read back. -/
structure Carries (text : JsonText) (event : InvestigationEvent) : Prop where
  loads : text.loads (dataJson text event) = .ok (.obj (payload event))
  oneLine : OneLine (dataJson text event)
  nonempty : dataJson text event ≠ ""

theorem eventName_oneLine (event : InvestigationEvent) :
    eventName event ≠ "" ∧ OneLine (eventName event) := by
  cases event <;> dsimp only [eventName] <;> decide

theorem written_sound {event : InvestigationEvent} (h : Carries text event) :
    (written text event).Sound :=
  ⟨(eventName_oneLine event).1, (eventName_oneLine event).2, h.oneLine⟩

/-- An event as a client of the SDK gets it. -/
def heardAs (event : InvestigationEvent) : StreamEvent where
  eventType := eventName event
  data := payload event
  id := some ""

/-- The payload is what the model dumps, unless it is the plain dict. -/
theorem modelDumpJson_eq {event : InvestigationEvent} (h : event.finitePayload = true) :
    event.modelDumpJson = eventJson (eventName event) (payload event) := by
  cases event with
  | synthesizing d =>
      have hfinite := (Json.dumpEntries_eq_self d.entries).mpr h
      rw [InvestigationEvent.modelDumpJson, hfinite]
      rfl
  | _ => rfl

theorem parseSseData_written {event : InvestigationEvent} (h : Carries text event) :
    parseSseData text (dataJson text event) = payload event := by
  unfold parseSseData
  rw [if_neg h.nonempty, h.loads]

/-- The events of a text that is part of a stream. -/
theorem streamInvestigationEvents_take {events : List InvestigationEvent}
    (h : ∀ e ∈ events, Carries text e) (n : Nat) :
    streamInvestigationEvents text ((events.flatMap fun e => (written text e).text).take n) =
      (events.take (wholeFrames (events.map (written text)) n)).map heardAs := by
  have hflat : (events.flatMap fun e => (written text e).text) =
      (events.map (written text)).flatMap Written.text := by
    rw [List.flatMap_map]
  have hsound : ∀ w ∈ events.map (written text), w.Sound := by
    intro w hw
    obtain ⟨e, he, rfl⟩ := List.mem_map.mp hw
    exact written_sound (h e he)
  have hidle : ({} : Reader).Idle := rfl
  rw [streamInvestigationEvents, hflat, Reader.read_take hidle n hsound, ← List.map_take,
    List.map_map, List.map_map]
  refine List.map_congr_left fun e he => ?_
  have hcarries := h e (List.mem_of_mem_take he)
  simp [Function.comp, Written.read, written, heardAs, (eventName_oneLine e).1,
    parseSseData_written hcarries]

/-- **What the SDK yields of a stream**, however much of it arrives: of the events published since
the subscription, up to a replanning event, those whose frames are whole, as they were
published. -/
theorem sdk_hears {allowed : World → Action → Prop} {row : Option Investigation}
    {actions : List Action} {w : World} {since : Nat}
    (hrun : Reaches (step rt job) allowed (start row) actions w)
    (hsince : w.stream.since = some since) (hcarries : ∀ e ∈ w.published, Carries text e)
    (n : Nat) :
    let heard := (w.published.drop since).takeWhile fun e => !e.isReplanning
    let arrived := streamInvestigationEvents text ((w.stream.sent text rt).take n)
    arrived = (heard.take (wholeFrames (heard.map (written text)) n)).map heardAs ∧
      ((w.stream.sent text rt).length ≤ n → arrived = heard.map heardAs) ∧
      ∀ e ∈ heard, (publishEvent job.investigationId e).data =
        eventJson (heardAs e).eventType (heardAs e).data := by
  intro heard arrived
  have htuned : Tuned w := tuned_of_reaches hrun
  have hpublished : ∀ e ∈ heard, e ∈ w.published := by
    intro e he
    exact List.mem_of_mem_drop ((List.takeWhile_prefix _).subset he)
  have hsent : w.stream.sent text rt = heard.flatMap fun e => (written text e).text := by
    rw [Stream.sent, heard_eq htuned hsince]
  have harrived :
      arrived = (heard.take (wholeFrames (heard.map (written text)) n)).map heardAs := by
    rw [← streamInvestigationEvents_take (fun e he => hcarries e (hpublished e he)) n, ← hsent]
  refine ⟨harrived, fun hlength => ?_, fun e he => ?_⟩
  · rw [hsent, ← List.flatMap_map] at hlength
    rw [harrived, wholeFrames_eq_length hlength, List.length_map, List.take_length]
  · exact modelDumpJson_eq (htuned.published e (hpublished e he))

/-- A text for the payload of a planning event. -/
def sampleText : JsonText where
  modelDumpJson _ := "\x7b\"status\":\"planning\"\x7d"
  dumps _ := "\x7b\x7d"
  loads text :=
    if text = "\x7b\"status\":\"planning\"\x7d" then .ok (.obj [("status", .str "planning")])
    else .error (.valueError "Expecting value")

def isPlanning : InvestigationEvent → Bool
  | .planning d => d.status == "planning"
  | _ => false

theorem eq_planning {e : InvestigationEvent} (h : isPlanning e = true) : e = .planning {} := by
  cases e with
  | planning d => rw [show d = {} from congrArg PlanningData.mk (beq_iff_eq.mp h)]
  | _ => cases h

/-- A subscribed stream and a job that has published its first event. -/
def sampleActions : List Action :=
  wholeRequest ++ [.prepare (.ok jobState.query), .node false, .effect 1 false]

/-- The stream has one event in 45 characters; without the last of them the client has none. -/
theorem sampleStream_cut :
    ∃ w : World, Reaches (step Runtime.reference sampleJob) (fun _ _ => True)
        (start (some sampleRow)) sampleActions w ∧
      streamInvestigationEvents sampleText ((w.stream.sent sampleText Runtime.reference).take 45) =
        [heardAs (.planning {})] ∧
      streamInvestigationEvents sampleText ((w.stream.sent sampleText Runtime.reference).take 44) =
        [] := by
  have hrun : (sampleActions.foldlM (step Runtime.reference sampleJob)
      (start (some sampleRow))).map (fun w => (w.published.map isPlanning, w.stream.since)) =
        some ([true], some 0) := by
    decide +kernel
  obtain ⟨w, hw, hshown⟩ := Option.map_eq_some_iff.mp hrun
  obtain ⟨hplanning, hsince⟩ := Prod.mk.injEq .. ▸ hshown
  obtain ⟨e, hpublished, he⟩ := List.map_eq_singleton_iff.mp hplanning
  obtain rfl := eq_planning he
  have hreaches : Reaches (step Runtime.reference sampleJob) (fun _ _ => True)
      (start (some sampleRow)) sampleActions w := .of_foldlM (fun _ _ => trivial) hw
  have hcarries : ∀ e ∈ w.published, Carries sampleText e := by
    intro e he
    rw [hpublished, List.mem_singleton] at he
    rw [he]
    exact ⟨rfl, by decide +kernel, by decide +kernel⟩
  have hheard := sdk_hears hreaches hsince hcarries
  rw [hpublished] at hheard
  refine ⟨w, hreaches, (hheard 45).1.trans ?_, (hheard 44).1.trans ?_⟩
  · have hwhole : wholeFrames [written sampleText (.planning {})] 45 = 1 := by decide +kernel
    exact congrArg (fun k => (List.take k [InvestigationEvent.planning {}]).map heardAs) hwhole
  · have hwhole : wholeFrames [written sampleText (.planning {})] 44 = 0 := by decide +kernel
    exact congrArg (fun k => (List.take k [InvestigationEvent.planning {}]).map heardAs) hwhole

/-- The command line looks for a `node` in the first event and prints none. -/
theorem printStream_eq (str : Json → String) (events : List StreamEvent) :
    printStream str events =
      if events = [] then [] else ["Streaming error: object has no attribute 'node'"] := by
  cases events with
  | nil => rfl
  | cons event rest => rfl

end InvestigationStream

end GaiaOS
