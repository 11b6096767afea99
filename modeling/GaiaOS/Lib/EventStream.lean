/-
Event streams, the `text/event-stream` format.

A reader takes the text character by character and keeps the line it is in and the fields of the
event it is in.  A blank line dispatches the event, if it has data.  What is read from a text does
not depend on how the text was cut into pieces (`Reader.read_append`).

A writer frames an event as its name, its data and a blank line.  Frames are read back as they
were written (`Reader.read_frame`), and from a stream that breaks off the reader gets the events
whose frames are whole and no other (`Reader.read_take`).
-/
import Mathlib.Data.List.Basic

namespace GaiaOS

namespace EventStream

/-! ### Reading -/

structure ServerSentEvent where
  event : String
  data : String
  id : String := ""
  retry : Option Nat := none
  deriving DecidableEq

structure Reader where
  /-- The line so far. -/
  line : List Char := []
  /-- The last character ended a line and was a carriage return. -/
  pastReturn : Bool := false
  event : String := ""
  data : List String := []
  lastEventId : String := ""
  retry : Option Nat := none
  deriving DecidableEq

/-- A field of the event. -/
def Reader.field (r : Reader) (name value : String) : Reader :=
  if name = "event" then { r with event := value }
  else if name = "data" then { r with data := r.data ++ [value] }
  else if name = "id" then
    if value.toList.contains '\x00' then r else { r with lastEventId := value }
  else if name = "retry" then
    if value ≠ "" ∧ value.toList.all Char.isDigit then { r with retry := value.toNat? } else r
  else r

/-- A blank line. -/
def Reader.dispatch (r : Reader) : Reader × Option ServerSentEvent :=
  let next := { r with event := "", data := [], retry := none }
  if r.data.isEmpty then (next, none)
  else
    (next, some {
      event := if r.event = "" then "message" else r.event
      data := String.intercalate "\n" r.data
      id := r.lastEventId
      retry := r.retry })

/-- The value after the colon, without the one space it may start with. -/
def fieldValue : List Char → List Char
  | ':' :: ' ' :: value => value
  | ':' :: value => value
  | value => value

/-- The end of a line. -/
def Reader.endLine (r : Reader) : Reader × Option ServerSentEvent :=
  let line := r.line
  let r := { r with line := [] }
  if line = [] then r.dispatch
  else
    let name := line.takeWhile (· ≠ ':')
    if name = [] then (r, none)
    else
      let value := fieldValue (line.dropWhile (· ≠ ':'))
      (r.field (String.ofList name) (String.ofList value), none)

def Reader.char (r : Reader) (c : Char) : Reader × Option ServerSentEvent :=
  if c = '\n' then
    if r.pastReturn then ({ r with pastReturn := false }, none) else r.endLine
  else if c = '\r' then
    let (r, event) := { r with pastReturn := false }.endLine
    ({ r with pastReturn := true }, event)
  else ({ r with line := r.line ++ [c], pastReturn := false }, none)

/-- The events a text completes, and where the reader is after it. -/
def Reader.read (r : Reader) : List Char → Reader × List ServerSentEvent
  | [] => (r, [])
  | c :: text =>
      let (r, event) := r.char c
      let (r, events) := r.read text
      (r, event.toList ++ events)

/-! ### Pieces of a text -/

theorem Reader.read_append (a b : List Char) :
    ∀ r : Reader, r.read (a ++ b) =
      (((r.read a).1.read b).1, (r.read a).2 ++ ((r.read a).1.read b).2) := by
  induction a with
  | nil =>
      intro r
      rfl
  | cons c a ih =>
      intro r
      simp only [List.cons_append, Reader.read, ih, List.append_assoc]

/-- A text that breaks off gives the first of the events. -/
theorem Reader.read_prefix {a text : List Char} (h : a <+: text) (r : Reader) :
    (r.read a).2 <+: (r.read text).2 := by
  obtain ⟨b, rfl⟩ := h
  rw [read_append]
  exact List.prefix_append _ _

/-! ### Frames -/

/-- A text that stays on one line. -/
def OneLine (text : String) : Prop := '\n' ∉ text.toList ∧ '\r' ∉ text.toList

instance (text : String) : Decidable (OneLine text) := inferInstanceAs (Decidable (_ ∧ _))

/-- A writer's frame of an event. -/
def frame (event data : String) : String :=
  "event: " ++ event ++ "\ndata: " ++ data ++ "\n\n"

/-- A frame as it is read: a line with the name, a line with the data, and a blank one. -/
theorem frame_toList (event data : String) :
    (frame event data).toList =
      ("event: " ++ event).toList ++ '\n' :: (("data: " ++ data).toList ++ ['\n', '\n']) := by
  simp [frame, String.toList_append, List.append_assoc]

variable {r : Reader}

/-- The reader between two events. -/
def Reader.Idle (r : Reader) : Prop := r = { lastEventId := r.lastEventId }

theorem Reader.read_line :
    ∀ {text : List Char} {r : Reader}, '\n' ∉ text → '\r' ∉ text → r.pastReturn = false →
      r.read text = ({ r with line := r.line ++ text }, []) := by
  intro text
  induction text with
  | nil =>
      intro r _ _ _
      simp [Reader.read]
  | cons c text ih =>
      intro r hnewline hreturn hpast
      have hc : c ≠ '\n' := fun h => hnewline (by simp [h])
      have hc' : c ≠ '\r' := fun h => hreturn (by simp [h])
      have hchar : r.char c = ({ r with line := r.line ++ [c] }, none) := by
        simp [Reader.char, hc, hc', hpast]
      have hrest := @ih { r with line := r.line ++ [c] }
        (fun h => hnewline (List.mem_cons_of_mem _ h)) (fun h => hreturn (List.mem_cons_of_mem _ h))
        hpast
      simp [Reader.read, hchar, hrest]

theorem Reader.endLine_field {name value : List Char} (hname : name ≠ []) (hcolon : ':' ∉ name)
    (hline : r.line = name ++ ':' :: ' ' :: value) :
    r.endLine =
      ({ r with line := [] }.field (String.ofList name) (String.ofList value), none) := by
  have hne : ∀ c ∈ name, decide (c ≠ ':') = true := by
    intro c hc
    exact decide_eq_true fun h => hcolon (h ▸ hc)
  have hnil : name ++ ':' :: ' ' :: value ≠ [] := by simp
  have htake : (name ++ ':' :: ' ' :: value).takeWhile (fun c => decide (c ≠ ':')) = name := by
    rw [List.takeWhile_append_of_pos hne]
    simp
  have hdrop : (name ++ ':' :: ' ' :: value).dropWhile (fun c => decide (c ≠ ':')) =
      ':' :: ' ' :: value := by
    rw [List.dropWhile_append_of_pos hne]
    simp
  unfold Reader.endLine
  dsimp only
  rw [hline, if_neg hnil, htake, hdrop, if_neg hname]
  rfl

/-- A line with a field, with the character that ends it. -/
theorem Reader.read_field {name value : String} (hname : name ≠ "") (hcolon : ':' ∉ name.toList)
    (hone : OneLine (name ++ ": " ++ value)) (hline : r.line = []) (hpast : r.pastReturn = false)
    (rest : List Char) :
    r.read ((name ++ ": " ++ value).toList ++ '\n' :: rest) = (r.field name value).read rest := by
  have htext : (name ++ ": " ++ value).toList = name.toList ++ ':' :: ' ' :: value.toList := by
    simp [String.toList_append]
  have hnil : name.toList ≠ [] := by simpa using hname
  have hsame : { r with line := [] } = r := by
    rw [← hline]
  have hchar : { r with line := (name ++ ": " ++ value).toList }.char '\n' =
      (r.field name value, none) := by
    have hend := @Reader.endLine_field { r with line := (name ++ ": " ++ value).toList }
      name.toList value.toList hnil hcolon htext
    rw [String.ofList_toList, String.ofList_toList] at hend
    simp only [hsame] at hend
    simp only [Reader.char, if_true, hpast, Bool.false_eq_true, if_false]
    rw [hpast] at hend
    exact hend
  rw [read_append, read_line hone.1 hone.2 hpast, hline, List.nil_append]
  simp only [Reader.read, hchar, Option.toList_none, List.nil_append]

/-- A frame is read as its event. -/
theorem Reader.read_frame {event data : String} (hidle : r.Idle) (hevent : OneLine event)
    (hdata : OneLine data) (hname : event ≠ "") :
    r.read (frame event data).toList = (r, [{ event, data, id := r.lastEventId }]) := by
  have hframe : (frame event data).toList =
      ("event" ++ ": " ++ event).toList ++
        '\n' :: (("data" ++ ": " ++ data).toList ++ '\n' :: ['\n']) := by
    rw [frame_toList]
    rfl
  have honeEvent : OneLine ("event" ++ ": " ++ event) := by
    simpa [OneLine, String.toList_append] using hevent
  have honeData : OneLine ("data" ++ ": " ++ data) := by
    simpa [OneLine, String.toList_append] using hdata
  rw [hframe, read_field (by decide) (by decide) honeEvent (by rw [hidle]) (by rw [hidle]),
    read_field (by decide) (by decide) honeData (by rw [hidle]; rfl) (by rw [hidle]; rfl)]
  rw [hidle]
  simp [Reader.read, Reader.char, Reader.field, Reader.endLine, Reader.dispatch, hname]

/-- A frame that breaks off is no event. -/
theorem Reader.read_take_frame {event data : String} (hidle : r.Idle) (hevent : OneLine event)
    (hdata : OneLine data) {n : Nat} (hn : n < (frame event data).toList.length) :
    (r.read ((frame event data).toList.take n)).2 = [] := by
  have hframe : (frame event data).toList =
      (("event" ++ ": " ++ event).toList ++
        '\n' :: (("data" ++ ": " ++ data).toList ++ '\n' :: [])) ++ ['\n'] := by
    rw [frame_toList]
    simp [String.toList_append]
  have honeEvent : OneLine ("event" ++ ": " ++ event) := by
    simpa [OneLine, String.toList_append] using hevent
  have honeData : OneLine ("data" ++ ": " ++ data) := by
    simpa [OneLine, String.toList_append] using hdata
  -- all but the last character dispatch nothing
  have hbut : (r.read (("event" ++ ": " ++ event).toList ++
      '\n' :: (("data" ++ ": " ++ data).toList ++ '\n' :: []))).2 = [] := by
    rw [read_field (by decide) (by decide) honeEvent (by rw [hidle]) (by rw [hidle]),
      read_field (by decide) (by decide) honeData (by rw [hidle]; rfl) (by rw [hidle]; rfl)]
    rfl
  rw [hframe] at hn ⊢
  rw [List.length_append, List.length_singleton] at hn
  rw [List.take_append_of_le_length (by omega)]
  exact List.prefix_nil.mp (hbut ▸ read_prefix (List.take_prefix _ _) r)

/-! ### Streams -/

/-- An event to be written: its name and its data. -/
structure Written where
  event : String
  data : String

/-- An event that a frame can carry. -/
structure Written.Sound (w : Written) : Prop where
  named : w.event ≠ ""
  event : OneLine w.event
  data : OneLine w.data

def Written.text (w : Written) : List Char := (frame w.event w.data).toList

/-- The written event as it is read, with the last identifier the stream has had. -/
def Written.read (id : String) (w : Written) : ServerSentEvent :=
  { event := w.event, data := w.data, id }

/-- How many of the frames are whole within the first `n` characters. -/
def wholeFrames : List Written → Nat → Nat
  | [], _ => 0
  | w :: rest, n => if w.text.length ≤ n then wholeFrames rest (n - w.text.length) + 1 else 0

/-- **Whatever part of a stream arrives, the events read are those whose frames are whole.** -/
theorem Reader.read_take (hidle : r.Idle) :
    ∀ {events : List Written} (n : Nat), (∀ w ∈ events, w.Sound) →
      (r.read ((events.flatMap Written.text).take n)).2 =
        (events.take (wholeFrames events n)).map (Written.read r.lastEventId) := by
  intro events
  induction events with
  | nil =>
      intro n _
      simp [Reader.read]
  | cons w rest ih =>
      intro n hsound
      have hw := hsound w List.mem_cons_self
      have hrest := fun v hv => hsound v (List.mem_cons_of_mem w hv)
      rw [List.flatMap_cons, wholeFrames]
      by_cases hwhole : w.text.length ≤ n
      · have hread : r.read w.text = (r, [w.read r.lastEventId]) :=
          read_frame hidle hw.event hw.data hw.named
        rw [if_pos hwhole, List.take_append, List.take_of_length_le hwhole, read_append, hread]
        simp only [ih (n - w.text.length) hrest]
        rfl
      · rw [if_neg hwhole, List.take_append_of_le_length (by omega)]
        exact read_take_frame hidle hw.event hw.data (Nat.lt_of_not_le hwhole)

theorem wholeFrames_eq_length :
    ∀ {events : List Written} {n : Nat}, (events.flatMap Written.text).length ≤ n →
      wholeFrames events n = events.length := by
  intro events
  induction events with
  | nil =>
      intro n _
      rfl
  | cons w rest ih =>
      intro n hn
      rw [List.flatMap_cons, List.length_append] at hn
      rw [wholeFrames, if_pos (by omega), ih (by omega), List.length_cons]

end EventStream

end GaiaOS
