/-
How many calls an open circuit lets through once its timeout has run out.

`is_open` turns the circuit half-open before it lets the probe through, but a half-open
circuit lets everybody through, and so does an open one whose timeout has elapsed.  Nothing
is decided until an outcome is recorded.  Within the window, from the timeout to the
recorded outcome of the first call admitted, a call is turned away only by a circuit that
is open with its timeout running (`single_probe_iff`, first part), and if nobody was at the
source when the window opened there is no such circuit in it: the probe is the only call
admitted exactly if it is the only one to check (second part).
-/
import GaiaOS.Proofs.ResilientCall
import GaiaOS.Proofs.CircuitBreaker

namespace GaiaOS

namespace DegradedMode

open CircuitBreaker (hasElapsed getState)

variable {T : Type}

/-! ### The window -/

/-- A check that found the timeout running, and was not made past the bypass. -/
def Check.turnedAway (settings : ResilienceSettings) (check : Check) : Bool :=
  !settings.resilienceBypass && timeoutRunning settings check.now check.read

/-- The checks made since `s₀`. -/
def windowChecks (s₀ s : State T) : List Check := s.checks.drop s₀.checks.length

/-- Those of them whose call goes on to the source. -/
def admittedChecks (s₀ s : State T) : List Check := (windowChecks s₀ s).filter (·.admitted)

/-- The outcome of a call is recorded. -/
def recorded (s : State T) (call : Nat) : Bool :=
  s.breaker.completed.any fun done => done.process = call && done.op ≠ .isOpen

/-- The outcome of the first call admitted since `s₀` is recorded. -/
def probeRecorded (s₀ s : State T) : Bool :=
  match (admittedChecks s₀ s).head? with
  | none => false
  | some probe => recorded s probe.call

/-- The steps of the window: after the timeout, and before the first outcome is recorded. -/
def InWindow (settings : ResilienceSettings) (openedAt : Int) (s₀ s : State T) (e : Event T) : Prop :=
  probeRecorded s₀ s = false ∧
    ∀ call now, e = .check call now →
      hasElapsed settings.toCircuitSettings openedAt now = true

/-- One call goes to the source, and every other is served from the cache. -/
structure SingleProbe (s₀ s : State T) : Prop where
  one : ∃ probe, admittedChecks s₀ s = [probe]
  others : ∀ check ∈ windowChecks s₀ s, check.admitted = false →
    ServedFromCache (s.phase check.call)

/-- No call is at the source or on its way from it, and no breaker operation is under way. -/
def NoneAtLarge (s : State T) : Prop :=
  s.breaker.Idle ∧ ∀ call, (s.phase call).atLarge = false

/-! ### Every check is told by what it found -/

section Noted

variable {settings : ResilienceSettings} {codec : JsonCodec T} {source : String}
  {args : Nat → CallArgs} {s₀ s s' : State T} {openedAt : Int}

theorem windowChecks_append {more : List Check} (hgrown : s₀.checks <+: s.checks)
    (h : s'.checks = s.checks ++ more) : windowChecks s₀ s' = windowChecks s₀ s ++ more := by
  rw [windowChecks, h, List.drop_append_of_le_length hgrown.length_le, windowChecks]

/-- The checks since `s₀` are answered by what they found, and those turned away served. -/
structure Noted (settings : ResilienceSettings) (s₀ s : State T) : Prop where
  grown : s₀.checks <+: s.checks
  told : ∀ check ∈ windowChecks s₀ s, check.admitted = !check.turnedAway settings
  served : ∀ check ∈ windowChecks s₀ s, check.admitted = false →
    ServedFromCache (s.phase check.call)

/-- The step lemma. -/
theorem Noted.step {e : Event T} (h : Noted settings s₀ s)
    (hstep : step settings codec source args s e = some s') : Noted settings s₀ s' := by
  rcases step_checks hstep with hsame | ⟨call, now, rfl, hmore⟩
  · have hwindow : windowChecks s₀ s' = windowChecks s₀ s := by
      rw [windowChecks, hsame, windowChecks]
    refine ⟨hsame ▸ h.grown, ?_, ?_⟩
    · rw [hwindow]
      exact h.told
    · rw [hwindow]
      intro check hmem hadm
      exact served_step hstep (h.served check hmem hadm)
  · refine ⟨hmore ▸ h.grown.trans (List.prefix_append _ _), ?_, ?_⟩
    · rw [windowChecks_append h.grown hmore]
      intro check hmem
      rcases List.mem_append.mp hmem with hold | hnew
      · exact h.told check hold
      · rw [List.mem_singleton.mp hnew, Check.turnedAway]
        simp only [isFallback_firstPhase]
    · rw [windowChecks_append h.grown hmore]
      intro check hmem hadm
      rcases List.mem_append.mp hmem with hold | hnew
      · exact served_step hstep (h.served check hold hadm)
      · have hcheck := List.mem_singleton.mp hnew
        subst hcheck
        obtain ⟨-, hphase, -⟩ := check_cases hstep
        rw [hphase, Function.update_self]
        -- a check that is not admitted left its call at the cache
        revert hadm
        cases (firstPhase settings now (getState s.breaker.cell) : Phase T) with
        | fallback =>
            intro _
            trivial
        | _ =>
            intro hadm
            simp [Phase.isFallback] at hadm

theorem noted_start (s₀ : State T) : Noted settings s₀ s₀ :=
  ⟨List.prefix_rfl, by simp [windowChecks], by simp [windowChecks]⟩

/-- The run lemma. -/
theorem noted_of_reaches {allowed : State T → Event T → Prop} {events : List (Event T)}
    (h : Reaches (step settings codec source args) allowed s₀ events s) :
    Noted settings s₀ s :=
  h.invariant (noted_start s₀) fun _ _ _ hnoted _ hstep => hnoted.step hstep

/-- Exactly one call admitted: exactly one check that was not turned away. -/
theorem Noted.singleProbe_iff (h : Noted settings s₀ s) :
    SingleProbe s₀ s ↔
      ((windowChecks s₀ s).filter fun check => !check.turnedAway settings).length = 1 := by
  have hadmitted : admittedChecks s₀ s =
      (windowChecks s₀ s).filter fun check => !check.turnedAway settings := by
    refine List.filter_congr ?_
    intro check hmem
    exact h.told check hmem
  rw [← hadmitted, List.length_eq_one_iff]
  constructor
  · intro hsingle
    exact hsingle.one
  · intro hone
    exact ⟨hone, h.served⟩

end Noted

/-! ### Nobody at large

A check finds the circuit half-open, or open with the timeout behind it, as long as nobody
has recorded anything.  The only call that could is the probe, and its record ends the
window.
-/

section Probing

variable {settings : ResilienceSettings} {codec : JsonCodec T} {source : String}
  {args : Nat → CallArgs} {s₀ s s' : State T} {openedAt : Int}

/-- Open or half-open since `openedAt`. -/
def Tripped (openedAt : Int) (state : CircuitState) : Prop :=
  (state.status = .opened ∨ state.status = .halfOpen) ∧ state.openedAt = some openedAt

/-- No check was made since `s₀`. -/
structure Untouched (s₀ s : State T) : Prop where
  checks : s.checks = s₀.checks
  breaker : s.breaker = s₀.breaker
  noneAtLarge : ∀ call, (s.phase call).atLarge = false

/-- One check was made since `s₀`, and until its outcome is recorded the circuit is tripped. -/
structure Probing (openedAt : Int) (s₀ s : State T) (probe : Check) : Prop where
  checks : s.checks = s₀.checks ++ [probe]
  admitted : probe.admitted = true
  others : ∀ call, call ≠ probe.call → (s.phase call).atLarge = false
  circuit : recorded s probe.call = false → Tripped openedAt (getState s.breaker.cell)
  owed : recorded s probe.call = false → ∀ p, s.breaker.pending probe.call = some p →
    p.op ≠ .isOpen ∨ Tripped openedAt (getState p.value)

/-- A tripped circuit whose timeout has elapsed lets every call through. -/
theorem Tripped.not_running {state : CircuitState} (h : Tripped openedAt state) {now : Int}
    (hel : hasElapsed settings.toCircuitSettings openedAt now = true) :
    timeoutRunning settings now state = false := by
  unfold timeoutRunning
  rcases h with ⟨hopened | hhalf, hat⟩
  · simp [hopened, hat, hel]
  · simp [hhalf]

/-- What `is_open` writes to a tripped circuit is tripped. -/
theorem Tripped.isOpen_written {stored : Option CircuitState}
    (h : Tripped openedAt (getState stored)) {now : Int} {value : Option CircuitState}
    (hwritten : (CircuitBreaker.react settings.toCircuitSettings .isOpen now stored).1 = some value) :
    Tripped openedAt (getState value) := by
  simp only [CircuitBreaker.react, Option.map_eq_some_iff] at hwritten
  obtain ⟨written, hisOpen, rfl⟩ := hwritten
  obtain ⟨-, rfl⟩ := CircuitBreaker.isOpen_written hisOpen
  exact ⟨Or.inr rfl, h.2⟩

/-- A check of a tripped circuit in the window is admitted. -/
theorem check_admitted {call : Nat} {now : Int}
    (htripped : Tripped openedAt (getState s.breaker.cell))
    (hel : hasElapsed settings.toCircuitSettings openedAt now = true)
    (hstep : step settings codec source args s (.check call now) = some s') :
    s'.checks = s.checks ++ [⟨call, now, getState s.breaker.cell, true⟩] := by
  obtain ⟨-, -, hchecks, -⟩ := check_cases hstep
  rw [hchecks, isFallback_firstPhase, htripped.not_running hel, Bool.and_false, Bool.not_false]

/-- A call that is not at large leaves the breaker alone and stays so. -/
theorem move_of_not_atLarge {e : Event T} (hstep : step settings codec source args s e = some s')
    (hmove : ∀ call now, e ≠ .check call now) (hlarge : ∀ call, (s.phase call).atLarge = false) :
    s'.checks = s.checks ∧ s'.breaker = s.breaker ∧ ∀ call, (s'.phase call).atLarge = false := by
  obtain ⟨mover, next, hphase, hchecks, -, hquiet, -⟩ := move_cases hstep hmove
  obtain ⟨hnext, hbreaker⟩ := hquiet (hlarge mover)
  refine ⟨hchecks, hbreaker, ?_⟩
  rw [hphase, Function.forall_update_iff s.phase fun _ phase => phase.atLarge = false]
  exact ⟨hnext, fun call _ => hlarge call⟩

/-- The first check in the window is the probe. -/
theorem Untouched.check {call : Nat} {now : Int} (h : Untouched s₀ s)
    (htripped : Tripped openedAt (getState s₀.breaker.cell)) (hidle : s₀.breaker.Idle)
    (hel : hasElapsed settings.toCircuitSettings openedAt now = true)
    (hstep : step settings codec source args s (.check call now) = some s') :
    ∃ probe, Probing openedAt s₀ s' probe := by
  rw [← h.breaker] at htripped hidle
  obtain ⟨-, hphase, -, hbreaker⟩ := check_cases hstep
  refine ⟨⟨call, now, getState s.breaker.cell, true⟩, ?_, rfl, ?_, ?_, ?_⟩
  · rw [check_admitted htripped hel hstep, h.checks]
  · intro other hne
    rw [hphase, Function.update_of_ne hne]
    exact h.noneAtLarge other
  · intro _
    rcases hbreaker with ⟨-, hsame⟩ | ⟨-, hread⟩
    · rw [hsame]
      exact htripped
    · rw [(SharedCell.read_cases hread).1]
      exact htripped
  · intro _ p hp
    rcases hbreaker with ⟨-, hsame⟩ | ⟨-, hread⟩
    · rw [hsame, hidle] at hp
      cases hp
    · obtain ⟨-, hwritten⟩ := (SharedCell.read_cases hread).2 p hp
      exact Or.inr (htripped.isOpen_written hwritten)

theorem Probing.admittedChecks_eq {probe : Check} (h : Probing openedAt s₀ s probe) :
    admittedChecks s₀ s = [probe] := by
  rw [admittedChecks, windowChecks, h.checks, List.drop_left]
  simp [h.admitted]

/-- A step of the probe itself, up to the record of its outcome. -/
theorem Probing.ownBreaker {probe : Check} (h : Probing openedAt s₀ s probe)
    (hunrecorded : recorded s probe.call = false)
    (hbreaker : s'.breaker = s.breaker ∨
      (∃ op now, op ≠ .isOpen ∧ CircuitBreaker.step settings.toCircuitSettings s.breaker
        (.read probe.call op now) = some s'.breaker) ∨
      CircuitBreaker.step settings.toCircuitSettings s.breaker (.write probe.call) =
        some s'.breaker)
    (hrecorded : recorded s' probe.call = false) :
    Tripped openedAt (getState s'.breaker.cell) ∧
      ∀ p, s'.breaker.pending probe.call = some p →
        p.op ≠ .isOpen ∨ Tripped openedAt (getState p.value) := by
  rcases hbreaker with hsame | ⟨op, now, hop, hread⟩ | hwrite
  · rw [hsame]
    exact ⟨h.circuit hunrecorded, h.owed hunrecorded⟩
  · obtain ⟨hcell, hpending⟩ := SharedCell.read_cases hread
    rw [hcell]
    refine ⟨h.circuit hunrecorded, ?_⟩
    intro p hp
    refine Or.inl ?_
    rw [(hpending p hp).1]
    exact hop
  · obtain ⟨p, hp, hcell, hnone, hcompleted⟩ := SharedCell.write_cases hwrite
    rw [hcell, hnone]
    refine ⟨?_, by simp⟩
    rcases h.owed hunrecorded p hp with hop | htripped
    · -- the write of an outcome is what records it
      simp [recorded, hcompleted, hop] at hrecorded
    · exact htripped

/-- Until its outcome is recorded the probe stays alone, or a second call is admitted. -/
theorem Probing.step {probe : Check} {e : Event T} (h : Probing openedAt s₀ s probe)
    (hok : InWindow settings openedAt s₀ s e)
    (hstep : step settings codec source args s e = some s') :
    Probing openedAt s₀ s' probe ∨ 2 ≤ (admittedChecks s₀ s').length := by
  have hunrecorded : recorded s probe.call = false := by
    have hfirst := hok.1
    rw [probeRecorded, h.admittedChecks_eq] at hfirst
    exact hfirst
  rcases e.check_or_move with ⟨call, now, rfl⟩ | hmove
  · have hmore := check_admitted (h.circuit hunrecorded) (hok.2 call now rfl) hstep
    right
    rw [admittedChecks, windowChecks, hmore, h.checks, List.append_assoc, List.drop_left]
    simp [h.admitted]
  · left
    obtain ⟨mover, next, hphase, hchecks, -, hquiet, hbreaker⟩ := move_cases hstep hmove
    by_cases heq : mover = probe.call
    · subst heq
      have hown := h.ownBreaker hunrecorded hbreaker
      refine ⟨hchecks.trans h.checks, h.admitted, ?_, fun hr => (hown hr).1, fun hr => (hown hr).2⟩
      intro call hne
      rw [hphase, Function.update_of_ne hne]
      exact h.others call hne
    · obtain ⟨hnext, hsame⟩ := hquiet (h.others mover heq)
      refine ⟨hchecks.trans h.checks, h.admitted, ?_, ?_, ?_⟩
      · rw [hphase, Function.forall_update_iff s.phase fun call phase =>
          call ≠ probe.call → phase.atLarge = false]
        exact ⟨fun _ => hnext, fun call _ => h.others call⟩
      · intro _
        rw [hsame]
        exact h.circuit hunrecorded
      · intro _
        rw [hsame]
        exact h.owed hunrecorded

/-- More checks, more admitted. -/
theorem admittedChecks_length_le {e : Event T} (hgrown : s₀.checks <+: s.checks)
    (hstep : DegradedMode.step settings codec source args s e = some s') :
    (admittedChecks s₀ s).length ≤ (admittedChecks s₀ s').length := by
  rcases step_checks hstep with hsame | ⟨call, now, -, hmore⟩
  · have heq : admittedChecks s₀ s = admittedChecks s₀ s' := by
      rw [admittedChecks, admittedChecks, windowChecks, windowChecks, hsame]
    exact Nat.le_of_eq (congrArg List.length heq)
  · rw [admittedChecks, admittedChecks, windowChecks_append hgrown hmore, List.filter_append,
      List.length_append]
    exact Nat.le_add_right _ _

/-- How many checks the window has seen: none, the probe's alone, or two that were admitted. -/
def Counted (openedAt : Int) (s₀ s : State T) : Prop :=
  Untouched s₀ s ∨ (∃ probe, Probing openedAt s₀ s probe) ∨ 2 ≤ (admittedChecks s₀ s).length

theorem Counted.step {e : Event T} (h : Counted openedAt s₀ s) (hgrown : s₀.checks <+: s.checks)
    (htripped : Tripped openedAt (getState s₀.breaker.cell)) (hidle : s₀.breaker.Idle)
    (hok : InWindow settings openedAt s₀ s e)
    (hstep : DegradedMode.step settings codec source args s e = some s') :
    Counted openedAt s₀ s' := by
  rcases h with huntouched | ⟨probe, hprobing⟩ | htwo
  · rcases e.check_or_move with ⟨call, now, rfl⟩ | hmove
    · exact Or.inr (Or.inl (huntouched.check htripped hidle (hok.2 call now rfl) hstep))
    · obtain ⟨hchecks, hbreaker, hlarge⟩ :=
        move_of_not_atLarge hstep hmove huntouched.noneAtLarge
      exact Or.inl ⟨hchecks.trans huntouched.checks, hbreaker.trans huntouched.breaker, hlarge⟩
  · rcases hprobing.step hok hstep with hstill | htwo
    · exact Or.inr (Or.inl ⟨probe, hstill⟩)
    · exact Or.inr (Or.inr htwo)
  · exact Or.inr (Or.inr (Nat.le_trans htwo (admittedChecks_length_le hgrown hstep)))

theorem counted_of_reaches {events : List (Event T)}
    (htripped : Tripped openedAt (getState s₀.breaker.cell)) (hnone : NoneAtLarge s₀)
    (hrun : Reaches (step settings codec source args) (InWindow settings openedAt s₀) s₀ events s) :
    Counted openedAt s₀ s := by
  induction hrun with
  | start => exact Or.inl ⟨rfl, rfl, hnone.2⟩
  | next e run hok hstep ih =>
      exact ih.step (noted_of_reaches run).grown htripped hnone.1 hok hstep

theorem Counted.singleProbe_iff (h : Counted openedAt s₀ s) :
    SingleProbe s₀ s ↔ (windowChecks s₀ s).length = 1 := by
  rcases h with huntouched | ⟨probe, hprobing⟩ | htwo
  · have hnil : windowChecks s₀ s = [] := by
      rw [windowChecks, huntouched.checks, List.drop_length]
    constructor
    · intro hsingle
      obtain ⟨probe, hone⟩ := hsingle.one
      rw [admittedChecks, hnil] at hone
      cases hone
    · intro hlength
      rw [hnil] at hlength
      cases hlength
  · have hwindow : windowChecks s₀ s = [probe] := by
      rw [windowChecks, hprobing.checks, List.drop_left]
    rw [hwindow]
    refine ⟨fun _ => rfl, fun _ => ⟨⟨probe, hprobing.admittedChecks_eq⟩, ?_⟩⟩
    intro check hmem hadm
    rw [hwindow] at hmem
    rw [List.mem_singleton.mp hmem, hprobing.admitted] at hadm
    cases hadm
  · constructor
    · intro hsingle
      obtain ⟨probe, hone⟩ := hsingle.one
      rw [hone] at htwo
      exact absurd htwo (by simp)
    · intro hlength
      have hle : (admittedChecks s₀ s).length ≤ (windowChecks s₀ s).length :=
        List.length_filter_le _ _
      omega

end Probing

/--
**When the probe is single.**

The circuit is open at `s₀`, its timeout elapses, and the calls run, however interleaved,
up to the recorded outcome of the first one admitted.  Exactly one of them is admitted, and
every other served from the cache, if and only if exactly one does not find the circuit
open with its timeout running.  If no call was at large at `s₀` none finds it so, and the
probe is single if and only if no other call checks the circuit in the window at all.
-/
theorem single_probe_iff (settings : ResilienceSettings) (codec : JsonCodec T) (source : String)
    (args : Nat → CallArgs) (openedAt : Int) (s₀ s : State T) (events : List (Event T))
    (hopened : (getState s₀.breaker.cell).status = .opened)
    (hopenedAt : (getState s₀.breaker.cell).openedAt = some openedAt)
    (hrun : Reaches (step settings codec source args) (InWindow settings openedAt s₀) s₀ events s) :
    (SingleProbe s₀ s ↔
      ((windowChecks s₀ s).filter fun check => !check.turnedAway settings).length = 1) ∧
    (NoneAtLarge s₀ → (SingleProbe s₀ s ↔ (windowChecks s₀ s).length = 1)) := by
  refine ⟨(noted_of_reaches hrun).singleProbe_iff, ?_⟩
  intro hnone
  exact (counted_of_reaches ⟨Or.inl hopened, hopenedAt⟩ hnone hrun).singleProbe_iff

/-- An open circuit, and nobody there. -/
def openCircuit : State Nat := State.init (some ⟨.opened, 5, some 0⟩) Dict.empty

def natCodec : JsonCodec Nat := ⟨fun n => some (toString n), String.toNat?⟩

def anyArgs : Nat → CallArgs := fun _ => ⟨"8723214", none⟩

theorem openCircuit_noneAtLarge : NoneAtLarge openCircuit := ⟨fun _ => rfl, fun _ => rfl⟩

/-- One call, from its check to the record of its success. -/
theorem single_probe_one_call :
    ∃ s, Reaches (step {} natCodec "noaa" anyArgs) (InWindow {} 0 openCircuit) openCircuit
        [.check 0 60000000, .write 0, .attempt 0 (.value 25), .cache 0 60000100,
          .record 0 60000200, .write 0] s ∧
      probeRecorded openCircuit s = true ∧ SingleProbe openCircuit s := by
  have hrun : Reaches (step {} natCodec "noaa" anyArgs) (InWindow {} 0 openCircuit) openCircuit
      [.check 0 60000000, .write 0, .attempt 0 (.value 25), .cache 0 60000100,
        .record 0 60000200, .write 0] _ :=
    .head ⟨rfl, by rintro call now ⟨⟩; decide⟩ rfl <| .head ⟨rfl, by rintro call now ⟨⟩⟩ rfl <|
      .head ⟨rfl, by rintro call now ⟨⟩⟩ rfl <| .head ⟨rfl, by rintro call now ⟨⟩⟩ rfl <|
      .head ⟨rfl, by rintro call now ⟨⟩⟩ rfl <| .head ⟨rfl, by rintro call now ⟨⟩⟩ rfl .start
  refine ⟨_, hrun, by decide, ?_⟩
  exact ((single_probe_iff {} natCodec "noaa" anyArgs 0 openCircuit _ _ rfl rfl hrun).2
    openCircuit_noneAtLarge).mpr (by decide)

/--
**The probe is not single.**

A second call finds the circuit half-open while the first is still at the source, and is
admitted as well.
-/
theorem single_probe_two_calls_fail :
    ∃ s, Reaches (step {} natCodec "noaa" anyArgs) (InWindow {} 0 openCircuit) openCircuit
        [.check 0 60000000, .write 0, .check 1 60000100] s ∧
      s.phase 0 = .live 0 ∧ s.phase 1 = .live 0 ∧ probeRecorded openCircuit s = false ∧
      ¬ SingleProbe openCircuit s := by
  refine ⟨_, .head ⟨rfl, by rintro call now ⟨⟩; decide⟩ rfl <|
    .head ⟨rfl, by rintro call now ⟨⟩⟩ rfl <|
    .head ⟨rfl, by rintro call now ⟨⟩; decide⟩ rfl .start, rfl, rfl, rfl, ?_⟩
  intro hsingle
  obtain ⟨probe, hone⟩ := hsingle.one
  have hlength : _ = 1 := congrArg List.length hone
  revert hlength
  decide

end DegradedMode

end GaiaOS
