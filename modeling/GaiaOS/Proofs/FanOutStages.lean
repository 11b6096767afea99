/-
The two stages of the fan-out in closed form.

A monitored run ends in an `AgentOutput` unless its runner returns something else that the
error boundary lets through, or is cancelled.  The copy of the gathered results leaves out
what is neither an exception nor an `AgentOutput`, so it is a `filterMap`.  Stage B
overwrites position `p` of that copy with the refinement of the `p`-th domain, provided
every refinement comes back and finds its position in the list; otherwise the whole call
raises (`run_ok`, `run_error`).
-/
import GaiaOS.Graph.FanOutCoordinator

namespace GaiaOS

/-! ### Closing up a list

Where the entries of `l.filterMap id` come from.
-/

section ClosingUp

variable {α : Type} {l : List (Option α)} {p : Nat} {v : α}

theorem filterMap_id_getElem? (h : l[p]? = some (some v)) :
    (l.filterMap id)[((l.take p).filterMap id).length]? = some v := by
  have hsplit : l = l.take p ++ some v :: l.drop (p + 1) := by
    obtain ⟨hp, hget⟩ := List.getElem?_eq_some_iff.mp h
    rw [← hget, List.getElem_cons_drop, List.take_append_drop]
  have happ : l.filterMap id
      = (l.take p).filterMap id ++ v :: (l.drop (p + 1)).filterMap id := by
    conv_lhs => rw [hsplit]
    rw [List.filterMap_append]
    rfl
  rw [happ, List.getElem?_append_right (le_refl _), Nat.sub_self]
  rfl

theorem filterMap_id_take_length (h : ∀ x ∈ l, x.isSome = true) (hp : p ≤ l.length) :
    ((l.take p).filterMap id).length = p := by
  have hall : ((l.take p).filterMap id).length = (l.take p).length := by
    rw [List.filterMap_length_eq_length]
    intro x hx
    exact h x (List.mem_of_mem_take hx)
  rw [hall, List.length_take, min_eq_left hp]

end ClosingUp

namespace FanOutCoordinator

/-! ### One monitored run -/

/-- The runs the error boundary turns into an `AgentOutput`. -/
def Accounted : RunnerResult → Prop
  | .returns (.output _) | .raises _ | .timesOut => True
  | .returns (.other v) => ∃ err, evidenceCount (.other v) = .error err ∧ err.isException = true
  | .cancelled => False

/-- The outcome of a domain: its own output, or one that names it and says what went wrong. -/
def Outcome (domain : String) (result : RunnerResult) (o : AgentOutput) : Prop :=
  match result with
  | .returns (.output o') => o = o'
  | _ => o.agentName = domain ∧ o.evidence = [] ∧ o.errors ≠ []

/-- An accounted run yields its outcome. -/
theorem monitored_of_accounted (timeout domain : String) {result : RunnerResult}
    (h : Accounted result) :
    ∃ o, runAgentWithMonitoring timeout domain result = .ok (.output o) ∧
      Outcome domain result o := by
  cases result with
  | returns v =>
      cases v with
      | output o => exact ⟨o, rfl, rfl⟩
      | other v =>
          obtain ⟨err, hcount, hexc⟩ := h
          refine ⟨failedOutput domain err.str, ?_, rfl, rfl, by simp [failedOutput]⟩
          simp only [runAgentWithMonitoring, hcount, hexc, if_true]
  | raises message => exact ⟨_, rfl, rfl, rfl, by simp [failedOutput]⟩
  | timesOut => exact ⟨_, rfl, rfl, rfl, by simp [timedOutOutput]⟩
  | cancelled => exact absurd h id

/-- Only an accounted run yields an `AgentOutput`. -/
theorem accounted_of_monitored {timeout domain : String} {result : RunnerResult} {o : AgentOutput}
    (h : runAgentWithMonitoring timeout domain result = .ok (.output o)) : Accounted result := by
  cases result with
  | raises message => trivial
  | timesOut => trivial
  | cancelled => cases h
  | returns v =>
      cases v with
      | output o => trivial
      | other v =>
          simp only [runAgentWithMonitoring] at h
          split at h
          · cases h
          · rename_i err hcount
            refine ⟨err, hcount, ?_⟩
            by_contra hexc
            rw [if_neg hexc] at h
            cases h

/-- The first half keeps exactly the accounted runs. -/
theorem processResult_isSome_iff (timeout domain : String) (result : RunnerResult) :
    (processResult domain (runAgentWithMonitoring timeout domain result)).isSome = true
      ↔ Accounted result := by
  constructor
  · intro h
    cases hrun : runAgentWithMonitoring timeout domain result with
    | ok v =>
        cases v with
        | output o => exact accounted_of_monitored hrun
        | other v =>
            rw [hrun] at h
            cases h
    | error err =>
        -- what comes out of the boundary as an error is a cancellation
        rw [hrun] at h
        simp only [processResult] at h
        split at h
        · rename_i hexc
          cases result with
          | raises message => trivial
          | timesOut => trivial
          | cancelled =>
              cases hrun
              cases hexc
          | returns v =>
              simp only [runAgentWithMonitoring] at hrun
              split at hrun
              · cases hrun
              · split at hrun
                · cases hrun
                · rename_i hnot
                  cases hrun
                  exact absurd hexc hnot
        · cases h
  · intro h
    obtain ⟨o, ho, -⟩ := monitored_of_accounted timeout domain h
    rw [ho]
    rfl

/-! ### Stage B -/

section StageB

variable (fleet : Fleet) (domains : List String) (agentInput : AgentInput)

/-- Stage B takes place. -/
def collaborates : Bool := fleet.enableAgentCollaboration && !fleet.broadcasts.isEmpty

/-- What is on the bus when Stage B comes to position `p`. -/
def busBefore : Nat → List CollaborationMessage
  | 0 => fleet.broadcasts
  | p + 1 =>
      match domains[p]? with
      | none => busBefore p
      | some domain =>
          if (triggeredInput fleet agentInput p domain (busBefore p)).isSome then
            busBefore p ++ fleet.refineBroadcasts p
          else busBefore p

/-- The refined input position `p` is run with again, if it is. -/
def triggered (p : Nat) : Option RefinedInput :=
  if collaborates fleet then
    domains[p]?.bind fun domain =>
      triggeredInput fleet agentInput p domain (busBefore fleet domains agentInput p)
  else none

/-- How the refinement of position `p` ends, if there is one. -/
def refinement (p : Nat) : Option (Except PyError Value) :=
  domains[p]?.bind fun domain =>
    (triggered fleet domains agentInput p).map (runRefinement fleet p domain)

/-- From position `k` on, every refinement comes back and finds its position. -/
def Completes (k len : Nat) : Prop :=
  ∀ p, k ≤ p → ∀ r, refinement fleet domains agentInput p = some r →
    (∃ v, r = .ok v) ∧ p < len

/-- The list after the refinements from position `k` on. -/
def overwrite (k : Nat) (xs : List Value) : List Value :=
  xs.mapIdx fun p x =>
    match refinement fleet domains agentInput p with
    | some (.ok v) => if k ≤ p then v else x
    | _ => x

variable {fleet domains agentInput}

theorem refinement_eq (hcol : collaborates fleet = true) {p : Nat} {domain : String}
    (hdom : domains[p]? = some domain) :
    refinement fleet domains agentInput p
      = (triggeredInput fleet agentInput p domain (busBefore fleet domains agentInput p)).map
          (runRefinement fleet p domain) := by
  simp only [refinement, triggered, hcol, hdom, if_true, Option.bind_some]

theorem busBefore_succ {p : Nat} {domain : String} (hdom : domains[p]? = some domain) :
    busBefore fleet domains agentInput (p + 1)
      = if (triggeredInput fleet agentInput p domain
            (busBefore fleet domains agentInput p)).isSome then
          busBefore fleet domains agentInput p ++ fleet.refineBroadcasts p
        else busBefore fleet domains agentInput p := by
  rw [busBefore, hdom]

theorem overwrite_getElem? (p : Nat) (xs : List Value) :
    (overwrite fleet domains agentInput 0 xs)[p]? = xs[p]?.map fun x =>
      match refinement fleet domains agentInput p with
      | some (.ok v) => v
      | _ => x := by
  simp [overwrite]

theorem overwrite_of_none {k : Nat} (h : refinement fleet domains agentInput k = none)
    (xs : List Value) :
    overwrite fleet domains agentInput (k + 1) xs = overwrite fleet domains agentInput k xs := by
  refine List.ext_getElem? ?_
  intro q
  simp only [overwrite, List.getElem?_mapIdx]
  congr 1
  funext x
  by_cases hq : q = k
  · subst hq
    rw [h]
  · have hle : k + 1 ≤ q ↔ k ≤ q := by omega
    simp only [hle]

theorem overwrite_set {k : Nat} {v : Value}
    (h : refinement fleet domains agentInput k = some (.ok v)) (xs : List Value) :
    overwrite fleet domains agentInput (k + 1) (xs.set k v)
      = overwrite fleet domains agentInput k xs := by
  refine List.ext_getElem? ?_
  intro q
  simp only [overwrite, List.getElem?_mapIdx, List.getElem?_set]
  by_cases hq : k = q
  · subst hq
    rw [if_pos rfl, h]
    by_cases hlt : k < xs.length
    · simp [hlt]
    · simp [hlt]
  · rw [if_neg hq]
    congr 1
    funext x
    have hle : k + 1 ≤ q ↔ k ≤ q := by omega
    simp only [hle]

theorem overwrite_eq_self {k : Nat} (h : ∀ p, k ≤ p → refinement fleet domains agentInput p = none)
    (xs : List Value) : overwrite fleet domains agentInput k xs = xs := by
  refine List.ext_getElem? ?_
  intro q
  have hid : (fun x => match refinement fleet domains agentInput q with
      | some (.ok v) => if k ≤ q then v else x
      | _ => x) = fun x : Value => x := by
    funext x
    by_cases hq : k ≤ q
    · rw [h q hq]
    · simp only [if_neg hq]
      split <;> rfl
  simp only [overwrite, List.getElem?_mapIdx, hid]
  simp

/-- A position that is not in the way leaves the rest of Stage B as it is. -/
theorem completes_succ {k len : Nat}
    (h : ∀ r, refinement fleet domains agentInput k = some r → (∃ v, r = .ok v) ∧ k < len) :
    Completes fleet domains agentInput k len ↔ Completes fleet domains agentInput (k + 1) len := by
  constructor
  · intro hall p hp
    exact hall p (by omega)
  · intro hall p hp r hr
    by_cases hq : p = k
    · subst hq
      exact h r hr
    · exact hall p (by omega) r hr

/-- Stage B from position `k` on, in closed form. -/
theorem stageB_eq (hcol : collaborates fleet = true) (rest : List String) :
    ∀ (k : Nat) (xs : List Value), domains.drop k = rest →
      (Completes fleet domains agentInput k xs.length →
        stageB fleet agentInput k rest xs (busBefore fleet domains agentInput k)
          = .ok (overwrite fleet domains agentInput k xs)) ∧
      (¬ Completes fleet domains agentInput k xs.length →
        ∃ err, stageB fleet agentInput k rest xs (busBefore fleet domains agentInput k)
          = .error err) := by
  induction rest with
  | nil =>
      intro k xs hdrop
      have hlen : domains.length ≤ k := List.drop_eq_nil_iff.mp hdrop
      have hnone : ∀ p, k ≤ p → refinement fleet domains agentInput p = none := by
        intro p hp
        have hout : domains[p]? = none := List.getElem?_eq_none (by omega)
        simp only [refinement, hout, Option.bind_none]
      refine ⟨?_, ?_⟩
      · intro _
        rw [overwrite_eq_self hnone]
        rfl
      · intro hnot
        refine absurd ?_ hnot
        intro p hp r hr
        rw [hnone p hp] at hr
        cases hr
  | cons domain rest ih =>
      intro k xs hdrop
      have hdom : domains[k]? = some domain := by
        have hhead := congrArg List.head? hdrop
        simpa [List.head?_drop] using hhead
      have hdrop' : domains.drop (k + 1) = rest := by
        have htail := congrArg List.tail hdrop
        simpa [List.tail_drop] using htail
      have href : refinement fleet domains agentInput k = _ := refinement_eq hcol hdom
      have hbus : busBefore fleet domains agentInput (k + 1) = _ := busBefore_succ hdom
      rw [stageB]
      cases htrig : triggeredInput fleet agentInput k domain
          (busBefore fleet domains agentInput k) with
      | none =>
          rw [htrig] at href hbus
          have hpass : ∀ r, refinement fleet domains agentInput k = some r →
              (∃ v, r = .ok v) ∧ k < xs.length := by
            intro r hr
            rw [href] at hr
            cases hr
          rw [completes_succ hpass, ← overwrite_of_none href]
          have hrest := ih (k + 1) xs hdrop'
          rw [hbus] at hrest
          exact hrest
      | some i =>
          rw [htrig] at href hbus
          cases hrun : runRefinement fleet k domain i with
          | error err =>
              -- a refinement that raises takes the whole call with it
              refine ⟨?_, fun _ => ⟨err, by simp [hrun, bind, Except.bind]⟩⟩
              intro hall
              obtain ⟨⟨v, hv⟩, -⟩ := hall k (le_refl k) (.error err) (by rw [href]; simp [hrun])
              cases hv
          | ok v =>
              have hsome : refinement fleet domains agentInput k = some (.ok v) := by
                rw [href]
                simp [hrun]
              by_cases hlt : k < xs.length
              · have hpass : ∀ r, refinement fleet domains agentInput k = some r →
                    (∃ v, r = .ok v) ∧ k < xs.length := by
                  intro r hr
                  rw [hsome] at hr
                  cases hr
                  exact ⟨⟨v, rfl⟩, hlt⟩
                rw [completes_succ hpass, ← overwrite_set hsome xs]
                have hrest := ih (k + 1) (xs.set k v) hdrop'
                rw [hbus, List.length_set] at hrest
                simpa [hrun, hlt, bind, Except.bind] using hrest
              · refine ⟨?_, fun _ => ⟨.indexError, by simp [hrun, hlt, bind, Except.bind]⟩⟩
                intro hall
                exact absurd (hall k (le_refl k) _ hsome).2 hlt

/-- The call returns the overwritten list when Stage B completes. -/
theorem run_ok
    (h : Completes fleet domains agentInput 0 (processedResults fleet domains agentInput).length) :
    run fleet domains agentInput
      = .ok (overwrite fleet domains agentInput 0 (processedResults fleet domains agentInput)) := by
  unfold run
  by_cases hempty : domains.isEmpty = true
  · rw [if_pos hempty]
    rw [List.isEmpty_iff] at hempty
    subst hempty
    rfl
  · rw [if_neg hempty]
    by_cases hcol : collaborates fleet = true
    · have hstage := (stageB_eq hcol domains 0 (processedResults fleet domains agentInput) rfl).1 h
      simp only [collaborates] at hcol
      simp only [hcol, if_true]
      exact hstage
    · have hnone : ∀ p, 0 ≤ p → refinement fleet domains agentInput p = none := by
        intro p _
        cases hdom : domains[p]? <;> simp [refinement, triggered, hcol, hdom]
      rw [overwrite_eq_self hnone]
      simp only [collaborates] at hcol
      simp only [hcol, Bool.false_eq_true, if_false]

/-- Otherwise it raises. -/
theorem run_error
    (h : ¬ Completes fleet domains agentInput 0
      (processedResults fleet domains agentInput).length) :
    ∃ err, run fleet domains agentInput = .error err := by
  -- a refinement that goes wrong is a refinement, so there are domains and a bus
  have hsome : ∃ p r, refinement fleet domains agentInput p = some r := by
    by_contra hnone
    refine h ?_
    intro p _ r hr
    exact absurd ⟨p, r, hr⟩ hnone
  obtain ⟨p, r, hr⟩ := hsome
  obtain ⟨domain, hdom, hmap⟩ := Option.bind_eq_some_iff.mp hr
  obtain ⟨i, htrig, -⟩ := Option.map_eq_some_iff.mp hmap
  have hcol : collaborates fleet = true := by
    by_contra hnot
    simp [triggered, hnot] at htrig
  have hempty : domains.isEmpty = false := by
    rw [List.isEmpty_eq_false_iff]
    intro hnil
    simp [hnil] at hdom
  unfold run
  obtain ⟨err, herr⟩ :=
    (stageB_eq hcol domains 0 (processedResults fleet domains agentInput) rfl).2 h
  simp only [collaborates] at hcol
  simp only [hempty, hcol, Bool.false_eq_true, if_true, if_false]
  exact ⟨err, herr⟩

end StageB

end FanOutCoordinator

end GaiaOS
