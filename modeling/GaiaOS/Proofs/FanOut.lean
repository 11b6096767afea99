/-
What the fan-out returns, position by position.

A result that is kept by the copy stands at the number of kept results before it, its
`slot`, while Stage B goes by the position in `domains`.  The result is aligned with
`domains` exactly when the two agree everywhere, that is when nothing is left out of the
copy, and every refinement comes back as an `AgentOutput`.
-/
import GaiaOS.Proofs.FanOutStages

namespace GaiaOS

namespace FanOutCoordinator

/-! ### Alignment -/

section Alignment

variable {fleet : Fleet} {domains : List String} {agentInput : AgentInput}

/-- What the runner of position `p` did last: in its refinement if there was one. -/
def lastResult (fleet : Fleet) (domains : List String) (agentInput : AgentInput) (p : Nat)
    (domain : String) : RunnerResult :=
  match triggered fleet domains agentInput p with
  | some i => fleet.refine p domain i
  | none => firstResult fleet agentInput p domain

/-- The result is one `AgentOutput` for each domain, and each is that domain's outcome. -/
def Aligned (fleet : Fleet) (domains : List String) (agentInput : AgentInput) : Prop :=
  ∃ outputs : List AgentOutput,
    run fleet domains agentInput = .ok (outputs.map .output) ∧
    outputs.length = domains.length ∧
    ∀ p domain, domains[p]? = some domain → ∃ o, outputs[p]? = some o ∧
      Outcome domain (lastResult fleet domains agentInput p domain) o

/-- No run gets past the error boundary without becoming an `AgentOutput`. -/
structure AllAccounted (fleet : Fleet) (domains : List String) (agentInput : AgentInput) :
    Prop where
  first : ∀ p domain, domains[p]? = some domain → Accounted (firstResult fleet agentInput p domain)
  refined : ∀ p domain i, domains[p]? = some domain →
    triggered fleet domains agentInput p = some i →
    i ≠ .other false ∧ Accounted (fleet.refine p domain i)

theorem runRefinement_eq {p : Nat} {domain : String} {i : RefinedInput} (h : i ≠ .other false) :
    runRefinement fleet p domain i
      = runAgentWithMonitoring fleet.agentTimeout domain (fleet.refine p domain i) := by
  unfold runRefinement
  split
  · exact absurd rfl h
  · rfl

/-- The kept results, before they are closed up. -/
def keptResults (fleet : Fleet) (domains : List String) (agentInput : AgentInput) :
    List (Option Value) :=
  domains.mapIdx fun idx domain => processResult domain (gathered fleet agentInput idx domain)

theorem keptResults_getElem? (p : Nat) :
    (keptResults fleet domains agentInput)[p]?
      = domains[p]?.map fun domain => processResult domain (gathered fleet agentInput p domain) := by
  simp [keptResults]

theorem mem_keptResults_iff {x : Option Value} :
    x ∈ keptResults fleet domains agentInput ↔ ∃ p domain, domains[p]? = some domain ∧
      processResult domain (gathered fleet agentInput p domain) = x := by
  rw [List.mem_iff_getElem?]
  simp only [keptResults_getElem?, Option.map_eq_some_iff]

/-- Every first pass is accounted for exactly when every result is kept. -/
theorem keptResults_isSome_iff :
    (∀ x ∈ keptResults fleet domains agentInput, x.isSome = true)
      ↔ ∀ p domain, domains[p]? = some domain →
          Accounted (firstResult fleet agentInput p domain) := by
  constructor
  · intro h p domain hdom
    rw [← processResult_isSome_iff fleet.agentTimeout domain]
    exact h _ (mem_keptResults_iff.mpr ⟨p, domain, hdom, rfl⟩)
  · intro h x hx
    obtain ⟨p, domain, hdom, rfl⟩ := mem_keptResults_iff.mp hx
    exact (processResult_isSome_iff fleet.agentTimeout domain _).mpr (h p domain hdom)

/-- Nothing is left out exactly when every first pass is accounted for. -/
theorem length_processedResults_iff :
    (processedResults fleet domains agentInput).length = domains.length
      ↔ ∀ p domain, domains[p]? = some domain →
          Accounted (firstResult fleet agentInput p domain) := by
  have hlen : (keptResults fleet domains agentInput).length = domains.length := by
    simp [keptResults]
  rw [← keptResults_isSome_iff, ← hlen]
  exact List.filterMap_length_eq_length

/-- The position a first pass's result takes: the number of results kept before it. -/
def slot (fleet : Fleet) (domains : List String) (agentInput : AgentInput) (p : Nat) : Nat :=
  (((keptResults fleet domains agentInput).take p).filterMap id).length

/-- A kept result stands at its slot. -/
theorem processedResults_slot {p : Nat} {domain : String} {v : Value}
    (hdom : domains[p]? = some domain)
    (hkept : processResult domain (gathered fleet agentInput p domain) = some v) :
    (processedResults fleet domains agentInput)[slot fleet domains agentInput p]? = some v := by
  refine filterMap_id_getElem? ?_
  rw [show (domains.mapIdx fun idx domain =>
    processResult domain (gathered fleet agentInput idx domain))
      = keptResults fleet domains agentInput from rfl, keptResults_getElem?, hdom, Option.map_some,
    hkept]

/-- Where nothing is left out, a slot is the position in `domains`. -/
theorem slot_eq (h : ∀ p domain, domains[p]? = some domain →
    Accounted (firstResult fleet agentInput p domain)) {p : Nat} (hp : p ≤ domains.length) :
    slot fleet domains agentInput p = p := by
  refine filterMap_id_take_length (keptResults_isSome_iff.mpr h) ?_
  simpa [keptResults] using hp

theorem refinement_of_triggered {p : Nat} {domain : String} {i : RefinedInput}
    (hdom : domains[p]? = some domain) (htrig : triggered fleet domains agentInput p = some i) :
    refinement fleet domains agentInput p = some (runRefinement fleet p domain i) := by
  simp [refinement, hdom, htrig]

/-- A refinement that takes place is of a domain, with the input it was triggered with. -/
theorem triggered_of_refinement {p : Nat} {r : Except PyError Value}
    (h : refinement fleet domains agentInput p = some r) :
    ∃ domain i, domains[p]? = some domain ∧ triggered fleet domains agentInput p = some i ∧
      runRefinement fleet p domain i = r := by
  obtain ⟨domain, hdom, hmap⟩ := Option.bind_eq_some_iff.mp h
  obtain ⟨i, htrig, hrun⟩ := Option.map_eq_some_iff.mp hmap
  exact ⟨domain, i, hdom, htrig, hrun⟩

/-- Accounted runs complete Stage B. -/
theorem AllAccounted.completes (h : AllAccounted fleet domains agentInput) :
    Completes fleet domains agentInput 0 (processedResults fleet domains agentInput).length := by
  intro p _ r hr
  obtain ⟨domain, i, hdom, htrig, rfl⟩ := triggered_of_refinement hr
  obtain ⟨hne, hacc⟩ := h.refined p domain i hdom htrig
  obtain ⟨o, ho, -⟩ := monitored_of_accounted fleet.agentTimeout domain hacc
  refine ⟨⟨.output o, ?_⟩, ?_⟩
  · rw [runRefinement_eq hne, ho]
  · rw [length_processedResults_iff.mpr h.first]
    exact (List.getElem?_eq_some_iff.mp hdom).1

/-- Accounted runs leave each domain's outcome at its position. -/
theorem AllAccounted.outcome (h : AllAccounted fleet domains agentInput) {p : Nat}
    {domain : String} (hdom : domains[p]? = some domain) :
    ∃ o, (overwrite fleet domains agentInput 0
        (processedResults fleet domains agentInput))[p]? = some (.output o) ∧
      Outcome domain (lastResult fleet domains agentInput p domain) o := by
  obtain ⟨o, ho, hout⟩ := monitored_of_accounted fleet.agentTimeout domain (h.first p domain hdom)
  have hkept : processResult domain (gathered fleet agentInput p domain) = some (.output o) := by
    rw [gathered, ho]
    rfl
  have hp : p ≤ domains.length := (List.getElem?_eq_some_iff.mp hdom).1.le
  have hat := processedResults_slot hdom hkept
  rw [slot_eq h.first hp] at hat
  rw [overwrite_getElem?, hat, Option.map_some]
  cases htrig : triggered fleet domains agentInput p with
  | none =>
      have hnone : refinement fleet domains agentInput p = none := by
        simp [refinement, hdom, htrig]
      refine ⟨o, by rw [hnone], ?_⟩
      simpa [lastResult, htrig] using hout
  | some i =>
      obtain ⟨hne, hacc⟩ := h.refined p domain i hdom htrig
      obtain ⟨o', ho', hout'⟩ := monitored_of_accounted fleet.agentTimeout domain hacc
      refine ⟨o', ?_, ?_⟩
      · rw [refinement_of_triggered hdom htrig, runRefinement_eq hne, ho']
      · simpa [lastResult, htrig] using hout'

theorem exists_outputs {values : List Value} (h : ∀ v ∈ values, ∃ o, v = .output o) :
    ∃ outputs : List AgentOutput, values = outputs.map .output := by
  induction values with
  | nil => exact ⟨[], rfl⟩
  | cons v rest ih =>
      obtain ⟨o, rfl⟩ := h v (List.mem_cons_self ..)
      obtain ⟨outputs, rfl⟩ := ih fun v hv => h v (List.mem_cons_of_mem _ hv)
      exact ⟨o :: outputs, rfl⟩

theorem AllAccounted.aligned (h : AllAccounted fleet domains agentInput) :
    Aligned fleet domains agentInput := by
  have hlen : (overwrite fleet domains agentInput 0
      (processedResults fleet domains agentInput)).length = domains.length := by
    rw [overwrite, List.length_mapIdx, length_processedResults_iff.mpr h.first]
  have hall : ∀ v ∈ overwrite fleet domains agentInput 0
      (processedResults fleet domains agentInput), ∃ o, v = .output o := by
    intro v hv
    obtain ⟨p, hp⟩ := List.mem_iff_getElem?.mp hv
    have hlt : p < domains.length := hlen ▸ (List.getElem?_eq_some_iff.mp hp).1
    obtain ⟨o, ho, -⟩ := h.outcome (List.getElem?_eq_getElem hlt)
    rw [hp] at ho
    exact ⟨o, Option.some.inj ho⟩
  obtain ⟨outputs, hout⟩ := exists_outputs hall
  refine ⟨outputs, ?_, ?_, ?_⟩
  · rw [run_ok h.completes, hout]
  · rw [hout, List.length_map] at hlen
    exact hlen
  · intro p domain hdom
    obtain ⟨o, ho, houtcome⟩ := h.outcome hdom
    rw [hout, List.getElem?_map] at ho
    obtain ⟨o', ho', heq⟩ := Option.map_eq_some_iff.mp ho
    cases heq
    exact ⟨o, ho', houtcome⟩

theorem Aligned.allAccounted (h : Aligned fleet domains agentInput) :
    AllAccounted fleet domains agentInput := by
  obtain ⟨outputs, hrun, hlen, -⟩ := h
  have hcomp : Completes fleet domains agentInput 0
      (processedResults fleet domains agentInput).length := by
    by_contra hnot
    obtain ⟨err, herr⟩ := run_error hnot
    rw [hrun] at herr
    cases herr
  rw [run_ok hcomp] at hrun
  have hvalues := Except.ok.inj hrun
  have hfirst : (processedResults fleet domains agentInput).length = domains.length := by
    have := congrArg List.length hvalues
    rw [overwrite, List.length_mapIdx, List.length_map] at this
    omega
  refine ⟨length_processedResults_iff.mp hfirst, ?_⟩
  intro p domain i hdom htrig
  have href := refinement_of_triggered hdom htrig
  obtain ⟨⟨v, hv⟩, hlt⟩ := hcomp p (Nat.zero_le p) _ href
  -- position `p` of the result is the refinement, and the result holds outputs only
  have hat : (outputs.map Value.output)[p]? = some v := by
    rw [← hvalues, overwrite_getElem?, href, hv, List.getElem?_eq_getElem hlt, Option.map_some]
  rw [List.getElem?_map] at hat
  obtain ⟨o, -, rfl⟩ := Option.map_eq_some_iff.mp hat
  have hne : i ≠ .other false := by
    intro heq
    subst heq
    cases hv
  rw [runRefinement_eq hne] at hv
  exact ⟨hne, accounted_of_monitored hv⟩

end Alignment

/--
**The fan-out is aligned with its domains exactly when every run is accounted for.**

One `AgentOutput` for each domain, at the domain's position and its outcome: this holds if
and only if no first pass returns an object the coordinator lets through and then leaves
out (or is cancelled), and every refinement that is triggered gets an input with an
identifier and comes back as an `AgentOutput`.
-/
theorem fan_out_aligned_iff (fleet : Fleet) (domains : List String) (agentInput : AgentInput) :
    Aligned fleet domains agentInput ↔ AllAccounted fleet domains agentInput :=
  ⟨Aligned.allAccounted, AllAccounted.aligned⟩

/-- Two registered agents, of which the first returns `None`; no collaboration. -/
def silentFleet : Fleet where
  registered _ := true
  hasPeerHook _ := false
  firstPass idx domain _ :=
    if idx = 0 then .returns (.other .none) else .returns (.output ⟨domain, [], []⟩)
  broadcasts := []
  peerHook _ _ _ _ := .declines
  refine _ _ _ := .timesOut
  refineBroadcasts _ := []
  enableAgentCollaboration := false
  agentTimeout := "30.0"

def sampleInput : AgentInput :=
  ⟨⟨"33333333-3333-4333-8333-333333333333", rfl⟩, "Any tremors near the coast?", none⟩

/-- Two domains, one output, and it is the second domain's. -/
theorem fan_out_silent_runner :
    run silentFleet ["seismic", "ocean"] sampleInput = .ok [.output ⟨"ocean", [], []⟩] ∧
    ¬ Aligned silentFleet ["seismic", "ocean"] sampleInput := by
  refine ⟨rfl, ?_⟩
  rintro ⟨outputs, hrun, hlen, -⟩
  have hone : run silentFleet ["seismic", "ocean"] sampleInput
      = .ok [.output ⟨"ocean", [], []⟩] := rfl
  rw [hone] at hrun
  have hvalues := congrArg List.length (Except.ok.inj hrun)
  rw [List.length_map, hlen] at hvalues
  cases hvalues

end FanOutCoordinator

end GaiaOS
