/-
What stops the simulation agent.

The loops of `_extract_parameters` make one attempt after the other, each at one parameter of one
text.  So a parameter is decided by the first attempt under its key that finds a figure, and the
loops go through if that figure is a number for every parameter.  Everything after them returns:
a model raises nothing but a `ValueError`, and the agent turns it into an answer.
-/
import GaiaOS.Agents.Simulation
import GaiaOS.Graph.Builder

namespace GaiaOS

namespace SimulationAgent

open Regex SimulationEngine

/-! ### Attempts -/

/-- What an attempt looks for, and what it finds. -/
abbrev Attempt := String × Option (List Char)

def attempt (params : Dict String PyFloat) (a : Attempt) : Except PyError (Dict String PyFloat) :=
  readFigure a.1 a.2 params

/-- The first figure found under a key. -/
def firstFigure (attempts : List Attempt) (key : String) : Option (List Char) :=
  attempts.findSome? fun a => if a.1 = key then a.2 else none

theorem firstFigure_cons_of_ne {a : Attempt} {key : String} (h : a.1 ≠ key)
    (attempts : List Attempt) : firstFigure (a :: attempts) key = firstFigure attempts key := by
  simp [firstFigure, h]

theorem firstFigure_cons_none (k : String) (attempts : List Attempt) (key : String) :
    firstFigure ((k, none) :: attempts) key = firstFigure attempts key := by
  simp [firstFigure]

theorem firstFigure_cons_self (key : String) (figure : List Char) (attempts : List Attempt) :
    firstFigure ((key, some figure) :: attempts) key = some figure := by
  simp [firstFigure]

/-- What an attempt does: nothing, if there is no figure or no need of one, or a conversion. -/
theorem attempt_cases (params : Dict String PyFloat) (a : Attempt) :
    (attempt params a = .ok params ∧ (a.2 = none ∨ params.get? a.1 ≠ none)) ∨
      ∃ figure, a.2 = some figure ∧ params.get? a.1 = none ∧
        attempt params a = (floatOfFigure figure).map (params.set a.1) := by
  obtain ⟨key, found⟩ := a
  cases found with
  | none => exact .inl ⟨rfl, .inl rfl⟩
  | some figure =>
      cases hget : params.get? key with
      | some value =>
          refine .inl ⟨if_pos ?_, .inr (by simp)⟩
          rw [Dict.contains, hget]
          rfl
      | none =>
          refine .inr ⟨figure, rfl, rfl, (if_neg ?_).trans ?_⟩
          · rw [Dict.contains, hget]
            simp
          · cases floatOfFigure figure with
            | error err => rfl
            | ok value => rfl

/-- An attempt that does nothing is not the first for a parameter that is missing. -/
theorem firstFigure_of_idle {params : Dict String PyFloat} {a : Attempt}
    (hidle : a.2 = none ∨ params.get? a.1 ≠ none) (attempts : List Attempt) {key : String}
    (hkey : params.get? key = none) :
    firstFigure (a :: attempts) key = firstFigure attempts key := by
  rcases hidle with hnone | hpresent
  · obtain ⟨k, found⟩ := a
    obtain rfl : found = none := hnone
    exact firstFigure_cons_none k attempts key
  · exact firstFigure_cons_of_ne (fun h => hpresent (h ▸ hkey)) attempts

/-- **The attempts go through** if the first figure of every missing parameter is a number. -/
theorem attempts_ok_iff (attempts : List Attempt) : ∀ params : Dict String PyFloat,
    (∃ params', attempts.foldlM attempt params = .ok params') ↔
      ∀ key, params.get? key = none → ∀ figure, firstFigure attempts key = some figure →
        ∃ x, floatOfFigure figure = .ok x := by
  induction attempts with
  | nil =>
      intro params
      exact ⟨fun _ _ _ _ h => (by cases h), fun _ => ⟨params, rfl⟩⟩
  | cons a attempts ih =>
      intro params
      rw [List.foldlM_cons]
      rcases attempt_cases params a with ⟨hok, hidle⟩ | ⟨figure, hfound, hmissing, hread⟩
      · rw [hok]
        refine (ih params).trans (forall_congr' fun key => imp_congr_right fun hkey => ?_)
        rw [firstFigure_of_idle hidle attempts hkey]
      · obtain ⟨k, found⟩ := a
        obtain rfl : found = some figure := hfound
        rw [hread]
        cases hfloat : floatOfFigure figure with
        | error err =>
            constructor
            · rintro ⟨params', h⟩
              cases h
            · intro h
              obtain ⟨x, hx⟩ := h k hmissing figure (firstFigure_cons_self k figure attempts)
              rw [hfloat] at hx
              cases hx
        | ok value =>
            refine (ih (params.set k value)).trans ⟨fun h key hkey f hf => ?_,
              fun h key hkey f hf => ?_⟩
            · by_cases hk : k = key
              · subst hk
                rw [firstFigure_cons_self] at hf
                obtain rfl := Option.some_inj.mp hf
                exact ⟨value, hfloat⟩
              · rw [firstFigure_cons_of_ne hk] at hf
                exact h key (by rwa [Dict.get?_set_of_ne _ hk]) f hf
            · have hk : k ≠ key := by
                rintro rfl
                rw [Dict.get?_set_self] at hkey
                cases hkey
              rw [Dict.get?_set_of_ne _ hk] at hkey
              exact h key hkey f (by rwa [firstFigure_cons_of_ne hk])

/-- A parameter has the value it had, or else the number of its first figure. -/
theorem get?_of_attempts {attempts : List Attempt} : ∀ {params params' : Dict String PyFloat},
    attempts.foldlM attempt params = .ok params' → ∀ key,
      params'.get? key = (params.get? key).or
        ((firstFigure attempts key).bind fun figure => (floatOfFigure figure).toOption) := by
  induction attempts with
  | nil =>
      intro params params' h key
      obtain rfl : params = params' := Except.ok.inj h
      simp [firstFigure]
  | cons a attempts ih =>
      intro params params' h key
      rw [List.foldlM_cons] at h
      rcases attempt_cases params a with ⟨hok, hidle⟩ | ⟨figure, hfound, hmissing, hread⟩
      · rw [hok] at h
        rw [ih h key]
        cases hkey : params.get? key with
        | none => rw [firstFigure_of_idle hidle attempts hkey]
        | some value => rfl
      · obtain ⟨k, found⟩ := a
        obtain rfl : found = some figure := hfound
        rw [hread] at h
        cases hfloat : floatOfFigure figure with
        | error err =>
            rw [hfloat] at h
            cases h
        | ok value =>
            rw [hfloat] at h
            have hlater : attempts.foldlM attempt (params.set k value) = .ok params' := h
            rw [ih hlater key]
            by_cases hk : k = key
            · subst hk
              rw [Dict.get?_set_self, hmissing, firstFigure_cons_self]
              simp [hfloat, Except.toOption]
            · rw [Dict.get?_set_of_ne _ hk, firstFigure_cons_of_ne hk]

/-! ### The figures of a call -/

/-- The claims of the prior evidence, in order. -/
def claimsOf (priorOutputs : Option (List AgentOutput)) : List String :=
  (priorOutputs.getD []).flatMap fun out => out.evidence.map (·.claim)

/-- The figure a parameter is read from. -/
def figureFor (lower : String → String) (query : String)
    (priorOutputs : Option (List AgentOutput)) (r : Reading) : Option (List Char) :=
  ((claimsOf priorOutputs).findSome? (group1 r.inClaim)).or (group1 r.inQuery (lower query))

/-- The attempts at one text. -/
def attemptsAt (pattern : Reading → Pattern Char) (text : String) : List Attempt :=
  readings.map fun r => (r.key, group1 (pattern r) text)

def attemptsOf (lower : String → String) (query : String)
    (priorOutputs : Option (List AgentOutput)) : List Attempt :=
  (claimsOf priorOutputs).flatMap (attemptsAt (·.inClaim)) ++
    attemptsAt (·.inQuery) (lower query)

theorem foldlM_flatMap {α β γ : Type} (f : γ → β → Except PyError γ) (g : α → List β)
    (items : List α) : ∀ c : γ,
    (items.flatMap g).foldlM f c = items.foldlM (fun c a => (g a).foldlM f c) c := by
  induction items with
  | nil => exact fun _ => rfl
  | cons a items ih =>
      intro c
      rw [List.flatMap_cons, List.foldlM_append, List.foldlM_cons]
      exact bind_congr fun c => ih c

theorem extractParameters_eq (lower : String → String) (query : String)
    (priorOutputs : Option (List AgentOutput)) :
    extractParameters lower query priorOutputs =
      (attemptsOf lower query priorOutputs).foldlM attempt Dict.empty := by
  unfold extractParameters attemptsOf claimsOf
  rw [List.foldlM_append, List.flatMap_assoc, foldlM_flatMap]
  simp only [attemptsAt, List.foldlM_map, foldlM_flatMap, List.flatMap_map]
  rfl

theorem firstFigure_of_nodup {rs : List Reading} (hnodup : (rs.map (·.key)).Nodup) {r : Reading}
    (hr : r ∈ rs) (found : Reading → Option (List Char)) :
    firstFigure (rs.map fun r => (r.key, found r)) r.key = found r := by
  induction rs with
  | nil => cases hr
  | cons first rs ih =>
      rw [List.map_cons, List.nodup_cons] at hnodup
      rcases List.mem_cons.mp hr with rfl | hr
      · -- no other reading has the key
        have hnone : firstFigure (rs.map fun r => (r.key, found r)) r.key = none := by
          rw [firstFigure, List.findSome?_eq_none_iff]
          intro a ha
          obtain ⟨other, hother, rfl⟩ := List.mem_map.mp ha
          exact if_neg fun h : other.key = r.key => hnodup.1 (h ▸ List.mem_map_of_mem hother)
        rw [List.map_cons]
        cases hfound : found r with
        | none => rw [firstFigure_cons_none, hnone]
        | some figure => rw [firstFigure_cons_self]
      · have hne : first.key ≠ r.key := fun h => hnodup.1 (h ▸ List.mem_map_of_mem hr)
        rw [List.map_cons, firstFigure_cons_of_ne hne]
        exact ih hnodup.2 hr

/-- The readings have different keys. -/
theorem firstFigure_attemptsAt {r : Reading} (hr : r ∈ readings) (pattern : Reading → Pattern Char)
    (text : String) : firstFigure (attemptsAt pattern text) r.key = group1 (pattern r) text :=
  firstFigure_of_nodup (by decide) hr fun r => group1 (pattern r) text

theorem firstFigure_attemptsOf {r : Reading} (hr : r ∈ readings) (lower : String → String)
    (query : String) (priorOutputs : Option (List AgentOutput)) :
    firstFigure (attemptsOf lower query priorOutputs) r.key =
      figureFor lower query priorOutputs r := by
  have hclaims : ∀ claims : List String,
      firstFigure (claims.flatMap (attemptsAt (·.inClaim))) r.key =
        claims.findSome? (group1 r.inClaim) := by
    intro claims
    induction claims with
    | nil => rfl
    | cons claim claims ih =>
        have hone := firstFigure_attemptsAt hr (·.inClaim) claim
        unfold firstFigure at ih hone ⊢
        rw [List.flatMap_cons, List.findSome?_append, ih, hone, List.findSome?_cons]
        cases group1 r.inClaim claim with
        | none => rfl
        | some figure => rfl
  have hquery := firstFigure_attemptsAt hr (·.inQuery) (lower query)
  have hclaims := hclaims (claimsOf priorOutputs)
  unfold firstFigure at hclaims hquery ⊢
  rw [attemptsOf, List.findSome?_append, hclaims, hquery]
  rfl

/-- A key that has a figure is that of a reading. -/
theorem exists_reading_of_firstFigure {lower : String → String} {query : String}
    {priorOutputs : Option (List AgentOutput)} {key : String} {figure : List Char}
    (h : firstFigure (attemptsOf lower query priorOutputs) key = some figure) :
    ∃ r ∈ readings, r.key = key := by
  obtain ⟨a, ha, hkey⟩ := List.exists_of_findSome?_eq_some h
  have hattempt : ∃ pattern text, a ∈ attemptsAt pattern text := by
    rcases List.mem_append.mp ha with ha | ha
    · obtain ⟨claim, -, ha⟩ := List.mem_flatMap.mp ha
      exact ⟨_, claim, ha⟩
    · exact ⟨_, _, ha⟩
  obtain ⟨pattern, text, ha⟩ := hattempt
  obtain ⟨r, hr, rfl⟩ := List.mem_map.mp ha
  refine ⟨r, hr, ?_⟩
  by_contra hne
  rw [if_neg hne] at hkey
  cases hkey

/-- What the patterns capture are digits and dots. -/
theorem isFigureChar_of_group1 {lead : Pattern Char} {text : String} {figure : List Char}
    (h : group1 (lead.capturing isFigureChar) text = some figure) :
    ∀ c ∈ figure, isFigureChar c = true := (figure_eq_some h).2

theorem isFigureChar_of_figureFor {lower : String → String} {query : String}
    {priorOutputs : Option (List AgentOutput)} {r : Reading} (hr : r ∈ readings)
    {figure : List Char} (h : figureFor lower query priorOutputs r = some figure) :
    ∀ c ∈ figure, isFigureChar c = true := by
  have hpatterns : ∃ claimLead queryLead : Pattern Char,
      r.inClaim = claimLead.capturing isFigureChar ∧
        r.inQuery = queryLead.capturing isFigureChar := by
    simp only [readings, List.mem_cons, List.not_mem_nil, or_false] at hr
    rcases hr with rfl | rfl | rfl | rfl
    · exact ⟨_, _, rfl, rfl⟩
    · exact ⟨_, _, rfl, rfl⟩
    · exact ⟨_, _, rfl, rfl⟩
    · exact ⟨_, _, rfl, rfl⟩
  obtain ⟨claimLead, queryLead, hclaim, hquery⟩ := hpatterns
  rcases Option.or_eq_some_iff.mp h with h | ⟨-, h⟩
  · obtain ⟨claim, -, h⟩ := List.exists_of_findSome?_eq_some h
    rw [hclaim] at h
    exact isFigureChar_of_group1 h
  · rw [hquery] at h
    exact isFigureChar_of_group1 h

/-- **When the figures are read**: every parameter that has a figure has a number. -/
theorem extractParameters_ok_iff (lower : String → String) (query : String)
    (priorOutputs : Option (List AgentOutput)) :
    (∃ params, extractParameters lower query priorOutputs = .ok params) ↔
      ∀ r ∈ readings, ∀ figure, figureFor lower query priorOutputs r = some figure →
        IsNumber figure := by
  rw [extractParameters_eq, attempts_ok_iff]
  constructor
  · intro h r hr figure hfigure
    have hfirst := firstFigure_attemptsOf hr lower query priorOutputs
    rw [hfigure] at hfirst
    refine (floatOfFigure_ok_iff (isFigureChar_of_figureFor hr hfigure)).mp ?_
    exact h r.key rfl figure hfirst
  · intro h key _ figure hfirst
    obtain ⟨r, hr, rfl⟩ := exists_reading_of_firstFigure hfirst
    rw [firstFigure_attemptsOf hr] at hfirst
    exact (floatOfFigure_ok_iff (isFigureChar_of_figureFor hr hfirst)).mpr (h r hr figure hfirst)

/-- **What is read**: the number of the figure. -/
theorem get?_of_extractParameters {lower : String → String} {query : String}
    {priorOutputs : Option (List AgentOutput)} {params : Dict String PyFloat}
    (h : extractParameters lower query priorOutputs = .ok params) {r : Reading}
    (hr : r ∈ readings) :
    params.get? r.key =
      (figureFor lower query priorOutputs r).bind fun figure =>
        (floatOfFigure figure).toOption := by
  rw [extractParameters_eq] at h
  rw [get?_of_attempts h r.key, firstFigure_attemptsOf hr]
  rfl

/-! ### After the figures -/

section Run

variable (call : Call)

theorem uncertainty_error {pt lo hi : ℚ} {source : SourceType} {err : PyError}
    (h : UncertaintyEstimate.new pt lo hi source = .error err) :
    ∃ loc, err = .validationError "UncertaintyEstimate" loc := by
  unfold UncertaintyEstimate.new at h
  split at h
  · exact ⟨"point_estimate", (Except.error.inj h).symm⟩
  split at h
  · split at h
    · split at h
      · cases h
      · exact ⟨"", (Except.error.inj h).symm⟩
    · exact ⟨"upper_bound", (Except.error.inj h).symm⟩
  · exact ⟨"lower_bound", (Except.error.inj h).symm⟩

/-- Bounds in the wrong order are refused by the estimate, with a `ValueError`. -/
theorem simulated_cases (result : SimulationResult) :
    (∃ evidence, simulated call result = .ok ⟨"simulation", [evidence], []⟩) ∨
      ∃ err, simulated call result = .error err ∧ isValueError err = true := by
  unfold simulated
  obtain ⟨low, high⟩ := result.uncertaintyBounds
  simp only
  cases hestimate : UncertaintyEstimate.new (max 0 (min 1 ((max 0 (min 1 low) +
      max 0 (min 1 high)) / 2))) (max 0 (min 1 low)) (max 0 (min 1 high)) .modelUncertainty with
  | ok simUncertainty => exact .inl ⟨_, rfl⟩
  | error err =>
      obtain ⟨loc, rfl⟩ := uncertainty_error hestimate
      exact .inr ⟨_, rfl, rfl⟩

/-- Whatever becomes of a simulation, the agent has an answer. -/
theorem recover_of_isValueError {err : PyError} (h : isValueError err = true) :
    ∃ message, recover err = .ok (failed message) := by
  unfold recover
  rw [if_pos h]
  split
  · exact ⟨err.str, rfl⟩
  · exact ⟨_, rfl⟩

/-- An answer: evidence or an error message. -/
def Answers (answer : Except PyError AgentOutput) : Prop :=
  ∃ output, answer = .ok output ∧ (output.evidence ≠ [] ∨ output.errors ≠ [])

theorem answers_failed (message : String) : Answers (.ok (failed message)) :=
  ⟨_, rfl, .inr (List.cons_ne_nil message [])⟩

/-- The query names no hazard, or each parameter that has a figure has a number. -/
def Readable (lower : String → String) (query : String)
    (priorOutputs : Option (List AgentOutput)) : Prop :=
  extractHazardType lower query = none ∨
    ∀ r ∈ readings, ∀ figure, figureFor lower query priorOutputs r = some figure →
      IsNumber figure

/-- The `try` around the simulation has an answer. -/
theorem answers_of_raises {result : Except PyError SimulationResult}
    (h : RaisesValueErrors result) :
    Answers ((result >>= simulated call).tryCatch recover) := by
  have hrecover : ∀ err, isValueError err = true →
      Answers ((Except.error err : Except PyError AgentOutput).tryCatch recover) := by
    intro err hvalue
    obtain ⟨text, htext⟩ := recover_of_isValueError hvalue
    rw [Except.tryCatch, htext]
    exact answers_failed text
  cases result with
  | error err =>
      obtain ⟨message, rfl⟩ := h err rfl
      exact hrecover (.valueError message) rfl
  | ok result =>
      rcases simulated_cases call result with ⟨evidence, hok⟩ | ⟨err, herror, hvalue⟩
      · refine ⟨⟨"simulation", [evidence], []⟩, ?_, .inl (List.cons_ne_nil evidence [])⟩
        rw [← hok]
        show (simulated call result).tryCatch recover = _
        rw [hok]
        rfl
      · have hbind : (Except.ok result >>= simulated call) = .error err := herror
        rw [hbind]
        exact hrecover err hvalue

/-- **The agent answers** if it has nothing to read or can read it, and raises otherwise. -/
theorem run_cases (agentInput : AgentInput) (priorOutputs : Option (List AgentOutput)) :
    (Readable call.engine.lower agentInput.query priorOutputs ∧
        Answers (run call agentInput priorOutputs).1) ∨
      (¬ Readable call.engine.lower agentInput.query priorOutputs ∧
        ∃ err, (run call agentInput priorOutputs).1 = .error err) := by
  have hread := extractParameters_ok_iff call.engine.lower agentInput.query priorOutputs
  cases hhazard : extractHazardType call.engine.lower agentInput.query with
  | none =>
      simp only [run, hhazard]
      exact .inl ⟨.inl hhazard, answers_failed _⟩
  | some hazardType =>
      cases hparams : extractParameters call.engine.lower agentInput.query priorOutputs with
      | error err =>
          simp only [run, hhazard, hparams]
          refine .inr ⟨?_, err, rfl⟩
          rintro (hnone | hnumbers)
          · rw [hhazard] at hnone
            cases hnone
          · obtain ⟨params, hok⟩ := hread.mpr hnumbers
            rw [hparams] at hok
            cases hok
      | ok parameters =>
          simp only [run, hhazard, hparams]
          exact .inl ⟨.inr (hread.mp ⟨parameters, hparams⟩),
            answers_of_raises call (runSimulation_raises _ _ _ _)⟩

theorem run_answers_iff (agentInput : AgentInput) (priorOutputs : Option (List AgentOutput)) :
    Answers (run call agentInput priorOutputs).1 ↔
      Readable call.engine.lower agentInput.query priorOutputs := by
  rcases run_cases call agentInput priorOutputs with ⟨hread, hanswers⟩ | ⟨hread, err, herror⟩
  · exact iff_of_true hanswers hread
  · refine iff_of_false ?_ hread
    rintro ⟨output, hok, -⟩
    rw [herror] at hok
    cases hok

theorem run_returns_iff (agentInput : AgentInput) (priorOutputs : Option (List AgentOutput)) :
    (∃ output, (run call agentInput priorOutputs).1 = .ok output) ↔
      Readable call.engine.lower agentInput.query priorOutputs := by
  rcases run_cases call agentInput priorOutputs with ⟨hread, hanswers⟩ | ⟨hread, err, herror⟩
  · obtain ⟨output, hok, -⟩ := hanswers
    exact iff_of_true ⟨output, hok⟩ hread
  · refine iff_of_false ?_ hread
    rintro ⟨output, hok⟩
    rw [herror] at hok
    cases hok

end Run

/-! ### The node -/

/-- The graph with this agent, each call of it with what it draws on. -/
def withAgent (sv : Services) (calls : Nat → Call) : Services :=
  { sv with
    runSimulation := fun ran agentInput prior => (run (calls ran) agentInput (some prior)).1 }

/-- A node that runs an agent returns if the agent does. -/
theorem agentNode_result_iff (sv : Services) (ran : Nat) (agent : String)
    (answer : Except PyError AgentOutput) :
    (∃ update, (agentNode sv ran agent answer).result = .ok update) ↔
      ∃ output, answer = .ok output := by
  cases answer with
  | ok output => exact iff_of_true ⟨_, rfl⟩ ⟨output, rfl⟩
  | error err =>
      refine iff_of_false ?_ ?_
      · rintro ⟨update, h⟩
        cases h
      · rintro ⟨output, h⟩
        cases h

/-- The agent answers, and its node returns, exactly if the figures it reads are numbers. -/
theorem simulation_returns_iff (sv : Services) (calls : Nat → Call) (ran : Nat) :
    (∀ agentInput priorOutputs, Answers (run (calls ran) agentInput priorOutputs).1 ↔
      Readable (calls ran).engine.lower agentInput.query priorOutputs) ∧
    ∀ state, (∃ update, (simulationNode (withAgent sv calls) ran state).result = .ok update) ↔
      Readable (calls ran).engine.lower state.query (some state.agentOutputs) := by
  refine ⟨fun agentInput priorOutputs => run_answers_iff (calls ran) agentInput priorOutputs,
    fun state => ?_⟩
  exact (agentNode_result_iff _ ran "simulation" _).trans
    (run_returns_iff (calls ran) (agentInput state) (some state.agentOutputs))

/-! ### A figure that ends a sentence -/

/-- Evidence that makes a claim. -/
def reported (claim : String) : Evidence where
  id := ⟨"99999999-9999-4999-8999-999999999999", rfl⟩
  source := "Weather report"
  claim := claim
  uncertainty := ⟨4 / 7, 3 / 7, 5 / 7, .modelUncertainty, by norm_num, by norm_num, by norm_num,
    by norm_num⟩
  retrievedAt := 0
  documentId := none
  chunkId := none
  title := none
  sourceUrl := none
  extraMetadata := []
  uncertaintyBounds := none
  assumptions := none

/-- A wind report whose sentence ends with the figure. -/
def windReport : AgentOutput := ⟨"atmosphere", [reported "Wind Speed is 12.5."], []⟩

/-- A call with no parameter file. -/
def plainCall : Call where
  engine :=
    { lower := String.toLower
      fixed1 := fun _ => ""
      now := 0
      store := ⟨Dict.empty, Dict.empty⟩ }
  evidenceId := ⟨"aaaaaaaa-aaaa-4aaa-8aaa-aaaaaaaaaaaa", rfl⟩
  retrievedAt := 0

/-- `float("12.5.")` raises. -/
theorem sentence_stops_the_agent :
    ¬ ∀ call agentInput priorOutputs, Answers (run call agentInput priorOutputs).1 := by
  intro h
  have hanswers := h plainCall
    ⟨⟨"bbbbbbbb-bbbb-4bbb-8bbb-bbbbbbbbbbbb", rfl⟩, "Predict wildfire spread", none⟩
    (some [windReport])
  rcases (run_answers_iff _ _ _).mp hanswers with hnone | hnumbers
  · exact absurd hnone (by decide +kernel)
  · have hfigure : figureFor plainCall.engine.lower "Predict wildfire spread" (some [windReport])
        windSpeed = some ['1', '2', '.', '5', '.'] := by decide +kernel
    have hnumber := hnumbers windSpeed List.mem_cons_self _ hfigure
    exact absurd hnumber (by decide)

end SimulationAgent

end GaiaOS
