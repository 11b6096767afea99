/-
A condition that holds for long enough, found in one pass.

Samples come in order.  A run is a stretch of samples that all meet the condition, each close to
the one before; it is sustained if its end is far enough from its start.  `scan` keeps the start
of the run it is in and its last sample, drops them at a sample that misses the condition, and
starts again at one that is not close to the last.  It finds a sustained run exactly if there is
one (`scan_iff`), since the run it keeps is the one that started first, and an earlier start is
farther from every end.
-/
import Mathlib.Data.List.Basic
import Mathlib.Order.Defs.PartialOrder

namespace GaiaOS

namespace SustainedRun

variable {α : Type} (exceeds : α → Bool) (close long : α → α → Bool)

/-- One pass; the state is the start of the run and its last sample. -/
def scan : Option (α × α) → List α → Bool
  | _, [] => false
  | state, s :: rest =>
      if exceeds s then
        let start :=
          match state with
          | none => s
          | some (start, last) => if close last s then start else s
        long start s || scan (some (start, s)) rest
      else scan none rest

/-- A stretch from the first sample on that goes on after `last`, sustained from `start`. -/
def Continues (start : α) : α → List α → Prop
  | _, [] => False
  | last, s :: rest =>
      exceeds s = true ∧ close last s = true ∧ (long start s = true ∨ Continues start s rest)

/-- A sustained run that starts somewhere. -/
def Occurs : List α → Prop
  | [] => False
  | s :: rest =>
      (exceeds s = true ∧ (long s s = true ∨ Continues exceeds close long s s rest)) ∨ Occurs rest

/-- A sustained run from one position to another. -/
structure Between (samples : List α) (i j : Nat) : Prop where
  order : i ≤ j
  inside : j < samples.length
  exceeds : ∀ k (_ : k < samples.length), i ≤ k → k ≤ j → exceeds samples[k] = true
  close : ∀ k (_ : k + 1 < samples.length), i ≤ k → k < j →
    close samples[k] samples[k + 1] = true
  long : ∀ (_ : i < samples.length) (_ : j < samples.length), long samples[i] samples[j] = true

variable {exceeds close long}

/-! ### The pass -/

section Scan

variable [Preorder α]

/-- An earlier start is sustained where a later one is. -/
theorem Continues.of_le (hlong : ∀ a b c, a ≤ b → long b c = true → long a c = true)
    {start later : α} (hle : start ≤ later) :
    ∀ {samples : List α} {last : α}, Continues exceeds close long later last samples →
      Continues exceeds close long start last samples := by
  intro samples
  induction samples with
  | nil => intro last h; exact h
  | cons s rest ih =>
      intro last h
      obtain ⟨hover, hclose, hlater | hrest⟩ := h
      · exact ⟨hover, hclose, .inl (hlong _ _ _ hle hlater)⟩
      · exact ⟨hover, hclose, .inr (ih hrest)⟩

/-- The state of a pass that is in a run or in none. -/
def StateOk (samples : List α) : Option (α × α) → Prop
  | none => True
  | some (start, _) => ∀ s ∈ samples, start ≤ s

/-- What a pass is still to find: a run of its own, or the rest of the one it is in. -/
def ToFind (exceeds : α → Bool) (close long : α → α → Bool) (samples : List α) :
    Option (α × α) → Prop
  | none => Occurs exceeds close long samples
  | some (start, last) =>
      Continues exceeds close long start last samples ∨ Occurs exceeds close long samples

theorem scan_iff_toFind (hlong : ∀ a b c, a ≤ b → long b c = true → long a c = true)
    {samples : List α} (hsorted : samples.Pairwise (· ≤ ·)) :
    ∀ {state : Option (α × α)}, StateOk samples state →
      (scan exceeds close long state samples = true ↔ ToFind exceeds close long samples state) := by
  induction samples with
  | nil =>
      intro state _
      cases state <;> simp [scan, ToFind, Continues, Occurs]
  | cons s rest ih =>
      intro state hstate
      obtain ⟨hfirst, hrest⟩ := List.pairwise_cons.mp hsorted
      cases hover : exceeds s with
      | false =>
          -- the run ends here
          have hnone := @ih hrest none trivial
          cases state <;> simp [scan, ToFind, Continues, Occurs, hover, hnone]
      | true =>
          have hown := @ih hrest (some (s, s)) hfirst
          simp only [ToFind] at hown
          cases state with
          | none => simp [scan, ToFind, Occurs, hover, hown, or_assoc]
          | some run =>
              obtain ⟨start, last⟩ := run
              cases hclose : close last s with
              | false => simp [scan, ToFind, Continues, Occurs, hover, hclose, hown, or_assoc]
              | true =>
                  -- the run goes on, and a run that starts here is part of it
                  have hle : start ≤ s := hstate s List.mem_cons_self
                  have hgoes := @ih hrest (some (start, s))
                    fun t ht => hstate t (List.mem_cons_of_mem _ ht)
                  simp only [ToFind] at hgoes
                  simp only [scan, ToFind, Continues, Occurs, hover, hclose, if_true,
                    Bool.or_eq_true, hgoes, true_and]
                  constructor
                  · rintro (h | h | h)
                    · exact .inl (.inl h)
                    · exact .inl (.inr h)
                    · exact .inr (.inr h)
                  · rintro ((h | h) | (h | h) | h)
                    · exact .inl h
                    · exact .inr (.inl h)
                    · exact .inl (hlong _ _ _ hle h)
                    · exact .inr (.inl (Continues.of_le hlong hle h))
                    · exact .inr (.inr h)

end Scan

/-! ### Positions -/

theorem continues_iff {start : α} {samples : List α} :
    ∀ {last : α}, Continues exceeds close long start last samples ↔
      ∃ j, ∃ hj : j < samples.length,
        (∀ k (_ : k < samples.length), k ≤ j → exceeds samples[k] = true) ∧
        (∀ h : 0 < samples.length, close last samples[0] = true) ∧
        (∀ k (_ : k + 1 < samples.length), k < j → close samples[k] samples[k + 1] = true) ∧
        long start samples[j] = true := by
  induction samples with
  | nil =>
      intro last
      constructor
      · intro h
        exact h.elim
      · rintro ⟨j, hj, -⟩
        cases hj
  | cons s rest ih =>
      intro last
      constructor
      · rintro ⟨hover, hclose, hlong | hrest⟩
        · refine ⟨0, Nat.zero_lt_succ _, ?_, fun _ => hclose, ?_, hlong⟩
          · intro k _ hk
            obtain rfl := Nat.le_zero.mp hk
            exact hover
          · intro k _ hk
            cases hk
        · obtain ⟨j, hj, hovers, hnext, hcloses, hlong⟩ := ih.mp hrest
          refine ⟨j + 1, Nat.succ_lt_succ hj, ?_, fun _ => hclose, ?_, hlong⟩
          · intro k hk hkj
            cases k with
            | zero => exact hover
            | succ k => exact hovers k (Nat.lt_of_succ_lt_succ hk) (Nat.le_of_succ_le_succ hkj)
          · intro k hk hkj
            cases k with
            | zero => exact hnext (Nat.lt_of_succ_lt_succ hk)
            | succ k => exact hcloses k (Nat.lt_of_succ_lt_succ hk) (Nat.lt_of_succ_lt_succ hkj)
      · rintro ⟨j, hj, hovers, hnext, hcloses, hlong⟩
        refine ⟨hovers 0 (Nat.zero_lt_succ _) (Nat.zero_le _), hnext (Nat.zero_lt_succ _), ?_⟩
        cases j with
        | zero => exact .inl hlong
        | succ j =>
            right
            refine ih.mpr ⟨j, Nat.lt_of_succ_lt_succ hj, ?_, ?_, ?_, hlong⟩
            · intro k hk hkj
              exact hovers (k + 1) (Nat.succ_lt_succ hk) (Nat.succ_le_succ hkj)
            · intro hpos
              exact hcloses 0 (Nat.succ_lt_succ hpos) (Nat.zero_lt_succ _)
            · intro k hk hkj
              exact hcloses (k + 1) (Nat.succ_lt_succ hk) (Nat.succ_lt_succ hkj)

/-- A run from the first position. -/
theorem between_zero_iff {s : α} {rest : List α} :
    (∃ j, Between exceeds close long (s :: rest) 0 j) ↔
      exceeds s = true ∧ (long s s = true ∨ Continues exceeds close long s s rest) := by
  rw [continues_iff]
  constructor
  · rintro ⟨j, hrun⟩
    refine ⟨hrun.exceeds 0 (Nat.zero_lt_succ _) (Nat.le_refl 0) hrun.order, ?_⟩
    have hinside := hrun.inside
    have hend := hrun.long (Nat.zero_lt_succ _) hinside
    cases j with
    | zero => exact .inl hend
    | succ j =>
        right
        refine ⟨j, Nat.lt_of_succ_lt_succ hinside, ?_, ?_, ?_, hend⟩
        · intro k hk hkj
          exact hrun.exceeds (k + 1) (Nat.succ_lt_succ hk) (Nat.zero_le _) (Nat.succ_le_succ hkj)
        · intro hpos
          exact hrun.close 0 (Nat.succ_lt_succ hpos) (Nat.le_refl 0) (Nat.zero_lt_succ _)
        · intro k hk hkj
          exact hrun.close (k + 1) (Nat.succ_lt_succ hk) (Nat.zero_le _) (Nat.succ_lt_succ hkj)
  · rintro ⟨hover, hlong | ⟨j, hj, hovers, hnext, hcloses, hlong⟩⟩
    · refine ⟨0, Nat.le_refl 0, Nat.zero_lt_succ _, ?_, ?_, fun _ _ => hlong⟩
      · intro k _ _ hk
        obtain rfl := Nat.le_zero.mp hk
        exact hover
      · intro k _ _ hk
        cases hk
    · refine ⟨j + 1, Nat.zero_le _, Nat.succ_lt_succ hj, ?_, ?_, fun _ _ => hlong⟩
      · intro k hk _ hkj
        cases k with
        | zero => exact hover
        | succ k => exact hovers k (Nat.lt_of_succ_lt_succ hk) (Nat.le_of_succ_le_succ hkj)
      · intro k hk _ hkj
        cases k with
        | zero => exact hnext (Nat.lt_of_succ_lt_succ hk)
        | succ k => exact hcloses k (Nat.lt_of_succ_lt_succ hk) (Nat.lt_of_succ_lt_succ hkj)

/-- A run from a later position is one of the rest. -/
theorem between_succ_iff {s : α} {rest : List α} {i j : Nat} :
    Between exceeds close long (s :: rest) (i + 1) (j + 1) ↔
      Between exceeds close long rest i j := by
  constructor
  · intro hrun
    refine ⟨Nat.le_of_succ_le_succ hrun.order, Nat.lt_of_succ_lt_succ hrun.inside, ?_, ?_, ?_⟩
    · intro k hk hik hkj
      exact hrun.exceeds (k + 1) (Nat.succ_lt_succ hk) (Nat.succ_le_succ hik) (Nat.succ_le_succ hkj)
    · intro k hk hik hkj
      exact hrun.close (k + 1) (Nat.succ_lt_succ hk) (Nat.succ_le_succ hik)
        (Nat.succ_lt_succ hkj)
    · intro hi hj
      exact hrun.long (Nat.succ_lt_succ hi) (Nat.succ_lt_succ hj)
  · intro hrun
    refine ⟨Nat.succ_le_succ hrun.order, Nat.succ_lt_succ hrun.inside, ?_, ?_, ?_⟩
    · intro k hk hik hkj
      cases k with
      | zero => cases hik
      | succ k =>
          exact hrun.exceeds k (Nat.lt_of_succ_lt_succ hk) (Nat.le_of_succ_le_succ hik)
            (Nat.le_of_succ_le_succ hkj)
    · intro k hk hik hkj
      cases k with
      | zero => cases hik
      | succ k =>
          exact hrun.close k (Nat.lt_of_succ_lt_succ hk) (Nat.le_of_succ_le_succ hik)
            (Nat.lt_of_succ_lt_succ hkj)
    · intro hi hj
      exact hrun.long (Nat.lt_of_succ_lt_succ hi) (Nat.lt_of_succ_lt_succ hj)

theorem occurs_iff {samples : List α} :
    Occurs exceeds close long samples ↔ ∃ i j, Between exceeds close long samples i j := by
  induction samples with
  | nil =>
      constructor
      · intro h
        exact h.elim
      · rintro ⟨i, j, hrun⟩
        exact absurd hrun.inside (Nat.not_lt_zero _)
  | cons s rest ih =>
      unfold Occurs
      rw [← between_zero_iff, ih]
      constructor
      · rintro (⟨j, hrun⟩ | ⟨i, j, hrun⟩)
        · exact ⟨0, j, hrun⟩
        · exact ⟨i + 1, j + 1, between_succ_iff.mpr hrun⟩
      · rintro ⟨i, j, hrun⟩
        cases i with
        | zero => exact .inl ⟨j, hrun⟩
        | succ i =>
            cases j with
            | zero => exact absurd hrun.order (Nat.not_succ_le_zero _)
            | succ j => exact .inr ⟨i, j, between_succ_iff.mp hrun⟩

/-- **The pass finds a sustained run exactly if there is one**, in samples in order. -/
theorem scan_iff [Preorder α] (hlong : ∀ a b c, a ≤ b → long b c = true → long a c = true)
    {samples : List α} (hsorted : samples.Pairwise (· ≤ ·)) :
    scan exceeds close long none samples = true ↔
      ∃ i j, Between exceeds close long samples i j := by
  rw [← occurs_iff]
  exact @scan_iff_toFind α exceeds close long _ hlong samples hsorted none trivial

end SustainedRun

end GaiaOS
