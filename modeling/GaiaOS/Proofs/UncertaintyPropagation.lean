/-
Combining evidence never hides anything.

The combination rule takes the union of the intervals, pads it when the evidence
conflicts, clamps it to `[0, 1]` and puts the average point estimate back inside.
Four things are claimed of it: the result is always a valid estimate, its interval
contains every interval that went in, the order of the evidence does not matter, and
more evidence can only widen the interval and raise the severity of the tag.

All four rest on two comparisons with the union of the input intervals.  The
combined bounds never lie inside the union (`combinedLower_le_union`), and both the
union and the padding only grow with the list (`combinedLower_anti`).  The padding
jumps when a list starts to conflict, so the second comparison needs the conflict
test itself to be monotone, `isConflict_append`.

A single estimate is returned unpadded even when it is tagged as a conflict.  That
is the one place where the rule is not an instance of the general one, and there
growth follows from containment alone: whatever the longer list gives contains the
single interval.
-/
import GaiaOS.Synthesis.UncertaintyPropagation
import Mathlib.Algebra.BigOperators.Group.List.Basic
import Mathlib.Tactic.NormNum

namespace GaiaOS

/-! ### Clamping -/

theorem clampUnit_nonneg (x : ℚ) : 0 ≤ clampUnit x := le_max_left _ _

theorem clampUnit_le_one (x : ℚ) : clampUnit x ≤ 1 :=
  max_le zero_le_one (min_le_left _ _)

theorem clampUnit_mono {x y : ℚ} (h : x ≤ y) : clampUnit x ≤ clampUnit y :=
  max_le_max le_rfl (min_le_min le_rfl h)

/-- Clamping from below a bound that is itself in range stays below it. -/
theorem clampUnit_le {x y : ℚ} (h : x ≤ y) (hy : 0 ≤ y) : clampUnit x ≤ y :=
  max_le hy (le_trans (min_le_right _ _) h)

theorem le_clampUnit {x y : ℚ} (h : y ≤ x) (hy : y ≤ 1) : y ≤ clampUnit x :=
  le_trans (le_min hy h) (le_max_right _ _)

/-! ### The combined interval lies outside the union -/

section Combined

variable {es es' : List UncertaintyEstimate} (h : es ≠ []) (h' : es' ≠ [])

theorem unionLower_nonneg : 0 ≤ unionLower es h := by
  obtain ⟨e, -, heq⟩ := exists_eq_minOf (·.lowerBound) h
  unfold unionLower
  rw [← heq]
  exact e.lower_nonneg

theorem unionUpper_le_one : unionUpper es h ≤ 1 := by
  obtain ⟨e, -, heq⟩ := exists_eq_maxOf (·.upperBound) h
  unfold unionUpper
  rw [← heq]
  exact e.upper_le_one

theorem unionLower_le_unionUpper : unionLower es h ≤ unionUpper es h := by
  obtain ⟨e, he⟩ := List.exists_mem_of_ne_nil es h
  exact le_trans (minOf_le he) (le_trans e.lower_le_upper (le_maxOf he))

theorem combinedLower_le_union : combinedLower es h ≤ unionLower es h :=
  clampUnit_le (min_le_right _ _) (unionLower_nonneg h)

theorem union_le_combinedUpper : unionUpper es h ≤ combinedUpper es h :=
  le_clampUnit (le_max_right _ _) (unionUpper_le_one h)

theorem combinedLower_le_combinedUpper : combinedLower es h ≤ combinedUpper es h :=
  le_trans (combinedLower_le_union h)
    (le_trans (unionLower_le_unionUpper h) (union_le_combinedUpper h))

/-- The estimate the combination rule builds; the validator has nothing to object to. -/
def combined (es : List UncertaintyEstimate) (h : es ≠ []) : UncertaintyEstimate where
  pointEstimate := combinedPt es h
  lowerBound := combinedLower es h
  upperBound := combinedUpper es h
  source := combinedSource es h
  lower_nonneg := clampUnit_nonneg _
  lower_le_point := le_max_left _ _
  point_le_upper := max_le (combinedLower_le_combinedUpper h) (min_le_left _ _)
  upper_le_one := clampUnit_le_one _

theorem combineEstimates_eq : combineEstimates es h = .ok (combined es h) :=
  UncertaintyEstimate.new_eq_ok _ (combined es h).lower_nonneg (combined es h).lower_le_point
    (combined es h).point_le_upper (combined es h).upper_le_one

theorem combined_covers {e : UncertaintyEstimate} (he : e ∈ es) : (combined es h).Covers e :=
  ⟨le_trans (combinedLower_le_union h) (minOf_le he),
    le_trans (le_maxOf he) (union_le_combinedUpper h)⟩

/-! ### More evidence only widens -/

theorem spread_mono (hsub : es ⊆ es') : spread es h ≤ spread es' h' :=
  sub_le_sub (maxOf_mono h h' hsub) (minOf_anti h h' hsub)

theorem penalty_mono (hsub : es ⊆ es') : penalty es h ≤ penalty es' h' := by
  have hspread := spread_mono h h' hsub
  exact max_le_max le_rfl (by linarith)

theorem penalty_nonneg : 0 ≤ penalty es h :=
  le_trans (by norm_num [minConflictPadding]) (le_max_left _ _)

/-- Evidence that conflicts still conflicts when more is added. -/
theorem isConflict_append (ys : List UncertaintyEstimate) (h'' : es ++ ys ≠ [])
    (hc : isConflict es h = true) : isConflict (es ++ ys) h'' = true := by
  have hsub : es ⊆ es ++ ys := fun _ hx => List.mem_append_left _ hx
  simp only [isConflict, Bool.or_eq_true, decide_eq_true_eq] at hc ⊢
  rcases hc with (hspread | hdisj) | hsrc
  · exact Or.inl (Or.inl (le_trans hspread (spread_mono h h'' hsub)))
  · exact Or.inl (Or.inr (any_pairs_append ys hdisj))
  · exact Or.inr (by rw [List.any_append, hsrc, Bool.true_or])

theorem combinedLower_anti (hsub : es ⊆ es')
    (hconf : isConflict es h = true → isConflict es' h' = true) :
    combinedLower es' h' ≤ combinedLower es h := by
  have hul : unionLower es' h' ≤ unionLower es h := minOf_anti h h' hsub
  have hmp : minPt es' h' ≤ minPt es h := minOf_anti h h' hsub
  have hpen := penalty_mono h h' hsub
  unfold combinedLower
  refine clampUnit_mono (min_le_min ?_ hul)
  by_cases hc : isConflict es h = true
  · rw [if_pos hc, if_pos (hconf hc)]
    exact sub_le_sub (min_le_min hul hmp) hpen
  · rw [if_neg hc]
    by_cases hc' : isConflict es' h' = true
    · -- the padding appears here, on the side that only widens
      rw [if_pos hc']
      have hpos := penalty_nonneg h'
      have hmin := min_le_left (unionLower es' h') (minPt es' h')
      linarith
    · rw [if_neg hc']
      exact hul

theorem combinedUpper_mono (hsub : es ⊆ es')
    (hconf : isConflict es h = true → isConflict es' h' = true) :
    combinedUpper es h ≤ combinedUpper es' h' := by
  have huu : unionUpper es h ≤ unionUpper es' h' := maxOf_mono h h' hsub
  have hmp : maxPt es h ≤ maxPt es' h' := maxOf_mono h h' hsub
  have hpen := penalty_mono h h' hsub
  unfold combinedUpper
  refine clampUnit_mono (max_le_max ?_ huu)
  by_cases hc : isConflict es h = true
  · rw [if_pos hc, if_pos (hconf hc)]
    exact add_le_add (max_le_max huu hmp) hpen
  · rw [if_neg hc]
    by_cases hc' : isConflict es' h' = true
    · rw [if_pos hc']
      have hpos := penalty_nonneg h'
      have hmax := le_max_left (unionUpper es' h') (maxPt es' h')
      linarith
    · rw [if_neg hc']
      exact huu

/-! ### The source tag -/

/-- The combined tag is at least as severe as anything that forces it up. -/
theorem le_combinedSource {n : Nat}
    (hn : n ≤ 3) (hconf : n = 3 → isConflict es h = true)
    (hspar : n = 2 → es.any (fun e => e.source == .dataSparsity) = true)
    (hmod : n = 1 → es.any (fun e => e.source == .modelUncertainty) = true) :
    n ≤ (combinedSource es h).severity := by
  unfold combinedSource
  split
  · exact hn
  · rename_i hc
    split
    · have : n ≠ 3 := fun h3 => hc (hconf h3)
      show n ≤ 2
      omega
    · rename_i hs
      have h3 : n ≠ 3 := fun h3 => hc (hconf h3)
      have h2 : n ≠ 2 := fun h2 => hs (hspar h2)
      split
      · show n ≤ 1
        omega
      · rename_i hm
        have h1 : n ≠ 1 := fun h1 => hm (hmod h1)
        show n ≤ 0
        omega

theorem source_le_combined {e : UncertaintyEstimate} (he : e ∈ es) :
    e.source.severity ≤ (combinedSource es h).severity := by
  have hany : ∀ t : SourceType, e.source = t → es.any (fun x => x.source == t) = true :=
    fun t ht => List.any_eq_true.mpr ⟨e, he, by simp [ht]⟩
  cases hs : e.source with
  | wellSupported => exact Nat.zero_le _
  | modelUncertainty =>
      exact le_combinedSource h (by decide) (by simp [SourceType.severity])
        (by simp [SourceType.severity]) (fun _ => hany _ hs)
  | dataSparsity =>
      exact le_combinedSource h (by decide) (by simp [SourceType.severity])
        (fun _ => hany _ hs) (by simp [SourceType.severity])
  | evidenceConflict =>
      refine le_combinedSource h (by decide) (fun _ => ?_) (by simp [SourceType.severity])
        (by simp [SourceType.severity])
      simp only [isConflict, hany _ hs, Bool.or_true]

/-- What the combined tag says about the list, read backwards. -/
theorem combinedSource_cases :
    (combinedSource es h = .evidenceConflict ∧ isConflict es h = true) ∨
      (∃ e ∈ es, e.source = combinedSource es h) ∨ combinedSource es h = .wellSupported := by
  unfold combinedSource
  split
  · rename_i hc
    exact Or.inl ⟨rfl, hc⟩
  · split
    · rename_i hs
      obtain ⟨e, he, heq⟩ := List.any_eq_true.mp hs
      exact Or.inr (Or.inl ⟨e, he, by simpa using heq⟩)
    · split
      · rename_i hm
        obtain ⟨e, he, heq⟩ := List.any_eq_true.mp hm
        exact Or.inr (Or.inl ⟨e, he, by simpa using heq⟩)
      · exact Or.inr (Or.inr rfl)

theorem combinedSource_mono (hsub : es ⊆ es')
    (hconf : isConflict es h = true → isConflict es' h' = true) :
    (combinedSource es h).severity ≤ (combinedSource es' h').severity := by
  rcases combinedSource_cases h with ⟨hs, hc⟩ | ⟨e, he, heq⟩ | hs
  · rw [hs]
    exact le_combinedSource h' (by decide) (fun _ => hconf hc)
      (by simp [SourceType.severity]) (by simp [SourceType.severity])
  · rw [← heq]
    exact source_le_combined h' (hsub he)
  · rw [hs]
    exact Nat.zero_le _

/-! ### The order of the evidence -/

theorem isConflict_perm (hp : es.Perm es') : isConflict es h = isConflict es' h' := by
  have hspread : spread es h = spread es' h' := by
    unfold spread maxPt minPt
    rw [maxOf_perm h h' hp, minOf_perm h h' hp]
  have hdisj : hasDisjointIntervals es = hasDisjointIntervals es' :=
    any_pairs_perm (fun x y => by unfold disjointIntervals; rw [Bool.or_comm]) hp
  unfold isConflict
  rw [hspread, hdisj, hp.any_eq]

theorem combined_perm (hp : es.Perm es') : combined es h = combined es' h' := by
  have hconf := isConflict_perm h h' hp
  have hmin : minPt es h = minPt es' h' := minOf_perm h h' hp
  have hmax : maxPt es h = maxPt es' h' := maxOf_perm h h' hp
  have hlow : unionLower es h = unionLower es' h' := minOf_perm h h' hp
  have hupp : unionUpper es h = unionUpper es' h' := maxOf_perm h h' hp
  have havg : avgPt es = avgPt es' := by
    unfold avgPt
    rw [(hp.map _).sum_eq, hp.length_eq]
  have hpen : penalty es h = penalty es' h' := by
    unfold penalty spread
    rw [hmin, hmax]
  have hlower : combinedLower es h = combinedLower es' h' := by
    unfold combinedLower
    rw [hconf, hmin, hlow, hpen]
  have hupper : combinedUpper es h = combinedUpper es' h' := by
    unfold combinedUpper
    rw [hconf, hmax, hupp, hpen]
  have hsource : combinedSource es h = combinedSource es' h' := by
    unfold combinedSource
    rw [hconf, hp.any_eq, hp.any_eq]
  have hpt : combinedPt es h = combinedPt es' h' := by
    unfold combinedPt
    rw [hlower, hupper, havg]
  unfold combined
  simp only [hpt, hlower, hupper, hsource]

end Combined

/-! ### The rule as a whole -/

/-- A single estimate comes back as it is. -/
theorem propagateUncertainty_single (e : UncertaintyEstimate) :
    propagateUncertainty [e] = .ok e :=
  UncertaintyEstimate.new_eq_ok _ e.lower_nonneg e.lower_le_point e.point_le_upper e.upper_le_one

theorem propagateUncertainty_many {es : List UncertaintyEstimate} (h : es ≠ [])
    (hlen : 2 ≤ es.length) : propagateUncertainty es = .ok (combined es h) := by
  match es, h, hlen with
  | e₁ :: e₂ :: rest, h, _ => exact combineEstimates_eq h

/-- Either way the result covers the evidence and is at least as severe. -/
theorem propagateUncertainty_covers {es : List UncertaintyEstimate} (h : es ≠ []) :
    ∃ r, propagateUncertainty es = .ok r ∧ (∀ e ∈ es, r.Covers e) ∧
      ∀ e ∈ es, e.source.severity ≤ r.source.severity := by
  match es, h with
  | [e], _ =>
      refine ⟨e, propagateUncertainty_single e, ?_, ?_⟩
      · intro x hx
        rw [List.mem_singleton.mp hx]
        exact ⟨le_rfl, le_rfl⟩
      · intro x hx
        rw [List.mem_singleton.mp hx]
  | e₁ :: e₂ :: rest, h =>
      exact ⟨combined (e₁ :: e₂ :: rest) h, propagateUncertainty_many h (by simp),
        fun e he => combined_covers h he, fun e he => source_le_combined h he⟩

theorem propagateUncertainty_perm {es es' : List UncertaintyEstimate} (h : es ≠ [])
    (hp : es.Perm es') : propagateUncertainty es' = propagateUncertainty es := by
  have h' : es' ≠ [] := fun hc => h (by rw [hc] at hp; exact hp.eq_nil)
  by_cases hlen : 2 ≤ es.length
  · rw [propagateUncertainty_many h hlen,
      propagateUncertainty_many h' (by rw [← hp.length_eq]; exact hlen), combined_perm h h' hp]
  · -- a permutation of one element is that element
    have hone : es.length = 1 := by
      have := List.length_pos_of_ne_nil h
      omega
    obtain ⟨e, rfl⟩ := List.length_eq_one_iff.mp hone
    rw [List.perm_singleton.mp hp.symm]

/-- Adding one estimate widens the interval and never lowers the severity. -/
theorem propagateUncertainty_append {es : List UncertaintyEstimate} (h : es ≠ [])
    {r : UncertaintyEstimate} (hr : propagateUncertainty es = .ok r) (e : UncertaintyEstimate) :
    ∃ r', propagateUncertainty (es ++ [e]) = .ok r' ∧ r'.Covers r ∧
      r.source.severity ≤ r'.source.severity := by
  have h' : es ++ [e] ≠ [] := List.append_ne_nil_of_left_ne_nil h _
  by_cases hlen : 2 ≤ es.length
  · rw [propagateUncertainty_many h hlen] at hr
    obtain rfl := Except.ok.inj hr
    have hsub : es ⊆ es ++ [e] := fun _ hx => List.mem_append_left _ hx
    have hconf := isConflict_append h [e] h'
    exact ⟨combined (es ++ [e]) h', propagateUncertainty_many h' (by simp; omega),
      ⟨combinedLower_anti h h' hsub hconf, combinedUpper_mono h h' hsub hconf⟩,
      combinedSource_mono h h' hsub hconf⟩
  · have hone : es.length = 1 := by
      have := List.length_pos_of_ne_nil h
      omega
    obtain ⟨single, rfl⟩ := List.length_eq_one_iff.mp hone
    rw [propagateUncertainty_single] at hr
    obtain rfl := Except.ok.inj hr
    obtain ⟨r', hr', hcov, hsev⟩ := propagateUncertainty_covers h'
    exact ⟨r', hr', hcov single (by simp), hsev single (by simp)⟩

/--
**Combining uncertainty is honest.**

For a non-empty list of estimates the combination exists, is a valid estimate, covers
every input interval, does not depend on the order of the list, carries a tag at least
as severe as every input tag, and under one more estimate the interval only widens and
the tag never becomes less severe.
-/
theorem propagateUncertainty_honest (es : List UncertaintyEstimate) (h : es ≠ []) :
    ∃ r, propagateUncertainty es = .ok r ∧
      (0 ≤ r.lowerBound ∧ r.lowerBound ≤ r.pointEstimate ∧ r.pointEstimate ≤ r.upperBound ∧
        r.upperBound ≤ 1) ∧
      (∀ e ∈ es, r.Covers e) ∧
      (∀ es', es.Perm es' → propagateUncertainty es' = .ok r) ∧
      (∀ e ∈ es, e.source.severity ≤ r.source.severity) ∧
      (∀ e, ∃ r', propagateUncertainty (es ++ [e]) = .ok r' ∧ r'.Covers r ∧
        r.source.severity ≤ r'.source.severity) := by
  obtain ⟨r, hr, hcov, hsev⟩ := propagateUncertainty_covers h
  exact ⟨r, hr, ⟨r.lower_nonneg, r.lower_le_point, r.point_le_upper, r.upper_le_one⟩, hcov,
    fun es' hp => by rw [propagateUncertainty_perm h hp, hr], hsev,
    fun e => propagateUncertainty_append h hr e⟩

/-- Two readings that disagree: their intervals do not meet. -/
def lowReading : UncertaintyEstimate :=
  ⟨1 / 5, 1 / 10, 3 / 10, .wellSupported, by norm_num, by norm_num, by norm_num, by norm_num⟩

def highReading : UncertaintyEstimate :=
  ⟨4 / 5, 7 / 10, 9 / 10, .modelUncertainty, by norm_num, by norm_num, by norm_num, by norm_num⟩

theorem propagateUncertainty_readings :
    ∃ r, propagateUncertainty [lowReading, highReading] = .ok r ∧
      propagateUncertainty [highReading, lowReading] = .ok r ∧
      r.Covers lowReading ∧ r.Covers highReading := by
  obtain ⟨r, hr, -, hcov, hperm, -⟩ :=
    propagateUncertainty_honest [lowReading, highReading] (List.cons_ne_nil _ _)
  exact ⟨r, hr, hperm _ (List.Perm.swap _ _ _), hcov _ (by simp), hcov _ (by simp)⟩

end GaiaOS
