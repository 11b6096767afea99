/-
An alarm that counts before it speaks.

An alarm is raised at every observation of its condition and cleared when the condition is
seen to have passed.  While it is raised it counts; it speaks when the count meets a
threshold, and it speaks again when it is cleared.  Both uses of the count are here: an
alarm whose count is met has spoken exactly once (`Counted`), and if it is only ever cleared
once it has spoken, its messages alternate (`Orderly`).

What makes the first of these an invariant is that the count starts at one and grows by one,
so it meets every threshold above one on its way; a threshold at or below one is met at the
start.  A threshold that is moved while the alarm is raised breaks it, unless the move leaves
the count on the same side.
-/
import Mathlib.Tactic.Basic
import Mathlib.Logic.Function.Iterate

namespace GaiaOS

/-- An alarm that is raised: its count, and how often it has said so. -/
structure Episode where
  violations : Int
  announced : Nat

/-- An alarm and everything it has said; `true` is that it was raised, `false` that it was
cleared. -/
structure Alarm where
  episode : Option Episode
  spoken : List Bool

/-- Messages take turns, the first of them that the alarm was raised. -/
def Alternating (spoken : List Bool) : Prop :=
  ∀ i b, spoken[i]? = some b → (b = true ↔ i % 2 = 0)

theorem alternating_nil : Alternating [] := by
  intro i b h
  simp at h

theorem Alternating.concat {spoken : List Bool} (h : Alternating spoken) {b : Bool}
    (hb : b = true ↔ spoken.length % 2 = 0) : Alternating (spoken ++ [b]) := by
  intro i b' hi
  rcases Nat.lt_trichotomy i spoken.length with hlt | heq | hgt
  · rw [List.getElem?_append_left hlt] at hi
    exact h i b' hi
  · subst heq
    rw [List.getElem?_concat_length] at hi
    cases hi
    exact hb
  · rw [List.getElem?_eq_none (by simp; omega)] at hi
    cases hi

/-- Speaks if it is time to. -/
def Alarm.say (due : Bool) : List Bool := if due then [true] else []

theorem Alternating.say {spoken : List Bool} (h : Alternating spoken) {due : Bool}
    (heven : due = true → spoken.length % 2 = 0) : Alternating (spoken ++ Alarm.say due) := by
  cases due with
  | false =>
      show Alternating (spoken ++ [])
      rw [List.append_nil]
      exact h
  | true => exact h.concat ⟨fun _ => heven rfl, fun _ => rfl⟩

namespace Alarm

/-- The condition is observed. -/
def raise (threshold : Int) (alarm : Alarm) : Alarm :=
  match alarm.episode with
  | none =>
      { episode := some ⟨1, if threshold ≤ 1 then 1 else 0⟩
        spoken := alarm.spoken ++ say (threshold ≤ 1) }
  | some episode =>
      { episode := some ⟨episode.violations + 1,
          episode.announced + if episode.violations + 1 = threshold then 1 else 0⟩
        spoken := alarm.spoken ++ say (episode.violations + 1 = threshold) }

/-- The condition is seen to have passed. -/
def clear (alarm : Alarm) : Alarm :=
  match alarm.episode with
  | none => alarm
  | some _ => { episode := none, spoken := alarm.spoken ++ [false] }

/-- It has spoken exactly if its count has met the threshold, and then once. -/
def Counted (threshold : Int) (alarm : Alarm) : Prop :=
  ∀ episode, alarm.episode = some episode →
    1 ≤ episode.violations ∧ episode.announced = if threshold ≤ episode.violations then 1 else 0

/-- What it has said alternates, and what it said last is what it is. -/
structure Orderly (threshold : Int) (alarm : Alarm) : Prop where
  counted : Counted threshold alarm
  alternating : Alternating alarm.spoken
  raised_iff : alarm.spoken.length % 2 = 1 ↔
    ∃ episode, alarm.episode = some episode ∧ threshold ≤ episode.violations

variable {threshold threshold' : Int} {alarm : Alarm}

theorem Counted.raise (h : Counted threshold alarm) : Counted threshold (alarm.raise threshold) := by
  intro episode hepisode
  unfold Alarm.raise at hepisode
  split at hepisode
  · cases hepisode
    exact ⟨Int.le_refl 1, rfl⟩
  · rename_i old hold
    cases hepisode
    obtain ⟨hpos, hannounced⟩ := h old hold
    dsimp only
    refine ⟨by omega, ?_⟩
    -- before the threshold, at it, or past it
    rcases Int.lt_trichotomy (old.violations + 1) threshold with hlt | heq | hgt
    · rw [hannounced, if_neg (by omega), if_neg (by omega), if_neg (by omega)]
    · rw [hannounced, if_neg (by omega), if_pos heq, if_pos (by omega)]
    · rw [hannounced, if_pos (by omega), if_neg (by omega), if_pos (by omega)]

theorem Counted.clear (h : Counted threshold alarm) : Counted threshold alarm.clear := by
  unfold Alarm.clear
  split
  · exact h
  · intro episode hepisode
    cases hepisode

/-- Moving the threshold past the count, either way, is what breaks the account. -/
theorem Counted.move (h : Counted threshold alarm)
    (hside : ∀ episode, alarm.episode = some episode →
      (threshold ≤ episode.violations ↔ threshold' ≤ episode.violations)) :
    Counted threshold' alarm := by
  intro episode hepisode
  obtain ⟨hpos, hannounced⟩ := h episode hepisode
  refine ⟨hpos, ?_⟩
  rw [hannounced]
  simp only [hside episode hepisode]

/-- Until the count meets the threshold, the last message, if any, is that the alarm was cleared. -/
theorem Orderly.even (h : Orderly threshold alarm)
    (hshort : ∀ episode, alarm.episode = some episode → episode.violations < threshold) :
    alarm.spoken.length % 2 = 0 := by
  have hnot : ¬ alarm.spoken.length % 2 = 1 := by
    rw [h.raised_iff]
    rintro ⟨episode, hepisode, hmet⟩
    exact absurd hmet (Int.not_le.mpr (hshort episode hepisode))
  omega

/-- It is its turn to speak whenever it does. -/
theorem Orderly.alternating_raise (h : Orderly threshold alarm) :
    Alternating (alarm.raise threshold).spoken := by
  unfold Alarm.raise
  split
  · rename_i hnone
    refine h.alternating.say fun _ => h.even ?_
    intro episode hepisode
    rw [hnone] at hepisode
    cases hepisode
  · rename_i episode hepisode
    refine h.alternating.say fun hdue => h.even ?_
    intro same hsame
    rw [hepisode] at hsame
    cases hsame
    have hmeets : episode.violations + 1 = threshold := of_decide_eq_true hdue
    omega

theorem Orderly.raise (h : Orderly threshold alarm) : Orderly threshold (alarm.raise threshold) := by
  refine ⟨h.counted.raise, h.alternating_raise, ?_⟩
  have hparity := h.raised_iff
  unfold Alarm.raise say
  split
  · rename_i hnone
    rw [hnone] at hparity
    simp only [reduceCtorEq, false_and, exists_false, iff_false] at hparity
    simp only [Option.some.injEq, exists_eq_left']
    by_cases hdue : threshold ≤ 1
    · simp [hdue]
      omega
    · simp [hdue]
      omega
  · rename_i episode hepisode
    rw [hepisode] at hparity
    simp only [Option.some.injEq, exists_eq_left'] at hparity ⊢
    by_cases hdue : episode.violations + 1 = threshold
    · simp [hdue]
      omega
    · simp [hdue]
      omega

/-- An alarm that is cleared after it has spoken stays orderly. -/
theorem Orderly.clear (h : Orderly threshold alarm)
    (hmet : ∀ episode, alarm.episode = some episode → threshold ≤ episode.violations) :
    Orderly threshold alarm.clear := by
  refine ⟨h.counted.clear, ?_, ?_⟩
  · unfold Alarm.clear
    split
    · exact h.alternating
    · rename_i episode hepisode
      have hodd := h.raised_iff.mpr ⟨episode, hepisode, hmet episode hepisode⟩
      exact h.alternating.concat (by simp; omega)
  · unfold Alarm.clear
    split
    · exact h.raised_iff
    · rename_i episode hepisode
      have hodd := h.raised_iff.mpr ⟨episode, hepisode, hmet episode hepisode⟩
      simp
      omega

theorem Counted.iterate_raise (h : Counted threshold alarm) (k : Nat) :
    Counted threshold ((Alarm.raise threshold)^[k] alarm) :=
  Function.Iterate.rec (Counted threshold) h (fun _ hcounted => Counted.raise hcounted) k

theorem Orderly.iterate_raise (h : Orderly threshold alarm) (k : Nat) :
    Orderly threshold ((Alarm.raise threshold)^[k] alarm) :=
  Function.Iterate.rec (Orderly threshold) h (fun _ horderly => Orderly.raise horderly) k

end Alarm

end GaiaOS
