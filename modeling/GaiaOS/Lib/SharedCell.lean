/-
Calls that read a shared cell and may write it back.

Any number of processes share one cell.  A call reads the cell, decides from what it saw
and the clock, and either is finished or writes a new value later, in a step of its own.
Nothing keeps the other processes out in between, so a write may go over values its call
never saw.

A call in progress remembers what it read, and how many calls were completed by then; no
decision depends on either once it is made, they are there to say when a write comes too
late.  A run in which every write finds the value its call read, and no call of a kind that
`marks` singles out was completed in between, is `Undisturbed`.  The result for such runs
is `replayed`: the cell is what the completed calls, one after another, make of the first
value.  With it comes `ordered`, that every call completed after a marking one also began
after it.
-/
import GaiaOS.Lib.Machine

namespace GaiaOS

namespace SharedCell

variable {S Op R : Type}

/-- A call between its read and its write. -/
structure Pending (S Op R : Type) where
  op : Op
  now : Int
  read : S
  value : S
  result : R
  began : Nat

/-- A completed call. -/
structure Completed (Op R : Type) where
  process : Nat
  op : Op
  now : Int
  result : R
  began : Nat
  deriving DecidableEq, Repr

structure State (S Op R : Type) where
  cell : S
  pending : Nat → Option (Pending S Op R)
  completed : List (Completed Op R)

/-- A process reads for a new call, or writes for the one it has. -/
inductive Event (Op : Type)
  | read (process : Nat) (op : Op) (now : Int)
  | write (process : Nat)

/-- Nobody is in a call and none was completed. -/
def State.init (cell : S) : State S Op R := ⟨cell, fun _ => none, []⟩

/-- No call is in progress. -/
def State.Idle (s : State S Op R) : Prop := ∀ process, s.pending process = none

section Step

variable (react : Op → Int → S → Option S × R) (marks : Op → Bool)

/-- The read of a call: finished at once, or left with a value to write. -/
def State.beginCall (s : State S Op R) (process : Nat) (op : Op) (now : Int) : State S Op R :=
  match react op now s.cell with
  | (none, result) =>
      { s with
        completed := s.completed ++ [⟨process, op, now, result, s.completed.length⟩] }
  | (some value, result) =>
      { s with
        pending := Function.update s.pending process
          (some ⟨op, now, s.cell, value, result, s.completed.length⟩) }

/-- The write of a call. -/
def State.endCall (s : State S Op R) (process : Nat) (p : Pending S Op R) : State S Op R where
  cell := p.value
  pending := Function.update s.pending process none
  completed := s.completed ++ [⟨process, p.op, p.now, p.result, p.began⟩]

def step (s : State S Op R) : Event Op → Option (State S Op R)
  | .read process op now =>
      match s.pending process with
      | none => some (s.beginCall react process op now)
      | some _ => none
  | .write process =>
      match s.pending process with
      | none => none
      | some p => some (s.endCall process p)

/-- A write that finds the value its call read, with no marking call completed since. -/
def Undisturbed (s : State S Op R) : Event Op → Prop
  | .read .. => True
  | .write process => ∀ p, s.pending process = some p →
      p.read = s.cell ∧ ∀ call ∈ s.completed.drop p.began, marks call.op = false

/-- One call on its own. -/
def apply (cell : S) (op : Op) (now : Int) : S := ((react op now cell).1).getD cell

/-- The completed calls one after another. -/
def replay (cell : S) (calls : List (Completed Op R)) : S :=
  calls.foldl (fun cell call => apply react cell call.op call.now) cell

/-- Whatever is completed after a marking call began after it. -/
def Ordered (calls : List (Completed Op R)) : Prop :=
  ∀ (i j : Nat) (earlier later : Completed Op R), calls[i]? = some earlier →
    calls[j]? = some later → i < j → marks earlier.op = true → i < later.began

/-- What a run without disturbance keeps. -/
structure Inv (first : S) (s : State S Op R) : Prop where
  replayed : s.cell = replay react first s.completed
  decided : ∀ process p, s.pending process = some p → (react p.op p.now p.read).1 = some p.value
  ordered : Ordered marks s.completed

variable {react marks} {first : S} {s s' : State S Op R} {process : Nat}

theorem replay_append (cell : S) (calls : List (Completed Op R)) (call : Completed Op R) :
    replay react cell (calls ++ [call]) =
      apply react (replay react cell calls) call.op call.now := by
  simp [replay]

/-! ### The two steps -/

theorem State.beginCall_of_none {op : Op} {now : Int} (h : (react op now s.cell).1 = none) :
    s.beginCall react process op now = { s with
      completed := s.completed ++
        [⟨process, op, now, (react op now s.cell).2, s.completed.length⟩] } := by
  unfold State.beginCall
  split
  · rename_i result hreact
    rw [hreact]
  · rename_i value result hreact
    rw [hreact] at h
    cases h

theorem State.beginCall_of_some {op : Op} {now : Int} {value : S}
    (h : (react op now s.cell).1 = some value) :
    s.beginCall react process op now = { s with
      pending := Function.update s.pending process
        (some ⟨op, now, s.cell, value, (react op now s.cell).2, s.completed.length⟩) } := by
  unfold State.beginCall
  split
  · rename_i result hreact
    rw [hreact] at h
    cases h
  · rename_i value' result hreact
    rw [hreact] at h
    cases h
    rw [hreact]

/-- A read leaves the cell alone; if its call is not finished it owes the value it decided on. -/
theorem read_cases {op : Op} {now : Int}
    (h : SharedCell.step react s (.read process op now) = some s') :
    s'.cell = s.cell ∧
      ∀ p, s'.pending process = some p →
        p.op = op ∧ (react op now s.cell).1 = some p.value := by
  simp only [SharedCell.step] at h
  split at h
  · rename_i hnone
    cases h
    cases hreact : (react op now s.cell).1 with
    | none =>
        rw [State.beginCall_of_none hreact]
        refine ⟨rfl, ?_⟩
        intro p hp
        exact absurd (hnone.symm.trans hp) (by simp)
    | some value =>
        rw [State.beginCall_of_some hreact]
        refine ⟨rfl, ?_⟩
        intro p hp
        simp only [Function.update_self, Option.some.injEq] at hp
        subst hp
        exact ⟨rfl, rfl⟩
  · cases h

/-- A write finishes its call. -/
theorem write_cases (h : SharedCell.step react s (.write process) = some s') :
    ∃ p, s.pending process = some p ∧ s'.cell = p.value ∧ s'.pending process = none ∧
      s'.completed = s.completed ++ [⟨process, p.op, p.now, p.result, p.began⟩] := by
  simp only [SharedCell.step] at h
  split at h
  · cases h
  · rename_i p hp
    cases h
    exact ⟨p, hp, rfl, Function.update_self .., rfl⟩

/-! ### Undisturbed runs -/

/-- An entry of a list with one more at the end is an old one or the last. -/
theorem getElem?_concat_cases {α : Type} {l : List α} {x y : α} {i : Nat}
    (h : (l ++ [x])[i]? = some y) : l[i]? = some y ∨ (i = l.length ∧ y = x) := by
  by_cases hlt : i < l.length
  · rw [List.getElem?_append_left hlt] at h
    exact Or.inl h
  · rw [List.getElem?_append_right (by omega)] at h
    by_cases heq : i = l.length
    · subst heq
      simp only [Nat.sub_self, List.getElem?_cons_zero, Option.some.injEq] at h
      exact Or.inr ⟨rfl, h.symm⟩
    · have hpos : i - l.length ≠ 0 := by omega
      rw [List.getElem?_eq_none (by simp; omega)] at h
      cases h

/-- The order is kept by a call that saw every marking one. -/
theorem Ordered.concat {calls : List (Completed Op R)} {last : Completed Op R}
    (h : Ordered marks calls)
    (hlast : ∀ call ∈ calls.drop last.began, marks call.op = false) :
    Ordered marks (calls ++ [last]) := by
  intro i j earlier later hi hj hlt hmark
  rcases getElem?_concat_cases hj with hjold | ⟨hjlen, rfl⟩
  · have hjlt := (List.getElem?_eq_some_iff.mp hjold).1
    rcases getElem?_concat_cases hi with hiold | ⟨hilen, -⟩
    · exact h i j earlier later hiold hjold hlt hmark
    · omega
  · rcases getElem?_concat_cases hi with hiold | ⟨hilen, -⟩
    · by_contra hge
      have hdrop : (calls.drop later.began)[i - later.began]? = some earlier := by
        rw [List.getElem?_drop, ← hiold]
        congr 1
        omega
      rw [hlast earlier (List.mem_of_getElem? hdrop)] at hmark
      cases hmark
    · omega

theorem inv_init (first : S) : Inv react marks first (State.init first : State S Op R) where
  replayed := rfl
  decided := by
    intro process p h
    cases h
  ordered := by
    intro i j earlier later h
    simp [State.init] at h

/-- A read is that call on its own if it finishes, and otherwise changes nothing yet. -/
theorem Inv.beginCall (h : Inv react marks first s) (process : Nat) (op : Op) (now : Int) :
    Inv react marks first (s.beginCall react process op now) := by
  cases hreact : (react op now s.cell).1 with
  | none =>
      rw [State.beginCall_of_none hreact]
      refine ⟨?_, h.decided, h.ordered.concat ?_⟩
      · show s.cell = replay react first (s.completed ++ [_])
        rw [replay_append, ← h.replayed, apply, hreact]
        rfl
      · simp
  | some value =>
      rw [State.beginCall_of_some hreact]
      refine ⟨h.replayed, ?_, h.ordered⟩
      intro q p hp
      by_cases hq : q = process
      · subst hq
        simp only [Function.update_self, Option.some.injEq] at hp
        subst hp
        exact hreact
      · simp only [Function.update_of_ne hq] at hp
        exact h.decided q p hp

/-- A write that finds the value its call read is that call on its own. -/
theorem Inv.endCall (h : Inv react marks first s) {p : Pending S Op R}
    (hp : s.pending process = some p) (hread : p.read = s.cell)
    (hmarks : ∀ call ∈ s.completed.drop p.began, marks call.op = false) :
    Inv react marks first (s.endCall process p) := by
  refine ⟨?_, ?_, h.ordered.concat hmarks⟩
  · show p.value = replay react first (s.completed ++ [_])
    rw [replay_append, ← h.replayed, apply, ← hread, h.decided process p hp]
    rfl
  · intro q p' hq
    by_cases heq : q = process
    · subst heq
      simp [State.endCall] at hq
    · simp only [State.endCall, Function.update_of_ne heq] at hq
      exact h.decided q p' hq

/-- The step lemma. -/
theorem Inv.step {e : Event Op} (h : Inv react marks first s) (hok : Undisturbed marks s e)
    (hstep : SharedCell.step react s e = some s') : Inv react marks first s' := by
  cases e with
  | read process op now =>
      simp only [SharedCell.step] at hstep
      split at hstep
      · cases hstep
        exact h.beginCall process op now
      · cases hstep
  | write process =>
      simp only [SharedCell.step] at hstep
      split at hstep
      · cases hstep
      · rename_i p hp
        cases hstep
        obtain ⟨hread, hmarks⟩ := hok p hp
        exact h.endCall hp hread hmarks

/-- The run lemma. -/
theorem inv_of_reaches {events : List (Event Op)}
    (h : Reaches (SharedCell.step react) (Undisturbed marks) (State.init first) events s) :
    Inv react marks first s :=
  h.invariant (inv_init first) fun _ _ _ hinv hok hstep => hinv.step hok hstep

end Step

end SharedCell

end GaiaOS
