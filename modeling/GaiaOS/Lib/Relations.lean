/-
Relations between optional values and between lists.

`Option.Rel` and `List.Forall₂` lift a relation to values that may be missing and to lists of the
same length.  Here are the facts by which such values are taken apart, put together and related
over a third one.
-/
import Mathlib.Data.List.Forall2

namespace GaiaOS

variable {α β : Type} {R S : α → α → Prop}

theorem optionRel_through {x y z : Option α} (h : Option.Rel R x y) (h' : Option.Rel S y z) :
    Option.Rel (fun a c => ∃ b, R a b ∧ S b c) x z := by
  cases h with
  | none =>
      cases h'
      exact .none
  | some hR =>
      cases h' with
      | some hS => exact .some ⟨_, hR, hS⟩

theorem optionRel_some {x : Option α} {a : α} (h : Option.Rel R (some a) x) :
    ∃ a', x = some a' ∧ R a a' := by
  cases h with
  | some hR => exact ⟨_, rfl, hR⟩

theorem forall₂_through {l l' : List α} (h : List.Forall₂ R l l') : ∀ {l''},
    List.Forall₂ S l' l'' → List.Forall₂ (fun a c => ∃ b, R a b ∧ S b c) l l'' := by
  induction h with
  | nil =>
      intro l'' h'
      cases h'
      exact .nil
  | cons hR _ ih =>
      intro l'' h'
      cases h' with
      | cons hS h' => exact .cons ⟨_, hR, hS⟩ (ih h')

theorem forall₂_getElem? {l l' : List α} (h : List.Forall₂ R l l') : ∀ {i : Nat} {a : α},
    l[i]? = some a → ∃ a', l'[i]? = some a' ∧ R a a' := by
  induction h with
  | nil =>
      intro i a hget
      simp at hget
  | cons hR _ ih =>
      intro i a hget
      cases i with
      | zero =>
          obtain rfl := Option.some.inj hget
          exact ⟨_, rfl, hR⟩
      | succ i => exact ih hget

/-- Lists of optional members, related twice. -/
theorem optionRel_forall₂_through {x y z : Option (List α)}
    (h : Option.Rel (List.Forall₂ R) x y) (h' : Option.Rel (List.Forall₂ S) y z) :
    Option.Rel (List.Forall₂ fun a c => ∃ b, R a b ∧ S b c) x z := by
  cases h with
  | none =>
      cases h'
      exact .none
  | some hR =>
      cases h' with
      | some hS => exact .some (forall₂_through hR hS)

theorem optionRel_refl (hR : ∀ a, R a a) (x : Option α) : Option.Rel R x x := by
  cases x with
  | none => exact .none
  | some a => exact .some (hR a)

theorem eq_of_optionRel_eq {x y : Option α} (h : Option.Rel (· = ·) x y) : x = y := by
  cases h with
  | none => rfl
  | some heq => rw [heq]

theorem optionRel_or {x x' y y' : Option α}
    (h : Option.Rel R x x') (h' : Option.Rel R y y') : Option.Rel R (x.or y) (x'.or y') := by
  cases h with
  | none => exact h'
  | some hR => exact .some hR

/-! ### Lists mapped by a function that can fail -/

theorem option_mapM_eq_some_iff {f : α → Option β} {l : List α} : ∀ {l' : List β},
    l.mapM f = some l' ↔ List.Forall₂ (fun a b => f a = some b) l l' := by
  induction l with
  | nil =>
      intro l'
      rw [List.mapM_nil, List.forall₂_nil_left_iff]
      exact ⟨fun h => (Option.some.inj h).symm, fun h => by rw [h]; rfl⟩
  | cons a l ih =>
      intro l'
      rw [List.mapM_cons, List.forall₂_cons_left_iff]
      simp only [Option.bind_eq_bind, Option.bind_eq_some_iff, Option.pure_def, Option.some.injEq]
      constructor
      · rintro ⟨b, hb, rest, hrest, rfl⟩
        exact ⟨b, rest, hb, ih.mp hrest, rfl⟩
      · rintro ⟨b, rest, hb, hrest, rfl⟩
        exact ⟨b, hb, rest, ih.mpr hrest, rfl⟩

theorem option_mapM_isSome_iff {f : α → Option β} {l : List α} :
    (l.mapM f).isSome = true ↔ ∀ a ∈ l, (f a).isSome = true := by
  induction l with
  | nil => simp
  | cons a l ih =>
      rw [List.mapM_cons, List.forall_mem_cons, ← ih]
      cases f a with
      | none => simp
      | some b => cases l.mapM f <;> simp

theorem option_mapM_congr {f g : α → Option β} {l : List α} (h : ∀ a ∈ l, f a = g a) :
    l.mapM f = l.mapM g := by
  induction l with
  | nil => rfl
  | cons a l ih =>
      obtain ⟨ha, hl⟩ := List.forall_mem_cons.mp h
      rw [List.mapM_cons, List.mapM_cons, ha, ih hl]

theorem except_bind_ok_iff {ε : Type} {x : Except ε α} {f : α → Except ε β} {b : β} :
    (x >>= f) = .ok b ↔ ∃ a, x = .ok a ∧ f a = .ok b := by
  cases x with
  | error e => simp [bind, Except.bind]
  | ok a => simp [bind, Except.bind]

theorem except_mapM_ok_iff {ε : Type} {f : α → Except ε β} {l : List α} : ∀ {l' : List β},
    l.mapM f = .ok l' ↔ List.Forall₂ (fun a b => f a = .ok b) l l' := by
  induction l with
  | nil =>
      intro l'
      rw [List.mapM_nil, List.forall₂_nil_left_iff]
      exact ⟨fun h => (Except.ok.inj h).symm, fun h => by rw [h]; rfl⟩
  | cons a l ih =>
      intro l'
      rw [List.mapM_cons, List.forall₂_cons_left_iff, except_bind_ok_iff]
      constructor
      · rintro ⟨b, hb, h⟩
        obtain ⟨rest, hrest, h⟩ := except_bind_ok_iff.mp h
        exact ⟨b, rest, hb, ih.mp hrest, (Except.ok.inj h).symm⟩
      · rintro ⟨b, rest, hb, hrest, rfl⟩
        exact ⟨b, hb, except_bind_ok_iff.mpr ⟨rest, ih.mpr hrest, rfl⟩⟩

/-! ### Relations between lists of different things -/

theorem forall₂_mem_left {T : α → β → Prop} {l : List α} {l' : List β}
    (h : List.Forall₂ T l l') {a : α} (ha : a ∈ l) : ∃ b ∈ l', T a b := by
  induction h with
  | nil => cases ha
  | cons hT _ ih =>
      rcases List.mem_cons.mp ha with rfl | ha
      · exact ⟨_, List.mem_cons_self, hT⟩
      · obtain ⟨b, hb, hab⟩ := ih ha
        exact ⟨b, List.mem_cons_of_mem _ hb, hab⟩

theorem forall₂_mem_right {T : α → β → Prop} {l : List α} {l' : List β}
    (h : List.Forall₂ T l l') {b : β} (hb : b ∈ l') : ∃ a ∈ l, T a b :=
  forall₂_mem_left h.flip hb

theorem forall₂_comp_iff {γ : Type} {T : α → β → Prop} {U : β → γ → Prop} {l : List α} :
    ∀ {l'' : List γ}, List.Forall₂ (fun a c => ∃ b, T a b ∧ U b c) l l'' ↔
      ∃ l', List.Forall₂ T l l' ∧ List.Forall₂ U l' l'' := by
  induction l with
  | nil =>
      intro l''
      simp only [List.forall₂_nil_left_iff, exists_eq_left]
  | cons a l ih =>
      intro l''
      simp only [List.forall₂_cons_left_iff, ih]
      constructor
      · rintro ⟨c, rest, ⟨b, hT, hU⟩, ⟨l', hl, hr⟩, rfl⟩
        exact ⟨b :: l', ⟨b, l', hT, hl, rfl⟩, .cons hU hr⟩
      · rintro ⟨_, ⟨b, l', hT, hl, rfl⟩, hr⟩
        obtain ⟨c, rest, hU, hrest, rfl⟩ := List.forall₂_cons_left_iff.mp hr
        exact ⟨c, rest, ⟨b, hT, hU⟩, ⟨l', hl, hrest⟩, rfl⟩

end GaiaOS
