import Mathlib.Logic.Function.Basic

/-!
# Tables with a fixed number of slots

A table of `n` slots holds a value in each; one value, `vacant`, marks a free
slot.  Lookup is by the first slot with a property, and an operation puts a value
into one slot (`Function.update`).  What is beyond slot `n` does not matter:
`SameBelow` is equality of tables.

## Main results

* `firstSlot_eq_some_iff`, `firstSlot_eq_none_iff` — what a lookup finds.
* `distinct_update_iff` — when writing one slot keeps the values of a table
  distinct.
-/

namespace Itertk.Base.Slots

variable {α : Type}

/-! ## Lookup -/

/-- The first of `n` slots with the property. -/
def firstSlot (n : Nat) (p : Nat → Bool) : Option Nat := (List.range n).find? p

theorem firstSlot_eq_some_iff {n i : Nat} {p : Nat → Bool} :
    firstSlot n p = some i ↔ i < n ∧ p i = true ∧ ∀ j, j < i → p j = false := by
  rw [firstSlot, List.find?_range_eq_some, List.mem_range]
  simp only [Bool.not_eq_true']
  constructor
  · rintro ⟨hp, hi, hbefore⟩
    exact ⟨hi, hp, hbefore⟩
  · rintro ⟨hi, hp, hbefore⟩
    exact ⟨hp, hi, hbefore⟩

theorem firstSlot_eq_none_iff {n : Nat} {p : Nat → Bool} :
    firstSlot n p = none ↔ ∀ i, i < n → p i = false := by
  rw [firstSlot, List.find?_range_eq_none]
  simp only [Bool.not_eq_true']

/-- A lookup looks at the `n` slots only. -/
theorem firstSlot_congr {n : Nat} {p q : Nat → Bool} (h : ∀ i, i < n → p i = q i) :
    firstSlot n p = firstSlot n q := by
  cases hq : firstSlot n q with
  | none =>
      rw [firstSlot_eq_none_iff] at hq ⊢
      intro i hi
      rw [h i hi]
      exact hq i hi
  | some i =>
      rw [firstSlot_eq_some_iff] at hq ⊢
      obtain ⟨hi, hp, hbefore⟩ := hq
      refine ⟨hi, by rw [h i hi]; exact hp, fun j hj => ?_⟩
      rw [h j (by omega)]
      exact hbefore j hj

/-- It looks at the slots up to what it finds. -/
theorem firstSlot_upTo {n : Nat} {p q : Nat → Bool}
    (h : ∀ i, i < min ((firstSlot n p).getD n + 1) n → p i = q i) :
    firstSlot n p = firstSlot n q := by
  cases hp : firstSlot n p with
  | none =>
      rw [hp, Option.getD_none] at h
      have hall := firstSlot_eq_none_iff.mp hp
      refine (firstSlot_eq_none_iff.mpr fun i hi => ?_).symm
      rw [← h i (by omega)]
      exact hall i hi
  | some k =>
      rw [hp, Option.getD_some] at h
      obtain ⟨hk, hfound, hbefore⟩ := firstSlot_eq_some_iff.mp hp
      refine (firstSlot_eq_some_iff.mpr ⟨hk, ?_, fun i hi => ?_⟩).symm
      · rw [← h k (by omega)]
        exact hfound
      · rw [← h i (by omega)]
        exact hbefore i hi

/-! ## Writing one slot -/

/-- The two tables hold the same values. -/
def SameBelow (n : Nat) (t t' : Nat → α) : Prop := ∀ i, i < n → t i = t' i

theorem SameBelow.symm {n : Nat} {t t' : Nat → α} (h : SameBelow n t t') : SameBelow n t' t :=
  fun i hi => (h i hi).symm

theorem SameBelow.trans {n : Nat} {t t' t'' : Nat → α} (h : SameBelow n t t')
    (h' : SameBelow n t' t'') : SameBelow n t t'' :=
  fun i hi => (h i hi).trans (h' i hi)

theorem SameBelow.update {n : Nat} {t t' : Nat → α} (h : SameBelow n t t') (i : Nat) (x : α) :
    SameBelow n (Function.update t i x) (Function.update t' i x) := by
  intro j hj
  by_cases hji : j = i
  · rw [hji, Function.update_self, Function.update_self]
  · rw [Function.update_of_ne hji, Function.update_of_ne hji, h j hj]

/-! ## Distinct values -/

/-- No two slots hold the same value, the vacant one apart. -/
def Distinct (n : Nat) (vacant : α) (t : Nat → α) : Prop :=
  ∀ i j, i < n → j < n → t i ≠ vacant → t i = t j → i = j

theorem Distinct.congr {n : Nat} {vacant : α} {t t' : Nat → α} (h : SameBelow n t t') :
    Distinct n vacant t ↔ Distinct n vacant t' := by
  constructor
  · intro hd i j hi hj
    rw [← h i hi, ← h j hj]
    exact hd i j hi hj
  · intro hd i j hi hj
    rw [h i hi, h j hj]
    exact hd i j hi hj

/-- A value written into one slot keeps a table distinct exactly when it is the
vacant one or no other slot holds it. -/
theorem distinct_update_iff {n : Nat} {vacant : α} {t : Nat → α} (h : Distinct n vacant t)
    {i : Nat} (hi : i < n) (x : α) :
    Distinct n vacant (Function.update t i x) ↔
      x = vacant ∨ ∀ j, j < n → j ≠ i → t j ≠ x := by
  constructor
  · intro hd
    by_cases hx : x = vacant
    · exact .inl hx
    · refine .inr fun j hj hji hsame => hji ?_
      apply hd j i hj hi
      · rw [Function.update_of_ne hji, hsame]
        exact hx
      · rw [Function.update_of_ne hji, Function.update_self, hsame]
  · intro hx j k hj hk hne hsame
    by_cases hji : j = i
    · by_cases hki : k = i
      · rw [hji, hki]
      · rw [hji, Function.update_self] at hne
        rw [hji, Function.update_self, Function.update_of_ne hki] at hsame
        rcases hx with hx | hx
        · exact absurd hx hne
        · exact absurd hsame.symm (hx k hk hki)
    · rw [Function.update_of_ne hji] at hne hsame
      by_cases hki : k = i
      · rw [hki, Function.update_self] at hsame
        rcases hx with hx | hx
        · exact absurd (hsame.trans hx) hne
        · exact absurd hsame (hx j hj hji)
      · rw [Function.update_of_ne hki] at hsame
        exact h j k hj hk hne hsame

end Itertk.Base.Slots
