import Mathlib.Logic.Function.Basic
import Mathlib.Tactic.SplitIfs

/-!
# A queue in a ring of slots

`n` slots and two positions: values are taken from `readPos` and put at `writePos`, and
each position moves on by one, from the last slot to the first.  The ring is empty when
the positions are equal, so that it holds fewer than `n` values.

`items` is the queue that the ring stands for.  Nothing here mentions a particular program.

## Main results

* `items_pop`, `items_pushAll` — the two operations on the queue.
-/

namespace Itertk.Base.Ring

/-- `n` slots with the two positions. -/
structure Buffer (α : Type) (n : Nat) where
  slots : Nat → α
  readPos : Nat
  writePos : Nat
  readPos_lt : readPos < n
  writePos_lt : writePos < n

variable {α : Type} {n : Nat}

/-- How many values wait. -/
def count (r : Buffer α n) : Nat :=
  if r.readPos ≤ r.writePos then r.writePos - r.readPos else r.writePos + n - r.readPos

/-- The values that wait, the next one first. -/
def items (r : Buffer α n) : List α :=
  (List.range (count r)).map fun i => r.slots ((r.readPos + i) % n)

/-- The next value. -/
def front (r : Buffer α n) : α := r.slots r.readPos

/-- The next value is gone. -/
def pop (r : Buffer α n) : Buffer α n where
  slots := r.slots
  readPos := (r.readPos + 1) % n
  writePos := r.writePos
  readPos_lt := Nat.mod_lt _ (Nat.zero_lt_of_lt r.readPos_lt)
  writePos_lt := r.writePos_lt

/-- One value more, behind the others. -/
def push (r : Buffer α n) (a : α) : Buffer α n where
  slots := Function.update r.slots r.writePos a
  readPos := r.readPos
  writePos := (r.writePos + 1) % n
  readPos_lt := r.readPos_lt
  writePos_lt := Nat.mod_lt _ (Nat.zero_lt_of_lt r.writePos_lt)

/-- Several values, one after the other. -/
def pushAll (r : Buffer α n) (as : List α) : Buffer α n := as.foldl push r

/-! ## Positions -/

/-- A position moves over the end at most once. -/
theorem mod_once {p : Nat} (h : p < 2 * n) : p % n = if p < n then p else p - n := by
  split_ifs with hp
  · exact Nat.mod_eq_of_lt hp
  · rw [Nat.mod_eq_sub_mod (by omega), Nat.mod_eq_of_lt (by omega)]

theorem length_items (r : Buffer α n) : (items r).length = count r := by
  rw [items, List.length_map, List.length_range]

theorem count_lt (r : Buffer α n) : count r < n := by
  have hr := r.readPos_lt
  have hw := r.writePos_lt
  rw [count]
  split_ifs <;> omega

private theorem count_eq_zero_iff (r : Buffer α n) : count r = 0 ↔ r.readPos = r.writePos := by
  have hr := r.readPos_lt
  rw [count]
  split_ifs <;> omega

theorem items_eq_nil_iff (r : Buffer α n) : items r = [] ↔ r.readPos = r.writePos := by
  rw [← List.length_eq_zero_iff, length_items, count_eq_zero_iff]

private theorem pop_readPos (r : Buffer α n) :
    (pop r).readPos = if r.readPos + 1 < n then r.readPos + 1 else r.readPos + 1 - n :=
  mod_once (by have := r.readPos_lt; omega)

private theorem push_writePos (r : Buffer α n) (a : α) :
    (push r a).writePos = if r.writePos + 1 < n then r.writePos + 1 else r.writePos + 1 - n :=
  mod_once (by have := r.writePos_lt; omega)

private theorem count_pop {r : Buffer α n} (h : r.readPos ≠ r.writePos) :
    count r = count (pop r) + 1 := by
  have hr := r.readPos_lt
  have hw := r.writePos_lt
  have hpos := pop_readPos r
  have hsame : (pop r).writePos = r.writePos := rfl
  rw [count, count, hsame]
  split_ifs at hpos ⊢ <;> omega

theorem count_push {r : Buffer α n} (h : count r + 1 < n) (a : α) :
    count (push r a) = count r + 1 := by
  have hr := r.readPos_lt
  have hw := r.writePos_lt
  have hpos := push_writePos r a
  have hsame : (push r a).readPos = r.readPos := rfl
  rw [count] at h
  rw [count, count, hsame]
  split_ifs at h hpos ⊢ <;> omega

/-! ## The queue -/

/-- Taking takes from the front of the queue. -/
theorem items_pop {r : Buffer α n} (h : r.readPos ≠ r.writePos) :
    items r = front r :: items (pop r) := by
  have hr := r.readPos_lt
  have hlt := count_lt (pop r)
  rw [items, count_pop h, List.range_succ_eq_map, List.map_cons, List.map_map, Nat.add_zero,
    Nat.mod_eq_of_lt hr]
  congr 1
  rw [items]
  refine List.map_congr_left fun i hi => ?_
  have hi := List.mem_range.mp hi
  show r.slots ((r.readPos + (i + 1)) % n) = r.slots (((r.readPos + 1) % n + i) % n)
  rw [Nat.mod_add_mod, Nat.add_assoc, Nat.add_comm 1 i]

/-- The slot that is written holds no value that waits. -/
theorem writePos_ne {r : Buffer α n} {i : Nat} (hi : i < count r) :
    (r.readPos + i) % n ≠ r.writePos := by
  have hr := r.readPos_lt
  have hw := r.writePos_lt
  have hlt := count_lt r
  rw [count] at hi hlt
  rw [mod_once (by omega)]
  split_ifs at hi hlt ⊢ <;> omega

/-- The position for the next value is as many slots on as values wait. -/
theorem readPos_add_count (r : Buffer α n) : (r.readPos + count r) % n = r.writePos := by
  have hr := r.readPos_lt
  have hw := r.writePos_lt
  have hlt := count_lt r
  rw [mod_once (by omega)]
  rw [count] at hlt ⊢
  split_ifs at hlt ⊢ <;> omega

/-- Putting puts behind the queue. -/
theorem items_push {r : Buffer α n} (h : count r + 1 < n) (a : α) :
    items (push r a) = items r ++ [a] := by
  rw [items, count_push h, List.range_succ, List.map_append, List.map_singleton]
  congr 1
  · rw [items]
    refine List.map_congr_left fun i hi => ?_
    exact Function.update_of_ne (writePos_ne (List.mem_range.mp hi)) a r.slots
  · show [Function.update r.slots r.writePos a ((r.readPos + count r) % n)] = [a]
    rw [readPos_add_count, Function.update_self]

theorem items_pushAll {r : Buffer α n} (as : List α) (h : count r + as.length < n) :
    items (pushAll r as) = items r ++ as := by
  induction as generalizing r with
  | nil => exact (List.append_nil _).symm
  | cons a as ih =>
      rw [List.length_cons] at h
      have hpush := count_push (r := r) (by omega) a
      rw [pushAll, List.foldl_cons]
      exact (ih (by omega)).trans (by rw [items_push (by omega), List.append_assoc]; rfl)

end Itertk.Base.Ring
