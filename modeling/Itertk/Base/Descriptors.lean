/-!
# Descriptor tables

A process has a table of open descriptors.  `κ` tells what kind of thing a descriptor
stands for.  A call that opens something returns a number that is not in use; closing a
number that is not in use changes nothing.

Resource properties count the descriptors of one kind: there are none, or there is exactly one.

## Main results

* `closed_opened` — opening and closing again leaves the table as it was.
* `NoneOf.opened`, `OnlyOf.closed` — the first descriptor of a kind, and the last.
-/

namespace Itertk.Base.Descriptors

variable {κ : Type}

/-- What is open under each number. -/
abbrev Table (κ : Type) := Int → Option κ

/-- Nothing is open. -/
def empty : Table κ := fun _ => none

/-- `fd` is opened. -/
def opened (t : Table κ) (fd : Int) (k : κ) : Table κ := fun x => if x = fd then some k else t x

/-- `close(fd)`. -/
def closed (t : Table κ) (fd : Int) : Table κ := fun x => if x = fd then none else t x

/-- A call that returns the descriptor `r`, or a negative number when it fails. -/
def result (t : Table κ) (r : Int) (k : κ) : Table κ := if r < 0 then t else opened t r k

/-- What such a call promises: the number is not in use. -/
def Fresh (t : Table κ) (r : Int) : Prop := r < 0 ∨ t r = none

instance (t : Table κ) (r : Int) : Decidable (Fresh t r) := inferInstanceAs (Decidable (_ ∨ _))

variable {t : Table κ} {fd fd' : Int} {k k' : κ}

@[simp] theorem opened_self (t : Table κ) (fd : Int) (k : κ) : opened t fd k fd = some k :=
  if_pos rfl

theorem opened_ne (t : Table κ) (k : κ) (h : fd' ≠ fd) : opened t fd k fd' = t fd' := if_neg h

@[simp] theorem closed_self (t : Table κ) (fd : Int) : closed t fd fd = none := if_pos rfl

theorem closed_ne (t : Table κ) (h : fd' ≠ fd) : closed t fd fd' = t fd' := if_neg h

theorem result_failed (t : Table κ) {r : Int} (k : κ) (h : r < 0) : result t r k = t := if_pos h

theorem result_opened (t : Table κ) {r : Int} (k : κ) (h : 0 ≤ r) :
    result t r k = opened t r k := if_neg (Int.not_lt.mpr h)

/-- Closing a number that is not in use. -/
theorem closed_unused (h : t fd = none) : closed t fd = t := by
  funext x
  by_cases hx : x = fd
  · rw [hx, closed_self, h]
  · exact closed_ne t hx

/-- What was opened under a fresh number and closed again has left no trace. -/
theorem closed_opened (h : t fd = none) : closed (opened t fd k) fd = t := by
  funext x
  by_cases hx : x = fd
  · rw [hx, closed_self, h]
  · rw [closed_ne _ hx, opened_ne _ _ hx]

/-- An open descriptor is no fresh one. -/
theorem ne_of_fresh {r : Int} (hr : t r = none) (hfd : t fd = some k) : fd ≠ r := by
  rintro rfl
  rw [hr] at hfd
  cases hfd

/-! ## Counting one kind -/

/-- No descriptor of the kind is open. -/
def NoneOf (t : Table κ) (k : κ) : Prop := ∀ x, t x ≠ some k

/-- `fd` is the only one. -/
def OnlyOf (t : Table κ) (k : κ) (fd : Int) : Prop := ∀ x, t x = some k ↔ x = fd

theorem NoneOf.closed (h : NoneOf t k) (fd : Int) : NoneOf (closed t fd) k := by
  intro x
  by_cases hx : x = fd
  · rw [hx, closed_self]
    nofun
  · rw [closed_ne t hx]
    exact h x

/-- Opening the first of a kind. -/
theorem NoneOf.opened (h : NoneOf t k) (fd : Int) : OnlyOf (opened t fd k) k fd := by
  intro x
  by_cases hx : x = fd
  · rw [hx]
    exact iff_of_true (opened_self t fd k) rfl
  · rw [opened_ne t k hx]
    exact iff_of_false (h x) hx

/-- Opening something else. -/
theorem NoneOf.opened_other (h : NoneOf t k) (fd : Int) (hk : k' ≠ k) :
    NoneOf (Descriptors.opened t fd k') k := by
  intro x
  by_cases hx : x = fd
  · rw [hx, opened_self]
    exact fun heq => hk (Option.some.inj heq)
  · rw [opened_ne t k' hx]
    exact h x

/-- The same of a call that may fail. -/
theorem NoneOf.result_other (h : NoneOf t k) (r : Int) (hk : k' ≠ k) :
    NoneOf (result t r k') k := by
  by_cases hr : r < 0
  · rw [result_failed t k' hr]
    exact h
  · rw [result_opened t k' (Int.not_lt.mp hr)]
    exact h.opened_other r hk

/-- Opening something else under another number. -/
theorem OnlyOf.result_other (h : OnlyOf t k fd) {r : Int} (hr : fd ≠ r) (hk : k' ≠ k) :
    OnlyOf (result t r k') k fd := by
  by_cases hneg : r < 0
  · rw [result_failed t k' hneg]
    exact h
  · rw [result_opened t k' (Int.not_lt.mp hneg)]
    intro x
    by_cases hx : x = r
    · rw [hx, opened_self]
      exact iff_of_false (fun heq => hk (Option.some.inj heq)) fun heq => hr heq.symm
    · rw [opened_ne t k' hx]
      exact h x

/-- Closing another number. -/
theorem OnlyOf.closed_other (h : OnlyOf t k fd) {r : Int} (hr : fd ≠ r) :
    OnlyOf (Descriptors.closed t r) k fd := by
  intro x
  by_cases hx : x = r
  · rw [hx, closed_self]
    exact iff_of_false nofun fun heq => hr heq.symm
  · rw [closed_ne t hx]
    exact h x

/-- Closing the only one of a kind. -/
theorem OnlyOf.closed (h : OnlyOf t k fd) : NoneOf (Descriptors.closed t fd) k := by
  intro x
  by_cases hx : x = fd
  · rw [hx, closed_self]
    nofun
  · rw [closed_ne t hx]
    exact fun heq => hx ((h x).mp heq)

end Itertk.Base.Descriptors
