/-!
# Words that are made of fields

A control word keeps several settings, each under a mask of its own.  A program
assigns one with `x |= v` and `x &= ~v`; what a mask reads of the word afterwards
depends on whether the two masks meet.  Nothing here mentions a particular program.

## Main results

* `field_set_off`, `field_clear_off` — an assignment that misses a field leaves it.
* `field_set_in`, `field_clear_all` — an assignment to a field that was cleared.
-/

namespace Itertk.Base.Flags

variable {w : Nat}

/-- The bits of `x` under a mask. -/
def field (x mask : BitVec w) : BitVec w := x &&& mask

/-- `x |= v`. -/
def set (x v : BitVec w) : BitVec w := x ||| v

/-- `x &= ~v`. -/
def clear (x v : BitVec w) : BitVec w := x &&& ~~~v

theorem field_set (x v mask : BitVec w) :
    field (set x v) mask = set (field x mask) (field v mask) := by
  unfold field set
  ext i hi
  simp only [BitVec.getElem_and, BitVec.getElem_or, Bool.and_or_distrib_right]

/-- Bits outside the mask do not change the field. -/
theorem field_set_off {x v mask : BitVec w} (h : field v mask = 0) :
    field (set x v) mask = field x mask := by
  rw [field_set, h]
  exact BitVec.or_zero

theorem field_clear_off {x v mask : BitVec w} (h : field v mask = 0) :
    field (clear x v) mask = field x mask := by
  unfold field clear at *
  ext i hi
  have hbit := congrArg (fun y => y[i]) h
  simp only [BitVec.getElem_and, BitVec.getElem_not] at hbit ⊢
  cases hv : v[i] <;> cases hm : mask[i] <;> simp_all

/-- Clearing at least the mask leaves nothing under it. -/
theorem field_clear_all {x v mask : BitVec w} (h : clear mask v = 0) :
    field (clear x v) mask = 0 := by
  unfold clear field at *
  rw [BitVec.and_assoc, BitVec.and_comm (~~~v), h]
  exact BitVec.and_zero

/-- Bits within one mask are outside every mask that the first does not meet. -/
theorem field_of_within {v own mask : BitVec w} (hv : field v own = v) (h : field own mask = 0) :
    field v mask = 0 := by
  unfold field at *
  rw [← hv, BitVec.and_assoc, h]
  exact BitVec.and_zero

/-- Two sets of bits are outside a mask exactly when each is. -/
theorem field_set_eq_zero_iff {a b mask : BitVec w} :
    field (set a b) mask = 0 ↔ field a mask = 0 ∧ field b mask = 0 := by
  rw [field_set]
  exact BitVec.or_eq_zero_iff

/-- Bits that were set are set. -/
theorem field_set_self (x v : BitVec w) : field (set x v) v = v := by
  unfold field set
  ext i hi
  simp only [BitVec.getElem_and, BitVec.getElem_or]
  cases x[i] <;> cases v[i] <;> rfl

/-- Bits of the mask that are set in an empty field are the field. -/
theorem field_set_in {x v mask : BitVec w} (hx : field x mask = 0) (hv : field v mask = v) :
    field (set x v) mask = v := by
  rw [field_set, hx, hv]
  exact BitVec.zero_or

end Itertk.Base.Flags
