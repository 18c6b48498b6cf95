/-!
# Flat byte memory

A C object is a run of bytes at an address, and a C program that indexes past
the end of an array reads or writes whatever lies there.  To keep that visible
a memory region is modelled as the *total* function from offsets to bytes:
`store` is one assignment, `blit` is `memcpy` into the region, `slice` is
`memcpy` out of it, and `shift` is pointer arithmetic.

Every reasoning step is one of two facts per operation: the offset is hit, or
it is missed (`store_self` / `store_ne`, `blit_hit` / `blit_before` /
`blit_after`).  Nothing here mentions a particular program.

## Main results

* `blit_hit`, `blit_before`, `blit_after` — the three readings of a `memcpy`.
* `slice_blit_self`, `slice_blit_disjoint` — copying out what was copied in, and
  the frame property of a copy.
* `word32_le32`, `le32_word32` — the little-endian codec of a 32-bit word.
* `AgreeBelow.blit` — two regions that received the same bytes agree on them.
-/

namespace Itertk.Base.Memory

/-- A memory region: the byte at every offset. -/
abbrev Mem := Nat → UInt8

/-- The region that holds zero everywhere (`.bss` before the program starts). -/
def zero : Mem := fun _ => 0

/-- `m[i] = v`. -/
def store (m : Mem) (i : Nat) (v : UInt8) : Mem := fun k => if k = i then v else m k

/-- `memcpy(m + off, bytes, length)`. -/
def blit (m : Mem) (off : Nat) (bytes : List UInt8) : Mem :=
  fun k => if off ≤ k then (bytes[k - off]?).getD (m k) else m k

/-- `memset(m + off, v, n)`; `bzero` is the case `v = 0`. -/
def fill (m : Mem) (off n : Nat) (v : UInt8) : Mem :=
  fun k => if off ≤ k ∧ k < off + n then v else m k

/-- The `n` bytes at `m + off`. -/
def slice (m : Mem) (off n : Nat) : List UInt8 := (List.range n).map fun i => m (off + i)

/-- The region seen from the pointer `m + off`. -/
def shift (m : Mem) (off : Nat) : Mem := fun k => m (off + k)

/-! ## One byte -/

@[simp] theorem shift_apply (m : Mem) (off k : Nat) : shift m off k = m (off + k) := rfl

theorem store_apply (m : Mem) (i k : Nat) (v : UInt8) :
    store m i v k = if k = i then v else m k := rfl

@[simp] theorem store_self (m : Mem) (i : Nat) (v : UInt8) : store m i v i = v := by
  simp [store]

theorem fill_apply (m : Mem) (off n k : Nat) (v : UInt8) :
    fill m off n v k = if off ≤ k ∧ k < off + n then v else m k := rfl

theorem blit_apply (m : Mem) (off k : Nat) (bytes : List UInt8) :
    blit m off bytes k = if off ≤ k then (bytes[k - off]?).getD (m k) else m k := rfl

theorem store_ne (m : Mem) (v : UInt8) {i k : Nat} (h : k ≠ i) : store m i v k = m k := by
  simp [store, h]

theorem fill_before (m : Mem) (n : Nat) (v : UInt8) {off k : Nat} (h : k < off) :
    fill m off n v k = m k :=
  if_neg (by omega)

/-! ## Blocks of bytes -/

/-- Inside the copied block the new bytes are read. -/
theorem blit_hit (m : Mem) (off i : Nat) (bytes : List UInt8) (h : i < bytes.length) :
    blit m off bytes (off + i) = bytes[i] := by
  simp [blit, h]

theorem blit_of_getElem? (m : Mem) (off : Nat) {i : Nat} {bytes : List UInt8} {v : UInt8}
    (h : bytes[i]? = some v) : blit m off bytes (off + i) = v := by
  simp [blit, h]

/-- Below the copied block nothing changes. -/
theorem blit_before (m : Mem) (bytes : List UInt8) {off k : Nat} (h : k < off) :
    blit m off bytes k = m k := by
  simp [blit, Nat.not_le.mpr h]

/-- Above the copied block nothing changes. -/
theorem blit_after (m : Mem) (bytes : List UInt8) {off k : Nat}
    (h : off + bytes.length ≤ k) : blit m off bytes k = m k := by
  have hle : bytes.length ≤ k - off := by omega
  simp [blit, List.getElem?_eq_none hle]

/-- Outside the copied block nothing changes. -/
theorem blit_outside (m : Mem) (bytes : List UInt8) {off k : Nat}
    (h : k < off ∨ off + bytes.length ≤ k) : blit m off bytes k = m k := by
  rcases h with h | h
  · exact blit_before m bytes h
  · exact blit_after m bytes h

theorem blit_nil (m : Mem) (off : Nat) : blit m off [] = m := by
  funext k
  exact blit_outside m [] (by rw [List.length_nil]; omega)

/-- Two copies, the second where the first ended, are one. -/
theorem blit_append (m : Mem) (off : Nat) (a b : List UInt8) :
    blit (blit m off a) (off + a.length) b = blit m off (a ++ b) := by
  funext k
  by_cases hout : k < off ∨ off + (a ++ b).length ≤ k
  · rw [blit_outside m _ hout]
    rw [List.length_append] at hout
    rw [blit_outside _ b (by omega), blit_outside m a (by omega)]
  · obtain ⟨i, rfl⟩ : ∃ i, k = off + i := ⟨k - off, by omega⟩
    have hi : i < (a ++ b).length := by omega
    rw [blit_hit m off i _ hi]
    by_cases ha : i < a.length
    · rw [blit_before _ b (by omega), blit_hit m off i a ha, List.getElem_append_left ha]
    · have hb : i - a.length < b.length := by
        rw [List.length_append] at hi
        omega
      have hk : off + i = off + a.length + (i - a.length) := by omega
      rw [hk, blit_hit _ (off + a.length) (i - a.length) b hb,
        List.getElem_append_right (Nat.not_lt.mp ha)]

/-- One assignment is a copy of one byte. -/
theorem store_eq_blit (m : Mem) (i : Nat) (v : UInt8) : store m i v = blit m i [v] := by
  funext k
  by_cases hk : k = i
  · subst hk
    rw [store_self]
    exact (blit_of_getElem? m k (show [v][0]? = some v from rfl)).symm
  · rw [store_ne m v hk, blit_outside m [v] (by rw [List.length_singleton]; omega)]

/-- Two copies, the second in front of the first, are one. -/
theorem blit_front (m : Mem) (off : Nat) (a b : List UInt8) :
    blit (blit m (off + a.length) b) off a = blit m off (a ++ b) := by
  funext k
  by_cases hout : k < off ∨ off + (a ++ b).length ≤ k
  · rw [blit_outside m _ hout]
    rw [List.length_append] at hout
    rw [blit_outside _ a (by omega), blit_outside m b (by omega)]
  · obtain ⟨i, rfl⟩ : ∃ i, k = off + i := ⟨k - off, by omega⟩
    have hi : i < (a ++ b).length := by omega
    rw [blit_hit m off i _ hi]
    by_cases ha : i < a.length
    · rw [blit_hit _ off i a ha, List.getElem_append_left ha]
    · have hb : i - a.length < b.length := by
        rw [List.length_append] at hi
        omega
      have hk : off + i = off + a.length + (i - a.length) := by omega
      rw [blit_after _ a (by omega), hk, blit_hit m (off + a.length) (i - a.length) b hb,
        List.getElem_append_right (Nat.not_lt.mp ha)]

/-- One byte stored in front of a copy. -/
theorem store_front (m : Mem) (off : Nat) (v : UInt8) (b : List UInt8) :
    store (blit m (off + 1) b) off v = blit m off (v :: b) := by
  rw [store_eq_blit]
  exact blit_front m off [v] b

/-- One byte stored behind a copy. -/
theorem store_behind (m : Mem) (off : Nat) (a : List UInt8) (v : UInt8) :
    store (blit m off a) (off + a.length) v = blit m off (a ++ [v]) := by
  rw [store_eq_blit, blit_append]

@[simp] theorem slice_length (m : Mem) (off n : Nat) : (slice m off n).length = n := by
  simp [slice]

@[simp] theorem getElem_slice (m : Mem) (off n i : Nat) (h : i < (slice m off n).length) :
    (slice m off n)[i] = m (off + i) := by
  simp [slice]

theorem getElem?_slice (m : Mem) (off n i : Nat) :
    (slice m off n)[i]? = if i < n then some (m (off + i)) else none := by
  by_cases h : i < n <;> simp [slice, h]

theorem slice_zero (m : Mem) (off : Nat) : slice m off 0 = [] := rfl

/-- A block is its first byte and the rest. -/
theorem slice_succ (m : Mem) (off n : Nat) :
    slice m off (n + 1) = m off :: slice m (off + 1) n := by
  rw [slice, List.range_succ_eq_map, List.map_cons, List.map_map]
  congr 1
  apply List.map_congr_left
  intro i _
  show m (off + (i + 1)) = m (off + 1 + i)
  rw [Nat.add_comm i 1, Nat.add_assoc]

theorem slice_add (m : Mem) (off a b : Nat) :
    slice m off (a + b) = slice m off a ++ slice m (off + a) b := by
  rw [slice, List.range_add, List.map_append, List.map_map]
  congr 1
  apply List.map_congr_left
  intro i _
  show m (off + (a + i)) = m (off + a + i)
  rw [Nat.add_assoc]

/-- A region is cut in two. -/
theorem slice_split (m : Mem) (off : Nat) {k n : Nat} (h : k ≤ n) :
    slice m off n = slice m off k ++ slice m (off + k) (n - k) := by
  rw [← slice_add, Nat.add_sub_cancel' h]

theorem take_slice (m : Mem) (off : Nat) {k n : Nat} (h : k ≤ n) :
    (slice m off n).take k = slice m off k := by
  rw [slice_split m off h, List.take_left' (slice_length m off k)]

theorem drop_slice (m : Mem) (off : Nat) {k n : Nat} (h : k ≤ n) :
    (slice m off n).drop k = slice m (off + k) (n - k) := by
  rw [slice_split m off h, List.drop_left' (slice_length m off k)]

/-- Two blocks are equal exactly when they agree byte by byte. -/
theorem slice_eq_iff (m m' : Mem) (off off' n : Nat) :
    slice m off n = slice m' off' n ↔ ∀ i, i < n → m (off + i) = m' (off' + i) := by
  simp [slice]

/-- A block holds a list exactly when it does so element by element. -/
theorem slice_eq_iff_getElem? (m : Mem) (off : Nat) (l : List UInt8) :
    slice m off l.length = l ↔ ∀ i v, l[i]? = some v → m (off + i) = v := by
  constructor
  · intro h i v hv
    obtain ⟨hi, -⟩ := List.getElem?_eq_some_iff.mp hv
    rw [← h, getElem?_slice, if_pos hi] at hv
    exact Option.some.inj hv
  · intro h
    apply List.ext_getElem
    · exact slice_length m off l.length
    · intro i _ hi
      rw [getElem_slice]
      exact h i _ (List.getElem?_eq_getElem hi)

theorem slice_shift (m : Mem) (off n : Nat) : slice (shift m off) 0 n = slice m off n := by
  rw [slice_eq_iff]
  intro i _
  rw [shift_apply, Nat.zero_add]

/-- Copying out the block that was just copied in. -/
theorem slice_blit_self (m : Mem) (off : Nat) (bytes : List UInt8) :
    slice (blit m off bytes) off bytes.length = bytes := by
  apply List.ext_getElem
  · simp
  · intro i _ hi
    rw [getElem_slice, blit_hit m off i bytes hi]

/-- Copying into one block leaves a disjoint block alone. -/
theorem slice_blit_disjoint (m : Mem) (bytes : List UInt8) {off off' n : Nat}
    (h : off' + n ≤ off ∨ off + bytes.length ≤ off') :
    slice (blit m off bytes) off' n = slice m off' n := by
  rw [slice_eq_iff]
  intro i hi
  exact blit_outside m bytes (by omega)

/-! ## Agreement of two regions -/

/-- The two regions hold the same first `n` bytes. -/
def AgreeBelow (n : Nat) (m m' : Mem) : Prop := ∀ i, i < n → m i = m' i

theorem AgreeBelow.refl (n : Nat) (m : Mem) : AgreeBelow n m m := fun _ _ => rfl

theorem AgreeBelow.symm {n : Nat} {m m' : Mem} (h : AgreeBelow n m m') : AgreeBelow n m' m :=
  fun i hi => (h i hi).symm

/-- Whatever two regions held before, they agree on the bytes copied into both. -/
theorem AgreeBelow.blit (m m' : Mem) (bytes : List UInt8) :
    AgreeBelow bytes.length (blit m 0 bytes) (blit m' 0 bytes) := by
  intro i hi
  have h := blit_hit m 0 i bytes hi
  have h' := blit_hit m' 0 i bytes hi
  rw [Nat.zero_add] at h h'
  rw [h, h']

/-- A region that agrees with a copied block is that copy of some region. -/
theorem AgreeBelow.eq_blit {m m' : Mem} {bytes : List UInt8}
    (h : AgreeBelow bytes.length m (Memory.blit m' 0 bytes)) : Memory.blit m 0 bytes = m := by
  funext k
  by_cases hk : k < bytes.length
  · rw [(AgreeBelow.blit m m' bytes) k hk, ← h k hk]
  · exact blit_after m bytes (by omega)

theorem AgreeBelow.slice {n : Nat} {m m' : Mem} (h : AgreeBelow n m m') {off k : Nat}
    (hk : off + k ≤ n) : slice m off k = slice m' off k := by
  rw [slice_eq_iff]
  intro i hi
  exact h (off + i) (by omega)

/-! ## Little-endian 32-bit words -/

/-- The value of four bytes, least significant first. -/
def word32 (b₀ b₁ b₂ b₃ : UInt8) : UInt32 :=
  b₀.toUInt32 + 0x100 * b₁.toUInt32 + 0x10000 * b₂.toUInt32 + 0x1000000 * b₃.toUInt32

/-- The four bytes of a 32-bit word, least significant first. -/
def le32 (x : UInt32) : List UInt8 :=
  [x.toUInt8, (x / 0x100).toUInt8, (x / 0x10000).toUInt8, (x / 0x1000000).toUInt8]

/-- The 32-bit word stored at `m + off`. -/
def load32 (m : Mem) (off : Nat) : UInt32 :=
  word32 (m off) (m (off + 1)) (m (off + 2)) (m (off + 3))

@[simp] theorem le32_length (x : UInt32) : (le32 x).length = 4 := rfl

theorem word32_toNat (b₀ b₁ b₂ b₃ : UInt8) :
    (word32 b₀ b₁ b₂ b₃).toNat =
      b₀.toNat + 256 * b₁.toNat + 65536 * b₂.toNat + 16777216 * b₃.toNat := by
  have h₀ := b₀.toNat_lt
  have h₁ := b₁.toNat_lt
  have h₂ := b₂.toNat_lt
  have h₃ := b₃.toNat_lt
  simp only [word32, UInt32.toNat_add, UInt32.toNat_mul, UInt8.toNat_toUInt32,
    UInt32.reduceToNat]
  omega

/-- A word is recovered from its bytes. -/
theorem word32_le32 (x : UInt32) :
    word32 x.toUInt8 (x / 0x100).toUInt8 (x / 0x10000).toUInt8 (x / 0x1000000).toUInt8 = x := by
  apply UInt32.toNat_inj.mp
  have hx := x.toNat_lt
  simp only [word32_toNat, UInt32.toNat_toUInt8, UInt32.toNat_div, UInt32.reduceToNat]
  omega

/-- Four bytes are recovered from the word they make. -/
theorem le32_word32 (b₀ b₁ b₂ b₃ : UInt8) : le32 (word32 b₀ b₁ b₂ b₃) = [b₀, b₁, b₂, b₃] := by
  have h₀ := b₀.toNat_lt
  have h₁ := b₁.toNat_lt
  have h₂ := b₂.toNat_lt
  have h₃ := b₃.toNat_lt
  simp only [le32, List.cons.injEq, and_true, ← UInt8.toNat_inj, UInt32.toNat_toUInt8,
    UInt32.toNat_div, word32_toNat, UInt32.reduceToNat]
  omega

/-- The word read at an offset depends on its four bytes only. -/
theorem load32_congr {m m' : Mem} {off off' : Nat}
    (h : ∀ i, i < 4 → m (off + i) = m' (off' + i)) : load32 m off = load32 m' off' := by
  have h₀ := h 0 (by omega)
  have h₁ := h 1 (by omega)
  have h₂ := h 2 (by omega)
  have h₃ := h 3 (by omega)
  simp only [Nat.add_zero] at h₀
  simp only [load32, h₀, h₁, h₂, h₃]

theorem load32_blit_before (m : Mem) (bytes : List UInt8) {off k : Nat} (h : k + 4 ≤ off) :
    load32 (blit m off bytes) k = load32 m k :=
  load32_congr fun i hi => blit_before m bytes (by omega)

/-! ## Counted loops -/

/-- `for (j = 0; j < n; j++) a = body(j, a)`. -/
def forUpTo {α : Type} (n : Nat) (body : Nat → α → α) (a : α) : α :=
  match n with
  | 0 => a
  | n + 1 => body n (forUpTo n body a)

@[simp] theorem forUpTo_zero {α : Type} (body : Nat → α → α) (a : α) :
    forUpTo 0 body a = a := rfl

theorem forUpTo_succ {α : Type} (n : Nat) (body : Nat → α → α) (a : α) :
    forUpTo (n + 1) body a = body n (forUpTo n body a) := rfl

/-- A property that every round of the loop keeps holds when it ends. -/
theorem forUpTo_invariant {α : Type} {body : Nat → α → α} (P : Nat → α → Prop) {a : α}
    (h0 : P 0 a) (n : Nat) (hstep : ∀ j, j < n → ∀ x, P j x → P (j + 1) (body j x)) :
    P n (forUpTo n body a) := by
  induction n with
  | zero => exact h0
  | succ n ih =>
      have hn := ih fun j hj => hstep j (by omega)
      exact hstep n (by omega) _ hn

/-- What every round of the loop leaves alone is as before when it ends. -/
theorem forUpTo_keeps {α β : Type} (g : α → β) {body : Nat → α → α} (a : α) (n : Nat)
    (h : ∀ j, j < n → ∀ x, g (body j x) = g x) : g (forUpTo n body a) = g a := by
  induction n with
  | zero => rfl
  | succ n ih => rw [forUpTo_succ, h n (by omega), ih fun j hj => h j (by omega)]

/-- Two loops whose bodies agree on every round agree. -/
theorem forUpTo_congr {α : Type} {f g : Nat → α → α} (a : α) (n : Nat)
    (h : ∀ j, j < n → ∀ x, f j x = g j x) : forUpTo n f a = forUpTo n g a := by
  induction n with
  | zero => rfl
  | succ n ih =>
      rw [forUpTo_succ, forUpTo_succ, ih fun j hj => h j (by omega), h n (by omega)]

/-- A loop that copies byte after byte. -/
theorem forUpTo_copy (m x : Mem) (off n : Nat) :
    forUpTo n (fun i m => store m (off + i) (x i)) m = blit m off (slice x 0 n) := by
  induction n with
  | zero => exact (blit_nil m off).symm
  | succ n ih =>
      have hlast := store_behind m off (slice x 0 n) (x n)
      rw [slice_length] at hlast
      rw [forUpTo_succ, ih, hlast, slice_add, slice_succ, slice_zero, Nat.zero_add]

end Itertk.Base.Memory
