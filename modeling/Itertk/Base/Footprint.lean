import Itertk.Base.Memory

/-!
# Where a writer writes

A C function that fills a buffer is a map of memory regions.  It keeps to the offsets from
`lo` to `hi` if every region comes back as it was outside them; the statement is about all
regions, so that a write that happens to put back the old byte still counts.  Nothing here
mentions a particular program.

## Main results

* `AgreeOutside.store`, `AgreeOutside.blit`, `AgreeOutside.forUpTo` — writes between the two
  offsets.
* `Overwrites.bounds` — a byte that is overwritten lies between them.
-/

namespace Itertk.Base.Footprint

open Itertk.Base.Memory

/-- The regions are equal below `lo` and from `hi` on. -/
def AgreeOutside (lo hi : Nat) (m m' : Mem) : Prop := ∀ k, k < lo ∨ hi ≤ k → m' k = m k

/-- What `f` puts at offset `k` does not depend on the region it is given. -/
def Overwrites (k : Nat) (f : Mem → Mem) : Prop := ∃ v, ∀ m, f m k = v

variable {lo hi : Nat} {m m' : Mem}

/-! ## Writes between two offsets -/

theorem AgreeOutside.refl (lo hi : Nat) (m : Mem) : AgreeOutside lo hi m m := fun _ _ => rfl

theorem AgreeOutside.trans {m'' : Mem} (h : AgreeOutside lo hi m m')
    (h' : AgreeOutside lo hi m' m'') : AgreeOutside lo hi m m'' :=
  fun k hk => (h' k hk).trans (h k hk)

theorem AgreeOutside.mono (h : AgreeOutside lo hi m m') {lo' hi' : Nat} (hlo : lo' ≤ lo)
    (hhi : hi ≤ hi') : AgreeOutside lo' hi' m m' :=
  fun k hk => h k (by omega)

theorem AgreeOutside.store (h : AgreeOutside lo hi m m') {i : Nat} (hin : lo ≤ i ∧ i < hi)
    (v : UInt8) : AgreeOutside lo hi m (store m' i v) :=
  fun k hk => (store_ne m' v (by omega)).trans (h k hk)

theorem AgreeOutside.blit (h : AgreeOutside lo hi m m') {off : Nat} {bytes : List UInt8}
    (hb : lo ≤ off ∧ off + bytes.length ≤ hi) : AgreeOutside lo hi m (blit m' off bytes) :=
  fun k hk => (blit_outside m' bytes (by omega)).trans (h k hk)

theorem AgreeOutside.fill (h : AgreeOutside lo hi m m') {off n : Nat}
    (hn : lo ≤ off ∧ off + n ≤ hi) (v : UInt8) : AgreeOutside lo hi m (fill m' off n v) := by
  intro k hk
  have hout : ¬(off ≤ k ∧ k < off + n) := by omega
  exact (if_neg hout).trans (h k hk)

/-- A loop keeps to the offsets that every round keeps to. -/
theorem AgreeOutside.forUpTo (h : AgreeOutside lo hi m m') {n : Nat} {body : Nat → Mem → Mem}
    (hbody : ∀ j, j < n → ∀ x, AgreeOutside lo hi x (body j x)) :
    AgreeOutside lo hi m (forUpTo n body m') := by
  induction n with
  | zero => exact h
  | succ n ih =>
      have hrounds := ih fun j hj => hbody j (by omega)
      exact hrounds.trans (hbody n (Nat.lt_succ_self n) _)

/-- The bytes before are as they were. -/
theorem AgreeOutside.slice (h : AgreeOutside lo hi m m') {off n : Nat} (hn : off + n ≤ lo) :
    slice m' off n = slice m off n := by
  rw [slice_eq_iff]
  intro i hi
  exact h (off + i) (.inl (by omega))

/-! ## Bytes on which two regions agree -/

theorem store_agree {k : Nat} (h : m k = m' k) (i : Nat) (v : UInt8) :
    store m i v k = store m' i v k := by
  rw [store_apply, store_apply, h]

theorem fill_agree {k : Nat} (h : m k = m' k) (off n : Nat) (v : UInt8) :
    fill m off n v k = fill m' off n v k := by
  rw [fill_apply, fill_apply, h]

theorem blit_agree {k : Nat} (h : m k = m' k) (off : Nat) (bytes : List UInt8) :
    blit m off bytes k = blit m' off bytes k := by
  rw [blit_apply, blit_apply, h]

/-- A loop keeps the agreement that every round keeps. -/
theorem forUpTo_agree {k : Nat} {body : Nat → Mem → Mem}
    (hbody : ∀ j (x x' : Mem), x k = x' k → body j x k = body j x' k) (h : m k = m' k) (n : Nat) :
    forUpTo n body m k = forUpTo n body m' k := by
  induction n with
  | zero => exact h
  | succ n ih => exact hbody n _ _ ih

/-! ## Bytes that are overwritten -/

/-- There is always another byte that could have been there. -/
theorem not_overwrites_of_kept {f : Mem → Mem} {k : Nat} (h : ∀ m, f m k = m k) :
    ¬Overwrites k f := by
  rintro ⟨v, hv⟩
  have hne : v ≠ v + 1 := by
    intro hsame
    have hnat := congrArg UInt8.toNat hsame
    rw [UInt8.toNat_add, show (1 : UInt8).toNat = 1 from rfl] at hnat
    have := v.toNat_lt
    omega
  exact hne ((hv fun _ => v + 1).symm.trans (h fun _ => v + 1))

theorem Overwrites.bounds {f : Mem → Mem} {k : Nat} (h : Overwrites k f)
    (hf : ∀ m, AgreeOutside lo hi m (f m)) : lo ≤ k ∧ k < hi := by
  have hin : ¬(k < lo ∨ hi ≤ k) := fun hk => not_overwrites_of_kept (fun m => hf m k hk) h
  omega

theorem overwrites_store (f : Mem → Mem) (k : Nat) (v : UInt8) :
    Overwrites k fun m => store (f m) k v :=
  ⟨v, fun m => store_self (f m) k v⟩

theorem overwrites_blit (f : Mem → Mem) {off k : Nat} {bytes : List UInt8}
    (h : off ≤ k ∧ k < off + bytes.length) : Overwrites k fun m => blit (f m) off bytes := by
  obtain ⟨i, rfl⟩ : ∃ i, k = off + i := ⟨k - off, by omega⟩
  have hi : i < bytes.length := by omega
  exact ⟨bytes[i], fun m => blit_hit (f m) off i bytes hi⟩

/-- What a copy puts inside its block does not depend on the region. -/
theorem blit_inside (m m' : Mem) {off k : Nat} {bytes : List UInt8}
    (h : off ≤ k ∧ k < off + bytes.length) : blit m off bytes k = blit m' off bytes k := by
  obtain ⟨v, hv⟩ := overwrites_blit id h
  exact (hv m).trans (hv m').symm

/-- A later store of a fixed byte leaves the byte overwritten. -/
theorem Overwrites.store {f : Mem → Mem} {k : Nat} (h : Overwrites k f) (i : Nat) (v : UInt8) :
    Overwrites k fun m => store (f m) i v := by
  by_cases hk : k = i
  · subst hk
    exact overwrites_store f k v
  · obtain ⟨w, hw⟩ := h
    exact ⟨w, fun m => (store_ne (f m) v hk).trans (hw m)⟩

/-- A loop overwrites what one of its rounds does, if the later rounds leave it so. -/
theorem overwrites_forUpTo {body : Nat → Mem → Mem} {j n k : Nat} (hj : j < n)
    (hround : ∀ f : Mem → Mem, Overwrites k fun m => body j (f m))
    (hkeeps : ∀ i (f : Mem → Mem), Overwrites k f → Overwrites k fun m => body i (f m))
    (f : Mem → Mem) : Overwrites k fun m => forUpTo n body (f m) := by
  induction n with
  | zero => exact absurd hj (Nat.not_lt_zero j)
  | succ n ih =>
      by_cases hlast : j = n
      · subst hlast
        exact hround fun m => forUpTo j body (f m)
      · exact hkeeps n _ (ih (by omega))

end Itertk.Base.Footprint
