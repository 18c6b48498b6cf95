import Itertk.Itsip.RecvLoop

/-!
# Messages that are half read

`web_conn_recv` closes the connection when `select` fails, when the peer is silent or
slow, at the end of the stream and after a reset.  Any other failure of `recv` is
returned with the connection open, whatever has been read until then; the next call
starts in the middle of a message.

## Main results

* `loop_cut` — what such a failure leaves.
* `neverHalfRead_iff` — the connection is left so exactly when some bytes, and not all
  that were asked for, come before it.
-/

namespace Itertk.Itsip.HalfRead

open Itertk.Base.Memory
open Itertk.Itsip.Socket
open Itertk.Itsip.RecvLoop

/-- A call that fails has taken nothing from the stream or has closed the connection. -/
def NeverHalfRead (ts : List Turn) (w : World) (netData : Nat) (len : UInt32)
    (msCnt1 : UInt64) : Prop :=
  ∀ w', webConnRecvInto ts w netData len msCnt1 = some (false, w') →
    w'.stream = w.stream ∨ w'.isOpen = false

/-- How many bytes come before a `recv` that fails without a reset, if no turn before it
fails, ends the stream or comes too late. -/
def cutAfter : List Turn → (msCnt1 : UInt64) → Option Nat
  | [], _ => none
  | .interrupted :: ts, ms1 => cutAfter ts ms1
  | .selectFailed :: _, _ => none
  | .quiet ms2 :: ts, ms1 => if Expired ms1 ms2 then none else cutAfter ts ms1
  | .recvFailed reset _ :: _, _ => if reset then none else some 0
  | .recv cnt ms1 ms3 :: ts, _ =>
      if cnt = 0 ∨ Expired ms1 ms3 then none else (cutAfter ts ms1).map (cnt + ·)

/-- A `recv` fails so in the middle of the `len` bytes. -/
def Cut (ts : List Turn) (len : UInt32) (msCnt1 : UInt64) : Prop :=
  ∃ k, cutAfter ts msCnt1 = some k ∧ 0 < k ∧ k < len.toNat

variable {ts : List Turn} {w w' : World} {p k : Nat} {n : UInt32} {ms1 : UInt64}

/-- One `recv` that neither ends the call nor comes too late. -/
theorem loop_recv {cnt : Nat} {ms1' ms3 : UInt64} (h0 : cnt ≠ 0) (hmore : cnt < n.toNat)
    (hx : ¬Expired ms1' ms3) :
    loop (.recv cnt ms1' ms3 :: ts) w p n ms1 =
      loop ts (w.recv p cnt) (p + cnt) (n - UInt32.ofNat cnt) ms1' := by
  have hrest : ¬n - UInt32.ofNat cnt = 0 := by
    rw [sub_count_eq_zero_iff (Nat.le_of_lt hmore)]
    omega
  rw [loop]
  exact (if_neg h0).trans ((if_neg hrest).trans (if_neg hx))

/-- Such a failure after `k` bytes leaves the connection open and the stream behind
them. -/
theorem loop_cut (hkernel : Plausible ts w.stream n) (hopen : w.isOpen = true)
    (hcut : cutAfter ts ms1 = some k) (hk : k < n.toNat) :
    ∃ w', loop ts w p n ms1 = some (false, w') ∧ w'.isOpen = true ∧
      w'.stream = w.stream.drop k ∧ k ≤ w.stream.length := by
  induction ts generalizing w p n ms1 k with
  | nil => cases hcut
  | cons t ts ih =>
      cases t with
      | interrupted => exact ih hkernel hopen hcut hk
      | selectFailed => cases hcut
      | quiet ms2 =>
          rw [cutAfter] at hcut
          rw [loop]
          by_cases hx : Expired ms1 ms2
          · rw [if_pos hx] at hcut
            cases hcut
          · rw [if_neg hx] at hcut ⊢
            exact ih hkernel hopen hcut hk
      | recvFailed reset ms1' =>
          cases reset with
          | true => cases hcut
          | false =>
              cases hcut
              exact ⟨w, rfl, hopen, rfl, Nat.zero_le _⟩
      | recv cnt ms1' ms3 =>
          rw [cutAfter] at hcut
          by_cases hend : cnt = 0 ∨ Expired ms1' ms3
          · rw [if_pos hend] at hcut
            cases hcut
          · rw [if_neg hend] at hcut
            rw [not_or] at hend
            obtain ⟨j, hj, rfl⟩ := Option.map_eq_some_iff.mp hcut
            obtain ⟨hn, hs, hrest⟩ := hkernel
            have hmore : cnt < n.toNat := by omega
            have hsub := toNat_sub_count hn
            have hopen' : (w.recv p cnt).isOpen = true := hopen
            obtain ⟨w', hloop, hafter, hstream, hle⟩ :=
              ih (p := p + cnt) (hrest hmore) hopen' hj (by omega)
            have hdrop : (w.stream.drop cnt).length = w.stream.length - cnt := List.length_drop
            refine ⟨w', ?_, hafter, ?_, ?_⟩
            · rw [loop_recv hend.1 hmore hend.2, hloop]
            · rw [hstream, ← List.drop_drop]
              rfl
            · have hle' : j ≤ (w.stream.drop cnt).length := hle
              omega

/-- A call that fails and leaves the connection open has met such a failure. -/
theorem cut_of_open (hkernel : Plausible ts w.stream n) (h : loop ts w p n ms1 = some (false, w'))
    (hopen : w'.isOpen = true) : ∃ k, cutAfter ts ms1 = some k ∧ (k = 0 ∨ k < n.toNat) := by
  induction ts generalizing w p n ms1 with
  | nil => cases h
  | cons t ts ih =>
      cases t with
      | interrupted => exact ih hkernel h
      | selectFailed =>
          cases h
          cases hopen
      | quiet ms2 =>
          rw [loop] at h
          rw [cutAfter]
          by_cases hx : Expired ms1 ms2
          · rw [if_pos hx] at h
            cases h
            cases hopen
          · rw [if_neg hx] at h ⊢
            exact ih hkernel h
      | recvFailed reset ms1' =>
          cases reset with
          | true =>
              cases h
              cases hopen
          | false => exact ⟨0, rfl, .inl rfl⟩
      | recv cnt ms1' ms3 =>
          obtain ⟨hn, -, hrest⟩ := hkernel
          by_cases h0 : cnt = 0
          · simp only [loop, if_pos h0] at h
            cases h
            cases hopen
          · by_cases hmore : cnt < n.toNat
            · by_cases hx : Expired ms1' ms3
              · have hne : ¬n - UInt32.ofNat cnt = 0 := by
                  rw [sub_count_eq_zero_iff hn]
                  omega
                simp only [loop, if_neg h0, if_neg hne, if_pos hx] at h
                cases h
                cases hopen
              · rw [loop_recv h0 hmore hx] at h
                obtain ⟨k, hk, hlt⟩ := ih (hrest hmore) h
                have hsub := toNat_sub_count hn
                refine ⟨cnt + k, ?_, .inr (by omega)⟩
                rw [cutAfter, if_neg (not_or.mpr ⟨h0, hx⟩), hk]
                rfl
            · -- all that was asked for has come
              have hall : n - UInt32.ofNat cnt = 0 := by
                rw [sub_count_eq_zero_iff hn]
                omega
              simp only [loop, if_neg h0, if_pos hall] at h
              cases h

/-- `web_conn_recv` leaves no message half read exactly when no `recv` fails without a
reset in the middle of one. -/
theorem neverHalfRead_iff (hkernel : Plausible ts w.stream n) (hpos : 0 < n) (netData : Nat)
    (ms1 : UInt64) :
    NeverHalfRead ts w netData n ms1 ↔ ¬(w.isOpen = true ∧ Cut ts n ms1) := by
  have hpos' : 0 < n.toNat := UInt32.lt_iff_toNat_lt.mp hpos
  unfold NeverHalfRead webConnRecvInto
  by_cases hopen : w.isOpen = true
  · rw [if_pos hopen]
    constructor
    · rintro hnever ⟨-, k, hcut, hk0, hk⟩
      obtain ⟨w', hloop, hafter, hstream, hle⟩ := loop_cut (p := netData) hkernel hopen hcut hk
      rcases hnever w' hloop with hsame | hclosed
      · have hlen := congrArg List.length (hstream.symm.trans hsame)
        rw [List.length_drop] at hlen
        omega
      · rw [hafter] at hclosed
        cases hclosed
    · intro hnot w' hloop
      by_cases hafter : w'.isOpen = true
      · obtain ⟨k, hcut, hk⟩ := cut_of_open hkernel hloop hafter
        have hk0 : k = 0 := by
          refine Decidable.byContradiction fun hne => hnot ⟨hopen, k, hcut, by omega, by omega⟩
        obtain ⟨v, hloop', -, hstream, -⟩ :=
          loop_cut (p := netData) hkernel hopen hcut (by omega)
        rw [hloop] at hloop'
        obtain ⟨-, rfl⟩ := Prod.mk.inj (Option.some.inj hloop')
        rw [hk0] at hstream
        exact .inl hstream
      · exact .inr (Bool.eq_false_iff.mpr hafter)
  · rw [if_neg hopen]
    refine iff_of_true (fun w' h => ?_) (fun h => hopen h.1)
    obtain ⟨-, rfl⟩ := Prod.mk.inj (Option.some.inj h)
    exact .inl rfl

/-- Two bytes of four, and then nothing new in time. -/
theorem neverHalfRead_silent :
    NeverHalfRead [.recv 2 10 10, .quiet 2010] ⟨zero, [1, 2, 3, 4], true⟩ 64 4 0 := by
  have hkernel : Plausible [.recv 2 10 10, .quiet 2010] [1, 2, 3, 4] 4 :=
    ⟨by decide, by decide, fun _ => trivial⟩
  refine (neverHalfRead_iff hkernel (by decide) 64 0).mpr ?_
  have hnone : cutAfter [.recv 2 10 10, .quiet 2010] 0 = none := by decide
  rintro ⟨-, k, hcut, -⟩
  rw [hnone] at hcut
  cases hcut

/-- Two bytes of four, and then `recv` fails with `ETIMEDOUT`. -/
theorem not_neverHalfRead_timedOut :
    ¬∀ (ts : List Turn) (w : World) (netData : Nat) (len : UInt32) (msCnt1 : UInt64),
      Plausible ts w.stream len → 0 < len → NeverHalfRead ts w netData len msCnt1 := by
  intro h
  have hkernel : Plausible [.recv 2 10 10, .recvFailed false 20] [1, 2, 3, 4] 4 :=
    ⟨by decide, by decide, fun _ => trivial⟩
  have hnever := h _ ⟨zero, [1, 2, 3, 4], true⟩ 64 4 0 hkernel (by decide)
  refine (neverHalfRead_iff hkernel (by decide) 64 0).mp hnever ⟨rfl, 2, ?_, ?_, ?_⟩ <;>
    decide

end Itertk.Itsip.HalfRead
