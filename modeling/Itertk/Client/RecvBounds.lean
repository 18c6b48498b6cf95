import Itertk.Client.Arrivals

/-!
# The bounds of the receive buffers

`Protocol_SendComDataToNet_PollMode` adds a chunk's length to a `u16` counter, also when it
then drops the chunk, and tests the new count only.  So the counters pass `0x800`, and one
that has wrapped around lets a chunk be copied that does not fit.

The abstract state has for each port the number of bytes received so far.

## Main result

* `recvBounds_iff` — counters and copies stay in bounds over a run exactly when no port
  receives more than `0x800` bytes, or exactly `0x800` more than a multiple of `65536`.
-/

namespace Itertk.Client.RecvBounds

open Itertk.Base.Memory
open Itertk.Base.Run
open Itertk.Daemon.State
open Itertk.Client.PollMode
open Itertk.Client.Arrivals

/-- One call of `Protocol_SendComDataToNet_PollMode`. -/
def collect (d : Device) (a : Arrival) : Device := sendComDataToNetPollMode a.id a.data d

/-- A copy of `c.2` bytes at offset `c.1` stays within the buffer. -/
def WithinBuf (c : Nat × Nat) : Prop := c.1 + c.2 ≤ 0x800

/-- The copy out of either buffer in `make_ack_query_uart_recv_data`. -/
def copyOut (d : Device) : Nat × Nat := (0, d.uart1Cnt.toNat)

/-- The counters are in range, and so is the copy that a query makes. -/
structure Bounded (d : Device) : Prop where
  cnt : ∀ q, q < 2 → (port d q).cnt ≤ uartRecvBufSize
  out : WithinBuf (copyOut d)

/-- The call copies within the buffer and leaves a bounded state. -/
structure InBounds (d : Device) (a : Arrival) : Prop where
  copyIn : ∀ c ∈ (port d a.id).copyIn a.id a.data, WithinBuf c
  after : Bounded (collect d a)

/-! ## Bytes received -/

/-- The bytes that each port has received, with another chunk. -/
def receive (total : Nat → Nat) (a : Arrival) : Nat → Nat :=
  Function.update total a.id (total a.id + a.data.length)

/-- At most `0x800` bytes, or that many after the counter has wrapped around. -/
def InRange (total : Nat) : Prop := total ≤ 0x800 ∨ total % 65536 = 0x800

/-- The port's total stays in range. -/
def TotalInRange (total : Nat → Nat) (a : Arrival) : Prop := InRange (total a.id + a.data.length)

/-- The counters count the totals, which are in range. -/
structure Counts (d : Device) (total : Nat → Nat) : Prop where
  cnt : ∀ q, q < 2 → (port d q).cnt.toNat = total q % 65536
  range : ∀ q, q < 2 → InRange (total q)

private theorem collect_cnt {d : Device} {total : Nat → Nat} (h : Counts d total) (a : Arrival)
    {q : Nat} (hq : q < 2) : (port (collect d a) q).cnt.toNat = receive total a q % 65536 := by
  have hcnt := h.cnt q hq
  rw [collect, pollMode_port a.isPort hq, receive, Function.update_apply]
  by_cases hid : q = a.id
  · rw [if_pos hid, if_pos hid, ← hid]
    show ((port d q).cnt + UInt16.ofNat a.data.length).toNat = _
    rw [UInt16.toNat_add, UInt16.toNat_ofNat', hcnt]
    omega
  · rw [if_neg hid, if_neg hid]
    exact hcnt

private theorem bounded_iff {d : Device} {total : Nat → Nat}
    (h : ∀ q, q < 2 → (port d q).cnt.toNat = total q % 65536) :
    Bounded d ↔ ∀ q, q < 2 → total q % 65536 ≤ 0x800 := by
  have hle : ∀ q, q < 2 → ((port d q).cnt ≤ uartRecvBufSize ↔ total q % 65536 ≤ 0x800) := by
    intro q hq
    rw [UInt16.le_iff_toNat_le, h q hq]
    exact Iff.rfl
  constructor
  · exact fun hb q hq => (hle q hq).mp (hb.cnt q hq)
  · intro hall
    have h0 : d.uart1Cnt.toNat = total 0 % 65536 := h 0 (by decide)
    have hout : d.uart1Cnt.toNat ≤ 0x800 := by
      rw [h0]
      exact hall 0 (by decide)
    constructor
    case cnt => exact fun q hq => (hle q hq).mpr (hall q hq)
    case out =>
      simp only [WithinBuf, copyOut]
      omega

/-- The chunk fits into the buffer, if it is copied. -/
theorem copyIn_iff {d : Device} {total : Nat → Nat} (h : Counts d total) (a : Arrival)
    (hnew : (total a.id + a.data.length) % 65536 ≤ 0x800) :
    (∀ c ∈ (port d a.id).copyIn a.id a.data, WithinBuf c) ↔ TotalInRange total a := by
  have hcnt := h.cnt a.id a.isPort
  have hrange := h.range a.id a.isPort
  have hpos := a.nonempty
  have hoff : (port d a.id).offset a.id ≤ total a.id % 65536 := by
    rw [Port.offset, ← hcnt]
    split
    · exact Nat.le_refl _
    · exact Nat.zero_le _
  have hsum : ((port d a.id).cnt + UInt16.ofNat a.data.length).toNat =
      (total a.id + a.data.length) % 65536 := by
    rw [UInt16.toNat_add, UInt16.toNat_ofNat', hcnt]
    omega
  unfold TotalInRange InRange at *
  rw [Port.copyIn]
  by_cases hcopy : (port d a.id).cnt + UInt16.ofNat a.data.length < uartRecvBufSize
  · have hlt : (total a.id + a.data.length) % 65536 < 0x800 := by
      rw [← hsum]
      exact UInt16.lt_iff_toNat_lt.mp hcopy
    rw [if_pos hcopy]
    constructor
    · intro hall
      have hfits : (port d a.id).offset a.id + a.data.length ≤ 0x800 := hall _ rfl
      omega
    · intro hin c hc
      obtain rfl := Option.mem_some.mp hc
      show (port d a.id).offset a.id + a.data.length ≤ 0x800
      omega
  · have hge : ¬(total a.id + a.data.length) % 65536 < 0x800 := by
      rw [← hsum]
      exact fun hlt => hcopy (UInt16.lt_iff_toNat_lt.mpr hlt)
    rw [if_neg hcopy]
    constructor
    · exact fun _ => .inr (by omega)
    · intro _ c hc
      cases hc

private theorem inBounds_iff {d : Device} {total : Nat → Nat} (h : Counts d total) (a : Arrival) :
    InBounds d a ↔ TotalInRange total a := by
  have hafter := bounded_iff fun q hq => collect_cnt h a hq
  have hnew : Bounded (collect d a) ↔ (total a.id + a.data.length) % 65536 ≤ 0x800 := by
    rw [hafter]
    constructor
    · intro hall
      have := hall a.id a.isPort
      rwa [receive, Function.update_self] at this
    · intro hle q hq
      rw [receive, Function.update_apply]
      by_cases hid : q = a.id
      · rw [if_pos hid]
        exact hle
      · rw [if_neg hid]
        have := h.range q hq
        unfold InRange at this
        omega
  constructor
  · exact fun hb => (copyIn_iff h a (hnew.mp hb.after)).mp hb.copyIn
  · intro hin
    have hle : (total a.id + a.data.length) % 65536 ≤ 0x800 := by
      unfold TotalInRange InRange at hin
      omega
    exact ⟨(copyIn_iff h a hle).mpr hin, hnew.mpr hle⟩

theorem Counts.step {d : Device} {total : Nat → Nat} (h : Counts d total) {a : Arrival}
    (hin : TotalInRange total a) : Counts (collect d a) (receive total a) where
  cnt _ hq := collect_cnt h a hq
  range q hq := by
    rw [receive, Function.update_apply]
    by_cases hid : q = a.id
    · rw [if_pos hid]
      exact hin
    · rw [if_neg hid]
      exact h.range q hq

/-- From empty buffers on, every counter and every copy of a run is in bounds exactly when
the totals are. -/
theorem recvBounds_iff {d : Device} (h1 : d.uart1Cnt = 0) (h2 : d.uart2Cnt = 0)
    (xs : List Arrival) :
    (Bounded d ∧ StepsSatisfy collect InBounds d xs) ↔
      StepsSatisfy receive TotalInRange (fun _ => 0) xs := by
  have hcnt : ∀ q, q < 2 → (port d q).cnt.toNat = 0 % 65536 := by
    intro q hq
    match q, hq with
    | 0, _ => exact congrArg UInt16.toNat h1
    | 1, _ => exact congrArg UInt16.toNat h2
  have hbounded : Bounded d := (bounded_iff hcnt).mpr fun _ _ => by decide
  have hruns := stepsSatisfy_simulation (R := Counts) (fun _ _ a h => inBounds_iff h a)
    (fun _ _ a h hin => Counts.step (a := a) h ((inBounds_iff h a).mp hin))
    ⟨hcnt, fun _ _ => .inl (Nat.zero_le _)⟩ xs
  exact ⟨fun hall => hruns.mp hall.2, fun hall => ⟨hbounded, hruns.mpr hall⟩⟩

/-- `n` bytes for port 1. -/
def zeros (n : Nat) (hpos : 0 < n) (hle : n ≤ comRecvBufMax) : Arrival where
  id := 0
  data := List.replicate n 0
  isPort := Nat.two_pos
  nonempty := by rw [List.length_replicate]; exact hpos
  short := by rw [List.length_replicate]; exact hle

private theorem receive_zeros {n : Nat} (hpos : 0 < n) (hle : n ≤ comRecvBufMax) :
    TotalInRange (fun _ => 0) (zeros n hpos hle) ↔ InRange n := by
  rw [TotalInRange, zeros, List.length_replicate, Nat.zero_add]

/-- A full buffer is in bounds. -/
theorem recvBounds_full :
    Bounded (Device.start zero) ∧
      StepsSatisfy collect InBounds (Device.start zero) [zeros 0x800 (by decide) (by decide)] :=
  (recvBounds_iff (d := Device.start zero) rfl rfl _).mpr
    ⟨(receive_zeros _ _).mpr (.inl (Nat.le_refl _)), trivial⟩

/-- One more byte is counted, and a read of `0x10000` bytes is copied. -/
theorem recvBounds_exceeded :
    ¬(∀ (d : Device) (xs : List Arrival), d.uart1Cnt = 0 → d.uart2Cnt = 0 →
      StepsSatisfy collect InBounds d xs) ∧
    ¬Bounded (collect (Device.start zero) (zeros 0x801 (by decide) (by decide))) ∧
    ∃ c ∈ (port (Device.start zero) 0).copyIn 0 (zeros 0x10000 (by decide) (by decide)).data,
      ¬WithinBuf c := by
  have hover : ¬Bounded (collect (Device.start zero) (zeros 0x801 (by decide) (by decide))) := by
    intro h
    have hcnt := UInt16.le_iff_toNat_le.mp (h.cnt 0 (by decide))
    rw [collect, pollMode_port (zeros _ _ _).isPort (by decide), zeros, if_pos rfl] at hcnt
    simp only [Port.collect, List.length_replicate] at hcnt
    exact absurd hcnt (by decide)
  refine ⟨fun h => ?_, hover, ?_⟩
  · exact hover (h (Device.start zero) [zeros 0x801 (by decide) (by decide)] rfl rfl).1.after
  · refine ⟨(0, 0x10000), ?_, fun h => absurd h (by show ¬0 + 0x10000 ≤ 0x800; decide)⟩
    rw [Port.copyIn, zeros]
    simp only [List.length_replicate]
    rfl

end Itertk.Client.RecvBounds
