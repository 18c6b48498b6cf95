import Itertk.Base.Footprint
import Itertk.Client.Replies

/-!
# The send buffer

The replies are built in `buf_send`, which has 1024 bytes.  A query copies a receive buffer of
`0x800` bytes behind the first seven, as far as `uart1_cnt` says, and no one looks whether
there is room.

## Main result

* `query_inBuffer_iff` — the counters with which there is.
-/

namespace Itertk.Client.SendBuffer

open Itertk.Base.Memory
open Itertk.Base.Footprint
open Itertk.Daemon.State
open Itertk.Client.Checks
open Itertk.Client.Replies

/-- `sizeof(buf_send)`. -/
def bufSendSize : Nat := 1024

/-- A `make_ack_*` function keeps to the send buffer, whatever that holds, and so does the
length that it returns. -/
structure InBuffer (makeAck : Mem → Mem × Nat) : Prop where
  writes : ∀ m, AgreeOutside 0 bufSendSize m (makeAck m).1
  length : ∀ m, (makeAck m).2 ≤ bufSendSize

/-- What the counters have to be for a query of the port byte `b`. -/
def QueryFits (cnt1 cnt2 : UInt16) (b : UInt8) : Prop :=
  (b = 1 → cnt1 ≤ 1016) ∧ (b = 2 → cnt2 ≤ 1016 ∧ cnt1 ≤ 1017)

/-- The port index of a port byte. -/
theorem portIndex_eq_iff (b c : UInt8) : b.toUInt32 - 1 = c.toUInt32 - 1 ↔ b = c := by
  constructor
  · intro h
    have hword := congrArg (fun x => (x + 1).toUInt8) h
    simpa only [UInt32.sub_add_cancel, UInt8.toUInt8_toUInt32] using hword
  · intro h
    rw [h]

/-- The seven bytes in front of the data. -/
private theorem queryHead_agree (m : Mem) (id v hi lo : UInt8) :
    AgreeOutside 0 7 m (store (store (store (makeAckHead m id) 4 v) 5 hi) 6 lo) := by
  unfold makeAckHead
  exact (((((((AgreeOutside.refl 0 7 m).store (by omega) _).store (by omega) _).store (by omega)
    _).store (by omega) _).store (by omega) _).store (by omega) _).store (by omega) _

/-- The data of `k` bytes and a checksum behind `n` of them. -/
private theorem queryBody_agree {m m' : Mem} (h : AgreeOutside 0 7 m m') (b : Mem) {k n : Nat}
    (hk : k ≤ 1017) (hn : n ≤ 1016) :
    AgreeOutside 0 bufSendSize m (finish (blit m' 7 (slice b 0 k)) (n + 7)).1 := by
  have hhead : AgreeOutside 0 bufSendSize m m' := h.mono (Nat.le_refl 0) (by decide)
  unfold bufSendSize at *
  exact (hhead.blit (by rw [slice_length]; omega)).store (by omega) _

/-- A query keeps to the send buffer exactly when the counters are low. -/
theorem query_inBuffer_iff (d : Device) (cmd : Mem) :
    InBuffer (makeAckQueryUartRecvData d cmd) ↔ QueryFits d.uart1Cnt d.uart2Cnt (cmd 4) := by
  have h0 : (cmd 4).toUInt32 - 1 = 0 ↔ cmd 4 = 1 := portIndex_eq_iff (cmd 4) 1
  have h1 : (cmd 4).toUInt32 - 1 = 1 ↔ cmd 4 = 2 := portIndex_eq_iff (cmd 4) 2
  simp only [QueryFits, UInt16.le_iff_toNat_le]
  show _ ↔ (_ → _ ≤ 1016) ∧ (_ → _ ≤ 1016 ∧ _ ≤ 1017)
  constructor
  · intro h
    obtain ⟨hwrites, hlength⟩ := h
    have hlen := hlength zero
    simp only [makeAckQueryUartRecvData, h0, h1] at hwrites hlen
    constructor
    · intro hb
      rw [if_pos hb] at hlen
      exact Nat.le_of_add_le_add_right (b := 8) hlen
    · intro hb
      have hne : ¬cmd 4 = 1 := by rw [hb]; decide
      simp only [if_neg hne, if_pos hb] at hwrites hlen
      refine ⟨Nat.le_of_add_le_add_right (b := 8) hlen, Nat.le_of_not_lt fun hlt => ?_⟩
      -- the copy of port 1's length goes over the first byte behind the buffer
      have hover : Overwrites 1024 fun m => (finish (blit (store (store (store (makeAckHead m
          protocolAckQueryUartRecvData) 4 ((cmd 4).toUInt32 - 1 + 1).toUInt8) 5
          (d.uart2Cnt / 0x100).toUInt8) 6 (d.uart2Cnt % 0x100).toUInt8) 7
          (slice d.uart2RecvBuf 0 d.uart1Cnt.toNat)) (d.uart2Cnt.toNat + 7)).1 :=
        (overwrites_blit _ (by rw [slice_length]; omega)).store _ 0
      exact absurd (hover.bounds hwrites).2 (Nat.lt_irrefl 1024)
  · intro h
    obtain ⟨hone, htwo⟩ := h
    constructor <;> intro m <;> simp only [makeAckQueryUartRecvData, h0, h1]
    · split
      · next hb =>
          have hfits := hone hb
          exact queryBody_agree (queryHead_agree m _ _ _ _) _ (by omega) hfits
      · split
        · next hb => exact queryBody_agree (queryHead_agree m _ _ _ _) _ (htwo hb).2 (htwo hb).1
        · exact ((queryHead_agree m _ _ _ _).mono (Nat.le_refl 0) (by decide)).store (by decide) _
    · split
      · next hb => exact Nat.add_le_add_right (hone hb) 8
      · split
        · next hb => exact Nat.add_le_add_right (htwo hb).1 8
        · exact Nat.le_of_ble_eq_true rfl

end Itertk.Client.SendBuffer
