import Itertk.Client.ReplyLayout

/-!
# Well-formed replies

The bytes that a command is answered with are the head, the code of the acknowledgement, the
device byte, a body and the checksum, and the length given to `write` ends behind the
checksum.  `make_ack_get_io_status` with an illegal count gives no length.  And
`make_ack_set_device_attr` builds its body in `tmp[100]`, with as many pairs as the packet
says.

## Main result

* `wellFormed_iff` — every other reply is well formed.
-/

namespace Itertk.Client.ReplyForm

open Itertk.Base.Memory
open Itertk.Base.Footprint
open Itertk.Daemon.Layout
open Itertk.Daemon.State
open Itertk.Client.Checks
open Itertk.Client.Replies
open Itertk.Client.Dispatch
open Itertk.Client.SendBuffer
open Itertk.Client.Rejection
open Itertk.Client.DeviceAttr
open Itertk.Client.ReplyLayout

/-- The head for `id`, a body of `n` bytes and the checksum, in `buf_send`, are what is
written to the socket, and nothing else is. -/
structure WellFormed (id : UInt8) (n : Nat) (o : Outcome) : Prop where
  sent : socketWrites o.2 = [.reply (slice o.1.bufSend 0 (4 + n + 1))]
  head : slice o.1.bufSend 0 4 = [protocolHead1, protocolHead2, id, alarmDeviceId]
  checksum : o.1.bufSend (4 + n) = makeCrcNum o.1.bufSend (4 + n)
  inBuffer : 4 + n < bufSendSize

/-- `get_one_sensor_buf` keeps to `tmp[100]`, whatever `SET_DEVICE_ATTR` has stored. -/
def TmpSuffices (env : Env) (cmd : Mem) (d : Device) : Prop :=
  ∀ tmp, AgreeOutside 0 100 tmp
    (getOneSensorBuf (setAlarminDeviceAttr env cmd d).1.conf sensorTypeIoIn tmp 0).1

/-- The answer of a command is well formed, and built inside its buffers.  There is none yet
while the port takes the data of `UART_SEND_DATA`. -/
structure AnswersWell (env : Env) (cmd : Mem) (num : Nat) (d : Device) (c : Command) : Prop where
  reply : ¬Pending env cmd d c →
    WellFormed (ackCode c) (bodyLength d cmd c) (clientDispatch env cmd num d)
  pending : Pending env cmd d c → socketWrites (clientDispatch env cmd num d).2 = []
  tmp : c = .setDeviceAttr → TmpSuffices env cmd d

/-- The counts in the packet that the builders can deal with. -/
def CountInRange (cmd : Mem) : Command → Prop
  | .getIoStatus => 1 ≤ cmd 4 ∧ cmd 4 ≤ 4
  | .setDeviceAttr => cmd 4 ≤ 49
  | _ => True

private theorem wellFormed_of_answers {id : UInt8} {n w : Nat} {m : Mem} {o : Outcome}
    (h : Answers id n w m o) (hn : 4 + n < bufSendSize) : WellFormed id n o := by
  obtain ⟨ack, hack, hbuf⟩ := h.built
  have hbuilt : slice ack 0 4 = [protocolHead1, protocolHead2, id, alarmDeviceId] :=
    hack.slice (Nat.le_refl 4)
  have hhead : slice o.1.bufSend 0 4 = [protocolHead1, protocolHead2, id, alarmDeviceId] := by
    rw [hbuf, ← hbuilt, slice_eq_iff]
    intro i hi
    exact store_ne _ _ (by omega)
  have hcrc : o.1.bufSend (4 + n) = makeCrcNum o.1.bufSend (4 + n) := by
    rw [hbuf]
    exact store_self _ _ _
  exact ⟨h.sent, hhead, hcrc, hn⟩

/-- Few serial bytes make a short body, too. -/
theorem bodyLength_lt {d : Device} (hsmall : SmallTable d.conf) (h1 : d.uart1Cnt ≤ 1016)
    (h2 : d.uart2Cnt ≤ 1016) (cmd : Mem) (c : Command) : 4 + bodyLength d cmd c < bufSendSize := by
  by_cases hc : c = .queryUartRecvData
  · have hcnt1 : d.uart1Cnt.toNat ≤ 1016 := UInt16.le_iff_toNat_le.mp h1
    have hcnt2 : d.uart2Cnt.toNat ≤ 1016 := UInt16.le_iff_toNat_le.mp h2
    subst hc
    simp only [bodyLength, queryCount, bufSendSize]
    split
    · omega
    · split <;> omega
  · exact bodyLength_small hsmall cmd hc

/-! ## The body of `SET_DEVICE_ATTR` -/

/-- With more pairs the loop of `get_one_sensor_buf` writes byte 100. -/
theorem getOneSensorBuf_overflows {conf : Mem} {k : Nat} (h : 50 ≤ (sensorNum conf k).toNat) :
    Overwrites 100 fun tmp => (getOneSensorBuf conf k tmp 0).1 := by
  have h0 : ¬(sensorNum conf k).toNat = 0 := by omega
  simp only [getOneSensorBuf, if_neg h0]
  apply overwrites_forUpTo (j := 49) (by omega)
  · intro f
    exact (overwrites_store f 100 _).store _ _
  · intro i f hf
    exact (hf.store _ _).store _ _

theorem tmpSuffices_iff (env : Env) (cmd : Mem) (d : Device) :
    TmpSuffices env cmd d ↔ cmd 4 ≤ 49 := by
  have hnum := setAlarmin_num env cmd d
  rw [UInt8.le_iff_toNat_le]
  show _ ↔ (cmd 4).toNat ≤ 49
  constructor
  · intro h
    apply Nat.le_of_not_lt
    intro hlt
    rw [← hnum] at hlt
    exact absurd ((getOneSensorBuf_overflows hlt).bounds h).2 (Nat.lt_irrefl 100)
  · intro hle tmp
    have hlen : entryLength (cmd 4) ≤ 100 := by
      unfold entryLength
      omega
    have hagree :=
      getOneSensorBuf_agree (setAlarminDeviceAttr env cmd d).1.conf sensorTypeIoIn tmp 0
    rw [hnum, Nat.zero_add] at hagree
    exact hagree.mono (Nat.le_refl 0) hlen

theorem lengthFits_of_le {num : UInt8} (h : num ≤ 49) : LengthFits num := by
  have hle : num.toNat ≤ 49 := UInt8.le_iff_toNat_le.mp h
  unfold LengthFits entryLength
  omega

/-! ## Every command -/

theorem wellFormed_iff (env : Env) {cmd : Mem} {num : Nat} {d : Device} {c : Command}
    (hsmall : SmallTable d.conf) (h1 : d.uart1Cnt ≤ 1016) (h2 : d.uart2Cnt ≤ 1016)
    (hc : answers c = true) (hreach : Reaches cmd num c) :
    AnswersWell env cmd num d c ↔ CountInRange cmd c := by
  have hdispatch := clientDispatch_reaches env d hreach
  constructor
  · intro h
    cases c with
    | getIoStatus =>
        rw [CountInRange, ← statusCount_iff]
        apply Decidable.byContradiction
        intro hbad
        obtain ⟨m, hm⟩ := getIoStatus_undefined env cmd d hbad
        have hsent := (h.reply fun hp => absurd hp.1 (by decide)).sent
        rw [hdispatch, perform, hm] at hsent
        exact absurd (List.singleton_inj.mp hsent) (by intro hev; cases hev)
    | setDeviceAttr => exact (tmpSuffices_iff env cmd d).mp (h.tmp rfl)
    | _ => trivial
  · intro hcount
    have hregular : Regular cmd c := by
      cases c with
      | getIoStatus => exact (statusCount_iff _).mpr hcount
      | setDeviceAttr => exact lengthFits_of_le hcount
      | _ => trivial
    constructor
    case reply =>
      intro hp
      rw [hdispatch]
      exact wellFormed_of_answers (perform_reply env cmd d hc hregular hp)
        (bodyLength_lt hsmall h1 h2 cmd c)
    case pending =>
      intro hp
      obtain ⟨rfl, hwait⟩ := hp
      rw [hdispatch]
      exact (makeAckUartSendData_waiting hwait).1
    case tmp =>
      intro hset
      subst hset
      exact (tmpSuffices_iff env cmd d).mpr hcount

/-- `GET_IO_STATUS` for `n` outputs. -/
def getStatus (n : UInt8) : Mem := blit zero 0 [0x55, 0xaa, 0x1b, 0x01, n, 1, 2, 0]

private theorem getStatus_reaches (n : UInt8) : Reaches (getStatus n) 8 .getIoStatus :=
  Accepted.reaches ⟨by decide, rfl, rfl, rfl, rfl⟩

theorem wellFormed_twoOutputs :
    AnswersWell Env.idle (getStatus 2) 8 (Device.start zero) .getIoStatus :=
  (wellFormed_iff Env.idle (d := Device.start zero) (by unfold SmallTable; decide) (by decide)
    (by decide) rfl (getStatus_reaches 2)).mpr ⟨by decide, by decide⟩

/-- For no outputs the length is undefined. -/
theorem illFormed_noOutputs :
    ¬∀ (env : Env) (cmd : Mem) (num : Nat) (d : Device) (c : Command), SmallTable d.conf →
      d.uart1Cnt ≤ 1016 → d.uart2Cnt ≤ 1016 → answers c = true → Reaches cmd num c →
      AnswersWell env cmd num d c := by
  intro h
  have hwell := h Env.idle (getStatus 0) 8 (Device.start zero) .getIoStatus
    (by unfold SmallTable; decide) (by decide) (by decide) rfl (getStatus_reaches 0)
  have hsent := (hwell.reply fun hp => absurd hp.1 (by decide)).sent
  obtain ⟨m, hm⟩ := getIoStatus_undefined Env.idle (getStatus 0) (Device.start zero)
    fun hcount => hcount (.inl rfl)
  rw [clientDispatch_reaches Env.idle (Device.start zero) (getStatus_reaches 0), perform,
    hm] at hsent
  exact absurd (List.singleton_inj.mp hsent) (by intro hev; cases hev)

end Itertk.Client.ReplyForm
