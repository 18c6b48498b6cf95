import Itertk.Daemon.State

/-!
# Commands and their checks

Each command of the alarm server has a `check_for_*` function that compares the
received length with a fixed minimum, then the head, the command byte and the
device byte.  Thirteen of them do only that and are one definition with two
parameters; the other four also assign a global or the configuration, and keep
their own bodies.  `SET_TEMP` has none.
-/

namespace Itertk.Client.Checks

open Itertk.Base.Memory
open Itertk.Daemon.Layout
open Itertk.Daemon.State

/-! ## Codes of `inc/client.h` -/

def protocolHead1 : UInt8 := 0x55
def protocolHead2 : UInt8 := 0xaa
def alarmDeviceId : UInt8 := 0x01

def errorNumIsNotEnough : Int := -1
def errorHeadOrDeviceId : Int := -2
def errorCrcCheck : Int := -3

/-- The commands that have an arm in `client_process`. -/
inductive Command where
  | getDeviceAttr | setDeviceAttr | getAlarmStatus | getTime | setTime | setHeartbeat
  | getUartQty | getUartAttr | setUartAttr | queryUartSendbuf | uartSendData
  | setUartRecvAttr | queryUartRecvData | getIoNum | setIo | getIoStatus
  | getTempNum | setTemp | getTempStatus
  deriving DecidableEq, Repr

namespace Command

/-- The `case` label. -/
def code : Command → UInt8
  | getDeviceAttr => 0x01
  | setDeviceAttr => 0x03
  | getAlarmStatus => 0x05
  | getTime => 0x07
  | setTime => 0x08
  | setHeartbeat => 0x09
  | getUartQty => 0x0b
  | getUartAttr => 0x0d
  | setUartAttr => 0x0f
  | queryUartSendbuf => 0x11
  | uartSendData => 0x13
  | setUartRecvAttr => 0x15
  | queryUartRecvData => 0x16
  | getIoNum => 0x18
  | setIo => 0x1a
  | getIoStatus => 0x1b
  | getTempNum => 0x20
  | setTemp => 0x22
  | getTempStatus => 0x23

/-- The arm that `switch (buf[2])` selects. -/
def ofByte (b : UInt8) : Option Command :=
  [getDeviceAttr, setDeviceAttr, getAlarmStatus, getTime, setTime, setHeartbeat, getUartQty,
    getUartAttr, setUartAttr, queryUartSendbuf, uartSendData, setUartRecvAttr,
    queryUartRecvData, getIoNum, setIo, getIoStatus, getTempNum, setTemp,
    getTempStatus].find? fun c => c.code = b

@[simp] theorem ofByte_code (c : Command) : ofByte c.code = some c := by
  cases c <;> rfl

/-- The switch selects by the command's own code. -/
theorem ofByte_eq_some {b : UInt8} {c : Command} (h : ofByte b = some c) : b = c.code := by
  have := List.find?_some h
  exact (of_decide_eq_true this).symm

end Command

/-! ## Head and checksum -/

/-- `check_head`. -/
def checkHead (buf : Mem) : Int :=
  if buf 0 ≠ protocolHead1 ∨ buf 1 ≠ protocolHead2 then -1 else 0

/-- `check_protocol_head`. -/
def checkProtocolHead (buf : Mem) (protocolId : UInt8) : Int :=
  if buf 0 ≠ protocolHead1 ∨ buf 1 ≠ protocolHead2 ∨ buf 2 ≠ protocolId ∨
      buf 3 ≠ alarmDeviceId then -1 else 0

/-- `check_for_crc`: the checksum is not implemented. -/
def checkForCrc (_buf : Mem) (_num : Nat) : Int := 0

/-- `make_crc_num`. -/
def makeCrcNum (_buf : Mem) (_num : Nat) : UInt8 := 0

theorem checkHead_eq_zero_iff (buf : Mem) :
    checkHead buf = 0 ↔ buf 0 = protocolHead1 ∧ buf 1 = protocolHead2 := by
  unfold checkHead
  split
  · next h =>
    refine ⟨fun h0 => absurd h0 (by decide), ?_⟩
    rintro ⟨h0, h1⟩
    exact absurd h (by simp [h0, h1])
  · next h =>
    rw [not_or, Decidable.not_not, Decidable.not_not] at h
    exact ⟨fun _ => h, fun _ => rfl⟩

private theorem checkProtocolHead_eq_zero_iff (buf : Mem) (id : UInt8) :
    checkProtocolHead buf id = 0 ↔
      buf 0 = protocolHead1 ∧ buf 1 = protocolHead2 ∧ buf 2 = id ∧ buf 3 = alarmDeviceId := by
  unfold checkProtocolHead
  split
  · next h =>
    refine ⟨fun h0 => absurd h0 (by decide), ?_⟩
    rintro ⟨h0, h1, h2, h3⟩
    exact absurd h (by simp [h0, h1, h2, h3])
  · next h =>
    simp only [not_or, Decidable.not_not] at h
    exact ⟨fun _ => h, fun _ => rfl⟩

/-! ## The checks -/

/-- The common body: length, head, checksum, in this order. -/
def checkFor (min : Nat) (id : UInt8) (buf : Mem) (num : Nat) : Int :=
  if num < min then errorNumIsNotEnough
  else if checkProtocolHead buf id ≠ 0 then errorHeadOrDeviceId
  else if checkForCrc buf num ≠ 0 then errorCrcCheck
  else 0

def checkForGetDeviceAttr := checkFor 5 Command.getDeviceAttr.code
def checkForSetDeviceAttr := checkFor 7 Command.setDeviceAttr.code
def checkForGetAlarmStatus := checkFor 5 Command.getAlarmStatus.code
def checkForSetTime := checkFor 11 Command.setTime.code
def checkForGetUartQty := checkFor 5 Command.getUartQty.code
def checkForGetUartAttr := checkFor 7 Command.getUartAttr.code
def checkForSetUartAttr := checkFor 14 Command.setUartAttr.code
def checkForQueryUartRecvData := checkFor 6 Command.queryUartRecvData.code
def checkForGetIoNum := checkFor 5 Command.getIoNum.code
def checkForSetIo := checkFor 9 Command.setIo.code
def checkForGetIoStatus := checkFor 7 Command.getIoStatus.code
def checkForGetTempNum := checkFor 5 Command.getTempNum.code
def checkForGetTempStatus := checkFor 7 Command.getTempStatus.code

/-- `check_for_set_heartbeat` stores the period before it looks at the checksum. -/
def checkForSetHeartbeat (d : Device) (buf : Mem) (num : Nat) : Device × Int :=
  if num < 6 then (d, errorNumIsNotEnough)
  else if checkProtocolHead buf Command.setHeartbeat.code ≠ 0 then (d, errorHeadOrDeviceId)
  else
    let d := { d with heartbeatS := buf 4 }
    if checkForCrc buf num ≠ 0 then (d, errorCrcCheck) else (d, 0)

/-- `check_for_query_uart_sendbuf` selects the port. -/
def checkForQueryUartSendbuf (d : Device) (buf : Mem) (num : Nat) : Device × Int :=
  if num < 6 then (d, errorNumIsNotEnough)
  else if checkProtocolHead buf Command.queryUartSendbuf.code ≠ 0 then (d, errorHeadOrDeviceId)
  else
    let d := { d with getComAttrId := (buf 4).toUInt32 - 1 }
    if checkForCrc buf num ≠ 0 then (d, errorCrcCheck) else (d, 0)

/-- `check_for_uart_send_data` selects the port and the declared length. -/
def checkForUartSendData (d : Device) (buf : Mem) (num : Nat) : Device × Int :=
  if num < 8 then (d, errorNumIsNotEnough)
  else if checkProtocolHead buf Command.uartSendData.code ≠ 0 then (d, errorHeadOrDeviceId)
  else if checkForCrc buf num ≠ 0 then (d, errorCrcCheck)
  else
    ({ d with
        getComAttrId := (buf 4).toUInt32 - 1
        uartSendCnt := (buf 5).toUInt16 * 0x100 + (buf 6).toUInt16 }, 0)

def uartRecvPollMode : UInt8 := 0
def uartRecvIntMode : UInt8 := 1

/-- The mode that `check_for_set_uart_recv_attr` stores for a request byte. -/
def uartRecvMode (b : UInt8) : UInt8 :=
  if b = uartRecvPollMode then uartRecvPollMode
  else if b = uartRecvIntMode then uartRecvIntMode
  else uartRecvPollMode

/-- `check_for_set_uart_recv_attr` is the whole command: it stores the receive
mode in `con_com[id].rsvd[0]` and saves. -/
def checkForSetUartRecvAttr (d : Device) (buf : Mem) (num : Nat) : Device × Int :=
  if num < 7 then (d, errorNumIsNotEnough)
  else if checkProtocolHead buf Command.setUartRecvAttr.code ≠ 0 then (d, errorHeadOrDeviceId)
  else if checkForCrc buf num ≠ 0 then (d, errorCrcCheck)
  else
    let id := (buf 4).toUInt32 - 1
    if id = 0 ∨ id = 1 then
      (configSave d (store d.conf (comOff id.toNat + 20) (uartRecvMode (buf 5))), 0)
    else (d, 0)

/-! ## What a check accepts -/

/-- A packet of `num` bytes addressed to this device that carries `id` and is at
least `min` bytes long. -/
structure Accepted (min : Nat) (id : UInt8) (buf : Mem) (num : Nat) : Prop where
  length : min ≤ num
  head1 : buf 0 = protocolHead1
  head2 : buf 1 = protocolHead2
  command : buf 2 = id
  device : buf 3 = alarmDeviceId

theorem checkFor_eq_zero_iff (min : Nat) (id : UInt8) (buf : Mem) (num : Nat) :
    checkFor min id buf num = 0 ↔ Accepted min id buf num := by
  constructor
  · intro h
    unfold checkFor at h
    split at h
    · exact absurd h (by decide)
    · split at h
      · exact absurd h (by decide)
      · next hlen hhead =>
        obtain ⟨h0, h1, h2, h3⟩ :=
          (checkProtocolHead_eq_zero_iff buf id).mp (Decidable.not_not.mp hhead)
        exact ⟨by omega, h0, h1, h2, h3⟩
  · rintro ⟨hlen, h0, h1, h2, h3⟩
    have hhead := (checkProtocolHead_eq_zero_iff buf id).mpr ⟨h0, h1, h2, h3⟩
    rw [checkFor, if_neg (by omega), if_neg (by rw [hhead]; decide)]
    rfl

instance (min : Nat) (id : UInt8) (buf : Mem) (num : Nat) : Decidable (Accepted min id buf num) :=
  decidable_of_iff _ (checkFor_eq_zero_iff min id buf num)

/-- The fixed minimum of a command's check; the arms without one have none. -/
def Command.minLength : Command → Nat
  | getDeviceAttr | getAlarmStatus | getUartQty | getIoNum | getTempNum => 5
  | setHeartbeat | queryUartSendbuf | queryUartRecvData => 6
  | setDeviceAttr | getUartAttr | setUartRecvAttr | getIoStatus | getTempStatus => 7
  | uartSendData => 8
  | setIo => 9
  | setTime => 11
  | setUartAttr => 14
  | getTime | setTemp => 0

/-- `GET_TIME` and `SET_TEMP` have no check function. -/
def Command.hasCheck : Command → Bool
  | getTime | setTemp => false
  | _ => true

/-- Every check asks for the four head bytes and the checksum at least. -/
theorem Command.five_le_minLength {c : Command} (hc : c.hasCheck = true) : 5 ≤ c.minLength := by
  cases c with
  | getTime | setTemp => exact absurd hc (by decide)
  | _ => simp only [Command.minLength]; omega

/-- The three ways through a check. -/
private theorem check_cases (min : Nat) (id : UInt8) (buf : Mem) (num : Nat) :
    (num < min ∧ ¬Accepted min id buf num) ∨
    (¬num < min ∧ checkProtocolHead buf id ≠ 0 ∧ ¬Accepted min id buf num) ∨
    (¬num < min ∧ checkProtocolHead buf id = 0 ∧ Accepted min id buf num) := by
  by_cases hlen : num < min
  · exact .inl ⟨hlen, fun h => absurd h.length (by omega)⟩
  · by_cases hhead : checkProtocolHead buf id = 0
    · obtain ⟨h0, h1, h2, h3⟩ := (checkProtocolHead_eq_zero_iff buf id).mp hhead
      exact .inr (.inr ⟨hlen, hhead, by omega, h0, h1, h2, h3⟩)
    · refine .inr (.inl ⟨hlen, hhead, fun h => hhead ?_⟩)
      exact (checkProtocolHead_eq_zero_iff buf id).mpr ⟨h.head1, h.head2, h.command, h.device⟩

/-- A check that assigns on success leaves the state alone when it refuses. -/
private theorem check_assign (min : Nat) (id : UInt8) (buf : Mem) (num : Nat) (d d' : Device) :
    (if num < min then (d, errorNumIsNotEnough)
      else if checkProtocolHead buf id ≠ 0 then (d, errorHeadOrDeviceId)
      else (d', 0)) =
      if Accepted min id buf num then (d', 0) else (d, checkFor min id buf num) := by
  rcases check_cases min id buf num with ⟨h, hno⟩ | ⟨h, hh, hno⟩ | ⟨h, hh, hacc⟩
  · rw [if_pos h, if_neg hno, checkFor, if_pos h]
  · rw [if_neg h, if_pos hh, if_neg hno, checkFor, if_neg h, if_pos hh]
  · rw [if_neg h, if_neg (by rw [hh]; decide), if_pos hacc]

theorem checkForSetHeartbeat_eq (d : Device) (buf : Mem) (num : Nat) :
    checkForSetHeartbeat d buf num =
      if Accepted 6 Command.setHeartbeat.code buf num then ({ d with heartbeatS := buf 4 }, 0)
      else (d, checkFor 6 Command.setHeartbeat.code buf num) :=
  check_assign 6 _ buf num d _

theorem checkForQueryUartSendbuf_eq (d : Device) (buf : Mem) (num : Nat) :
    checkForQueryUartSendbuf d buf num =
      if Accepted 6 Command.queryUartSendbuf.code buf num then
        ({ d with getComAttrId := (buf 4).toUInt32 - 1 }, 0)
      else (d, checkFor 6 Command.queryUartSendbuf.code buf num) :=
  check_assign 6 _ buf num d _

/-- `buf[5]*0x100+buf[6]`. -/
def declaredCount (buf : Mem) : UInt16 := (buf 5).toUInt16 * 0x100 + (buf 6).toUInt16

/-- The port and the declared length of an accepted `UART_SEND_DATA`. -/
def selectPort (d : Device) (buf : Mem) : Device :=
  { d with getComAttrId := (buf 4).toUInt32 - 1, uartSendCnt := declaredCount buf }

theorem checkForUartSendData_eq (d : Device) (buf : Mem) (num : Nat) :
    checkForUartSendData d buf num =
      if Accepted 8 Command.uartSendData.code buf num then (selectPort d buf, 0)
      else (d, checkFor 8 Command.uartSendData.code buf num) :=
  check_assign 8 _ buf num d _

/-- What an accepted `SET_UART_RECV_ATTR` makes of the state. -/
def setUartRecvAttr (d : Device) (buf : Mem) : Device :=
  let id := (buf 4).toUInt32 - 1
  if id = 0 ∨ id = 1 then
    configSave d (store d.conf (comOff id.toNat + 20) (uartRecvMode (buf 5)))
  else d

/-- The mode bytes lie in the two port records. -/
theorem setUartRecvAttr_above (d : Device) (buf : Mem) {i : Nat} (hi : comOff 2 ≤ i) :
    (setUartRecvAttr d buf).conf i = d.conf i := by
  simp only [comOff] at hi
  unfold setUartRecvAttr
  by_cases hid : (buf 4).toUInt32 - 1 = 0 ∨ (buf 4).toUInt32 - 1 = 1
  · rw [if_pos hid]
    apply store_ne
    rcases hid with h | h <;> rw [h] <;> simp only [comOff, UInt32.reduceToNat] <;> omega
  · rw [if_neg hid]

theorem checkForSetUartRecvAttr_eq (d : Device) (buf : Mem) (num : Nat) :
    checkForSetUartRecvAttr d buf num =
      if Accepted 7 Command.setUartRecvAttr.code buf num then (setUartRecvAttr d buf, 0)
      else (d, checkFor 7 Command.setUartRecvAttr.code buf num) := by
  rw [← check_assign 7 _ buf num d (setUartRecvAttr d buf)]
  unfold checkForSetUartRecvAttr setUartRecvAttr
  simp only [checkForCrc]
  by_cases hid : (buf 4).toUInt32 - 1 = 0 ∨ (buf 4).toUInt32 - 1 = 1
  · simp only [if_pos hid]; rfl
  · simp only [if_neg hid]; rfl

theorem checkFor_ne_zero {min : Nat} {id : UInt8} {buf : Mem} {num : Nat}
    (h : ¬Accepted min id buf num) : checkFor min id buf num ≠ 0 :=
  fun h0 => h ((checkFor_eq_zero_iff min id buf num).mp h0)

end Itertk.Client.Checks
