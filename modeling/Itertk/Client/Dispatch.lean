import Itertk.Client.Replies

/-!
# The dispatcher of `client_process`

One round of `client_process` copies at most 100 received bytes to the start of
the global `buf`, tests the two head bytes there, and switches on `buf[2]`.  The
arms are `clientArm`; `accepted_arm` says that every arm with a check is that
check followed by `perform`, which is what the results below reason about.

Memory has no end here, so that what is written past a buffer changes nothing else.  On the
target three kinds of packets do that: a `SET_IO` with more than eight entries runs past the
local record of `set_io_out`, a `SET_DEVICE_ATTR` with more than 49 pairs past `tmp[100]`, and a
query of more than 1016 collected bytes past `buf_send`.
-/

namespace Itertk.Client.Dispatch

open Itertk.Base.Memory
open Itertk.Daemon.Layout
open Itertk.Daemon.Uart
open Itertk.Daemon.State
open Itertk.Client.Checks
open Itertk.Client.Replies

/-! ## Commands that store a sensor record -/

/-- `set_one_sensor_buf(_buf, pcs)`: the number is stored before it is checked,
and the record is returned with the indices used. -/
def setOneSensorBuf (buf sensor : Mem) : Mem × List Event :=
  let sensor := store sensor 1 (buf 0)
  let num := (buf 0).toNat
  if num = 0 then (store (store sensor 2 0) 10 0, [.sensorIndex 0])
  else if num > singleSensorMaxNum then (sensor, [])
  else
    (forUpTo num (fun j sensor =>
      store (store sensor (2 + j) (buf (1 + 2 * j))) (10 + j) (buf (2 + 2 * j))) sensor,
      sensorIndices num)

/-- `set_alarmin_device_attr` does not look at what `set_one_sensor_buf` returns. -/
def setAlarminDeviceAttr (env : Env) (cmd : Mem) (d : Device) : Outcome :=
  let r := setOneSensorBuf (shift cmd 4) (loadSensor env.stack d.conf sensorTypeIoIn)
  (configSave d (storeSensor d.conf sensorTypeIoIn r.1), r.2)

/-- What round `j` of the loop of `set_io_out` drives; the read index `3 * j` is a
`u8`. -/
def ioOutput (cmd : Mem) (j : Nat) : List Event :=
  let i := 3 * j % 256
  match outputPin (cmd (5 + i)) with
  | some pin => [.gpio pin (cmd (7 + i))]
  | none => []

theorem ioOutput_visible (cmd : Mem) (j : Nat) : ∀ e ∈ ioOutput cmd j, e.visible = true := by
  intro e he
  simp only [ioOutput] at he
  cases hpin : outputPin (cmd (5 + 3 * j % 256)) with
  | none =>
      rw [hpin] at he
      exact absurd he List.not_mem_nil
  | some pin =>
      rw [hpin] at he
      rw [List.mem_singleton.mp he]
      rfl

/-- One round of the loop of `set_io_out`. -/
def setIoRound (cmd : Mem) (j : Nat) (s : Mem × List Event) : Mem × List Event :=
  let i := 3 * j % 256
  let sensor := store (store s.1 (2 + j) (cmd (5 + i))) (10 + j) (cmd (6 + i))
  (sensor, s.2 ++ .sensorIndex j :: ioOutput cmd j)

/-- `set_io_out`: the range test `num == 0 && num > IO_OUT_NUM` never holds. -/
def setIoOut (env : Env) (cmd : Mem) (d : Device) : Outcome :=
  let num := cmd 4
  let sensor := store (store env.stack 0 (UInt8.ofNat sensorTypeIoOut)) 1 num
  if num = 0 ∧ num > ioOutNum then (d, [])
  else
    let r := forUpTo num.toNat (setIoRound cmd) (sensor, [])
    (configSave d (storeSensor d.conf sensorTypeIoOut r.1), r.2)

/-- `set_temp`: the same test, and one pair whatever the number. -/
def setTemp (env : Env) (cmd : Mem) (d : Device) : Outcome :=
  let num := cmd 4
  let sensor := store (store env.stack 0 (UInt8.ofNat sensorTypeSingleBus)) 1 num
  if num = 0 ∧ num > tempNum then (d, [])
  else
    let sensor := store (store sensor 2 (cmd 5)) 10 (cmd 6)
    (configSave d (storeSensor d.conf sensorTypeSingleBus sensor), [.sensorIndex 0])

/-- The range test of `set_io_out` and `set_temp` refuses no count: it joins with
`&&` what `make_ack_get_io_status` joins with `||`. -/
theorem rangeTest_dead (num max : UInt8) : ¬(num = 0 ∧ num > max) := by
  rintro ⟨h0, hgt⟩
  have hlt := UInt8.lt_iff_toNat_lt.mp hgt
  rw [h0] at hlt
  exact Nat.not_lt_zero _ hlt

/-- The record that `set_temp` stores. -/
def tempRecord (env : Env) (cmd : Mem) : Mem :=
  store (store (store (store env.stack 0 (UInt8.ofNat sensorTypeSingleBus)) 1 (cmd 4))
    2 (cmd 5)) 10 (cmd 6)

theorem setTemp_eq (env : Env) (cmd : Mem) (d : Device) :
    setTemp env cmd d =
      (configSave d (storeSensor d.conf sensorTypeSingleBus (tempRecord env cmd)),
        [.sensorIndex 0]) := by
  unfold setTemp
  simp only [if_neg (rangeTest_dead _ _), tempRecord]

/-- The record that `set_io_out` stores, and the events of its loop. -/
def ioRecord (env : Env) (cmd : Mem) : Mem × List Event :=
  forUpTo (cmd 4).toNat (setIoRound cmd)
    (store (store env.stack 0 (UInt8.ofNat sensorTypeIoOut)) 1 (cmd 4), [])

theorem setIoOut_eq (env : Env) (cmd : Mem) (d : Device) :
    setIoOut env cmd d =
      (configSave d (storeSensor d.conf sensorTypeIoOut (ioRecord env cmd).1),
        (ioRecord env cmd).2) := by
  unfold setIoOut
  simp only [if_neg (rangeTest_dead _ _), ioRecord]

/-! ## `SET_UART_ATTR` -/

/-- The locals of `make_ack_set_uart_attr` and what it has done so far. -/
structure UartRun where
  dev : Device
  /-- `config_uart`. -/
  configUart : Mem
  ack : Mem
  events : List Event

/-- The record that round `j` makes of the copy of `con_com[j]`. -/
def uartRecord (old : Mem) (cmd : Mem) (j : Nat) : ConfigCom :=
  let i := 8 * j
  { ConfigCom.load old (comOff j) with
    id := (resetMsb (cmd (5 + i))).toUInt32
    bps := calcBaudRate (cmd (7 + i)) (cmd (8 + i)) (cmd (9 + i))
    dbit := cmd (10 + i)
    sbit := (cmd (11 + i)).toUInt32
    chk := returnLocalOddEven (cmd (12 + i)) }

/-- One round of the loop; `error` is `goto error`.  `old` is `g_conf_info` when
`set_com_attr_max` was copied from it. -/
def setUartRound (old cmd : Mem) (j : Nat) (s : UartRun) : Except UartRun UartRun :=
  let i := 8 * j
  let com := uartRecord old cmd j
  if com.id > 2 then .error s
  else
    let configUart := store (store s.configUart (2 + j) (cmd (5 + i))) (10 + j) (cmd (6 + i))
    if isGoodUart com ≠ setUartAttrPass then .error { s with configUart := configUart }
    else
      let conf := blit s.dev.conf (comIndexOff (com.id - 1)) com.bytes
      let conf := storeSensor conf sensorTypeUart configUart
      let r := comSet (configSave s.dev conf) com
      .ok { dev := r.1
            configUart := configUart
            ack := store (store s.ack (5 + 2 * j) (configUart (2 + j))) (6 + 2 * j) setUartAttrPass
            events := s.events ++ r.2 }

/-- Rounds `j` to `j + n - 1`. -/
def setUartRounds (old cmd : Mem) : Nat → Nat → UartRun → Except UartRun UartRun
  | 0, _, s => .ok s
  | n + 1, j, s =>
      match setUartRound old cmd j s with
      | .error s => .error s
      | .ok s => setUartRounds old cmd n (j + 1) s

/-- Send a built reply. -/
def send (d : Device) (r : Mem × Nat) : Outcome :=
  ({ d with bufSend := r.1 }, [.reply (slice r.1 0 r.2)])

/-- The `error:` label of `make_ack_set_uart_attr`. -/
def setUartError (cmd ack : Mem) : Mem × Nat :=
  finish (store (store (store ack 4 (cmd 4)) 5 0x00) 6 setUartAttrFail) 7

/-- The two ways out of the loop. -/
def setUartReply (cmd : Mem) : Except UartRun UartRun → Outcome
  | .ok s =>
      Outcome.andThen (s.dev, s.events) fun d => send d (finish s.ack (5 + 2 * (cmd 4).toNat))
  | .error s => Outcome.andThen (s.dev, s.events) fun d => send d (setUartError cmd s.ack)

/-- The locals when the loop starts. -/
def uartStart (env : Env) (cmd : Mem) (d : Device) : UartRun :=
  ⟨d, store (loadSensor env.stack d.conf sensorTypeUart) 1 (cmd 4),
    store (makeAckHead d.bufSend protocolAckSetUartAttr) 4 (cmd 4), []⟩

/-- `make_ack_set_uart_attr` and the `write` of its reply. -/
def setUartAttr (env : Env) (cmd : Mem) (d : Device) : Outcome :=
  let num := cmd 4
  if num ≥ 1 ∧ num ≤ 2 then
    setUartReply cmd (setUartRounds d.conf cmd num.toNat 0 (uartStart env cmd d))
  else send d (setUartError cmd (makeAckHead d.bufSend protocolAckSetUartAttr))

/-! ## `UART_SEND_DATA` -/

/-- `uart_send_data(buf)`. -/
def uartSendData (env : Env) (d : Device) (buf : Mem) : Option Int × List Event :=
  let r := sendNetDataToCom env d d.getComAttrId (slice buf 7 d.uartSendCnt.toNat)
  (r.1.map fun ret => if ret = -1 then 0 else ret, r.2)

/-- `make_ack_uart_send_data` and the `write` of its reply; a blocked port sends
none. -/
def makeAckUartSendData (env : Env) (buf : Mem) (d : Device) : Outcome :=
  let m := makeAckHead d.bufSend protocolAckUartSendData
  let m := store m 4 (d.getComAttrId + 1).toUInt8
  if d.getComAttrId ≥ 2 ∨ d.uartSendCnt = 0 ∨ d.uartSendCnt > 0x800 then
    send d (finish (store (store m 5 0) 6 0) 7)
  else
    match uartSendData env d buf with
    | (none, es) => ({ d with bufSend := m }, es)
    | (some ret, es) =>
        let cnt := UInt16.ofInt ret
        let m := store (store m 5 (cnt / 0x100).toUInt8) 6 (cnt % 0x100).toUInt8
        Outcome.andThen (d, es) fun d => send d (finish m 7)

/-! ## The arms -/

/-- The two copies `make_ack_get_uart_attr` starts with, and its reply. -/
def getUartAttr (env : Env) (cmd : Mem) (d : Device) : Outcome :=
  let comMax := blit d.getComAttrMax 0 (slice d.conf (comOff 0) (2 * comSize))
  send { d with getComAttrMax := comMax }
    (makeAckGetUartAttr (loadSensor env.stack d.conf sensorTypeUart) comMax cmd d.bufSend)

def getIoStatus (env : Env) (cmd : Mem) (d : Device) : Outcome :=
  match makeAckGetIoStatus env cmd d.bufSend with
  | (m, some n) => send d (m, n)
  | (m, none) => ({ d with bufSend := m }, [.replyUndefined m])

/-- The indices `get_one_sensor_buf` uses on entry `k`. -/
def sensorReads (conf : Mem) (k : Nat) : List Event := sensorIndices (sensorNum conf k).toNat

def getDeviceAttr (d : Device) : Outcome :=
  Outcome.andThen
    (d, sensorReads d.conf sensorTypeUart ++ sensorReads d.conf sensorTypeIoIn ++
      sensorReads d.conf sensorTypeIoOut ++ sensorReads d.conf sensorTypeSingleBus)
    fun d => send d (makeAckGetDeviceAttr d.conf d.bufSend)

/-- `set_alarmin_device_attr` followed by `make_ack_set_device_attr`. -/
def setDeviceAttr (env : Env) (cmd : Mem) (d : Device) : Outcome :=
  (setAlarminDeviceAttr env cmd d).andThen fun d =>
    Outcome.andThen (d, sensorReads d.conf sensorTypeIoIn) fun d =>
      send d (makeAckSetDeviceAttr env.stack d.conf d.bufSend)

def getAlarmStatus (d : Device) : Outcome :=
  Outcome.andThen (d, sensorReads d.conf sensorTypeIoIn) fun d =>
    send d (makeAckGetAlarmStatus d.conf d.alarmIn d.bufSend)

/-- `LED_D3_ALARM_SERVER_STATUS` and `LED_ON`. -/
def ledAlarmServerStatus : Nat := 34
def ledOn : UInt8 := 0

def setHeartbeatReply (cmd : Mem) (d : Device) : Outcome :=
  (send d (makeAckSetHeartbeat d.bufSend d.heartbeatS)).andThen fun d =>
    (setHeartbeat d heartbeatOnline (cmd 4), [.gpio ledAlarmServerStatus ledOn])

/-- The arms of the switch, over the buffer after the read and the received
length. -/
def clientArm (env : Env) (cmd : Mem) (num : Nat) (d : Device) : Command → Outcome
  | .getDeviceAttr =>
      if checkForGetDeviceAttr cmd num = 0 then getDeviceAttr d else (d, [])
  | .setDeviceAttr =>
      if checkForSetDeviceAttr cmd num = 0 then setDeviceAttr env cmd d else (d, [])
  | .getAlarmStatus =>
      if checkForGetAlarmStatus cmd num = 0 then getAlarmStatus d else (d, [])
  | .getTime => (d, [])
  | .setTime =>
      if checkForSetTime cmd num = 0 then send d (makeAckSetTime d.bufSend) else (d, [])
  | .setHeartbeat =>
      let r := checkForSetHeartbeat d cmd num
      if r.2 = 0 then setHeartbeatReply cmd r.1 else (r.1, [])
  | .getUartQty =>
      if checkForGetUartQty cmd num = 0 then send d (makeAckGetUartQty d.bufSend) else (d, [])
  | .getUartAttr =>
      if checkForGetUartAttr cmd num = 0 then getUartAttr env cmd d else (d, [])
  | .setUartAttr =>
      if checkForSetUartAttr cmd num = 0 then setUartAttr env cmd d else (d, [])
  | .queryUartSendbuf =>
      let r := checkForQueryUartSendbuf d cmd num
      if r.2 = 0 then send r.1 (makeAckQueryUartSendbuf r.1.getComAttrId r.1.bufSend) else (r.1, [])
  | .uartSendData =>
      let r := checkForUartSendData d cmd num
      if r.2 = 0 then makeAckUartSendData env cmd r.1 else (r.1, [])
  | .setUartRecvAttr => ((checkForSetUartRecvAttr d cmd num).1, [])
  | .queryUartRecvData =>
      if checkForQueryUartRecvData cmd num = 0 then
        send d (makeAckQueryUartRecvData d cmd d.bufSend)
      else (d, [])
  | .getIoNum =>
      if checkForGetIoNum cmd num = 0 then send d (makeAckGetIoNum d.bufSend) else (d, [])
  | .setIo =>
      if checkForSetIo cmd num = 0 then setIoOut env cmd d else (d, [])
  | .getIoStatus =>
      if checkForGetIoStatus cmd num = 0 then getIoStatus env cmd d else (d, [])
  | .getTempNum =>
      if checkForGetTempNum cmd num = 0 then send d (makeAckGetTempNum d.bufSend) else (d, [])
  | .setTemp => setTemp env cmd d
  | .getTempStatus =>
      if checkForGetTempStatus cmd num = 0 then send d (makeAckGetTempStatus env d.bufSend)
      else (d, [])

/-- From `check_head` on: `cmd` is the buffer after a read of `num` bytes. -/
def clientDispatch (env : Env) (cmd : Mem) (num : Nat) (d : Device) : Outcome :=
  if checkHead cmd ≠ 0 then (d, [])
  else
    match Command.ofByte (cmd 2) with
    | some c => clientArm env cmd num d c
    | none => (d, [])

/-- The most one `read` returns. -/
def readMax : Nat := 100

/-- What one `read` that succeeds delivers. -/
structure Packet where
  bytes : List UInt8
  nonempty : 0 < bytes.length
  short : bytes.length ≤ readMax

/-- The buffer after the read. -/
def received (buf : Mem) (p : Packet) : Mem := blit buf 0 p.bytes

/-- The global receive buffer and the device. -/
structure Receiver where
  buf : Mem
  dev : Device

/-- The handling of bytes that were put at the start of the buffer. -/
def handleBytes (env : Env) (s : Receiver) (bytes : List UInt8) : Receiver × List Event :=
  let cmd := blit s.buf 0 bytes
  let r := clientDispatch env cmd bytes.length s.dev
  (⟨cmd, r.1⟩, r.2)

/-- One read and the handling of what it delivered. -/
def clientStep (env : Env) (s : Receiver) (p : Packet) : Receiver × List Event :=
  handleBytes env s p.bytes

/-! ## What an accepted command does -/

/-- The effect of a command that its check has let through. -/
def perform (env : Env) (cmd : Mem) (d : Device) : Command → Outcome
  | .getDeviceAttr => getDeviceAttr d
  | .setDeviceAttr => setDeviceAttr env cmd d
  | .getAlarmStatus => getAlarmStatus d
  | .getTime => (d, [])
  | .setTime => send d (makeAckSetTime d.bufSend)
  | .setHeartbeat => setHeartbeatReply cmd { d with heartbeatS := cmd 4 }
  | .getUartQty => send d (makeAckGetUartQty d.bufSend)
  | .getUartAttr => getUartAttr env cmd d
  | .setUartAttr => setUartAttr env cmd d
  | .queryUartSendbuf =>
      send { d with getComAttrId := (cmd 4).toUInt32 - 1 }
        (makeAckQueryUartSendbuf ((cmd 4).toUInt32 - 1) d.bufSend)
  | .uartSendData => makeAckUartSendData env cmd (selectPort d cmd)
  | .setUartRecvAttr => (setUartRecvAttr d cmd, [])
  | .queryUartRecvData => send d (makeAckQueryUartRecvData d cmd d.bufSend)
  | .getIoNum => send d (makeAckGetIoNum d.bufSend)
  | .setIo => setIoOut env cmd d
  | .getIoStatus => getIoStatus env cmd d
  | .getTempNum => send d (makeAckGetTempNum d.bufSend)
  | .setTemp => setTemp env cmd d
  | .getTempStatus => send d (makeAckGetTempStatus env d.bufSend)

private theorem checked_arm {min : Nat} {id : UInt8} (cmd : Mem) (num : Nat) (d : Device)
    (o : Outcome) :
    (if checkFor min id cmd num = 0 then o else (d, [])) =
      if Accepted min id cmd num then o else (d, []) := by
  simp only [checkFor_eq_zero_iff]

private theorem assigning_arm {min : Nat} {id : UInt8} (cmd : Mem) (num : Nat) (d d' : Device)
    (f : Device → Outcome) (r : Device × Int)
    (hr : r = if Accepted min id cmd num then (d', 0) else (d, checkFor min id cmd num)) :
    (if r.2 = 0 then f r.1 else (r.1, [])) =
      if Accepted min id cmd num then f d' else (d, []) := by
  subst hr
  by_cases h : Accepted min id cmd num
  · simp only [if_pos h, if_true]
  · simp only [if_neg h, if_neg (checkFor_ne_zero h)]

/-- Every arm with a check is that check followed by its effect: a refused packet
leaves the state alone and does nothing. -/
theorem accepted_arm (env : Env) (cmd : Mem) (num : Nat) (d : Device) (c : Command)
    (hc : c.hasCheck = true) :
    clientArm env cmd num d c =
      if Accepted c.minLength c.code cmd num then perform env cmd d c else (d, []) := by
  cases c with
  | getTime | setTemp => exact absurd hc (by decide)
  | setHeartbeat =>
      exact assigning_arm cmd num d _ (setHeartbeatReply cmd) _ (checkForSetHeartbeat_eq d cmd num)
  | queryUartSendbuf =>
      exact assigning_arm cmd num d _
        (fun d => send d (makeAckQueryUartSendbuf d.getComAttrId d.bufSend)) _
        (checkForQueryUartSendbuf_eq d cmd num)
  | uartSendData =>
      exact assigning_arm cmd num d _ (makeAckUartSendData env cmd) _
        (checkForUartSendData_eq d cmd num)
  | setUartRecvAttr =>
      show ((checkForSetUartRecvAttr d cmd num).1, []) = _
      rw [checkForSetUartRecvAttr_eq]
      by_cases h : Accepted 7 Command.setUartRecvAttr.code cmd num
      · rw [if_pos h, Command.minLength, if_pos h, perform]
      · rw [if_neg h, Command.minLength, if_neg h]
  | _ => exact checked_arm cmd num d _

/-- The packet gets past the head test and the check of command `c`, if it has
one. -/
structure Reaches (cmd : Mem) (num : Nat) (c : Command) : Prop where
  head : checkHead cmd = 0
  command : cmd 2 = c.code
  accepted : c.hasCheck = true → Accepted c.minLength c.code cmd num

theorem Reaches.unique {cmd : Mem} {num : Nat} {c c' : Command} (h : Reaches cmd num c)
    (h' : Reaches cmd num c') : c = c' := by
  have hcode := Command.ofByte_code c
  rw [← h.command, h'.command, Command.ofByte_code] at hcode
  exact (Option.some.inj hcode).symm

/-- An accepted packet has the right head. -/
theorem Accepted.reaches {cmd : Mem} {num : Nat} {c : Command}
    (h : Accepted c.minLength c.code cmd num) : Reaches cmd num c :=
  ⟨(checkHead_eq_zero_iff cmd).mpr ⟨h.head1, h.head2⟩, h.command, fun _ => h⟩

theorem clientDispatch_reaches (env : Env) {cmd : Mem} {num : Nat} (d : Device) {c : Command}
    (h : Reaches cmd num c) : clientDispatch env cmd num d = perform env cmd d c := by
  have harm : clientDispatch env cmd num d = clientArm env cmd num d c := by
    rw [clientDispatch, if_neg (by rw [h.head]; decide), h.command, Command.ofByte_code]
  rw [harm]
  cases hc : c.hasCheck with
  | true => rw [accepted_arm env cmd num d c hc, if_pos (h.accepted hc)]
  | false =>
      cases c with
      | getTime | setTemp => rfl
      | _ => exact absurd hc (by decide)

/-- A packet that reaches no command does nothing. -/
theorem clientDispatch_refused (env : Env) {cmd : Mem} {num : Nat} (d : Device)
    (h : ∀ c, ¬Reaches cmd num c) : clientDispatch env cmd num d = (d, []) := by
  unfold clientDispatch
  by_cases hhead : checkHead cmd = 0
  · rw [if_neg (by rw [hhead]; decide)]
    cases hcmd : Command.ofByte (cmd 2) with
    | none => rfl
    | some c =>
        have hcode := Command.ofByte_eq_some hcmd
        have hcheck : c.hasCheck = true := by
          cases hc : c.hasCheck with
          | true => rfl
          | false => exact absurd ⟨hhead, hcode, fun h => by rw [hc] at h; cases h⟩ (h c)
        show clientArm env cmd num d c = _
        rw [accepted_arm env cmd num d c hcheck, if_neg]
        exact fun hacc => h c ⟨hhead, hcode, fun _ => hacc⟩
  · rw [if_pos hhead]

theorem clientDispatch_cases (env : Env) (cmd : Mem) (num : Nat) (d : Device) :
    (∃ c, Reaches cmd num c ∧ clientDispatch env cmd num d = perform env cmd d c) ∨
      ((∀ c, ¬Reaches cmd num c) ∧ clientDispatch env cmd num d = (d, [])) := by
  by_cases h : ∃ c, Reaches cmd num c
  · obtain ⟨c, hc⟩ := h
    exact .inl ⟨c, hc, clientDispatch_reaches env d hc⟩
  · have hno : ∀ c, ¬Reaches cmd num c := fun c hc => h ⟨c, hc⟩
    exact .inr ⟨hno, clientDispatch_refused env d hno⟩

/-- A packet that reaches the arm of a command is handled by it. -/
theorem clientStep_reaches (env : Env) (s : Receiver) {p : Packet} {c : Command}
    (h : Reaches (received s.buf p) p.bytes.length c) :
    clientStep env s p =
      (⟨received s.buf p, (perform env (received s.buf p) s.dev c).1⟩,
        (perform env (received s.buf p) s.dev c).2) :=
  congrArg (fun o : Outcome => (Receiver.mk (received s.buf p) o.1, o.2))
    (clientDispatch_reaches env s.dev h)

/-- A packet with the code of a command that does not let it through changes nothing. -/
theorem clientStep_refused (env : Env) (s : Receiver) {p : Packet} {c : Command}
    (hcode : p.bytes[2]? = some c.code) (h : ¬Reaches (received s.buf p) p.bytes.length c) :
    clientStep env s p = (⟨received s.buf p, s.dev⟩, []) := by
  refine congrArg (fun o : Outcome => (Receiver.mk (received s.buf p) o.1, o.2))
    (clientDispatch_refused env s.dev fun c' hc' => h ?_)
  have hcmd : blit s.buf 0 p.bytes 2 = c.code := blit_of_getElem? s.buf 0 hcode
  have hfind := Command.ofByte_code c'
  rw [← hc'.command, hcmd, Command.ofByte_code] at hfind
  obtain rfl : c = c' := Option.some.inj hfind
  exact hc'

/-! ## Case lemmas -/

/-- `UART_SEND_DATA` is refused with a zero count, or hands the declared bytes to
the port and replies unless the port blocks. -/
theorem makeAckUartSendData_cases (env : Env) (buf : Mem) (d : Device) :
    ((d.getComAttrId ≥ 2 ∨ d.uartSendCnt = 0 ∨ d.uartSendCnt > 0x800) ∧
      ∃ r, makeAckUartSendData env buf d = send d r) ∨
    (¬(d.getComAttrId ≥ 2 ∨ d.uartSendCnt = 0 ∨ d.uartSendCnt > 0x800) ∧
      (((uartSendData env d buf).1 = none ∧ ∃ m,
          makeAckUartSendData env buf d = ({ d with bufSend := m }, (uartSendData env d buf).2)) ∨
        ∃ r, makeAckUartSendData env buf d =
          Outcome.andThen (d, (uartSendData env d buf).2) fun d => send d r)) := by
  unfold makeAckUartSendData
  by_cases h : d.getComAttrId ≥ 2 ∨ d.uartSendCnt = 0 ∨ d.uartSendCnt > 0x800
  · exact .inl ⟨h, _, if_pos h⟩
  · refine .inr ⟨h, ?_⟩
    simp only [if_neg h]
    cases hr : uartSendData env d buf with
    | mk ret es =>
        cases ret with
        | none => exact .inl ⟨rfl, _, rfl⟩
        | some ret => exact .inr ⟨_, rfl⟩

theorem uartSendData_events (env : Env) (d : Device) (buf : Mem) :
    ∀ e ∈ (uartSendData env d buf).2, ∃ fd rest, e = .serial fd rest := by
  intro e he
  have hloop := writenLoop_events (d.gcomfd d.getComAttrId)
    (slice buf 7 d.uartSendCnt.toNat).length env.writes (slice buf 7 d.uartSendCnt.toNat)
  unfold uartSendData sendNetDataToCom writen writenRs485 at he
  split at he
  · obtain ⟨rest, hrest⟩ := hloop e he
    exact ⟨_, rest, hrest⟩
  · split at he
    · obtain ⟨rest, hrest⟩ := hloop e he
      exact ⟨_, rest, hrest⟩
    · exact absurd he (by simp)

/-- A blocked port has been handed the payload. -/
theorem uartSendData_blocked {env : Env} {d : Device} {buf : Mem}
    (h : (uartSendData env d buf).1 = none) :
    ∃ e ∈ (uartSendData env d buf).2, e.visible = true := by
  have hcall : ∀ {rs : List Int} {data : List UInt8} {n : Nat},
      (writenLoop (d.gcomfd d.getComAttrId) n rs data).1 = none →
      ∃ e ∈ (writenLoop (d.gcomfd d.getComAttrId) n rs data).2, e.visible = true := by
    intro rs data n hb
    obtain ⟨es, hes⟩ := writenLoop_head (d.gcomfd d.getComAttrId) n rs (writenLoop_blocked hb)
    exact ⟨_, by rw [hes]; exact List.mem_cons_self, rfl⟩
  unfold uartSendData sendNetDataToCom at h ⊢
  by_cases h0 : d.rsType = 0
  · simp only [if_pos h0, Option.map_eq_none_iff] at h ⊢
    exact hcall h
  · by_cases h1 : d.rsType = 1
    · simp only [if_neg h0, if_pos h1, Option.map_eq_none_iff] at h ⊢
      exact hcall h
    · simp only [if_neg h0, if_neg h1] at h
      cases h

theorem getIoStatus_cases (env : Env) (cmd : Mem) (d : Device) :
    (∃ r, getIoStatus env cmd d = send d r) ∨
      ∃ m, getIoStatus env cmd d = ({ d with bufSend := m }, [.replyUndefined m]) := by
  unfold getIoStatus
  cases makeAckGetIoStatus env cmd d.bufSend with
  | mk m n =>
      cases n with
      | none => exact .inr ⟨m, rfl⟩
      | some n => exact .inl ⟨(m, n), rfl⟩

/-! ## The rounds of `SET_UART_ATTR` -/

/-- The state in which the loop was left, by either exit. -/
def UartRun.atExit : Except UartRun UartRun → UartRun
  | .ok s => s
  | .error s => s

/-- `config_uart` after round `j` has copied the packet's id and attr. -/
def uartEntry (cmd : Mem) (j : Nat) (configUart : Mem) : Mem :=
  store (store configUart (2 + j) (cmd (5 + 8 * j))) (10 + j) (cmd (6 + 8 * j))

/-- A round leaves at an id above 2, leaves at illegal line settings, or stores
the record, the sensor entry and the image and programs the port. -/
theorem setUartRound_cases (old cmd : Mem) (j : Nat) (s : UartRun) :
    let com := uartRecord old cmd j
    let configUart := uartEntry cmd j s.configUart
    (com.id > 2 ∧ setUartRound old cmd j s = .error s) ∨
    (com.id ≤ 2 ∧ ¬GoodLine com ∧
      setUartRound old cmd j s = .error { s with configUart := configUart }) ∨
    (com.id ≤ 2 ∧ GoodLine com ∧
      let conf := storeSensor (blit s.dev.conf (comIndexOff (com.id - 1)) com.bytes)
        sensorTypeUart configUart
      let r := comSet (configSave s.dev conf) com
      setUartRound old cmd j s = .ok
        ⟨r.1, configUart,
          store (store s.ack (5 + 2 * j) (configUart (2 + j))) (6 + 2 * j) setUartAttrPass,
          s.events ++ r.2⟩) := by
  intro com configUart
  unfold setUartRound
  by_cases hid : com.id > 2
  · exact .inl ⟨hid, if_pos hid⟩
  · have hle : com.id ≤ 2 := UInt32.not_lt.mp hid
    by_cases hgood : GoodLine com
    · have hpass : ¬isGoodUart com ≠ setUartAttrPass :=
        not_not_intro ((isGoodUart_iff com).mpr hgood)
      exact .inr (.inr ⟨hle, hgood, by rw [if_neg hid]; exact if_neg hpass⟩)
    · have hfail : isGoodUart com ≠ setUartAttrPass := fun h => hgood ((isGoodUart_iff com).mp h)
      exact .inr (.inl ⟨hle, hgood, by rw [if_neg hid]; exact if_pos hfail⟩)

/-- What every round of the loop keeps is true where it is left. -/
theorem setUartRounds_keeps (old cmd : Mem) {P : UartRun → Prop} (n j : Nat)
    (hround : ∀ i s, j ≤ i → i < j + n → P s → P (UartRun.atExit (setUartRound old cmd i s)))
    {s : UartRun} (hs : P s) : P (UartRun.atExit (setUartRounds old cmd n j s)) := by
  induction n generalizing j s with
  | zero => exact hs
  | succ n ih =>
      have h := hround j s (by omega) (by omega) hs
      rw [setUartRounds]
      cases hr : setUartRound old cmd j s with
      | error s' => rw [hr] at h; exact h
      | ok s' =>
          rw [hr] at h
          exact ih (j + 1) (fun i s hle hlt => hround i s (by omega) (by omega)) h

/-- What any round keeps is true where the loop is left. -/
theorem setUartRounds_invariant (old cmd : Mem) {P : UartRun → Prop}
    (hround : ∀ j s, P s → P (UartRun.atExit (setUartRound old cmd j s))) (n j : Nat)
    {s : UartRun} (hs : P s) : P (UartRun.atExit (setUartRounds old cmd n j s)) :=
  setUartRounds_keeps old cmd n j (fun i s _ _ => hround i s) hs

/-- The command replies from the start, when the count is illegal, or from where
its loop was left. -/
theorem setUartAttr_cases (env : Env) (cmd : Mem) (d : Device) :
    (∃ r, setUartAttr env cmd d = send d r) ∨
    (1 ≤ cmd 4 ∧ cmd 4 ≤ 2 ∧ ∃ r,
      let s := UartRun.atExit (setUartRounds d.conf cmd (cmd 4).toNat 0 (uartStart env cmd d))
      setUartAttr env cmd d = Outcome.andThen (s.dev, s.events) fun d => send d r) := by
  unfold setUartAttr
  by_cases hn : cmd 4 ≥ 1 ∧ cmd 4 ≤ 2
  · refine .inr ⟨hn.1, hn.2, ?_⟩
    simp only [if_pos hn]
    cases setUartRounds d.conf cmd (cmd 4).toNat 0 (uartStart env cmd d) with
    | ok s => exact ⟨_, rfl⟩
    | error s => exact ⟨_, rfl⟩
  · simp only [if_neg hn]
    exact .inl ⟨_, rfl⟩

/-- A count byte between 1 and 2. -/
theorem count_cases {x : UInt8} (h : x ≥ 1 ∧ x ≤ 2) : x = 1 ∨ x = 2 := by
  have hlow : 1 ≤ x.toNat := UInt8.le_iff_toNat_le.mp h.1
  have hhigh : x.toNat ≤ 2 := UInt8.le_iff_toNat_le.mp h.2
  have heq : x.toNat = 1 ∨ x.toNat = 2 := by omega
  cases heq with
  | inl h1 => exact .inl (UInt8.toNat_inj.mp h1)
  | inr h2 => exact .inr (UInt8.toNat_inj.mp h2)

/-- A port id of at most 2 selects one of three places: the two records and the
28 bytes before the table. -/
theorem comIndexOff_of_le {id : UInt32} (h : id ≤ 2) :
    (id = 0 ∧ comIndexOff (id - 1) = 304) ∨ (id = 1 ∧ comIndexOff (id - 1) = comOff 0) ∨
      (id = 2 ∧ comIndexOff (id - 1) = comOff 1) := by
  have hn : id.toNat ≤ 2 := UInt32.le_iff_toNat_le.mp h
  have hcases : id.toNat = 0 ∨ id.toNat = 1 ∨ id.toNat = 2 := by omega
  rcases hcases with h0 | h0 | h0
  · obtain rfl : id = 0 := UInt32.toNat_inj.mp h0
    exact .inl ⟨rfl, by decide⟩
  · obtain rfl : id = 1 := UInt32.toNat_inj.mp h0
    exact .inr (.inl ⟨rfl, by decide⟩)
  · obtain rfl : id = 2 := UInt32.toNat_inj.mp h0
    exact .inr (.inr ⟨rfl, by decide⟩)

/-! ## What a command can do to the globals -/

/-- The configuration, its file, the heartbeat and the received serial data are as they
were. -/
structure Scratch (d d' : Device) : Prop where
  conf : d'.conf = d.conf
  saved : d'.saved = d.saved
  flag : d'.reconnectFlag = d.reconnectFlag
  period : d'.heartbeatS = d.heartbeatS
  timeout : d'.heartbeatTimeout = d.heartbeatTimeout
  cnt1 : d'.uart1Cnt = d.uart1Cnt
  cnt2 : d'.uart2Cnt = d.uart2Cnt
  buf1 : d'.uart1RecvBuf = d.uart1RecvBuf
  buf2 : d'.uart2RecvBuf = d.uart2RecvBuf

/-- Changes of the other globals, and changes of the configuration that are saved. -/
inductive Works : Device → Device → Prop where
  | scratch {d d' : Device} : Scratch d d' → Works d d'
  | save (d : Device) (conf : Mem) : Works d (configSave d conf)
  | trans {d d' d'' : Device} : Works d d' → Works d' d'' → Works d d''

theorem Works.refl (d : Device) : Works d d :=
  .scratch ⟨rfl, rfl, rfl, rfl, rfl, rfl, rfl, rfl, rfl⟩

private theorem send_works (d : Device) (r : Mem × Nat) : Works d (send d r).1 :=
  .scratch ⟨rfl, rfl, rfl, rfl, rfl, rfl, rfl, rfl, rfl⟩

theorem comSet_works (d : Device) (c : ConfigCom) : Works d (comSet d c).1 := by
  rcases comSet_cases d c with h | h <;> rw [h]
  · exact .refl d
  · exact .scratch ⟨rfl, rfl, rfl, rfl, rfl, rfl, rfl, rfl, rfl⟩

private theorem setUartAttr_works (env : Env) (cmd : Mem) (d : Device) :
    Works d (setUartAttr env cmd d).1 := by
  rcases setUartAttr_cases env cmd d with ⟨r, h⟩ | ⟨_, _, r, h⟩
  · rw [h]
    exact send_works d r
  · have hloop : Works d (UartRun.atExit
        (setUartRounds d.conf cmd (cmd 4).toNat 0 (uartStart env cmd d))).dev := by
      apply setUartRounds_invariant d.conf cmd (P := fun s => Works d s.dev) _ _ _ (.refl d)
      intro j s hs
      rcases setUartRound_cases d.conf cmd j s with ⟨_, hr⟩ | ⟨_, _, hr⟩ | ⟨_, _, hr⟩
      · rw [hr]
        exact hs
      · rw [hr]
        exact hs
      · rw [hr]
        exact (hs.trans (.save _ _)).trans (comSet_works _ _)
    rw [h]
    exact hloop.trans (send_works _ r)

private theorem makeAckUartSendData_works (env : Env) (buf : Mem) (d : Device) :
    Works d (makeAckUartSendData env buf d).1 := by
  rcases makeAckUartSendData_cases env buf d with ⟨_, r, h⟩ | ⟨_, ⟨_, m, h⟩ | ⟨r, h⟩⟩ <;> rw [h]
  · exact send_works d r
  · exact .scratch ⟨rfl, rfl, rfl, rfl, rfl, rfl, rfl, rfl, rfl⟩
  · exact send_works d r

/-- Every command but `SET_HEARTBEAT` works so. -/
theorem perform_works (env : Env) (cmd : Mem) (d : Device) {c : Command}
    (hc : c ≠ .setHeartbeat) : Works d (perform env cmd d c).1 := by
  cases c with
  | setHeartbeat => exact absurd rfl hc
  | setUartAttr => exact setUartAttr_works env cmd d
  | uartSendData =>
      have hport : Works d (selectPort d cmd) :=
        .scratch ⟨rfl, rfl, rfl, rfl, rfl, rfl, rfl, rfl, rfl⟩
      exact hport.trans (makeAckUartSendData_works env cmd _)
  | getIoStatus =>
      rcases getIoStatus_cases env cmd d with ⟨r, h⟩ | ⟨m, h⟩ <;> rw [perform, h]
      · exact send_works d r
      · exact .scratch ⟨rfl, rfl, rfl, rfl, rfl, rfl, rfl, rfl, rfl⟩
  | setUartRecvAttr =>
      simp only [perform, setUartRecvAttr]
      split
      · exact .save d _
      · exact .refl d
  | setDeviceAttr => exact (Works.save d _).trans (send_works _ _)
  | setIo =>
      rw [perform, setIoOut_eq]
      exact .save d _
  | setTemp =>
      rw [perform, setTemp_eq]
      exact .save d _
  | getTime => exact .refl d
  | getUartAttr =>
      have hcopy : Works d { d with
          getComAttrMax := blit d.getComAttrMax 0 (slice d.conf (comOff 0) (2 * comSize)) } :=
        .scratch ⟨rfl, rfl, rfl, rfl, rfl, rfl, rfl, rfl, rfl⟩
      exact hcopy.trans (send_works _ _)
  | queryUartSendbuf =>
      have hport : Works d { d with getComAttrId := (cmd 4).toUInt32 - 1 } :=
        .scratch ⟨rfl, rfl, rfl, rfl, rfl, rfl, rfl, rfl, rfl⟩
      exact hport.trans (send_works _ _)
  | _ => exact send_works d _

end Itertk.Client.Dispatch
