import Itertk.Client.Dispatch

/-!
# Which bytes a command reads

The checks compare the received length with a fixed minimum; how far a handler
reads depends on counts inside the packet.  `readsReceived` is, per command, the
condition under which all the bytes that matter were received, and
`clientDispatch_congr` says that the packet's outcome is then a function of those
bytes: two buffers that agree on the received length give the same device state
and the same events.
-/

namespace Itertk.Client.ReadRange

open Itertk.Base.Memory
open Itertk.Daemon.Layout
open Itertk.Daemon.Uart
open Itertk.Daemon.State
open Itertk.Client.Checks
open Itertk.Client.Replies
open Itertk.Client.Dispatch

/-! ## The condition -/

/-- `UART_SEND_DATA` hands its payload to a port. -/
def SendsPayload (d : Device) (cmd : Mem) : Prop :=
  ¬((cmd 4).toUInt32 - 1 ≥ 2 ∨ declaredCount cmd = 0 ∨ declaredCount cmd > 0x800) ∧
    (d.rsType = 0 ∨ d.rsType = 1)

/-- `SET_UART_ATTR` gets to the line settings of its second record. -/
def ReachesSecondRecord (d : Device) (cmd : Mem) : Prop :=
  cmd 4 = 2 ∧ (uartRecord d.conf cmd 0).id ≤ 2 ∧ GoodLine (uartRecord d.conf cmd 0) ∧
    (uartRecord d.conf cmd 1).id ≤ 2

/-- The bytes that decide what command `c` does are among the `n` received ones.
The record of `SET_IO` has room for eight attributes, so the last one is not
looked at when there are more. -/
def readsReceived (d : Device) (cmd : Mem) (n : Nat) : Command → Prop
  | .setDeviceAttr => (cmd 4).toNat ≤ singleSensorMaxNum → 5 + 2 * (cmd 4).toNat ≤ n
  | .setUartAttr => ReachesSecondRecord d cmd → n < 21 →
      ∀ cmd', AgreeBelow n cmd cmd' → ¬GoodLine (uartRecord d.conf cmd' 1)
  | .uartSendData => SendsPayload d cmd → 7 + (declaredCount cmd).toNat ≤ n
  | .setIo =>
      let num := (cmd 4).toNat
      num = 0 ∨ (3 * num + 3 ≤ n ∧ (num ≤ singleSensorMaxNum → 3 * num + 4 ≤ n) ∧
        (outputPin (cmd (3 * num + 2)) ≠ none → 3 * num + 5 ≤ n))
  | .getIoStatus => ¬(cmd 4 = 0 ∨ cmd 4 > ioOutNum) → 5 + (cmd 4).toNat ≤ n
  | .setTemp => 7 ≤ n
  | _ => True

/-! ## One command at a time -/

private theorem setDeviceAttr_congr (env : Env) (d : Device) {cmd cmd' : Mem} (h4 : cmd 4 = cmd' 4)
    (h : (cmd 4).toNat ≤ singleSensorMaxNum →
      ∀ i, i < 5 + 2 * (cmd 4).toNat → cmd i = cmd' i) :
    setDeviceAttr env cmd d = setDeviceAttr env cmd' d := by
  have hbuf : ∀ sensor, setOneSensorBuf (shift cmd 4) sensor =
      setOneSensorBuf (shift cmd' 4) sensor := by
    intro sensor
    have h0 : shift cmd 4 0 = shift cmd' 4 0 := h4
    unfold setOneSensorBuf
    rw [← h0]
    by_cases hz : (shift cmd 4 0).toNat = 0
    · simp only [if_pos hz]
    · by_cases h8 : (shift cmd 4 0).toNat > singleSensorMaxNum
      · simp only [if_neg hz, if_pos h8]
      · simp only [if_neg hz, if_neg h8]
        have hread := h (Nat.not_lt.mp h8)
        have hnum : shift cmd 4 0 = cmd 4 := rfl
        rw [forUpTo_congr]
        intro j hj sensor
        rw [hnum] at hj
        rw [show shift cmd 4 (1 + 2 * j) = shift cmd' 4 (1 + 2 * j) from hread _ (by omega),
          show shift cmd 4 (2 + 2 * j) = shift cmd' 4 (2 + 2 * j) from hread _ (by omega)]
  unfold setDeviceAttr setAlarminDeviceAttr
  rw [hbuf]

private theorem getIoStatus_congr (env : Env) (d : Device) {cmd cmd' : Mem} (h4 : cmd 4 = cmd' 4)
    (h : ¬(cmd 4 = 0 ∨ cmd 4 > ioOutNum) → ∀ i, i < 5 + (cmd 4).toNat → cmd i = cmd' i) :
    getIoStatus env cmd d = getIoStatus env cmd' d := by
  have hack : makeAckGetIoStatus env cmd d.bufSend = makeAckGetIoStatus env cmd' d.bufSend := by
    unfold makeAckGetIoStatus
    rw [← h4]
    by_cases hbad : cmd 4 = 0 ∨ cmd 4 > ioOutNum
    · simp only [if_pos hbad]
    · simp only [if_neg hbad]
      rw [forUpTo_congr]
      intro j hj s
      unfold putIoStatus
      rw [h hbad (5 + j) (by omega)]
  unfold getIoStatus
  rw [hack]

private theorem setTemp_congr (env : Env) (d : Device) {cmd cmd' : Mem} (h4 : cmd 4 = cmd' 4)
    (h5 : cmd 5 = cmd' 5) (h6 : cmd 6 = cmd' 6) : setTemp env cmd d = setTemp env cmd' d := by
  rw [setTemp_eq, setTemp_eq, tempRecord, tempRecord, h4, h5, h6]

private theorem makeAckUartSendData_congr (env : Env) (d : Device) {cmd cmd' : Mem}
    (h : ¬(d.getComAttrId ≥ 2 ∨ d.uartSendCnt = 0 ∨ d.uartSendCnt > 0x800) →
      (d.rsType = 0 ∨ d.rsType = 1) → ∀ i, i < 7 + d.uartSendCnt.toNat → cmd i = cmd' i) :
    makeAckUartSendData env cmd d = makeAckUartSendData env cmd' d := by
  by_cases hbad : d.getComAttrId ≥ 2 ∨ d.uartSendCnt = 0 ∨ d.uartSendCnt > 0x800
  · simp only [makeAckUartSendData, if_pos hbad]
  · have hsend : uartSendData env d cmd = uartSendData env d cmd' := by
      unfold uartSendData sendNetDataToCom
      by_cases hrs : d.rsType = 0 ∨ d.rsType = 1
      · have hread := h hbad hrs
        have hslice : slice cmd 7 d.uartSendCnt.toNat = slice cmd' 7 d.uartSendCnt.toNat := by
          rw [slice_eq_iff]
          intro i hi
          exact hread (7 + i) (by omega)
        rw [hslice]
      · rw [not_or] at hrs
        simp only [if_neg hrs.1, if_neg hrs.2]
    simp only [makeAckUartSendData, if_neg hbad, hsend]

/-! ## `SET_IO` -/

/-- Two loops over buffers that agree where it matters leave records that agree
on the eighteen bytes stored, and the same events. -/
theorem setIoLoop_congr (cmd cmd' sensor : Mem) (n : Nat)
    (h : ∀ j, j < n → cmd (5 + 3 * j % 256) = cmd' (5 + 3 * j % 256) ∧
      (j < singleSensorMaxNum → cmd (6 + 3 * j % 256) = cmd' (6 + 3 * j % 256)) ∧
      (outputPin (cmd (5 + 3 * j % 256)) ≠ none →
        cmd (7 + 3 * j % 256) = cmd' (7 + 3 * j % 256))) :
    AgreeBelow sensorSize (forUpTo n (setIoRound cmd) (sensor, [])).1
        (forUpTo n (setIoRound cmd') (sensor, [])).1 ∧
      (forUpTo n (setIoRound cmd) (sensor, [])).2 =
        (forUpTo n (setIoRound cmd') (sensor, [])).2 := by
  induction n with
  | zero => exact ⟨AgreeBelow.refl _ _, rfl⟩
  | succ n ih =>
      obtain ⟨hrec, hev⟩ := ih fun j hj => h j (by omega)
      obtain ⟨hseq, hattr, hval⟩ := h n (by omega)
      rw [forUpTo_succ, forUpTo_succ]
      constructor
      · intro i hi
        show store (store _ _ (cmd _)) _ (cmd _) i = store (store _ _ (cmd' _)) _ (cmd' _) i
        simp only [store_apply, hseq, hrec i hi]
        by_cases hia : i = 10 + n
        · have hn : n < singleSensorMaxNum := by
            simp only [sensorSize] at hi
            simp only [singleSensorMaxNum]
            omega
          simp only [if_pos hia, hattr hn]
        · simp only [if_neg hia]
      · have hout : ioOutput cmd n = ioOutput cmd' n := by
          simp only [ioOutput, ← hseq]
          cases hpin : outputPin (cmd (5 + 3 * n % 256)) with
          | none => rfl
          | some pin => rw [hval (by rw [hpin]; simp)]
        simp only [setIoRound, hev, hout]

private theorem setIoOut_congr (env : Env) (d : Device) {cmd cmd' : Mem} (h4 : cmd 4 = cmd' 4)
    (h : ∀ j, j < (cmd 4).toNat → cmd (5 + 3 * j % 256) = cmd' (5 + 3 * j % 256) ∧
      (j < singleSensorMaxNum → cmd (6 + 3 * j % 256) = cmd' (6 + 3 * j % 256)) ∧
      (outputPin (cmd (5 + 3 * j % 256)) ≠ none →
        cmd (7 + 3 * j % 256) = cmd' (7 + 3 * j % 256))) :
    setIoOut env cmd d = setIoOut env cmd' d := by
  obtain ⟨hrec, hev⟩ := setIoLoop_congr cmd cmd'
    (store (store env.stack 0 (UInt8.ofNat sensorTypeIoOut)) 1 (cmd 4)) (cmd 4).toNat h
  rw [setIoOut_eq, setIoOut_eq, ioRecord, ioRecord, ← h4, hev,
    storeSensor_congr d.conf sensorTypeIoOut hrec]

/-! ## `SET_UART_ATTR` -/

/-- The line settings of record `j` come from eight bytes of the packet. -/
theorem uartRecord_congr (old : Mem) (j : Nat) {cmd cmd' : Mem}
    (h : ∀ i, 5 + 8 * j ≤ i → i < 13 + 8 * j → cmd i = cmd' i) :
    uartRecord old cmd j = uartRecord old cmd' j := by
  simp only [uartRecord, h (5 + 8 * j) (by omega) (by omega),
    h (7 + 8 * j) (by omega) (by omega), h (8 + 8 * j) (by omega) (by omega),
    h (9 + 8 * j) (by omega) (by omega), h (10 + 8 * j) (by omega) (by omega),
    h (11 + 8 * j) (by omega) (by omega), h (12 + 8 * j) (by omega) (by omega)]

private theorem setUartRound_congr (old : Mem) (j : Nat) (s : UartRun) {cmd cmd' : Mem}
    (h : ∀ i, 5 + 8 * j ≤ i → i < 13 + 8 * j → cmd i = cmd' i) :
    setUartRound old cmd j s = setUartRound old cmd' j s := by
  simp only [setUartRound, uartRecord_congr old j h, h (5 + 8 * j) (by omega) (by omega),
    h (6 + 8 * j) (by omega) (by omega)]

theorem uartRecord_id_congr (old : Mem) (j : Nat) {cmd cmd' : Mem}
    (h : cmd (5 + 8 * j) = cmd' (5 + 8 * j)) :
    (uartRecord old cmd j).id = (uartRecord old cmd' j).id := by
  show (resetMsb (cmd (5 + 8 * j))).toUInt32 = (resetMsb (cmd' (5 + 8 * j))).toUInt32
  rw [h]

/-- The failure reply does not show `config_uart`. -/
theorem setUartReply_error (cmd : Mem) (s : UartRun) (configUart : Mem) :
    setUartReply cmd (.error { s with configUart := configUart }) = setUartReply cmd (.error s) :=
      rfl

/-- A second record with an id above 2, or with illegal settings, fails the
command in one way. -/
theorem setUartRound_fails {old cmd : Mem} {j : Nat} {s : UartRun}
    (h : (uartRecord old cmd j).id > 2 ∨ ¬GoodLine (uartRecord old cmd j)) (cmd₀ : Mem) :
    setUartReply cmd₀ (setUartRound old cmd j s) = setUartReply cmd₀ (.error s) := by
  rcases setUartRound_cases old cmd j s with ⟨_, hr⟩ | ⟨_, _, hr⟩ | ⟨hle, hgood, _⟩
  · rw [hr]
  · rw [hr, setUartReply_error]
  · rcases h with h | h
    · exact absurd hle (UInt32.not_le.mpr h)
    · exact absurd hgood h

private theorem setUartReply_congr {cmd cmd' : Mem} (h4 : cmd 4 = cmd' 4)
    (r : Except UartRun UartRun) :
    setUartReply cmd r = setUartReply cmd' r := by
  cases r with
  | ok s => simp only [setUartReply, h4]
  | error s => simp only [setUartReply, setUartError, h4]

private theorem setUartRounds_one (old cmd : Mem) (j : Nat) (s : UartRun) :
    setUartRounds old cmd 1 j s = setUartRound old cmd j s := by
  unfold setUartRounds
  cases setUartRound old cmd j s <;> rfl

theorem setUartRounds_two (old cmd : Mem) (s : UartRun) :
    setUartRounds old cmd 2 0 s =
      match setUartRound old cmd 0 s with
      | .error s => .error s
      | .ok s => setUartRound old cmd 1 s := by
  rw [setUartRounds]
  cases setUartRound old cmd 0 s with
  | error s => rfl
  | ok s => exact setUartRounds_one old cmd 1 s

/-- The second record has been received, or is refused whatever the missing bytes are. -/
theorem secondRecord_congr {d : Device} {cmd cmd' : Mem} {n : Nat} (hn : 14 ≤ n)
    (hag : AgreeBelow n cmd cmd')
    (hr : (uartRecord d.conf cmd 1).id ≤ 2 → n < 21 →
      ∀ cmd', AgreeBelow n cmd cmd' → ¬GoodLine (uartRecord d.conf cmd' 1)) (s : UartRun) :
    setUartReply cmd (setUartRound d.conf cmd 1 s) =
      setUartReply cmd (setUartRound d.conf cmd' 1 s) := by
  by_cases hall : 21 ≤ n
  · exact congrArg _ (setUartRound_congr d.conf 1 _ fun i _ hi => hag i (by omega))
  · by_cases hid : (uartRecord d.conf cmd 1).id ≤ 2
    · have hbad := hr hid (by omega)
      exact (setUartRound_fails (.inr (hbad cmd (AgreeBelow.refl n cmd))) cmd).trans
        (setUartRound_fails (.inr (hbad cmd' hag)) cmd).symm
    · have hid' : (uartRecord d.conf cmd' 1).id > 2 := by
        rw [← uartRecord_id_congr d.conf 1 (hag 13 (by omega))]
        exact UInt32.not_le.mp hid
      exact (setUartRound_fails (.inl (UInt32.not_le.mp hid)) cmd).trans
        (setUartRound_fails (.inl hid') cmd).symm

private theorem setUartAttr_congr (env : Env) (d : Device) {cmd cmd' : Mem} {n : Nat} (hn : 14 ≤ n)
    (hag : AgreeBelow n cmd cmd') (hr : readsReceived d cmd n .setUartAttr) :
    setUartAttr env cmd d = setUartAttr env cmd' d := by
  have h4 : cmd 4 = cmd' 4 := hag 4 (by omega)
  have hfirst : ∀ s, setUartRound d.conf cmd 0 s = setUartRound d.conf cmd' 0 s := fun s =>
    setUartRound_congr d.conf 0 s fun i _ hi => hag i (by omega)
  have hstart : uartStart env cmd d = uartStart env cmd' d := by rw [uartStart, uartStart, h4]
  unfold setUartAttr
  rw [← h4, ← hstart]
  by_cases hnum : cmd 4 ≥ 1 ∧ cmd 4 ≤ 2
  · simp only [if_pos hnum]
    rw [← setUartReply_congr h4]
    cases count_cases hnum with
    | inl h1 =>
        rw [h1]
        show setUartReply cmd (setUartRounds d.conf cmd 1 0 _) =
          setUartReply cmd (setUartRounds d.conf cmd' 1 0 _)
        rw [setUartRounds_one, setUartRounds_one, hfirst]
    | inr h2 =>
        rw [h2]
        show setUartReply cmd (setUartRounds d.conf cmd 2 0 _) =
          setUartReply cmd (setUartRounds d.conf cmd' 2 0 _)
        rw [setUartRounds_two, setUartRounds_two, ← hfirst]
        rcases setUartRound_cases d.conf cmd 0 (uartStart env cmd d) with
          ⟨_, hr0⟩ | ⟨_, _, hr0⟩ | ⟨hid, hgood, hr0⟩
        · rw [hr0]
        · rw [hr0]
        · rw [hr0]
          exact secondRecord_congr hn hag (fun hid2 => hr ⟨h2, hid, hgood, hid2⟩) _
  · simp only [if_neg hnum]
    simp only [setUartError, h4]

/-! ## The dispatcher -/

/-- What `set_io_out` reads lies in the bytes that are asked for. -/
theorem setIo_received (env : Env) (d : Device) {cmd cmd' : Mem} {n : Nat}
    (hag : AgreeBelow n cmd cmd') (hlen : 9 ≤ n) (hr : readsReceived d cmd n .setIo) :
    setIoOut env cmd d = setIoOut env cmd' d := by
  apply setIoOut_congr env d (hag 4 (by omega))
  intro j hj
  rcases hr with h0 | ⟨hseq, hattr, hval⟩
  · omega
  · refine ⟨hag _ (by omega), fun h8 => hag _ ?_, fun hpin => hag _ ?_⟩
    · -- the last attribute is stored only when it is among the first eight
      by_cases hlast : j + 1 = (cmd 4).toNat
      · have := hattr (by rw [← hlast]; exact h8)
        omega
      · omega
    · by_cases hlast : j + 1 = (cmd 4).toNat ∧ 3 * j % 256 = 3 * j
      · have := hval (by
          rw [← hlast.1, show 3 * (j + 1) + 2 = 5 + 3 * j by omega, ← hlast.2]
          exact hpin)
        omega
      · omega

/-- The payload is read only when it is sent. -/
theorem uartSendData_received (env : Env) (d : Device) {cmd cmd' : Mem} {n : Nat}
    (hag : AgreeBelow n cmd cmd') (hlen : 8 ≤ n) (hr : readsReceived d cmd n .uartSendData) :
    makeAckUartSendData env cmd (selectPort d cmd) =
      makeAckUartSendData env cmd' (selectPort d cmd') := by
  have hport : selectPort d cmd' = selectPort d cmd := by
    simp only [selectPort, declaredCount, hag 4 (by omega), hag 5 (by omega), hag 6 (by omega)]
  rw [hport]
  apply makeAckUartSendData_congr
  intro hok hrs i hi
  have hcnt : 7 + (declaredCount cmd).toNat ≤ n := hr ⟨hok, hrs⟩
  exact hag i (Nat.lt_of_lt_of_le hi hcnt)

/-- A command's effect depends on the received bytes only, when they include the
ones it decides by. -/
theorem perform_congr (env : Env) (d : Device) {cmd cmd' : Mem} {n : Nat} {c : Command}
    (hag : AgreeBelow n cmd cmd') (hmin : c.hasCheck = true → c.minLength ≤ n)
    (hr : readsReceived d cmd n c) : perform env cmd d c = perform env cmd' d c := by
  have hbyte : ∀ i, i < c.minLength → c.hasCheck = true → cmd i = cmd' i :=
    fun i hi hc => hag i (Nat.lt_of_lt_of_le hi (hmin hc))
  cases c with
  | getDeviceAttr | getAlarmStatus | getTime | setTime | getUartQty | getIoNum | getTempNum
  | getTempStatus => rfl
  | setDeviceAttr =>
      exact setDeviceAttr_congr env d (hbyte 4 (by decide) rfl) fun h8 i hi =>
        hag i (Nat.lt_of_lt_of_le hi (hr h8))
  | setHeartbeat => simp only [perform, setHeartbeatReply, hbyte 4 (by decide) rfl]
  | getUartAttr => simp only [perform, getUartAttr, makeAckGetUartAttr, hbyte 4 (by decide) rfl]
  | setUartAttr => exact setUartAttr_congr env d (hmin rfl) hag hr
  | queryUartSendbuf => simp only [perform, hbyte 4 (by decide) rfl]
  | uartSendData => exact uartSendData_received env d hag (hmin rfl) hr
  | setUartRecvAttr =>
      simp only [perform, setUartRecvAttr, hbyte 4 (by decide) rfl, hbyte 5 (by decide) rfl]
  | queryUartRecvData =>
      simp only [perform, makeAckQueryUartRecvData, hbyte 4 (by decide) rfl]
  | setIo => exact setIo_received env d hag (hmin rfl) hr
  | getIoStatus =>
      exact getIoStatus_congr env d (hbyte 4 (by decide) rfl) fun hok i hi =>
        hag i (Nat.lt_of_lt_of_le hi (hr hok))
  | setTemp =>
      have hlen : 7 ≤ n := hr
      exact setTemp_congr env d (hag 4 (by omega)) (hag 5 (by omega)) (hag 6 (by omega))

/-- The head test and the checks look at received bytes only. -/
theorem reaches_congr {cmd cmd' : Mem} {n : Nat} {c : Command} (hn : 3 ≤ n)
    (hag : AgreeBelow n cmd cmd') (h : Reaches cmd n c) : Reaches cmd' n c := by
  obtain ⟨h0, h1⟩ := (checkHead_eq_zero_iff cmd).mp h.head
  refine ⟨(checkHead_eq_zero_iff cmd').mpr ⟨?_, ?_⟩, ?_, ?_⟩
  · rw [← hag 0 (by omega)]; exact h0
  · rw [← hag 1 (by omega)]; exact h1
  · rw [← hag 2 (by omega)]; exact h.command
  · intro hc
    have hacc := h.accepted hc
    have hmin := hacc.length
    have hfive := Command.five_le_minLength hc
    refine ⟨hmin, ?_, ?_, ?_, ?_⟩
    · rw [← hag 0 (by omega)]; exact hacc.head1
    · rw [← hag 1 (by omega)]; exact hacc.head2
    · rw [← hag 2 (by omega)]; exact hacc.command
    · rw [← hag 3 (by omega)]; exact hacc.device

/-- With at least the command byte received, and the bytes the command decides
by, the packet's outcome depends on the received bytes only. -/
theorem clientDispatch_congr (env : Env) (d : Device) {cmd cmd' : Mem} {n : Nat} (hn : 3 ≤ n)
    (hag : AgreeBelow n cmd cmd') (hr : ∀ c, Reaches cmd n c → readsReceived d cmd n c) :
    clientDispatch env cmd n d = clientDispatch env cmd' n d := by
  rcases clientDispatch_cases env cmd n d with ⟨c, hc, heq⟩ | ⟨hno, heq⟩
  · rw [heq, clientDispatch_reaches env d (reaches_congr hn hag hc)]
    exact perform_congr env d hag (fun h => (hc.accepted h).length) (hr c hc)
  · rw [heq, clientDispatch_refused env d]
    exact fun c hc => hno c (reaches_congr hn hag.symm hc)

end Itertk.Client.ReadRange
