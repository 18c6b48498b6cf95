import Itertk.Client.ReadRange

/-!
# A packet's effect and the bytes left in the buffer

`client_process` does not clear `buf`, so bytes of earlier packets lie behind the
received ones.  `OnlyThePacket` says that they do not matter: whatever the buffer
held before the read, the configuration and the visible events are the same.
`onlyThePacket_iff` says exactly for which packets this is so; where it is not,
the proof exhibits two earlier contents that lead to different results.

A `SET_IO` whose count is above 8 writes past the record of 18 bytes that `set_io_out` keeps on
its stack, and a `SET_DEVICE_ATTR` whose count is above 49 past `tmp[100]`.  The model's memory has
no end, so that of such packets the results say what they store and send, and nothing of what else
the overrun changes; so it is with a query of more bytes than `buf_send` takes.
-/

namespace Itertk.Client.StaleBytes

open Itertk.Base.Memory
open Itertk.Daemon.Layout
open Itertk.Daemon.Uart
open Itertk.Daemon.State
open Itertk.Client.Checks
open Itertk.Client.Replies
open Itertk.Client.Dispatch
open Itertk.Client.ReadRange

/-- The new configuration and the visible events: pins, terminal settings, serial
data and replies. -/
def observed (o : Outcome) : Mem × List Event := (o.1.conf, o.2.filter Event.visible)

/-- The handling of `p` does not depend on what `buf` held before the read. -/
def OnlyThePacket (env : Env) (d : Device) (p : Packet) : Prop :=
  ∀ buf buf' : Mem,
    observed (clientDispatch env (received buf p) p.bytes.length d) =
      observed (clientDispatch env (received buf' p) p.bytes.length d)

/-- A received byte is not the head byte that belongs in its place. -/
def HeadRefused (p : Packet) : Prop :=
  p.bytes[0]? ≠ some protocolHead1 ∨ ∃ b, p.bytes[1]? = some b ∧ b ≠ protocolHead2

/-- The received bytes refuse the head, or they include the command byte and the
bytes by which the command decides.  `cmd` is the buffer after the read; only
received bytes of it matter. -/
def DecidedByPacket (d : Device) (p : Packet) : Prop :=
  HeadRefused p ∨
    (3 ≤ p.bytes.length ∧
      let cmd := received zero p
      ∀ c, Reaches cmd p.bytes.length c → readsReceived d cmd p.bytes.length c)

/-! ## The condition is enough -/

private theorem received_agree (buf buf' : Mem) (p : Packet) :
    AgreeBelow p.bytes.length (received buf p) (received buf' p) :=
  AgreeBelow.blit buf buf' p.bytes

private theorem received_getElem (buf : Mem) (p : Packet) {i : Nat} {b : UInt8}
    (h : p.bytes[i]? = some b) : received buf p i = b := by
  have := blit_of_getElem? buf 0 h
  rwa [Nat.zero_add] at this

private theorem received_behind (buf : Mem) (p : Packet) {i : Nat} (h : p.bytes.length ≤ i) :
    received buf p i = buf i :=
  blit_after buf p.bytes (by omega)

/-- A refused head stays refused whatever lies behind it. -/
theorem clientDispatch_headRefused (env : Env) (d : Device) (buf : Mem) {p : Packet}
    (h : HeadRefused p) : clientDispatch env (received buf p) p.bytes.length d = (d, []) := by
  have hhead : checkHead (received buf p) ≠ 0 := by
    intro h0
    obtain ⟨h1, h2⟩ := (checkHead_eq_zero_iff _).mp h0
    rcases h with h | ⟨b, hb, hne⟩
    · have hlen := p.nonempty
      have hget : p.bytes[0]? = some p.bytes[0] := List.getElem?_eq_getElem hlen
      rw [received_getElem buf p hget] at h1
      exact h (by rw [hget, h1])
    · rw [received_getElem buf p hb] at h2
      exact hne h2
  rw [clientDispatch, if_pos hhead]

/-- The strong form: not only what is observed, the whole outcome is the same. -/
theorem clientDispatch_decided (env : Env) {d : Device} {p : Packet} (h : DecidedByPacket d p)
    (buf buf' : Mem) :
    clientDispatch env (received buf p) p.bytes.length d =
      clientDispatch env (received buf' p) p.bytes.length d := by
  rcases h with h | ⟨hlen, hr⟩
  · rw [clientDispatch_headRefused env d buf h, clientDispatch_headRefused env d buf' h]
  · have hto : ∀ buf, clientDispatch env (received buf p) p.bytes.length d =
        clientDispatch env (received zero p) p.bytes.length d := fun buf =>
      (clientDispatch_congr env d hlen (received_agree zero buf p) hr).symm
    rw [hto buf, hto buf']

/-! ## Two buffers that tell -/

/-- A buffer whose first three bytes complete a `SET_TEMP` head, and `v` from
there on. -/
def leftover (v : UInt8) : Mem := fun i =>
  if i = 0 then protocolHead1 else if i = 1 then protocolHead2
  else if i = 2 then Command.setTemp.code else v

private theorem received_leftover (v : UInt8) {p : Packet} {i : Nat} (h3 : 3 ≤ i)
    (hi : p.bytes.length ≤ i) : received (leftover v) p i = v := by
  rw [received_behind _ _ hi, leftover, if_neg (by omega), if_neg (by omega), if_neg (by omega)]

/-- Two configurations that differ at one byte are observed. -/
theorem observed_conf_ne {o o' : Outcome} (k : Nat) (h : o.1.conf k ≠ o'.1.conf k) :
    observed o ≠ observed o' := by
  intro heq
  exact h (congrFun (congrArg Prod.fst heq) k)

private theorem observed_events_ne {o o' : Outcome}
    (h : o.2.filter Event.visible ≠ o'.2.filter Event.visible) : observed o ≠ observed o' :=
  fun heq => h (congrArg Prod.snd heq)

/-- Two commands whose effects differ for two leftovers of the buffer refute
`OnlyThePacket`. -/
theorem not_onlyThePacket (env : Env) {d : Device} {p : Packet} {c : Command} (buf buf' : Mem)
    (hc : Reaches (received buf p) p.bytes.length c)
    (hc' : Reaches (received buf' p) p.bytes.length c)
    (hne : observed (perform env (received buf p) d c) ≠
      observed (perform env (received buf' p) d c)) : ¬OnlyThePacket env d p := by
  intro h
  have heq := h buf buf'
  rw [clientDispatch_reaches env d hc, clientDispatch_reaches env d hc'] at heq
  exact hne heq

/-! ### `SET_TEMP` -/

private theorem setTemp_attr (env : Env) (cmd : Mem) (d : Device) :
    (setTemp env cmd d).1.conf (sensorOff sensorTypeSingleBus + 10) = cmd 6 := by
  rw [setTemp_eq, configSave_conf, storeSensor_hit _ _ _ _ (by decide)]
  rfl

private theorem setTemp_tells (env : Env) (d : Device) {p : Packet}
    (hc : ∀ v, Reaches (received (leftover v) p) p.bytes.length .setTemp)
    (hshort : p.bytes.length < 7) : ¬OnlyThePacket env d p := by
  refine not_onlyThePacket env (leftover 0) (leftover 1) (hc 0) (hc 1) ?_
  apply observed_conf_ne (sensorOff sensorTypeSingleBus + 10)
  show (setTemp env _ d).1.conf _ ≠ (setTemp env _ d).1.conf _
  rw [setTemp_attr, setTemp_attr, received_leftover 0 (by omega) (by omega),
    received_leftover 1 (by omega) (by omega)]
  decide

/-- One or two bytes that do not refuse the head are completed by the buffer. -/
theorem short_tells (env : Env) (d : Device) {p : Packet} (hlen : p.bytes.length < 3)
    (hhead : ¬HeadRefused p) : ¬OnlyThePacket env d p := by
  rw [HeadRefused, not_or, Decidable.not_not] at hhead
  apply setTemp_tells env d ?_ (by omega)
  intro v
  refine ⟨(checkHead_eq_zero_iff _).mpr ⟨received_getElem _ p hhead.1, ?_⟩, ?_,
    fun h => absurd h (by decide)⟩
  · cases h1 : p.bytes[1]? with
    | none =>
        rw [received_behind _ _ (List.getElem?_eq_none_iff.mp h1)]
        rfl
    | some b =>
        rw [received_getElem _ p h1]
        exact Decidable.byContradiction fun hne => hhead.2 ⟨b, h1, hne⟩
  · rw [received_behind _ _ (by omega)]
    rfl

/-! ### `SET_DEVICE_ATTR` -/

/-- The last attribute stored is the last byte of the last pair. -/
theorem setDeviceAttr_attr (env : Env) (cmd : Mem) (d : Device) {n : Nat}
    (hn : (cmd 4).toNat = n + 1) (h8 : n + 1 ≤ singleSensorMaxNum) :
    (setDeviceAttr env cmd d).1.conf (sensorOff sensorTypeIoIn + (10 + n)) = cmd (6 + 2 * n) := by
  show storeSensor d.conf sensorTypeIoIn (setOneSensorBuf (shift cmd 4) _).1 _ = _
  simp only [singleSensorMaxNum] at h8
  rw [storeSensor_hit _ _ _ _ (by simp only [sensorSize]; omega)]
  unfold setOneSensorBuf
  have hz : ¬(shift cmd 4 0).toNat = 0 := by
    show ¬(cmd 4).toNat = 0
    omega
  have hle : ¬(shift cmd 4 0).toNat > singleSensorMaxNum := by
    show ¬(cmd 4).toNat > singleSensorMaxNum
    simp only [singleSensorMaxNum]
    omega
  simp only [if_neg hz, if_neg hle]
  rw [show (shift cmd 4 0).toNat = n + 1 from hn, forUpTo_succ, store_self, shift_apply]
  congr 1
  omega

private theorem setDeviceAttr_tells (env : Env) (d : Device) {p : Packet}
    (hc : ∀ v, Reaches (received (leftover v) p) p.bytes.length .setDeviceAttr)
    (hcond : ¬readsReceived d (received zero p) p.bytes.length .setDeviceAttr) :
    ¬OnlyThePacket env d p := by
  have hlen : 7 ≤ p.bytes.length := ((hc 0).accepted rfl).length
  have h4 : ∀ v, received (leftover v) p 4 = received zero p 4 := fun v =>
    received_agree _ _ p 4 (by omega)
  simp only [readsReceived, Classical.not_imp, Nat.not_le] at hcond
  obtain ⟨h8, hshort⟩ := hcond
  obtain ⟨n, hn⟩ : ∃ n, (received zero p 4).toNat = n + 1 :=
    ⟨(received zero p 4).toNat - 1, by omega⟩
  refine not_onlyThePacket env (leftover 0) (leftover 1) (hc 0) (hc 1) ?_
  apply observed_conf_ne (sensorOff sensorTypeIoIn + (10 + n))
  show (setDeviceAttr env _ d).1.conf _ ≠ (setDeviceAttr env _ d).1.conf _
  rw [setDeviceAttr_attr env _ d (by rw [h4]; exact hn) (by omega),
    setDeviceAttr_attr env _ d (by rw [h4]; exact hn) (by omega),
    received_leftover 0 (by omega) (by omega), received_leftover 1 (by omega) (by omega)]
  decide

/-! ### `GET_IO_STATUS` -/

/-- A byte stored below the checksum is in the reply. -/
theorem finish_getElem (m : Mem) {n i : Nat} (hi : i < n) :
    (slice (finish m n).1 0 (finish m n).2)[i]? = some (m i) := by
  have hle : i < (finish m n).2 := Nat.lt_succ_of_lt hi
  rw [getElem?_slice, if_pos hle, Nat.zero_add]
  exact congrArg some (store_ne m _ (by omega))

private theorem putIoStatus_seq (env : Env) (cmd : Mem) (j : Nat) (s : Mem × UInt8) :
    (putIoStatus env cmd j s).1 (5 + 2 * j) = cmd (5 + j) := by
  have hne : 5 + 2 * j ≠ 6 + 2 * j := by omega
  cases hpin : outputPin (cmd (5 + j)) with
  | none =>
      simp only [putIoStatus, hpin]
      rw [store_ne _ _ hne, store_self]
  | some pin =>
      simp only [putIoStatus, hpin]
      rw [store_ne _ _ hne, store_self]

/-- The last output number of the request is echoed. -/
theorem getIoStatus_seq (env : Env) (cmd : Mem) (d : Device) {n : Nat}
    (hok : ¬(cmd 4 = 0 ∨ cmd 4 > ioOutNum)) (hn : (cmd 4).toNat = n + 1) :
    ∃ bytes, (getIoStatus env cmd d).2 = [.reply bytes] ∧
      bytes[5 + 2 * n]? = some (cmd (5 + n)) := by
  unfold getIoStatus makeAckGetIoStatus
  simp only [if_neg hok]
  refine ⟨_, rfl, ?_⟩
  rw [finish_getElem _ (by omega), hn, forUpTo_succ, putIoStatus_seq]

private theorem getIoStatus_tells (env : Env) (d : Device) {p : Packet}
    (hc : ∀ v, Reaches (received (leftover v) p) p.bytes.length .getIoStatus)
    (hcond : ¬readsReceived d (received zero p) p.bytes.length .getIoStatus) :
    ¬OnlyThePacket env d p := by
  have hlen : 7 ≤ p.bytes.length := ((hc 0).accepted rfl).length
  have h4 : ∀ v, received (leftover v) p 4 = received zero p 4 := fun v =>
    received_agree _ _ p 4 (by omega)
  simp only [readsReceived, Classical.not_imp, Nat.not_le] at hcond
  obtain ⟨hok, hshort⟩ := hcond
  obtain ⟨n, hn⟩ : ∃ n, (received zero p 4).toNat = n + 1 :=
    ⟨(received zero p 4).toNat - 1, by omega⟩
  refine not_onlyThePacket env (leftover 0) (leftover 1) (hc 0) (hc 1) ?_
  apply observed_events_ne
  show (getIoStatus env _ d).2.filter _ ≠ (getIoStatus env _ d).2.filter _
  obtain ⟨b, hb, hb0⟩ := getIoStatus_seq env (received (leftover 0) p) d
    (by rw [h4]; exact hok) (by rw [h4]; exact hn)
  obtain ⟨b', hb', hb1⟩ := getIoStatus_seq env (received (leftover 1) p) d
    (by rw [h4]; exact hok) (by rw [h4]; exact hn)
  rw [hb, hb']
  intro heq
  have hbytes : b = b' := by
    have := (List.cons.inj heq).1
    injection this
  rw [hbytes, hb1, received_leftover 0 (by omega) (by omega),
    received_leftover 1 (by omega) (by omega)] at hb0
  exact absurd hb0 (by decide)

/-! ### `UART_SEND_DATA` -/

/-- The first visible event is the call that hands over the payload. -/
theorem uartSendData_head (env : Env) (cmd : Mem) {d : Device}
    (hok : ¬(d.getComAttrId ≥ 2 ∨ d.uartSendCnt = 0 ∨ d.uartSendCnt > 0x800))
    (hrs : d.rsType = 0 ∨ d.rsType = 1) :
    ∃ es, (makeAckUartSendData env cmd d).2 =
      .serial (d.gcomfd d.getComAttrId) (slice cmd 7 d.uartSendCnt.toNat) :: es := by
  have hne : slice cmd 7 d.uartSendCnt.toNat ≠ [] := by
    intro hnil
    have hlen := congrArg List.length hnil
    rw [slice_length] at hlen
    exact hok (.inr (.inl (UInt16.toNat_inj.mp hlen)))
  obtain ⟨es, hes⟩ := writenLoop_head (d.gcomfd d.getComAttrId)
    (slice cmd 7 d.uartSendCnt.toNat).length env.writes hne
  have hsend : (uartSendData env d cmd).2 =
      .serial (d.gcomfd d.getComAttrId) (slice cmd 7 d.uartSendCnt.toNat) :: es := by
    unfold uartSendData sendNetDataToCom
    by_cases h0 : d.rsType = 0
    · simp only [if_pos h0]
      exact hes
    · simp only [if_neg h0, if_pos (hrs.resolve_left h0)]
      exact hes
  rcases makeAckUartSendData_cases env cmd d with ⟨hbad, _⟩ | ⟨_, ⟨_, m, hr⟩ | ⟨r, hr⟩⟩
  · exact absurd hbad hok
  · exact ⟨es, by rw [hr]; exact hsend⟩
  · exact ⟨es ++ (send d r).2, by rw [hr]; show _ ++ _ = _; rw [hsend]; rfl⟩

private theorem uartSendData_tells (env : Env) (d : Device) {p : Packet}
    (hc : ∀ v, Reaches (received (leftover v) p) p.bytes.length .uartSendData)
    (hcond : ¬readsReceived d (received zero p) p.bytes.length .uartSendData) :
    ¬OnlyThePacket env d p := by
  have hlen : 8 ≤ p.bytes.length := ((hc 0).accepted rfl).length
  have hin : ∀ v i, i < 7 → received (leftover v) p i = received zero p i := fun v i hi =>
    received_agree _ _ p i (by omega)
  simp only [readsReceived, Classical.not_imp, Nat.not_le] at hcond
  obtain ⟨⟨hok, hrs⟩, hshort⟩ := hcond
  refine not_onlyThePacket env (leftover 0) (leftover 1) (hc 0) (hc 1) ?_
  apply observed_events_ne
  have hport : ∀ v, selectPort d (received (leftover v) p) = selectPort d (received zero p) := by
    intro v
    simp only [selectPort, declaredCount, hin v 4 (by omega), hin v 5 (by omega),
      hin v 6 (by omega)]
  show (makeAckUartSendData env _ _).2.filter _ ≠ (makeAckUartSendData env _ _).2.filter _
  rw [hport, hport]
  obtain ⟨es, hes⟩ := uartSendData_head env (received (leftover 0) p)
    (d := selectPort d (received zero p)) hok hrs
  obtain ⟨es', hes'⟩ := uartSendData_head env (received (leftover 1) p)
    (d := selectPort d (received zero p)) hok hrs
  intro heq
  rw [hes, hes', List.filter_cons_of_pos rfl, List.filter_cons_of_pos rfl] at heq
  have hpay : slice (received (leftover 0) p) 7 (declaredCount (received zero p)).toNat =
      slice (received (leftover 1) p) 7 (declaredCount (received zero p)).toNat := by
    have := (List.cons.inj heq).1
    injection this
  have hcnt : declaredCount (received zero p) ≠ 0 := fun h => hok (.inr (.inl h))
  have hpos : (declaredCount (received zero p)).toNat ≠ 0 := fun h =>
    hcnt (UInt16.toNat_inj.mp h)
  -- the last payload byte was not received
  have hlast := (slice_eq_iff _ _ _ _ _).mp hpay ((declaredCount (received zero p)).toNat - 1)
    (by omega)
  rw [received_leftover 0 (by omega) (by omega), received_leftover 1 (by omega) (by omega)] at hlast
  exact absurd hlast (by decide)

/-! ### `SET_IO` -/

/-- Only the outputs driven are visible in a round. -/
theorem setIoRound_visible (cmd : Mem) (j : Nat) (s : Mem × List Event) :
    (setIoRound cmd j s).2.filter Event.visible = s.2.filter Event.visible ++ ioOutput cmd j := by
  have hout : (ioOutput cmd j).filter Event.visible = ioOutput cmd j :=
    List.filter_eq_self.mpr (ioOutput_visible cmd j)
  rw [setIoRound, List.filter_append, List.filter_cons_of_neg (by simp [Event.visible]), hout]

private theorem setIoLoop_visible_succ (cmd sensor : Mem) (n : Nat) :
    (forUpTo (n + 1) (setIoRound cmd) (sensor, [])).2.filter Event.visible =
      (forUpTo n (setIoRound cmd) (sensor, [])).2.filter Event.visible ++ ioOutput cmd n := by
  rw [forUpTo_succ, setIoRound_visible]

/-- If no round drives fewer outputs in the second loop and some round drives
more, the second loop drives more. -/
theorem setIoLoop_more {cmd cmd' : Mem} (sensor : Mem)
    (hle : ∀ j, (ioOutput cmd j).length ≤ (ioOutput cmd' j).length) {n k : Nat} (hk : k < n)
    (hlt : (ioOutput cmd k).length < (ioOutput cmd' k).length) :
    ((forUpTo n (setIoRound cmd) (sensor, [])).2.filter Event.visible).length <
      ((forUpTo n (setIoRound cmd') (sensor, [])).2.filter Event.visible).length := by
  have hmono : ∀ m, ((forUpTo m (setIoRound cmd) (sensor, [])).2.filter Event.visible).length ≤
      ((forUpTo m (setIoRound cmd') (sensor, [])).2.filter Event.visible).length := by
    intro m
    induction m with
    | zero => exact Nat.le_refl _
    | succ m ih =>
        rw [setIoLoop_visible_succ, setIoLoop_visible_succ, List.length_append,
          List.length_append]
        exact Nat.add_le_add ih (hle m)
  induction n with
  | zero => omega
  | succ n ih =>
      rw [setIoLoop_visible_succ, setIoLoop_visible_succ, List.length_append, List.length_append]
      by_cases hkn : k = n
      · subst hkn
        exact Nat.add_lt_add_of_le_of_lt (hmono k) hlt
      · exact Nat.add_lt_add_of_lt_of_le (ih (by omega)) (hle n)

/-- Behind the received bytes the buffer of zeros names no output, the buffer of
ones names output 1. -/
theorem ioOutput_leftover (p : Packet) (j : Nat) :
    (ioOutput (received (leftover 0) p) j).length ≤ (ioOutput (received (leftover 1) p) j).length ∧
      (p.bytes.length ≤ 5 + 3 * j % 256 →
        (ioOutput (received (leftover 0) p) j).length <
          (ioOutput (received (leftover 1) p) j).length) := by
  by_cases hin : p.bytes.length ≤ 5 + 3 * j % 256
  · have h0 := received_leftover 0 (p := p) (i := 5 + 3 * j % 256) (by omega) hin
    have h1 := received_leftover 1 (p := p) (i := 5 + 3 * j % 256) (by omega) hin
    have hlen0 : (ioOutput (received (leftover 0) p) j).length = 0 := by
      simp only [ioOutput, h0]
      rfl
    have hlen1 : (ioOutput (received (leftover 1) p) j).length = 1 := by
      simp only [ioOutput, h1]
      rfl
    omega
  · have hsame : received (leftover 0) p (5 + 3 * j % 256) =
        received (leftover 1) p (5 + 3 * j % 256) := received_agree _ _ p _ (by omega)
    refine ⟨?_, fun h => absurd h hin⟩
    simp only [ioOutput, hsame]
    cases outputPin (received (leftover 1) p (5 + 3 * j % 256)) with
    | none => exact Nat.le_refl _
    | some pin => exact Nat.le_refl _

/-- The last attribute stored is the one of the last triple. -/
theorem setIoOut_attr (env : Env) (cmd : Mem) (d : Device) {n : Nat}
    (hn : (cmd 4).toNat = n + 1) (h8 : n + 1 ≤ singleSensorMaxNum) :
    (setIoOut env cmd d).1.conf (sensorOff sensorTypeIoOut + (10 + n)) = cmd (6 + 3 * n) := by
  simp only [singleSensorMaxNum] at h8
  rw [setIoOut_eq, configSave_conf, storeSensor_hit _ _ _ _ (by simp only [sensorSize]; omega),
    ioRecord, hn, forUpTo_succ]
  show store _ (10 + n) (cmd (6 + 3 * n % 256)) (10 + n) = _
  rw [store_self, Nat.mod_eq_of_lt (by omega)]

/-- The count byte is received, whatever was left. -/
theorem received_count {p : Packet} (hlen : 9 ≤ p.bytes.length) (v : UInt8) :
    received (leftover v) p 4 = received zero p 4 :=
  received_agree _ _ p 4 (by omega)

/-- The level of the last output is missing. -/
theorem setIoOut_level_tells (env : Env) (d : Device) {p : Packet} (hlen : 9 ≤ p.bytes.length)
    {n : Nat} (hn : (received zero p 4).toNat = n + 1) (hseq : 3 * (n + 1) + 3 ≤ p.bytes.length)
    (hpin : outputPin (received zero p (3 * (n + 1) + 2)) ≠ none)
    (hmiss : p.bytes.length ≤ 7 + 3 * n) :
    observed (setIoOut env (received (leftover 0) p) d) ≠
      observed (setIoOut env (received (leftover 1) p) d) := by
  have hshort : p.bytes.length ≤ 100 := p.short
  have hmod : 3 * n % 256 = 3 * n := Nat.mod_eq_of_lt (by omega)
  obtain ⟨pin, hpin⟩ := Option.ne_none_iff_exists'.mp hpin
  have hout : ∀ v, ioOutput (received (leftover v) p) n = [.gpio pin v] := by
    intro v
    have hseq' : received (leftover v) p (5 + 3 * n) = received zero p (5 + 3 * n) :=
      received_agree _ _ p _ (by omega)
    simp only [ioOutput, hmod, hseq', received_leftover v (p := p) (i := 7 + 3 * n) (by omega)
      (by omega)]
    rw [show 5 + 3 * n = 3 * (n + 1) + 2 by omega, hpin]
  apply observed_events_ne
  rw [setIoOut_eq, setIoOut_eq, ioRecord, ioRecord, received_count hlen, received_count hlen, hn]
  rw [setIoLoop_visible_succ, setIoLoop_visible_succ, hout, hout]
  intro heq
  have hlast := congrArg List.getLast? heq
  rw [List.getLast?_concat, List.getLast?_concat] at hlast
  injection hlast with hlast
  injection hlast with _ hval
  exact absurd hval (by decide)

/-- The last attribute is missing. -/
theorem setIoOut_attr_tells (env : Env) (d : Device) {p : Packet} (hlen : 9 ≤ p.bytes.length)
    {n : Nat} (hn : (received zero p 4).toNat = n + 1) (h8 : n + 1 ≤ singleSensorMaxNum)
    (hmiss : p.bytes.length ≤ 6 + 3 * n) :
    observed (setIoOut env (received (leftover 0) p) d) ≠
      observed (setIoOut env (received (leftover 1) p) d) := by
  have hcount := h8
  simp only [singleSensorMaxNum] at hcount
  apply observed_conf_ne (sensorOff sensorTypeIoOut + (10 + n))
  rw [setIoOut_attr env _ d (by rw [received_count hlen]; exact hn) h8,
    setIoOut_attr env _ d (by rw [received_count hlen]; exact hn) h8,
    received_leftover 0 (by omega) hmiss, received_leftover 1 (by omega) hmiss]
  decide

/-- An output number is missing; rounds from 86 on read the packet again. -/
theorem setIoOut_seqNum_tells (env : Env) (d : Device) {p : Packet} (hlen : 9 ≤ p.bytes.length)
    {n : Nat} (hn : (received zero p 4).toNat = n + 1)
    (hseq : ¬3 * (n + 1) + 3 ≤ p.bytes.length) :
    observed (setIoOut env (received (leftover 0) p) d) ≠
      observed (setIoOut env (received (leftover 1) p) d) := by
  have hshort : p.bytes.length ≤ 100 := p.short
  obtain ⟨k, hk, hmiss⟩ : ∃ k, k < n + 1 ∧ p.bytes.length ≤ 5 + 3 * k % 256 := by
    by_cases hbig : n ≤ 32
    · exact ⟨n, by omega, by omega⟩
    · exact ⟨32, by omega, by omega⟩
  apply observed_events_ne
  rw [setIoOut_eq, setIoOut_eq, ioRecord, ioRecord, received_count hlen, received_count hlen, hn]
  intro heq
  have hmore := setIoLoop_more
    (store (store env.stack 0 (UInt8.ofNat sensorTypeIoOut)) 1 (received zero p 4))
    (fun j => (ioOutput_leftover p j).1) hk ((ioOutput_leftover p k).2 hmiss)
  exact absurd (congrArg List.length heq) (Nat.ne_of_lt hmore)

private theorem setIo_tells (env : Env) (d : Device) {p : Packet}
    (hc : ∀ v, Reaches (received (leftover v) p) p.bytes.length .setIo)
    (hcond : ¬readsReceived d (received zero p) p.bytes.length .setIo) :
    ¬OnlyThePacket env d p := by
  have hlen : 9 ≤ p.bytes.length := ((hc 0).accepted rfl).length
  simp only [readsReceived, not_or, not_and] at hcond
  obtain ⟨hpos, hcond⟩ := hcond
  obtain ⟨n, hn⟩ : ∃ n, (received zero p 4).toNat = n + 1 :=
    ⟨(received zero p 4).toNat - 1, by omega⟩
  rw [hn] at hcond
  refine not_onlyThePacket env (leftover 0) (leftover 1) (hc 0) (hc 1) ?_
  show observed (setIoOut env _ d) ≠ observed (setIoOut env _ d)
  by_cases hseq : 3 * (n + 1) + 3 ≤ p.bytes.length
  · by_cases hattr : n + 1 ≤ singleSensorMaxNum → 3 * (n + 1) + 4 ≤ p.bytes.length
    · have hval := hcond hseq hattr
      rw [Classical.not_imp] at hval
      exact setIoOut_level_tells env d hlen hn hseq hval.1 (by omega)
    · rw [Classical.not_imp] at hattr
      exact setIoOut_attr_tells env d hlen hn hattr.1 (by omega)
  · exact setIoOut_seqNum_tells env d hlen hn hseq

/-! ### `SET_UART_ATTR` -/

/-- The last thing the command does is its reply: ten bytes for two accepted
records, eight for a refusal. -/
theorem setUartReply_last (cmd : Mem) (h4 : cmd 4 = 2) (s : UartRun) :
    (∃ es bytes, (setUartReply cmd (.ok s)).2 = es ++ [.reply bytes] ∧ bytes.length = 10) ∧
      ∃ es bytes, (setUartReply cmd (.error s)).2 = es ++ [.reply bytes] ∧ bytes.length = 8 := by
  refine ⟨⟨s.events, _, rfl, ?_⟩, ⟨s.events, _, rfl, ?_⟩⟩
  · rw [slice_length, h4]
    rfl
  · rw [slice_length]
    rfl

/-- When the first of two records is accepted, the second decides. -/
theorem setUartAttr_second (env : Env) (d : Device) {cmd : Mem} (h4 : cmd 4 = 2)
    (hid : (uartRecord d.conf cmd 0).id ≤ 2) (hgood : GoodLine (uartRecord d.conf cmd 0)) :
    ∃ s, setUartAttr env cmd d = setUartReply cmd (setUartRound d.conf cmd 1 s) := by
  have hattr : setUartAttr env cmd d =
      setUartReply cmd (setUartRounds d.conf cmd 2 0 (uartStart env cmd d)) := by
    rw [setUartAttr, h4]
    rfl
  rw [hattr, setUartRounds_two]
  rcases setUartRound_cases d.conf cmd 0 (uartStart env cmd d) with
    ⟨hbad, _⟩ | ⟨_, hbad, _⟩ | ⟨_, _, hr⟩
  · exact absurd hid (UInt32.not_le.mpr hbad)
  · exact absurd hgood hbad
  · rw [hr]
    exact ⟨_, rfl⟩

private theorem setUartAttr_accepts (env : Env) (d : Device) {cmd : Mem} (h4 : cmd 4 = 2)
    (hid : (uartRecord d.conf cmd 0).id ≤ 2) (hgood : GoodLine (uartRecord d.conf cmd 0))
    (hid' : (uartRecord d.conf cmd 1).id ≤ 2) (hgood' : GoodLine (uartRecord d.conf cmd 1)) :
    ∃ es bytes, (setUartAttr env cmd d).2 = es ++ [.reply bytes] ∧ bytes.length = 10 := by
  obtain ⟨s, hs⟩ := setUartAttr_second env d h4 hid hgood
  rw [hs]
  rcases setUartRound_cases d.conf cmd 1 s with ⟨hbad, _⟩ | ⟨_, hbad, _⟩ | ⟨_, _, hr⟩
  · exact absurd hid' (UInt32.not_le.mpr hbad)
  · exact absurd hgood' hbad
  · rw [hr]
    exact (setUartReply_last cmd h4 _).1

private theorem setUartAttr_refuses (env : Env) (d : Device) {cmd : Mem} (h4 : cmd 4 = 2)
    (hid : (uartRecord d.conf cmd 0).id ≤ 2) (hgood : GoodLine (uartRecord d.conf cmd 0))
    (hbad : ¬GoodLine (uartRecord d.conf cmd 1)) :
    ∃ es bytes, (setUartAttr env cmd d).2 = es ++ [.reply bytes] ∧ bytes.length = 8 := by
  obtain ⟨s, hs⟩ := setUartAttr_second env d h4 hid hgood
  rw [hs, setUartRound_fails (.inr hbad)]
  exact (setUartReply_last cmd h4 _).2

/-- Outcomes that end with replies of different lengths are told apart. -/
theorem observed_reply_ne {o o' : Outcome} {es es' : List Event} {bytes bytes' : List UInt8}
    (h : o.2 = es ++ [.reply bytes]) (h' : o'.2 = es' ++ [.reply bytes'])
    (hne : bytes.length ≠ bytes'.length) : observed o ≠ observed o' := by
  apply observed_events_ne
  rw [h, h', List.filter_append, List.filter_append]
  intro heq
  have hlast := congrArg List.getLast? heq
  rw [show [Event.reply bytes].filter Event.visible = [.reply bytes] from rfl,
    show [Event.reply bytes'].filter Event.visible = [.reply bytes'] from rfl,
    List.getLast?_concat, List.getLast?_concat] at hlast
  injection hlast with hlast
  injection hlast with hlast
  exact hne (congrArg List.length hlast)

/-- A second record whose last byte was not received is accepted with one
leftover and refused with an illegal parity code in that place. -/
theorem setUartAttr_tells (env : Env) (d : Device) {p : Packet}
    (hc : Reaches (received zero p) p.bytes.length .setUartAttr)
    (hcond : ¬readsReceived d (received zero p) p.bytes.length .setUartAttr) :
    ¬OnlyThePacket env d p := by
  have hlen : 14 ≤ p.bytes.length := (hc.accepted rfl).length
  simp only [readsReceived, Classical.not_imp, Classical.not_forall, Classical.not_not] at hcond
  obtain ⟨⟨h4, hid, hgood, hid2⟩, hshort, cmd, hag, hgood2⟩ := hcond
  have hrec : received cmd p = cmd := hag.symm.eq_blit
  have hag20 : AgreeBelow p.bytes.length (store cmd 20 9) (received zero p) := by
    intro i hi
    rw [store_ne _ _ (by omega)]
    exact (hag i hi).symm
  have hrec' : received (store cmd 20 9) p = store cmd 20 9 := hag20.eq_blit
  have hag' : AgreeBelow p.bytes.length (received zero p) (store cmd 20 9) := by
    rw [← hrec']
    exact received_agree _ _ p
  have hcmd := reaches_congr (by omega) hag hc
  have hcmd' := reaches_congr (by omega) hag' hc
  refine not_onlyThePacket env cmd (store cmd 20 9) (by rw [hrec]; exact hcmd)
    (by rw [hrec']; exact hcmd') ?_
  rw [hrec, hrec']
  show observed (setUartAttr env _ d) ≠ observed (setUartAttr env _ d)
  -- the first record is the same in both runs
  have hfirst : ∀ c : Mem, AgreeBelow p.bytes.length (received zero p) c →
      c 4 = 2 ∧ (uartRecord d.conf c 0).id ≤ 2 ∧ GoodLine (uartRecord d.conf c 0) := by
    intro c hagc
    have hsame : uartRecord d.conf c 0 = uartRecord d.conf (received zero p) 0 :=
      (uartRecord_congr d.conf 0 fun i _ hi => hagc i (by omega)).symm
    rw [hsame]
    exact ⟨(hagc 4 (by omega)).symm.trans h4, hid, hgood⟩
  obtain ⟨hcmd4, hcmdId, hcmdGood⟩ := hfirst cmd hag
  obtain ⟨hcmd4', hcmdId', hcmdGood'⟩ := hfirst (store cmd 20 9) hag'
  have hid2' : (uartRecord d.conf cmd 1).id ≤ 2 := by
    rw [← uartRecord_id_congr d.conf 1 (hag 13 (by omega))]
    exact hid2
  have hbad : ¬GoodLine (uartRecord d.conf (store cmd 20 9) 1) := by
    intro h
    have hchk : returnLocalOddEven (store cmd 20 9 20) ∈ [3, 2, 1] := h.chk
    rw [store_self] at hchk
    exact absurd hchk (by decide)
  obtain ⟨es, bytes, hev, hbytes⟩ := setUartAttr_accepts env d hcmd4 hcmdId hcmdGood hid2' hgood2
  obtain ⟨es', bytes', hev', hbytes'⟩ := setUartAttr_refuses env d hcmd4' hcmdId' hcmdGood' hbad
  apply observed_reply_ne hev hev'
  rw [hbytes, hbytes']
  decide

/-! ## The exact condition -/

/-- The bytes left in the buffer do not matter exactly when the received ones
refuse the head, or include the command byte and all the bytes by which the
command decides. -/
theorem onlyThePacket_iff (env : Env) (d : Device) (p : Packet) :
    OnlyThePacket env d p ↔ DecidedByPacket d p := by
  constructor
  · intro h
    by_cases hhead : HeadRefused p
    · exact .inl hhead
    · by_cases hlen : 3 ≤ p.bytes.length
      · refine .inr ⟨hlen, ?_⟩
        intro cmd c hc
        apply Classical.byContradiction
        intro hcond
        have hleft : ∀ v, Reaches (received (leftover v) p) p.bytes.length c := fun v =>
          reaches_congr hlen (received_agree _ _ p) hc
        cases c with
        | setDeviceAttr => exact setDeviceAttr_tells env d hleft hcond h
        | setUartAttr => exact setUartAttr_tells env d hc hcond h
        | uartSendData => exact uartSendData_tells env d hleft hcond h
        | setIo => exact setIo_tells env d hleft hcond h
        | getIoStatus => exact getIoStatus_tells env d hleft hcond h
        | setTemp => exact setTemp_tells env d hleft (Nat.not_le.mp hcond) h
        | _ => exact hcond trivial
      · exact absurd h (short_tells env d (by omega) hhead)
  · intro h buf buf'
    rw [clientDispatch_decided env h buf buf']

/-- `SET_IO` for two outputs in the nine bytes its check asks for. -/
def shortSetIo : Packet where
  bytes := [0x55, 0xaa, 0x1a, 0x01, 2, 1, 0, 1, 2]
  nonempty := by decide
  short := by decide

theorem onlyThePacket_shortSetIo :
    ¬(∀ (env : Env) (d : Device) (p : Packet), OnlyThePacket env d p) := by
  intro h
  have hpkt := h Env.idle (Device.start zero) shortSetIo
  have hc : ∀ v, Reaches (received (leftover v) shortSetIo) shortSetIo.bytes.length .setIo :=
    fun v => Accepted.reaches ⟨by decide, rfl, rfl, rfl, rfl⟩
  refine setIo_tells Env.idle (Device.start zero) hc ?_ hpkt
  intro hcond
  rcases hcond with h0 | ⟨_, hattr, _⟩
  · exact absurd h0 (by decide)
  · exact absurd (hattr (by decide)) (by decide)

end Itertk.Client.StaleBytes
