import Itertk.Base.Footprint
import Itertk.Client.Arrivals
import Itertk.Client.DeviceAttr
import Itertk.Client.Rejection
import Itertk.Client.UartFailure

/-!
# The layout of a reply

Every `make_ack_*` function writes the head, a body from offset 4 on, and the checksum behind
the body, and returns the offset after the checksum.  How long the body is depends on the
sensor entries, on the serial data received and on the packet; `bodyLength` says how.

Three ways lead out of this scheme.  `make_ack_get_io_status` returns without a length,
`make_ack_set_device_attr` has a `u8` length that is zero for some counts, and
`UART_SEND_DATA` replies after the port has taken the data.

## Main result

* `perform_reply` — all other commands that answer are answered so.
-/

namespace Itertk.Client.ReplyLayout

open Itertk.Base.Memory
open Itertk.Base.Footprint
open Itertk.Daemon.Layout
open Itertk.Daemon.State
open Itertk.Client.Checks
open Itertk.Client.Replies
open Itertk.Client.Dispatch
open Itertk.Client.SendBuffer
open Itertk.Client.Rejection
open Itertk.Client.SensorTable
open Itertk.Client.DeviceAttr
open Itertk.Client.Arrivals
open Itertk.Client.UartFailure

/-! ## Codes and lengths -/

/-- The code in the reply to a command. -/
def ackCode : Command → UInt8
  | .getDeviceAttr => protocolAckGetDeviceAttr
  | .setDeviceAttr => protocolAckSetDeviceAttr
  | .getAlarmStatus => protocolAckGetAlarmStatus
  | .setTime => Command.setTime.code
  | .setHeartbeat => protocolAckSetHeartbeat
  | .getUartQty => protocolAckUartQty
  | .getUartAttr => protocolAckGetUartAttr
  | .setUartAttr => protocolAckSetUartAttr
  | .queryUartSendbuf => protocolAckQueryUartSendbuf
  | .uartSendData => protocolAckUartSendData
  | .queryUartRecvData => protocolAckQueryUartRecvData
  | .getIoNum => protocolAckGetIoNum
  | .getIoStatus => protocolAckGetIoStatus
  | .getTempNum => protocolAckGetTempNum
  | .getTempStatus => protocolAckGetTempStatus
  | c => c.code

/-- The length of an entry in a reply; without pairs there are two zeros. -/
def entryLength (num : UInt8) : Nat := 2 + 2 * max 1 num.toNat

/-- The length of the four entries together. -/
def tableLength (conf : Mem) : Nat :=
  entryLength (sensorNum conf sensorTypeUart) + entryLength (sensorNum conf sensorTypeIoIn) +
    entryLength (sensorNum conf sensorTypeIoOut) + entryLength (sensorNum conf sensorTypeSingleBus)

instance (d : Device) (cmd : Mem) (j : Nat) : Decidable (Refused d cmd j) :=
  inferInstanceAs (Decidable (_ ∨ _))

/-- Every record of a `SET_UART_ATTR` is stored. -/
def AllStored (d : Device) (cmd : Mem) : Prop :=
  (1 ≤ cmd 4 ∧ cmd 4 ≤ 2) ∧ ∀ j, j < (cmd 4).toNat → ¬Refused d cmd j

instance (d : Device) (cmd : Mem) : Decidable (AllStored d cmd) :=
  inferInstanceAs (Decidable (_ ∧ _))

/-- The count that a query for a port is answered with. -/
def queryCount (d : Device) (b : UInt8) : Nat :=
  if b = 1 then d.uart1Cnt.toNat else if b = 2 then d.uart2Cnt.toNat else 0

/-- The bytes between the head and the checksum. -/
def bodyLength (d : Device) (cmd : Mem) : Command → Nat
  | .getDeviceAttr => 1 + tableLength d.conf
  -- the entry without its type, its length in a `u8`
  | .setDeviceAttr => entryLength (cmd 4) % 256 - 1
  | .getAlarmStatus => 1 + 2 * (sensorNum d.conf sensorTypeIoIn).toNat
  | .setHeartbeat | .getUartQty | .getIoNum | .getTempNum => 1
  | .getUartAttr => if sensorNum d.conf sensorTypeUart = 2 then 17 else 9
  | .setUartAttr => if AllStored d cmd then 1 + 2 * (cmd 4).toNat else 3
  | .queryUartSendbuf | .uartSendData => 3
  | .queryUartRecvData => 3 + queryCount d (cmd 4)
  | .getIoStatus => 1 + 2 * (cmd 4).toNat
  | .getTempStatus => 6
  | _ => 0

/-- The offset below which the body is put into the buffer.  The data of port 2 are copied
with the count of port 1, and a `SET_UART_ATTR` that fails may have stored its first result. -/
def bodyEnd (d : Device) (cmd : Mem) : Command → Nat
  | .queryUartRecvData =>
      if cmd 4 = 2 then 7 + max d.uart1Cnt.toNat d.uart2Cnt.toNat
      else 4 + bodyLength d cmd .queryUartRecvData
  | .setUartAttr => 9
  | c => 4 + bodyLength d cmd c

/-! ## Replies on the socket -/

def toSocket : Event → Bool
  | .reply _ | .replyUndefined _ => true
  | _ => false

/-- The writes to the server's socket. -/
def socketWrites (es : List Event) : List Event := es.filter toSocket

/-- One reply was written: the head for `id`, a body of `n` bytes and the checksum.  The
body was put into the buffer, which held `m`, between the offsets 4 and `w`. -/
structure Answers (id : UInt8) (n w : Nat) (m : Mem) (o : Outcome) : Prop where
  sent : socketWrites o.2 = [.reply (slice o.1.bufSend 0 (4 + n + 1))]
  built : ∃ ack, AgreeOutside 4 w (makeAckHead m id) ack ∧ o.1.bufSend = (finish ack (4 + n)).1

private theorem socketWrites_append {es : List Event} (h : ∀ e ∈ es, toSocket e = false)
    (es' : List Event) : socketWrites (es ++ es') = socketWrites es' := by
  have hnil : es.filter toSocket = [] := by
    rw [List.filter_eq_nil_iff]
    intro e he
    rw [h e he]
    decide
  rw [socketWrites, List.filter_append, hnil, List.nil_append]
  rfl

variable {id : UInt8} {n w : Nat} {m : Mem}

private theorem answers_send (d : Device) {ack : Mem}
    (h : AgreeOutside 4 w (makeAckHead m id) ack) :
    Answers id n w m (send d (finish ack (4 + n))) :=
  ⟨rfl, ack, h, rfl⟩

/-- What else is done before does not go to the socket. -/
theorem Answers.after {o : Outcome} {h : Device → Outcome} (ha : Answers id n w m (h o.1))
    (hes : ∀ e ∈ o.2, toSocket e = false) : Answers id n w m (o.andThen h) :=
  ⟨(socketWrites_append hes _).trans ha.sent, ha.built⟩

private theorem toSocket_sensorIndices (n : Nat) : ∀ e ∈ sensorIndices n, toSocket e = false := by
  intro e he
  obtain ⟨j, -, rfl⟩ := List.mem_map.mp he
  rfl

/-! ## Sensor entries -/

private theorem getOneSensorBuf_length (conf : Mem) (k : Nat) (m : Mem) (off : Nat) :
    (getOneSensorBuf conf k m off).2 = entryLength (sensorNum conf k) := by
  unfold getOneSensorBuf entryLength
  by_cases h0 : (sensorNum conf k).toNat = 0
  · simp only [h0, if_true]
    rfl
  · simp only [if_neg h0]
    omega

/-- An entry is put where it belongs, whatever its number. -/
theorem getOneSensorBuf_agree (conf : Mem) (k : Nat) (m : Mem) (off : Nat) :
    AgreeOutside off (off + entryLength (sensorNum conf k)) m (getOneSensorBuf conf k m off).1 := by
  have hlen : 4 ≤ entryLength (sensorNum conf k) ∧
      2 + 2 * (sensorNum conf k).toNat ≤ entryLength (sensorNum conf k) := by
    unfold entryLength
    omega
  generalize entryLength (sensorNum conf k) = len at hlen
  have hhead : AgreeOutside off (off + len) m
      (store (store m off (sensorType conf k)) (off + 1) (sensorNum conf k)) :=
    ((AgreeOutside.refl _ _ m).store (by omega) _).store (by omega) _
  unfold getOneSensorBuf
  by_cases h0 : (sensorNum conf k).toNat = 0
  · rw [if_pos h0]
    exact (hhead.store (by omega) _).store (by omega) _
  · rw [if_neg h0]
    refine hhead.forUpTo fun j hj x => ?_
    -- the wrapped index is no larger than the right one
    have hmod : 2 * j % 256 ≤ 2 * j := Nat.mod_le _ _
    exact ((AgreeOutside.refl _ _ x).store (by omega) _).store (by omega) _

private theorem getAllSensorBuf_agree (conf m : Mem) (off : Nat) :
    (getAllSensorBuf conf m off).2 = tableLength conf ∧
      AgreeOutside off (off + tableLength conf) m (getAllSensorBuf conf m off).1 := by
  simp only [getAllSensorBuf, getOneSensorBuf_length]
  have hentry : ∀ k x o, off ≤ o → o + entryLength (sensorNum conf k) ≤ off + tableLength conf →
      AgreeOutside off (off + tableLength conf) x (getOneSensorBuf conf k x o).1 :=
    fun k x o hlo hhi => (getOneSensorBuf_agree conf k x o).mono hlo hhi
  have hsum : off + tableLength conf = off + (entryLength (sensorNum conf sensorTypeUart) +
      entryLength (sensorNum conf sensorTypeIoIn) + entryLength (sensorNum conf sensorTypeIoOut) +
      entryLength (sensorNum conf sensorTypeSingleBus)) := rfl
  have h0 := hentry sensorTypeUart m off (Nat.le_refl _) (by omega)
  have h1 := h0.trans (hentry sensorTypeIoIn _ (off + entryLength (sensorNum conf sensorTypeUart))
    (by omega) (by omega))
  have h2 := h1.trans (hentry sensorTypeIoOut _ (off + entryLength (sensorNum conf sensorTypeUart) +
    entryLength (sensorNum conf sensorTypeIoIn)) (by omega) (by omega))
  exact ⟨rfl, h2.trans (hentry sensorTypeSingleBus _ _ (by omega) (by omega))⟩

private theorem finish_store (m : Mem) (n : Nat) (v : UInt8) :
    finish (store m n v) n = finish m n := by
  have hbuf : store (store m n v) n (makeCrcNum m n) = store m n (makeCrcNum m n) := by
    funext k
    simp only [store]
    split <;> rfl
  exact congrArg (·, n + 1) hbuf

/-! ## Sensor commands -/

private theorem getDeviceAttr_reply (cmd : Mem) (d : Device) :
    Answers protocolAckGetDeviceAttr (bodyLength d cmd .getDeviceAttr)
      (bodyEnd d cmd .getDeviceAttr) d.bufSend (getDeviceAttr d) := by
  have hevents : ∀ e ∈ sensorReads d.conf sensorTypeUart ++ sensorReads d.conf sensorTypeIoIn ++
      sensorReads d.conf sensorTypeIoOut ++ sensorReads d.conf sensorTypeSingleBus,
      toSocket e = false := by
    intro e he
    simp only [List.mem_append] at he
    rcases he with ((he | he) | he) | he <;> exact toSocket_sensorIndices _ e he
  obtain ⟨hlen, htable⟩ := getAllSensorBuf_agree d.conf
    (store (makeAckHead d.bufSend protocolAckGetDeviceAttr) 4 sensorTypeNum) 5
  have hsend : makeAckGetDeviceAttr d.conf d.bufSend =
      finish (getAllSensorBuf d.conf
        (store (makeAckHead d.bufSend protocolAckGetDeviceAttr) 4 sensorTypeNum) 5).1
        (4 + bodyLength d cmd .getDeviceAttr) := by
    have hsum : 5 + tableLength d.conf = 4 + bodyLength d cmd .getDeviceAttr := by
      simp only [bodyLength]
      omega
    simp only [makeAckGetDeviceAttr, finish_store, hlen, hsum]
  have hnum : AgreeOutside 4 (bodyEnd d cmd .getDeviceAttr)
      (makeAckHead d.bufSend protocolAckGetDeviceAttr)
      (store (makeAckHead d.bufSend protocolAckGetDeviceAttr) 4 sensorTypeNum) :=
    (AgreeOutside.refl _ _ _).store (by simp only [bodyEnd, bodyLength]; omega) _
  have hbody := hnum.trans (htable.mono (by omega) (by simp only [bodyEnd, bodyLength]; omega))
  apply Answers.after _ hevents
  rw [hsend]
  exact answers_send d hbody

private theorem getAlarmStatus_reply (cmd : Mem) (d : Device) :
    Answers protocolAckGetAlarmStatus (bodyLength d cmd .getAlarmStatus)
      (bodyEnd d cmd .getAlarmStatus) d.bufSend (getAlarmStatus d) := by
  refine Answers.after ?_ (toSocket_sensorIndices _)
  have hsum : 5 + (sensorNum d.conf sensorTypeIoIn).toNat * 2 =
      4 + bodyLength d cmd .getAlarmStatus := by
    simp only [bodyLength]
    omega
  simp only [makeAckGetAlarmStatus, hsum]
  refine answers_send d (AgreeOutside.forUpTo ?_ fun j hj x => ?_)
  · exact (AgreeOutside.refl _ _ _).store (by simp only [bodyEnd, bodyLength]; omega) _
  · have hmod : 2 * j % 256 ≤ 2 * j := Nat.mod_le _ _
    simp only [bodyEnd, bodyLength]
    exact ((AgreeOutside.refl _ _ x).store (by omega) _).store (by omega) _

/-- The number that `SET_DEVICE_ATTR` stores. -/
theorem setAlarmin_num (env : Env) (cmd : Mem) (d : Device) :
    sensorNum (setAlarminDeviceAttr env cmd d).1.conf sensorTypeIoIn = cmd 4 := by
  rw [setAlarminDeviceAttr, configSave_conf, sensorNum, storeSensor_hit _ _ _ _ (by decide)]
  exact (setOneSensorBuf_spec (shift cmd 4) _).2.1

private theorem toSocket_setAlarmin (env : Env) (cmd : Mem) (d : Device) :
    ∀ e ∈ (setAlarminDeviceAttr env cmd d).2, toSocket e = false := by
  obtain ⟨n, hn⟩ := setOneSensorBuf_events (shift cmd 4)
    (loadSensor env.stack d.conf sensorTypeIoIn)
  rw [setAlarminDeviceAttr, hn]
  exact toSocket_sensorIndices n

/-- The `u8` that holds the length of the entry is not zero. -/
def LengthFits (num : UInt8) : Prop := entryLength num % 256 ≠ 0

instance (num : UInt8) : Decidable (LengthFits num) := inferInstanceAs (Decidable (_ ≠ _))

private theorem makeAckSetDeviceAttr_eq (stack conf m : Mem)
    (h : LengthFits (sensorNum conf sensorTypeIoIn)) :
    ∃ bytes, bytes.length = entryLength (sensorNum conf sensorTypeIoIn) % 256 - 1 ∧
      makeAckSetDeviceAttr stack conf m =
        finish (blit (makeAckHead m protocolAckSetDeviceAttr) 4 bytes)
          (4 + (entryLength (sensorNum conf sensorTypeIoIn) % 256 - 1)) := by
  obtain ⟨hcnt, hcopy⟩ := cnt_toNat h
  unfold LengthFits at h
  refine ⟨slice (getOneSensorBuf conf sensorTypeIoIn (fill stack 0 100 0) 0).1 1
    (entryLength (sensorNum conf sensorTypeIoIn) % 256 - 1), slice_length _ _ _, ?_⟩
  simp only [makeAckSetDeviceAttr, getOneSensorBuf_length, hcnt, hcopy, finish]
  rw [show 4 + entryLength (sensorNum conf sensorTypeIoIn) % 256 - 1 =
      4 + (entryLength (sensorNum conf sensorTypeIoIn) % 256 - 1) by omega,
    show 4 + entryLength (sensorNum conf sensorTypeIoIn) % 256 =
      4 + (entryLength (sensorNum conf sensorTypeIoIn) % 256 - 1) + 1 by omega]

private theorem setDeviceAttr_reply (env : Env) {cmd : Mem} (d : Device) (h : LengthFits (cmd 4)) :
    Answers protocolAckSetDeviceAttr (bodyLength d cmd .setDeviceAttr)
      (bodyEnd d cmd .setDeviceAttr) d.bufSend (setDeviceAttr env cmd d) := by
  have hnum := setAlarmin_num env cmd d
  refine Answers.after (Answers.after ?_ (toSocket_sensorIndices _)) (toSocket_setAlarmin env cmd d)
  obtain ⟨bytes, hlen, heq⟩ := makeAckSetDeviceAttr_eq env.stack
    (setAlarminDeviceAttr env cmd d).1.conf (setAlarminDeviceAttr env cmd d).1.bufSend
    (by rw [hnum]; exact h)
  rw [hnum] at hlen heq
  rw [heq]
  refine answers_send _ ((AgreeOutside.refl _ _ _).blit ⟨Nat.le_refl 4, ?_⟩)
  simp only [bodyEnd, bodyLength]
  omega

/-! ## Serial ports -/

private theorem putUartAttr_agree (configUart comMax : Mem) (j : Nat) (m : Mem) {i w : Nat}
    (h : 13 + i ≤ w) : AgreeOutside 4 w m (putUartAttr configUart comMax j i m) := by
  unfold putUartAttr
  have hstore : ∀ {m' : Mem} {k : Nat}, AgreeOutside 4 w m m' → 5 + i ≤ k ∧ k ≤ 12 + i → ∀ v,
      AgreeOutside 4 w m (store m' k v) := fun h' hk v => h'.store (by omega) v
  exact hstore (hstore (hstore (hstore (hstore (hstore (hstore (hstore (.refl _ _ m)
    (by omega) _) (by omega) _) (by omega) _) (by omega) _) (by omega) _) (by omega) _)
    (by omega) _) (by omega) _

private theorem getUartAttr_reply (env : Env) (cmd : Mem) (d : Device) :
    Answers protocolAckGetUartAttr (bodyLength d cmd .getUartAttr)
      (bodyEnd d cmd .getUartAttr) d.bufSend (getUartAttr env cmd d) := by
  have hnum : loadSensor env.stack d.conf sensorTypeUart 1 = sensorNum d.conf sensorTypeUart :=
    loadSensor_hit _ _ _ _ (by decide)
  have hecho : ∀ w, 5 ≤ w → AgreeOutside 4 w (makeAckHead d.bufSend protocolAckGetUartAttr)
      (store (makeAckHead d.bufSend protocolAckGetUartAttr) 4 (cmd 4)) :=
    fun w hw => (AgreeOutside.refl _ _ _).store (by omega) _
  simp only [getUartAttr, makeAckGetUartAttr, hnum, bodyLength, bodyEnd]
  by_cases h1 : sensorNum d.conf sensorTypeUart = 1
  · rw [if_pos h1, if_neg (by rw [h1]; decide)]
    exact answers_send _ ((hecho 13 (by omega)).trans (putUartAttr_agree _ _ _ _ (Nat.le_refl _)))
  · rw [if_neg h1]
    by_cases h2 : sensorNum d.conf sensorTypeUart = 2
    · rw [if_pos h2, if_pos h2, h2]
      refine answers_send _ ((hecho 21 (by omega)).forUpTo fun j hj x => ?_)
      have hj2 : j < 2 := hj
      exact putUartAttr_agree _ _ _ _ (by omega)
    · rw [if_neg h2, if_neg h2]
      exact answers_send _ ((hecho 13 (by omega)).fill (by omega) _)

/-- A query, in either mode. -/
theorem query_answers (cmd : Mem) (d : Device) :
    Answers protocolAckQueryUartRecvData (bodyLength d cmd .queryUartRecvData)
      (bodyEnd d cmd .queryUartRecvData) d.bufSend
      (send d (makeAckQueryUartRecvData d cmd d.bufSend)) := by
  have h0 : (cmd 4).toUInt32 - 1 = 0 ↔ cmd 4 = 1 := portIndex_eq_iff (cmd 4) 1
  have h1 : (cmd 4).toUInt32 - 1 = 1 ↔ cmd 4 = 2 := portIndex_eq_iff (cmd 4) 2
  have hhead : ∀ {w : Nat} (v hi lo : UInt8), 7 ≤ w →
      AgreeOutside 4 w (makeAckHead d.bufSend protocolAckQueryUartRecvData)
        (store (store (store (makeAckHead d.bufSend protocolAckQueryUartRecvData) 4 v) 5 hi) 6
          lo) :=
    fun v hi lo hw => (((AgreeOutside.refl _ _ _).store (by omega) v).store (by omega) hi).store
      (by omega) lo
  simp only [makeAckQueryUartRecvData, h0, h1, bodyLength, bodyEnd, queryCount]
  by_cases hb1 : cmd 4 = 1
  · have hsum : d.uart1Cnt.toNat + 7 = 4 + (3 + d.uart1Cnt.toNat) := by omega
    rw [if_pos hb1, if_pos hb1, if_neg (by rw [hb1]; decide), hsum]
    exact answers_send d ((hhead _ _ _ (by omega)).blit (by rw [slice_length]; omega))
  · rw [if_neg hb1, if_neg hb1]
    by_cases hb2 : cmd 4 = 2
    · have hsum : d.uart2Cnt.toNat + 7 = 4 + (3 + d.uart2Cnt.toNat) := by omega
      rw [if_pos hb2, if_pos hb2, if_pos hb2, hsum]
      exact answers_send d ((hhead _ _ _ (by omega)).blit (by rw [slice_length]; omega))
    · rw [if_neg hb2, if_neg hb2, if_neg hb2]
      exact answers_send d (hhead _ _ _ (by omega))

/-- The port has not taken the data of a `UART_SEND_DATA` yet. -/
def Waiting (env : Env) (cmd : Mem) (d : Device) : Prop :=
  ¬(d.getComAttrId ≥ 2 ∨ d.uartSendCnt = 0 ∨ d.uartSendCnt > 0x800) ∧
    (uartSendData env d cmd).1 = none

private theorem toSocket_uartSendData (env : Env) (d : Device) (buf : Mem) :
    ∀ e ∈ (uartSendData env d buf).2, toSocket e = false := by
  intro e he
  obtain ⟨fd, rest, rfl⟩ := uartSendData_events env d buf e he
  rfl

private theorem makeAckUartSendData_reply (env : Env) {cmd : Mem} {d : Device}
    (h : ¬Waiting env cmd d) :
    Answers protocolAckUartSendData 3 7 d.bufSend (makeAckUartSendData env cmd d) := by
  have hport := (AgreeOutside.refl 4 7 (makeAckHead d.bufSend protocolAckUartSendData)).store
    (i := 4) (by omega) (d.getComAttrId + 1).toUInt8
  unfold makeAckUartSendData
  by_cases hbad : d.getComAttrId ≥ 2 ∨ d.uartSendCnt = 0 ∨ d.uartSendCnt > 0x800
  · simp only [if_pos hbad]
    exact answers_send d ((hport.store (by omega) _).store (by omega) _)
  · simp only [if_neg hbad]
    have hsent := toSocket_uartSendData env d cmd
    cases hr : uartSendData env d cmd with
    | mk ret es =>
        rw [hr] at hsent
        cases ret with
        | none => exact absurd ⟨hbad, congrArg Prod.fst hr⟩ h
        | some ret =>
            exact Answers.after (answers_send d ((hport.store (by omega) _).store (by omega) _))
              hsent

/-- Meanwhile nothing is written to the socket. -/
theorem makeAckUartSendData_waiting {env : Env} {cmd : Mem} {d : Device} (h : Waiting env cmd d) :
    socketWrites (makeAckUartSendData env cmd d).2 = [] ∧
      AgreeOutside 0 7 d.bufSend (makeAckUartSendData env cmd d).1.bufSend := by
  obtain ⟨hgood, hnone⟩ := h
  have hsent := socketWrites_append (toSocket_uartSendData env d cmd) []
  rw [List.append_nil] at hsent
  unfold makeAckUartSendData
  simp only [if_neg hgood]
  cases hr : uartSendData env d cmd with
  | mk ret es =>
      rw [hr] at hsent hnone
      subst hnone
      refine ⟨hsent, ?_⟩
      unfold makeAckHead
      exact (((((AgreeOutside.refl 0 7 d.bufSend).store (by omega) _).store (by omega) _).store
        (by omega) _).store (by omega) _).store (by omega) _

/-! ## `SET_UART_ATTR` -/

/-- The loop writes its results into the body, and nothing to the socket. -/
structure AckStarted (m : Mem) (s : UartRun) : Prop where
  ack : AgreeOutside 4 9 (makeAckHead m protocolAckSetUartAttr) s.ack
  events : ∀ e ∈ s.events, toSocket e = false

theorem AckStarted.round {m : Mem} {s : UartRun} (h : AckStarted m s) (old cmd : Mem) {j : Nat}
    (hj : j < 2) : AckStarted m (UartRun.atExit (setUartRound old cmd j s)) := by
  rcases setUartRound_cases old cmd j s with ⟨_, hr⟩ | ⟨_, _, hr⟩ | ⟨_, _, hr⟩
  · rw [hr]
    exact h
  · rw [hr]
    exact ⟨h.ack, h.events⟩
  · rw [hr]
    refine ⟨(h.ack.store (by omega) _).store (by omega) _, fun e he => ?_⟩
    cases List.mem_append.mp he with
    | inl hold => exact h.events e hold
    | inr hnew =>
        rcases comSet_cases (configSave s.dev (storeSensor (blit s.dev.conf
          (comIndexOff ((uartRecord old cmd j).id - 1)) (uartRecord old cmd j).bytes)
          sensorTypeUart (uartEntry cmd j s.configUart))) (uartRecord old cmd j) with hc | hc
        · rw [hc] at hnew
          exact absurd hnew List.not_mem_nil
        · rw [hc] at hnew
          rw [List.mem_singleton.mp hnew]
          rfl

/-- The reply from the `error:` label. -/
theorem setUartError_reply (cmd : Mem) {m ack : Mem} (d : Device)
    (h : AgreeOutside 4 9 (makeAckHead m protocolAckSetUartAttr) ack) :
    Answers protocolAckSetUartAttr 3 9 m (send d (setUartError cmd ack)) :=
  answers_send d (((h.store (by omega) _).store (by omega) _).store (by omega) _)

private theorem setUartAttr_reply (env : Env) (cmd : Mem) (d : Device) :
    Answers protocolAckSetUartAttr (bodyLength d cmd .setUartAttr)
      (bodyEnd d cmd .setUartAttr) d.bufSend (setUartAttr env cmd d) := by
  simp only [bodyLength, bodyEnd]
  by_cases hcount : cmd 4 ≥ 1 ∧ cmd 4 ≤ 2
  · have hle : (cmd 4).toNat ≤ 2 := UInt8.le_iff_toNat_le.mp hcount.2
    have hstart : AckStarted d.bufSend (uartStart env cmd d) :=
      ⟨(AgreeOutside.refl _ _ _).store (by omega) _, fun e he => absurd he List.not_mem_nil⟩
    have hexit := setUartRounds_keeps d.conf cmd (P := AckStarted d.bufSend) (cmd 4).toNat 0
      (fun i s _ hi h => h.round d.conf cmd (by omega)) hstart
    have hattr : setUartAttr env cmd d = setUartReply cmd
        (setUartRounds d.conf cmd (cmd 4).toNat 0 (uartStart env cmd d)) := if_pos hcount
    rw [hattr]
    by_cases hall : AllStored d cmd
    · have hnone : ∀ i, 0 ≤ i → i < 0 + (cmd 4).toNat → ¬Refused d cmd i :=
        fun i _ hi => hall.2 i (by omega)
      obtain ⟨s, hs⟩ := setUartRounds_stores hnone (uartStart env cmd d)
      rw [hs] at hexit ⊢
      have hsum : 5 + 2 * (cmd 4).toNat = 4 + (1 + 2 * (cmd 4).toNat) := by omega
      rw [if_pos hall, setUartReply, hsum]
      exact Answers.after (answers_send _ hexit.ack) hexit.events
    · obtain ⟨i, hi, hrefused⟩ : ∃ i, i < (cmd 4).toNat ∧ Refused d cmd i := by
        apply Decidable.byContradiction
        intro hno
        exact hall ⟨hcount, fun j hj hr => hno ⟨j, hj, hr⟩⟩
      obtain ⟨s, hs⟩ := setUartRounds_refuses (n := (cmd 4).toNat) (j := 0) (Nat.zero_le i)
        (by omega) hrefused (uartStart env cmd d)
      rw [hs] at hexit ⊢
      rw [if_neg hall, setUartReply]
      exact Answers.after (setUartError_reply cmd _ hexit.ack) hexit.events
  · have hattr : setUartAttr env cmd d =
        send d (setUartError cmd (makeAckHead d.bufSend protocolAckSetUartAttr)) := if_neg hcount
    rw [hattr, if_neg fun hall => hcount hall.1]
    exact setUartError_reply cmd d (.refl _ _ _)

/-! ## Outputs -/

private theorem putIoStatus_agree (env : Env) (cmd : Mem) {j w : Nat} (h : 7 + 2 * j ≤ w)
    (s : Mem × UInt8) : AgreeOutside 4 w s.1 (putIoStatus env cmd j s).1 := by
  simp only [putIoStatus]
  cases outputPin (cmd (5 + j)) with
  | none => exact ((AgreeOutside.refl _ _ s.1).store (by omega) _).store (by omega) _
  | some pin => exact ((AgreeOutside.refl _ _ s.1).store (by omega) _).store (by omega) _

/-- The count of `GET_IO_STATUS` is legal. -/
def StatusCount (num : UInt8) : Prop := ¬(num = 0 ∨ num > ioOutNum)

instance (num : UInt8) : Decidable (StatusCount num) := inferInstanceAs (Decidable (¬_))

theorem statusCount_iff (num : UInt8) : StatusCount num ↔ 1 ≤ num ∧ num ≤ 4 := by
  rw [StatusCount, not_or, ← UInt8.toNat_inj, GT.gt, UInt8.lt_iff_toNat_lt, UInt8.le_iff_toNat_le,
    UInt8.le_iff_toNat_le]
  show ¬num.toNat = 0 ∧ ¬4 < num.toNat ↔ 1 ≤ num.toNat ∧ num.toNat ≤ 4
  omega

private theorem getIoStatus_reply (env : Env) {cmd : Mem} (d : Device) (h : StatusCount (cmd 4)) :
    Answers protocolAckGetIoStatus (bodyLength d cmd .getIoStatus)
      (bodyEnd d cmd .getIoStatus) d.bufSend (getIoStatus env cmd d) := by
  have hloop : AgreeOutside 4 (4 + (1 + 2 * (cmd 4).toNat))
      (makeAckHead d.bufSend protocolAckGetIoStatus)
      (forUpTo (cmd 4).toNat (putIoStatus env cmd)
        (store (makeAckHead d.bufSend protocolAckGetIoStatus) 4 (cmd 4), 0)).1 := by
    refine forUpTo_invariant (fun _ (s : Mem × UInt8) =>
      AgreeOutside 4 _ _ s.1) ?_ _ fun j hj s hs => ?_
    · exact (AgreeOutside.refl _ _ _).store (by omega) _
    · exact hs.trans (putIoStatus_agree env cmd (by omega) s)
  have hsum : 5 + 2 * (cmd 4).toNat = 4 + (1 + 2 * (cmd 4).toNat) := by omega
  simp only [getIoStatus, makeAckGetIoStatus, if_neg h, bodyLength, bodyEnd, hsum]
  exact answers_send d hloop

theorem getIoStatus_undefined (env : Env) (cmd : Mem) (d : Device) (h : ¬StatusCount (cmd 4)) :
    ∃ m, getIoStatus env cmd d = ({ d with bufSend := m }, [.replyUndefined m]) := by
  have hbad : cmd 4 = 0 ∨ cmd 4 > ioOutNum := Decidable.not_not.mp h
  simp only [getIoStatus, makeAckGetIoStatus, if_pos hbad]
  exact ⟨_, rfl⟩

/-! ## Lengths -/

private theorem entryLength_small {num : UInt8} (h : num.toNat ≤ singleSensorMaxNum) :
    entryLength num ≤ 18 := by
  have hnum : num.toNat ≤ 8 := h
  unfold entryLength
  omega

/-- Small entries make short bodies. -/
theorem bodyLength_small {d : Device} (hsmall : SmallTable d.conf) (cmd : Mem) {c : Command}
    (hc : c ≠ .queryUartRecvData) : 4 + bodyLength d cmd c < bufSendSize := by
  have hbyte := (cmd 4).toNat_lt
  have hentry : ∀ k, k < 4 → entryLength (sensorNum d.conf k) ≤ 18 :=
    fun k hk => entryLength_small (hsmall k hk)
  unfold bufSendSize
  cases c with
  | queryUartRecvData => exact absurd rfl hc
  | getDeviceAttr =>
      have hu := hentry sensorTypeUart (by decide)
      have hi := hentry sensorTypeIoIn (by decide)
      have ho := hentry sensorTypeIoOut (by decide)
      have hs := hentry sensorTypeSingleBus (by decide)
      simp only [bodyLength, tableLength]
      omega
  | getAlarmStatus =>
      have hnum : (sensorNum d.conf sensorTypeIoIn).toNat ≤ 8 := hsmall sensorTypeIoIn (by decide)
      simp only [bodyLength]
      omega
  | getUartAttr | setUartAttr =>
      simp only [bodyLength]
      split <;> omega
  | _ =>
      simp only [bodyLength]
      omega

/-! ## All commands -/

/-- The reply follows the scheme: a legal count of outputs, and a sensor entry whose length
is not lost in the `u8`. -/
def Regular (cmd : Mem) : Command → Prop
  | .getIoStatus => StatusCount (cmd 4)
  | .setDeviceAttr => LengthFits (cmd 4)
  | _ => True

/-- `UART_SEND_DATA` has not returned yet. -/
def Pending (env : Env) (cmd : Mem) (d : Device) (c : Command) : Prop :=
  c = .uartSendData ∧ Waiting env cmd (selectPort d cmd)

private theorem setHeartbeat_bufSend (d : Device) (status : Nat) (time : UInt8) :
    (setHeartbeat d status time).bufSend = d.bufSend := by
  unfold setHeartbeat
  split <;> rfl

private theorem setHeartbeatReply_reply (cmd : Mem) (d : Device) :
    Answers protocolAckSetHeartbeat 1 5 d.bufSend (setHeartbeatReply cmd d) := by
  have hreply : Answers protocolAckSetHeartbeat 1 5 d.bufSend
      (send d (makeAckSetHeartbeat d.bufSend d.heartbeatS)) :=
    answers_send d ((AgreeOutside.refl _ _ _).store (by omega) _)
  have hbuf : (setHeartbeatReply cmd d).1.bufSend =
      (send d (makeAckSetHeartbeat d.bufSend d.heartbeatS)).1.bufSend :=
    setHeartbeat_bufSend _ _ _
  constructor
  · rw [hbuf]
    exact hreply.sent
  · rw [hbuf]
    exact hreply.built

/-- The answer of every command. -/
theorem perform_reply (env : Env) (cmd : Mem) (d : Device) {c : Command}
    (hc : answers c = true) (hregular : Regular cmd c) (hpending : ¬Pending env cmd d c) :
    Answers (ackCode c) (bodyLength d cmd c) (bodyEnd d cmd c) d.bufSend (perform env cmd d c) := by
  have hone : ∀ id v, AgreeOutside 4 5 (makeAckHead d.bufSend id)
      (store (makeAckHead d.bufSend id) 4 v) :=
    fun id v => (AgreeOutside.refl _ _ _).store (by omega) v
  cases c with
  | getTime | setUartRecvAttr | setIo | setTemp => exact absurd hc (by decide)
  | getDeviceAttr => exact getDeviceAttr_reply cmd d
  | setDeviceAttr => exact setDeviceAttr_reply env d hregular
  | getAlarmStatus => exact getAlarmStatus_reply cmd d
  | setTime => exact answers_send d (.refl _ _ _)
  | setHeartbeat => exact setHeartbeatReply_reply cmd { d with heartbeatS := cmd 4 }
  | getUartQty | getIoNum | getTempNum => exact answers_send d (hone _ _)
  | getUartAttr => exact getUartAttr_reply env cmd d
  | setUartAttr => exact setUartAttr_reply env cmd d
  | queryUartSendbuf =>
      exact answers_send _ ((((AgreeOutside.refl 4 7 _).store (by omega) _).store
        (by omega) _).store
        (by omega) _)
  | uartSendData =>
      exact makeAckUartSendData_reply env (d := selectPort d cmd) fun h => hpending ⟨rfl, h⟩
  | queryUartRecvData => exact query_answers cmd d
  | getIoStatus => exact getIoStatus_reply env d hregular
  | getTempStatus =>
      exact answers_send d ((((((((AgreeOutside.refl 4 10 _).store (by omega) _).store (by omega)
        _).store (by omega) _).store (by omega) _).store (by omega) _).store (by omega) _))

end Itertk.Client.ReplyLayout
