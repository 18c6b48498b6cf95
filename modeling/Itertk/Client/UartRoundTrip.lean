import Itertk.Client.Dispatch

/-!
# `SET_UART_ATTR` then `GET_UART_ATTR`

The set command writes the line settings into `con_com`, at the place its id
selects, and the ids with their attr bytes into `con_sensor[SENSOR_TYPE_UART]`;
the get command walks the sensor entry and looks the settings up by id.
`Stored` is what the rounds of the set command establish, one port at a time;
`getUartAttr_setUartAttr` reads it back.
-/

namespace Itertk.Client.UartRoundTrip

open Itertk.Base.Memory
open Itertk.Daemon.Layout
open Itertk.Daemon.Uart
open Itertk.Daemon.State
open Itertk.Client.Checks
open Itertk.Client.Replies
open Itertk.Client.Dispatch

/-! ## The command -/

/-- The port that record `j` of the command names, counted from zero. -/
def portOf (cmd : Mem) (j : Nat) : Nat := (resetMsb (cmd (5 + 8 * j)) - 1).toNat

/-- One or two ports with different ids in `{1, 2}` and legal settings. -/
structure LegalUartCommand (conf cmd : Mem) : Prop where
  count : cmd 4 = 1 ∨ cmd 4 = 2
  ids : ∀ j, j < (cmd 4).toNat → resetMsb (cmd (5 + 8 * j)) = 1 ∨ resetMsb (cmd (5 + 8 * j)) = 2
  distinct : ∀ i j, i < j → j < (cmd 4).toNat →
    resetMsb (cmd (5 + 8 * i)) ≠ resetMsb (cmd (5 + 8 * j))
  good : ∀ j, j < (cmd 4).toNat → isGoodUart (uartRecord conf cmd j) = setUartAttrPass

/-- What the reply lists for record `j`: the id without its top bit, then attr,
the three rate bytes, data bits, stop bits and parity as the command has them. -/
def reported (cmd : Mem) (j : Nat) : List UInt8 :=
  [resetMsb (cmd (5 + 8 * j)), cmd (6 + 8 * j), cmd (7 + 8 * j), cmd (8 + 8 * j),
    cmd (9 + 8 * j), cmd (10 + 8 * j), cmd (11 + 8 * j), cmd (12 + 8 * j)]

/-- A legal id selects the record of its port. -/
theorem comIndexOff_port {cmd : Mem} {j : Nat}
    (h : resetMsb (cmd (5 + 8 * j)) = 1 ∨ resetMsb (cmd (5 + 8 * j)) = 2) (old : Mem) :
    comIndexOff ((uartRecord old cmd j).id - 1) = comOff (portOf cmd j) ∧ portOf cmd j < 2 := by
  have hid : (uartRecord old cmd j).id = (resetMsb (cmd (5 + 8 * j))).toUInt32 := rfl
  rcases h with h | h
  · rw [hid, portOf, h]
    exact ⟨by decide, by decide⟩
  · rw [hid, portOf, h]
    exact ⟨by decide, by decide⟩

namespace LegalUartCommand

private theorem lt_two {old cmd : Mem} (h : LegalUartCommand old cmd) {j : Nat}
    (hj : j < (cmd 4).toNat) :
    j < 2 := by
  rcases h.count with hc | hc <;> rw [hc] at hj
  · exact Nat.lt_of_lt_of_le hj (by decide)
  · exact hj

private theorem id_le {old cmd : Mem} (h : LegalUartCommand old cmd) {j : Nat}
    (hj : j < (cmd 4).toNat) :
    (uartRecord old cmd j).id ≤ 2 := by
  show (resetMsb (cmd (5 + 8 * j))).toUInt32 ≤ 2
  rcases h.ids j hj with hid | hid <;> rw [hid] <;> decide

/-- Different records name different ports. -/
theorem portOf_ne {old cmd : Mem} (h : LegalUartCommand old cmd) {i j : Nat} (hij : i < j)
    (hj : j < (cmd 4).toNat) : portOf cmd i ≠ portOf cmd j := by
  have hne := h.distinct i j hij hj
  intro heq
  simp only [portOf] at heq
  rcases h.ids i (by omega) with hid | hid <;> rcases h.ids j hj with hid' | hid' <;>
    rw [hid, hid'] at hne heq
  · exact hne rfl
  · exact absurd heq (by decide)
  · exact absurd heq (by decide)
  · exact hne rfl

end LegalUartCommand

/-! ## The rounds -/

/-- After `j` rounds: the records of the ports named so far, the copied sensor
entry, and its image in the configuration. -/
structure Stored (old cmd : Mem) (j : Nat) (s : UartRun) : Prop where
  records : ∀ i, i < j →
    ConfigCom.load s.dev.conf (comOff (portOf cmd i)) = uartRecord old cmd i
  entries : ∀ i, i < j → s.configUart (2 + i) = cmd (5 + 8 * i) ∧
    s.configUart (10 + i) = cmd (6 + 8 * i)
  number : s.configUart 1 = cmd 4
  image : 0 < j → ∀ i, i < sensorSize → s.dev.conf (sensorOff sensorTypeUart + i) = s.configUart i

/-- The record of the round is stored, and the ones before it stay. -/
theorem records_stored {old cmd : Mem} (hlegal : LegalUartCommand old cmd) {j : Nat}
    (hj : j < (cmd 4).toNat) {s : UartRun} (hs : Stored old cmd j s) (configUart : Mem) {i : Nat}
    (hi : i < j + 1) :
    ConfigCom.load (storeSensor (blit s.dev.conf (comOff (portOf cmd j))
      (uartRecord old cmd j).bytes)
      sensorTypeUart configUart) (comOff (portOf cmd i)) = uartRecord old cmd i := by
  have hsensor : comOff (portOf cmd i) + comSize ≤ sensorOff sensorTypeUart := by
    have hi2 := (comIndexOff_port (hlegal.ids i (by omega)) old).2
    simp only [comOff, comSize, sensorOff, sensorTypeUart]
    omega
  rw [storeSensor, ConfigCom.load_blit_disjoint _ _ (.inl hsensor)]
  by_cases hij : i = j
  · rw [hij, ConfigCom.load_bytes]
  · have hports := hlegal.portOf_ne (by omega : i < j) hj
    rw [ConfigCom.load_blit_disjoint _ _ (by
      rw [ConfigCom.bytes_length]
      simp only [comOff, comSize]
      omega)]
    exact hs.records i (by omega)

private theorem setUartRound_stored {old cmd : Mem} (hlegal : LegalUartCommand old cmd) {j : Nat}
    (hj : j < (cmd 4).toNat) {s : UartRun} (hs : Stored old cmd j s) :
    ∃ s', setUartRound old cmd j s = .ok s' ∧ Stored old cmd (j + 1) s' := by
  have hj2 := hlegal.lt_two hj
  have hoff := (comIndexOff_port (hlegal.ids j hj) old).1
  have hgood := (isGoodUart_iff _).mp (hlegal.good j hj)
  rcases setUartRound_cases old cmd j s with ⟨hbad, _⟩ | ⟨_, hbad, _⟩ | ⟨_, _, hr⟩
  · exact absurd (hlegal.id_le hj) (UInt32.not_le.mpr hbad)
  · exact absurd hgood hbad
  · refine ⟨_, hr, ?_, ?_, ?_, ?_⟩
    · intro i hi
      show ConfigCom.load (comSet _ _).1.conf _ = _
      rw [comSet_conf, configSave_conf, hoff]
      exact records_stored hlegal hj hs _ hi
    · intro i hi
      show uartEntry cmd j s.configUart (2 + i) = _ ∧ uartEntry cmd j s.configUart (10 + i) = _
      simp only [uartEntry, store_apply]
      by_cases hij : i = j
      · subst hij
        rw [if_neg (by omega), if_pos rfl, if_pos rfl]
        exact ⟨rfl, rfl⟩
      · rw [if_neg (by omega), if_neg (by omega), if_neg (by omega), if_neg (by omega)]
        exact hs.entries i (by omega)
    · show uartEntry cmd j s.configUart 1 = _
      rw [uartEntry, store_ne _ _ (by omega), store_ne _ _ (by omega)]
      exact hs.number
    · intro _ i hi
      show (comSet _ _).1.conf _ = _
      rw [comSet_conf, configSave_conf, storeSensor_hit _ _ _ _ hi]

private theorem setUartRounds_stored {old cmd : Mem} (hlegal : LegalUartCommand old cmd) (n j : Nat)
    (hn : j + n ≤ (cmd 4).toNat) {s : UartRun} (hs : Stored old cmd j s) :
    ∃ s', setUartRounds old cmd n j s = .ok s' ∧ Stored old cmd (j + n) s' := by
  induction n generalizing j s with
  | zero => exact ⟨s, rfl, hs⟩
  | succ n ih =>
      obtain ⟨s₁, hr, hs₁⟩ := setUartRound_stored hlegal (by omega) hs
      obtain ⟨s', hrest, hs'⟩ := ih (j + 1) (by omega) hs₁
      refine ⟨s', ?_, ?_⟩
      · rw [setUartRounds, hr]
        exact hrest
      · rw [← Nat.add_assoc, Nat.add_right_comm]
        exact hs'

/-- The configuration after a legal command. -/
theorem setUartAttr_stored (env : Env) {cmd : Mem} {d : Device}
    (hlegal : LegalUartCommand d.conf cmd) :
    ∃ s, (setUartAttr env cmd d).1.conf = s.dev.conf ∧ Stored d.conf cmd (cmd 4).toNat s := by
  have hnum : cmd 4 ≥ 1 ∧ cmd 4 ≤ 2 := by
    rcases hlegal.count with h | h <;> rw [h] <;> decide
  have hstart : Stored d.conf cmd 0 (uartStart env cmd d) :=
    ⟨fun i hi => absurd hi (Nat.not_lt_zero i), fun i hi => absurd hi (Nat.not_lt_zero i), rfl,
      fun h => absurd h (Nat.lt_irrefl 0)⟩
  obtain ⟨s, hr, hs⟩ := setUartRounds_stored hlegal (cmd 4).toNat 0 (by omega) hstart
  rw [Nat.zero_add] at hs
  refine ⟨s, ?_, hs⟩
  rw [setUartAttr, if_pos hnum, hr]
  rfl

/-! ## The reply -/

/-- The eight bytes written for one port. -/
theorem putUartAttr_slice (configUart comMax : Mem) (j i : Nat) (m : Mem) :
    let com := ConfigCom.load comMax (28 * (resetMsb (configUart (2 + j)) - 1).toNat)
    slice (putUartAttr configUart comMax j i m) 0 (5 + i + 8) =
      slice m 0 (5 + i) ++
        [resetMsb (configUart (2 + j)), configUart (10 + j), calcHighByte com.bps,
          calcMidByte com.bps, calcLowByte com.bps, com.dbit, com.sbit.toUInt8,
          returnRemoteOddEven com.chk] := by
  intro com
  rw [slice_add, Nat.zero_add]
  congr 1
  · rw [slice_eq_iff]
    intro k hk
    simp only [putUartAttr, store_apply]
    repeat rw [if_neg (by omega)]
  · simp only [slice_succ, slice_zero, putUartAttr, store_apply]
    rw [show 6 + i = 5 + i + 1 by omega, show 7 + i = 5 + i + 2 by omega,
      show 8 + i = 5 + i + 3 by omega, show 9 + i = 5 + i + 4 by omega,
      show 10 + i = 5 + i + 5 by omega, show 11 + i = 5 + i + 6 by omega,
      show 12 + i = 5 + i + 7 by omega]
    simp [com]

/-- The entry that the reply reads is the one that was stored. -/
theorem loadSensor_stored {old cmd : Mem} {s : UartRun} (hs : Stored old cmd (cmd 4).toNat s)
    (stack : Mem) {j : Nat} (hj : j < (cmd 4).toNat) (hj2 : j < 2) :
    loadSensor stack s.dev.conf sensorTypeUart (2 + j) = cmd (5 + 8 * j) ∧
      loadSensor stack s.dev.conf sensorTypeUart (10 + j) = cmd (6 + 8 * j) := by
  have hentry : ∀ a, a < sensorSize →
      loadSensor stack s.dev.conf sensorTypeUart a = s.configUart a := by
    intro a ha
    rw [loadSensor_hit _ _ _ _ ha]
    exact hs.image (by omega) a ha
  rw [hentry _ (by simp only [sensorSize]; omega), hentry _ (by simp only [sensorSize]; omega)]
  exact hs.entries j hj

/-- The copy of `con_com` that the reply reads holds the records. -/
theorem copiedCom_stored {old cmd : Mem} {s : UartRun} (hs : Stored old cmd (cmd 4).toNat s)
    (comMax : Mem) {j : Nat} (hj : j < (cmd 4).toNat) (hport : portOf cmd j < 2) :
    ConfigCom.load (blit comMax 0 (slice s.dev.conf (comOff 0) (2 * comSize))) (28 * portOf cmd j) =
      uartRecord old cmd j := by
  rw [← hs.records j hj]
  apply ConfigCom.load_congr
  intro a ha
  simp only [comSize] at ha
  have hlt : 28 * portOf cmd j + a < (slice s.dev.conf (comOff 0) (2 * comSize)).length := by
    rw [slice_length]
    simp only [comSize]
    omega
  have hhit := blit_hit comMax 0 _ _ hlt
  rw [Nat.zero_add, getElem_slice] at hhit
  rw [hhit]
  congr 1
  simp only [comOff]
  omega

/-- In a stored configuration the bytes written for port `j` are the ones the
command carried. -/
theorem putUartAttr_stored {old cmd : Mem} (hlegal : LegalUartCommand old cmd) {s : UartRun}
    (hs : Stored old cmd (cmd 4).toNat s) (stack : Mem) (comMax : Mem) {j : Nat}
    (hj : j < (cmd 4).toNat) (i : Nat) (m : Mem) :
    slice (putUartAttr (loadSensor stack s.dev.conf sensorTypeUart)
        (blit comMax 0 (slice s.dev.conf (comOff 0) (2 * comSize))) j i m) 0 (5 + i + 8) =
      slice m 0 (5 + i) ++ reported cmd j := by
  obtain ⟨hid, hattr⟩ := loadSensor_stored hs stack hj (hlegal.lt_two hj)
  have hcom := copiedCom_stored hs comMax hj (comIndexOff_port (hlegal.ids j hj) old).2
  have hgood := (isGoodUart_iff _).mp (hlegal.good j hj)
  obtain ⟨hhigh, hmid, hlow⟩ := calcBytes_baudRate (cmd (7 + 8 * j)) (cmd (8 + 8 * j))
    (cmd (9 + 8 * j))
  have hpar : returnRemoteOddEven (returnLocalOddEven (cmd (12 + 8 * j))) = cmd (12 + 8 * j) :=
    returnRemoteOddEven_local _ hgood.chk
  rw [putUartAttr_slice, hid, hattr]
  rw [show (resetMsb (cmd (5 + 8 * j)) - 1).toNat = portOf cmd j from rfl, hcom]
  rw [reported, show (uartRecord old cmd j).chk = returnLocalOddEven (cmd (12 + 8 * j)) from rfl,
    hpar]
  show _ ++ [_, _, calcHighByte (calcBaudRate _ _ _), calcMidByte (calcBaudRate _ _ _),
    calcLowByte (calcBaudRate _ _ _), cmd (10 + 8 * j), (cmd (11 + 8 * j)).toUInt32.toUInt8, _] = _
  rw [hhigh, hmid, hlow, UInt8.toUInt8_toUInt32]

/-- The loop of the reply lists the ports in the order of the command. -/
theorem putUartAttr_loop {old cmd : Mem} (hlegal : LegalUartCommand old cmd) {s : UartRun}
    (hs : Stored old cmd (cmd 4).toNat s) (stack comMax : Mem) (m : Mem) (n : Nat)
    (hn : n ≤ (cmd 4).toNat) :
    slice (forUpTo n (fun j m => putUartAttr (loadSensor stack s.dev.conf sensorTypeUart)
        (blit comMax 0 (slice s.dev.conf (comOff 0) (2 * comSize))) j (8 * j) m) m) 0 (5 + 8 * n) =
      slice m 0 5 ++ (List.range n).flatMap (reported cmd) := by
  induction n with
  | zero => exact (List.append_nil _).symm
  | succ n ih =>
      rw [forUpTo_succ, Nat.mul_succ, ← Nat.add_assoc,
        putUartAttr_stored hlegal hs stack comMax (by omega), ih (by omega),
        List.range_succ, List.flatMap_append, List.append_assoc]
      rw [List.flatMap_singleton]

/-- The reply of the get command in a stored configuration. -/
theorem getUartAttr_stored (env : Env) {old cmd : Mem} (hlegal : LegalUartCommand old cmd)
    {s : UartRun} (hs : Stored old cmd (cmd 4).toNat s) {d : Device} (hd : d.conf = s.dev.conf)
    (req : Mem) :
    (getUartAttr env req d).2 =
      [.reply ([protocolHead1, protocolHead2, protocolAckGetUartAttr, alarmDeviceId, req 4] ++
        (List.range (cmd 4).toNat).flatMap (reported cmd) ++ [0])] := by
  have hnum : loadSensor env.stack s.dev.conf sensorTypeUart 1 = cmd 4 := by
    rw [loadSensor_hit _ _ _ _ (by decide), hs.image ?_ 1 (by decide), hs.number]
    rcases hlegal.count with h | h <;> rw [h] <;> decide
  have hloop := putUartAttr_loop hlegal hs env.stack d.getComAttrMax
    (store (makeAckHead d.bufSend protocolAckGetUartAttr) 4 (req 4)) (cmd 4).toNat
    (Nat.le_refl _)
  rw [slice_ackHead] at hloop
  unfold getUartAttr makeAckGetUartAttr
  simp only [hd, hnum]
  -- the branch for one port is the loop unrolled
  rcases hlegal.count with h | h
  · rw [h] at hloop ⊢
    simp only [if_true]
    rw [send, slice_finish, ← hloop]
    rfl
  · rw [h] at hloop ⊢
    rw [if_neg (by decide)]
    simp only [if_true]
    rw [send, slice_finish, ← hloop]

/-! ## Two packets -/

/-- After a legal `SET_UART_ATTR`, the reply to the next `GET_UART_ATTR` lists the
command's ports in its order, with the values it carried.  Byte 4 is the one of
the request. -/
theorem getUartAttr_setUartAttr (env env' : Env) (s : Receiver) (p q : Packet)
    (hp : Reaches (received s.buf p) p.bytes.length .setUartAttr)
    (hlegal : LegalUartCommand s.dev.conf (received s.buf p))
    (hq : Reaches (received (clientStep env s p).1.buf q) q.bytes.length .getUartAttr) :
    (clientStep env' (clientStep env s p).1 q).2 =
      [.reply ([protocolHead1, protocolHead2, protocolAckGetUartAttr, alarmDeviceId,
          received (clientStep env s p).1.buf q 4] ++
        (List.range (received s.buf p 4).toNat).flatMap (reported (received s.buf p)) ++ [0])] := by
  have hset : (clientStep env s p).1.dev = (setUartAttr env (received s.buf p) s.dev).1 :=
    congrArg Prod.fst (clientDispatch_reaches env s.dev hp)
  obtain ⟨run, hconf, hstored⟩ := setUartAttr_stored env hlegal
  have hd : (clientStep env s p).1.dev.conf = run.dev.conf := by rw [hset, hconf]
  have hget : (clientStep env' (clientStep env s p).1 q).2 =
      (getUartAttr env' (received (clientStep env s p).1.buf q) (clientStep env s p).1.dev).2 :=
    congrArg Prod.snd (clientDispatch_reaches env' (clientStep env s p).1.dev hq)
  rw [hget, getUartAttr_stored env' hlegal hstored hd]

/-- Port 2 at 115200 8N1 and port 1 at 9600 7E2. -/
def setTwoPorts : Packet where
  bytes := [0x55, 0xaa, 0x0f, 0x01, 2, 0x82, 7, 0x01, 0xc2, 0x00, 8, 1, 0,
    1, 9, 0x00, 0x25, 0x80, 7, 2, 2, 0]
  nonempty := by decide
  short := by decide

def getTwoPorts : Packet where
  bytes := [0x55, 0xaa, 0x0d, 0x01, 2, 2, 1, 0]
  nonempty := by decide
  short := by decide

theorem getUartAttr_setTwoPorts :
    (clientStep Env.idle (clientStep Env.idle ⟨zero, Device.start zero⟩ setTwoPorts).1
      getTwoPorts).2 =
      [.reply [0x55, 0xaa, 0x0e, 0x01, 2, 2, 7, 0x01, 0xc2, 0x00, 8, 1, 0,
        1, 9, 0x00, 0x25, 0x80, 7, 2, 2, 0]] := by
  have hp : Reaches (received zero setTwoPorts) setTwoPorts.bytes.length .setUartAttr :=
    Accepted.reaches ⟨by decide, rfl, rfl, rfl, rfl⟩
  have hids : ∀ j, j < 2 → resetMsb (received zero setTwoPorts (5 + 8 * j)) = 1 ∨
      resetMsb (received zero setTwoPorts (5 + 8 * j)) = 2 := by decide
  have hdistinct : ∀ j, j < 2 → ∀ i, i < j →
      resetMsb (received zero setTwoPorts (5 + 8 * i)) ≠
        resetMsb (received zero setTwoPorts (5 + 8 * j)) := by decide
  have hgood : ∀ j, j < 2 →
      isGoodUart (uartRecord zero (received zero setTwoPorts) j) = setUartAttrPass := by decide
  have hlegal : LegalUartCommand zero (received zero setTwoPorts) :=
    ⟨.inr rfl, hids, fun i j hij hj => hdistinct j hj i hij, hgood⟩
  have hq : Reaches (received (received zero setTwoPorts) getTwoPorts) getTwoPorts.bytes.length
      .getUartAttr := Accepted.reaches ⟨by decide, rfl, rfl, rfl, rfl⟩
  exact getUartAttr_setUartAttr Env.idle Env.idle ⟨zero, Device.start zero⟩ setTwoPorts
    getTwoPorts hp hlegal hq

end Itertk.Client.UartRoundTrip
