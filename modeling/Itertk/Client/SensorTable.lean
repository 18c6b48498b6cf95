import Itertk.Base.Run
import Itertk.Client.Dispatch
import Itertk.Daemon.Config

/-!
# The sensor table over whole runs

The arrays of a `con_sensor` entry have eight elements, and every encoder loops
up to the stored number.  The table is well formed when entry `k` has type `k`
and a number of at most eight.  Three arms store a received number: two of them
test it with `&&` where `||` is meant, the third stores it before the test.

## Main results

* `perform_sensor` — what one accepted command does to the table.
* `clientStep_sensor_iff` — one packet keeps the table and its indices in range
  exactly when it does not bring a larger number to one of the three arms.
* `sensorTable_iff` — the same for every run from the default configuration.
-/

namespace Itertk.Client.SensorTable

open Itertk.Base.Memory
open Itertk.Base.Run
open Itertk.Daemon.Layout
open Itertk.Daemon.Config
open Itertk.Daemon.State
open Itertk.Client.Checks
open Itertk.Client.Replies
open Itertk.Client.Dispatch

/-- Entry `k` has type `k` and at most `SINGLE_SENSOR_MAX_NUM` sensors. -/
def SensorTableOk (conf : Mem) : Prop :=
  ∀ k, k < 4 → sensorType conf k = UInt8.ofNat k ∧ (sensorNum conf k).toNat ≤ singleSensorMaxNum

/-- No index into `seq_num` or `attr` is past the end. -/
def IndicesOk (es : List Event) : Prop := ∀ j, .sensorIndex j ∈ es → j < singleSensorMaxNum

/-! ## Indices -/

theorem indicesOk_append {es es' : List Event} (h : IndicesOk es) (h' : IndicesOk es') :
    IndicesOk (es ++ es') := by
  intro j hj
  rcases List.mem_append.mp hj with hj | hj
  · exact h j hj
  · exact h' j hj

/-- Events that are all visible use no sensor index. -/
theorem indicesOk_of_visible {es : List Event} (h : ∀ e ∈ es, e.visible = true) :
    IndicesOk es := by
  intro j hj
  exact absurd (h _ hj) Bool.false_ne_true

private theorem indicesOk_sensorIndices {n : Nat} (h : n ≤ singleSensorMaxNum) :
    IndicesOk (sensorIndices n) := by
  intro j hj
  obtain ⟨i, hi, heq⟩ := List.mem_map.mp hj
  have hij : i = j := by injection heq
  have hin := List.mem_range.mp hi
  omega

private theorem indicesOk_sensorReads {conf : Mem} (h : SensorTableOk conf) {k : Nat} (hk : k < 4) :
    IndicesOk (sensorReads conf k) :=
  indicesOk_sensorIndices (h k hk).2

private theorem send_visible (d : Device) (r : Mem × Nat) :
    ∀ e ∈ (send d r).2, e.visible = true := by
  intro e he
  rw [List.mem_singleton.mp he]
  rfl

/-! ## The table -/

/-- The table lies above `&con_sensor[0]`. -/
theorem sensorTableOk_congr {conf conf' : Mem}
    (h : ∀ i, sensorOff 0 ≤ i → conf' i = conf i) (hok : SensorTableOk conf) :
    SensorTableOk conf' := by
  intro k hk
  have htype : sensorType conf' k = sensorType conf k := h _ (by simp only [sensorOff]; omega)
  have hnum : sensorNum conf' k = sensorNum conf k := h _ (by simp only [sensorOff]; omega)
  rw [htype, hnum]
  exact hok k hk

/-- Storing a record of the right type keeps the table exactly when its number
is in range. -/
theorem sensorTableOk_storeSensor {conf : Mem} (hok : SensorTableOk conf) {k : Nat} (hk : k < 4)
    {sensor : Mem} (htype : sensor 0 = UInt8.ofNat k) :
    SensorTableOk (storeSensor conf k sensor) ↔ (sensor 1).toNat ≤ singleSensorMaxNum := by
  have hit0 : sensorType (storeSensor conf k sensor) k = sensor 0 :=
    storeSensor_hit conf sensor k 0 (by decide)
  have hit1 : sensorNum (storeSensor conf k sensor) k = sensor 1 :=
    storeSensor_hit conf sensor k 1 (by decide)
  constructor
  · intro h
    rw [← hit1]
    exact (h k hk).2
  · intro hnum k' hk'
    by_cases hkk : k' = k
    · subst hkk
      rw [hit0, hit1]
      exact ⟨htype, hnum⟩
    · have hmiss : ∀ i, i < sensorSize →
          storeSensor conf k sensor (sensorOff k' + i) = conf (sensorOff k' + i) := by
        intro i hi
        apply storeSensor_outside
        simp only [sensorOff, sensorSize] at hi ⊢
        omega
      have htype' : sensorType (storeSensor conf k sensor) k' = sensorType conf k' :=
        hmiss 0 (by decide)
      have hnum' : sensorNum (storeSensor conf k sensor) k' = sensorNum conf k' :=
        hmiss 1 (by decide)
      rw [htype', hnum']
      exact hok k' hk'

/-! ## The arms that store a received number -/

/-- `set_one_sensor_buf` stores the received number whatever it is. -/
theorem setOneSensorBuf_spec (buf sensor : Mem) :
    (setOneSensorBuf buf sensor).1 0 = sensor 0 ∧ (setOneSensorBuf buf sensor).1 1 = buf 0 ∧
      IndicesOk (setOneSensorBuf buf sensor).2 := by
  unfold setOneSensorBuf
  by_cases h0 : (buf 0).toNat = 0
  · simp only [if_pos h0]
    refine ⟨rfl, rfl, ?_⟩
    intro j hj
    have hj0 : j = 0 := by simpa using hj
    rw [hj0]
    decide
  · by_cases h8 : (buf 0).toNat > singleSensorMaxNum
    · simp only [if_neg h0, if_pos h8]
      exact ⟨rfl, rfl, fun j hj => absurd hj (by simp)⟩
    · simp only [if_neg h0, if_neg h8]
      rw [← and_assoc]
      refine ⟨?_, indicesOk_sensorIndices (by omega)⟩
      apply forUpTo_invariant fun (_ : Nat) (m : Mem) => m 0 = sensor 0 ∧ m 1 = buf 0
      · exact ⟨rfl, rfl⟩
      · intro j _ m hm
        rw [store_ne _ _ (by omega), store_ne _ _ (by omega), store_ne _ _ (by omega),
          store_ne _ _ (by omega)]
        exact hm

/-- The loop of `set_io_out` keeps type and number and uses the indices below the
number. -/
theorem setIoLoop_spec (cmd : Mem) (sensor : Mem) (n : Nat) :
    let r := forUpTo n (setIoRound cmd) (sensor, [])
    r.1 0 = sensor 0 ∧ r.1 1 = sensor 1 ∧ (n ≤ singleSensorMaxNum → IndicesOk r.2) := by
  induction n with
  | zero => exact ⟨rfl, rfl, fun _ j hj => absurd hj (by simp)⟩
  | succ n ih =>
      obtain ⟨h0, h1, hidx⟩ := ih
      rw [forUpTo_succ]
      refine ⟨?_, ?_, ?_⟩
      · show store (store _ (2 + n) _) (10 + n) _ 0 = _
        rw [store_ne _ _ (by omega), store_ne _ _ (by omega)]
        exact h0
      · show store (store _ (2 + n) _) (10 + n) _ 1 = _
        rw [store_ne _ _ (by omega), store_ne _ _ (by omega)]
        exact h1
      · intro hn
        refine indicesOk_append (hidx (by omega)) ?_
        intro j hj
        rcases List.mem_cons.mp hj with hj | hj
        · have hjn : j = n := by injection hj
          omega
        · exact absurd (ioOutput_visible cmd n _ hj) Bool.false_ne_true

/-- `set_io_out` stays in its local record exactly when the count does. -/
theorem ioRecord_indices (env : Env) (cmd : Mem) :
    IndicesOk (ioRecord env cmd).2 ↔ (cmd 4).toNat ≤ singleSensorMaxNum := by
  have huses : ∀ j, j < (cmd 4).toNat → Event.sensorIndex j ∈ (ioRecord env cmd).2 := by
    refine forUpTo_invariant
      (fun n (s : Mem × List Event) => ∀ j, j < n → Event.sensorIndex j ∈ s.2)
      (fun j hj => absurd hj (Nat.not_lt_zero j)) _ fun n _ s hs j hj => ?_
    rcases Nat.lt_or_eq_of_le (Nat.le_of_lt_succ hj) with hlt | rfl
    · exact List.mem_append_left _ (hs j hlt)
    · exact List.mem_append_right _ List.mem_cons_self
  constructor
  · intro h
    apply Nat.le_of_not_lt
    intro hlt
    exact absurd (h _ (huses _ hlt)) (Nat.lt_irrefl _)
  · exact (setIoLoop_spec cmd _ _).2.2

/-! ## One accepted command -/

/-- A well-formed table, and only indices in range on the way to it. -/
def Kept (o : Outcome) : Prop := SensorTableOk o.1.conf ∧ IndicesOk o.2

private theorem kept_self {d : Device} (h : SensorTableOk d.conf) : Kept (d, []) :=
  ⟨h, fun _ hj => absurd hj (List.not_mem_nil)⟩

private theorem kept_send {d : Device} (h : SensorTableOk d.conf) (r : Mem × Nat) :
    Kept (send d r) :=
  ⟨h, indicesOk_of_visible (send_visible d r)⟩

/-- What follows a step is kept exactly when the step is, if the rest leaves the
configuration alone and uses indices of the table only. -/
theorem kept_andThen {o : Outcome} {h : Device → Outcome} (hconf : (h o.1).1.conf = o.1.conf)
    (hidx : SensorTableOk o.1.conf → IndicesOk (h o.1).2) : Kept (o.andThen h) ↔ Kept o := by
  constructor
  · rintro ⟨htab, hall⟩
    refine ⟨hconf ▸ htab, fun j hj => hall j (List.mem_append_left _ hj)⟩
  · rintro ⟨htab, hall⟩
    refine ⟨?_, indicesOk_append hall (hidx htab)⟩
    show SensorTableOk (h o.1).1.conf
    rw [hconf]
    exact htab

/-- The commands whose arm stores the count byte of the packet. -/
def storesCount : Command → Bool
  | .setDeviceAttr | .setIo | .setTemp => true
  | _ => false

private theorem setDeviceAttr_kept (env : Env) (cmd : Mem) {d : Device}
    (hok : SensorTableOk d.conf) :
    Kept (setDeviceAttr env cmd d) ↔ (cmd 4).toNat ≤ singleSensorMaxNum := by
  obtain ⟨h0, h1, hidx⟩ := setOneSensorBuf_spec (shift cmd 4)
    (loadSensor env.stack d.conf sensorTypeIoIn)
  have htype : (setOneSensorBuf (shift cmd 4) (loadSensor env.stack d.conf sensorTypeIoIn)).1 0 =
      UInt8.ofNat sensorTypeIoIn := by
    rw [h0, loadSensor_hit _ _ _ _ (by decide)]
    exact (hok sensorTypeIoIn (by decide)).1
  have htab := sensorTableOk_storeSensor hok (k := sensorTypeIoIn) (by decide) htype
  rw [h1] at htab
  have hinner : Kept (setAlarminDeviceAttr env cmd d) ↔ (cmd 4).toNat ≤ singleSensorMaxNum :=
    ⟨fun h => htab.mp h.1, fun h => ⟨htab.mpr h, hidx⟩⟩
  rw [← hinner]
  apply kept_andThen
  · rfl
  · intro h
    exact indicesOk_append (indicesOk_sensorReads h (by decide))
      (indicesOk_of_visible (send_visible _ _))

private theorem setIoOut_kept (env : Env) (cmd : Mem) {d : Device} (hok : SensorTableOk d.conf) :
    Kept (setIoOut env cmd d) ↔ (cmd 4).toNat ≤ singleSensorMaxNum := by
  obtain ⟨h0, h1, hidx⟩ := setIoLoop_spec cmd
    (store (store env.stack 0 (UInt8.ofNat sensorTypeIoOut)) 1 (cmd 4)) (cmd 4).toNat
  have htab := sensorTableOk_storeSensor hok (k := sensorTypeIoOut) (by decide) h0
  rw [h1] at htab
  rw [setIoOut_eq]
  exact ⟨fun h => htab.mp h.1, fun h => ⟨htab.mpr h, hidx h⟩⟩

private theorem setTemp_kept (env : Env) (cmd : Mem) {d : Device} (hok : SensorTableOk d.conf) :
    Kept (setTemp env cmd d) ↔ (cmd 4).toNat ≤ singleSensorMaxNum := by
  have htype : tempRecord env cmd 0 = UInt8.ofNat sensorTypeSingleBus := rfl
  have htab := sensorTableOk_storeSensor hok (k := sensorTypeSingleBus) (by decide) htype
  have hidx : IndicesOk [.sensorIndex 0] := by
    intro j hj
    have hj0 : j = 0 := by simpa using hj
    rw [hj0]
    decide
  rw [setTemp_eq]
  exact ⟨fun h => htab.mp h.1, fun h => ⟨htab.mpr h, hidx⟩⟩

/-- What the rounds of `SET_UART_ATTR` keep: the table, and the record that goes into
entry 0, with its old type and the packet's count. -/
structure RoundOk (cmd : Mem) (s : UartRun) : Prop where
  table : SensorTableOk s.dev.conf
  indices : IndicesOk s.events
  type : s.configUart 0 = UInt8.ofNat sensorTypeUart
  count : s.configUart 1 = cmd 4

private theorem uartStart_ok (env : Env) (cmd : Mem) {d : Device} (hok : SensorTableOk d.conf) :
    RoundOk cmd (uartStart env cmd d) := by
  refine ⟨hok, (kept_self hok).2, ?_, rfl⟩
  show store (loadSensor env.stack d.conf sensorTypeUart) 1 (cmd 4) 0 = _
  rw [store_ne _ _ (by omega), loadSensor_hit _ _ _ _ (by decide)]
  exact (hok 0 (by decide)).1

/-- A port record ends below `con_sensor`. -/
theorem blit_com_below (conf : Mem) {com : ConfigCom} (hid : com.id ≤ 2) {i : Nat}
    (hi : sensorOff 0 ≤ i) : blit conf (comIndexOff (com.id - 1)) com.bytes i = conf i := by
  simp only [sensorOff] at hi
  apply blit_after
  rw [ConfigCom.bytes_length]
  rcases comIndexOff_of_le hid with ⟨_, ho⟩ | ⟨_, ho⟩ | ⟨_, ho⟩
  all_goals rw [ho]; simp only [comOff, comSize]; omega

private theorem setUartRound_ok (old : Mem) {cmd : Mem} (hnum : (cmd 4).toNat ≤ singleSensorMaxNum)
    (j : Nat)
    {s : UartRun} (h : RoundOk cmd s) :
    RoundOk cmd (UartRun.atExit (setUartRound old cmd j s)) := by
  have hentry : ∀ i, i < 2 → uartEntry cmd j s.configUart i = s.configUart i := by
    intro i hi
    rw [uartEntry, store_ne _ _ (by omega), store_ne _ _ (by omega)]
  have htype := (hentry 0 (by omega)).trans h.type
  have hcount := (hentry 1 (by omega)).trans h.count
  rcases setUartRound_cases old cmd j s with ⟨_, hr⟩ | ⟨_, _, hr⟩ | ⟨hid, _, hr⟩
  · rw [hr]
    exact h
  · rw [hr]
    exact ⟨h.table, h.indices, htype, hcount⟩
  · rw [hr]
    refine ⟨?_, ?_, htype, hcount⟩
    · show SensorTableOk (comSet _ _).1.conf
      rw [comSet_conf]
      have hbelow := sensorTableOk_congr (fun _ hi => blit_com_below s.dev.conf hid hi) h.table
      refine (sensorTableOk_storeSensor hbelow (by decide) htype).mpr ?_
      rw [hcount]
      exact hnum
    · exact indicesOk_append h.indices (indicesOk_of_visible (comSet_visible _ _))

/-- `SET_UART_ATTR` writes entry 0 with the count 1 or 2 and its old type, and the
port records below the table. -/
theorem setUartAttr_kept (env : Env) (cmd : Mem) {d : Device} (hok : SensorTableOk d.conf) :
    Kept (setUartAttr env cmd d) := by
  rcases setUartAttr_cases env cmd d with ⟨r, hr⟩ | ⟨_, hle, r, hr⟩
  · rw [hr]
    exact kept_send hok r
  · rw [hr, kept_andThen rfl fun _ => indicesOk_of_visible (send_visible _ r)]
    have hnum : (cmd 4).toNat ≤ singleSensorMaxNum := by
      have := UInt8.le_iff_toNat_le.mp hle
      simp only [UInt8.reduceToNat] at this
      exact Nat.le_trans this (by decide)
    have hend := setUartRounds_invariant d.conf cmd (P := RoundOk cmd)
      (fun j s hs => setUartRound_ok d.conf hnum j hs) (cmd 4).toNat 0 (uartStart_ok env cmd hok)
    exact ⟨hend.table, hend.indices⟩

/-- The other commands leave the table alone. -/
theorem perform_kept (env : Env) (cmd : Mem) {d : Device} (hok : SensorTableOk d.conf)
    (c : Command) (hc : storesCount c = false) : Kept (perform env cmd d c) := by
  have hread : ∀ k, k < 4 → IndicesOk (sensorReads d.conf k) := fun k hk =>
    indicesOk_sensorReads hok hk
  cases c with
  | setDeviceAttr | setIo | setTemp => exact absurd hc (by decide)
  | setUartAttr => exact setUartAttr_kept env cmd hok
  | getTime => exact kept_self hok
  | getDeviceAttr =>
      have hidx := indicesOk_append (indicesOk_append (indicesOk_append (hread 0 (by omega))
        (hread 1 (by omega))) (hread 2 (by omega))) (hread 3 (by omega))
      exact ⟨hok, indicesOk_append hidx (indicesOk_of_visible (send_visible _ _))⟩
  | getAlarmStatus =>
      exact ⟨hok, indicesOk_append (hread 1 (by omega)) (indicesOk_of_visible (send_visible _ _))⟩
  | setHeartbeat =>
      refine ⟨?_, indicesOk_of_visible ?_⟩
      · show SensorTableOk (setHeartbeat _ _ _).conf
        rw [setHeartbeat_conf]
        exact hok
      · intro e he
        rcases List.mem_append.mp he with he | he
        · exact send_visible _ _ e he
        · rw [List.mem_singleton.mp he]; rfl
  | uartSendData =>
      -- the port and the count are set first; the table is as before
      let d' := selectPort d cmd
      have hserial : IndicesOk (uartSendData env d' cmd).2 := by
        apply indicesOk_of_visible
        intro e he
        obtain ⟨fd, rest, heq⟩ := uartSendData_events env d' cmd e he
        rw [heq]
        rfl
      show Kept (makeAckUartSendData env cmd d')
      rcases makeAckUartSendData_cases env cmd d' with ⟨_, r, hr⟩ | ⟨_, ⟨_, m, hr⟩ | ⟨r, hr⟩⟩
      · rw [hr]; exact kept_send hok r
      · rw [hr]; exact ⟨hok, hserial⟩
      · rw [hr]
        exact ⟨hok, indicesOk_append hserial (indicesOk_of_visible (send_visible _ r))⟩
  | setUartRecvAttr =>
      refine ⟨sensorTableOk_congr ?_ hok, (kept_self hok).2⟩
      intro i hi
      exact setUartRecvAttr_above d cmd (by simp only [sensorOff] at hi; simp only [comOff]; omega)
  | getIoStatus =>
      show Kept (getIoStatus env cmd d)
      rcases getIoStatus_cases env cmd d with ⟨r, hr⟩ | ⟨m, hr⟩
      · rw [hr]; exact kept_send hok r
      · rw [hr]; exact ⟨hok, indicesOk_of_visible (by simp [Event.visible])⟩
  | _ => exact kept_send hok _

/-! ## One packet and whole runs -/

theorem perform_sensor (env : Env) (cmd : Mem) {d : Device} (hok : SensorTableOk d.conf)
    (c : Command) : Kept (perform env cmd d c) ↔
      (storesCount c = true → (cmd 4).toNat ≤ singleSensorMaxNum) := by
  cases hc : storesCount c with
  | false => exact ⟨fun _ h => absurd h Bool.false_ne_true, fun _ => perform_kept env cmd hok c hc⟩
  | true =>
      rw [show (true = true → (cmd 4).toNat ≤ singleSensorMaxNum) ↔
        (cmd 4).toNat ≤ singleSensorMaxNum from ⟨fun h => h rfl, fun h _ => h⟩]
      cases c with
      | setDeviceAttr => exact setDeviceAttr_kept env cmd hok
      | setIo => exact setIoOut_kept env cmd hok
      | setTemp => exact setTemp_kept env cmd hok
      | _ => exact absurd hc (by decide)

/-- The step brings no count above eight to an arm that stores it. -/
def CountInRange (s : Receiver) (x : Env × Packet) : Prop :=
  let cmd := received s.buf x.2
  ∀ c, Reaches cmd x.2.bytes.length c → storesCount c = true →
    (cmd 4).toNat ≤ singleSensorMaxNum

/-- The step as a function of what it takes from outside. -/
def handle (s : Receiver) (x : Env × Packet) : Receiver := (clientStep x.1 s x.2).1

/-- The table after the step, and the indices used in it. -/
def SensorsInRange (s : Receiver) (x : Env × Packet) : Prop :=
  SensorTableOk (handle s x).dev.conf ∧ IndicesOk (clientStep x.1 s x.2).2

theorem clientStep_sensor_iff {s : Receiver} (hok : SensorTableOk s.dev.conf) (x : Env × Packet) :
    CountInRange s x ↔ SensorsInRange s x := by
  show _ ↔ Kept (clientDispatch x.1 (received s.buf x.2) x.2.bytes.length s.dev)
  rcases clientDispatch_cases x.1 (received s.buf x.2) x.2.bytes.length s.dev with
    ⟨c, hc, heq⟩ | ⟨hno, heq⟩
  · rw [heq, perform_sensor x.1 _ hok c]
    exact ⟨fun h => h c hc, fun h c' hc' hst => h (hc.unique hc' ▸ hst)⟩
  · rw [heq]
    exact ⟨fun _ => kept_self hok, fun _ c hc => absurd hc (hno c)⟩

/-- The default configuration, with any buffer contents and any other globals. -/
def initial (b : Build) (m buf : Mem) (d : Device) : Receiver :=
  ⟨buf, { d with conf := configMakedefault b m }⟩

/-- The table and every index stay in range over a run exactly when no packet of
the run brings a count above eight to one of the three arms. -/
theorem sensorTable_iff (b : Build) (m buf : Mem) (d : Device) (xs : List (Env × Packet)) :
    (SensorTableOk (initial b m buf d).dev.conf ∧
      StepsSatisfy handle SensorsInRange (initial b m buf d) xs) ↔
      StepsSatisfy handle CountInRange (initial b m buf d) xs := by
  have hok : SensorTableOk (initial b m buf d).dev.conf := configMakedefault_sensor b m
  have h : StepsSatisfy handle CountInRange (initial b m buf d) xs ↔ _ :=
    stepsSatisfy_iff (I := fun s => SensorTableOk s.dev.conf)
      (Q := fun s x => IndicesOk (clientStep x.1 s x.2).2)
      (fun s x hs => clientStep_sensor_iff hs x) hok xs
  exact ⟨fun hall => h.mpr hall.2, fun hall => ⟨hok, h.mp hall⟩⟩

/-- A complete `SET_DEVICE_ATTR` packet with nine pairs. -/
def ninePairs : Packet where
  bytes := [0x55, 0xaa, 0x03, 0x01, 9, 1, 0, 2, 0, 3, 0, 4, 0, 5, 0, 6, 0, 7, 0, 8, 0, 9, 0, 0]
  nonempty := by decide
  short := by decide

/-- One such packet breaks the table. -/
theorem sensorTable_ninePairs :
    ¬(∀ (b : Build) (m buf : Mem) (d : Device) (xs : List (Env × Packet)),
      SensorTableOk (initial b m buf d).dev.conf ∧
        StepsSatisfy handle SensorsInRange (initial b m buf d) xs) := by
  intro h
  have hstep := (h ⟨[], []⟩ zero zero (Device.start zero) [(Env.idle, ninePairs)]).2.1
  have hok : SensorTableOk (initial ⟨[], []⟩ zero zero (Device.start zero)).dev.conf :=
    configMakedefault_sensor _ _
  have hcount := (clientStep_sensor_iff hok _).mpr hstep
  have hreach : Reaches (received zero ninePairs) ninePairs.bytes.length .setDeviceAttr :=
    Accepted.reaches ⟨by decide, rfl, rfl, rfl, rfl⟩
  exact absurd (hcount _ hreach rfl) (by decide)

end Itertk.Client.SensorTable
