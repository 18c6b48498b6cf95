import Itertk.Client.SensorTable
import Itertk.Client.UartFailure

/-!
# Indices into the port tables

Three commands index `con_com`, `get_com_attr_max` and `gcomfd` with numbers from a packet
less one, in unsigned arithmetic.  `SET_UART_ATTR` tests only that the number is at most
two, and `SET_UART_RECV_ATTR` logs a record before it knows that there is one.
`GET_UART_ATTR` indexes with numbers that an earlier command has stored.

The indices are recorded beside the run of each handler.

## Main results

* `perform_lists` — which commands keep the stored numbers in range.
* `inTables_iff` — every index of a run is in range exactly when no packet names a port that
  there is not, in a record that is stored or in `SET_UART_RECV_ATTR`.
-/

namespace Itertk.Client.PortIndices

open Itertk.Base.Memory
open Itertk.Base.Run
open Itertk.Daemon.Layout
open Itertk.Daemon.Config
open Itertk.Daemon.Uart
open Itertk.Daemon.State
open Itertk.Client.Checks
open Itertk.Client.Replies
open Itertk.Client.Dispatch
open Itertk.Client.SensorTable
open Itertk.Client.UartFailure

/-! ## Recorded indices -/

/-- The tables with an element for each port. -/
inductive Table where
  | conCom | getComAttrMax | gcomfd

/-- A table and the index used into it. -/
abbrev Index := Table × Nat

/-- The indices of a round that stores its record: `con_com[id-1]`, and `gcomfd[id-1]` in
`com_set`. -/
def roundIndices (old cmd : Mem) (j : Nat) : List Index :=
  let i := ((uartRecord old cmd j).id - 1).toNat
  [(.conCom, i), (.gcomfd, i)]

/-- The indices of rounds `j` to `j + n - 1`; a round that leaves the loop uses none. -/
def setUartIndices (old cmd : Mem) : Nat → Nat → UartRun → List Index
  | 0, _, _ => []
  | n + 1, j, s =>
      match setUartRound old cmd j s with
      | .error _ => []
      | .ok s => roundIndices old cmd j ++ setUartIndices old cmd n (j + 1) s

/-- The indices of `make_ack_set_uart_attr`. -/
def setUartAttrIndices (env : Env) (cmd : Mem) (d : Device) : List Index :=
  if cmd 4 ≥ 1 ∧ cmd 4 ≤ 2 then
    setUartIndices d.conf cmd (cmd 4).toNat 0 (uartStart env cmd d)
  else []

/-- `com_index`, a `u8`, for entry `j` of the copied sensor record. -/
def comIndex (configUart : Mem) (j : Nat) : Index :=
  (.getComAttrMax, (resetMsb (configUart (2 + j)) - 1).toNat)

/-- The indices of `make_ack_get_uart_attr`. -/
def getUartAttrIndices (env : Env) (d : Device) : List Index :=
  let configUart := loadSensor env.stack d.conf sensorTypeUart
  if configUart 1 = 1 then [comIndex configUart 0]
  else if configUart 1 = 2 then [comIndex configUart 0, comIndex configUart 1]
  else []

/-- The index of `check_for_set_uart_recv_attr`, which logs `con_com[id].rsvd[0]`. -/
def setUartRecvAttrIndices (cmd : Mem) : List Index := [(.conCom, ((cmd 4).toUInt32 - 1).toNat)]

/-- The indices of the handler of a command. -/
def portIndices (env : Env) (cmd : Mem) (d : Device) : Command → List Index
  | .setUartAttr => setUartAttrIndices env cmd d
  | .getUartAttr => getUartAttrIndices env d
  | .setUartRecvAttr => setUartRecvAttrIndices cmd
  | _ => []

/-- All indices are below `MAX_COM_PORT`. -/
def InTable (is : List Index) : Prop := ∀ i ∈ is, i.2 < maxComPort

/-- The handling of the packet uses indices in range only. -/
def InTables (s : Receiver) (x : Env × Packet) : Prop :=
  let cmd := received s.buf x.2
  ∀ c, Reaches cmd x.2.bytes.length c → InTable (portIndices x.1 cmd s.dev c)

/-! ## Numbers in packets -/

/-- Record `j` is stored: neither it nor one before it is refused. -/
def Stored (d : Device) (cmd : Mem) (j : Nat) : Prop := ∀ i, i ≤ j → ¬Refused d cmd i

/-- The command names no port 0 in a record that is stored, and for `SET_UART_RECV_ATTR`
one of the two ports. -/
def Names (d : Device) (cmd : Mem) : Command → Prop
  | .setUartAttr => cmd 4 ≥ 1 ∧ cmd 4 ≤ 2 →
      ∀ j, j < (cmd 4).toNat → Stored d cmd j → resetMsb (cmd (5 + 8 * j)) ≠ 0
  | .setUartRecvAttr => cmd 4 = 1 ∨ cmd 4 = 2
  | _ => True

/-- So for the packet. -/
def NamesPorts (s : Receiver) (x : Env × Packet) : Prop :=
  let cmd := received s.buf x.2
  ∀ c, Reaches cmd x.2.bytes.length c → Names s.dev cmd c

/-- A number of a port, whatever its top bit. -/
def IsPort (b : UInt8) : Prop := resetMsb b = 1 ∨ resetMsb b = 2

/-- The first two numbers of the UART entry are ports. -/
def ListsPorts (conf : Mem) : Prop := ∀ j, j < 2 → IsPort (sensorSeqNum conf sensorTypeUart j)

/-! ## The indices of `SET_UART_ATTR` -/

/-- An id of at most two is an index in range unless it is zero. -/
theorem id_index {old cmd : Mem} {j : Nat} (h : (uartRecord old cmd j).id ≤ 2) :
    ((uartRecord old cmd j).id - 1).toNat < maxComPort ↔ resetMsb (cmd (5 + 8 * j)) ≠ 0 := by
  have hid : (uartRecord old cmd j).id = (resetMsb (cmd (5 + 8 * j))).toUInt32 := rfl
  rw [hid] at h ⊢
  have hle : (resetMsb (cmd (5 + 8 * j))).toNat ≤ 2 := UInt32.le_iff_toNat_le.mp h
  have hcases : resetMsb (cmd (5 + 8 * j)) = 0 ∨ resetMsb (cmd (5 + 8 * j)) = 1 ∨
      resetMsb (cmd (5 + 8 * j)) = 2 := by
    simp only [← UInt8.toNat_inj, UInt8.reduceToNat]
    omega
  rcases hcases with h | h | h <;> rw [h] <;> decide

private theorem mem_setUartIndices {d : Device} {cmd : Mem} {i : Index} (n j : Nat) (s : UartRun) :
    i ∈ setUartIndices d.conf cmd n j s ↔
      ∃ k, j ≤ k ∧ k < j + n ∧ (∀ l, j ≤ l → l ≤ k → ¬Refused d cmd l) ∧
        i ∈ roundIndices d.conf cmd k := by
  induction n generalizing j s with
  | zero =>
      constructor
      · exact fun h => absurd h List.not_mem_nil
      · intro h
        obtain ⟨k, hjk, hk, -⟩ := h
        omega
  | succ n ih =>
      rw [setUartIndices]
      by_cases hj : Refused d cmd j
      · obtain ⟨s', hr, -⟩ := setUartRound_stops hj s
        rw [hr]
        constructor
        · exact fun h => absurd h List.not_mem_nil
        · intro h
          obtain ⟨k, hjk, -, hstored, -⟩ := h
          exact absurd hj (hstored j (Nat.le_refl _) hjk)
      · obtain ⟨s', hr, -⟩ := setUartRound_passes hj s
        rw [hr]
        dsimp only
        rw [List.mem_append, ih (j + 1) s']
        constructor
        · intro h
          rcases h with h | ⟨k, hjk, hk, hstored, h⟩
          · refine ⟨j, Nat.le_refl _, by omega, fun l hjl hlj => ?_, h⟩
            rw [Nat.le_antisymm hlj hjl]
            exact hj
          · refine ⟨k, by omega, by omega, fun l hjl hlk => ?_, h⟩
            by_cases hlj : l = j
            · rw [hlj]
              exact hj
            · exact hstored l (by omega) hlk
        · intro h
          obtain ⟨k, hjk, hk, hstored, h⟩ := h
          by_cases hkj : k = j
          · rw [hkj] at h
            exact .inl h
          · exact .inr ⟨k, by omega, by omega, fun l hjl hlk => hstored l (by omega) hlk, h⟩

private theorem setUartAttr_inTable (env : Env) (cmd : Mem) (d : Device) :
    InTable (setUartAttrIndices env cmd d) ↔ Names d cmd .setUartAttr := by
  have hround : ∀ j, Stored d cmd j →
      (InTable (roundIndices d.conf cmd j) ↔ resetMsb (cmd (5 + 8 * j)) ≠ 0) := by
    intro j hj
    have hle : (uartRecord d.conf cmd j).id ≤ 2 :=
      UInt32.not_lt.mp fun hbad => hj j (Nat.le_refl _) (.inl hbad)
    rw [← id_index hle, InTable, roundIndices]
    simp
  simp only [Names, setUartAttrIndices]
  by_cases hn : cmd 4 ≥ 1 ∧ cmd 4 ≤ 2
  · rw [if_pos hn]
    constructor
    · intro h _ j hj hstored
      refine (hround j hstored).mp fun i hi => h i ?_
      exact (mem_setUartIndices _ 0 _).mpr ⟨j, Nat.zero_le _, by omega, fun l _ => hstored l, hi⟩
    · intro h i hi
      obtain ⟨k, -, hk, hstored, hik⟩ := (mem_setUartIndices _ 0 _).mp hi
      have hstored : Stored d cmd k := fun l => hstored l (Nat.zero_le _)
      exact (hround k hstored).mpr (h hn k (by omega) hstored) i hik
  · rw [if_neg hn]
    exact ⟨fun _ h => absurd h hn, fun _ i hi => absurd hi List.not_mem_nil⟩

/-! ## The other two commands -/

private theorem getUartAttr_inTable (env : Env) {d : Device} (h : ListsPorts d.conf) :
    InTable (getUartAttrIndices env d) := by
  have hindex : ∀ j, j < 2 →
      (comIndex (loadSensor env.stack d.conf sensorTypeUart) j).2 < maxComPort := by
    intro j hj
    have hseq : loadSensor env.stack d.conf sensorTypeUart (2 + j) =
        sensorSeqNum d.conf sensorTypeUart j := by
      rw [loadSensor_hit _ _ _ _ (by simp only [sensorSize]; omega), sensorSeqNum, Nat.add_assoc]
    rw [comIndex, hseq]
    rcases h j hj with hport | hport <;> rw [hport] <;> decide
  unfold getUartAttrIndices
  dsimp only
  split
  · intro i hi
    rw [List.mem_singleton.mp hi]
    exact hindex 0 (by decide)
  · split
    · intro i hi
      rcases List.mem_cons.mp hi with rfl | hi
      · exact hindex 0 (by decide)
      · rw [List.mem_singleton.mp hi]
        exact hindex 1 (by decide)
    · exact fun i hi => absurd hi List.not_mem_nil

private theorem setUartRecvAttr_inTable (cmd : Mem) :
    InTable (setUartRecvAttrIndices cmd) ↔ cmd 4 = 1 ∨ cmd 4 = 2 := by
  have hb := (cmd 4).toNat_lt
  have hnat : ((cmd 4).toUInt32 - 1).toNat = ((cmd 4).toNat + 4294967295) % 4294967296 := by
    rw [UInt32.toNat_sub, UInt8.toNat_toUInt32]
    simp only [UInt32.reduceToNat]
    omega
  rw [InTable, setUartRecvAttrIndices]
  simp only [List.mem_singleton, forall_eq, hnat, maxComPort, ← UInt8.toNat_inj, UInt8.reduceToNat]
  omega

/-! ## The stored numbers -/

private theorem listsPorts_congr {conf conf' : Mem}
    (h : ∀ i, sensorOff 0 ≤ i → i < sensorOff 1 → conf' i = conf i) (hlists : ListsPorts conf) :
    ListsPorts conf' := by
  intro j hj
  have hseq : sensorSeqNum conf' sensorTypeUart j = sensorSeqNum conf sensorTypeUart j :=
    h _ (by simp only [sensorOff, sensorTypeUart]; omega)
      (by simp only [sensorOff, sensorTypeUart]; omega)
  rw [hseq]
  exact hlists j hj

private theorem configMakedefault_lists (b : Build) (m : Mem) :
    ListsPorts (configMakedefault b m) := by
  intro j hj
  match j, hj with
  | 0, _ => exact .inl rfl
  | 1, _ => exact .inr rfl

/-- Only `SET_UART_ATTR` writes the UART entry. -/
theorem perform_uartEntry (env : Env) (cmd : Mem) (d : Device) {c : Command}
    (hc : c ≠ .setUartAttr) {i : Nat} (hlo : sensorOff 0 ≤ i) (hhi : i < sensorOff 1) :
    (perform env cmd d c).1.conf i = d.conf i := by
  have hother : ∀ {k : Nat} (sensor : Mem), 1 ≤ k → storeSensor d.conf k sensor i = d.conf i := by
    intro k sensor hk
    refine storeSensor_outside _ _ _ _ (.inl ?_)
    simp only [sensorOff] at hhi ⊢
    omega
  cases c with
  | setUartAttr => exact absurd rfl hc
  | setDeviceAttr => exact hother _ (by decide)
  | setIo =>
      rw [perform, setIoOut_eq]
      exact hother _ (by decide)
  | setTemp =>
      rw [perform, setTemp_eq]
      exact hother _ (by decide)
  | setUartRecvAttr =>
      refine setUartRecvAttr_above d cmd ?_
      simp only [sensorOff] at hlo
      simp only [comOff]
      omega
  | setHeartbeat =>
      rw [perform, setHeartbeatReply, Outcome.andThen, setHeartbeat_conf]
      rfl
  | uartSendData =>
      rcases makeAckUartSendData_cases env cmd (selectPort d cmd) with
        ⟨_, r, h⟩ | ⟨_, ⟨_, m, h⟩ | ⟨r, h⟩⟩
      all_goals
        rw [perform, h]
        rfl
  | getIoStatus =>
      rcases getIoStatus_cases env cmd d with ⟨r, h⟩ | ⟨m, h⟩
      · rw [perform, h]
        rfl
      · rw [perform, h]
  | _ => rfl

/-- The rounds go on with a sensor entry that lists ports and leave a table that does. -/
structure Listing (s : UartRun) : Prop where
  entry : ∀ j, j < 2 → IsPort (s.configUart (2 + j))
  table : ListsPorts s.dev.conf

private theorem setUartRound_listing (old cmd : Mem) {j : Nat} {s : UartRun} (h : Listing s)
    (hj : j < 2) (hport : GoodLine (uartRecord old cmd j) → (uartRecord old cmd j).id ≤ 2 →
      resetMsb (cmd (5 + 8 * j)) ≠ 0) :
    ListsPorts (UartRun.atExit (setUartRound old cmd j s)).dev.conf ∧
      ∀ s', setUartRound old cmd j s = .ok s' → Listing s' := by
  rcases setUartRound_cases old cmd j s with ⟨_, hr⟩ | ⟨_, _, hr⟩ | ⟨hid, hgood, hr⟩
  · rw [hr]
    exact ⟨h.table, fun s' hs' => by cases hs'⟩
  · rw [hr]
    exact ⟨h.table, fun s' hs' => by cases hs'⟩
  · have hle : (resetMsb (cmd (5 + 8 * j))).toNat ≤ 2 := UInt32.le_iff_toNat_le.mp hid
    have hnew : IsPort (cmd (5 + 8 * j)) := by
      have hne := hport hgood hid
      simp only [IsPort, ne_eq, ← UInt8.toNat_inj, UInt8.reduceToNat] at hne ⊢
      omega
    have hentry : ∀ i, i < 2 → IsPort (uartEntry cmd j s.configUart (2 + i)) := by
      intro i hi
      rw [uartEntry, store_ne _ _ (by omega)]
      by_cases hij : i = j
      · rw [hij, store_self]
        exact hnew
      · rw [store_ne _ _ (by omega)]
        exact h.entry i hi
    have htable : ListsPorts (comSet (configSave s.dev (storeSensor
        (blit s.dev.conf (comIndexOff ((uartRecord old cmd j).id - 1)) (uartRecord old cmd j).bytes)
        sensorTypeUart (uartEntry cmd j s.configUart))) (uartRecord old cmd j)).1.conf := by
      intro i hi
      rw [comSet_conf, configSave_conf, sensorSeqNum, Nat.add_assoc,
        storeSensor_hit _ _ _ _ (by simp only [sensorSize]; omega)]
      exact hentry i hi
    rw [hr]
    refine ⟨htable, fun s' hs' => ?_⟩
    obtain rfl := Except.ok.inj hs'
    exact ⟨hentry, htable⟩

private theorem setUartRounds_listing {d : Device} {cmd : Mem} (n j : Nat) (hn : j + n ≤ 2)
    {s : UartRun} (h : Listing s) (hbefore : ∀ i, i < j → ¬Refused d cmd i)
    (hports : ∀ k, k < j + n → Stored d cmd k → resetMsb (cmd (5 + 8 * k)) ≠ 0) :
    ListsPorts (UartRun.atExit (setUartRounds d.conf cmd n j s)).dev.conf := by
  induction n generalizing j s with
  | zero => exact h.table
  | succ n ih =>
      have hstored : ¬Refused d cmd j → Stored d cmd j := by
        intro hj i hij
        by_cases hi : i = j
        · rw [hi]
          exact hj
        · exact hbefore i (by omega)
      obtain ⟨hexit, hnext⟩ := setUartRound_listing d.conf cmd h (by omega : j < 2)
        fun hgood hid => hports j (by omega) (hstored fun hbad => by
          rcases hbad with hbad | hbad
          · exact absurd hid (UInt32.not_le.mpr hbad)
          · exact hbad hgood)
      rw [setUartRounds]
      by_cases hj : Refused d cmd j
      · obtain ⟨s', hr, -⟩ := setUartRound_stops hj s
        rw [hr] at hexit ⊢
        exact hexit
      · obtain ⟨s', hr, -⟩ := setUartRound_passes hj s
        rw [hr]
        refine ih (j + 1) (by omega) (hnext s' hr) (fun i hi => hstored hj i (by omega)) ?_
        exact fun k hk => hports k (by omega)

private theorem setUartAttr_lists (env : Env) {cmd : Mem} {d : Device} (h : ListsPorts d.conf)
    (hnames : Names d cmd .setUartAttr) : ListsPorts (setUartAttr env cmd d).1.conf := by
  have hstart : Listing (uartStart env cmd d) := by
    refine ⟨fun j hj => ?_, h⟩
    show IsPort (store (loadSensor env.stack d.conf sensorTypeUart) 1 (cmd 4) (2 + j))
    rw [store_ne _ _ (by omega), loadSensor_hit _ _ _ _ (by simp only [sensorSize]; omega),
      ← Nat.add_assoc]
    exact h j hj
  rcases setUartAttr_cases env cmd d with ⟨r, hr⟩ | ⟨hlo, hle, r, hr⟩
  · rw [hr]
    exact h
  · rw [hr]
    have hnum : (cmd 4).toNat ≤ 2 := UInt8.le_iff_toNat_le.mp hle
    exact setUartRounds_listing (cmd 4).toNat 0 (by omega) hstart
      (fun i hi => absurd hi (Nat.not_lt_zero i))
      (fun k hk hstored => hnames ⟨hlo, hle⟩ k (by omega) hstored)

/-! ## One packet and whole runs -/

/-- A command that names ports leaves a table that does. -/
theorem perform_lists (env : Env) {cmd : Mem} {d : Device} (h : ListsPorts d.conf) {c : Command}
    (hnames : Names d cmd c) : ListsPorts (perform env cmd d c).1.conf := by
  by_cases hc : c = .setUartAttr
  · subst hc
    exact setUartAttr_lists env h hnames
  · exact listsPorts_congr (fun i hlo hhi => perform_uartEntry env cmd d hc hlo hhi) h

private theorem portIndices_inTable (env : Env) {cmd : Mem} {d : Device} (h : ListsPorts d.conf)
    (c : Command) : InTable (portIndices env cmd d c) ↔ Names d cmd c := by
  cases c with
  | setUartAttr => exact setUartAttr_inTable env cmd d
  | setUartRecvAttr => exact setUartRecvAttr_inTable cmd
  | getUartAttr => exact ⟨fun _ => trivial, fun _ => getUartAttr_inTable env h⟩
  | _ => exact ⟨fun _ => trivial, fun _ i hi => absurd hi List.not_mem_nil⟩

private theorem inTables_iff_names {s : Receiver} (h : ListsPorts s.dev.conf) (x : Env × Packet) :
    InTables s x ↔ NamesPorts s x :=
  forall_congr' fun c => imp_congr_right fun _ => portIndices_inTable x.1 h c

private theorem clientStep_lists {s : Receiver} (h : ListsPorts s.dev.conf) {x : Env × Packet}
    (hnames : NamesPorts s x) : ListsPorts (handle s x).dev.conf := by
  show ListsPorts (clientDispatch x.1 (received s.buf x.2) x.2.bytes.length s.dev).1.conf
  rcases clientDispatch_cases x.1 (received s.buf x.2) x.2.bytes.length s.dev with
    ⟨c, hc, heq⟩ | ⟨_, heq⟩
  · rw [heq]
    exact perform_lists x.1 h (hnames c hc)
  · rw [heq]
    exact h

/-- From the default configuration on, every index is in range exactly when every packet
names ports. -/
theorem inTables_iff (b : Build) (m buf : Mem) (d : Device) (xs : List (Env × Packet)) :
    StepsSatisfy handle InTables (initial b m buf d) xs ↔
      StepsSatisfy handle NamesPorts (initial b m buf d) xs := by
  apply stepsSatisfy_simulation (R := fun s t => s = t ∧ ListsPorts s.dev.conf)
  · intro s t x h
    rw [← h.1]
    exact inTables_iff_names h.2 x
  · intro s t x h hin
    rw [← h.1]
    exact ⟨rfl, clientStep_lists h.2 ((inTables_iff_names h.2 x).mp hin)⟩
  · exact ⟨rfl, configMakedefault_lists b m⟩

/-- One record for port 0: 9600 8N1. -/
def namePort0 : Packet where
  bytes := [0x55, 0xaa, 0x0f, 0x01, 1, 0, 0, 0x00, 0x25, 0x80, 8, 1, 0, 0]
  nonempty := by decide
  short := by decide

/-- It is stored before the table. -/
theorem inTables_port0 :
    ¬∀ (b : Build) (m buf : Mem) (d : Device) (xs : List (Env × Packet)),
      StepsSatisfy handle InTables (initial b m buf d) xs := by
  intro h
  have hstep := (h ⟨[], []⟩ zero zero (Device.start zero) [(Env.idle, namePort0)]).1
  have hreach : Reaches (received zero namePort0) namePort0.bytes.length .setUartAttr :=
    Accepted.reaches ⟨by decide, rfl, rfl, rfl, rfl⟩
  have hnames := (setUartAttr_inTable Env.idle _ _).mp (hstep .setUartAttr hreach)
  refine hnames (by decide) 0 (by decide) (fun i hi => ?_) (by decide)
  obtain rfl : i = 0 := Nat.le_zero.mp hi
  intro hbad
  rcases hbad with hbad | hbad
  · exact absurd hbad (by decide)
  · exact hbad ((isGoodUart_iff _).mp (by decide))

end Itertk.Client.PortIndices
