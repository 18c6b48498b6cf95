import Itertk.Base.Run
import Itertk.Client.Dispatch
import Itertk.Web.PortRecords

/-!
# The serial configuration under both managers

The alarm server and the ITSIP clients write the same two `CONFIG_COM` records.
`SET_UART_ATTR` tests each record with `is_good_uart` and builds its id;
`CONF_COM` copies what it received.  `com_proc` and `com_set` take `id - 1` as
an index, so the records should carry their own number and a legal line.

## Main results

* `perform_ports` — no alarm-server command damages the records.
* `webCmdProc_ports_iff` — a `CONF_COM` request keeps them well formed exactly
  when it is refused or brings a legal record.
* `serialConfig_iff` — the same for every run from the default configuration.
-/

namespace Itertk.Web.SerialConfig

open Itertk.Base.Memory
open Itertk.Base.Run
open Itertk.Daemon.Layout
open Itertk.Daemon.Uart
open Itertk.Daemon.Config
open Itertk.Daemon.State
open Itertk.Client.Checks
open Itertk.Client.Dispatch
open Itertk.Itsip.Socket
open Itertk.Itsip.Header
open Itertk.Web.Handlers
open Itertk.Web.PortRecords

/-- Record `k` has id `k + 1` and is accepted by `is_good_uart`. -/
def PortsOk (conf : Mem) : Prop :=
  ∀ k, k < maxComPort → (ConfigCom.load conf (comOff k)).id = UInt32.ofNat (k + 1) ∧
    isGoodUart (ConfigCom.load conf (comOff k)) = setUartAttrPass

/-! ## Writes to the configuration -/

private theorem portsOk_congr {conf conf' : Mem}
    (h : ∀ k, k < maxComPort →
      ConfigCom.load conf' (comOff k) = ConfigCom.load conf (comOff k))
    (hok : PortsOk conf) : PortsOk conf' := by
  intro k hk
  rw [h k hk]
  exact hok k hk

/-- A record with the number of its place and a legal line may be stored there. -/
theorem portsOk_blit {conf : Mem} (hok : PortsOk conf) {p : Nat} {c : ConfigCom}
    (hid : c.id = UInt32.ofNat (p + 1)) (hgood : isGoodUart c = setUartAttrPass) :
    PortsOk (blit conf (comOff p) c.bytes) := by
  intro k hk
  rw [ConfigCom.load_blit_com]
  by_cases hkp : k = p
  · rw [if_pos hkp, hkp]
    exact ⟨hid, hgood⟩
  · rw [if_neg hkp]
    exact hok k hk

/-- The sensor table lies behind the records. -/
theorem portsOk_storeSensor {conf : Mem} (hok : PortsOk conf) (k : Nat) (sensor : Mem) :
    PortsOk (storeSensor conf k sensor) := by
  apply portsOk_congr _ hok
  intro q hq
  simp only [maxComPort] at hq
  apply ConfigCom.load_blit_disjoint
  simp only [comOff, comSize, sensorOff]
  omega

/-! ## Alarm-server commands -/

/-- `SET_UART_ATTR` stores tested records at the place of their id; id 0 selects the
28 bytes before the table. -/
theorem setUartAttr_ports (env : Env) (cmd : Mem) {d : Device} (hok : PortsOk d.conf) :
    PortsOk (setUartAttr env cmd d).1.conf := by
  rcases setUartAttr_cases env cmd d with ⟨r, hr⟩ | ⟨_, _, r, hr⟩
  · rw [hr]
    exact hok
  · rw [hr]
    show PortsOk (UartRun.atExit
      (setUartRounds d.conf cmd (cmd 4).toNat 0 (uartStart env cmd d))).dev.conf
    apply setUartRounds_invariant d.conf cmd (P := fun s => PortsOk s.dev.conf)
    · intro j s hs
      rcases setUartRound_cases d.conf cmd j s with ⟨_, hr⟩ | ⟨_, _, hr⟩ | ⟨hid, hline, hr⟩
      · rw [hr]
        exact hs
      · rw [hr]
        exact hs
      · rw [hr]
        show PortsOk (comSet _ _).1.conf
        rw [comSet_conf]
        apply portsOk_storeSensor
        have hgood := (isGoodUart_iff _).mpr hline
        rcases comIndexOff_of_le hid with ⟨_, ho⟩ | ⟨h1, ho⟩ | ⟨h2, ho⟩
        · rw [ho]
          apply portsOk_congr _ hs
          intro q _
          apply ConfigCom.load_blit_disjoint
          rw [ConfigCom.bytes_length]
          simp only [comOff, comSize]
          omega
        · rw [ho]
          exact portsOk_blit hs h1 hgood
        · rw [ho]
          exact portsOk_blit hs h2 hgood
    · exact hok

/-- `SET_UART_RECV_ATTR` stores one reserved byte of a record. -/
theorem setUartRecvAttr_ports (d : Device) (cmd : Mem) (hok : PortsOk d.conf) :
    PortsOk (setUartRecvAttr d cmd).conf := by
  unfold setUartRecvAttr
  by_cases hid : (cmd 4).toUInt32 - 1 = 0 ∨ (cmd 4).toUInt32 - 1 = 1
  · simp only [if_pos hid, configSave_conf]
    generalize uartRecvMode (cmd 5) = v
    have hp : ((cmd 4).toUInt32 - 1).toNat < 2 := by
      rcases hid with h | h <;> rw [h] <;> decide
    generalize ((cmd 4).toUInt32 - 1).toNat = p at hp
    intro k hk
    obtain ⟨hkid, hkgood⟩ := hok k hk
    simp only [maxComPort] at hk
    have hbyte : ∀ j, j < 20 →
        store d.conf (comOff p + 20) v (comOff k + j) = d.conf (comOff k + j) := by
      intro j hj
      apply store_ne
      simp only [comOff]
      omega
    have hload : ∀ j, j < 17 → load32 (store d.conf (comOff p + 20) v) (comOff k + j) =
        load32 d.conf (comOff k + j) := by
      intro j hj
      apply load32_congr
      intro i hi
      rw [Nat.add_assoc]
      exact hbyte (j + i) (by omega)
    refine ⟨(hload 0 (by omega)).trans hkid, ?_⟩
    rw [← hkgood]
    exact isGoodUart_congr (hload 4 (by omega)) (hbyte 12 (by omega)) (hbyte 13 (by omega))
      (hload 8 (by omega))
  · simp only [if_neg hid]
    exact hok

theorem perform_ports (env : Env) (cmd : Mem) {d : Device} (hok : PortsOk d.conf) (c : Command) :
    PortsOk (perform env cmd d c).1.conf := by
  cases c with
  | setUartAttr => exact setUartAttr_ports env cmd hok
  | setUartRecvAttr => exact setUartRecvAttr_ports d cmd hok
  | setDeviceAttr => exact portsOk_storeSensor hok _ _
  | setIo =>
      show PortsOk (setIoOut env cmd d).1.conf
      rw [setIoOut_eq]
      exact portsOk_storeSensor hok _ _
  | setTemp =>
      show PortsOk (setTemp env cmd d).1.conf
      rw [setTemp_eq]
      exact portsOk_storeSensor hok _ _
  | setHeartbeat =>
      show PortsOk (setHeartbeat _ _ _).conf
      rw [setHeartbeat_conf]
      exact hok
  | uartSendData =>
      show PortsOk (makeAckUartSendData env cmd (selectPort d cmd)).1.conf
      rcases makeAckUartSendData_cases env cmd (selectPort d cmd) with
        ⟨_, r, hr⟩ | ⟨_, ⟨_, m, hr⟩ | ⟨r, hr⟩⟩ <;> rw [hr] <;> exact hok
  | getIoStatus =>
      show PortsOk (getIoStatus env cmd d).1.conf
      rcases getIoStatus_cases env cmd d with ⟨r, hr⟩ | ⟨m, hr⟩ <;> rw [hr] <;> exact hok
  | _ => exact hok

/-! ## `CONF_COM` -/

/-- A record that may be brought for port `p`: its line is legal, and unless it is
for all ports it has the number of the port. -/
def LegalRecord (p : Nat) (c : ConfigCom) : Prop :=
  (c.all ≠ 1 → c.id = UInt32.ofNat (p + 1)) ∧ isGoodUart c = setUartAttrPass

private theorem putCom_ports_iff {conf : Mem} (hok : PortsOk conf) {p : Nat} (hp : p < maxComPort)
    (c : ConfigCom) : PortsOk (putCom conf p c) ↔ LegalRecord p c := by
  by_cases hall : c.all = 1
  · have hline : ∀ old, isGoodUart (withLine old c) = isGoodUart c := fun old =>
      isGoodUart_congr rfl rfl rfl rfl
    constructor
    · intro h
      refine ⟨fun hne => absurd hall hne, ?_⟩
      have hgood := (h p hp).2
      rw [putCom_all hall conf p hp, hline] at hgood
      exact hgood
    · intro h k hk
      rw [putCom_all hall conf p hk, hline]
      exact ⟨(hok k hk).1, h.2⟩
  · constructor
    · intro h
      have hport := h p hp
      rw [putCom_one hall, if_pos rfl] at hport
      exact ⟨fun _ => hport.1, hport.2⟩
    · intro h
      rw [putCom, if_pos hall]
      exact portsOk_blit hok (h.1 hall) h.2

theorem webCmdProc_ports_iff (env : Env) {head : Mem} {s : Session}
    (h : PortRequest .com head) (hok : PortsOk s.dev.conf) :
    (Performed head s comSize → LegalRecord (port head) (broughtCom s)) ↔
      PortsOk (webCmdProc env head s).dev.conf := by
  rw [webCmdProc_com env s h]
  by_cases hperf : Performed head s comSize
  · rw [if_pos hperf, putCom_ports_iff hok h.port]
    exact ⟨fun hlegal => hlegal hperf, fun hlegal _ => hlegal⟩
  · rw [if_neg hperf]
    exact ⟨fun _ => hok, fun _ hp => absurd hp hperf⟩

/-! ## Runs -/

/-- A `CONF_COM` request: its header, and the connection that brings the record. -/
structure ComRequest where
  env : Env
  head : Mem
  conn : Conn
  valid : PortRequest .com head

/-- The session that serves the request. -/
def ComRequest.session (r : ComRequest) (d : Device) : Session := ⟨d, r.conn, []⟩

/-- One packet from the alarm server, or one `CONF_COM` request. -/
inductive ConfigInput where
  | alarm (env : Env) (packet : Packet)
  | confCom (request : ComRequest)

/-- The daemon's handling of it. -/
def configure (s : Receiver) : ConfigInput → Receiver
  | .alarm env packet => (clientStep env s packet).1
  | .confCom r => { s with dev := (webCmdProc r.env r.head (r.session s.dev)).dev }

/-- A request that is performed brings a legal record. -/
def BringsLegal (s : Receiver) : ConfigInput → Prop
  | .alarm _ _ => True
  | .confCom r =>
      Performed r.head (r.session s.dev) comSize →
        LegalRecord (port r.head) (broughtCom (r.session s.dev))

private theorem configure_ports_iff (s : Receiver) (x : ConfigInput) (hok : PortsOk s.dev.conf) :
    BringsLegal s x ↔ PortsOk (configure s x).dev.conf := by
  cases x with
  | confCom r => exact webCmdProc_ports_iff r.env (s := r.session s.dev) r.valid hok
  | alarm env packet =>
      show True ↔ PortsOk
        (clientDispatch env (received s.buf packet) packet.bytes.length s.dev).1.conf
      refine iff_of_true trivial ?_
      rcases clientDispatch_cases env (received s.buf packet) packet.bytes.length s.dev with
        ⟨c, _, heq⟩ | ⟨_, heq⟩
      · rw [heq]
        exact perform_ports env _ hok c
      · rw [heq]
        exact hok

/-- The default configuration, with any buffer contents and any other globals. -/
def defaultReceiver (b : Build) (m buf : Mem) (d : Device) : Receiver :=
  ⟨buf, { d with conf := configMakedefault b m }⟩

private theorem configMakedefault_portsOk (b : Build) (m : Mem) :
    PortsOk (configMakedefault b m) := by
  intro k hk
  obtain ⟨hid, hbps, hdbit, hchk, hsbit⟩ := configMakedefault_port b m hk
  refine ⟨hid, (isGoodUart_iff _).mpr ⟨?_, ?_, ?_, ?_⟩⟩
  · rw [hbps]; decide
  · rw [hdbit]; decide
  · rw [hchk]; decide
  · rw [hsbit]; decide

private theorem defaultReceiver_portsOk (b : Build) (m buf : Mem) (d : Device) :
    PortsOk (defaultReceiver b m buf d).dev.conf := by
  rw [defaultReceiver]
  exact configMakedefault_portsOk b m

/-- From well-formed records, every state that a run reaches has them exactly when
every `CONF_COM` request that is performed brings a legal record. -/
theorem portsOk_reached_iff {s : Receiver} (hok : PortsOk s.dev.conf) (xs : List ConfigInput) :
    (∀ ys, ys <+: xs → PortsOk (exec configure s ys).dev.conf) ↔
      StepsSatisfy configure BringsLegal s xs :=
  @reaches_iff _ _ configure (fun s => PortsOk s.dev.conf) BringsLegal configure_ports_iff s hok xs

/-- So it is from the default configuration. -/
theorem serialConfig_iff (b : Build) (m buf : Mem) (d : Device) (xs : List ConfigInput) :
    (∀ ys, ys <+: xs → PortsOk (exec configure (defaultReceiver b m buf d) ys).dev.conf) ↔
      StepsSatisfy configure BringsLegal (defaultReceiver b m buf d) xs :=
  portsOk_reached_iff (defaultReceiver_portsOk b m buf d) xs

/-! ## A record of zeros -/

/-- `CONF_SET`, `CONF_COM`, port 0, no user name. -/
def setPort0 : Mem := fun i =>
  if i = 0 then itsHead else if i = 1 then ItsCmd.confSet.code else 0

/-- The request that brings 28 zero bytes in one segment. -/
def zeroRecord : ComRequest where
  env := Env.idle
  head := setPort0
  conn := ⟨true, [.data (List.replicate comSize 0) 0], [], []⟩
  valid := ⟨rfl, rfl, rfl, by decide⟩

/-- Port 0 is left with id 0 and a rate of 0. -/
theorem serialConfig_zeroRecord :
    ¬∀ (b : Build) (m buf : Mem) (d : Device) (xs : List ConfigInput) (ys : List ConfigInput),
      ys <+: xs → PortsOk (exec configure (defaultReceiver b m buf d) ys).dev.conf := by
  intro h
  let s := defaultReceiver ⟨[], []⟩ zero zero (Device.start zero)
  have hok : PortsOk s.dev.conf := defaultReceiver_portsOk _ _ _ _
  have hstep : PortsOk (configure s (.confCom zeroRecord)).dev.conf :=
    h ⟨[], []⟩ zero zero (Device.start zero) [.confCom zeroRecord] [.confCom zeroRecord]
      (List.prefix_refl _)
  have hlegal : BringsLegal s (.confCom zeroRecord) := (configure_ports_iff s _ hok).mpr hstep
  have hopen : limEnable s.dev.conf 0 = disabled := by
    show limEnable (defaultReceiver _ _ _ _).dev.conf 0 = _
    rw [defaultReceiver]
    exact configMakedefault_limEnable _ _ (by decide)
  have hbad := (hlegal ⟨rfl, .inl hopen⟩).2
  exact absurd hbad (by decide)

end Itertk.Web.SerialConfig
