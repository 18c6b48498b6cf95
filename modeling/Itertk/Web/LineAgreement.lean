import Itertk.Daemon.Serial
import Itertk.Web.SerialConfig

/-!
# Stored and programmed line settings

`com_init`, `SET_UART_ATTR` and `CONF_COM` store records and program terminals by
separate calls.  `CONF_COM` with `all` gives every port's record the new line, but
`com_set` programs only the port that the request names.

## Main results

* `agrees_apply_iff` — what storing a configuration and applying the record of one
  port does to the agreement of all.
* `agrees_reached_iff` — the runs in which the two always agree.
-/

namespace Itertk.Web.LineAgreement

open Itertk.Base.Memory
open Itertk.Base.Run
open Itertk.Daemon.Layout
open Itertk.Daemon.State
open Itertk.Daemon.Serial
open Itertk.Client.Replies
open Itertk.Client.Dispatch
open Itertk.Itsip.Socket
open Itertk.Itsip.Header
open Itertk.Web.Handlers
open Itertk.Web.PortRecords
open Itertk.Web.SerialConfig

/-! ## Agreement -/

/-- `gcomfd[p]`. -/
def portFd (d : Device) (p : Nat) : Int := d.gcomfd (UInt32.ofNat p)

/-- Record `p` has the id `p + 1`. -/
def Numbered (conf : Mem) : Prop :=
  ∀ p, p < maxComPort → (ConfigCom.load conf (comOff p)).id = UInt32.ofNat (p + 1)

/-- The records are numbered, and the open ports have descriptors of their own. -/
structure Wired (d : Device) : Prop where
  numbered : Numbered d.conf
  distinct : ∀ p q, p < maxComPort → q < maxComPort → portFd d p > 0 →
    portFd d p = portFd d q → p = q

/-- The terminal of every open port was last programmed with the line in its record. -/
def Agrees (d : Device) (t : Terminals) : Prop :=
  ∀ p, p < maxComPort → portFd d p > 0 →
    t (portFd d p) = some (line (ConfigCom.load d.conf (comOff p)))

/-- The records of the other open ports have the line they had. -/
def OthersKept (d : Device) (p : Nat) (conf : Mem) : Prop :=
  ∀ q, q < maxComPort → q ≠ p → portFd d q > 0 →
    line (ConfigCom.load conf (comOff q)) = line (ConfigCom.load d.conf (comOff q))

/-- A numbered record is applied to its own port. -/
theorem comSet_numbered {p : Nat} (hp : p < maxComPort) {c : ConfigCom}
    (hid : c.id = UInt32.ofNat (p + 1)) (d : Device) :
    comSet d c = comParaSet d (portFd d p) c := by
  have hindex : c.id - 1 = UInt32.ofNat p := by
    rw [hid]
    simp only [maxComPort] at hp
    obtain rfl | rfl : p = 0 ∨ p = 1 := by omega
    · rfl
    · rfl
  rw [comSet_eq, hindex, portFd]

/-- A configuration is stored and the record of port `p` applied. -/
theorem agrees_apply_iff {d : Device} (hwired : Wired d) {t : Terminals} (hagrees : Agrees d t)
    {conf : Mem} {p : Nat} (hp : p < maxComPort) {c : ConfigCom}
    (hid : c.id = UInt32.ofNat (p + 1)) (hc : ConfigCom.load conf (comOff p) = c) :
    Agrees (comSet (configSave d conf) c).1 (t.afterAll (comSet (configSave d conf) c).2) ↔
      OthersKept d p conf := by
  have hset := comSet_numbered hp hid (configSave d conf)
  have hother : ∀ q, q < maxComPort → q ≠ p → portFd d q > 0 →
      t.afterAll (comSet (configSave d conf) c).2 (portFd d q) = t (portFd d q) := by
    intro q hq hqp hopen
    rw [hset, comParaSet_terminals]
    exact if_neg fun h => hqp (hwired.distinct q p hq hp hopen h.2)
  have hdev : ∀ q, portFd (comSet (configSave d conf) c).1 q = portFd d q := by
    intro q
    rw [hset, portFd, comParaSet_gcomfd]
    rfl
  constructor
  · intro h q hq hqp hopen
    have hafter := h q hq (by rw [hdev]; exact hopen)
    rw [hdev, hother q hq hqp hopen, comSet_conf, configSave_conf, hagrees q hq hopen,
      Option.some.injEq] at hafter
    exact hafter.symm
  · intro h q hq hopen
    rw [hdev] at hopen
    rw [hdev, comSet_conf, configSave_conf]
    by_cases hqp : q = p
    · subst hqp
      rw [hset, comParaSet_terminals, hc]
      exact if_pos ⟨hopen, rfl⟩
    · rw [hother q hq hqp hopen, hagrees q hq hopen, h q hq hqp hopen]

/-- The wiring survives a new configuration whose records are numbered. -/
theorem Wired.apply {d : Device} (h : Wired d) {conf : Mem} (hnum : Numbered conf)
    (c : ConfigCom) : Wired (comSet (configSave d conf) c).1 := by
  have hdev : (comSet (configSave d conf) c).1.gcomfd = d.gcomfd := by
    rw [comSet_eq, comParaSet_gcomfd]
    rfl
  constructor
  · rw [comSet_conf, configSave_conf]
    exact hnum
  · simp only [portFd, hdev]
    exact h.distinct

/-! ## `SET_UART_ATTR` -/

/-- What a `SET_UART_ATTR` to `d` keeps: the wiring, and the agreement with the terminals
as the calls so far left them. -/
structure RoundOk (d : Device) (t : Terminals) (s : UartRun) : Prop where
  wired : Wired s.dev
  agrees : Agrees d t → Agrees s.dev (t.afterAll s.events)

/-- The id that the packet gives for record `j` is 1 or 2. -/
def NamesPort (cmd : Mem) (j : Nat) : Prop :=
  resetMsb (cmd (5 + 8 * j)) = 1 ∨ resetMsb (cmd (5 + 8 * j)) = 2

/-- The configuration that a round stores. -/
theorem roundConf_load (conf configUart : Mem) {c : ConfigCom} {p : Nat}
    (hoff : comIndexOff (c.id - 1) = comOff p) (q : Nat) (hq : q < maxComPort) :
    ConfigCom.load (storeSensor (blit conf (comIndexOff (c.id - 1)) c.bytes) sensorTypeUart
      configUart) (comOff q) = if q = p then c else ConfigCom.load conf (comOff q) := by
  rw [hoff, ← ConfigCom.load_blit_com]
  apply ConfigCom.load_blit_disjoint
  simp only [maxComPort] at hq
  simp only [comOff, comSize, sensorOff]
  omega

/-- A round that stores a record applies the same record. -/
theorem setUartRound_agrees (old cmd : Mem) {j : Nat} (hj : NamesPort cmd j) {d : Device}
    {t : Terminals} {s : UartRun} (hs : RoundOk d t s) :
    RoundOk d t (UartRun.atExit (setUartRound old cmd j s)) := by
  rcases setUartRound_cases old cmd j s with ⟨_, hr⟩ | ⟨_, _, hr⟩ | ⟨_, _, hr⟩
  · rw [hr]
    exact hs
  · rw [hr]
    exact ⟨hs.wired, hs.agrees⟩
  · rw [hr]
    obtain ⟨p, hp, hid, hoff⟩ : ∃ p, p < maxComPort ∧
        (uartRecord old cmd j).id = UInt32.ofNat (p + 1) ∧
        comIndexOff ((uartRecord old cmd j).id - 1) = comOff p := by
      rcases hj with h | h
      · have hid : (uartRecord old cmd j).id = 1 := by rw [uartRecord, h]; rfl
        exact ⟨0, by decide, hid, by rw [hid]; decide⟩
      · have hid : (uartRecord old cmd j).id = 2 := by rw [uartRecord, h]; rfl
        exact ⟨1, by decide, hid, by rw [hid]; decide⟩
    generalize uartRecord old cmd j = c at hid hoff
    have hload := roundConf_load s.dev.conf (uartEntry cmd j s.configUart) hoff
    generalize storeSensor (blit s.dev.conf (comIndexOff (c.id - 1)) c.bytes) sensorTypeUart
      (uartEntry cmd j s.configUart) = conf at hload
    have hc : ConfigCom.load conf (comOff p) = c := by rw [hload p hp, if_pos rfl]
    have hkept : OthersKept s.dev p conf := by
      intro q hq hqp _
      rw [hload q hq, if_neg hqp]
    have hnum : Numbered conf := by
      intro q hq
      rw [hload q hq]
      by_cases hqp : q = p
      · rw [if_pos hqp, hqp, hid]
      · rw [if_neg hqp]
        exact hs.wired.numbered q hq
    refine ⟨hs.wired.apply hnum c, fun hagrees => ?_⟩
    show Agrees (comSet (configSave s.dev conf) c).1
      (t.afterAll (s.events ++ (comSet (configSave s.dev conf) c).2))
    rw [afterAll_append]
    exact (agrees_apply_iff hs.wired (hs.agrees hagrees) hp hid hc).mpr hkept

/-- The command as a whole. -/
theorem setUartAttr_agrees (env : Env) {cmd : Mem}
    (hids : ∀ j, j < (cmd 4).toNat → NamesPort cmd j) {d : Device} (hwired : Wired d)
    (t : Terminals) :
    Wired (setUartAttr env cmd d).1 ∧
      (Agrees d t → Agrees (setUartAttr env cmd d).1 (t.afterAll (setUartAttr env cmd d).2)) := by
  rcases setUartAttr_cases env cmd d with ⟨r, hr⟩ | ⟨_, _, r, hr⟩
  · rw [hr]
    exact ⟨⟨hwired.numbered, hwired.distinct⟩, fun hagrees => hagrees⟩
  · have hrounds := setUartRounds_keeps d.conf cmd (P := RoundOk d t) (cmd 4).toNat 0
      (fun j s _ hlt hs => setUartRound_agrees d.conf cmd (hids j (by omega)) hs)
      (s := uartStart env cmd d) ⟨hwired, fun hagrees => hagrees⟩
    rw [hr]
    generalize UartRun.atExit (setUartRounds d.conf cmd (cmd 4).toNat 0 (uartStart env cmd d)) = s
      at hrounds
    refine ⟨⟨hrounds.wired.numbered, hrounds.wired.distinct⟩, fun hagrees => ?_⟩
    show Agrees s.dev (t.afterAll (s.events ++ [.reply _]))
    rw [afterAll_append]
    exact hrounds.agrees hagrees

/-! ## `CONF_COM` -/

/-- The events that the handlers of ITSIP requests pass on. -/
def deviceEvent : Effect → Option Event
  | .device e => some e
  | _ => none

def deviceEvents (effects : List Effect) : List Event := effects.filterMap deviceEvent

private theorem deviceEvents_map (es : List Event) : deviceEvents (es.map Effect.device) = es := by
  induction es with
  | nil => rfl
  | cons e es ih => exact congrArg (e :: ·) ih

/-- A request does nothing, or stores the brought settings and applies the record of the
port that it names. -/
theorem webCmdProc_comSet (r : ComRequest) (d : Device) :
    let s := webCmdProc r.env r.head (r.session d)
    let conf := putCom d.conf (port r.head) (broughtCom (r.session d))
    let o := comSet (configSave d conf) (ConfigCom.load conf (comOff (port r.head)))
    if Performed r.head (r.session d) comSize then s.dev = o.1 ∧ deviceEvents s.effects = o.2
    else s.dev = d ∧ deviceEvents s.effects = [] := by
  rw [webCmdProc_eq r.env _ r.valid.itsip r.valid.command]
  by_cases hopen : (r.session d).conn.isOpen = false
  · rw [if_pos hopen, if_neg (not_performed_of_closed hopen)]
    exact ⟨rfl, rfl⟩
  · rw [if_neg hopen]
    have hset : sysConfSet r.head (r.session d) =
        sysConfSetCom (port r.head) (requester r.head) (r.session d) := by
      rw [sysConfSet, r.valid.kind, ConfKind.ofByte_code]
      rfl
    have harm : ∀ t : Session × CmdCode, sysConfSet r.head (r.session d) = t →
        (webArm r.env r.head (r.session d) .confSet).dev = t.1.dev ∧
          (webArm r.env r.head (r.session d) .confSet).effects = t.1.effects := by
      rintro t rfl
      exact ⟨rfl, rfl⟩
    unfold sysConfSetCom at hset
    by_cases hok : (webConnRecv (r.session d).conn comSize).ok = false
    · obtain ⟨hdev, heffects⟩ := harm _ (hset.trans (if_pos hok))
      rw [if_neg fun h => Bool.false_ne_true (hok.symm.trans h.1), hdev, heffects]
      exact ⟨rfl, rfl⟩
    · rw [if_neg hok] at hset
      have hok : (webConnRecv (r.session d).conn comSize).ok = true := by
        simpa using hok
      by_cases hmay : MayAccess d.conf limModify (port r.head) (requester r.head)
      · obtain ⟨hdev, heffects⟩ := harm _ (hset.trans (if_pos hmay))
        rw [if_pos ⟨hok, hmay⟩, hdev, heffects]
        exact ⟨rfl, deviceEvents_map _⟩
      · obtain ⟨hdev, heffects⟩ := harm _ (hset.trans (if_neg hmay))
        rw [if_neg fun h => hmay h.2, hdev, heffects]
        exact ⟨rfl, rfl⟩

/-- The line of the brought record. -/
theorem line_withLine (old c : ConfigCom) : line (withLine old c) = line c := rfl

private theorem putCom_numbered {conf : Mem} (h : Numbered conf) {p : Nat} {c : ConfigCom}
    (hc : LegalRecord p c) : Numbered (putCom conf p c) := by
  intro q hq
  by_cases hall : c.all = 1
  · rw [putCom_all hall conf p hq]
    exact h q hq
  · rw [putCom_one hall]
    by_cases hqp : q = p
    · rw [if_pos hqp, hqp]
      exact hc.1 hall
    · rw [if_neg hqp]
      exact h q hq

/-- A record for one port keeps the others; a record for all keeps them when they have
its line. -/
theorem putCom_othersKept_iff (d : Device) (p : Nat) (c : ConfigCom) :
    OthersKept d p (putCom d.conf p c) ↔
      (c.all = 1 → ∀ q, q < maxComPort → q ≠ p → portFd d q > 0 →
        line (ConfigCom.load d.conf (comOff q)) = line c) := by
  by_cases hall : c.all = 1
  · constructor
    · intro h _ q hq hqp hopen
      have hkept := h q hq hqp hopen
      rw [putCom_all hall d.conf p hq, line_withLine] at hkept
      exact hkept.symm
    · intro h q hq hqp hopen
      rw [putCom_all hall d.conf p hq, line_withLine]
      exact (h hall q hq hqp hopen).symm
  · refine iff_of_true ?_ fun h => absurd h hall
    intro q _ hqp _
    rw [putCom_one hall, if_neg hqp]

/-! ## Runs -/

/-- A request whose record, if it arrives, is legal for the port it names. -/
structure LegalRequest extends ComRequest where
  legal : (webConnRecv conn comSize).ok = true →
    LegalRecord (port head) (receivedCom (webConnRecv conn comSize).bytes)

/-- What sets serial lines after `com_init`. -/
inductive LineRequest where
  | setUartAttr (env : Env) (cmd : Mem) (ids : ∀ j, j < (cmd 4).toNat → NamesPort cmd j)
  | confCom (r : LegalRequest)

/-- The daemon, and what its terminals were last programmed with. -/
structure Ports where
  dev : Device
  terminals : Terminals

/-- A start of the daemon: a configuration with numbered records, and what `open`
returns for the ports. -/
structure Boot where
  dev : Device
  numbered : Numbered dev.conf
  opened : Nat → Int
  distinct : opened 0 > 0 → opened 0 ≠ opened 1

/-- The state that `com_init` leaves. -/
def Boot.ports (b : Boot) : Ports :=
  ⟨(comInit b.dev b.opened).1, Terminals.afterAll (fun _ => none) (comInit b.dev b.opened).2⟩

/-- One command or request. -/
def serve (s : Ports) : LineRequest → Ports
  | .setUartAttr env cmd _ =>
      let o := setUartAttr env cmd s.dev
      ⟨o.1, s.terminals.afterAll o.2⟩
  | .confCom r =>
      let t := webCmdProc r.env r.head (r.session s.dev)
      ⟨t.dev, s.terminals.afterAll (deviceEvents t.effects)⟩

/-- A request for all ports that is performed brings the line that the other open port
has. -/
def AllAgree (s : Ports) : LineRequest → Prop
  | .setUartAttr _ _ _ => True
  | .confCom r =>
      Performed r.head (r.session s.dev) comSize → (broughtCom (r.session s.dev)).all = 1 →
        ∀ q, q < maxComPort → q ≠ port r.head → portFd s.dev q > 0 →
          line (ConfigCom.load s.dev.conf (comOff q)) = line (broughtCom (r.session s.dev))

private theorem serve_wired (s : Ports) (x : LineRequest) (hwired : Wired s.dev) :
    Wired (serve s x).dev := by
  cases x with
  | setUartAttr env cmd ids => exact (setUartAttr_agrees env ids hwired s.terminals).1
  | confCom r =>
      have h := webCmdProc_comSet r.toComRequest s.dev
      show Wired (webCmdProc r.env r.head (r.session s.dev)).dev
      by_cases hperf : Performed r.head (r.session s.dev) comSize
      · rw [if_pos hperf] at h
        rw [h.1]
        exact hwired.apply (putCom_numbered hwired.numbered (r.legal hperf.1)) _
      · rw [if_neg hperf] at h
        rw [h.1]
        exact hwired

/-- From an agreement a command leads to one exactly when it is not a request for all
ports that another port had not followed before. -/
theorem serve_agrees_iff (s : Ports) (x : LineRequest) (hwired : Wired s.dev)
    (hagrees : Agrees s.dev s.terminals) :
    AllAgree s x ↔ Agrees (serve s x).dev (serve s x).terminals := by
  cases x with
  | setUartAttr env cmd ids =>
      exact iff_of_true trivial ((setUartAttr_agrees env ids hwired s.terminals).2 hagrees)
  | confCom r =>
      have h := webCmdProc_comSet r.toComRequest s.dev
      show (Performed r.head (r.session s.dev) comSize → _) ↔
        Agrees (webCmdProc r.env r.head (r.session s.dev)).dev (s.terminals.afterAll
          (deviceEvents (webCmdProc r.env r.head (r.session s.dev)).effects))
      by_cases hperf : Performed r.head (r.session s.dev) comSize
      · rw [if_pos hperf] at h
        have hnum := putCom_numbered hwired.numbered (r.legal hperf.1) _ r.valid.port
        rw [h.1, h.2]
        refine Iff.trans ?_ (agrees_apply_iff hwired hagrees r.valid.port hnum rfl).symm
        refine Iff.trans ?_ (putCom_othersKept_iff s.dev (port r.head) _).symm
        exact ⟨fun himp => himp hperf, fun himp _ => himp⟩
      · rw [if_neg hperf] at h
        rw [h.1, h.2]
        exact iff_of_true (fun hp => absurd hp hperf) hagrees

/-- `com_init` opens the ports and leaves the configuration. -/
theorem Boot.ports_dev (b : Boot) :
    b.ports.dev.conf = b.dev.conf ∧ ∀ p, p < maxComPort → portFd b.ports.dev p = b.opened p := by
  rw [Boot.ports, comInit_eq]
  simp only [Outcome.andThen, portFd, comParaSet_gcomfd, comParaSet_conf]
  refine ⟨rfl, fun p hp => ?_⟩
  simp only [maxComPort] at hp
  obtain rfl | rfl : p = 0 ∨ p = 1 := by omega
  · rfl
  · rfl

theorem Boot.wired (b : Boot) : Wired b.ports.dev := by
  obtain ⟨hconf, hfd⟩ := b.ports_dev
  constructor
  · rw [hconf]
    exact b.numbered
  · intro p q hp hq hopen hsame
    rw [hfd p hp] at hopen hsame
    rw [hfd q hq] at hsame
    simp only [maxComPort] at hp hq
    obtain rfl | rfl : p = 0 ∨ p = 1 := by omega
    · obtain rfl | rfl : q = 0 ∨ q = 1 := by omega
      · rfl
      · exact absurd hsame (b.distinct hopen)
    · obtain rfl | rfl : q = 0 ∨ q = 1 := by omega
      · exact absurd hsame.symm (b.distinct (hsame ▸ hopen))
      · rfl

/-- `com_init` programs every open port with the line of its record. -/
theorem Boot.agrees (b : Boot) : Agrees b.ports.dev b.ports.terminals := by
  obtain ⟨hconf, hfd⟩ := b.ports_dev
  have hterm : ∀ k, b.ports.terminals k =
      if b.opened 1 > 0 ∧ k = b.opened 1 then
        some (line (ConfigCom.load b.dev.conf (comOff 1)))
      else if b.opened 0 > 0 ∧ k = b.opened 0 then
        some (line (ConfigCom.load b.dev.conf (comOff 0)))
      else none := by
    intro k
    rw [Boot.ports, comInit_eq]
    simp only [Outcome.andThen]
    rw [afterAll_append, comParaSet_terminals, comParaSet_terminals]
  intro p hp hopen
  rw [hfd p hp] at hopen ⊢
  rw [hconf, hterm]
  simp only [maxComPort] at hp
  obtain rfl | rfl : p = 0 ∨ p = 1 := by omega
  · rw [if_neg fun h => b.distinct hopen h.2, if_pos ⟨hopen, rfl⟩]
  · rw [if_pos ⟨hopen, rfl⟩]

/-- After `com_init` and any commands and requests the terminals are as the records say,
all the time, exactly when every request for all ports that is performed brings the
line that the other open port already has. -/
theorem agrees_reached_iff (b : Boot) (xs : List LineRequest) :
    (∀ ys, ys <+: xs →
      Agrees (exec serve b.ports ys).dev (exec serve b.ports ys).terminals) ↔
      StepsSatisfy serve AllAgree b.ports xs :=
  reaches_iff_under (I := fun s : Ports => Wired s.dev) (A := fun _ _ => True)
    (G := fun s : Ports => Agrees s.dev s.terminals)
    (fun s x h _ => serve_wired s x h) (fun s x hw ha _ => serve_agrees_iff s x hw ha)
    b.wired b.agrees (stepsSatisfy_of_forall (fun _ _ => trivial) _ xs)

/-! ## A rate for all ports -/

/-- A record with 8 data bits, no parity and 1 stop bit. -/
def record8n1 (id : UInt32) (bps : UInt32) (all : UInt8) : ConfigCom where
  id := id
  bps := bps
  sbit := 1
  dbit := 8
  chk := 3
  bctrl := 0
  rts := 0
  dtr := 0
  all := all
  type := 0
  isloop := 0
  rsvd := fun _ => 0
  alive := 0

/-- A configuration with both ports at 9600 baud. -/
def conf9600 : Mem :=
  blit (blit zero (comOff 0) (record8n1 1 9600 0).bytes) (comOff 1) (record8n1 2 9600 0).bytes

/-- A start on it with both ports open. -/
def bothOpen : Boot where
  dev := Device.start conf9600
  numbered := by
    rw [Device.start]
    unfold Numbered
    decide
  opened := fun p => 5 + p
  distinct := by decide

/-- 115200 baud, for all ports. -/
def allPorts115200 : ConfigCom := record8n1 1 115200 1

private theorem allPorts115200_legal (p : Nat) : LegalRecord p allPorts115200 :=
  ⟨fun h => absurd rfl h, by decide⟩

/-- The request that brings it in one segment for port 0. -/
def allPortsRequest : ComRequest where
  env := Env.idle
  head := setPort0
  conn := ⟨true, [.data allPorts115200.bytes 0], [], []⟩
  valid := zeroRecord.valid

private theorem allPortsRequest_brings :
    receivedCom (webConnRecv allPortsRequest.conn comSize).bytes = allPorts115200 := by
  show ConfigCom.load (blit zero 0 allPorts115200.bytes) 0 = _
  exact ConfigCom.load_bytes zero 0 allPorts115200

def setAllPorts : LegalRequest :=
  ⟨allPortsRequest, fun _ => by rw [allPortsRequest_brings]; exact allPorts115200_legal _⟩

/-- The record of port 1 then says 115200 baud, and its terminal is still at 9600. -/
theorem setAllPorts_not_agrees :
    ¬∀ (b : Boot) (xs : List LineRequest),
      Agrees (exec serve b.ports xs).dev (exec serve b.ports xs).terminals := by
  intro h
  have hstep := h bothOpen [.confCom setAllPorts]
  obtain ⟨hconf, hfd⟩ := bothOpen.ports_dev
  have hall := (serve_agrees_iff _ (.confCom setAllPorts) bothOpen.wired bothOpen.agrees).mpr hstep
  have hopen : portFd bothOpen.ports.dev 1 > 0 := by
    rw [hfd 1 (by decide)]
    decide
  have hperf : Performed setPort0 (setAllPorts.session bothOpen.ports.dev) comSize := by
    refine ⟨rfl, .inl ?_⟩
    show limEnable bothOpen.ports.dev.conf 0 = disabled
    rw [hconf]
    decide
  have hline := hall hperf rfl 1 (by decide) (by decide) hopen
  rw [hconf] at hline
  exact absurd hline (by decide)

end Itertk.Web.LineAgreement
