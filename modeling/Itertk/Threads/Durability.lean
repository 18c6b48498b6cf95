import Itertk.Base.Run
import Itertk.Client.Dispatch
import Itertk.Daemon.Persistence
import Itertk.Discovery.Report
import Itertk.Web.ReadOnly

/-!
# The saved configuration

The alarm server, the web and the discovery tool all change `g_conf_info`.  A
request either leaves the configuration alone or ends with a `config_save`, but for two
queries that store into `con_sys` and `con_gpio` what they are about to send.

## Main results

* `clientStep_synced`, `webArm_synced`, `reportProc_synced` — the requests of each kind.
* `durable_runs` — after every handled request the file has what the configuration has.
-/

namespace Itertk.Threads.Durability

open Itertk.Base.Memory
open Itertk.Base.Run
open Itertk.Daemon.Layout
open Itertk.Daemon.Config
open Itertk.Daemon.State
open Itertk.Daemon.Persistence
open Itertk.Client.Dispatch
open Itertk.Discovery.Report
open Itertk.Itsip.Socket
open Itertk.Itsip.Header
open Itertk.Web.Users
open Itertk.Web.Handlers
open Itertk.Web.ReadOnly

/-! ## The file and the configuration -/

/-- The bytes of `con_vlan`, `con_com`, `con_mode`, `con_lim`, `con_usr` and
`con_sensor`. -/
def Listed (i : Nat) : Prop := vlanOff ≤ i ∧ i < serverOff ∨ sensorOff 0 ≤ i ∧ i < confSize

theorem Listed.lt {i : Nat} (h : Listed i) : i < confSize := by
  rcases h with h | h
  · simp only [serverOff, confSize] at h ⊢
    omega
  · exact h.2

/-- The file agrees with the configuration on these fields. -/
def Durable (d : Device) : Prop := ∀ i, Listed i → d.saved[i]? = some (d.conf i)

/-- Neither configuration nor file has changed, or all of the configuration is saved. -/
def Synced (d d' : Device) : Prop :=
  d'.conf = d.conf ∧ d'.saved = d.saved ∨ d'.saved = slice d'.conf 0 confSize

theorem Synced.refl (d : Device) : Synced d d := .inl ⟨rfl, rfl⟩

theorem Synced.save (d : Device) (conf : Mem) : Synced d (configSave d conf) := by
  right
  rw [configSave_saved, configSave_conf]

theorem Synced.trans {d d' d'' : Device} (h : Synced d d') (h' : Synced d' d'') : Synced d d'' := by
  rcases h' with ⟨hconf', hsaved'⟩ | hall'
  · rcases h with ⟨hconf, hsaved⟩ | hall
    · exact .inl ⟨hconf'.trans hconf, hsaved'.trans hsaved⟩
    · exact .inr (by rw [hsaved', hall, hconf'])
  · exact .inr hall'

private theorem durable_of_saved {d : Device} (h : d.saved = slice d.conf 0 confSize) :
    Durable d := by
  intro i hi
  rw [h, getElem?_slice, if_pos hi.lt, Nat.zero_add]

/-- The fields outside the list do not matter. -/
theorem Durable.congr {d d' : Device} (h : Durable d) (hconf : ∀ i, Listed i → d'.conf i = d.conf i)
    (hsaved : d'.saved = d.saved) : Durable d' := by
  intro i hi
  rw [hsaved, hconf i hi]
  exact h i hi

private theorem Synced.durable {d d' : Device} (h : Synced d d') (hd : Durable d) : Durable d' := by
  rcases h with ⟨hconf, hsaved⟩ | hall
  · exact hd.congr (fun i _ => by rw [hconf]) hsaved
  · exact durable_of_saved hall

/-! ## The alarm server -/

private theorem synced_of_works {d d' : Device} (h : Works d d') : Synced d d' := by
  induction h with
  | scratch h => exact .inl ⟨h.conf, h.saved⟩
  | save d conf => exact .save d conf
  | trans _ _ ih ih' => exact ih.trans ih'

theorem clientStep_synced (env : Env) (s : Receiver) (p : Packet) :
    Synced s.dev (clientStep env s p).1.dev := by
  show Synced s.dev (clientDispatch env (received s.buf p) p.bytes.length s.dev).1
  rcases clientDispatch_cases env (received s.buf p) p.bytes.length s.dev with ⟨c, -, hd⟩ | ⟨-, hd⟩
  · rw [hd]
    by_cases hc : c = .setHeartbeat
    · subst hc
      exact .inl ⟨rfl, rfl⟩
    · exact synced_of_works (perform_works env _ s.dev hc)
  · rw [hd]
    exact .refl s.dev

/-! ## The web -/

private theorem sysUsrAdd_synced (d : Device) (name psw : List UInt8) :
    Synced d (sysUsrAdd d name psw).1 := by
  unfold sysUsrAdd
  split
  · exact .save d _
  · exact .refl d

private theorem sysUsrDel_synced (d : Device) (name : List UInt8) :
    Synced d (sysUsrDel d name).1 := by
  unfold sysUsrDel
  split
  · exact .save d _
  · exact .refl d

private theorem setUsrName_synced (d : Device) (oname nname : List UInt8) :
    Synced d (setUsrName d oname nname).1 := by
  unfold setUsrName
  split
  · exact .save d _
  · exact .refl d

private theorem setUsrPsw_synced (d : Device) (name psw : List UInt8) :
    Synced d (setUsrPsw d name psw).1 := by
  unfold setUsrPsw
  split
  · exact .save d _
  · exact .refl d

private theorem applyUserSet_synced (flag : UInt8) (extdat : Mem) (d : Device) :
    Synced d (applyUserSet flag extdat d).1 := by
  unfold applyUserSet
  dsimp only
  split
  · split
    · exact sysUsrAdd_synced d _ _
    · exact .refl d
  · split
    · exact .refl d
    · split
      · exact .refl d
      · exact sysUsrDel_synced d _
  · split
    · exact (setUsrName_synced d _ _).trans (setUsrPsw_synced _ _ _)
    · exact setUsrPsw_synced d _ _
  · exact .refl d

private theorem sysSet_synced (off size : Nat) (ok failed : CmdCode) (s : Session) :
    Synced s.dev (sysSet off size ok failed s).1.dev := by
  unfold sysSet
  dsimp only
  split
  · exact .save s.dev _
  · exact .refl s.dev

private theorem sysConfSetCom_synced (port : Nat) (name : List UInt8) (s : Session) :
    Synced s.dev (sysConfSetCom port name s).1.dev := by
  unfold sysConfSetCom
  dsimp only
  split
  · exact .refl s.dev
  · split
    · exact (Synced.save s.dev _).trans (synced_of_works (comSet_works _ _))
    · exact .refl s.dev

private theorem sysConfSetMode_synced (port : Nat) (name : List UInt8) (s : Session) :
    Synced s.dev (sysConfSetMode port name s).1.dev := by
  unfold sysConfSetMode
  dsimp only
  split
  · exact .refl s.dev
  · split
    · exact .save s.dev _
    · exact .refl s.dev

private theorem sysConfSetLimit_synced (port : Nat) (name : List UInt8) (s : Session) :
    Synced s.dev (sysConfSetLimit port name s).1.dev := by
  unfold sysConfSetLimit
  dsimp only
  split
  · exact .refl s.dev
  · split
    · exact .save s.dev _
    · exact .refl s.dev

private theorem sysConfSet_synced (head : Mem) (s : Session) :
    Synced s.dev (sysConfSet head s).1.dev := by
  unfold sysConfSet
  dsimp only
  split
  · exact sysConfSetCom_synced _ _ s
  · exact sysConfSetMode_synced _ _ s
  · exact sysConfSetLimit_synced _ _ s
  · exact .refl s.dev

private theorem sysUsrSet_synced (env : Env) (head : Mem) (s : Session) :
    Synced s.dev (sysUsrSet env head s).1.dev := by
  unfold sysUsrSet
  split
  · exact .refl s.dev
  · split
    · exact .refl s.dev
    · exact applyUserSet_synced _ _ s.dev

/-- Every request but the two queries that store what they send. -/
theorem webArm_synced (env : Env) (head : Mem) (s : Session) {c : ItsCmd} (hsys : c ≠ .sysinfoQuery)
    (hgpio : c ≠ .gpioQuery) : Synced s.dev (webArm env head s c).dev := by
  cases c with
  | sysinfoQuery => exact absurd rfl hsys
  | gpioQuery => exact absurd rfl hgpio
  | login | userQuery | netinfoQuery | vlanQuery | serverQuery => exact .refl s.dev
  | confQuery => exact .inl ⟨by rw [webArm, sysConfQuery_dev], by rw [webArm, sysConfQuery_dev]⟩
  | userSet => exact sysUsrSet_synced env head s
  | confSet => exact sysConfSet_synced head s
  | sysinfoSet => exact sysSet_synced sysOff sysSize _ _ s
  | vlanSet => exact sysSet_synced vlanOff vlanSize _ _ s
  | netinfoSet =>
      have hdev : (sysNetinfoSet s).1.dev =
          (sysSet netOff netSize .netSetOk .netSetFailed s).1.dev := by
        unfold sysNetinfoSet
        dsimp only
        split <;> rfl
      show Synced s.dev (sysNetinfoSet s).1.dev
      rw [hdev]
      exact sysSet_synced _ _ _ _ s
  | gpioSet =>
      have hdev : (sysGpioSet s).1.dev =
          (sysSet gpioOff gpioSize .gpioSetOk .netSetFailed s).1.dev := by
        unfold sysGpioSet
        dsimp only
        split <;> rfl
      show Synced s.dev (sysGpioSet s).1.dev
      rw [hdev]
      exact sysSet_synced _ _ _ _ s
  | factorySet => exact .save s.dev _
  | serverSet =>
      have hset : Synced s.dev (sysServerSet s).1.dev := sysSet_synced _ _ _ _ s
      unfold webArm
      dsimp only
      split
      · exact hset.trans (.inl ⟨rfl, rfl⟩)
      · exact hset

/-- The two queries store outside the list. -/
theorem webArm_durable (env : Env) (head : Mem) (s : Session) (c : ItsCmd) (h : Durable s.dev) :
    Durable (webArm env head s c).dev := by
  by_cases hsys : c = .sysinfoQuery
  · subst hsys
    refine h.congr (fun i hi => putSwVer_outside _ ?_) rfl
    simp only [Listed, Snapshot, vlanOff, serverOff, sensorOff, confSize, sysOff, gpioOff] at hi ⊢
    omega
  · by_cases hgpio : c = .gpioQuery
    · subst hgpio
      refine h.congr (fun i hi => putGpioStatus_outside env s.dev ?_) rfl
      simp only [Listed, vlanOff, serverOff, sensorOff, confSize, gpioOff] at hi ⊢
      omega
    · exact (webArm_synced env head s hsys hgpio).durable h

private theorem webCmdProc_durable (env : Env) (head : Mem) (s : Session) (h : Durable s.dev) :
    Durable (webCmdProc env head s).dev := by
  unfold webCmdProc
  split
  · exact h
  · split
    · exact h
    · split
      · exact webArm_durable env head s _ h
      · exact h

/-! ## Discovery and restarts -/

theorem reportProc_synced {env : ReportEnv} {received : Option (List UInt8)} {d : Device}
    {r : Device × List ReportAction} (h : reportProc env received d = some r) : Synced d r.1 := by
  unfold reportProc at h
  dsimp only at h
  split at h
  · obtain rfl := Option.some.inj h
    exact .refl d
  · split at h
    · obtain rfl := Option.some.inj h
      exact .refl d
    · split at h
      · cases h
      · obtain rfl := Option.some.inj h
        rcases pcSetDevInfo_cases env ((received.getD []).takeWhile (· ≠ 0)) d with
          hset | ⟨conf, actions, hset⟩
        · rw [hset]
          exact .refl d
        · rw [hset]
          exact .save d conf

/-- The daemon after a reboot: `config_init` reads the file. -/
def restarted (b : Build) (mac : Fin 6 → UInt8) (d : Device) : Device :=
  { Device.start (configInit b mac (some d.saved)) with saved := d.saved }

/-- What is read back is what the file has. -/
theorem restarted_durable (b : Build) (mac : Fin 6 → UInt8) {d : Device} (h : Durable d) :
    Durable (restarted b mac d) := by
  intro i hi
  show d.saved[i]? = some (configInit b mac (some d.saved) i)
  have hmac : ¬IsMac i := by
    simp only [Listed, IsMac, vlanOff, serverOff, sensorOff, netOff] at hi ⊢
    omega
  have hbyte : (d.saved.take confSize)[i]? = some (d.conf i) := by
    rw [List.getElem?_take_of_lt hi.lt]
    exact h i hi
  have hload := blit_of_getElem? zero 0 hbyte
  rw [Nat.zero_add] at hload
  rw [configInit, getMacInit_outside mac _ hmac, configLoad, hload]
  exact h i hi

/-! ## Runs -/

/-- What the daemon is asked to do, and restarts in between. -/
inductive Input where
  | alarm (env : Env) (packet : Packet)
  | web (env : Env) (head : Mem) (conn : Conn)
  | discovery (env : ReportEnv) (received : Option (List UInt8))
  | restart (b : Build) (mac : Fin 6 → UInt8)

/-- The handling of one request, if it has a result. -/
def handle (s : Receiver) : Input → Option Receiver
  | .alarm env packet => some (clientStep env s packet).1
  | .web env head conn => some { s with dev := (webCmdProc env head ⟨s.dev, conn, []⟩).dev }
  | .discovery env received =>
      (reportProc env received s.dev).map fun r => { s with dev := r.1 }
  | .restart b mac => some ⟨zero, restarted b mac s.dev⟩

/-- A run stops where a request has no result. -/
def serve (s : Option Receiver) (x : Input) : Option Receiver := s.bind fun s => handle s x

private theorem handle_durable {s s' : Receiver} {x : Input} (h : Durable s.dev)
    (hx : handle s x = some s') : Durable s'.dev := by
  cases x with
  | alarm env packet =>
      obtain rfl := Option.some.inj hx
      exact (clientStep_synced env s packet).durable h
  | web env head conn =>
      obtain rfl := Option.some.inj hx
      exact webCmdProc_durable env head ⟨s.dev, conn, []⟩ h
  | discovery env received =>
      obtain ⟨r, hr, rfl⟩ := Option.map_eq_some_iff.mp hx
      exact (reportProc_synced hr).durable h
  | restart b mac =>
      obtain rfl := Option.some.inj hx
      exact restarted_durable b mac h

/-- The daemon is durable as long as it runs. -/
def RunsDurable (o : Option Receiver) : Prop := ∀ s ∈ o, Durable s.dev

theorem RunsDurable.step {o : Option Receiver} (h : RunsDurable o) (x : Input) :
    RunsDurable (serve o x) := by
  intro s' hs'
  obtain ⟨s, hs, hx⟩ := Option.bind_eq_some_iff.mp hs'
  exact handle_durable (h s hs) hx

/-- After any requests that were handled, the file agrees with the configuration. -/
theorem durable_runs (buf conf : Mem) (xs : List Input) :
    ∀ s ∈ exec serve (some ⟨buf, Device.start conf⟩) xs, Durable s.dev := by
  have hstart : RunsDurable (some ⟨buf, Device.start conf⟩) := by
    intro s hs
    obtain rfl := Option.some.inj hs
    exact durable_of_saved (by rw [Device.start])
  have hany : StepsSatisfy serve (fun _ _ => True) (some ⟨buf, Device.start conf⟩) xs :=
    stepsSatisfy_of_forall (fun _ _ => trivial) _ xs
  exact exec_under (I := RunsDurable) (fun o x h _ => h.step x) hstart hany

/-- The factory reset is in the file when it has been answered. -/
theorem durable_factorySet :
    Durable (webCmdProc Env.idle (bareHead .factorySet)
      ⟨Device.start zero, ⟨true, [], [], []⟩, []⟩).dev :=
  durable_runs zero zero [.web Env.idle (bareHead .factorySet) ⟨true, [], [], []⟩]
    ⟨zero, (webCmdProc Env.idle (bareHead .factorySet)
      ⟨Device.start zero, ⟨true, [], [], []⟩, []⟩).dev⟩ rfl

end Itertk.Threads.Durability
