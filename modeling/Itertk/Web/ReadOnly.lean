import Itertk.Base.Run
import Itertk.Client.Dispatch
import Itertk.Web.Handlers

/-!
# Queries and the configuration

The `*_QUERY` commands answer with fields of `g_conf_info`.  Two of them refresh
a snapshot on the way: `SYSINFO_QUERY` the version string, `GPIO_QUERY` the alarm
inputs and the sensor text.  The loop of the latter runs over eight inputs where
`con_gpio.alarm` has room for three; the other five are written over
`alarm_on_off`, `output` and the first bytes of `sensor`, of which only the last
are part of the snapshot.

## Main results

* `webArm_query` — what each query does to the configuration.
* `readOnly_iff` — when one query leaves all but the snapshot alone.
* `queriesReadOnly_iff` — when all queries of a run do.
-/

namespace Itertk.Web.ReadOnly

open Itertk.Base.Memory
open Itertk.Base.Run
open Itertk.Daemon.Layout
open Itertk.Daemon.Config
open Itertk.Daemon.State
open Itertk.Client.Dispatch
open Itertk.Itsip.Socket
open Itertk.Itsip.Header
open Itertk.Web.Handlers

/-! ## Queries -/

/-- The `ITS_*_QUERY` commands. -/
def isQuery : ItsCmd → Bool
  | .userQuery | .sysinfoQuery | .confQuery | .netinfoQuery | .vlanQuery | .serverQuery
  | .gpioQuery => true
  | _ => false

/-- A header with a query command; its sub-code and port index are free. -/
structure QueryRequest (c : ItsCmd) (head : Mem) : Prop where
  itsip : head 0 = itsHead
  command : itsipCmd head = c.code
  query : isQuery c = true

/-- The bytes of `con_sys.sw_ver`, `con_gpio.alarm` and `con_gpio.sensor`. -/
def Snapshot (i : Nat) : Prop :=
  (sysOff + 96 ≤ i ∧ i < sysOff + 128) ∨ (gpioOff ≤ i ∧ i < gpioOff + 12) ∨
    (gpioOff + 19 ≤ i ∧ i < gpioOff + 49)

/-- Outside the snapshot the handling of the header leaves `g_conf_info` as it was. -/
def LeavesConf (env : Env) (head : Mem) (s : Session) : Prop :=
  ∀ i, i < confSize → ¬Snapshot i → (webCmdProc env head s).dev.conf i = s.dev.conf i

/-- `alarm_on_off` and `output` hold what inputs 3 and 4 would put there. -/
def TailAgrees (d : Device) : Prop :=
  slice d.conf (gpioOff + 12) 7 = [d.alarmIn 3, 0, 0, 0, d.alarmIn 4, 0, 0]

/-! ## An array of integers -/

/-- A byte as an `int` in memory. -/
theorem le32_byte (b : UInt8) : le32 b.toUInt32 = [b, 0, 0, 0] := by
  have hb := b.toNat_lt
  simp only [le32, List.cons.injEq, and_true, ← UInt8.toNat_inj, UInt32.toNat_toUInt8,
    UInt32.toNat_div, UInt8.toNat_toUInt32, UInt32.reduceToNat, UInt8.reduceToNat]
  omega

/-- Word `j` of an array that a loop fills. -/
theorem storeWords_hit (m : Mem) (off : Nat) (f : Nat → UInt32) {n j t : Nat} (hj : j < n)
    {v : UInt8} (hv : (le32 (f j))[t]? = some v) :
    forUpTo n (fun i m => store32 m (off + 4 * i) (f i)) m (off + 4 * j + t) = v := by
  have ht : t < 4 := (List.getElem?_eq_some_iff.mp hv).1
  induction n with
  | zero => omega
  | succ n ih =>
      rw [forUpTo_succ]
      by_cases hjn : j = n
      · rw [hjn] at hv ⊢
        exact blit_of_getElem? _ _ hv
      · rw [store32_ne _ _ (by omega)]
        exact ih (by omega)

/-- Outside the array nothing changes. -/
theorem storeWords_miss (m : Mem) (off : Nat) (f : Nat → UInt32) {n k : Nat}
    (h : k < off ∨ off + 4 * n ≤ k) :
    forUpTo n (fun i m => store32 m (off + 4 * i) (f i)) m k = m k :=
  forUpTo_keeps (fun m : Mem => m k) m n fun j hj x => store32_ne x _ (by omega)

/-! ## The two snapshots -/

theorem putSwVer_outside (conf : Mem) {i : Nat} (h : ¬Snapshot i) : putSwVer conf i = conf i := by
  apply blit_outside
  show i < sysOff + 96 ∨ sysOff + 96 + 6 ≤ i
  simp only [Snapshot, sysOff, gpioOff] at h ⊢
  omega

/-- Below the alarm words and behind the sensor text nothing changes. -/
theorem putGpioStatus_outside (env : Env) (d : Device) {i : Nat}
    (h : i < gpioOff ∨ gpioOff + 49 ≤ i) : putGpioStatus env d i = d.conf i := by
  have hlen : (env.am2301.take 30).length ≤ 30 := by
    rw [List.length_take]
    omega
  rw [putGpioStatus]
  simp only [gpioOff] at h ⊢
  rw [blit_outside _ _ (by omega), storeWords_miss _ _ _ (by omega)]

/-- Over `alarm_on_off` and `output` lie the words of inputs 3 and 4. -/
theorem putGpioStatus_tail (env : Env) (d : Device) :
    slice (putGpioStatus env d) (gpioOff + 12) 7 = [d.alarmIn 3, 0, 0, 0, d.alarmIn 4, 0, 0] := by
  have hword : ∀ {j t : Nat} {v : UInt8}, j < 8 → 4 * j + t < 19 →
      (le32 (d.alarmIn j).toUInt32)[t]? = some v →
      putGpioStatus env d (gpioOff + 4 * j + t) = v := by
    intro j t v hj hk hv
    rw [putGpioStatus, blit_before _ _ (by omega)]
    exact storeWords_hit d.conf gpioOff (fun i => (d.alarmIn i).toUInt32) hj hv
  have h3 : ∀ {t v}, [d.alarmIn 3, 0, 0, 0][t]? = some v → t < 7 →
      putGpioStatus env d (gpioOff + 12 + t) = v := by
    intro t v hv ht
    exact hword (j := 3) (by omega) (by omega) (by rw [le32_byte]; exact hv)
  have h4 : ∀ {t v}, [d.alarmIn 4, 0, 0, 0][t]? = some v → t < 3 →
      putGpioStatus env d (gpioOff + 16 + t) = v := by
    intro t v hv ht
    exact hword (j := 4) (by omega) (by omega) (by rw [le32_byte]; exact hv)
  simp only [slice_succ, slice_zero]
  rw [h3 (t := 0) rfl (by omega), h3 (t := 1) rfl (by omega), h3 (t := 2) rfl (by omega),
    h3 (t := 3) rfl (by omega), h4 (t := 0) rfl (by omega), h4 (t := 1) rfl (by omega),
    h4 (t := 2) rfl (by omega)]

/-! ## One query -/

/-- What a query does to the configuration. -/
theorem webArm_query (env : Env) (head : Mem) (s : Session) {c : ItsCmd} (h : isQuery c = true) :
    (webArm env head s c).dev.conf =
      if c = .sysinfoQuery then putSwVer s.dev.conf
      else if c = .gpioQuery then putGpioStatus env s.dev
      else s.dev.conf := by
  cases c with
  | login | userSet | sysinfoSet | confSet | netinfoSet | vlanSet | factorySet | serverSet
  | gpioSet => exact absurd h Bool.false_ne_true
  | confQuery => exact congrArg Device.conf (sysConfQuery_dev env head s)
  | userQuery | sysinfoQuery | netinfoQuery | vlanQuery | serverQuery | gpioQuery => rfl

/-- A query is read-only exactly when it is not a `GPIO_QUERY` that is served, or the
words past the end of `alarm` are already there. -/
theorem readOnly_iff (env : Env) {c : ItsCmd} {head : Mem} (s : Session)
    (h : QueryRequest c head) :
    LeavesConf env head s ↔ (c = .gpioQuery → s.conn.isOpen = true → TailAgrees s.dev) := by
  unfold LeavesConf
  rw [webCmdProc_eq env s h.itsip h.command]
  by_cases hopen : s.conn.isOpen = false
  · rw [if_pos hopen]
    refine iff_of_true (fun _ _ _ => rfl) fun _ htrue => ?_
    rw [hopen] at htrue
    exact absurd htrue Bool.false_ne_true
  · rw [if_neg hopen, webArm_query env head s h.query]
    have htrue : s.conn.isOpen = true := Bool.of_not_eq_false hopen
    by_cases hsys : c = .sysinfoQuery
    · rw [if_pos hsys]
      refine iff_of_true (fun i _ hi => putSwVer_outside _ hi) fun hgpio => ?_
      rw [hsys] at hgpio
      exact absurd hgpio (by decide)
    · rw [if_neg hsys]
      by_cases hgpio : c = .gpioQuery
      · rw [if_pos hgpio]
        have htail := putGpioStatus_tail env s.dev
        constructor
        · intro hall _ _
          rw [TailAgrees, ← htail, slice_eq_iff]
          intro i hi
          refine (hall _ ?_ ?_).symm
          · simp only [gpioOff, confSize]
            omega
          · simp only [Snapshot, sysOff, gpioOff]
            omega
        · intro hagree i _ hi
          have htails := (slice_eq_iff _ _ _ _ _).mp (htail.trans (hagree hgpio htrue).symm)
          by_cases hin : gpioOff + 12 ≤ i ∧ i < gpioOff + 19
          · have hbyte := htails (i - (gpioOff + 12)) (by omega)
            rw [Nat.add_sub_cancel' hin.1] at hbyte
            exact hbyte
          · apply putGpioStatus_outside
            simp only [Snapshot, sysOff, gpioOff] at hi hin ⊢
            omega
      · rw [if_neg hgpio]
        exact iff_of_true (fun _ _ _ => rfl) fun hc => absurd hc hgpio

/-! ## Whole runs -/

/-- What reaches the daemon: a packet of the alarm server, an ITSIP header on one of
the connections, or new levels of the alarm inputs. -/
inductive Input where
  | alarm (env : Env) (packet : Packet)
  | itsip (env : Env) (head : Mem) (conn : Conn)
  | levels (alarmIn : Mem)

/-- The daemon's handling of it. -/
def serve (s : Receiver) : Input → Receiver
  | .alarm env packet => (clientStep env s packet).1
  | .itsip env head conn => { s with dev := (webCmdProc env head ⟨s.dev, conn, []⟩).dev }
  | .levels alarmIn => { s with dev := { s.dev with alarmIn := alarmIn } }

/-- A query leaves all but the snapshot alone. -/
def QueryReadOnly (s : Receiver) : Input → Prop
  | .itsip env head conn => ∀ c, QueryRequest c head → LeavesConf env head ⟨s.dev, conn, []⟩
  | _ => True

/-- A `GPIO_QUERY` on an open connection finds the words past the end of `alarm`
already there. -/
def GpioQueryAgrees (s : Receiver) : Input → Prop
  | .itsip _ head conn =>
      QueryRequest .gpioQuery head → conn.isOpen = true → TailAgrees s.dev
  | _ => True

private theorem queryReadOnly_iff (s : Receiver) (x : Input) :
    QueryReadOnly s x ↔ GpioQueryAgrees s x := by
  cases x with
  | alarm | levels => exact Iff.rfl
  | itsip env head conn =>
      constructor
      · intro h hgpio hopen
        exact (readOnly_iff env _ hgpio).mp (h .gpioQuery hgpio) rfl hopen
      · intro h c hquery
        refine (readOnly_iff env _ hquery).mpr ?_
        rintro rfl
        exact h hquery

/-- Every query of a run is read-only exactly when every `GPIO_QUERY` of the run finds
its words already there. -/
theorem queriesReadOnly_iff (s : Receiver) (xs : List Input) :
    StepsSatisfy serve QueryReadOnly s xs ↔ StepsSatisfy serve GpioQueryAgrees s xs :=
  stepsSatisfy_congr serve queryReadOnly_iff s xs

/-! ## The default configuration -/

/-- A header with a command and nothing else. -/
def bareHead (c : ItsCmd) : Mem := fun i =>
  if i = 0 then itsHead else if i = 1 then c.code else 0

/-- The daemon in the default configuration. -/
def defaultDaemon : Receiver := ⟨zero, Device.start (configMakedefault ⟨[], []⟩ zero)⟩

/-- With every input off, `GPIO_QUERY` clears the alarm switches and the outputs that
start at 1. -/
theorem queriesReadOnly_gpioQuery :
    ¬∀ (b : Build) (m : Mem) (s : Receiver) (xs : List Input),
      s.dev.conf = configMakedefault b m → StepsSatisfy serve QueryReadOnly s xs := by
  intro h
  let query : Input := .itsip Env.idle (bareHead .gpioQuery) ⟨true, [], [], []⟩
  have hread : QueryReadOnly defaultDaemon query :=
    (h ⟨[], []⟩ zero defaultDaemon [query] rfl).1
  have htail : TailAgrees defaultDaemon.dev :=
    (queryReadOnly_iff defaultDaemon query).mp hread ⟨rfl, rfl, rfl⟩ rfl
  rw [TailAgrees, slice_succ] at htail
  have hfirst : defaultDaemon.dev.conf (gpioOff + 12) = 0 := (List.cons.inj htail).1
  have hone : defaultDaemon.dev.conf (gpioOff + 12) = 1 :=
    configMakedefault_gpio ⟨[], []⟩ zero (k := 0) (by omega)
  rw [hone] at hfirst
  exact absurd hfirst (by decide)

end Itertk.Web.ReadOnly
