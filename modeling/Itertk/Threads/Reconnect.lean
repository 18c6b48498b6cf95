import Itertk.Base.Run
import Itertk.Threads.System

/-!
# Reconnect requests

`ITS_SERVER_SET` asks for a reconnect by one assignment to `g_reconnect_flag`, and
`client_process` overwrites the flag without looking at it: with `RECONNECT_OFF` when
`client_reconnect` has returned, and with `HEARTBEAT_ONLINE` when a `SET_HEARTBEAT`
comes.  A ghost state follows which request is still owed a reconnect and which
address the connection was made to.

## Main results

* `Tracked.step` — what holds as long as the threads keep apart.
* `requestKept_runs` — no request is lost exactly when they do.
-/

namespace Itertk.Threads.Reconnect

open Itertk.Base.Memory
open Itertk.Base.Run
open Itertk.Daemon.State
open Itertk.Client.Dispatch
open Itertk.Client.Process
open Itertk.Itsip.Header
open Itertk.Threads.System

/-! ## The watched system -/

/-- The system and a ghost record of its requests and connections. -/
structure Watch where
  sys : BothThreads
  /-- The main loop has assigned `RECONNECT_ON`, and no `client_reconnect` that began
  after that has returned. -/
  owed : Bool
  /-- The `client_reconnect` that began last began after the last such assignment. -/
  covers : Bool
  /-- How many addresses `sys_server_set` has stored. -/
  version : Nat
  /-- The address that `client_connect_server` has read. -/
  dialed : Nat
  /-- The address that the connection was made to. -/
  target : Nat

namespace Watch

@[simp] abbrev pc (w : Watch) : Pc := w.sys.loop.pc
@[simp] abbrev flag (w : Watch) : Nat := w.sys.loop.flag
@[simp] abbrev sock (w : Watch) : Bool := w.sys.loop.sock

/-- Both threads when they start. -/
def start (r : Receiver) : Watch := ⟨BothThreads.start r, false, false, 0, 0, 0⟩

end Watch

/-- A step with its record. -/
def watch (w : Watch) (a : Action) : Watch :=
  let w' := { w with sys := act w.sys a }
  match a with
  | .main _ =>
      if w.sys.mainDue then { w' with owed := true, covers := false }
      else if w'.sys.mainDue then { w' with version := w.version + 1 }
      else w'
  | .client x =>
      match w.pc with
      | .reconnect => { w' with covers := true }
      | .dial => { w' with dialed := w.version }
      | .answer =>
          if x.connects then { w' with target := w.dialed, owed := w.owed && !w.covers } else w'
      | _ => w'

/-- The step assigns `RECONNECT_OFF` or `HEARTBEAT_ONLINE`. -/
def Clears (w : Watch) : Action → Prop
  | .main _ => False
  | .client x => w.pc = .assignOff ∨ w.pc = .read ∧ Heard w.sys.loop x

/-- A step does not clear the flag while a request is owed a reconnect. -/
def KeepsRequest (w : Watch) (a : Action) : Prop := Clears w a → w.owed = false

/-- A client that is connected to an address that was replaced is going to reconnect. -/
def NeverStale (w : Watch) : Prop :=
  w.sock = true → w.target ≠ w.version →
    w.sys.mainDue = true ∨ w.flag = reconnectOn ∨ w.flag = heartbeatOffline

/-- The loop is inside `client_reconnect`, or about to clear the flag after it. -/
def InReconnect : Pc → Prop
  | .dial | .answer | .assignOff => True
  | _ => False

instance : DecidablePred InReconnect
  | .dial | .answer | .assignOff => inferInstanceAs (Decidable True)
  | .top | .offline | .testOn | .testOffline | .reconnect | .testSock | .assignOn | .read =>
      inferInstanceAs (Decidable False)

/-- The main loop does not assign the flag during a reconnect, and no `SET_HEARTBEAT`
is accepted while the flag asks for one. -/
def Apart (w : Watch) : Action → Prop
  | .main _ => w.sys.mainDue = true → ¬InReconnect w.pc
  | .client x => w.pc = .read → Heard w.sys.loop x → w.flag ≠ reconnectOn

/-! ## One step -/

/-- What a step of the client leaves in the record. -/
theorem watch_client (w : Watch) (x : Round) :
    watch w (.client x) =
      { sys := act w.sys (.client x)
        owed := if w.pc = .answer ∧ x.connects = true then w.owed && !w.covers else w.owed
        covers := if w.pc = .reconnect then true else w.covers
        version := w.version
        dialed := if w.pc = .dial then w.version else w.dialed
        target := if w.pc = .answer ∧ x.connects = true then w.dialed else w.target } := by
  simp only [watch]
  cases hpc : w.pc with
  | answer => cases x.connects <;> simp
  | _ => simp

/-- What a step of the main loop leaves in the record. -/
theorem watch_main (w : Watch) (r : ServerRequest) :
    watch w (.main r) =
      { sys := act w.sys (.main r)
        owed := w.sys.mainDue || w.owed
        covers := !w.sys.mainDue && w.covers
        version :=
          if w.sys.mainDue = false ∧ (act w.sys (.main r)).mainDue = true then w.version + 1
          else w.version
        dialed := w.dialed
        target := w.target } := by
  simp only [watch]
  cases w.sys.mainDue with
  | true => rfl
  | false => cases (act w.sys (.main r)).mainDue <;> rfl

/-- Between its tests and the reconnect, the flag says `RECONNECT_ON` only when the main
loop has said so. -/
def Asked (w : Watch) : Prop :=
  w.pc = .testOffline ∨ w.pc = .testSock ∨ w.pc = .read → w.flag = reconnectOn → w.owed = true

/-- What holds in every run whose steps keep apart. -/
structure Tracked (w : Watch) : Prop where
  /-- A request is owed a reconnect as long as the flag asks for one. -/
  kept : w.owed = true → ¬InReconnect w.pc → w.flag = reconnectOn ∨ w.flag = heartbeatOffline
  covered : w.owed = true → w.pc = .dial ∨ w.pc = .answer → w.covers = true
  paid : w.pc = .assignOff → w.owed = false
  offline : w.flag = heartbeatOffline →
    w.pc = .testOn ∨ w.pc = .testOffline ∨ w.pc = .reconnect ∨ InReconnect w.pc
  closed : w.pc = .dial ∨ w.pc = .answer → w.sock = false
  /-- An address that was replaced since it was read is one that will be asked for. -/
  dialed : w.pc = .answer → w.dialed ≠ w.version → w.sys.mainDue = true
  target : w.sock = true → w.target ≠ w.version → w.sys.mainDue = true ∨ w.owed = true

theorem Tracked.start (r : Receiver) : Tracked (Watch.start r) := by
  constructor <;> simp [Watch.start, BothThreads.start, Loop.start, Loop.flag, reconnectOff,
    heartbeatOffline]

/-- While the flag is about to be cleared, nothing is owed. -/
theorem Tracked.keepsRequest {w : Watch} (h : Tracked w) {a : Action} (ha : Apart w a) :
    KeepsRequest w a := by
  intro hclears
  cases a with
  | main r => cases hclears
  | client x =>
      rcases hclears with hpc | ⟨hpc, hheard⟩
      · exact h.paid hpc
      · rw [← Bool.not_eq_true]
        intro howed
        have hout : ¬InReconnect w.pc := by rw [hpc]; exact id
        rcases h.kept howed hout with hon | hoffline
        · exact ha hpc hheard hon
        · have hplace := h.offline hoffline
          rw [hpc] at hplace
          simp [InReconnect] at hplace

theorem Tracked.client {w : Watch} (h : Tracked w) {x : Round} (ha : Apart w (.client x)) :
    Tracked (watch w (.client x)) := by
  have hkeeps := h.keepsRequest ha
  obtain ⟨hkept, hcovered, hpaid, hoffline, hclosed, hdialed, htarget⟩ := h
  obtain ⟨pc', flag', sock', hpc', hflag', hsock', hmove⟩ := advance_cases w.sys.loop x
  rw [watch_client]
  constructor <;> simp only [Watch.pc, Watch.flag, Watch.sock, act, hpc', hflag', hsock']
  case kept =>
    -- the flag is cleared only when nothing is owed
    clear hcovered hclosed hdialed htarget
    cases hmove <;> simp_all [InReconnect, reconnectOn, heartbeatOffline, KeepsRequest, Clears]
  case covered =>
    clear hkept hpaid hoffline hclosed hdialed htarget
    cases hmove <;> simp_all
  case paid =>
    -- `client_reconnect` returns: it began after the request it is owed to
    clear hkept hoffline hclosed hdialed htarget
    cases hmove <;> simp_all
  case offline =>
    clear hkept hcovered hclosed hdialed htarget
    cases hmove <;>
      simp_all [InReconnect, reconnectOn, reconnectOff, heartbeatOnline, heartbeatOffline]
  case closed =>
    clear hkept hcovered hpaid hoffline hdialed htarget
    cases hmove <;> simp_all
  case dialed =>
    clear hkept hcovered hpaid hoffline hclosed htarget
    cases hmove <;> simp_all
  case target =>
    -- a connection to an address that was replaced in the meantime is still to be asked for
    clear hkept hpaid hoffline hclosed
    cases hmove <;> simp_all

/-- A new request, and no reconnect that could be taken for its own. -/
theorem Tracked.mainDue {w : Watch} (h : Tracked w) {r : ServerRequest} (ha : Apart w (.main r))
    (hdue : w.sys.mainDue = true) : Tracked (watch w (.main r)) := by
  obtain ⟨hpc, hsock, hflag⟩ := act_main w.sys r
  have hplace : w.pc = (act w.sys (.main r)).loop.pc := hpc.symm
  have hout : ¬InReconnect (act w.sys (.main r)).loop.pc := by
    rw [hpc]
    exact ha hdue
  have hnot : ∀ pc, InReconnect pc → (act w.sys (.main r)).loop.pc ≠ pc := by
    rintro pc hin rfl
    exact hout hin
  rw [hdue, if_pos rfl] at hflag
  rw [watch_main, hdue]
  exact {
    kept := fun _ _ => .inl hflag
    covered := fun _ hin => by
      rcases hin with hdial | hanswer
      · exact absurd hdial (hnot .dial trivial)
      · exact absurd hanswer (hnot .answer trivial)
    paid := fun hin => absurd hin (hnot .assignOff trivial)
    offline := fun hoffline => absurd (hflag.symm.trans hoffline) (by decide)
    closed := fun hin => hsock.trans (h.closed (hplace ▸ hin))
    dialed := fun hin => absurd hin (hnot .answer trivial)
    target := fun _ _ => .inr rfl }

/-- An address may be stored, and the flag stays. -/
theorem Tracked.mainIdle {w : Watch} (h : Tracked w) (r : ServerRequest)
    (hdue : w.sys.mainDue = false) : Tracked (watch w (.main r)) := by
  obtain ⟨hpc, hsock, hflag⟩ := act_main w.sys r
  have hplace : w.pc = (act w.sys (.main r)).loop.pc := hpc.symm
  rw [hdue, if_neg Bool.false_ne_true] at hflag
  rw [watch_main, hdue]
  have hstored : ∀ address, (address ≠ if (false = false ∧ (act w.sys (.main r)).mainDue = true)
      then w.version + 1 else w.version) →
      (act w.sys (.main r)).mainDue = true ∨ address ≠ w.version := by
    intro address hold
    by_cases hnew : (act w.sys (.main r)).mainDue = true
    · exact .inl hnew
    · rw [if_neg fun hboth => hnew hboth.2] at hold
      exact .inr hold
  exact {
    kept := fun howed hout => by
      show (act w.sys (.main r)).loop.flag = reconnectOn ∨
        (act w.sys (.main r)).loop.flag = heartbeatOffline
      rw [hflag]
      exact h.kept howed (hplace ▸ hout)
    covered := fun howed hin => h.covered howed (hplace ▸ hin)
    paid := fun hin => h.paid (hplace ▸ hin)
    offline := fun hoffline => by
      have hwhere := h.offline (hflag.symm.trans hoffline)
      rw [hplace] at hwhere
      exact hwhere
    closed := fun hin => hsock.trans (h.closed (hplace ▸ hin))
    dialed := fun hin hold => by
      rcases hstored w.dialed hold with hnew | hold
      · exact hnew
      · exact absurd (h.dialed (hplace ▸ hin) hold) (by rw [hdue]; decide)
    target := fun hopen hold => by
      rcases hstored w.target hold with hnew | hold
      · exact .inl hnew
      · rcases h.target (hsock.symm.trans hopen) hold with hdue' | howed
        · exact absurd hdue' (by rw [hdue]; decide)
        · exact .inr howed }

theorem Tracked.main {w : Watch} (h : Tracked w) {r : ServerRequest} (ha : Apart w (.main r)) :
    Tracked (watch w (.main r)) := by
  cases hdue : w.sys.mainDue with
  | true => exact h.mainDue ha hdue
  | false => exact h.mainIdle r hdue

theorem Tracked.step {w : Watch} (h : Tracked w) (a : Action) (ha : Apart w a) :
    Tracked (watch w a) := by
  cases a with
  | client x => exact h.client ha
  | main r => exact h.main ha

/-- What was replaced is still to be asked for. -/
theorem Tracked.neverStale {w : Watch} (h : Tracked w) : NeverStale w := by
  intro hsock hold
  rcases h.target hsock hold with hdue | howed
  · exact .inl hdue
  · have hout : ¬InReconnect w.pc := by
      intro hin
      cases hpc : w.pc with
      | dial => rw [h.closed (.inl hpc)] at hsock; cases hsock
      | answer => rw [h.closed (.inr hpc)] at hsock; cases hsock
      | assignOff => rw [h.paid hpc] at howed; cases howed
      | _ => rw [hpc] at hin; exact hin
    exact .inr (h.kept howed hout)

/-! ## Steps that do not keep apart -/

theorem Asked.step {w : Watch} (h : Asked w) (a : Action) : Asked (watch w a) := by
  unfold Asked at h ⊢
  cases a with
  | client x =>
      obtain ⟨pc', flag', sock', hpc', hflag', hsock', hmove⟩ := advance_cases w.sys.loop x
      rw [watch_client]
      cases hmove <;> simp_all [act, reconnectOff, reconnectOn]
  | main r =>
      obtain ⟨hpc, hsock, hflag⟩ := act_main w.sys r
      have hplace : w.pc = (act w.sys (.main r)).loop.pc := hpc.symm
      rw [watch_main]
      intro htests hon
      cases hdue : w.sys.mainDue with
      | true => rfl
      | false =>
          rw [hdue, if_neg Bool.false_ne_true] at hflag
          exact h (hplace ▸ htests) (hflag.symm.trans hon)

/-- The reconnect that runs began before the request. -/
def Overdue (w : Watch) : Prop := InReconnect w.pc ∧ w.owed = true ∧ w.covers = false

/-- A request during a reconnect is not covered by it. -/
theorem Overdue.main {w : Watch} (hin : InReconnect w.pc)
    (hlate : w.sys.mainDue = true ∨ w.owed = true ∧ w.covers = false) (r : ServerRequest) :
    Overdue (watch w (.main r)) := by
  rw [watch_main]
  refine ⟨?_, ?_, ?_⟩
  · show InReconnect (act w.sys (.main r)).loop.pc
    rw [(act_main w.sys r).1]
    exact hin
  · rcases hlate with hdue | ⟨howed, -⟩
    · exact (congrArg (· || w.owed) hdue).trans (Bool.true_or _)
    · exact (congrArg (w.sys.mainDue || ·) howed).trans (Bool.or_true _)
  · rcases hlate with hdue | ⟨-, hcovers⟩
    · exact congrArg (fun due => !due && w.covers) hdue
    · exact (congrArg (!w.sys.mainDue && ·) hcovers).trans (Bool.and_false _)

/-- It ends with an assignment that clears the flag. -/
theorem Overdue.step {w : Watch} (h : Overdue w) (a : Action) (hk : KeepsRequest w a) :
    Overdue (watch w a) := by
  obtain ⟨hin, howed, hcovers⟩ := h
  cases a with
  | client x =>
      have hnot : w.pc ≠ .assignOff := by
        intro hpc
        rw [hk (.inl hpc)] at howed
        cases howed
      obtain ⟨pc', flag', sock', hpc', hflag', hsock', hmove⟩ := advance_cases w.sys.loop x
      rw [watch_client]
      cases hmove <;> simp_all [act, Overdue, InReconnect]
  | main r => exact Overdue.main hin (.inr ⟨howed, hcovers⟩) r

/-- In a run that loses no request and does not stop inside a reconnect, the threads
keep apart. -/
theorem apart_of_keepsRequest {w : Watch} (h : Asked w) {as : List Action}
    (hend : ¬InReconnect (exec watch w as).pc) (hkeeps : StepsSatisfy watch KeepsRequest w as) :
    StepsSatisfy watch Apart w as := by
  induction as generalizing w with
  | nil => trivial
  | cons a as ih =>
      obtain ⟨hk, hrest⟩ := hkeeps
      refine ⟨?_, ih (h.step a) hend hrest⟩
      cases a with
      | main r =>
          intro hdue hin
          have hover : Overdue (watch w (.main r)) := Overdue.main hin (.inl hdue) r
          exact hend (exec_under (fun w a h hk => h.step a hk) hover hrest).1
      | client x =>
          intro hpc hheard hon
          have howed := h (.inr (.inr hpc)) hon
          rw [hk (.inr ⟨hpc, hheard⟩)] at howed
          cases howed

/-! ## Runs -/

/-- As long as the threads keep apart, no request is lost and no connection to a
replaced address stays; and a run in which no request is lost, seen from outside a
reconnect, is one in which they kept apart. -/
theorem requestKept_runs (r : Receiver) (as : List Action) :
    (StepsSatisfy watch Apart (Watch.start r) as →
      StepsSatisfy watch KeepsRequest (Watch.start r) as ∧
        ∀ ys, ys <+: as → NeverStale (exec watch (Watch.start r) ys)) ∧
    (¬InReconnect (exec watch (Watch.start r) as).pc →
      StepsSatisfy watch KeepsRequest (Watch.start r) as →
        StepsSatisfy watch Apart (Watch.start r) as) := by
  constructor
  · intro hapart
    constructor
    · exact stepsSatisfy_under (fun w a h ha => h.step a ha) (fun w a h ha => h.keepsRequest ha)
        (Tracked.start r) hapart
    · intro ys hys
      obtain ⟨zs, rfl⟩ := hys
      have hys := ((stepsSatisfy_append _ ys zs).mp hapart).1
      exact (exec_under (A := Apart) (fun w a h ha => Tracked.step h a ha)
        (Tracked.start r) hys).neverStale
  · intro hend hkeeps
    have hasked : Asked (Watch.start r) := by
      rintro (hpc | hpc | hpc) <;> cases hpc
    exact apart_of_keepsRequest hasked hend hkeeps

/-! ## A lost request -/

/-- `ITS_SERVER_SET` with a record of zeros. -/
def serverRequest : ServerRequest where
  env := Env.idle
  head := itsipPack zero ItsCmd.serverSet.code 56 0
  conn := ⟨true, [.data (List.replicate 56 0) 0], [], []⟩
  itsip := rfl
  command := rfl

/-- `SET_HEARTBEAT` with a period of 10 seconds. -/
def heartbeatPacket : Packet := ⟨[0x55, 0xaa, 0x09, 0x01, 10, 0], by decide, by decide⟩

/-- The client connects, passes its tests and is about to read; the server is set, and
then the heartbeat is read. -/
def lostRun : List Action :=
  List.replicate 12 (.client linked) ++
    [.main serverRequest, .main serverRequest,
      .client { linked with packet := some (Env.idle, heartbeatPacket) }]

/-- After it the client is connected to the old address and nothing is pending. -/
theorem requestKept_lostRun :
    ¬∀ (r : Receiver) (as : List Action),
      StepsSatisfy watch KeepsRequest (Watch.start r) as ∧
        ∀ ys, ys <+: as → NeverStale (exec watch (Watch.start r) ys) := by
  intro h
  have hstale := (h ⟨zero, Device.start zero⟩ lostRun).2 lostRun (List.prefix_refl _)
  have hend : (exec watch (Watch.start ⟨zero, Device.start zero⟩) lostRun).sock = true ∧
      (exec watch (Watch.start ⟨zero, Device.start zero⟩) lostRun).target = 0 ∧
      (exec watch (Watch.start ⟨zero, Device.start zero⟩) lostRun).version = 1 ∧
      (exec watch (Watch.start ⟨zero, Device.start zero⟩) lostRun).sys.mainDue = false ∧
      (exec watch (Watch.start ⟨zero, Device.start zero⟩) lostRun).flag = heartbeatOnline := by
    decide +kernel
  obtain ⟨hsock, htarget, hversion, hdue, hflag⟩ := hend
  rw [NeverStale, htarget, hversion, hdue, hflag] at hstale
  exact absurd (hstale hsock) (by decide)

end Itertk.Threads.Reconnect
