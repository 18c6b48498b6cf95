import Itertk.Client.Process
import Itertk.Web.Handlers

/-!
# The two threads that assign `g_reconnect_flag`

`client_process` runs in a thread of its own; the main loop handles
`ITS_SERVER_SET`.  The thread that acts next is part of a run's input, and a step
is one test or assignment of the flag, with what comes between it and the last
one: the main loop stores the server in one step and assigns the flag in another.

## Main results

* `act_main` — what a step of the main loop does to the control state; for the other
  thread it is `advance_move`.
* `serve_serverSet` — two steps of the main loop are one `web_cmd_proc`.
-/

namespace Itertk.Threads.System

open Itertk.Base.Memory
open Itertk.Daemon.Layout
open Itertk.Daemon.State
open Itertk.Client.Dispatch
open Itertk.Client.Process
open Itertk.Itsip.Socket
open Itertk.Itsip.Header
open Itertk.Web.Handlers

/-! ## State and steps -/

/-- An `ITS_SERVER_SET` header and the connection its record comes from. -/
structure ServerRequest where
  env : Env
  head : Mem
  conn : Conn
  itsip : head 0 = itsHead
  command : itsipCmd head = ItsCmd.serverSet.code

/-- The loop, and whether the main loop is about to assign `RECONNECT_ON`. -/
structure BothThreads where
  loop : Loop
  mainDue : Bool

/-- Which thread acts, and what it takes from outside. -/
inductive Action where
  | client (x : Round)
  /-- The request is read only when the last one is done with. -/
  | main (r : ServerRequest)

/-- `ITS_SERVER_SET` up to the assignment of the flag, which follows when the second
component is true. -/
def storeServer (d : Device) (r : ServerRequest) : Device × Bool :=
  if r.conn.isOpen = false then (d, false)
  else
    let t := sysServerSet ⟨d, r.conn, []⟩
    (t.1.dev, decide (t.2 = .serverSetOk))

/-- One step of the system. -/
def act (s : BothThreads) : Action → BothThreads
  | .client x => { s with loop := advance s.loop x }
  | .main r =>
      let dev := s.loop.recv.dev
      if s.mainDue then
        ⟨s.loop.goto { dev with reconnectFlag := reconnectOn } s.loop.pc, false⟩
      else
        let t := storeServer dev r
        ⟨s.loop.goto t.1 s.loop.pc, t.2⟩

/-- Both threads when they start. -/
def BothThreads.start (r : Receiver) : BothThreads := ⟨Loop.start r, false⟩

/-! ## Control state -/

@[simp] theorem goto_dev (s : Loop) (dev : Device) (pc : Pc) : (s.goto dev pc).recv.dev = dev := rfl

/-- `sys_server_set` leaves the heartbeat alone. -/
theorem storeServer_sameHeartbeat (d : Device) (r : ServerRequest) :
    SameHeartbeat d (storeServer d r).1 := by
  unfold storeServer sysServerSet sysSet
  dsimp only
  by_cases hopen : r.conn.isOpen = false
  · rw [if_pos hopen]
    exact .refl d
  · rw [if_neg hopen]
    cases (webConnRecv r.conn serverSize).ok with
    | true => exact ⟨rfl, rfl, rfl⟩
    | false => exact .refl d

/-- The main loop never moves the loop of `client_process`, and touches nothing but
the flag of what that loop tests. -/
theorem act_main (s : BothThreads) (r : ServerRequest) :
    (act s (.main r)).loop.pc = s.loop.pc ∧ (act s (.main r)).loop.sock = s.loop.sock ∧
      (act s (.main r)).loop.flag = if s.mainDue then reconnectOn else s.loop.flag := by
  unfold act
  cases s.mainDue with
  | true => exact ⟨rfl, rfl, rfl⟩
  | false => exact ⟨rfl, rfl, (storeServer_sameHeartbeat _ r).flag⟩

theorem act_main_heartbeat (s : BothThreads) (r : ServerRequest) :
    (act s (.main r)).loop.recv.dev.heartbeatS = s.loop.recv.dev.heartbeatS ∧
      (act s (.main r)).loop.recv.dev.heartbeatTimeout = s.loop.recv.dev.heartbeatTimeout := by
  unfold act
  cases s.mainDue with
  | true => exact ⟨rfl, rfl⟩
  | false =>
      have hsame := storeServer_sameHeartbeat s.loop.recv.dev r
      exact ⟨hsame.period, hsame.timeout⟩

/-- A request and the assignment after it, with nothing between, are `web_cmd_proc`. -/
theorem serve_serverSet {s : BothThreads} (r r' : ServerRequest) (h : s.mainDue = false) :
    let t := act s (.main r)
    (webCmdProc r.env r.head ⟨s.loop.recv.dev, r.conn, []⟩).dev =
      if t.mainDue then (act t (.main r')).loop.recv.dev else t.loop.recv.dev := by
  rw [webCmdProc_eq r.env _ r.itsip r.command]
  simp only [act, h, storeServer]
  by_cases hopen : r.conn.isOpen = false
  · simp only [if_pos hopen]
    rfl
  · simp only [if_neg hopen, webArm]
    by_cases hok : (sysServerSet ⟨s.loop.recv.dev, r.conn, []⟩).2 = .serverSetOk
    · simp [hok, Session.answer, Session.reply]
    · simp [hok, Session.answer, Session.reply]

end Itertk.Threads.System
