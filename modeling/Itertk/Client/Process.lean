import Itertk.Client.Dispatch
import Itertk.Daemon.Config

/-!
# The loop of `client_process`

The loop counts seconds without a heartbeat, reconnects when `g_reconnect_flag` says
so, and handles what one `read` delivers.  The flag is also assigned by another
thread, so each of its tests and assignments is a step of its own; `Pc` names the
place the loop has come to.

## Main results

* `clientStep_heartbeat`, `clientStep_other` — an accepted `SET_HEARTBEAT` sets the
  flag, the period and the counter; no other packet touches them.
* `advance_move` — all that a step can do to the place, the flag and the connection.
-/

namespace Itertk.Client.Process

open Itertk.Daemon.Layout
open Itertk.Daemon.Config
open Itertk.Daemon.State
open Itertk.Client.Checks
open Itertk.Client.Dispatch

/-! ## The state of the loop -/

/-- `HEARTBEAT_TIMEOUT`. -/
def heartbeatTimeoutDefault : UInt8 := 10

/-- Where the loop is: before the statement of that name. -/
inductive Pc where
  /-- `heartbeat_timeout ++` and the comparison. -/
  | top
  /-- `set_heartbeat(HEARTBEAT_OFFLINE, HEARTBEAT_TIMEOUT)`. -/
  | offline
  /-- `g_reconnect_flag == RECONNECT_ON`. -/
  | testOn
  /-- `g_reconnect_flag == HEARTBEAT_OFFLINE`. -/
  | testOffline
  /-- The start of `client_reconnect`. -/
  | reconnect
  /-- `client_connect_server` up to the reading of the server's address. -/
  | dial
  /-- The rest of `client_connect_server`. -/
  | answer
  /-- `g_reconnect_flag = RECONNECT_OFF`. -/
  | assignOff
  /-- `g_sockfd_client <= 0`. -/
  | testSock
  /-- `g_reconnect_flag = RECONNECT_ON; continue`. -/
  | assignOn
  /-- `select`, `read`, and the handling of what was read. -/
  | read
  deriving DecidableEq, Repr

/-- The loop and the globals it works on. -/
structure Loop where
  recv : Receiver
  /-- `g_sockfd_client > 0`. -/
  sock : Bool
  pc : Pc

/-- What a step takes from outside. -/
structure Round where
  /-- The address that `dns_resolution` stores; `none` when it fails, or `socket`. -/
  resolved : Option UInt32
  /-- The connection comes about before the timeout. -/
  connects : Bool
  /-- What `read` delivers, if `select` finds something. -/
  packet : Option (Env × Packet)

/-- A round in which the server answers and sends nothing. -/
def linked : Round := ⟨some 0, true, none⟩

/-- `g_reconnect_flag`. -/
def Loop.flag (s : Loop) : Nat := s.recv.dev.reconnectFlag

/-- The loop with other globals, at another place. -/
def Loop.goto (s : Loop) (dev : Device) (pc : Pc) : Loop :=
  { s with recv := { s.recv with dev := dev }, pc := pc }

/-- The loop goes on to its next test or assignment of the flag. -/
def advance (s : Loop) (x : Round) : Loop :=
  let dev := s.recv.dev
  match s.pc with
  | .top =>
      let dev := { dev with heartbeatTimeout := dev.heartbeatTimeout + 1 }
      s.goto dev (if dev.heartbeatS.toNat < dev.heartbeatTimeout.toNat then .offline else .testOn)
  | .offline => s.goto (setHeartbeat dev heartbeatOffline heartbeatTimeoutDefault) .testOn
  | .testOn => s.goto dev (if dev.reconnectFlag = reconnectOn then .reconnect else .testOffline)
  | .testOffline =>
      s.goto dev (if dev.reconnectFlag = heartbeatOffline then .reconnect else .testSock)
  | .reconnect => { s.goto dev .dial with sock := false }
  | .dial =>
      match x.resolved with
      | none => s
      | some ip => s.goto { dev with conf := store32 dev.conf serverOff ip } .answer
  | .answer =>
      if x.connects then { s.goto dev .assignOff with sock := true }
      else s.goto { dev with reconnectFlag := reconnectOn } .dial
  | .assignOff => s.goto { dev with reconnectFlag := reconnectOff } .testSock
  | .testSock => s.goto dev (if s.sock then .read else .assignOn)
  | .assignOn => s.goto { dev with reconnectFlag := reconnectOn } .top
  | .read =>
      match x.packet with
      | none => s.goto dev .top
      | some p => { s with recv := (clientStep p.1 s.recv p.2).1, pc := .top }

/-- The loop when the thread starts. -/
def Loop.start (r : Receiver) : Loop where
  recv := { r with dev := { r.dev with
    reconnectFlag := reconnectOff
    heartbeatS := heartbeatTimeoutDefault
    heartbeatTimeout := 0 } }
  sock := false
  pc := .top

/-! ## Packets and the heartbeat -/

/-- Flag, period and counter are the same. -/
structure SameHeartbeat (d d' : Device) : Prop where
  flag : d'.reconnectFlag = d.reconnectFlag
  period : d'.heartbeatS = d.heartbeatS
  timeout : d'.heartbeatTimeout = d.heartbeatTimeout

theorem SameHeartbeat.refl (d : Device) : SameHeartbeat d d := ⟨rfl, rfl, rfl⟩

theorem SameHeartbeat.trans {d d' d'' : Device} (h : SameHeartbeat d d')
    (h' : SameHeartbeat d' d'') : SameHeartbeat d d'' :=
  ⟨h'.flag.trans h.flag, h'.period.trans h.period, h'.timeout.trans h.timeout⟩

private theorem sameHeartbeat_of_works {d d' : Device} (h : Works d d') : SameHeartbeat d d' := by
  induction h with
  | scratch h => exact ⟨h.flag, h.period, h.timeout⟩
  | save d conf => exact ⟨rfl, rfl, rfl⟩
  | trans _ _ ih ih' => exact ih.trans ih'

/-- The packet is a `SET_HEARTBEAT` that its check lets through. -/
def IsHeartbeat (r : Receiver) (p : Packet) : Prop :=
  Accepted 6 Command.setHeartbeat.code (received r.buf p) p.bytes.length

instance (r : Receiver) (p : Packet) : Decidable (IsHeartbeat r p) :=
  inferInstanceAs (Decidable (Accepted _ _ _ _))

/-- The period it brings. -/
def period (r : Receiver) (p : Packet) : UInt8 := received r.buf p 4

theorem clientStep_heartbeat (env : Env) {r : Receiver} {p : Packet} (h : IsHeartbeat r p) :
    (clientStep env r p).1.dev.reconnectFlag = heartbeatOnline ∧
      (clientStep env r p).1.dev.heartbeatS = period r p ∧
      (clientStep env r p).1.dev.heartbeatTimeout = 0 := by
  have hdev : (clientStep env r p).1.dev =
      (perform env (received r.buf p) r.dev .setHeartbeat).1 :=
    congrArg Prod.fst (clientDispatch_reaches env r.dev (Accepted.reaches h))
  rw [hdev]
  exact ⟨rfl, rfl, rfl⟩

theorem clientStep_other (env : Env) {r : Receiver} {p : Packet} (h : ¬IsHeartbeat r p) :
    SameHeartbeat r.dev (clientStep env r p).1.dev := by
  show SameHeartbeat r.dev (clientDispatch env (received r.buf p) p.bytes.length r.dev).1
  rcases clientDispatch_cases env (received r.buf p) p.bytes.length r.dev with ⟨c, hc, hd⟩ | ⟨_, hd⟩
  · rw [hd]
    apply sameHeartbeat_of_works
    apply perform_works
    rintro rfl
    exact h (hc.accepted rfl)
  · rw [hd]
    exact .refl r.dev

/-! ## One step -/

/-- The counter has passed the period. -/
def Late (s : Loop) : Prop :=
  s.recv.dev.heartbeatS.toNat < (s.recv.dev.heartbeatTimeout + 1).toNat

/-- The round brings a `SET_HEARTBEAT` that is accepted. -/
def Heard (s : Loop) (x : Round) : Prop := ∃ p ∈ x.packet, IsHeartbeat s.recv p.2

/-- The ways out of each place, with the place, the flag and the connection after. -/
inductive Move (s : Loop) (x : Round) : Pc → Nat → Bool → Prop where
  | late : s.pc = .top → Late s → Move s x .offline s.flag s.sock
  | inTime : s.pc = .top → ¬Late s → Move s x .testOn s.flag s.sock
  | offline : s.pc = .offline → Move s x .testOn heartbeatOffline s.sock
  | isOn : s.pc = .testOn → s.flag = reconnectOn → Move s x .reconnect s.flag s.sock
  | notOn : s.pc = .testOn → s.flag ≠ reconnectOn → Move s x .testOffline s.flag s.sock
  | isOffline : s.pc = .testOffline → s.flag = heartbeatOffline → Move s x .reconnect s.flag s.sock
  | notOffline : s.pc = .testOffline → s.flag ≠ heartbeatOffline → Move s x .testSock s.flag s.sock
  | reconnect : s.pc = .reconnect → Move s x .dial s.flag false
  | unresolved : s.pc = .dial → x.resolved = none → Move s x .dial s.flag s.sock
  | resolved : s.pc = .dial → x.resolved ≠ none → Move s x .answer s.flag s.sock
  | connected : s.pc = .answer → x.connects = true → Move s x .assignOff s.flag true
  | refused : s.pc = .answer → x.connects = false → Move s x .dial reconnectOn s.sock
  | assignOff : s.pc = .assignOff → Move s x .testSock reconnectOff s.sock
  | isOpen : s.pc = .testSock → s.sock = true → Move s x .read s.flag s.sock
  | isClosed : s.pc = .testSock → s.sock = false → Move s x .assignOn s.flag s.sock
  | assignOn : s.pc = .assignOn → Move s x .top reconnectOn s.sock
  | heard : s.pc = .read → Heard s x → Move s x .top heartbeatOnline s.sock
  | notHeard : s.pc = .read → ¬Heard s x → Move s x .top s.flag s.sock

theorem advance_move (s : Loop) (x : Round) :
    Move s x (advance s x).pc (advance s x).flag (advance s x).sock := by
  unfold advance
  cases hpc : s.pc with
  | top =>
      by_cases h : Late s
      · simp only [Late] at h
        simp only [if_pos h]
        exact .late hpc h
      · simp only [Late] at h
        simp only [if_neg h]
        exact .inTime hpc h
  | offline => exact .offline hpc
  | testOn =>
      by_cases h : s.recv.dev.reconnectFlag = reconnectOn
      · simp only [if_pos h]
        exact .isOn hpc h
      · simp only [if_neg h]
        exact .notOn hpc h
  | testOffline =>
      by_cases h : s.recv.dev.reconnectFlag = heartbeatOffline
      · simp only [if_pos h]
        exact .isOffline hpc h
      · simp only [if_neg h]
        exact .notOffline hpc h
  | reconnect => exact .reconnect hpc
  | dial =>
      cases h : x.resolved with
      | none =>
          have := Move.unresolved hpc h
          rw [← hpc] at this
          exact this
      | some ip => exact .resolved hpc (by rw [h]; exact Option.some_ne_none ip)
  | answer =>
      cases h : x.connects with
      | true => exact .connected hpc h
      | false => exact .refused hpc h
  | assignOff => exact .assignOff hpc
  | testSock =>
      by_cases h : s.sock = true
      · simp only [if_pos h]
        exact .isOpen hpc h
      · simp only [if_neg h]
        exact .isClosed hpc (Bool.not_eq_true _ ▸ h)
  | assignOn => exact .assignOn hpc
  | read =>
      by_cases hheard : Heard s x
      · have hmove := Move.heard hpc hheard
        obtain ⟨p, hp, hbeat⟩ := hheard
        rw [Option.mem_def.mp hp]
        rw [← (clientStep_heartbeat p.1 hbeat).1] at hmove
        exact hmove
      · have hmove := Move.notHeard hpc hheard
        cases hp : x.packet with
        | none => exact hmove
        | some p =>
            have hsame := clientStep_other p.1 (r := s.recv) (p := p.2) fun h => hheard ⟨p, hp, h⟩
            rw [Loop.flag, ← hsame.flag] at hmove
            exact hmove

/-- The same with names for what comes after. -/
theorem advance_cases (s : Loop) (x : Round) :
    ∃ pc flag sock, (advance s x).pc = pc ∧ (advance s x).flag = flag ∧
      (advance s x).sock = sock ∧ Move s x pc flag sock :=
  ⟨_, _, _, rfl, rfl, rfl, advance_move s x⟩

/-- An iteration ends after the read, or when there is no connection. -/
theorem advance_pc_top_iff (s : Loop) (x : Round) :
    (advance s x).pc = .top ↔ s.pc = .read ∨ s.pc = .assignOn := by
  obtain ⟨pc, flag, sock, hpc, -, -, hmove⟩ := advance_cases s x
  rw [hpc]
  cases hmove <;> simp [*]

theorem advance_pc_offline_iff (s : Loop) (x : Round) :
    (advance s x).pc = .offline ↔ s.pc = .top ∧ Late s := by
  obtain ⟨pc, flag, sock, hpc, -, -, hmove⟩ := advance_cases s x
  rw [hpc]
  cases hmove <;> simp [*]

end Itertk.Client.Process
