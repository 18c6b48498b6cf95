import Itertk.Base.Run
import Itertk.Base.Slots
import Itertk.Web.PortRecords

/-!
# The session threads

Each session of a port has a thread, `mode_proc`: it reads the protocol, opens a
socket as the session says, copies the session, and serves the socket until the
session differs from the copy.  `CONF_MODE` replaces all sessions of a port under the
threads, and what comes from the serial port is sent through their sockets by
`SendComDataToNet`.

A step of a thread is the reading of the protocol, the call that opens the socket,
the copy, the test of the loop, one round of serving, or the closing of all sockets.
What a round reads from the network goes to the serial port, which this module does not
follow.

## Main results

* `confMode_session` — the sessions after a request.
* `next_mode` — what a step does to the threads.
-/

namespace Itertk.Threads.ModeProc

open Itertk.Base.Chunks
open Itertk.Base.Memory
open Itertk.Base.Run
open Itertk.Base.Slots
open Itertk.Daemon.Layout
open Itertk.Daemon.State
open Itertk.Itsip.Socket
open Itertk.Itsip.Header
open Itertk.Web.Handlers
open Itertk.Web.PortRecords

/-! ## `CONFIG_SESSION` -/

/-- `sizeof(CONFIG_SESSION)`. -/
def sessionSize : Nat := 24

/-- `&con_mode[k].session[j]`. -/
def session (conf : Mem) (k j : Nat) : Mem := shift conf (modeOff k + 20 + 24 * j)

def protocol (s : Mem) : UInt32 := load32 s 0
def ip (s : Mem) : UInt32 := load32 s 4
def lport (s : Mem) : UInt32 := load32 s 8
def dport (s : Mem) : UInt32 := load32 s 12
def maxNum (s : Mem) : UInt8 := s 19

/-- `con_mode[k].mode`. -/
def workMode (conf : Mem) (k : Nat) : UInt8 := conf (modeOff k + 4)

/-- `WORK_NO`. -/
def workNo : UInt8 := 0

/-- The protocols that a socket is opened for. -/
inductive Protocol where
  | tcpCli
  | tcpSrv
  | tcpUdp
deriving DecidableEq

/-- The values of `enum TCP_PTL`. -/
def Protocol.code : Protocol → UInt32
  | .tcpCli => 1
  | .tcpSrv => 2
  | .tcpUdp => 3

/-- `none` is `TCP_NO` or a value that is no protocol. -/
def Protocol.ofWord (x : UInt32) : Option Protocol :=
  if x = 1 then some .tcpCli else if x = 2 then some .tcpSrv else if x = 3 then some .tcpUdp
  else none

/-! ## Sockets -/

/-- What a variable for a descriptor holds: 0, -1, or a socket, with the arguments of
the call that opened it. -/
inductive Sock where
  | zero
  | minusOne
  | client (ip port : UInt32)
  | listening (port : UInt32) (maxConn : UInt8)
  | udp (port : UInt32)
  | accepted
deriving DecidableEq

/-- `fd > 0`. -/
def Sock.positive : Sock → Bool
  | .zero | .minusOne => false
  | _ => true

/-- What the system calls under an opening routine come to. -/
inductive Opening where
  | descriptor
  /-- The descriptor that they give is 0. -/
  | zero
  | failed
deriving DecidableEq

/-- `socket_cli_init`. -/
def socketCliInit (x : Opening) (ip port : UInt32) : Sock :=
  match x with
  | .descriptor => .client ip port
  | .zero => .zero
  | .failed => .minusOne

/-- `socket_init`. -/
def socketInit (x : Opening) (port : UInt32) (maxConn : UInt8) : Sock :=
  match x with
  | .descriptor => .listening port maxConn
  | .zero | .failed => .minusOne

/-- `init_udp_socket`; the result of `bind` does not matter. -/
def initUdpSocket (x : Opening) (port : UInt32) : Sock :=
  match x with
  | .descriptor => .udp port
  | .zero => .zero
  | .failed => .minusOne

/-- `accept`. -/
def acceptSocket : Opening → Sock
  | .descriptor => .accepted
  | .zero => .zero
  | .failed => .minusOne

/-- The call for a protocol. -/
def openSocket (p : Protocol) (s : Mem) (x : Opening) : Sock :=
  match p with
  | .tcpCli => socketCliInit x (ip s) (dport s)
  | .tcpSrv => socketInit x (lport s) (maxNum s)
  | .tcpUdp => initUdpSocket x (lport s)

/-! ## `mode_proc` -/

/-- Where a thread stands. -/
inductive Pc where
  /-- At `AGAIN`. -/
  | again
  /-- The protocol has been read. -/
  | opening (p : Protocol)
  /-- The socket is open, the session not yet copied. -/
  | copying (p : Protocol)
  /-- Before the test of the loop. -/
  | looping
  /-- The test has let it through. -/
  | serving
  /-- The test has found a change. -/
  | closing
deriving DecidableEq

/-- `MODECONFIG`, with the local copy of the session. -/
structure ModeConfig where
  fd : Sock
  sfd : Nat → Sock
  tmp : List UInt8
  pc : Pc

/-- What the calls of a step return. -/
structure Calls where
  opening : Opening
  /-- `recv` on `fd` returns 0. -/
  hungUp : Bool
  /-- What `accept` returns, if `fd` is readable. -/
  connection : Option Opening
  /-- `recv` on `sfd[i]` returns 0. -/
  gone : Nat → Bool

/-- The new connection is put into the first `sfd` that is 0, or closed. -/
def acceptSession (sfd : Nat → Sock) : Option Opening → Nat → Sock
  | none => sfd
  | some x =>
      match firstSlot maxSession fun i => sfd i = .zero with
      | some i => Function.update sfd i (acceptSocket x)
      | none => sfd

/-- One round of serving. -/
def serve (s : Mem) (x : Calls) (md : ModeConfig) : ModeConfig :=
  match Protocol.ofWord (protocol s) with
  | some .tcpCli =>
      if x.hungUp then { md with fd := .zero, pc := .again } else { md with pc := .looping }
  | some .tcpSrv =>
      { md with
          sfd := fun i =>
            if (md.sfd i).positive ∧ x.gone i then .zero else acceptSession md.sfd x.connection i
          pc := .looping }
  | some .tcpUdp => { md with pc := .looping }
  | none => { md with pc := .looping }

/-- The test of the loop finds nothing changed. -/
def Unchanged (conf : Mem) (k j : Nat) (tmp : List UInt8) : Prop :=
  workMode conf k ≠ workNo ∧ slice (session conf k j) 0 sessionSize = tmp

instance (conf : Mem) (k j : Nat) (tmp : List UInt8) : Decidable (Unchanged conf k j tmp) :=
  inferInstanceAs (Decidable (_ ∧ _))

/-- One step of `mode_proc`. -/
def modeProc (conf : Mem) (k j : Nat) (x : Calls) (md : ModeConfig) : ModeConfig :=
  let s := session conf k j
  match md.pc with
  | .again =>
      if workMode conf k = workNo then md
      else
        match Protocol.ofWord (protocol s) with
        | some p => { md with pc := .opening p }
        | none => md
  | .opening p =>
      let fd := openSocket p s x.opening
      { md with fd := fd, pc := if fd.positive then .copying p else .again }
  | .copying _ => { md with tmp := slice s 0 sessionSize, pc := .looping }
  | .looping =>
      if Unchanged conf k j md.tmp then { md with pc := .serving } else { md with pc := .closing }
  | .serving => serve s x md
  | .closing => { md with fd := .zero, sfd := fun _ => .zero, pc := .again }

/-! ## The system -/

/-- The daemon, and the thread of every session: `mode[k][j]`. -/
structure System where
  dev : Device
  mode : Nat → Nat → ModeConfig

/-- `mode_init`. -/
def modeInit (dev : Device) : System := ⟨dev, fun _ _ => ⟨.zero, fun _ => .zero, [], .again⟩⟩

/-- A `CONF_MODE` request: its header, and the connection that brings the record. -/
structure ModeRequest where
  env : Env
  head : Mem
  conn : Conn
  valid : PortRequest .mode head

namespace ModeRequest

/-- The port that it names. -/
def port (r : ModeRequest) : Nat := Web.PortRecords.port r.head

/-- The record arrives and the requester is let through. -/
def Performed (r : ModeRequest) (d : Device) : Prop :=
  Web.PortRecords.Performed r.head ⟨d, r.conn, []⟩ modeSize

instance (r : ModeRequest) (d : Device) : Decidable (r.Performed d) :=
  inferInstanceAs (Decidable (Web.PortRecords.Performed _ _ _))

/-- The record that it brings. -/
def record (r : ModeRequest) : Mem := blit zero 0 (webConnRecv r.conn modeSize).bytes

/-- Session `j` of the record. -/
def session (r : ModeRequest) (j : Nat) : Mem := shift r.record (20 + 24 * j)

/-- `web_cmd_proc` on the request. -/
def serve (r : ModeRequest) (d : Device) : Device := (webCmdProc r.env r.head ⟨d, r.conn, []⟩).dev

end ModeRequest

/-- Who acts next. -/
inductive Turn where
  | thread (k j : Nat) (x : Calls)
  | confMode (r : ModeRequest)

/-- One step of the system. -/
def next (s : System) : Turn → System
  | .thread k j x =>
      { s with
          mode := fun k' j' =>
            if k' = k ∧ j' = j then modeProc s.dev.conf k j x (s.mode k j) else s.mode k' j' }
  | .confMode r => { s with dev := r.serve s.dev }

/-! ## `SendComDataToNet` -/

/-- A call that sends. -/
inductive NetCall where
  | send (fd : Sock) (data : List UInt8)
  | sendto (fd : Sock) (ip port : UInt32) (data : List UInt8)

/-- The calls for one session. -/
def sessionCalls (s : Mem) (md : ModeConfig) (data : List UInt8) : List NetCall :=
  match Protocol.ofWord (protocol s) with
  | some .tcpCli => if md.fd ≠ .zero then [.send md.fd data] else []
  | some .tcpSrv =>
      (((List.range maxSession).map md.sfd).filter fun fd => fd ≠ .zero).map
        fun fd => .send fd data
  | some .tcpUdp => if md.fd ≠ .zero then [.sendto md.fd (ip s) (dport s) data] else []
  | none => []

/-- `SendComDataToNet`. -/
def sendComDataToNet (s : System) (id : Nat) (data : List UInt8) : List NetCall :=
  (List.range maxSession).flatMap fun i =>
    sessionCalls (session s.dev.conf id i) (s.mode id i) data

/-! ## The sessions after a request -/

private theorem ModeRequest.serve_conf (r : ModeRequest) (d : Device) :
    (r.serve d).conf =
      if r.Performed d then blit d.conf (modeOff r.port) (webConnRecv r.conn modeSize).bytes
      else d.conf :=
  webCmdProc_mode r.env ⟨d, r.conn, []⟩ r.valid

/-- A request that is performed replaces the record of its port. -/
theorem ModeRequest.serve_hit {r : ModeRequest} {d : Device} (h : r.Performed d) {i : Nat}
    (hi : i < modeSize) : (r.serve d).conf (modeOff r.port + i) = r.record i := by
  have hlen : i < (webConnRecv r.conn modeSize).bytes.length := by
    rw [webConnRecv_ok h.1]
    exact hi
  have hrecord := blit_hit zero 0 i _ hlen
  rw [Nat.zero_add] at hrecord
  rw [r.serve_conf d, if_pos h, blit_hit _ _ _ _ hlen, record, hrecord]

private theorem ModeRequest.serve_outside {r : ModeRequest} {d : Device} {i : Nat}
    (h : r.Performed d → i < modeOff r.port ∨ modeOff r.port + modeSize ≤ i) :
    (r.serve d).conf i = d.conf i := by
  rw [r.serve_conf d]
  by_cases hperf : r.Performed d
  · rw [if_pos hperf]
    refine blit_outside _ _ ?_
    rw [webConnRecv_ok hperf.1]
    exact h hperf
  · rw [if_neg hperf]

/-- A session is the one of the request, or what it was. -/
theorem confMode_session (r : ModeRequest) (d : Device) (k : Nat) {j : Nat} (hj : j < maxSession) :
    AgreeBelow sessionSize (session (r.serve d).conf k j)
      (if r.Performed d ∧ k = r.port then r.session j else session d.conf k j) := by
  intro i hi
  simp only [sessionSize, maxSession] at hi hj
  by_cases h : r.Performed d ∧ k = r.port
  · rw [if_pos h, h.2]
    show (r.serve d).conf (modeOff r.port + 20 + 24 * j + i) = r.record (20 + 24 * j + i)
    rw [← ModeRequest.serve_hit h.1 (by simp only [modeSize]; omega), Nat.add_assoc,
      Nat.add_assoc, Nat.add_assoc]
  · rw [if_neg h]
    refine ModeRequest.serve_outside fun hperf => ?_
    have hk : k ≠ r.port := fun heq => h ⟨hperf, heq⟩
    simp only [modeOff, modeSize]
    omega

/-- Sessions with the same bytes have the same fields. -/
theorem session_congr {s s' : Mem} (h : AgreeBelow sessionSize s s') :
    protocol s = protocol s' ∧ ip s = ip s' ∧ lport s = lport s' ∧ dport s = dport s' := by
  have hword : ∀ off, off + 4 ≤ sessionSize → load32 s off = load32 s' off :=
    fun off hoff => load32_congr fun i hi => h (off + i) (by omega)
  exact ⟨hword 0 (by decide), hword 4 (by decide), hword 8 (by decide), hword 12 (by decide)⟩

theorem Protocol.ofWord_eq_some {x : UInt32} {p : Protocol} (h : Protocol.ofWord x = some p) :
    x = p.code := by
  unfold Protocol.ofWord at h
  split at h
  · rw [← Option.some.inj h]
    assumption
  · split at h
    · rw [← Option.some.inj h]
      assumption
    · split at h
      · rw [← Option.some.inj h]
        assumption
      · cases h

/-! ## What a step does -/

theorem next_mode (s : System) (k j : Nat) (x : Calls) (k' j' : Nat) :
    (next s (.thread k j x)).mode k' j' =
      if k' = k ∧ j' = j then modeProc s.dev.conf k j x (s.mode k j) else s.mode k' j' := rfl

theorem modeProc_opening {conf : Mem} {k j : Nat} {x : Calls} {md : ModeConfig} {p : Protocol}
    (h : md.pc = .opening p) :
    modeProc conf k j x md =
      let fd := openSocket p (session conf k j) x.opening
      { md with fd := fd, pc := if fd.positive then .copying p else .again } := by
  rw [modeProc, h]

theorem openSocket_positive (p : Protocol) (s : Mem) :
    (openSocket p s .descriptor).positive = true := by
  cases p <;> rfl

/-! ## A server that is made a client -/

/-- Session 0 of port 0 listens on port 80. -/
def serverConf : Mem :=
  store (store (store zero (modeOff 0 + 4) 1) (modeOff 0 + 20) 2) (modeOff 0 + 28) 80

/-- The header of a `CONF_MODE` request for port 0. -/
def modeHead : Mem := fun i =>
  if i = 0 then itsHead
  else if i = 1 then ItsCmd.confSet.code
  else if i = 32 then ConfKind.mode.code
  else 0

private theorem modeHead_valid : PortRequest .mode modeHead := ⟨rfl, rfl, rfl, by decide⟩

/-- A step in which the opening call succeeds, and nothing else happens. -/
def opens : Calls := ⟨.descriptor, false, none, fun _ => false⟩

/-- A record whose session 0 is a client. -/
def clientRecord : List UInt8 :=
  List.replicate 4 0 ++ [1] ++ List.replicate 15 0 ++ [1] ++ List.replicate 143 0

private theorem clientRecord_length : clientRecord.length = modeSize := by
  simp only [clientRecord, List.length_append, List.length_replicate, List.length_cons,
    List.length_nil, modeSize]

/-- The request that brings it, in one segment. -/
def toClient : ModeRequest where
  env := Env.idle
  head := modeHead
  conn := ⟨true, [.data clientRecord 0], [], []⟩
  valid := modeHead_valid

theorem toClient_port : toClient.port = 0 := by decide

private theorem toClient_recv :
    (webConnRecv toClient.conn modeSize).ok = true ∧
      (webConnRecv toClient.conn modeSize).bytes = clientRecord := by
  have hsolid : Solid [clientRecord] := by
    intro c hc
    rw [List.mem_singleton.mp hc]
    exact List.cons_ne_nil _ _
  have hflat : [clientRecord].flatten = clientRecord := List.append_nil _
  have hlen : modeSize ≤ [clientRecord].flatten.length :=
    Nat.le_of_eq (by rw [hflat, clientRecord_length])
  have hdelivers : Delivers toClient.conn.incoming [clientRecord] := delivers_chunks hsolid
  obtain ⟨ps, rest, hrecv, -⟩ := webConnRecv_delivers rfl hdelivers (by decide) hlen
  rw [hrecv, hflat, ← clientRecord_length, List.take_length]
  exact ⟨rfl, rfl⟩

theorem toClient_record : toClient.record = blit zero 0 clientRecord := by
  rw [ModeRequest.record, toClient_recv.2]

theorem toClient_performed : toClient.Performed (Device.start serverConf) := by
  refine ⟨toClient_recv.1, .inl ?_⟩
  rw [Device.start]
  decide

theorem toClient_session :
    AgreeBelow sessionSize (session (toClient.serve (Device.start serverConf)).conf 0 0)
      (shift (blit zero 0 clientRecord) 20) := by
  have h := confMode_session toClient (Device.start serverConf) 0 (j := 0) (by decide)
  rw [if_pos ⟨toClient_performed, toClient_port.symm⟩, ModeRequest.session, toClient_record] at h
  exact h

/-- The thread opens its listening socket, and then the request comes. -/
def switchTurns : List Turn := [.thread 0 0 opens, .thread 0 0 opens, .confMode toClient]

theorem switchTurns_dev :
    (exec next (modeInit (Device.start serverConf)) switchTurns).dev =
      toClient.serve (Device.start serverConf) := by
  rw [switchTurns, exec, exec, exec, exec, next, next, next, modeInit]

theorem switchTurns_mode :
    (exec next (modeInit (Device.start serverConf)) switchTurns).mode 0 0 =
      ⟨.listening 80 0, fun _ => .zero, [], .copying .tcpSrv⟩ := rfl

end Itertk.Threads.ModeProc
