import Mathlib.Logic.Function.Basic
import Itertk.Base.Registers
import Itertk.Base.Run
import Itertk.Web.Records

/-!
# Programs and the daemon

Any number of programs call the daemon at once, each over a connection of its own.  The
daemon serves whichever connection is readable; a connection with a structure on it is
readable again after its request was served, since `net_conn_send` puts `MAX_LENGTH` bytes
behind the header and the daemon has read fewer, and these bytes are taken for headers.  A
schedule says which connection is served when; the connections bring what was sent in any
pieces, late, or only a beginning of it.

## Main results

* `serve_first`, `serve_spent` — the request of a connection has its effect once, and what
  follows it on the connection has none.
* `linearizable` — every run is explained by one order of the calls, each of which acts on
  the records at one point of that order or not at all.
* `query_after_set` — a query brings what was set before it.
-/

namespace Itertk.Web.Exchange

open Itertk.Base.Memory
open Itertk.Base.Registers
open Itertk.Base.Run
open Itertk.Daemon.Layout
open Itertk.Daemon.State
open Itertk.Itsip.Socket
open Itertk.Itsip.Header
open Itertk.Itsip.Library
open Itertk.Itsip.Calls
open Itertk.Web.Handlers
open Itertk.Web.Framing
open Itertk.Web.Records

/-! ## The network -/

/-- The socket brings a beginning of the bytes, and a read of it fails only where the peer
has reset the connection. -/
structure Carries (ps : List RecvPoll) (bytes : List UInt8) : Prop where
  front : unread ps <+: bytes
  resets : RecvPoll.recvFailed false ∉ ps

/-- A read that does not succeed closes the connection. -/
theorem recvLoop_closes {n : Nat} {ps : List RecvPoll} (h : RecvPoll.recvFailed false ∉ ps)
    (hok : (recvLoop n ps).ok = false) : (recvLoop n ps).isOpen = false := by
  induction ps generalizing n with
  | nil => rfl
  | cons p ps ih =>
      have htail : RecvPoll.recvFailed false ∉ ps := fun hp => h (List.mem_cons_of_mem p hp)
      cases p with
      | interrupted => exact ih htail hok
      | selectFailed => rfl
      | recvFailed reset =>
          cases reset with
          | true => rfl
          | false => exact absurd List.mem_cons_self h
      | quiet elapsed =>
          rw [recvLoop] at hok ⊢
          split at hok
          · rename_i ht
            rw [if_pos ht]
          · rename_i ht
            rw [if_neg ht]
            exact ih htail hok
      | data bytes elapsed =>
          simp only [recvLoop] at hok ⊢
          split at hok
          · rename_i h0
            rw [if_pos h0]
          · rename_i h0
            rw [if_neg h0]
            split at hok
            · cases hok
            · rename_i hall
              rw [if_neg hall]
              split at hok
              · rename_i ht
                rw [if_pos ht]
              · rename_i ht
                rw [if_neg ht]
                exact ih htail hok

/-- What is left of a script holds no failure that it did not hold before. -/
theorem recvLoop_resets {n : Nat} {ps : List RecvPoll} (h : RecvPoll.recvFailed false ∉ ps) :
    RecvPoll.recvFailed false ∉ (recvLoop n ps).rest := by
  induction ps generalizing n with
  | nil => exact List.not_mem_nil
  | cons p ps ih =>
      have htail : RecvPoll.recvFailed false ∉ ps := fun hp => h (List.mem_cons_of_mem p hp)
      cases p with
      | interrupted => exact ih htail
      | selectFailed | recvFailed _ => exact htail
      | quiet elapsed =>
          rw [recvLoop]
          split
          · exact htail
          · exact ih htail
      | data bytes elapsed =>
          simp only [recvLoop]
          split
          · exact h
          · split
            · dsimp only
              split
              · exact htail
              · intro hmem
                rcases List.mem_cons.mp hmem with heq | hmem
                · cases heq
                · exact htail hmem
            · split
              · exact htail
              · exact ih htail

private theorem webConnRecv_closes {conn : Conn} {n : Nat}
    (h : RecvPoll.recvFailed false ∉ conn.incoming) (hok : (webConnRecv conn n).ok = false) :
    (webConnRecv conn n).conn.isOpen = false := by
  unfold webConnRecv at hok ⊢
  by_cases hopen : conn.isOpen = true
  · rw [if_pos hopen] at hok ⊢
    exact recvLoop_closes h hok
  · rw [if_neg hopen]
    exact Bool.eq_false_iff.mpr hopen

/-- A read that succeeds takes its bytes from the front. -/
theorem Carries.recv {conn : Conn} {bytes : List UInt8} (h : Carries conn.incoming bytes) {n : Nat}
    (hok : (webConnRecv conn n).ok = true) :
    (webConnRecv conn n).bytes = bytes.take n ∧
      Carries (webConnRecv conn n).conn.incoming (bytes.drop n) := by
  obtain ⟨hfront, hrest⟩ := webConnRecv_front hok h.front
  refine ⟨hfront, hrest, ?_⟩
  rw [webConnRecv]
  split
  · exact recvLoop_resets h.resets
  · exact h.resets

/-! ## Programs -/

/-- One call: where its packet and, for a query, its structure lie, and its end of the
connection, if there is one. -/
structure Program where
  stack : Mem
  call : Call
  dst : Mem
  connected : Bool
  conn : Conn

namespace Program

def message (p : Program) : Message := p.call.message p.stack

/-- What a setting returns. -/
def set (p : Program) : UInt8 := setCall p.connected p.conn p.message

/-- What a query returns and leaves in the structure. -/
def query (p : Program) : UInt8 × Mem :=
  queryCall (headFailed p.call) p.connected p.conn p.message p.dst

/-- What the program puts on its connection. -/
def wire (p : Program) : List UInt8 :=
  (netConnSend p.conn p.message.head p.message.block p.message.len).2.sent

/-- What the program's memory holds behind its structure does not look like requests. -/
def Harmless (p : Program) : Prop :=
  ∀ m, p.message.block = some m → ∀ k, p.message.len + headSize * (k + 1) ≤ maxLength →
    m (p.message.len + headSize * k) ≠ itsHead

end Program

/-! ## The daemon -/

/-- The daemon, with its end of every connection. -/
structure System (ι : Type) where
  dev : Device
  conns : ι → Conn
  effects : List Effect

variable {ι : Type}

/-- One call of `web_svr_proc`, for one connection. -/
def serve [DecidableEq ι] (st : System ι) (x : ι × Env) : System ι :=
  let s := webSvrProc x.2 ⟨st.dev, st.conns x.1, st.effects⟩
  ⟨s.dev, Function.update st.conns x.1 s.conn, s.effects⟩

/-- The connections are new and bring what the programs send. -/
structure Starts (programs : ι → Program) (st : System ι) : Prop where
  fresh : ∀ i, (st.conns i).sent = [] ∧ (programs i).conn.sent = []
  carries : ∀ i, Carries (st.conns i).incoming (programs i).wire

/-! ## Connections without another request -/

/-- Nothing in the bytes, taken for headers one after the other, is a header. -/
def Quiet (bytes : List UInt8) : Prop :=
  ∀ k, headSize * (k + 1) ≤ bytes.length → bytes[headSize * k]? ≠ some itsHead

private theorem quiet_nil : Quiet [] := by
  intro k hk
  simp only [List.length_nil, headSize] at hk
  omega

theorem Quiet.drop {bytes : List UInt8} (h : Quiet bytes) : Quiet (bytes.drop headSize) := by
  intro k hk
  rw [List.length_drop] at hk
  rw [List.getElem?_drop, Nat.add_comm headSize, ← Nat.mul_succ]
  refine h (k + 1) ?_
  simp only [headSize] at hk ⊢
  omega

/-- The connection is closed, or brings no header. -/
def Spent (conn : Conn) : Prop :=
  conn.isOpen = false ∨ ∃ bytes, Carries conn.incoming bytes ∧ Quiet bytes

theorem Spent.send {conn : Conn} (h : Spent conn) (head : Mem) (data : Option Mem) (len : Nat) :
    Spent (netConnSend conn head data len).2 := by
  rcases h with hclosed | ⟨bytes, hcarries, hquiet⟩
  · rw [netConnSend_closed hclosed]
    exact .inl hclosed
  · refine .inr ⟨bytes, ?_, hquiet⟩
    rw [netConnSend_incoming]
    exact hcarries

/-- What is received first is the first byte of the header. -/
theorem receivedHead_zero (env : Env) {bytes : List UInt8} (h : bytes ≠ []) :
    some (receivedHead env bytes 0) = bytes[0]? := by
  have hpos := List.length_pos_iff.mpr h
  have hhit := blit_hit (fill env.stack 0 headSize 0) 0 0 bytes hpos
  rw [List.getElem?_eq_getElem hpos, ← hhit]
  rfl

/-- The session after a read. -/
def afterRead (s : Session) : Session := { s with conn := (webConnRecv s.conn headSize).conn }

private theorem webSvrProc_closed (env : Env) {s : Session} (h : s.conn.isOpen = false) :
    webSvrProc env s = s := by
  rw [webSvrProc, if_pos h]

private theorem webSvrProc_short (env : Env) {s : Session} (hopen : s.conn.isOpen = true)
    (hok : (webConnRecv s.conn headSize).ok = false) : webSvrProc env s = afterRead s := by
  rw [webSvrProc, if_neg (by rw [hopen]; decide)]
  simp only [hok, Bool.false_eq_true, if_false]
  rfl

private theorem webSvrProc_head (env : Env) {s : Session} (hopen : s.conn.isOpen = true)
    (hok : (webConnRecv s.conn headSize).ok = true) :
    webSvrProc env s =
      webCmdProc env (receivedHead env (webConnRecv s.conn headSize).bytes) (afterRead s) := by
  rw [webSvrProc, if_neg (by rw [hopen]; decide)]
  simp only [hok, if_true]
  rfl

private theorem afterRead_sent (s : Session) : (afterRead s).conn.sent = s.conn.sent :=
  Answers.readAsked_sent s.conn (some headSize)

/-- Serving such a connection changes nothing. -/
theorem webSvrProc_spent (env : Env) {s : Session} (h : Spent s.conn) :
    (webSvrProc env s).dev = s.dev ∧ (webSvrProc env s).conn.sent = s.conn.sent ∧
      Spent (webSvrProc env s).conn := by
  cases hopen : s.conn.isOpen with
  | false =>
      rw [webSvrProc_closed env hopen]
      exact ⟨rfl, rfl, h⟩
  | true =>
      obtain ⟨bytes, hcarries, hquiet⟩ := h.resolve_left (by rw [hopen]; decide)
      cases hok : (webConnRecv s.conn headSize).ok with
      | false =>
          rw [webSvrProc_short env hopen hok]
          exact ⟨rfl, afterRead_sent s, .inl (webConnRecv_closes hcarries.resets hok)⟩
      | true =>
          rw [webSvrProc_head env hopen hok]
          obtain ⟨hbytes, hrest⟩ := hcarries.recv hok
          have hlen := webConnRecv_ok hok
          have hpos : 0 < (webConnRecv s.conn headSize).bytes.length := by
            rw [hlen]
            decide
          -- the bytes do not start as a header does
          have hhead : receivedHead env (webConnRecv s.conn headSize).bytes 0 ≠ itsHead := by
            intro heq
            have hzero := receivedHead_zero env (List.length_pos_iff.mp hpos)
            rw [heq, hbytes, List.getElem?_take_of_lt (by decide)] at hzero
            rw [hbytes, List.length_take] at hlen
            exact hquiet 0 (by omega) hzero.symm
          have hsame : webCmdProc env (receivedHead env (webConnRecv s.conn headSize).bytes)
              (afterRead s) = afterRead s := by
            rw [webCmdProc, if_pos hhead, ite_self]
          rw [hsame]
          exact ⟨rfl, afterRead_sent s, .inr ⟨_, hrest, hquiet.drop⟩⟩

/-! ## The request of a connection -/

/-- The arm of a call reads its structure, or nothing. -/
theorem asked_eq {call : Call} (hcall : InTables call) {stack head : Mem}
    (hhead : Arrives call stack head) (conf : Mem) :
    asked conf head call.cmd =
      if (call.message stack).block = none then none else some (call.message stack).len := by
  cases call with
  | userAdd | userDel | userModify => exact absurd hcall id
  | confComSet conCom flag =>
      have hkind := (hhead.port (show portCall (.confComSet conCom flag) = _ from rfl)).1
      simp only [Call.cmd, asked, hkind, ConfKind.ofByte_code]
      rfl
  | confModeSet conMode =>
      have hkind := (hhead.port (show portCall (.confModeSet conMode) = _ from rfl)).1
      simp only [Call.cmd, asked, hkind, ConfKind.ofByte_code]
      rfl
  | confLimSet conLim =>
      have hkind := (hhead.port (show portCall (.confLimSet conLim) = _ from rfl)).1
      simp only [Call.cmd, asked, hkind, ConfKind.ofByte_code]
      rfl
  | _ => rfl

/-- The connection brings the request of the program, and has not been served. -/
structure Unserved (p : Program) (conn : Conn) : Prop where
  carries : Carries conn.incoming p.wire
  sent : conn.sent = []

/-- What a program sends is a beginning of its message. -/
theorem wire_front {p : Program} (h : p.conn.sent = []) :
    p.wire <+: slice p.message.head 0 headSize ++ behindHead p.message.block p.message.len := by
  obtain ⟨front, hfront, hsent⟩ :=
    netConnSend_appends p.conn p.message.head p.message.block p.message.len
  rw [Program.wire, hsent, h, List.nil_append]
  exact hfront

/-- The first read takes the header, and leaves what is behind it. -/
theorem Unserved.recv {p : Program} (hp : p.conn.sent = []) {conn : Conn} (h : Unserved p conn)
    (hok : (webConnRecv conn headSize).ok = true) :
    (webConnRecv conn headSize).bytes = slice p.message.head 0 headSize ∧
      Carries (webConnRecv conn headSize).conn.incoming
        (behindHead p.message.block p.message.len) := by
  have hcarries : Carries conn.incoming
      (slice p.message.head 0 headSize ++ behindHead p.message.block p.message.len) :=
    ⟨h.carries.front.trans (wire_front hp), h.carries.resets⟩
  obtain ⟨hbytes, hrest⟩ := hcarries.recv hok
  rw [List.take_left' (slice_length _ _ _)] at hbytes
  rw [List.drop_left' (slice_length _ _ _)] at hrest
  exact ⟨hbytes, hrest⟩

/-- Behind the structure nothing is a header. -/
theorem quiet_tail {p : Program} (h : p.Harmless) {m : Mem} (hm : p.message.block = some m) :
    Quiet ((slice m 0 maxLength).drop p.message.len) := by
  intro k hk hhead
  rw [List.length_drop, slice_length] at hk
  rw [List.getElem?_drop, getElem?_slice, if_pos (by simp only [headSize] at hk ⊢; omega),
    Nat.zero_add] at hhead
  refine h m hm k ?_ (Option.some.inj hhead)
  simp only [headSize] at hk ⊢
  omega

/-- When the arm has read what it asks for, the connection is spent. -/
theorem spent_readAsked {p : Program} (hcall : InTables p.call) (hharmless : p.Harmless)
    {head : Mem} (hhead : Arrives p.call p.stack head) {conn : Conn} (conf : Mem)
    (h : Carries conn.incoming (behindHead p.message.block p.message.len)) :
    Spent (readAsked conn (asked conf head p.call.cmd)) := by
  have hasked : asked conf head p.call.cmd =
      if p.message.block = none then none else some p.message.len := asked_eq hcall hhead conf
  cases hblock : p.message.block with
  | none =>
      rw [hasked, if_pos hblock]
      rw [hblock] at h
      exact .inr ⟨[], h, quiet_nil⟩
  | some m =>
      have hne : p.message.block ≠ none := by
        rw [hblock]
        exact Option.some_ne_none m
      have hpos : p.message.len > 0 := (message_len_pos_iff p.stack p.call).mpr hne
      rw [hblock, behindHead, if_pos hpos] at h
      rw [hasked, if_neg hne]
      show Spent (webConnRecv conn p.message.len).conn
      cases hok : (webConnRecv conn p.message.len).ok with
      | false => exact .inl (webConnRecv_closes h.resets hok)
      | true => exact .inr ⟨_, (h.recv hok).2, quiet_tail hharmless hblock⟩

/-- The answer that says nothing. -/
def noAnswer : Answer := ⟨zero, []⟩

private theorem tells_noAnswer (call : Call) (records : Cell → List UInt8) :
    Tells call records false noAnswer := by
  unfold Tells
  cases hop : op call with
  | set ok =>
      intro hzero
      exact absurd (hzero ▸ List.mem_cons_self) (op_set_code hop)
  | query c => exact .inl rfl
  | other => trivial

/-- Nothing has been done for the call. -/
theorem served_nothing {call : Call} {s s' : Session} (hdev : s'.dev = s.dev)
    (hsent : s'.conn.sent = s.conn.sent) : Served call s s' false noAnswer where
  records c := by
    rw [hdev]
    rfl
  tells := tells_noAnswer call _
  sent := ⟨[], List.nil_prefix, by rw [hsent, List.append_nil]⟩

/-- The first time a connection is served, its call is served or nothing happens, and
then it is spent. -/
theorem webSvrProc_first (env : Env) {p : Program} (hcall : InTables p.call)
    (hharmless : p.Harmless) (hp : p.conn.sent = []) {s : Session} (h : Unserved p s.conn) :
    ∃ took a, Served p.call s (webSvrProc env s) took a ∧ Spent (webSvrProc env s).conn := by
  cases hopen : s.conn.isOpen with
  | false =>
      rw [webSvrProc_closed env hopen]
      exact ⟨_, _, served_nothing rfl rfl, .inl hopen⟩
  | true =>
      cases hok : (webConnRecv s.conn headSize).ok with
      | false =>
          rw [webSvrProc_short env hopen hok]
          exact ⟨_, _, served_nothing rfl (afterRead_sent s),
            .inl (webConnRecv_closes h.carries.resets hok)⟩
      | true =>
          obtain ⟨hbytes, hrest⟩ := h.recv hp hok
          rw [webSvrProc_head env hopen hok, hbytes]
          have hhead : Arrives p.call p.stack
              (receivedHead env (slice p.message.head 0 headSize)) := fun i hi =>
            receivedHead_apply env p.message.head hi
          cases hopen' : (afterRead s).conn.isOpen with
          | false =>
              rw [webCmdProc, if_pos hopen']
              exact ⟨_, _, served_nothing rfl (afterRead_sent s), .inl hopen'⟩
          | true =>
              have harm : webCmdProc env (receivedHead env (slice p.message.head 0 headSize))
                  (afterRead s) = webArm env (receivedHead env (slice p.message.head 0 headSize))
                    (afterRead s) p.call.cmd :=
                webCmdProc_request ⟨env, p.stack, p.call⟩ env hopen'
              rw [harm]
              obtain ⟨took, a, hserved⟩ :=
                @webArm_served env p.call hcall p.stack _ hhead (afterRead s) hrest.front
              refine ⟨took, a, ⟨hserved.records, hserved.tells, ?_⟩, ?_⟩
              · rw [← afterRead_sent s]
                exact hserved.sent
              · have hspent := spent_readAsked hcall hharmless hhead (afterRead s).dev.conf hrest
                rcases webArm_conn env (receivedHead env (slice p.message.head 0 headSize))
                  (afterRead s) p.call.cmd with hconn | ⟨m, data, len, hconn⟩
                · rw [hconn]
                  exact hspent
                · rw [hconn]
                  exact hspent.send m data len

/-! ## Calls that have been served -/

/-- What the programs' calls do to the records. -/
def act (programs : ι → Program) (i : ι) : Cell → List UInt8 → List UInt8 :=
  effect (programs i).call

/-- What the calls of a log, the oldest first, make of the records. -/
def after (programs : ι → Program) (init : Mem) (log : List ι) (c : Cell) : List UInt8 :=
  replay (act programs) log c (record init c)

/-- The calls that a service adds to the log. -/
def logged (took : Bool) (i : ι) : List ι := if took = true then [i] else []

private theorem after_logged (programs : ι → Program) (init : Mem) (log : List ι) (took : Bool)
    (i : ι) (c : Cell) : after programs init (log ++ logged took i) c =
      if took = true then effect (programs i).call c (after programs init log c)
      else after programs init log c := by
  cases took with
  | true => exact replay_concat (act programs) log i c _
  | false =>
      show after programs init (log ++ []) c = _
      rw [List.append_nil]
      rfl

/-- What the daemon has sent to program `i` is a beginning of an answer to its call: the log
had the front part when the call was served, and has the call behind it if it took effect. -/
def Told (programs : ι → Program) (init : Mem) (log : List ι) (i : ι) (sent : List UInt8) : Prop :=
  ∃ front took rest a, log = front ++ logged took i ++ rest ∧
    Tells (programs i).call (after programs init front) took a ∧
    sent <+: slice a.head 0 headSize ++ a.block

/-- Later calls do not change what a program was told. -/
theorem Told.later {programs : ι → Program} {init : Mem} {log : List ι} {i : ι}
    {sent : List UInt8} (h : Told programs init log i sent) (more : List ι) :
    Told programs init (log ++ more) i sent := by
  obtain ⟨front, took, rest, a, hlog, htells, hsent⟩ := h
  exact ⟨front, took, rest ++ more, a, by rw [hlog, List.append_assoc], htells, hsent⟩

private theorem told_nothing (programs : ι → Program) (init : Mem) (log : List ι) (i : ι) :
    Told programs init log i [] :=
  ⟨log, false, [], noAnswer, by simp [logged], tells_noAnswer _ _, List.nil_prefix⟩

/-! ## What the programs see -/

/-- The header that the peer's bytes start with is the header that was sent. -/
theorem headOf_front {head m : Mem} {bytes block rest : List UInt8} (h : HeadOf head bytes)
    (hfront : bytes ++ rest <+: slice m 0 headSize ++ block) :
    (∀ i, i < headSize → head i = m i) ∧ rest <+: block := by
  obtain ⟨more, hmore⟩ := hfront
  rw [List.append_assoc] at hmore
  obtain ⟨hbytes, hrest⟩ := List.append_inj hmore (h.length.trans (slice_length _ _ _).symm)
  refine ⟨fun i hi => ?_, more, hrest⟩
  have heq := (slice_eq_iff head m 0 0 headSize).mp (h.holds.trans hbytes) i hi
  rw [Nat.zero_add] at heq
  exact heq

/-- A setting that reports success took effect, unless the limits of its port were on. -/
theorem Told.set {programs : ι → Program} {init : Mem} {log : List ι} {i : ι} {sent : List UInt8}
    (h : Told programs init log i sent)
    (hnet : unread (programs i).conn.incoming <+: sent) {ok : UInt8}
    (hop : op (programs i).call = .set ok) (hok : (programs i).set = ok) :
    i ∈ log ∨ ∃ front, front <+: log ∧ Limited (after programs init front) (programs i).call := by
  obtain ⟨front, took, rest, a, hlog, htells, hsent⟩ := h
  obtain ⟨head, bytes, hhead, hbytes, hdata⟩ :=
    setCall_ok hok fun hmem => op_set_code hop (List.mem_cons_of_mem _ hmem)
  rw [← List.append_nil bytes] at hbytes
  obtain ⟨hsame, -⟩ := headOf_front hhead (hbytes.trans (hnet.trans hsent))
  rw [Tells, hop] at htells
  have htook := htells ((hsame 32 (by decide)).symm.trans hdata)
  cases took with
  | true =>
      refine .inl ?_
      rw [hlog]
      simp [logged]
  | false =>
      refine .inr ⟨front, ?_, htook.resolve_left (by decide)⟩
      rw [hlog, List.append_assoc]
      exact List.prefix_append _ _

/-- A query that succeeds has brought the record as the calls before it left it, or was
turned down. -/
theorem Told.query {programs : ι → Program} {init : Mem} {log : List ι} {i : ι} {sent : List UInt8}
    (h : Told programs init log i sent)
    (hnet : unread (programs i).conn.incoming <+: sent) {c : Cell}
    (hop : op (programs i).call = .query c) (hok : (programs i).query.1 = queryOk) :
    (programs i).query.2 = (programs i).dst ∨ ∃ front rest, log = front ++ i :: rest ∧
      (programs i).query.2 = blit (programs i).dst 0 (after programs init (front ++ [i]) c) := by
  obtain ⟨front, took, rest, a, hlog, htells, hsent⟩ := h
  have hresult : (programs i).query = (queryOk, (programs i).query.2) := Prod.ext hok rfl
  obtain ⟨head, bytes, block, hhead, hbytes, hlen, hdst⟩ := queryCall_ok hresult
  obtain ⟨hsame, hblock⟩ := headOf_front hhead (hbytes.trans (hnet.trans hsent))
  have hextlen : itsipExtlen head = itsipExtlen a.head := by
    rw [itsipExtlen, itsipExtlen, hsame 4 (by decide), hsame 5 (by decide)]
  rw [Tells, hop] at htells
  rcases htells with hnone | ⟨htook, hsize, hrecord⟩
  · refine .inl ?_
    rw [hextlen, hnone] at hlen
    rw [hdst, List.length_eq_zero_iff.mp hlen, blit_nil]
  · refine .inr ⟨front, rest, ?_, ?_⟩
    · rw [hlog, htook]
      exact List.append_cons _ _ _ ▸ rfl
    · rw [hextlen, hsize] at hlen
      rw [hdst, List.prefix_iff_eq_take.mp hblock, hlen, hrecord]
      have hafter := after_logged programs init front true i c
      rw [if_pos rfl] at hafter
      rw [← hafter]
      rfl

/-! ## Runs -/

variable [DecidableEq ι]

/-- The records, the connections and the log of a run. -/
structure Explains (programs : ι → Program) (init : Mem) (served log : List ι) (st : System ι) :
    Prop where
  records : ∀ c, record st.dev.conf c = after programs init log c
  order : log.Sublist (firsts served)
  waiting : ∀ i, i ∉ firsts served → Unserved (programs i) (st.conns i)
  spent : ∀ i, i ∈ firsts served → Spent (st.conns i)
  told : ∀ i, Told programs init log i (st.conns i).sent

theorem explains_start {programs : ι → Program} {st : System ι} (h : Starts programs st) :
    Explains programs st.dev.conf [] [] st where
  records _ := rfl
  order := List.Sublist.refl []
  waiting i _ := ⟨h.carries i, (h.fresh i).1⟩
  spent _ hi := absurd hi List.not_mem_nil
  told i := by
    rw [(h.fresh i).1]
    exact told_nothing programs _ [] i

/-- The call is one of the model, on a new connection, and what lies behind its structure
does no harm. -/
structure WellBehaved (p : Program) : Prop where
  inTables : InTables p.call
  harmless : p.Harmless
  fresh : p.conn.sent = []

private theorem serve_conn_self (st : System ι) (i : ι) (env : Env) :
    (serve st (i, env)).conns i = (webSvrProc env ⟨st.dev, st.conns i, st.effects⟩).conn :=
  Function.update_self _ _ _

private theorem serve_conn_other (st : System ι) {i j : ι} (h : j ≠ i) (env : Env) :
    (serve st (i, env)).conns j = st.conns j :=
  Function.update_of_ne h _ _

/-- Serving a connection for the first time. -/
theorem serve_first {programs : ι → Program} {init : Mem} {served log : List ι} {st : System ι}
    (h : Explains programs init served log st) {i : ι} (hi : i ∉ firsts served)
    (hp : WellBehaved (programs i)) (env : Env) :
    ∃ log', Explains programs init (served ++ [i]) log' (serve st (i, env)) := by
  have hwaiting := h.waiting i hi
  obtain ⟨took, a, hserved, hspent⟩ := @webSvrProc_first env (programs i) hp.inTables hp.harmless
    hp.fresh ⟨st.dev, st.conns i, st.effects⟩ hwaiting
  have hfirsts : firsts (served ++ [i]) = firsts served ++ [i] := by
    rw [firsts_concat, if_neg hi]
  refine ⟨log ++ logged took i, ⟨fun c => ?_, ?_, fun j hj => ?_, fun j hj => ?_, fun j => ?_⟩⟩
  · rw [after_logged, ← h.records c]
    exact hserved.records c
  · rw [hfirsts]
    refine h.order.append ?_
    cases took with
    | true => exact List.Sublist.refl [i]
    | false => exact List.nil_sublist [i]
  · rw [hfirsts, List.mem_append, List.mem_singleton, not_or] at hj
    rw [serve_conn_other st hj.2]
    exact h.waiting j hj.1
  · by_cases hji : j = i
    · rw [hji, serve_conn_self]
      exact hspent
    · rw [hfirsts, List.mem_append, List.mem_singleton] at hj
      rw [serve_conn_other st hji]
      exact h.spent j (hj.resolve_right hji)
  · by_cases hji : j = i
    · have htells := hserved.tells
      rw [show record st.dev.conf = after programs init log from funext h.records] at htells
      obtain ⟨front, hfront, hsent⟩ := hserved.sent
      rw [hji, serve_conn_self, hsent, show (st.conns i).sent = [] from hwaiting.sent,
        List.nil_append]
      exact ⟨log, took, [], a, (List.append_nil _).symm, htells, hfront⟩
    · rw [serve_conn_other st hji]
      exact (h.told j).later _

/-- Serving it again. -/
theorem serve_spent {programs : ι → Program} {init : Mem} {served log : List ι} {st : System ι}
    (h : Explains programs init served log st) {i : ι} (hi : i ∈ firsts served) (env : Env) :
    Explains programs init (served ++ [i]) log (serve st (i, env)) := by
  obtain ⟨hdev, hsent, hspent⟩ :=
    @webSvrProc_spent env ⟨st.dev, st.conns i, st.effects⟩ (h.spent i hi)
  have hfirsts : firsts (served ++ [i]) = firsts served := by
    rw [firsts_concat, if_pos hi]
  refine ⟨fun c => ?_, ?_, fun j hj => ?_, fun j hj => ?_, fun j => ?_⟩
  · rw [← h.records c]
    exact congrArg (fun d => record (Device.conf d) c) hdev
  · rw [hfirsts]
    exact h.order
  · rw [hfirsts] at hj
    rw [serve_conn_other st fun hji => hj (by rw [hji]; exact hi)]
    exact h.waiting j hj
  · by_cases hji : j = i
    · rw [hji, serve_conn_self]
      exact hspent
    · rw [hfirsts] at hj
      rw [serve_conn_other st hji]
      exact h.spent j hj
  · by_cases hji : j = i
    · rw [hji, serve_conn_self, hsent]
      exact h.told i
    · rw [serve_conn_other st hji]
      exact h.told j

/-- Every run has a log that explains it. -/
theorem explains_run {programs : ι → Program} (hp : ∀ i, WellBehaved (programs i)) {init : Mem}
    (schedule : List (ι × Env)) {served log : List ι} {st : System ι}
    (h : Explains programs init served log st) :
    ∃ log', Explains programs init (served ++ schedule.map Prod.fst) log'
      (exec serve st schedule) := by
  induction schedule generalizing served log st with
  | nil =>
      rw [List.map_nil, List.append_nil]
      exact ⟨log, h⟩
  | cons x schedule ih =>
      obtain ⟨i, env⟩ := x
      rw [List.map_cons, List.append_cons]
      by_cases hi : i ∈ firsts served
      · exact ih (serve_spent h hi env)
      · obtain ⟨log', hlog'⟩ := serve_first h hi (hp i) env
        exact ih hlog'

/-- In a run that a log explains, a query brings what a setting before it made of the record,
unless the query was turned down or the setting met limits. -/
theorem Explains.read_back {programs : ι → Program} {init : Mem} {served log : List ι}
    {st : System ι} (h : Explains programs init served log st) {s q : ι}
    (hnets : unread (programs s).conn.incoming <+: (st.conns s).sent)
    (hnetq : unread (programs q).conn.incoming <+: (st.conns q).sent)
    {before between behind : List ι}
    (horder : firsts served = (before ++ s :: between) ++ q :: behind) {ok : UInt8}
    (hset : op (programs s).call = .set ok) (hok : (programs s).set = ok) {c : Cell}
    (hkept : ∀ j ∈ between ++ [q], ∀ old, effect (programs j).call c old = old)
    (hquery : op (programs q).call = .query c) (hdst : (programs q).query.1 = queryOk) :
    (∃ old, (programs q).query.2 = blit (programs q).dst 0 (effect (programs s).call c old)) ∨
      (programs q).query.2 = (programs q).dst ∨
      ∃ calls, calls.Sublist (firsts served) ∧
        Limited (after programs init calls) (programs s).call := by
  have hnodup := firsts_nodup served
  have hsub := h.order
  rw [horder] at hnodup hsub
  rcases (h.told q).query hnetq hquery hdst with hsame | ⟨front, rest, hsplit, hrecord⟩
  · exact .inr (.inl hsame)
  · rcases (h.told s).set hnets hset hok with hmem | ⟨calls, hcalls, hlimited⟩
    · -- the log is split as the schedule is, at the query and then at the setting
      rw [hsplit] at hsub hmem
      obtain ⟨hfront, hrest⟩ := sublist_split hsub hnodup
      obtain ⟨hnodup', -, hapart⟩ := List.nodup_append.mp hnodup
      have hs : s ∈ front := by
        rcases List.mem_append.mp hmem with hs | hs
        · exact hs
        · have hmem' := (hrest.cons_cons q).subset hs
          exact absurd rfl (hapart s (List.mem_append_right _ List.mem_cons_self) s hmem')
      obtain ⟨before', between', rfl⟩ := List.append_of_mem hs
      have hbetween := (sublist_split hfront hnodup').2
      have hidle : ∀ j ∈ between' ++ [q], ∀ old, act programs j c old = old := by
        intro j hj
        refine hkept j ?_
        rcases List.mem_append.mp hj with hj | hj
        · exact List.mem_append_left _ (hbetween.subset hj)
        · exact List.mem_append_right _ hj
      refine .inl ⟨replay (act programs) before' c (record init c), ?_⟩
      rw [hrecord, after, List.append_assoc, List.cons_append, replay_last hidle]
      rfl
    · exact .inr (.inr ⟨calls, hcalls.sublist.trans h.order, hlimited⟩)

/-! ## A setting and a query -/

/-- One program sets the VLAN record, another queries it. -/
def someCall : Bool → Call
  | false => .vlanSet (store zero 0 1)
  | true => .vlanQuery [114]

/-- The programs, to which the daemon's answers come in one piece. -/
def somePrograms (answers : Bool → List UInt8) (i : Bool) : Program :=
  ⟨zero, someCall i, zero, true, ⟨true, [.data (answers i) 0], [], []⟩⟩

/-- The daemon, to which their requests come in one piece. -/
def someSystem : System Bool :=
  ⟨Device.start zero, fun i => ⟨true, [.data (transmitted ((someCall i).message zero)) 0], [], []⟩,
    []⟩

/-- The requests are served once, the setting first. -/
def someSchedule : List (Bool × Env) := [(false, Env.idle), (true, Env.idle)]

/-- What the daemon answers. -/
def someAnswers (i : Bool) : List UInt8 := ((exec serve someSystem someSchedule).conns i).sent

theorem wellBehaved_some (answers : Bool → List UInt8) (i : Bool) :
    WellBehaved (somePrograms answers i) where
  inTables := by cases i <;> trivial
  harmless m hm k _ := by
    cases i with
    | true => cases hm
    | false =>
        cases hm
        show store zero 0 1 (vlanSize + headSize * k) ≠ itsHead
        rw [store_ne _ _ (by simp only [vlanSize]; omega)]
        exact (by decide : (0 : UInt8) ≠ itsHead)
  fresh := rfl

theorem starts_some (answers : Bool → List UInt8) : Starts (somePrograms answers) someSystem where
  fresh _ := ⟨rfl, rfl⟩
  carries i := by
    have hsent := netConnSend_sent (@netConnSend_willing (somePrograms answers i).conn rfl
      .nil (somePrograms answers i).message.head (somePrograms answers i).message.block
      (somePrograms answers i).message.len).1
    refine ⟨⟨[], ?_⟩, by simp [someSystem]⟩
    rw [Program.wire, hsent, List.append_nil]
    show transmitted _ ++ [] = _
    rw [List.append_nil, transmitted_eq]
    rfl

theorem brings_someAnswers (i : Bool) :
    unread (somePrograms someAnswers i).conn.incoming <+:
      ((exec serve someSystem someSchedule).conns i).sent := by
  show someAnswers i ++ [] <+: _
  rw [List.append_nil]
  exact List.prefix_refl _

/-! ## The results of a run -/

/-- What the programs can tell from their results is as if their calls had been made one
after the other, in the order in which their connections were first served: every call in
the log acts on the records at its place in it, every other call not at all. -/
theorem linearizable {programs : ι → Program} (hp : ∀ i, WellBehaved (programs i)) {st : System ι}
    (hstart : Starts programs st) (schedule : List (ι × Env))
    (hnet : ∀ i, unread (programs i).conn.incoming <+: ((exec serve st schedule).conns i).sent) :
    ∃ log : List ι, log.Sublist (firsts (schedule.map Prod.fst)) ∧
      (∀ c, record (exec serve st schedule).dev.conf c = after programs st.dev.conf log c) ∧
      (∀ i ok, op (programs i).call = .set ok → (programs i).set = ok →
        i ∈ log ∨ ∃ front, front <+: log ∧
          Limited (after programs st.dev.conf front) (programs i).call) ∧
      (∀ i c, op (programs i).call = .query c → (programs i).query.1 = queryOk →
        (programs i).query.2 = (programs i).dst ∨ ∃ front rest, log = front ++ i :: rest ∧
          (programs i).query.2 =
            blit (programs i).dst 0 (after programs st.dev.conf (front ++ [i]) c)) := by
  obtain ⟨log, hlog⟩ := explains_run hp schedule (explains_start hstart)
  rw [List.nil_append] at hlog
  refine ⟨log, hlog.order, hlog.records, fun i ok hop hok => ?_, fun i c hop hok => ?_⟩
  · exact (hlog.told i).set (hnet i) hop hok
  · exact (hlog.told i).query (hnet i) hop hok

theorem linearizable_some : ∃ log : List Bool,
    log.Sublist (firsts (someSchedule.map Prod.fst)) ∧
      (∀ c, record (exec serve someSystem someSchedule).dev.conf c =
        after (somePrograms someAnswers) someSystem.dev.conf log c) ∧
      (∀ i ok, op (somePrograms someAnswers i).call = .set ok →
        (somePrograms someAnswers i).set = ok → i ∈ log ∨ ∃ front, front <+: log ∧
          Limited (after (somePrograms someAnswers) someSystem.dev.conf front)
            (somePrograms someAnswers i).call) ∧
      (∀ i c, op (somePrograms someAnswers i).call = .query c →
        (somePrograms someAnswers i).query.1 = queryOk →
        (somePrograms someAnswers i).query.2 = (somePrograms someAnswers i).dst ∨
          ∃ front rest, log = front ++ i :: rest ∧
            (somePrograms someAnswers i).query.2 = blit (somePrograms someAnswers i).dst 0
              (after (somePrograms someAnswers) someSystem.dev.conf (front ++ [i]) c)) :=
  linearizable (wellBehaved_some someAnswers) (starts_some someAnswers) someSchedule
    brings_someAnswers

/-- A record that has been set is what a later query brings, if nothing that is served
between the two acts on it. -/
theorem query_after_set {programs : ι → Program} (hp : ∀ i, WellBehaved (programs i))
    {st : System ι} (hstart : Starts programs st) (schedule : List (ι × Env))
    (hnet : ∀ i, unread (programs i).conn.incoming <+: ((exec serve st schedule).conns i).sent)
    {s q : ι} {before between behind : List ι}
    (horder : firsts (schedule.map Prod.fst) = (before ++ s :: between) ++ q :: behind)
    {ok : UInt8} (hset : op (programs s).call = .set ok) (hok : (programs s).set = ok) {c : Cell}
    {block : List UInt8} (hwrites : ∀ old, effect (programs s).call c old = block)
    (hkept : ∀ j ∈ between ++ [q], ∀ old, effect (programs j).call c old = old)
    (hquery : op (programs q).call = .query c) (hdst : (programs q).query.1 = queryOk) :
    (programs q).query.2 = blit (programs q).dst 0 block ∨
      (programs q).query.2 = (programs q).dst ∨
      ∃ calls, calls.Sublist (firsts (schedule.map Prod.fst)) ∧
        Limited (after programs st.dev.conf calls) (programs s).call := by
  obtain ⟨log, hlog⟩ := explains_run hp schedule (explains_start hstart)
  rw [List.nil_append] at hlog
  rcases hlog.read_back (hnet s) (hnet q) horder hset hok hkept hquery hdst with ⟨old, hold⟩ | hrest
  · rw [hwrites] at hold
    exact .inl hold
  · exact .inr hrest

theorem query_after_set_some :
    (somePrograms someAnswers true).query.2 = blit zero 0 (slice (store zero 0 1) 0 vlanSize) ∨
      (somePrograms someAnswers true).query.2 = zero ∨
      ∃ calls, calls.Sublist (firsts (someSchedule.map Prod.fst)) ∧
        Limited (after (somePrograms someAnswers) someSystem.dev.conf calls) (someCall false) :=
  @query_after_set Bool _ (somePrograms someAnswers) (wellBehaved_some someAnswers) someSystem
    (starts_some someAnswers) someSchedule brings_someAnswers false true [] [] [] rfl
    CmdCode.vlanSetOk.code rfl (by decide +kernel) .vlan (slice (store zero 0 1) 0 vlanSize)
    (fun _ => rfl) (fun j hj old => by rw [List.mem_singleton.mp hj]; rfl) rfl (by decide +kernel)

end Itertk.Web.Exchange
