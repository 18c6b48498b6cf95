import Itertk.Itsip.Library
import Itertk.Web.Handlers

/-!
# ITSIP framing

`net_conn_send` puts `MAX_LENGTH` bytes behind the header of every request with a
structure, whatever length it is given and the header declares; the daemon reads
the length of the structure.  A request without a structure is 56 bytes at both
ends.

## Main results

* `serve_headOnly` — after a request without a structure, the daemon has read
  exactly what was sent for it.
* `serve_block` — after one with a structure, sent bytes of it are still unread.
* `framed_iff` — the two ends stay in step over a whole exchange exactly when no
  request has a structure.
-/

namespace Itertk.Web.Framing

open Itertk.Base.Memory
open Itertk.Daemon.Layout
open Itertk.Daemon.State
open Itertk.Itsip.Socket
open Itertk.Itsip.Header
open Itertk.Itsip.Library
open Itertk.Web.Users
open Itertk.Web.Handlers

/-! ## Exchanges -/

/-- One request: what the daemon takes from outside when it serves it, the stack the
packet lay on, and the call. -/
structure Request where
  env : Env
  stack : Mem
  call : Call

/-- What the call hands to `net_conn_send`. -/
def Request.message (r : Request) : Message := r.call.message r.stack

/-- The request is a header without a structure. -/
def Request.HeadOnly (r : Request) : Prop := r.message.block = none

/-- What is sent for the requests. -/
def wire (rs : List Request) : List UInt8 := rs.flatMap fun r => transmitted r.message

/-- The connection is open, takes the answers, and brings these bytes, in any
segmentation, without timeout or error. -/
structure Brings (conn : Conn) (bytes : List UInt8) : Prop where
  isOpen : conn.isOpen = true
  willing : Willing conn.outgoing
  delivers : ∃ cs, Delivers conn.incoming cs ∧ cs.flatten = bytes

/-- Requests that `itslib` sends on one connection, and the session that finds their
bytes at the daemon's end. -/
structure Exchange where
  client : Conn
  requests : List Request
  session : Session
  connected : client.isOpen = true ∧ client.sent = []
  willing : Willing client.outgoing
  brings : Brings session.conn (sendAll client (requests.map Request.message)).sent

/-- For each request in turn: the bytes the daemon reads as a header are the header
sent, and when it has handled the request, what it has not read is what was sent for
the requests after it. -/
def Framed (s : Session) : List Request → Prop
  | [] => True
  | r :: rs =>
      (webConnRecv s.conn headSize).bytes = slice r.message.head 0 headSize ∧
        unread (webSvrProc r.env s).conn.incoming = wire rs ∧
        Framed (webSvrProc r.env s) rs

/-! ## Connections that bring bytes -/

theorem Brings.unread {conn : Conn} {bytes : List UInt8} (h : Brings conn bytes) :
    unread conn.incoming = bytes := by
  obtain ⟨cs, hcs, hflat⟩ := h.delivers
  rw [hcs.unread, hflat]

/-- A read of the right length takes what lies in front. -/
theorem Brings.recv {conn : Conn} {front rest : List UInt8} (h : Brings conn (front ++ rest))
    (hpos : 0 < front.length) :
    ∃ conn', webConnRecv conn front.length = ⟨true, front, conn'⟩ ∧ Brings conn' rest := by
  obtain ⟨cs, hcs, hflat⟩ := h.delivers
  have hlen : front.length ≤ cs.flatten.length := by
    rw [hflat, List.length_append]
    omega
  obtain ⟨ps, chunks, hrecv, hps, hrest⟩ := webConnRecv_delivers h.isOpen hcs hpos hlen
  refine ⟨{ conn with incoming := ps }, ?_, h.isOpen, h.willing, chunks, hps, ?_⟩
  · rw [hrecv, hflat, List.take_left]
  · rw [hrest, hflat, List.drop_left]

/-- An answer leaves what is to be read. -/
theorem Brings.send {conn : Conn} {bytes : List UInt8} (h : Brings conn bytes) (head : Mem)
    (data : Option Mem) (len : Nat) : Brings (netConnSend conn head data len).2 bytes := by
  obtain ⟨_, hopen, hwilling⟩ := netConnSend_willing h.isOpen h.willing head data len
  refine ⟨hopen, hwilling, ?_⟩
  rw [netConnSend_incoming]
  exact h.delivers

/-- A read of at most `n` bytes leaves all but `n`. -/
theorem length_unread_webConnRecv (conn : Conn) (n : Nat) :
    (unread conn.incoming).length ≤ (unread (webConnRecv conn n).conn.incoming).length + n := by
  rw [webConnRecv]
  by_cases hopen : conn.isOpen = true
  · rw [if_pos hopen]
    obtain ⟨hstream, hlen⟩ := recvLoop_unread n conn.incoming
    have hlength := congrArg List.length hstream
    rw [List.length_append] at hlength
    show _ ≤ (unread (recvLoop n conn.incoming).rest).length + n
    omega
  · rw [if_neg hopen]
    exact Nat.le_add_right _ _

/-! ## The header of a request -/

/-- The header as the daemon has it. -/
theorem receivedHead_apply (env : Env) (m : Mem) {i : Nat} (hi : i < headSize) :
    receivedHead env (slice m 0 headSize) i = m i := by
  have hlen : i < (slice m 0 headSize).length := by
    rw [slice_length]
    exact hi
  have hhit := blit_hit (fill env.stack 0 headSize 0) 0 i _ hlen
  rw [Nat.zero_add, getElem_slice, Nat.zero_add] at hhit
  exact hhit

/-- Its first bytes are those that `itsip_pack` has set. -/
theorem receivedHead_packed (r : Request) (env : Env) {i : Nat} (hi : i < 8) :
    receivedHead env (slice r.message.head 0 headSize) i =
      itsipPack r.stack r.call.cmd.code (UInt16.ofNat r.message.len) 0 i := by
  rw [receivedHead_apply _ _ (by simp only [headSize]; omega)]
  exact message_head r.stack r.call hi

/-- The arm that serves a request. -/
theorem webCmdProc_request (r : Request) (env : Env) {s : Session} (hopen : s.conn.isOpen = true) :
    webCmdProc env (receivedHead env (slice r.message.head 0 headSize)) s =
      webArm env (receivedHead env (slice r.message.head 0 headSize)) s r.call.cmd := by
  have hhead : receivedHead env (slice r.message.head 0 headSize) 0 = itsHead :=
    receivedHead_packed r env (by omega)
  have hcmd : itsipCmd (receivedHead env (slice r.message.head 0 headSize)) = r.call.cmd.code :=
    receivedHead_packed r env (by omega)
  rw [webCmdProc_eq env s hhead hcmd, if_neg (by rw [hopen]; decide)]

/-- The declared length is at most that of the longest structure. -/
theorem receivedHead_extlen (r : Request) (env : Env) :
    itsipExtlen (receivedHead env (slice r.message.head 0 headSize)) ≤ 256 := by
  have hextlen : itsipExtlen (receivedHead env (slice r.message.head 0 headSize)) =
      itsipExtlen (itsipPack r.stack r.call.cmd.code (UInt16.ofNat r.message.len) 0) := by
    rw [itsipExtlen, itsipExtlen, receivedHead_packed r env (by omega),
      receivedHead_packed r env (by omega)]
  rw [hextlen, itsipExtlen_pack, UInt16.toNat_ofNat']
  have hle : r.message.len ≤ 256 := message_len_le r.stack r.call
  omega

/-- A request without a structure is for an arm that reads none. -/
theorem asked_headOnly {r : Request} (h : r.HeadOnly) (conf head : Mem) :
    asked conf head r.call.cmd = none := by
  obtain ⟨env, stack, call⟩ := r
  cases call with
  | userLogin | sysinfoQuery | netinfoQuery | vlanQuery | factorySet | userQuery | confComQuery
  | confGpioQuery | confServerQuery | confModeQuery | confLimQuery => rfl
  | _ => exact absurd h (Option.some_ne_none _)

/-- No arm reads more than 256 bytes for a request of the library. -/
theorem asked_le (c : ItsCmd) (conf : Mem) {head : Mem} (h : itsipExtlen head ≤ 256) {n : Nat}
    (hn : asked conf head c = some n) : n ≤ 256 := by
  cases c with
  | login | userQuery | sysinfoQuery | confQuery | netinfoQuery | vlanQuery | serverQuery
  | gpioQuery | factorySet => cases hn
  | sysinfoSet | netinfoSet | vlanSet | serverSet | gpioSet =>
      cases hn
      decide
  | confSet =>
      simp only [asked] at hn
      cases hk : ConfKind.ofByte (itsipData head 0) with
      | none =>
          rw [hk] at hn
          cases hn
      | some k =>
          rw [hk] at hn
          cases k with
          | gpio | server => cases hn
          | com | mode | limit =>
              cases hn
              decide
  | userSet =>
      simp only [asked] at hn
      cases hu : getUsrInfo conf (cstr (itsipUser head)) with
      | none =>
          rw [hu] at hn
          cases hn
      | some u =>
          rw [hu] at hn
          dsimp only at hn
          split at hn
          · cases hn
          · cases hn
            exact h

/-! ## One request -/

private theorem head_length_pos (m : Message) : 0 < (slice m.head 0 headSize).length := by
  rw [slice_length]
  decide

/-- The daemon reads the header of a request as its header and serves it. -/
theorem webSvrProc_request (r : Request) {s : Session} {rest : List UInt8}
    (h : Brings s.conn (transmitted r.message ++ rest)) :
    (webConnRecv s.conn headSize).bytes = slice r.message.head 0 headSize ∧
      ∃ conn head, Brings conn (behindHead r.message.block r.message.len ++ rest) ∧
        itsipExtlen head ≤ 256 ∧
        webSvrProc r.env s = webArm r.env head { s with conn := conn } r.call.cmd := by
  rw [transmitted_eq, List.append_assoc] at h
  obtain ⟨conn, hrecv, hconn⟩ := h.recv (head_length_pos r.message)
  rw [slice_length] at hrecv
  refine ⟨by rw [hrecv], conn, _, hconn, receivedHead_extlen r r.env, ?_⟩
  rw [webSvrProc, if_neg (by rw [h.isOpen]; decide)]
  simp only [hrecv, if_true]
  exact webCmdProc_request r r.env hconn.isOpen

/-- After a request without a structure, what is left to read is what was sent for
the requests after it. -/
theorem serve_headOnly {r : Request} (hr : r.HeadOnly) {s : Session} {rest : List UInt8}
    (h : Brings s.conn (transmitted r.message ++ rest)) :
    Brings (webSvrProc r.env s).conn rest := by
  obtain ⟨_, conn, head, hconn, _, hserve⟩ := webSvrProc_request r h
  rw [show r.message.block = none from hr, behindHead, List.nil_append] at hconn
  rw [hserve]
  have hread := webArm_conn r.env head { s with conn := conn } r.call.cmd
  rw [asked_headOnly hr] at hread
  rcases hread with heq | ⟨m, data, len, heq⟩
  · rw [heq]
    exact hconn
  · rw [heq]
    exact hconn.send m data len

/-- After a request with a structure, more is left than was sent for the requests
after it. -/
theorem serve_block {r : Request} (hr : ¬r.HeadOnly) {s : Session} {rest : List UInt8}
    (h : Brings s.conn (transmitted r.message ++ rest)) :
    rest.length < (unread (webSvrProc r.env s).conn.incoming).length := by
  obtain ⟨_, conn, head, hconn, hextlen, hserve⟩ := webSvrProc_request r h
  have hblock : maxLength ≤ (behindHead r.message.block r.message.len).length := by
    have hpos : r.message.len > 0 := (message_len_pos_iff r.stack r.call).mpr hr
    cases hb : r.message.block with
    | none => exact absurd hb hr
    | some m =>
        have hlen : (behindHead (some m) r.message.len).length = maxLength := by
          rw [behindHead, if_pos hpos, slice_length]
        exact Nat.le_of_eq hlen.symm
  have hunread := congrArg List.length hconn.unread
  rw [List.length_append] at hunread
  -- the arm reads at most 256 of the 1024 bytes
  have hread : (unread conn.incoming).length ≤
      (unread (readAsked conn (asked s.dev.conf head r.call.cmd)).incoming).length + 256 := by
    cases hn : asked s.dev.conf head r.call.cmd with
    | none => exact Nat.le_add_right _ _
    | some n =>
        have hle := asked_le r.call.cmd s.dev.conf hextlen hn
        have hrecv := length_unread_webConnRecv conn n
        show _ ≤ (unread (webConnRecv conn n).conn.incoming).length + 256
        omega
  have hsame : (webSvrProc r.env s).conn.incoming =
      (readAsked conn (asked s.dev.conf head r.call.cmd)).incoming := by
    rw [hserve]
    rcases webArm_conn r.env head { s with conn := conn } r.call.cmd with heq | ⟨m, data, len, heq⟩
    · rw [heq]
    · rw [heq, netConnSend_incoming]
  rw [hsame]
  simp only [maxLength] at hblock
  omega

/-! ## Whole exchanges -/

private theorem framed_run_iff {rs : List Request} {s : Session} (h : Brings s.conn (wire rs)) :
    Framed s rs ↔ ∀ r ∈ rs, r.HeadOnly := by
  induction rs generalizing s with
  | nil => exact iff_of_true trivial fun r hr => absurd hr List.not_mem_nil
  | cons r rs ih =>
      rw [wire, List.flatMap_cons] at h
      have hhead := (webSvrProc_request r h).1
      constructor
      · rintro ⟨_, hunread, hrest⟩
        have hr : r.HeadOnly := by
          apply Classical.byContradiction
          intro hblock
          have hlt := serve_block hblock h
          rw [hunread] at hlt
          exact Nat.lt_irrefl _ hlt
        intro r' hr'
        rcases List.mem_cons.mp hr' with rfl | hr'
        · exact hr
        · exact (ih (serve_headOnly hr h)).mp hrest r' hr'
      · intro hall
        have hnext : Brings (webSvrProc r.env s).conn (wire rs) :=
          serve_headOnly (hall r List.mem_cons_self) h
        exact ⟨hhead, hnext.unread,
          (ih hnext).mpr fun r' hr' => hall r' (List.mem_cons_of_mem r hr')⟩

/-- The two ends stay in step exactly when every request is a header without a
structure. -/
theorem framed_iff (x : Exchange) : Framed x.session x.requests ↔ ∀ r ∈ x.requests, r.HeadOnly := by
  apply framed_run_iff
  have hsent := sendAll_sent x.connected.1 x.willing (x.requests.map Request.message)
  rw [x.connected.2, List.nil_append, List.flatMap_map] at hsent
  have hbrings := x.brings
  rw [hsent] at hbrings
  exact hbrings

/-! ## One request with a structure -/

/-- `its_netinfo_set` with a structure of zeros. -/
def setNet : Request := ⟨Env.idle, zero, .netinfoSet zero⟩

/-- Its bytes arrive in one segment. -/
def setNetExchange : Exchange where
  client := fresh
  requests := [setNet]
  session := ⟨Device.start zero, ⟨true, [.data (transmitted setNet.message) 0], [], []⟩, []⟩
  connected := ⟨rfl, rfl⟩
  willing := .nil
  brings := by
    refine ⟨rfl, .nil, [transmitted setNet.message], ?_, ?_⟩
    · apply Delivers.data
      · rw [transmitted_eq]
        exact List.append_ne_nil_of_left_ne_nil
          (List.length_pos_iff.mp (head_length_pos setNet.message)) _
      · exact fun ht => Nat.lt_irrefl 0 ht.1
      · exact .nil
    · rw [List.flatten_singleton]
      rfl

/-- The daemon leaves bytes of the block to be read as the next header. -/
theorem framed_setNet : ¬∀ x : Exchange, Framed x.session x.requests := by
  intro h
  have hall := (framed_iff setNetExchange).mp (h setNetExchange)
  exact absurd (hall setNet List.mem_cons_self) (Option.some_ne_none _)

end Itertk.Web.Framing
