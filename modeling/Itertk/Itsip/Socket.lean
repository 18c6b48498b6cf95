import Itertk.Base.Chunks
import Itertk.Base.Memory

/-!
# One end of an ITSIP connection

The CGI programs, through `itslib`, and the daemon exchange ITSIP messages over a
TCP connection.  Both ends loop on `select`; what the loop finds in each turn is
taken from a script, so that a result about a routine is a result about every
arrival, delay, interruption and failure.  The clock enters as the milliseconds
since the reading the loop compares with.

`net_conn_send_pkt` and `net_conn_send` have the same text at both ends and are
defined once; the receive routines differ.

## Main results

* `recvLoop_delivers` — on data that arrive without timeout or error, the loop of
  `web_conn_recv` is `readFull`.
* `recvLoop_unread` — whatever happens, the loop loses and reorders nothing.
* `netConnSend_sent` — what `net_conn_send` has put on the wire when it returns
  `SUCCESS`.
-/

namespace Itertk.Itsip.Socket

open Itertk.Base.Memory
open Itertk.Base.Chunks

/-! ## Connections -/

/-- `TIMEOUT_CNT`. -/
def timeoutCnt : Nat := 2000

/-- `MAX_LENGTH`. -/
def maxLength : Nat := 1024

/-- `sizeof(ITSIP)`. -/
def headSize : Nat := 56

/-- `ms > ms_cnt1 && ms - ms_cnt1 >= TIMEOUT_CNT`. -/
def TimedOut (elapsed : Nat) : Prop := 0 < elapsed ∧ timeoutCnt ≤ elapsed

instance (elapsed : Nat) : Decidable (TimedOut elapsed) :=
  inferInstanceAs (Decidable (0 < elapsed ∧ timeoutCnt ≤ elapsed))

/-- What one turn of a receive loop finds. -/
inductive RecvPoll where
  /-- `select` fails with `EINTR`. -/
  | interrupted
  | selectFailed
  /-- `select` returns 0, so long after `ms_cnt1`. -/
  | quiet (elapsed : Nat)
  /-- The socket is readable and holds these bytes, none at the end of the stream;
  `ms_cnt3 - ms_cnt1` after the read. -/
  | data (bytes : List UInt8) (elapsed : Nat)
  /-- `recv` fails, with `ECONNRESET` or otherwise. -/
  | recvFailed (reset : Bool)

/-- What one turn of a send loop finds. -/
inductive SendPoll where
  | interrupted
  | selectFailed
  | quiet (elapsed : Nat)
  /-- The socket takes up to so many bytes. -/
  | taken (room elapsed : Nat)
  | sendFailed

/-- `NET_CONN_INFO`, with what the socket is going to report.  When a script ends
the peer stays silent, and takes whatever it is sent. -/
structure Conn where
  /-- `client_conn` is positive. -/
  isOpen : Bool
  incoming : List RecvPoll
  outgoing : List SendPoll
  /-- What the socket has taken. -/
  sent : List UInt8

/-! ## Receiving -/

/-- How a receive loop ended: the bytes it stored, the rest of the script, and
whether the connection is still open. -/
structure RecvResult where
  ok : Bool
  bytes : List UInt8
  rest : List RecvPoll
  isOpen : Bool

/-- The loop of `web_conn_recv`, with `total_length` bytes to go. -/
def recvLoop : Nat → List RecvPoll → RecvResult
  | _, [] => ⟨false, [], [], false⟩
  | n, .interrupted :: ps => recvLoop n ps
  | _, .selectFailed :: ps => ⟨false, [], ps, false⟩
  | n, .quiet elapsed :: ps =>
      if TimedOut elapsed then ⟨false, [], ps, false⟩ else recvLoop n ps
  | _, .recvFailed reset :: ps => ⟨false, [], ps, !reset⟩
  | n, .data bytes elapsed :: ps =>
      let cnt := min bytes.length n
      if cnt = 0 then ⟨false, [], .data bytes elapsed :: ps, false⟩
      else if n - cnt = 0 then
        ⟨true, bytes.take n,
          if bytes.drop n = [] then ps else .data (bytes.drop n) elapsed :: ps, true⟩
      else if TimedOut elapsed then ⟨false, bytes, ps, false⟩
      else
        let r := recvLoop (n - cnt) ps
        { r with bytes := bytes ++ r.bytes }

/-- What a receive routine returns: `SUCCESS` or not, the bytes stored at the
destination, and the connection. -/
structure Received where
  ok : Bool
  bytes : List UInt8
  conn : Conn

/-- The daemon's `web_conn_recv(conn, dst, len)`. -/
def webConnRecv (conn : Conn) (len : Nat) : Received :=
  if conn.isOpen then
    let r := recvLoop len conn.incoming
    ⟨r.ok, r.bytes, { conn with isOpen := r.isOpen, incoming := r.rest }⟩
  else ⟨false, [], conn⟩

/-- `itslib`'s `net_conn_recv(conn, dst, len)`: one `select` of three seconds, one
`recv`, and a comparison of an `int` with a `DWORD`. -/
def netConnRecv (conn : Conn) (len : UInt32) : Received :=
  match conn.incoming with
  | [] => ⟨false, [], conn⟩
  | .interrupted :: ps | .selectFailed :: ps | .quiet _ :: ps =>
      ⟨false, [], { conn with incoming := ps }⟩
  | .recvFailed _ :: ps => ⟨len = 0xffffffff, [], { conn with incoming := ps }⟩
  | .data bytes elapsed :: ps =>
      let got := bytes.take len.toNat
      let rest := bytes.drop len.toNat
      ⟨UInt32.ofNat got.length = len, got,
        { conn with incoming := if rest = [] then ps else .data rest elapsed :: ps }⟩

/-! ## Sending -/

/-- How a send loop ended. -/
structure SendResult where
  ok : Bool
  sent : List UInt8
  rest : List SendPoll

/-- The loop of `net_conn_send_pkt`; every failure closes the connection. -/
def sendLoop : List UInt8 → List SendPoll → SendResult
  | bytes, [] => if bytes = [] then ⟨false, [], []⟩ else ⟨true, bytes, []⟩
  | bytes, .interrupted :: ps => sendLoop bytes ps
  | _, .selectFailed :: ps => ⟨false, [], ps⟩
  | bytes, .quiet elapsed :: ps =>
      if TimedOut elapsed then ⟨false, [], ps⟩ else sendLoop bytes ps
  | _, .sendFailed :: ps => ⟨false, [], ps⟩
  | bytes, .taken room elapsed :: ps =>
      let cnt := min room bytes.length
      if cnt = 0 then ⟨false, [], ps⟩
      else if bytes.length - cnt = 0 then ⟨true, bytes, ps⟩
      else if TimedOut elapsed then ⟨false, bytes.take cnt, ps⟩
      else
        let r := sendLoop (bytes.drop cnt) ps
        { r with sent := bytes.take cnt ++ r.sent }

/-- `net_conn_send_pkt`. -/
def netConnSendPkt (conn : Conn) (bytes : List UInt8) : Bool × Conn :=
  if conn.isOpen then
    let r := sendLoop bytes conn.outgoing
    (r.ok, { conn with isOpen := r.ok, outgoing := r.rest, sent := conn.sent ++ r.sent })
  else (false, conn)

/-- `net_conn_send(conn, head, data, len)`: whatever `len` says, `MAX_LENGTH` bytes
from `data` on follow the header. -/
def netConnSend (conn : Conn) (head : Mem) (data : Option Mem) (len : Nat) : Bool × Conn :=
  let r := netConnSendPkt conn (slice head 0 headSize)
  match data with
  | some m => if len > 0 then netConnSendPkt r.2 (slice m 0 maxLength) else r
  | none => r

/-- What follows the header on the wire. -/
def behindHead (data : Option Mem) (len : Nat) : List UInt8 :=
  match data with
  | some m => if len > 0 then slice m 0 maxLength else []
  | none => []

/-! ## What has not been read -/

/-- The bytes a turn brings. -/
def RecvPoll.brings : RecvPoll → List UInt8
  | .data bytes _ => bytes
  | _ => []

/-- The bytes a script is going to bring. -/
def unread (ps : List RecvPoll) : List UInt8 := ps.flatMap RecvPoll.brings

@[simp] theorem unread_cons (p : RecvPoll) (ps : List RecvPoll) :
    unread (p :: ps) = p.brings ++ unread ps := List.flatMap_cons

/-- What the loop has stored and what it has left are what there was, and it
stores no more than it was asked for. -/
theorem recvLoop_unread (n : Nat) (ps : List RecvPoll) :
    (recvLoop n ps).bytes ++ unread (recvLoop n ps).rest = unread ps ∧
      (recvLoop n ps).bytes.length ≤ n := by
  induction ps generalizing n with
  | nil => exact ⟨rfl, Nat.zero_le n⟩
  | cons p ps ih =>
      cases p with
      | interrupted => exact ih n
      | selectFailed => exact ⟨rfl, Nat.zero_le n⟩
      | recvFailed reset => exact ⟨rfl, Nat.zero_le n⟩
      | quiet elapsed =>
          rw [recvLoop]
          by_cases ht : TimedOut elapsed
          · rw [if_pos ht]
            exact ⟨rfl, Nat.zero_le n⟩
          · rw [if_neg ht]
            exact ih n
      | data bytes elapsed =>
          simp only [recvLoop]
          by_cases h0 : min bytes.length n = 0
          · rw [if_pos h0]
            exact ⟨rfl, Nat.zero_le n⟩
          · rw [if_neg h0]
            by_cases hall : n - min bytes.length n = 0
            · rw [if_pos hall]
              refine ⟨?_, by rw [List.length_take]; omega⟩
              by_cases hd : bytes.drop n = []
              · rw [if_pos hd, List.take_of_length_le (List.drop_eq_nil_iff.mp hd)]
                rfl
              · rw [if_neg hd]
                show bytes.take n ++ (bytes.drop n ++ unread ps) = bytes ++ unread ps
                rw [← List.append_assoc, List.take_append_drop]
            · rw [if_neg hall]
              by_cases ht : TimedOut elapsed
              · rw [if_pos ht]
                refine ⟨rfl, ?_⟩
                show bytes.length ≤ n
                omega
              · rw [if_neg ht]
                obtain ⟨hstream, hlen⟩ := ih (n - min bytes.length n)
                refine ⟨?_, ?_⟩
                · show (bytes ++ _) ++ unread _ = bytes ++ unread ps
                  rw [List.append_assoc, hstream]
                · show (bytes ++ _).length ≤ n
                  rw [List.length_append]
                  omega

/-! ## How much arrives -/

/-- The bytes that come before the stream ends, fails or stays silent for too long. -/
def arrives : List RecvPoll → Nat
  | [] => 0
  | .interrupted :: ps => arrives ps
  | .selectFailed :: _ | .recvFailed _ :: _ => 0
  | .quiet elapsed :: ps => if TimedOut elapsed then 0 else arrives ps
  | .data bytes elapsed :: ps =>
      if bytes.length = 0 then 0
      else if TimedOut elapsed then bytes.length
      else bytes.length + arrives ps

private theorem nothing_arrives {n : Nat} {r : RecvResult} (hbytes : r.bytes = [])
    (hok : r.ok = false) : r.bytes.length = min n 0 ∧ (r.ok = true ↔ 0 < n ∧ n ≤ 0) := by
  rw [hbytes, hok, Nat.min_zero]
  exact ⟨rfl, iff_of_false Bool.false_ne_true (by omega)⟩

/-- The loop stores what arrives, up to what it was asked for, and succeeds if that is
enough. -/
theorem recvLoop_arrives (n : Nat) (ps : List RecvPoll) :
    (recvLoop n ps).bytes.length = min n (arrives ps) ∧
      ((recvLoop n ps).ok = true ↔ 0 < n ∧ n ≤ arrives ps) := by
  induction ps generalizing n with
  | nil => exact nothing_arrives rfl rfl
  | cons p ps ih =>
      cases p with
      | interrupted => exact ih n
      | selectFailed | recvFailed _ => exact nothing_arrives rfl rfl
      | quiet elapsed =>
          rw [recvLoop, arrives]
          by_cases ht : TimedOut elapsed
          · rw [if_pos ht, if_pos ht]
            exact nothing_arrives rfl rfl
          · rw [if_neg ht, if_neg ht]
            exact ih n
      | data bytes elapsed =>
          have hrest := ih (n - min bytes.length n)
          simp only [recvLoop, arrives]
          by_cases hend : bytes.length = 0
          · rw [if_pos hend, if_pos (by omega)]
            exact nothing_arrives rfl rfl
          · rw [if_neg hend]
            by_cases hnone : n = 0
            · rw [if_pos (by omega), hnone, Nat.zero_min]
              exact ⟨rfl, iff_of_false Bool.false_ne_true (by omega)⟩
            · rw [if_neg (by omega)]
              by_cases hall : n - min bytes.length n = 0
              · -- enough is here, timed out or not
                have henough : n ≤ if TimedOut elapsed then bytes.length
                    else bytes.length + arrives ps := by
                  split <;> omega
                rw [if_pos hall, List.length_take]
                exact ⟨by omega, iff_of_true rfl ⟨by omega, henough⟩⟩
              · rw [if_neg hall]
                by_cases ht : TimedOut elapsed
                · rw [if_pos ht, if_pos ht]
                  have hlen : bytes.length = min n bytes.length := by omega
                  exact ⟨hlen, iff_of_false Bool.false_ne_true (by omega)⟩
                · rw [if_neg ht, if_neg ht, List.length_append, hrest.1, hrest.2]
                  exact ⟨by omega, by omega⟩

/-- What a connection brings `web_conn_recv`. -/
def Conn.arriving (conn : Conn) : Nat := if conn.isOpen then arrives conn.incoming else 0

theorem webConnRecv_length (conn : Conn) (n : Nat) :
    (webConnRecv conn n).bytes.length = min n conn.arriving := by
  rw [webConnRecv, Conn.arriving]
  by_cases hopen : conn.isOpen = true
  · rw [if_pos hopen, if_pos hopen]
    exact (recvLoop_arrives n conn.incoming).1
  · rw [if_neg hopen, if_neg hopen, Nat.min_zero]
    rfl

theorem webConnRecv_ok_iff (conn : Conn) (n : Nat) :
    (webConnRecv conn n).ok = true ↔ 0 < n ∧ n ≤ conn.arriving := by
  rw [webConnRecv, Conn.arriving]
  by_cases hopen : conn.isOpen = true
  · rw [if_pos hopen, if_pos hopen]
    exact (recvLoop_arrives n conn.incoming).2
  · rw [if_neg hopen, if_neg hopen]
    exact iff_of_false Bool.false_ne_true (by omega)

/-- On `SUCCESS` the loop has stored what it was asked for. -/
theorem recvLoop_ok {n : Nat} {ps : List RecvPoll} (h : (recvLoop n ps).ok = true) :
    (recvLoop n ps).bytes.length = n := by
  obtain ⟨hlen, hok⟩ := recvLoop_arrives n ps
  have henough := (hok.mp h).2
  omega

theorem webConnRecv_ok {conn : Conn} {n : Nat} (h : (webConnRecv conn n).ok = true) :
    (webConnRecv conn n).bytes.length = n := by
  have henough := ((webConnRecv_ok_iff conn n).mp h).2
  rw [webConnRecv_length]
  omega

/-! ## Data that arrive without timeout or error -/

/-- The script brings these chunks, among short delays and interruptions. -/
inductive Delivers : List RecvPoll → List (List UInt8) → Prop
  | nil : Delivers [] []
  | interrupted {ps cs} : Delivers ps cs → Delivers (.interrupted :: ps) cs
  | quiet {elapsed ps cs} : ¬TimedOut elapsed → Delivers ps cs →
      Delivers (.quiet elapsed :: ps) cs
  | data {bytes elapsed ps cs} : bytes ≠ [] → ¬TimedOut elapsed → Delivers ps cs →
      Delivers (.data bytes elapsed :: ps) (bytes :: cs)

private theorem Delivers.solid {ps : List RecvPoll} {cs : List (List UInt8)} (h : Delivers ps cs) :
    Solid cs := by
  induction h with
  | nil => exact fun c hc => absurd hc List.not_mem_nil
  | interrupted _ ih => exact ih
  | quiet _ _ ih => exact ih
  | data hne _ _ ih =>
      intro c hc
      rcases List.mem_cons.mp hc with rfl | hc
      · exact hne
      · exact ih c hc

theorem Delivers.unread {ps : List RecvPoll} {cs : List (List UInt8)} (h : Delivers ps cs) :
    unread ps = cs.flatten := by
  induction h with
  | nil => rfl
  | interrupted _ ih => exact ih
  | quiet _ _ ih => exact ih
  | data _ _ _ ih => rw [unread_cons, ih]; rfl

/-- The chunks of a segmentation, each found by one turn. -/
theorem delivers_chunks {cs : List (List UInt8)} (h : Solid cs) :
    Delivers (cs.map fun c => .data c 0) cs := by
  induction cs with
  | nil => exact .nil
  | cons c cs ih => exact .data h.head (fun ht => absurd ht.1 (Nat.lt_irrefl 0)) (ih h.tail)

/-- On such a script the loop reads as `readFull` does. -/
theorem recvLoop_delivers {ps : List RecvPoll} {cs rest : List (List UInt8)} {n : Nat}
    {bytes : List UInt8} (h : Delivers ps cs) (hpos : 0 < n)
    (hread : readFull n cs = some (bytes, rest)) :
    ∃ ps', recvLoop n ps = ⟨true, bytes, ps', true⟩ ∧ Delivers ps' rest := by
  induction h generalizing n bytes rest with
  | nil => exact absurd hread (by simp [readFull])
  | interrupted _ ih => exact ih hpos hread
  | quiet ht _ ih =>
      rw [recvLoop, if_neg ht]
      exact ih hpos hread
  | @data c elapsed ps cs hne ht hps ih =>
      have hc : 0 < c.length := List.length_pos_iff.mpr hne
      have h0 : ¬min c.length n = 0 := by omega
      simp only [recvLoop, if_neg h0]
      rw [readFull] at hread
      by_cases hle : n ≤ c.length
      · rw [if_pos hle] at hread
        obtain ⟨rfl, rfl⟩ := Prod.mk.inj (Option.some.inj hread)
        rw [if_pos (by omega)]
        refine ⟨_, rfl, ?_⟩
        by_cases hd : c.drop n = []
        · rw [if_pos hd, if_pos hd]
          exact hps
        · rw [if_neg hd, if_neg hd]
          exact .data hd ht hps
      · rw [if_neg hle] at hread
        obtain ⟨⟨b, r⟩, hsome, heq⟩ := Option.map_eq_some_iff.mp hread
        obtain ⟨rfl, rfl⟩ := Prod.mk.inj heq
        have hmin : min c.length n = c.length := by omega
        obtain ⟨ps', hloop, hrest⟩ := ih (by omega) hsome
        refine ⟨ps', ?_, hrest⟩
        rw [hmin, if_neg (by omega), if_neg ht, hloop]

/-- `web_conn_recv` returns the first `n` bytes of such a stream and leaves the
others. -/
theorem webConnRecv_delivers {conn : Conn} (hopen : conn.isOpen = true)
    {cs : List (List UInt8)} (h : Delivers conn.incoming cs) {n : Nat} (hpos : 0 < n)
    (hlen : n ≤ cs.flatten.length) :
    ∃ ps rest, webConnRecv conn n = ⟨true, cs.flatten.take n, { conn with incoming := ps }⟩ ∧
      Delivers ps rest ∧ rest.flatten = cs.flatten.drop n := by
  obtain ⟨rest, hread, _, hflat⟩ := readFull_eq h.solid hpos hlen
  obtain ⟨ps, hloop, hrest⟩ := recvLoop_delivers h hpos hread
  refine ⟨ps, rest, ?_, hrest, hflat⟩
  rw [webConnRecv, if_pos hopen, hloop, ← hopen]

/-! ## Sends that succeed -/

/-- On `SUCCESS` the loop has handed over the whole block. -/
theorem sendLoop_ok {bytes : List UInt8} {ps : List SendPoll}
    (h : (sendLoop bytes ps).ok = true) : (sendLoop bytes ps).sent = bytes := by
  induction ps generalizing bytes with
  | nil =>
      rw [sendLoop] at h ⊢
      by_cases hb : bytes = []
      · rw [if_pos hb] at h
        exact absurd h Bool.false_ne_true
      · rw [if_neg hb]
  | cons p ps ih =>
      cases p with
      | interrupted => exact ih h
      | selectFailed | sendFailed => exact absurd h Bool.false_ne_true
      | quiet elapsed =>
          rw [sendLoop] at h ⊢
          by_cases ht : TimedOut elapsed
          · rw [if_pos ht] at h
            exact absurd h Bool.false_ne_true
          · rw [if_neg ht] at h ⊢
            exact ih h
      | taken room elapsed =>
          simp only [sendLoop] at h ⊢
          by_cases h0 : min room bytes.length = 0
          · rw [if_pos h0] at h
            exact absurd h Bool.false_ne_true
          · rw [if_neg h0] at h ⊢
            by_cases hall : bytes.length - min room bytes.length = 0
            · rw [if_pos hall]
            · rw [if_neg hall] at h ⊢
              by_cases ht : TimedOut elapsed
              · rw [if_pos ht] at h
                exact absurd h Bool.false_ne_true
              · rw [if_neg ht] at h ⊢
                show bytes.take _ ++ (sendLoop (bytes.drop _) ps).sent = bytes
                rw [ih h, List.take_append_drop]

/-- On `SUCCESS` the connection was open and the block has been handed over. -/
theorem netConnSendPkt_sent {conn : Conn} {bytes : List UInt8}
    (h : (netConnSendPkt conn bytes).1 = true) :
    conn.isOpen = true ∧ (netConnSendPkt conn bytes).2.sent = conn.sent ++ bytes := by
  unfold netConnSendPkt at h ⊢
  by_cases hopen : conn.isOpen = true
  · rw [if_pos hopen] at h ⊢
    exact ⟨hopen, congrArg (conn.sent ++ ·) (sendLoop_ok h)⟩
  · rw [if_neg hopen] at h
    exact absurd h Bool.false_ne_true

/-- A connection that is open after a send was open before it, and the send
succeeded. -/
theorem netConnSendPkt_open {conn : Conn} {bytes : List UInt8}
    (h : (netConnSendPkt conn bytes).2.isOpen = true) : (netConnSendPkt conn bytes).1 = true := by
  unfold netConnSendPkt at h ⊢
  by_cases hopen : conn.isOpen = true
  · rw [if_pos hopen] at h ⊢
    exact h
  · rw [if_neg hopen] at h
    exact absurd h hopen

/-- The same of a header with what follows it. -/
theorem netConnSend_open {conn : Conn} {head : Mem} {data : Option Mem} {len : Nat}
    (h : (netConnSend conn head data len).2.isOpen = true) :
    (netConnSend conn head data len).1 = true := by
  cases data with
  | none => exact netConnSendPkt_open h
  | some m =>
      simp only [netConnSend] at h ⊢
      by_cases hl : len > 0
      · rw [if_pos hl] at h ⊢
        exact netConnSendPkt_open h
      · rw [if_neg hl] at h ⊢
        exact netConnSendPkt_open h

/-- What `net_conn_send` has put on the wire when it returns `SUCCESS`. -/
theorem netConnSend_sent {conn : Conn} {head : Mem} {data : Option Mem} {len : Nat}
    (h : (netConnSend conn head data len).1 = true) :
    (netConnSend conn head data len).2.sent =
      conn.sent ++ slice head 0 headSize ++ behindHead data len := by
  cases data with
  | none =>
      rw [behindHead, List.append_nil]
      exact (netConnSendPkt_sent h).2
  | some m =>
      simp only [netConnSend, behindHead] at h ⊢
      by_cases hl : len > 0
      · rw [if_pos hl] at h ⊢
        rw [if_pos hl]
        obtain ⟨hopen, hsent⟩ := netConnSendPkt_sent h
        rw [hsent, (netConnSendPkt_sent (netConnSendPkt_open hopen)).2]
      · rw [if_neg hl] at h ⊢
        rw [if_neg hl, List.append_nil]
        exact (netConnSendPkt_sent h).2

/-- Sending reads nothing. -/
theorem netConnSend_incoming (conn : Conn) (head : Mem) (data : Option Mem) (len : Nat) :
    (netConnSend conn head data len).2.incoming = conn.incoming := by
  have hpkt : ∀ (c : Conn) (bytes : List UInt8),
      (netConnSendPkt c bytes).2.incoming = c.incoming := by
    intro c bytes
    unfold netConnSendPkt
    split <;> rfl
  cases data with
  | none => exact hpkt _ _
  | some m =>
      simp only [netConnSend]
      split
      · rw [hpkt, hpkt]
      · exact hpkt _ _

/-- The peer takes what it is sent, among short delays and interruptions. -/
inductive Willing : List SendPoll → Prop
  | nil : Willing []
  | interrupted {ps} : Willing ps → Willing (.interrupted :: ps)
  | quiet {elapsed ps} : ¬TimedOut elapsed → Willing ps → Willing (.quiet elapsed :: ps)
  | taken {room elapsed ps} : 0 < room → ¬TimedOut elapsed → Willing ps →
      Willing (.taken room elapsed :: ps)

private theorem sendLoop_willing {ps : List SendPoll} (h : Willing ps) {bytes : List UInt8}
    (hne : bytes ≠ []) : (sendLoop bytes ps).ok = true ∧ Willing (sendLoop bytes ps).rest := by
  induction h generalizing bytes with
  | nil =>
      rw [sendLoop, if_neg hne]
      exact ⟨rfl, .nil⟩
  | interrupted _ ih => exact ih hne
  | quiet ht _ ih =>
      rw [sendLoop, if_neg ht]
      exact ih hne
  | @taken room elapsed ps hroom ht hps ih =>
      have hlen : 0 < bytes.length := List.length_pos_iff.mpr hne
      have h0 : ¬min room bytes.length = 0 := by omega
      simp only [sendLoop, if_neg h0]
      by_cases hall : bytes.length - min room bytes.length = 0
      · rw [if_pos hall]
        exact ⟨rfl, hps⟩
      · rw [if_neg hall, if_neg ht]
        refine ih ?_
        rw [Ne, List.drop_eq_nil_iff]
        omega

/-- To such a peer `net_conn_send` succeeds and the connection stays open. -/
theorem netConnSend_willing {conn : Conn} (hopen : conn.isOpen = true)
    (h : Willing conn.outgoing) (head : Mem) (data : Option Mem) (len : Nat) :
    (netConnSend conn head data len).1 = true ∧
      (netConnSend conn head data len).2.isOpen = true ∧
      Willing (netConnSend conn head data len).2.outgoing := by
  have hpkt : ∀ {c : Conn} {m : Mem} {n : Nat}, c.isOpen = true → Willing c.outgoing → 0 < n →
      (netConnSendPkt c (slice m 0 n)).1 = true ∧
        (netConnSendPkt c (slice m 0 n)).2.isOpen = true ∧
        Willing (netConnSendPkt c (slice m 0 n)).2.outgoing := by
    intro c m n hc hw hn
    have hne : slice m 0 n ≠ [] := by
      rw [Ne, ← List.length_eq_zero_iff, slice_length]
      omega
    obtain ⟨hok, hrest⟩ := sendLoop_willing hw hne
    rw [netConnSendPkt, if_pos hc]
    exact ⟨hok, hok, hrest⟩
  obtain ⟨hok, hc, hw⟩ := hpkt (m := head) hopen h (show 0 < headSize by decide)
  cases data with
  | none => exact ⟨hok, hc, hw⟩
  | some m =>
      simp only [netConnSend]
      by_cases hl : len > 0
      · rw [if_pos hl]
        exact hpkt hc hw (by decide)
      · rw [if_neg hl]
        exact ⟨hok, hc, hw⟩

end Itertk.Itsip.Socket
