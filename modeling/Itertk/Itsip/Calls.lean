import Itertk.Itsip.Library
import Itertk.Itsip.SendLoop

/-!
# The calls of `itslib`

Every function of `itscmd.c` connects, sends its request, and receives the header of the
answer with one `net_conn_recv`.  The `*_set` functions and `user_login` return
`itsip_data[0]` of that header; the `*_query` functions receive as many bytes as the header
declares into the structure of their caller, look at nothing else in the header, and return
`QUERY_OK`.

## Main results

* `setCall_ok`, `queryCall_ok` — what a call that reports success has read from the
  connection, whatever the connection brought in whatever pieces.
* `netConnSend_appends` — whatever happens, the peer gets a beginning of what is sent.
-/

namespace Itertk.Itsip.Calls

open Itertk.Base.Memory
open Itertk.Itsip.Socket
open Itertk.Itsip.Header
open Itertk.Itsip.Library

/-! ## Results -/

/-- `FAILURE`, which four of the queries return for a header that does not come. -/
def failure : UInt8 := 0

def connFailed : UInt8 := 1
def sendFailed : UInt8 := 2
def recvFailed : UInt8 := 3
def queryOk : UInt8 := 7

/-- What a query returns when the header of the answer does not come. -/
def headFailed : Call → UInt8
  | .sysinfoQuery _ | .netinfoQuery _ | .vlanQuery _ | .confServerQuery _ => failure
  | _ => recvFailed

private theorem headFailed_ne (call : Call) : headFailed call ≠ queryOk := by
  unfold headFailed
  split <;> decide

/-! ## The two kinds of calls -/

/-- The result of `net_conn_recv(&conn, &pak.head, sizeof(ITSIP))`, and the header behind it. -/
def recvHead (conn : Conn) (head : Mem) : Received × Mem :=
  let r := netConnRecv conn (UInt32.ofNat headSize)
  (r, blit head 0 r.bytes)

/-- The functions that return what the daemon answers, on a connection that `connected`
says could be made. -/
def setCall (connected : Bool) (conn : Conn) (m : Message) : UInt8 :=
  if connected = false then connFailed
  else
    let sent := netConnSend conn m.head m.block m.len
    if sent.1 = false then sendFailed
    else
      let answer := recvHead sent.2 m.head
      if answer.1.ok = false then recvFailed else itsipData answer.2 0

/-- The functions that fill the structure at `dst`. -/
def queryCall (headFailed : UInt8) (connected : Bool) (conn : Conn) (m : Message) (dst : Mem) :
    UInt8 × Mem :=
  if connected = false then (connFailed, dst)
  else
    let sent := netConnSend conn m.head m.block m.len
    if sent.1 = false then (sendFailed, dst)
    else
      let answer := recvHead sent.2 m.head
      if answer.1.ok = false then (headFailed, dst)
      else
        let r := netConnRecv answer.1.conn (UInt32.ofNat (itsipExtlen answer.2))
        (if r.ok then queryOk else recvFailed, blit dst 0 r.bytes)

/-! ## One read -/

/-- A read that succeeds takes as much as it was asked for from the front. -/
theorem netConnRecv_ok {conn : Conn} {len : UInt32} (h : (netConnRecv conn len).ok = true)
    (hlen : len ≠ 0xffffffff) :
    (netConnRecv conn len).bytes.length = len.toNat ∧
      (netConnRecv conn len).bytes ++ unread (netConnRecv conn len).conn.incoming =
        unread conn.incoming := by
  unfold netConnRecv at h ⊢
  cases hin : conn.incoming with
  | nil =>
      rw [hin] at h
      cases h
  | cons p ps =>
      rw [hin] at h
      cases p with
      | interrupted | selectFailed | quiet _ => cases h
      | recvFailed _ => exact absurd (of_decide_eq_true h) hlen
      | data bytes elapsed =>
          have heq : UInt32.ofNat (bytes.take len.toNat).length = len := of_decide_eq_true h
          have hle : (bytes.take len.toNat).length ≤ len.toNat := List.length_take_le _ _
          have hlt := len.toNat_lt
          have hnat := congrArg UInt32.toNat heq
          rw [UInt32.toNat_ofNat', Nat.mod_eq_of_lt (by omega)] at hnat
          refine ⟨hnat, ?_⟩
          dsimp only
          by_cases hdrop : bytes.drop len.toNat = []
          · rw [if_pos hdrop, unread_cons, List.take_of_length_le (List.drop_eq_nil_iff.mp hdrop)]
            rfl
          · rw [if_neg hdrop, unread_cons, unread_cons, ← List.append_assoc]
            exact congrArg (· ++ unread ps) (List.take_append_drop _ _)

/-- The length that a header declares is far below the greatest word. -/
theorem itsipExtlen_lt (head : Mem) : itsipExtlen head < 65536 := by
  have hlow := (head 4).toNat_lt
  have hhigh := (head 5).toNat_lt
  rw [itsipExtlen]
  omega

private theorem ofNat_extlen (head : Mem) :
    UInt32.ofNat (itsipExtlen head) ≠ 0xffffffff ∧
      (UInt32.ofNat (itsipExtlen head)).toNat = itsipExtlen head := by
  have hlt := itsipExtlen_lt head
  have hnat : (UInt32.ofNat (itsipExtlen head)).toNat = itsipExtlen head := by
    rw [UInt32.toNat_ofNat']
    exact Nat.mod_eq_of_lt (by omega)
  refine ⟨fun h => ?_, hnat⟩
  rw [h, show (0xffffffff : UInt32).toNat = 4294967295 from rfl] at hnat
  omega

/-! ## Calls that succeed -/

/-- The header that a call has received. -/
structure HeadOf (head : Mem) (bytes : List UInt8) : Prop where
  length : bytes.length = headSize
  holds : slice head 0 headSize = bytes

private theorem headOf_blit (head : Mem) {bytes : List UInt8} (h : bytes.length = headSize) :
    HeadOf (blit head 0 bytes) bytes := by
  refine ⟨h, ?_⟩
  rw [← h]
  exact slice_blit_self head 0 bytes

private theorem recvHead_ok {conn : Conn} {head : Mem} (h : (recvHead conn head).1.ok = true) :
    HeadOf (recvHead conn head).2 (recvHead conn head).1.bytes ∧
      (recvHead conn head).1.bytes ++ unread (recvHead conn head).1.conn.incoming =
        unread conn.incoming := by
  obtain ⟨hlen, hstream⟩ := netConnRecv_ok h (by decide)
  exact ⟨headOf_blit head hlen, hstream⟩

/-- A result that is no failure of the call itself is what a received header says. -/
theorem setCall_ok {connected : Bool} {conn : Conn} {m : Message} {ret : UInt8}
    (h : setCall connected conn m = ret) (hret : ret ∉ [connFailed, sendFailed, recvFailed]) :
    ∃ head bytes, HeadOf head bytes ∧ bytes <+: unread conn.incoming ∧ itsipData head 0 = ret := by
  have hne : ∀ code ∈ [connFailed, sendFailed, recvFailed], code ≠ ret := by
    intro code hcode heq
    exact hret (heq ▸ hcode)
  unfold setCall at h
  split at h
  · exact absurd h (hne _ (by decide))
  · dsimp only at h
    split at h
    · exact absurd h (hne _ (by decide))
    · split at h
      · exact absurd h (hne _ (by decide))
      · rename_i hok
        obtain ⟨hhead, hstream⟩ := recvHead_ok (Bool.not_eq_false _ ▸ hok)
        refine ⟨_, _, hhead, ?_, h⟩
        rw [netConnSend_incoming] at hstream
        exact ⟨_, hstream⟩

/-- A query that succeeds has put into the structure what lies behind the header, as many
bytes as it declares. -/
theorem queryCall_ok {connected : Bool} {conn : Conn} {m : Message} {dst dst' : Mem} {call : Call}
    (h : queryCall (headFailed call) connected conn m dst = (queryOk, dst')) :
    ∃ head bytes block, HeadOf head bytes ∧ bytes ++ block <+: unread conn.incoming ∧
      block.length = itsipExtlen head ∧ dst' = blit dst 0 block := by
  unfold queryCall at h
  split at h
  · exact absurd (Prod.mk.inj h).1 (by decide)
  · dsimp only at h
    split at h
    · exact absurd (Prod.mk.inj h).1 (by decide)
    · split at h
      · exact absurd (Prod.mk.inj h).1 (headFailed_ne call)
      · rename_i hok
        obtain ⟨hhead, hstream⟩ := recvHead_ok (Bool.not_eq_false _ ▸ hok)
        rw [netConnSend_incoming] at hstream
        obtain ⟨hcode, hdst⟩ := Prod.mk.inj h
        split at hcode
        · rename_i hblock
          obtain ⟨hne, hnat⟩ := ofNat_extlen (recvHead (netConnSend conn m.head m.block m.len).2
            m.head).2
          obtain ⟨hlen, hrest⟩ := netConnRecv_ok hblock hne
          refine ⟨_, _, _, hhead, ?_, hlen.trans hnat, hdst.symm⟩
          rw [← hrest, ← List.append_assoc] at hstream
          exact ⟨_, hstream⟩
        · exact absurd hcode (by decide)

/-! ## What reaches the peer -/

private theorem sendLoop_prefix {bytes : List UInt8} (hne : bytes ≠ []) (ps : List SendPoll) :
    (sendLoop bytes ps).sent <+: bytes := by
  cases hok : (sendLoop bytes ps).ok with
  | true => exact ⟨[], by rw [List.append_nil, sendLoop_ok hok]⟩
  | false =>
      obtain ⟨k, -, hsent⟩ := SendLoop.sendLoop_short hne hok
      rw [hsent]
      exact List.take_prefix k bytes

private theorem netConnSendPkt_appends (conn : Conn) {bytes : List UInt8} (hne : bytes ≠ []) :
    ∃ front, front <+: bytes ∧ (netConnSendPkt conn bytes).2.sent = conn.sent ++ front ∧
      ((netConnSendPkt conn bytes).1 = false → (netConnSendPkt conn bytes).2.isOpen = false) := by
  unfold netConnSendPkt
  by_cases hopen : conn.isOpen = true
  · rw [if_pos hopen]
    exact ⟨_, sendLoop_prefix hne conn.outgoing, rfl, fun h => h⟩
  · rw [if_neg hopen]
    exact ⟨[], List.nil_prefix, (List.append_nil _).symm, fun _ => Bool.eq_false_iff.mpr hopen⟩

theorem slice_ne_nil (m : Mem) {n : Nat} (h : 0 < n) : slice m 0 n ≠ [] := by
  rw [Ne, ← List.length_eq_zero_iff, slice_length]
  omega

/-- The peer gets a beginning of the header with what follows it. -/
theorem netConnSend_appends (conn : Conn) (head : Mem) (data : Option Mem) (len : Nat) :
    ∃ front, front <+: slice head 0 headSize ++ behindHead data len ∧
      (netConnSend conn head data len).2.sent = conn.sent ++ front := by
  obtain ⟨front, hfront, hsent, hclosed⟩ :=
    netConnSendPkt_appends conn (slice_ne_nil head (show 0 < headSize by decide))
  have hshort : ∃ front, front <+: slice head 0 headSize ++ behindHead data len ∧
      (netConnSendPkt conn (slice head 0 headSize)).2.sent = conn.sent ++ front :=
    ⟨front, hfront.trans (List.prefix_append _ _), hsent⟩
  cases data with
  | none => exact hshort
  | some m =>
      simp only [netConnSend]
      by_cases hl : len > 0
      · rw [if_pos hl]
        cases hok : (netConnSendPkt conn (slice head 0 headSize)).1 with
        | false =>
            -- the connection has been closed, so that nothing follows
            have hopen := hclosed hok
            rw [netConnSendPkt, if_neg (by rw [hopen]; decide)]
            exact hshort
        | true =>
            obtain ⟨rest, hrest, hsent', -⟩ := netConnSendPkt_appends
              (netConnSendPkt conn (slice head 0 headSize)).2
              (slice_ne_nil m (show 0 < maxLength by decide))
            refine ⟨slice head 0 headSize ++ rest, ?_, ?_⟩
            · rw [behindHead, if_pos hl]
              exact (List.prefix_append_right_inj _).mpr hrest
            · rw [hsent', (netConnSendPkt_sent hok).2, List.append_assoc]
      · rw [if_neg hl]
        exact hshort

/-- A closed connection takes nothing and stays closed. -/
theorem netConnSend_closed {conn : Conn} (h : conn.isOpen = false) (head : Mem)
    (data : Option Mem) (len : Nat) : (netConnSend conn head data len).2 = conn := by
  have hpkt : ∀ bytes, netConnSendPkt conn bytes = (false, conn) := by
    intro bytes
    rw [netConnSendPkt, if_neg (by rw [h]; decide)]
  cases data with
  | none => rw [netConnSend, hpkt]
  | some m =>
      simp only [netConnSend]
      split
      · rw [hpkt, hpkt]
      · rw [hpkt]

end Itertk.Itsip.Calls
