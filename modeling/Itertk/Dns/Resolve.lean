import Itertk.Dns.Query

/-!
# The answer of a name server

`resolve` walks through the records behind the question.  It takes every record for one
whose owner is a compression pointer of two bytes, reads single bytes at fixed places in
it, and goes on behind the length that the record gives.  A CNAME makes the place of its
data the name to look for; the first A record that is owned by that name is the answer.

Every index that is read is kept, because the walk looks further ahead than it has tested.

## Main results

* `resolveLoop_answer`, `resolveLoop_next`, `resolveLoop_end` — what one turn does.
* `resolve_congr` — the result depends on the bytes that are read.
-/

namespace Itertk.Dns.Resolve

open Itertk.Base.Memory
open Itertk.Daemon.Config
open Itertk.Discovery.Report
open Itertk.Dns.Query

/-- `MAX_SIZE_DNS`. -/
def maxSizeDns : Nat := 1024

/-! ## The walk -/

/-- `sprintf(ip, "%d.%d.%d.%d", ...)`. -/
def dotted (bytes : List UInt8) : List UInt8 :=
  [dot].intercalate (bytes.map fun b => decimal b.toNat)

/-- What `resolve` leaves: the text behind `ip` with `DNS_OK`, or nothing with the code of
a failure; and the indices of `recvMsg` that it read, in order. -/
structure Resolved where
  ip : Option (List UInt8)
  reads : List Nat

/-- The indices that are read in every turn. -/
def headReads (pos : Nat) : List Nat := [pos + 1, pos + 3, pos + 5, pos + 11]

/-- The indices of an address. -/
def addrReads (pos : Nat) : List Nat := [pos + 12, pos + 13, pos + 14, pos + 15]

/-- The result when a turn at `pos` came before it. -/
def Resolved.behind (r : Resolved) (pos : Nat) : Resolved :=
  { r with reads := headReads pos ++ r.reads }

/-- `retype == 1 && now_pos == cnt && reclass == 1`; `now_pos` is one byte. -/
def IsAnswer (recvMsg : Mem) (pos cnt : Nat) : Prop :=
  recvMsg (pos + 3) = 1 ∧ (recvMsg (pos + 1)).toNat = cnt ∧ recvMsg (pos + 5) = 1

instance (recvMsg : Mem) (pos cnt : Nat) : Decidable (IsAnswer recvMsg pos cnt) :=
  inferInstanceAs (Decidable (_ ∧ _))

/-- `cnt` after a record that is no answer: a CNAME moves it to its data. -/
def nextCnt (recvMsg : Mem) (pos cnt : Nat) : Nat := if recvMsg (pos + 3) = 5 then pos + 12 else cnt

/-- `pos + 12 + offset`. -/
def nextPos (recvMsg : Mem) (pos : Nat) : Nat := pos + 12 + (recvMsg (pos + 11)).toNat

/-- The loop. -/
def resolveLoop (recvMsg : Mem) (lenRecvMsg : Int) (pos cnt : Nat) : Resolved :=
  if (pos : Int) < lenRecvMsg then
    if IsAnswer recvMsg pos cnt then
      ⟨some (dotted (slice recvMsg (pos + 12) 4)), headReads pos ++ addrReads pos⟩
    else
      (resolveLoop recvMsg lenRecvMsg (nextPos recvMsg pos) (nextCnt recvMsg pos cnt)).behind pos
  else ⟨none, []⟩
  termination_by (lenRecvMsg - pos).toNat
  decreasing_by
    unfold nextPos
    omega

/-- `resolve(recvMsg, len, len_recvMsg, ip)`. -/
def resolve (recvMsg : Mem) (len : Nat) (lenRecvMsg : Int) : Resolved :=
  resolveLoop recvMsg lenRecvMsg len 12

/-- What comes back for a query. -/
inductive Reply where
  /-- `select` fails or finds nothing in time. -/
  | nothing
  /-- `recv` fails. -/
  | failed
  | datagram (bytes : List UInt8)

/-- `sendDNSPacket`, from the `sendto` on: its value, and the buffer it leaves. -/
def sendDNSPacket (reply : Reply) (recvMsg : Mem) : Int × Mem :=
  match reply with
  | .nothing => (0, recvMsg)
  | .failed => (-1, recvMsg)
  | .datagram bytes => ((bytes.take maxSizeDns).length, blit recvMsg 0 (bytes.take maxSizeDns))

/-- The buffers of `its_dns`, as they lie on the stack. -/
structure Stack where
  name : Mem
  buf : Mem
  recvMsg : Mem

/-- `its_dns`, with a server that answers the query so. -/
def itsDns (stack : Stack) (server : List UInt8 → Reply) (www : List UInt8) :
    Option (List UInt8) :=
  let query := dnsQuery www stack.name stack.buf
  let r := sendDNSPacket (server query.2) stack.recvMsg
  (resolve r.2 query.1 r.1).ip

/-! ## One turn -/

variable {recvMsg : Mem} {n : Int} {pos cnt : Nat}

theorem resolveLoop_end (h : n ≤ pos) : resolveLoop recvMsg n pos cnt = ⟨none, []⟩ := by
  rw [resolveLoop, if_neg (by omega)]

theorem resolveLoop_answer (h : (pos : Int) < n) (ha : IsAnswer recvMsg pos cnt) :
    resolveLoop recvMsg n pos cnt =
      ⟨some (dotted (slice recvMsg (pos + 12) 4)), headReads pos ++ addrReads pos⟩ := by
  rw [resolveLoop, if_pos h, if_pos ha]

theorem resolveLoop_next (h : (pos : Int) < n) (ha : ¬IsAnswer recvMsg pos cnt) :
    resolveLoop recvMsg n pos cnt =
      (resolveLoop recvMsg n (nextPos recvMsg pos) (nextCnt recvMsg pos cnt)).behind pos := by
  rw [resolveLoop, if_pos h, if_neg ha]

/-- In every turn the four bytes are read. -/
theorem headReads_subset (h : (pos : Int) < n) {i : Nat} (hi : i ∈ headReads pos) :
    i ∈ (resolveLoop recvMsg n pos cnt).reads := by
  by_cases ha : IsAnswer recvMsg pos cnt
  · rw [resolveLoop_answer h ha]
    exact List.mem_append_left _ hi
  · rw [resolveLoop_next h ha]
    exact List.mem_append_left _ hi

/-! ## What the result depends on -/

/-- Buffers with the same bytes at the places that are read give the same result.  The
induction follows the walk through the first of them. -/
theorem resolveLoop_congr {recvMsg' : Mem}
    (h : ∀ i ∈ (resolveLoop recvMsg n pos cnt).reads, recvMsg' i = recvMsg i) :
    resolveLoop recvMsg' n pos cnt = resolveLoop recvMsg n pos cnt := by
  induction pos, cnt using resolveLoop.induct recvMsg n with
  | case1 pos cnt hpos ha =>
      have hhead : ∀ i ∈ headReads pos, recvMsg' i = recvMsg i :=
        fun i hi => h i (headReads_subset hpos hi)
      have ha' : IsAnswer recvMsg' pos cnt := by
        unfold IsAnswer
        rw [hhead (pos + 3) (by simp [headReads]), hhead (pos + 1) (by simp [headReads]),
          hhead (pos + 5) (by simp [headReads])]
        exact ha
      have haddr : slice recvMsg' (pos + 12) 4 = slice recvMsg (pos + 12) 4 := by
        rw [slice_eq_iff]
        intro i hi
        refine h _ ?_
        rw [resolveLoop_answer hpos ha]
        refine List.mem_append_right _ ?_
        simp only [addrReads, List.mem_cons, List.not_mem_nil, or_false]
        omega
      rw [resolveLoop_answer hpos ha, resolveLoop_answer hpos ha', haddr]
  | case2 pos cnt hpos ha ih =>
      have hhead : ∀ i ∈ headReads pos, recvMsg' i = recvMsg i :=
        fun i hi => h i (headReads_subset hpos hi)
      have htype := hhead (pos + 3) (by simp [headReads])
      have ha' : ¬IsAnswer recvMsg' pos cnt := by
        unfold IsAnswer
        rw [htype, hhead (pos + 1) (by simp [headReads]), hhead (pos + 5) (by simp [headReads])]
        exact ha
      have hpos' : nextPos recvMsg' pos = nextPos recvMsg pos := by
        rw [nextPos, nextPos, hhead (pos + 11) (by simp [headReads])]
      have hcnt' : nextCnt recvMsg' pos cnt = nextCnt recvMsg pos cnt := by
        rw [nextCnt, nextCnt, htype]
      have hrest := ih fun i hi => h i (by
        rw [resolveLoop_next hpos ha]
        exact List.mem_append_right _ hi)
      rw [resolveLoop_next hpos ha, resolveLoop_next hpos ha', hpos', hcnt', hrest]
  | case3 pos cnt hpos =>
      rw [resolveLoop_end (by omega), resolveLoop_end (by omega)]

theorem resolve_congr {recvMsg' : Mem} {len : Nat}
    (h : ∀ i ∈ (resolve recvMsg len n).reads, recvMsg' i = recvMsg i) :
    resolve recvMsg' len n = resolve recvMsg len n :=
  resolveLoop_congr h

end Itertk.Dns.Resolve
