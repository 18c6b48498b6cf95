import Mathlib.Algebra.GroupWithZero.Nat
import Itertk.Client.SendAck

/-!
# The write loop in memory

All serial output goes through `writen` or `writen_rs485`.  Both repeat a call on the rest
of the buffer, with a pointer that moves up as the count goes down; they differ in the call
(`write` or `ioctl`) and in the mutex, which `writen_rs485` holds and gives back before
each of its two `return` statements.

The loop is kept as the code has it, and `loop_refines` connects it with the loop on lists
that the answers of `UART_SEND_DATA` are computed with.  A list of results is a run up to
some moment: `none` is a routine that has not returned by then.

## Main results

* `loop_refines` — the loop in memory returns what the loop on lists does, and the port has
  accepted the same bytes.
* `writen_writenRs485_honest` — what is accepted is a prefix at every moment,
  and the value returned says whether it is all.
-/

namespace Itertk.Client.WriteLoop

open Itertk.Base.Memory
open Itertk.Daemon.State
open Itertk.Client.SendAck

/-! ## The loop -/

/-- What the device behind the descriptor has accepted, and whether a thread holds
`rs485_mutex`. -/
structure Port where
  accepted : List UInt8
  locked : Bool

/-- `pthread_mutex_lock(&rs485_mutex)`, when it returns: a thread that has to wait has
called neither `ioctl` nor `return` yet. -/
def Port.lock (p : Port) : Port := { p with locked := true }

/-- `pthread_mutex_unlock(&rs485_mutex)`. -/
def Port.unlock (p : Port) : Port := { p with locked := false }

/-- `nwriten` bytes are taken from `ptr` on. -/
def Port.take (p : Port) (buf : Mem) (ptr : Nat) (nwriten : Int) : Port :=
  { p with accepted := p.accepted ++ slice buf ptr nwriten.toNat }

/-- `while (nleft > 0)`, with the results of its calls; `leave` is what stands before each
`return`.  The sleep after a result of 0 changes nothing. -/
def loop (leave : Port → Port) (buf : Mem) (nbytes : Int) :
    List Int → Port → (ptr : Nat) → (nleft : Int) → Option Int × Port
  | [], p, _, nleft => if nleft > 0 then (none, p) else (some (nbytes - nleft), leave p)
  | nwriten :: rs, p, ptr, nleft =>
      if nleft > 0 then
        if nwriten < 0 then (some nwriten, leave p)
        else loop leave buf nbytes rs (p.take buf ptr nwriten) (ptr + nwriten.toNat)
          (nleft - nwriten)
      else (some (nbytes - nleft), leave p)

/-- `writen(fd, ptr, nbytes)`. -/
def writen (results : List Int) (p : Port) (buf : Mem) (nbytes : Int) : Option Int × Port :=
  loop id buf nbytes results p 0 nbytes

/-- `writen_rs485(fd, ptr, nbytes)`. -/
def writenRs485 (results : List Int) (p : Port) (buf : Mem) (nbytes : Int) :
    Option Int × Port :=
  loop Port.unlock buf nbytes results p.lock 0 nbytes

/-! ## The loop on lists -/

/-- The outcome `o` of the loop in memory, beside the outcome `l` of the loop on lists. -/
structure Matches (leave : Port → Port) (p : Port) (results : List Int)
    (l : Option Int × List Event) (o : Option Int × Port) : Prop where
  returned : o.1 = l.1
  accepted : o.2.accepted = p.accepted ++ acceptedBy results (portCalls l.2)
  locked : o.2.locked = if o.1 = none then p.locked else (leave p).locked

/-- What happens before a `return` leaves the accepted bytes alone and does not look at
them. -/
structure Leaves (leave : Port → Port) : Prop where
  accepted : ∀ p, (leave p).accepted = p.accepted
  locked : ∀ p q, p.locked = q.locked → (leave p).locked = (leave q).locked

private theorem leaves_id : Leaves id := ⟨fun _ => rfl, fun _ _ h => h⟩

private theorem leaves_unlock : Leaves Port.unlock := ⟨fun _ => rfl, fun _ _ _ => rfl⟩

variable {leave : Port → Port}

theorem slice_ne_nil {buf : Mem} {ptr n : Nat} (h : 0 < n) : slice buf ptr n ≠ [] := by
  intro hnil
  have hlen := congrArg List.length hnil
  rw [slice_length, List.length_nil] at hlen
  omega

/-- Nothing is left: neither loop looks at a result. -/
theorem loop_done (hleave : Leaves leave) (buf : Mem) (fd : Int) (nbytes : Nat)
    (results : List Int) (ptr : Nat) (p : Port) :
    Matches leave p results (writenLoop fd nbytes results (slice buf ptr 0))
      (loop leave buf nbytes results p ptr (0 : Nat)) := by
  have hloop : loop leave buf nbytes results p ptr (0 : Nat) = (some (nbytes : Int), leave p) := by
    cases results <;> simp [loop]
  have hlist : writenLoop fd nbytes results (slice buf ptr 0) = (some (nbytes : Int), []) := by
    cases results <;> simp [writenLoop, slice_zero]
  rw [hloop, hlist]
  refine ⟨rfl, ?_, rfl⟩
  show (leave p).accepted = p.accepted ++ acceptedBy results []
  rw [hleave.accepted, acceptedBy_nil, List.append_nil]

/-- The loop in memory follows the loop on lists.  The induction is on the results; the
pointer and the count move together, so the rest of the buffer is what the list has left. -/
theorem loop_refines (hleave : Leaves leave) (buf : Mem) (fd : Int) (nbytes : Nat)
    {results : List Int} {ptr n : Nat} (hkernel : Within n results) (p : Port) :
    Matches leave p results (writenLoop fd nbytes results (slice buf ptr n))
      (loop leave buf nbytes results p ptr n) := by
  induction results generalizing p ptr n with
  | nil =>
      by_cases hn : n = 0
      · rw [hn]
        exact loop_done hleave buf fd nbytes [] ptr p
      · have hpos : (n : Int) > 0 := by omega
        have hne : slice buf ptr n ≠ [] := slice_ne_nil (Nat.pos_of_ne_zero hn)
        rw [loop, writenLoop, if_pos hpos, if_neg hne]
        exact ⟨rfl, (List.append_nil _).symm, rfl⟩
  | cons r rs ih =>
      by_cases hn : n = 0
      · rw [hn]
        exact loop_done hleave buf fd nbytes (r :: rs) ptr p
      · obtain ⟨hle, hrest⟩ := hkernel.resolve_left hn
        have hpos : (n : Int) > 0 := by omega
        have hne : slice buf ptr n ≠ [] := slice_ne_nil (Nat.pos_of_ne_zero hn)
        rw [loop, writenLoop, if_pos hpos, if_neg hne]
        by_cases hr : r < 0
        · rw [if_pos hr, if_pos hr]
          refine ⟨rfl, ?_, rfl⟩
          rw [hleave.accepted, acceptedBy_failed hr, List.append_nil]
        · have hk : r.toNat ≤ n := by omega
          have hleft : (n : Int) - r = ((n - r.toNat : Nat) : Int) := by omega
          rw [if_neg hr, if_neg hr, hleft]
          dsimp only
          rw [drop_slice buf ptr hk]
          have hstep := @ih (ptr + r.toNat) (n - r.toNat) (hrest (by omega)) (p.take buf ptr r)
          refine ⟨hstep.returned, ?_, ?_⟩
          · rw [hstep.accepted, acceptedBy_took hr, take_slice buf ptr hk, ← List.append_assoc]
            rfl
          · rw [hstep.locked, hleave.locked (p.take buf ptr r) p rfl]
            rfl

/-! ## What the value returned says -/

/-- The first results of calls that keep the promise. -/
theorem within_take {n : Nat} {results : List Int} (h : Within n results) (k : Nat) :
    Within n (results.take k) := by
  induction results generalizing n k with
  | nil => simpa using h
  | cons r rs ih =>
      cases k with
      | zero => exact trivial
      | succ k =>
          rcases h with hn | ⟨hle, hrest⟩
          · exact .inl hn
          · exact .inr ⟨hle, fun hr => ih (hrest hr) k⟩

/-- The failing call comes behind calls that did not fail, and they accepted all that was
accepted. -/
theorem firstError_split {left a : Nat} {results : List Int} {r : Int}
    (h : firstError left results = some (a, r)) :
    ∃ before rest, results = before ++ r :: rest ∧ (∀ x ∈ before, 0 ≤ x) ∧
      a = (before.map Int.toNat).sum := by
  induction results generalizing left a with
  | nil => cases h
  | cons x rs ih =>
      rw [firstError] at h
      by_cases hleft : left = 0
      · rw [if_pos hleft] at h
        cases h
      · rw [if_neg hleft] at h
        by_cases hx : x < 0
        · rw [if_pos hx] at h
          cases h
          exact ⟨[], rs, rfl, by simp, rfl⟩
        · rw [if_neg hx] at h
          obtain ⟨⟨b, r'⟩, he, heq⟩ := Option.map_eq_some_iff.mp h
          cases heq
          obtain ⟨before, rest, hsplit, hnonneg, hsum⟩ := ih he
          refine ⟨x :: before, rest, by rw [hsplit]; rfl, ?_, by rw [hsum]; rfl⟩
          intro y hy
          rcases List.mem_cons.mp hy with rfl | hy
          · omega
          · exact hnonneg y hy

/-- What a call on `block` has `sent` after these results, and what it returned if it has:
the length exactly when all was sent, and otherwise the result of the call that failed,
behind calls that sent what was sent.  It goes on exactly as long as no result is an error and
the results are too few for the block, and has then sent as much as they say. -/
structure Faithful (block : List UInt8) (results : List Int) (sent : List UInt8)
    (ret : Option Int) : Prop where
  part : sent <+: block
  all : ret = some (block.length : Int) ↔ sent = block
  failed : ∀ r, ret = some r → r ≠ block.length →
    ∃ before rest, results = before ++ r :: rest ∧ r < 0 ∧ (∀ x ∈ before, 0 ≤ x) ∧
      sent = block.take (before.map Int.toNat).sum
  waiting : ret = none ↔ (∀ x ∈ results, 0 ≤ x) ∧ (results.map Int.toNat).sum < block.length
  taken : ret = none → sent = block.take (results.map Int.toNat).sum

/-- The loop waits for another result as long as those it has are not enough. -/
theorem writenLoop_none_iff {fd : Int} {nbytes : Nat} {rs : List Int} {data : List UInt8} :
    (writenLoop fd nbytes rs data).1 = none ↔
      (∀ x ∈ rs, 0 ≤ x) ∧ (rs.map Int.toNat).sum < data.length := by
  induction rs generalizing data with
  | nil =>
      rw [writenLoop]
      by_cases hdata : data = []
      · simp [hdata]
      · simp [hdata, List.length_pos_iff]
  | cons r rs ih =>
      rw [writenLoop]
      by_cases hdata : data = []
      · simp [hdata]
      · rw [if_neg hdata, List.map_cons, List.sum_cons, List.forall_mem_cons]
        by_cases hr : r < 0
        · rw [if_pos hr]
          exact iff_of_false (fun h => by cases h) fun h => by omega
        · rw [if_neg hr]
          refine ih.trans ?_
          rw [List.length_drop]
          have hpos := List.length_pos_iff.mpr hdata
          constructor
          · rintro ⟨hall, hlt⟩
            exact ⟨⟨by omega, hall⟩, by omega⟩
          · rintro ⟨⟨-, hall⟩, hlt⟩
            exact ⟨hall, by omega⟩

/-- Meanwhile all that the results say has been accepted. -/
theorem writenLoop_taken {fd : Int} {nbytes : Nat} {rs : List Int} {data : List UInt8}
    (h : (writenLoop fd nbytes rs data).1 = none) :
    acceptedBy rs (portCalls (writenLoop fd nbytes rs data).2) =
      data.take (rs.map Int.toNat).sum := by
  have hdata := writenLoop_blocked h
  induction rs generalizing data with
  | nil =>
      rw [writenLoop, if_neg hdata]
      rfl
  | cons r rs ih =>
      rw [writenLoop, if_neg hdata] at h ⊢
      by_cases hr : r < 0
      · rw [if_pos hr] at h
        cases h
      · rw [if_neg hr] at h ⊢
        rw [acceptedBy_took hr, ih h (writenLoop_blocked h), List.map_cons, List.sum_cons,
          List.take_add]

/-- While a call has not returned, not all of the block has been accepted. -/
theorem writenLoop_waiting {fd : Int} {nbytes : Nat} {rs : List Int} {data : List UInt8}
    (h : (writenLoop fd nbytes rs data).1 = none) :
    acceptedBy rs (portCalls (writenLoop fd nbytes rs data).2) ≠ data := by
  have hfew := (writenLoop_none_iff.mp h).2
  intro hall
  have hlen := congrArg List.length ((writenLoop_taken h).symm.trans hall)
  rw [List.length_take] at hlen
  omega

/-- The loop on lists is faithful in each way in which it can stand or end. -/
theorem writenLoop_faithful (fd : Int) (results : List Int) (block : List UInt8) :
    Faithful block results
      (acceptedBy results (portCalls (writenLoop fd block.length results block).2))
      (writenLoop fd block.length results block).1 := by
  have hwaiting := @writenLoop_none_iff fd block.length results block
  have htaken := @writenLoop_taken fd block.length results block
  cases writenLoop_accepted fd block.length results block with
  | waiting hnone hret hpart =>
      refine ⟨hpart, ?_, fun r hr => ?_, hwaiting, htaken⟩
      · refine iff_of_false (fun hall => ?_) (writenLoop_waiting hret)
        rw [hret] at hall
        cases hall
      · rw [hret] at hr
        cases hr
  | sent hnone hret hall =>
      refine ⟨by simp only [hall, List.prefix_refl], iff_of_true hret hall, fun r hr hne => ?_,
        hwaiting, htaken⟩
      rw [hret] at hr
      exact absurd (Option.some.inj hr).symm hne
  | failed a r hsome hret hsent =>
      obtain ⟨hlt, hneg⟩ := firstError_lt hsome
      refine ⟨by rw [hsent]; exact List.take_prefix _ _, ?_, fun r' hr' hne => ?_, hwaiting,
        htaken⟩
      · refine iff_of_false (fun hall => ?_) fun hall => ?_
        · have hr := Option.some.inj (hret.symm.trans hall)
          omega
        · have hlen := congrArg List.length (hsent.symm.trans hall)
          rw [List.length_take] at hlen
          omega
      · cases Option.some.inj (hret.symm.trans hr')
        obtain ⟨before, rest, hsplit, hnonneg, rfl⟩ := firstError_split hsome
        exact ⟨before, rest, hsplit, hneg, hnonneg, hsent⟩

/-- The loop in memory, on a whole buffer. -/
theorem loop_faithful (hleave : Leaves leave) (buf : Mem) {nbytes : Nat} {results : List Int}
    (hkernel : Within nbytes results) (p : Port) :
    ∃ sent, (loop leave buf nbytes results p 0 nbytes).2.accepted = p.accepted ++ sent ∧
      Faithful (slice buf 0 nbytes) results sent (loop leave buf nbytes results p 0 nbytes).1 := by
  have hlist := writenLoop_faithful 0 results (slice buf 0 nbytes)
  rw [slice_length] at hlist
  have h : Matches leave p results (writenLoop 0 nbytes results (slice buf 0 nbytes))
      (loop leave buf nbytes results p 0 nbytes) := loop_refines hleave buf 0 nbytes hkernel p
  refine ⟨_, h.accepted, ?_⟩
  rw [h.returned]
  exact hlist

/-! ## The two routines -/

/-- One run of a routine, at every moment `k`: what has been accepted is a prefix of the
buffer, and what has been returned tells the truth about it. -/
def Truthful (run : List Int → Option Int × Port) (p : Port) (block : List UInt8)
    (results : List Int) : Prop :=
  ∀ k, ∃ sent, (run (results.take k)).2.accepted = p.accepted ++ sent ∧
    Faithful block (results.take k) sent (run (results.take k)).1

/-- `rs485_mutex` is held until the routine returns, and free from then on. -/
def ReleasesMutex (run : List Int → Option Int × Port) (results : List Int) : Prop :=
  ∀ k, (run (results.take k)).2.locked = (run (results.take k)).1.isNone

private theorem writen_truthful (buf : Mem) {nbytes : Nat} {results : List Int}
    (hkernel : Within nbytes results) (p : Port) :
    Truthful (writen · p buf nbytes) p (slice buf 0 nbytes) results :=
  fun k => loop_faithful leaves_id buf (within_take hkernel k) p

private theorem writenRs485_truthful (buf : Mem) {nbytes : Nat} {results : List Int}
    (hkernel : Within nbytes results) (p : Port) :
    Truthful (writenRs485 · p buf nbytes) p (slice buf 0 nbytes) results :=
  fun k => loop_faithful leaves_unlock buf (within_take hkernel k) p.lock

private theorem writenRs485_releases (buf : Mem) {nbytes : Nat} {results : List Int}
    (hkernel : Within nbytes results) (p : Port) :
    ReleasesMutex (writenRs485 · p buf nbytes) results := by
  intro k
  have h : Matches Port.unlock p.lock (results.take k)
      (writenLoop 0 nbytes (results.take k) (slice buf 0 nbytes))
      (writenRs485 (results.take k) p buf nbytes) :=
    loop_refines leaves_unlock buf 0 nbytes (within_take hkernel k) p.lock
  dsimp only
  rw [h.locked]
  cases (writenRs485 (results.take k) p buf nbytes).1 <;> rfl

/-- Both routines, on every buffer and every sequence of results. -/
theorem writen_writenRs485_honest (buf : Mem) {nbytes : Nat} {results : List Int}
    (hkernel : Within nbytes results) (p : Port) :
    Truthful (writen · p buf nbytes) p (slice buf 0 nbytes) results ∧
      Truthful (writenRs485 · p buf nbytes) p (slice buf 0 nbytes) results ∧
      ReleasesMutex (writenRs485 · p buf nbytes) results :=
  ⟨writen_truthful buf hkernel p, writenRs485_truthful buf hkernel p,
    writenRs485_releases buf hkernel p⟩

/-- Bytes that differ from their neighbours. -/
def countingBuf : Mem := fun i => UInt8.ofNat (i + 1)

/-- Five bytes: two are taken, none, one, and then the call fails. -/
theorem writen_writenRs485_honest_shortWrite :
    Within 5 [2, 0, 1, -1] ∧
      Truthful (writen · ⟨[], false⟩ countingBuf (5 : Nat)) ⟨[], false⟩ (slice countingBuf 0 5)
        [2, 0, 1, -1] ∧
      Truthful (writenRs485 · ⟨[], false⟩ countingBuf (5 : Nat)) ⟨[], false⟩ (slice countingBuf 0 5)
        [2, 0, 1, -1] ∧
      ReleasesMutex (writenRs485 · ⟨[], false⟩ countingBuf (5 : Nat)) [2, 0, 1, -1] := by
  have hkernel : Within 5 [2, 0, 1, -1] := by simp [Within]
  exact ⟨hkernel, writen_writenRs485_honest countingBuf hkernel ⟨[], false⟩⟩

end Itertk.Client.WriteLoop
