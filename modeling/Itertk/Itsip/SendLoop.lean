import Itertk.Itsip.RecvLoop

/-!
# The send loop in memory

`net_conn_send` is two calls of `net_conn_send_pkt`, and the result of the first is
overwritten by that of the second.  That loses nothing: every failure of the first has
closed the connection, on which the second fails before it sends a byte.

The loop is kept as the code has it, with a pointer that moves through the block and a
clock that is read once before the loop and again in its turns.  The daemon's
`net_conn_send` holds the lock of the connection around the same two calls.

## Main results

* `loop_refines` — on every sequence of results the loop in memory hands over what
  `sendLoop` says.
* `netConnSend_allOrClosed` — all was accepted, or a part and the connection is closed.
-/

namespace Itertk.Itsip.SendLoop

open Itertk.Base.Memory
open Itertk.Itsip.Socket
open Itertk.Itsip.RecvLoop (Expired elapsed timedOut_elapsed)

/-! ## The loop -/

/-- What one turn finds; the arguments are the readings of `system_mscount_get`. -/
inductive Turn where
  /-- `select` fails with `EINTR`. -/
  | interrupted
  | selectFailed
  /-- `select` returns 0. -/
  | quiet (msCnt2 : UInt64)
  /-- The socket is writable and `send` returns a count. -/
  | sent (sendCnt : Nat) (msCnt3 : UInt64)
  /-- `send` returns -1. -/
  | sendFailed

/-- What the socket has accepted, `client_conn > 0`, and whether a thread holds
`conn_info->lock`. -/
structure World where
  accepted : List UInt8
  isOpen : Bool
  locked : Bool

/-- `net_conn_close`. -/
def World.close (w : World) : World := { w with isOpen := false }

/-- `send` takes `cnt` bytes from `ptr` on. -/
def World.send (w : World) (buf : Mem) (ptr cnt : Nat) : World :=
  { w with accepted := w.accepted ++ slice buf ptr cnt }

/-- The loop, with its locals; `none` is a call that has not returned. -/
def loop : List Turn → World → (buf : Mem) → (ptr : Nat) → (totalLength : Int) →
    (msCnt1 : UInt64) → Option (Bool × World)
  | [], _, _, _, _, _ => none
  | .interrupted :: ts, w, buf, ptr, n, ms1 => loop ts w buf ptr n ms1
  | .selectFailed :: _, w, _, _, _, _ => some (false, w.close)
  | .quiet ms2 :: ts, w, buf, ptr, n, ms1 =>
      if Expired ms1 ms2 then some (false, w.close) else loop ts w buf ptr n ms1
  | .sendFailed :: _, w, _, _, _, _ => some (false, w.close)
  | .sent cnt ms3 :: ts, w, buf, ptr, n, ms1 =>
      let w := w.send buf ptr cnt
      if cnt = 0 then some (false, w.close)
      else if n - cnt = 0 then some (true, w)
      else if Expired ms1 ms3 then some (false, w.close)
      else loop ts w buf (ptr + cnt) (n - cnt) ms1

/-- The results that one call of `net_conn_send_pkt` meets, after its first look at the
clock. -/
structure PktRun where
  msCnt1 : UInt64
  turns : List Turn

/-- `net_conn_send_pkt(conn, net_data, len)`. -/
def netConnSendPkt (run : PktRun) (w : World) (netData : Mem) (len : Int) :
    Option (Bool × World) :=
  if w.isOpen then loop run.turns w netData 0 len run.msCnt1 else some (false, w)

/-- The two calls of `net_conn_send(conn, head, data, len)`. -/
def sendPkts (headRun dataRun : PktRun) (w : World) (netHead : Mem) (netData : Option Mem)
    (len : Nat) : Option (Bool × World) :=
  match netConnSendPkt headRun w netHead headSize with
  | none => none
  | some ret =>
      match netData with
      | some m => if len > 0 then netConnSendPkt dataRun ret.2 m maxLength else some ret
      | none => some ret

/-- The two ends of a connection. -/
inductive Side where
  | daemon
  | itslib

/-- `net_conn_send`.  The daemon's waits for the lock and gives it back. -/
def netConnSend (side : Side) (headRun dataRun : PktRun) (w : World) (netHead : Mem)
    (netData : Option Mem) (len : Nat) : Option (Bool × World) :=
  match side with
  | .itslib => sendPkts headRun dataRun w netHead netData len
  | .daemon =>
      if w.locked then none
      else
        (sendPkts headRun dataRun { w with locked := true } netHead netData len).map fun ret =>
          (ret.1, { ret.2 with locked := false })

/-- What `send` promises: it accepts no more bytes than it is given. -/
def Plausible : List Turn → Nat → Prop
  | [], _ => True
  | .sent cnt _ :: ts, n => cnt ≤ n ∧ Plausible ts (n - cnt)
  | .interrupted :: ts, n | .selectFailed :: ts, n | .quiet _ :: ts, n | .sendFailed :: ts, n =>
      Plausible ts n

/-! ## The script of a run -/

/-- The turns as `sendLoop` is told of them; `ms_cnt1` stays as it is. -/
def script (ms1 : UInt64) : Turn → SendPoll
  | .interrupted => .interrupted
  | .selectFailed => .selectFailed
  | .quiet ms2 => .quiet (elapsed ms1 ms2)
  | .sent cnt ms3 => .taken cnt (elapsed ms1 ms3)
  | .sendFailed => .sendFailed

/-- The world after a loop that ended with `r`. -/
structure Handed (w : World) (r : SendResult) (ok : Bool) (w' : World) : Prop where
  result : r.ok = ok
  accepted : w'.accepted = w.accepted ++ r.sent
  isOpen : w'.isOpen = ok
  locked : w'.locked = w.locked

variable {w w' : World} {ok : Bool}

/-- The loop failed before it sent anything. -/
theorem Handed.nothing (w : World) {ps : List SendPoll} :
    Handed w ⟨false, [], ps⟩ false w.close where
  result := rfl
  accepted := (List.append_nil _).symm
  isOpen := rfl
  locked := rfl

/-- What a `send` takes stands before what the later turns take. -/
theorem Handed.behind {buf : Mem} {ptr cnt : Nat} {r : SendResult}
    (h : Handed (w.send buf ptr cnt) r ok w') :
    Handed w { r with sent := slice buf ptr cnt ++ r.sent } ok w' where
  result := h.result
  accepted := by
    rw [h.accepted, ← List.append_assoc]
    rfl
  isOpen := h.isOpen
  locked := h.locked

/-- The loop in memory does what `sendLoop` says of its script.  The induction is on the
turns; the pointer moves as the count goes down. -/
theorem loop_refines {ts : List Turn} {buf : Mem} {ptr n : Nat} {ms1 : UInt64}
    (hkernel : Plausible ts n) (hopen : w.isOpen = true)
    (h : loop ts w buf ptr n ms1 = some (ok, w')) :
    Handed w (sendLoop (slice buf ptr n) (ts.map (script ms1))) ok w' := by
  induction ts generalizing w ptr n with
  | nil => cases h
  | cons t ts ih =>
      rw [List.map_cons]
      cases t with
      | interrupted => exact ih hkernel hopen h
      | selectFailed | sendFailed =>
          cases h
          exact .nothing w
      | quiet ms2 =>
          rw [loop] at h
          rw [script, sendLoop]
          by_cases hx : Expired ms1 ms2
          · rw [if_pos hx] at h
            rw [if_pos ((timedOut_elapsed ms1 ms2).mpr hx)]
            cases h
            exact .nothing w
          · rw [if_neg hx] at h
            rw [if_neg fun ht => hx ((timedOut_elapsed ms1 ms2).mp ht)]
            exact ih hkernel hopen h
      | sent cnt ms3 =>
          obtain ⟨hn, hrest⟩ := hkernel
          have hmin : min cnt n = cnt := Nat.min_eq_left hn
          simp only [loop] at h
          simp only [script, sendLoop, slice_length, hmin]
          by_cases h0 : cnt = 0
          · subst h0
            rw [if_pos rfl] at h ⊢
            cases h
            have hnone : w.send buf ptr 0 = w := by
              rw [World.send, slice_zero, List.append_nil]
            rw [hnone]
            exact .nothing w
          · rw [if_neg h0] at h ⊢
            by_cases hall : n - cnt = 0
            · rw [if_pos (by omega)] at h
              rw [if_pos hall]
              cases h
              obtain rfl : n = cnt := by omega
              exact ⟨rfl, rfl, hopen, rfl⟩
            · rw [if_neg (by omega)] at h
              rw [if_neg hall, take_slice buf ptr hn]
              by_cases hx : Expired ms1 ms3
              · rw [if_pos hx] at h
                rw [if_pos ((timedOut_elapsed ms1 ms3).mpr hx)]
                cases h
                exact ⟨rfl, rfl, rfl, rfl⟩
              · rw [if_neg hx] at h
                rw [if_neg fun ht => hx ((timedOut_elapsed ms1 ms3).mp ht), drop_slice buf ptr hn]
                rw [← Int.ofNat_sub hn] at h
                have hopen' : (w.send buf ptr cnt).isOpen = true := hopen
                exact (ih hrest hopen' h).behind

/-! ## All or closed -/

/-- Less than the block has been accepted when the loop fails. -/
theorem sendLoop_short {bytes : List UInt8} {ps : List SendPoll} (hne : bytes ≠ [])
    (h : (sendLoop bytes ps).ok = false) :
    ∃ k, k < bytes.length ∧ (sendLoop bytes ps).sent = bytes.take k := by
  have hlen : 0 < bytes.length := List.length_pos_iff.mpr hne
  induction ps generalizing bytes with
  | nil =>
      rw [sendLoop, if_neg hne] at h
      cases h
  | cons p ps ih =>
      cases p with
      | interrupted => exact ih hne h hlen
      | selectFailed | sendFailed => exact ⟨0, hlen, rfl⟩
      | quiet elapsed =>
          rw [sendLoop] at h ⊢
          by_cases ht : TimedOut elapsed
          · rw [if_pos ht]
            exact ⟨0, hlen, rfl⟩
          · rw [if_neg ht] at h ⊢
            exact ih hne h hlen
      | taken room elapsed =>
          simp only [sendLoop] at h ⊢
          by_cases h0 : min room bytes.length = 0
          · rw [if_pos h0]
            exact ⟨0, hlen, rfl⟩
          · rw [if_neg h0] at h ⊢
            by_cases hall : bytes.length - min room bytes.length = 0
            · rw [if_pos hall] at h
              cases h
            · rw [if_neg hall] at h ⊢
              by_cases ht : TimedOut elapsed
              · rw [if_pos ht]
                exact ⟨_, by omega, rfl⟩
              · rw [if_neg ht] at h ⊢
                have hdrop : (bytes.drop (min room bytes.length)).length =
                    bytes.length - min room bytes.length := List.length_drop
                have hpos : 0 < (bytes.drop (min room bytes.length)).length := by omega
                obtain ⟨k, hk, hsent⟩ := ih (List.length_pos_iff.mp hpos) h hpos
                refine ⟨min room bytes.length + k, by omega, ?_⟩
                rw [List.take_add]
                exact congrArg _ hsent

/-- `SUCCESS` is returned exactly when the bytes have all been accepted, in order;
otherwise the first of them have, and the connection is closed. -/
structure AllOrClosed (w : World) (bytes : List UInt8) (ok : Bool) (w' : World) : Prop where
  all : ok = true ↔ w'.accepted = w.accepted ++ bytes
  part : ok = false → ∃ k, w'.accepted = w.accepted ++ bytes.take k ∧ w'.isOpen = false

/-- `SUCCESS` with everything accepted. -/
theorem AllOrClosed.success {bytes : List UInt8} (h : w'.accepted = w.accepted ++ bytes) :
    AllOrClosed w bytes true w' :=
  ⟨iff_of_true rfl h, fun hok => absurd hok.symm Bool.false_ne_true⟩

/-- `FAILURE` with less accepted. -/
theorem AllOrClosed.failure {bytes : List UInt8} {k : Nat} (hk : k < bytes.length)
    (h : w'.accepted = w.accepted ++ bytes.take k) (hclosed : w'.isOpen = false) :
    AllOrClosed w bytes false w' := by
  refine ⟨iff_of_false Bool.false_ne_true fun hall => ?_, fun _ => ⟨k, h, hclosed⟩⟩
  have hlen := congrArg List.length (List.append_cancel_left (h.symm.trans hall))
  rw [List.length_take] at hlen
  omega

/-- What a call that failed has accepted is less than all. -/
theorem AllOrClosed.short {bytes : List UInt8} (h : AllOrClosed w bytes false w') :
    ∃ k, k < bytes.length ∧ w'.accepted = w.accepted ++ bytes.take k ∧ w'.isOpen = false := by
  obtain ⟨k, hpart, hclosed⟩ := h.part rfl
  refine ⟨k, Nat.not_le.mp fun hle => ?_, hpart, hclosed⟩
  rw [List.take_of_length_le hle] at hpart
  exact Bool.false_ne_true (h.all.mpr hpart)

/-- A call behind one that succeeded. -/
theorem AllOrClosed.append {w₁ : World} {a b : List UInt8} (h : AllOrClosed w a true w₁)
    (h' : AllOrClosed w₁ b ok w') : AllOrClosed w (a ++ b) ok w' := by
  have hall := h.all.mp rfl
  cases ok with
  | true => exact .success (by rw [h'.all.mp rfl, hall, List.append_assoc])
  | false =>
      obtain ⟨k, hk, hpart, hclosed⟩ := h'.short
      refine .failure (k := a.length + k) ?_ ?_ hclosed
      · rw [List.length_append]
        omega
      · rw [hpart, hall, List.append_assoc, List.take_length_add_append]

/-- After a call that failed nothing more is sent. -/
theorem AllOrClosed.cut {a : List UInt8} (h : AllOrClosed w a false w') (b : List UInt8) :
    AllOrClosed w (a ++ b) false w' := by
  obtain ⟨k, hk, hpart, hclosed⟩ := h.short
  refine .failure (k := k) ?_ ?_ hclosed
  · rw [List.length_append]
    omega
  · rw [hpart, List.take_append_of_le_length (Nat.le_of_lt hk)]

/-- One block: what `net_conn_send_pkt` leaves. -/
theorem netConnSendPkt_allOrClosed {run : PktRun} {buf : Mem} {n : Nat}
    (hkernel : Plausible run.turns n) (hpos : 0 < n)
    (h : netConnSendPkt run w buf n = some (ok, w')) :
    w'.locked = w.locked ∧ AllOrClosed w (slice buf 0 n) ok w' := by
  have hlen : (slice buf 0 n).length = n := slice_length buf 0 n
  unfold netConnSendPkt at h
  by_cases hopen : w.isOpen = true
  · rw [if_pos hopen] at h
    have hr := loop_refines hkernel hopen h
    refine ⟨hr.locked, ?_⟩
    cases ok with
    | true =>
        have hall := hr.accepted
        rw [sendLoop_ok hr.result] at hall
        exact .success hall
    | false =>
        obtain ⟨k, hk, hsent⟩ :=
          sendLoop_short (List.length_pos_iff.mp (by rw [hlen]; exact hpos)) hr.result
        exact .failure hk (by rw [hr.accepted, hsent]) hr.isOpen
  · rw [if_neg hopen] at h
    cases h
    exact ⟨rfl, .failure (k := 0) (by rw [hlen]; exact hpos) (List.append_nil _).symm
      (Bool.eq_false_iff.mpr hopen)⟩

/-- A closed connection is not sent on. -/
theorem netConnSendPkt_closed {run : PktRun} {buf : Mem} {n : Int} (hclosed : w.isOpen = false) :
    netConnSendPkt run w buf n = some (false, w) := by
  unfold netConnSendPkt
  rw [if_neg (by rw [hclosed]; exact Bool.false_ne_true)]

/-- The two calls of `net_conn_send`: the second finds the connection closed when the
first has failed. -/
theorem sendPkts_allOrClosed {headRun dataRun : PktRun} {netHead : Mem} {netData : Option Mem}
    {len : Nat} (hhead : Plausible headRun.turns headSize)
    (hdata : Plausible dataRun.turns maxLength)
    (h : sendPkts headRun dataRun w netHead netData len = some (ok, w')) :
    w'.locked = w.locked ∧
      AllOrClosed w (slice netHead 0 headSize ++ behindHead netData len) ok w' := by
  unfold sendPkts at h
  cases hret : netConnSendPkt headRun w netHead headSize with
  | none =>
      rw [hret] at h
      cases h
  | some ret =>
      obtain ⟨ok₁, w₁⟩ := ret
      rw [hret] at h
      obtain ⟨hlock, hfirst⟩ := netConnSendPkt_allOrClosed hhead (by decide) hret
      -- what the first call leaves is what the function leaves without a block
      have halone : behindHead netData len = [] → ok₁ = ok → w₁ = w' → w'.locked = w.locked ∧
          AllOrClosed w (slice netHead 0 headSize ++ behindHead netData len) ok w' := by
        rintro hnone rfl rfl
        rw [hnone, List.append_nil]
        exact ⟨hlock, hfirst⟩
      cases netData with
      | none =>
          obtain ⟨hok, hw⟩ := Prod.mk.inj (Option.some.inj h)
          exact halone rfl hok hw
      | some m =>
          by_cases hl : len > 0
          · simp only [if_pos hl] at h
            have hbehind : behindHead (some m) len = slice m 0 maxLength := if_pos hl
            rw [hbehind]
            cases ok₁ with
            | true =>
                obtain ⟨hlock', hsecond⟩ := netConnSendPkt_allOrClosed hdata (by decide) h
                exact ⟨hlock'.trans hlock, hfirst.append hsecond⟩
            | false =>
                obtain ⟨-, -, -, hclosed⟩ := hfirst.short
                rw [netConnSendPkt_closed hclosed] at h
                cases h
                exact ⟨hlock, hfirst.cut _⟩
          · simp only [if_neg hl] at h
            obtain ⟨hok, hw⟩ := Prod.mk.inj (Option.some.inj h)
            exact halone (if_neg hl) hok hw

/-! ## The two copies -/

/-- The world with the lock taken or free. -/
def World.setLock (w : World) (b : Bool) : World := { w with locked := b }

/-- A result with the lock taken or free. -/
def setLock (b : Bool) (ret : Bool × World) : Bool × World := (ret.1, ret.2.setLock b)

/-- The loop does not look at the lock. -/
theorem loop_setLock (ts : List Turn) (w : World) (buf : Mem) (ptr : Nat) (n : Int) (ms1 : UInt64)
    (b : Bool) :
    loop ts (w.setLock b) buf ptr n ms1 = (loop ts w buf ptr n ms1).map (setLock b) := by
  induction ts generalizing w ptr n with
  | nil => rfl
  | cons t ts ih =>
      cases t with
      | interrupted => exact ih w ptr n
      | selectFailed | sendFailed => rfl
      | quiet ms2 =>
          rw [loop, loop]
          by_cases hx : Expired ms1 ms2
          · rw [if_pos hx, if_pos hx]
            rfl
          · rw [if_neg hx, if_neg hx]
            exact ih w ptr n
      | sent cnt ms3 =>
          simp only [loop]
          by_cases h0 : cnt = 0
          · rw [if_pos h0, if_pos h0]
            rfl
          · rw [if_neg h0, if_neg h0]
            by_cases hall : n - cnt = 0
            · rw [if_pos hall, if_pos hall]
              rfl
            · rw [if_neg hall, if_neg hall]
              by_cases hx : Expired ms1 ms3
              · rw [if_pos hx, if_pos hx]
                rfl
              · rw [if_neg hx, if_neg hx]
                exact ih (w.send buf ptr cnt) (ptr + cnt) (n - cnt)

private theorem netConnSendPkt_setLock (run : PktRun) (w : World) (buf : Mem) (n : Int) (b : Bool) :
    netConnSendPkt run (w.setLock b) buf n = (netConnSendPkt run w buf n).map (setLock b) := by
  have hopen : (w.setLock b).isOpen = w.isOpen := rfl
  unfold netConnSendPkt
  rw [hopen]
  by_cases h : w.isOpen = true
  · rw [if_pos h, if_pos h]
    exact loop_setLock run.turns w buf 0 n run.msCnt1 b
  · rw [if_neg h, if_neg h]
    rfl

private theorem sendPkts_setLock (headRun dataRun : PktRun) (w : World) (netHead : Mem)
    (netData : Option Mem) (len : Nat) (b : Bool) :
    sendPkts headRun dataRun (w.setLock b) netHead netData len =
      (sendPkts headRun dataRun w netHead netData len).map (setLock b) := by
  unfold sendPkts
  rw [netConnSendPkt_setLock]
  cases netConnSendPkt headRun w netHead headSize with
  | none => rfl
  | some ret =>
      cases netData with
      | none => rfl
      | some m =>
          by_cases hl : len > 0
          · simp only [Option.map_some, if_pos hl]
            exact netConnSendPkt_setLock dataRun ret.2 m maxLength b
          · simp only [Option.map_some, if_neg hl]

/-- On a free lock the daemon's copy does what the library's does. -/
theorem netConnSend_daemon (headRun dataRun : PktRun) {w : World} (hfree : w.locked = false)
    (netHead : Mem) (netData : Option Mem) (len : Nat) :
    netConnSend .daemon headRun dataRun w netHead netData len =
      netConnSend .itslib headRun dataRun w netHead netData len := by
  have htwice : setLock false ∘ setLock true = setLock false := rfl
  have hsame : w.setLock false = w := by rw [World.setLock, ← hfree]
  show (if w.locked then none
    else (sendPkts headRun dataRun (w.setLock true) netHead netData len).map (setLock false)) =
      sendPkts headRun dataRun w netHead netData len
  rw [if_neg (by rw [hfree]; exact Bool.false_ne_true), sendPkts_setLock, Option.map_map, htwice,
    ← sendPkts_setLock, hsame]

/-- Whatever `select`, `send` and the clock return, at either end: `net_conn_send` has sent
all and says so, or it has closed the connection behind a part. -/
theorem netConnSend_allOrClosed {side : Side} {headRun dataRun : PktRun} {netHead : Mem}
    {netData : Option Mem} {len : Nat} (hhead : Plausible headRun.turns headSize)
    (hdata : Plausible dataRun.turns maxLength)
    (h : netConnSend side headRun dataRun w netHead netData len = some (ok, w')) :
    AllOrClosed w (slice netHead 0 headSize ++ behindHead netData len) ok w' ∧
      (w.locked = false → ∀ other,
        netConnSend other headRun dataRun w netHead netData len = some (ok, w')) := by
  have hlib : ∀ {v : World} {ret : World},
      sendPkts headRun dataRun v netHead netData len = some (ok, ret) →
        AllOrClosed v (slice netHead 0 headSize ++ behindHead netData len) ok ret :=
    fun hv => (sendPkts_allOrClosed hhead hdata hv).2
  constructor
  · cases side with
    | itslib => exact hlib h
    | daemon =>
        unfold netConnSend at h
        by_cases hlocked : w.locked = true
        · simp only [if_pos hlocked] at h
          cases h
        · simp only [if_neg hlocked] at h
          obtain ⟨⟨ok', v⟩, hv, heq⟩ := Option.map_eq_some_iff.mp h
          obtain ⟨rfl, rfl⟩ := Prod.mk.inj heq
          exact ⟨(hlib hv).all, (hlib hv).part⟩
  · intro hfree other
    have hsame := netConnSend_daemon headRun dataRun hfree netHead netData len
    cases side with
    | itslib =>
        cases other with
        | itslib => exact h
        | daemon => exact hsame.trans h
    | daemon =>
        cases other with
        | itslib => exact hsame.symm.trans h
        | daemon => exact h

/-- A header that is taken in two parts. -/
def inTwoParts : PktRun := ⟨0, [.interrupted, .sent 40 10, .quiet 20, .sent 16 30]⟩

/-- And the block behind it. -/
def blockInTwoParts : PktRun := ⟨40, [.sent 1000 50, .interrupted, .sent 24 60]⟩

/-- Bytes that differ from their neighbours. -/
def someBlock : Mem := fun i => UInt8.ofNat i

theorem netConnSend_inTwoParts :
    ∃ w', netConnSend .daemon inTwoParts blockInTwoParts ⟨[], true, false⟩ zero (some someBlock) 4 =
        some (true, w') ∧
      AllOrClosed ⟨[], true, false⟩ (slice zero 0 headSize ++ behindHead (some someBlock) 4) true
        w' := by
  have hhead : Plausible inTwoParts.turns headSize := ⟨by decide, by decide, trivial⟩
  have hdata : Plausible blockInTwoParts.turns maxLength := ⟨by decide, by decide, trivial⟩
  have hrun : netConnSend .daemon inTwoParts blockInTwoParts ⟨[], true, false⟩ zero
      (some someBlock) 4 =
        some (true, ⟨slice zero 0 40 ++ slice zero 40 16 ++ slice someBlock 0 1000 ++
          slice someBlock 1000 24, true, false⟩) := rfl
  exact ⟨_, hrun, (netConnSend_allOrClosed hhead hdata hrun).1⟩

end Itertk.Itsip.SendLoop
