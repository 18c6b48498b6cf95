import Itertk.Itsip.Socket

/-!
# The receive loop of the daemon in memory

`recvLoop` says which bytes `web_conn_recv` stores.  Here the loop is kept as the
code has it: a pointer that moves through the destination, a count of bytes still to
come, a clock that is read in every turn, and a stream from which `recv` hands out as
many bytes as it likes.

## Main results

* `loop_refines` — on every sequence of results the loop in memory stores, one behind
  the other, the bytes that `recvLoop` lists.
* `webConnRecvInto_delivers` — on `SUCCESS` the destination holds the next `len` bytes
  of the stream, and these alone are gone from it.
-/

namespace Itertk.Itsip.RecvLoop

open Itertk.Base.Memory
open Itertk.Itsip.Socket

/-! ## The loop -/

/-- What one turn finds; the arguments are the readings of `system_mscount_get`. -/
inductive Turn where
  /-- `select` fails with `EINTR`. -/
  | interrupted
  | selectFailed
  /-- `select` returns 0. -/
  | quiet (msCnt2 : UInt64)
  /-- The socket is readable and `recv` returns a count, 0 at the end of the stream. -/
  | recv (recvCnt : Nat) (msCnt1 msCnt3 : UInt64)
  /-- `recv` returns -1, with `ECONNRESET` or otherwise. -/
  | recvFailed (reset : Bool) (msCnt1 : UInt64)

/-- The memory, the stream behind the socket, and `client_conn > 0`. -/
structure World where
  mem : Mem
  stream : List UInt8
  isOpen : Bool

/-- `net_conn_close`. -/
def World.close (w : World) : World := { w with isOpen := false }

/-- `recv` puts `cnt` bytes at `p`. -/
def World.recv (w : World) (p cnt : Nat) : World :=
  { w with mem := blit w.mem p (w.stream.take cnt), stream := w.stream.drop cnt }

/-- `ms > ms_cnt1 && ms - ms_cnt1 >= TIMEOUT_CNT`. -/
def Expired (msCnt1 ms : UInt64) : Prop := ms > msCnt1 ∧ ms - msCnt1 ≥ UInt64.ofNat timeoutCnt

instance (msCnt1 ms : UInt64) : Decidable (Expired msCnt1 ms) :=
  inferInstanceAs (Decidable (_ ∧ _))

/-- The loop, with its locals.  `total_length` is an `int`, of which only the bits
matter; `none` is a call that has not returned. -/
def loop : List Turn → World → (pNetData : Nat) → (totalLength : UInt32) → (msCnt1 : UInt64) →
    Option (Bool × World)
  | [], _, _, _, _ => none
  | .interrupted :: ts, w, p, n, ms1 => loop ts w p n ms1
  | .selectFailed :: _, w, _, _, _ => some (false, w.close)
  | .quiet ms2 :: ts, w, p, n, ms1 =>
      if Expired ms1 ms2 then some (false, w.close) else loop ts w p n ms1
  | .recvFailed reset _ :: _, w, _, _, _ => some (false, if reset then w.close else w)
  | .recv cnt ms1 ms3 :: ts, w, p, n, _ =>
      let w := w.recv p cnt
      if cnt = 0 then some (false, w.close)
      else if n - UInt32.ofNat cnt = 0 then some (true, w)
      else if Expired ms1 ms3 then some (false, w.close)
      else loop ts w (p + cnt) (n - UInt32.ofNat cnt) ms1

/-- `web_conn_recv(conn, net_data, len)` started at `msCnt1`. -/
def webConnRecvInto (ts : List Turn) (w : World) (netData : Nat) (len : UInt32)
    (msCnt1 : UInt64) : Option (Bool × World) :=
  if w.isOpen then loop ts w netData len msCnt1 else some (false, w)

/-- What `recv` promises: it returns no more bytes than are left to ask for, and no
more than the stream has. -/
def Plausible : List Turn → List UInt8 → UInt32 → Prop
  | [], _, _ => True
  | .recv cnt _ _ :: ts, stream, n =>
      cnt ≤ n.toNat ∧ cnt ≤ stream.length ∧
        (cnt < n.toNat → Plausible ts (stream.drop cnt) (n - UInt32.ofNat cnt))
  | .interrupted :: ts, stream, n => Plausible ts stream n
  | .selectFailed :: ts, stream, n => Plausible ts stream n
  | .quiet _ :: ts, stream, n => Plausible ts stream n
  | .recvFailed _ _ :: ts, stream, n => Plausible ts stream n

/-! ## The script of a run -/

/-- The milliseconds from one reading to a later one. -/
def elapsed (ms ms' : UInt64) : Nat := ms'.toNat - ms.toNat

theorem timedOut_elapsed (ms ms' : UInt64) : TimedOut (elapsed ms ms') ↔ Expired ms ms' := by
  unfold TimedOut Expired elapsed
  rw [gt_iff_lt, UInt64.lt_iff_toNat_lt, ge_iff_le, UInt64.le_iff_toNat_le]
  have htimeout : (UInt64.ofNat timeoutCnt).toNat = timeoutCnt := by decide
  rw [htimeout]
  constructor
  · rintro ⟨hpos, hle⟩
    have hlt : ms.toNat < ms'.toNat := by omega
    rw [UInt64.toNat_sub_of_le _ _ (UInt64.le_iff_toNat_le.mpr (Nat.le_of_lt hlt))]
    exact ⟨hlt, hle⟩
  · rintro ⟨hlt, hle⟩
    rw [UInt64.toNat_sub_of_le _ _ (UInt64.le_iff_toNat_le.mpr (Nat.le_of_lt hlt))] at hle
    exact ⟨by omega, hle⟩

/-- The turns as `recvLoop` is told of them. -/
def script : List Turn → List UInt8 → (msCnt1 : UInt64) → List RecvPoll
  | [], _, _ => []
  | .interrupted :: ts, stream, ms1 => .interrupted :: script ts stream ms1
  | .selectFailed :: ts, stream, ms1 => .selectFailed :: script ts stream ms1
  | .quiet ms2 :: ts, stream, ms1 => .quiet (elapsed ms1 ms2) :: script ts stream ms1
  | .recvFailed reset ms1 :: ts, stream, _ => .recvFailed reset :: script ts stream ms1
  | .recv cnt ms1 ms3 :: ts, stream, _ =>
      .data (stream.take cnt) (elapsed ms1 ms3) :: script ts (stream.drop cnt) ms1

/-- The world after a loop that ended with `r`, when its pointer was `p`. -/
structure Stored (w : World) (p : Nat) (r : RecvResult) (w' : World) : Prop where
  mem : w'.mem = blit w.mem p r.bytes
  bytes : r.bytes = w.stream.take r.bytes.length
  stream : w'.stream = w.stream.drop r.bytes.length
  isOpen : w'.isOpen = r.isOpen

/-- Nothing was read before the loop ended. -/
theorem Stored.nothing {w : World} {p : Nat} {r : RecvResult} {w' : World} (hbytes : r.bytes = [])
    (hmem : w'.mem = w.mem) (hstream : w'.stream = w.stream) (hopen : w'.isOpen = r.isOpen) :
    Stored w p r w' where
  mem := by rw [hbytes, blit_nil, hmem]
  bytes := by rw [hbytes, List.length_nil, List.take_zero]
  stream := by rw [hbytes, List.length_nil, List.drop_zero, hstream]
  isOpen := hopen

/-- What a `recv` stores stands before what the later turns store. -/
theorem Stored.behind {w : World} {p cnt : Nat} {r : RecvResult} {w' : World}
    (hcnt : cnt ≤ w.stream.length) (h : Stored (w.recv p cnt) (p + cnt) r w') :
    Stored w p { r with bytes := w.stream.take cnt ++ r.bytes } w' := by
  have hlen : (w.stream.take cnt).length = cnt := List.length_take_of_le hcnt
  have hall : (w.stream.take cnt ++ r.bytes).length = cnt + r.bytes.length := by
    rw [List.length_append, hlen]
  constructor
  · rw [h.mem, ← blit_append, hlen]
    rfl
  · rw [hall, List.take_add]
    exact congrArg _ h.bytes
  · rw [hall, h.stream, ← List.drop_drop]
    rfl
  · exact h.isOpen

/-- One `recv` ended the loop. -/
theorem Stored.once {w : World} {p cnt : Nat} {r : RecvResult} {w' : World}
    (hcnt : cnt ≤ w.stream.length) (hbytes : r.bytes = w.stream.take cnt)
    (hmem : w'.mem = (w.recv p cnt).mem) (hstream : w'.stream = (w.recv p cnt).stream)
    (hopen : w'.isOpen = r.isOpen) : Stored w p r w' := by
  have hrest : Stored (w.recv p cnt) (p + cnt) { r with bytes := [] } w' :=
    .nothing rfl hmem hstream hopen
  have h := hrest.behind hcnt
  rw [List.append_nil, ← hbytes] at h
  exact h

/-- The subtraction of a count that is not larger. -/
theorem toNat_sub_count {n : UInt32} {cnt : Nat} (h : cnt ≤ n.toNat) :
    (n - UInt32.ofNat cnt).toNat = n.toNat - cnt := by
  have hcnt : (UInt32.ofNat cnt).toNat = cnt :=
    UInt32.toNat_ofNat_of_lt' (Nat.lt_of_le_of_lt h n.toNat_lt)
  rw [UInt32.toNat_sub_of_le _ _ (UInt32.le_iff_toNat_le.mpr (by rw [hcnt]; exact h)), hcnt]

/-- The count is used up when all of it has come. -/
theorem sub_count_eq_zero_iff {n : UInt32} {cnt : Nat} (h : cnt ≤ n.toNat) :
    n - UInt32.ofNat cnt = 0 ↔ n.toNat - cnt = 0 := by
  rw [← UInt32.toNat_inj, toNat_sub_count h]
  rfl

/-! ## The loop and its script -/

/-- The loop in memory does what `recvLoop` says of its script.  The induction is on the
turns; pointer, count and stream move together. -/
theorem loop_refines {ts : List Turn} {w w' : World} {p : Nat} {n : UInt32} {ms1 : UInt64}
    {ok : Bool} (hkernel : Plausible ts w.stream n) (hopen : w.isOpen = true)
    (h : loop ts w p n ms1 = some (ok, w')) :
    (recvLoop n.toNat (script ts w.stream ms1)).ok = ok ∧
      Stored w p (recvLoop n.toNat (script ts w.stream ms1)) w' := by
  induction ts generalizing w p n ms1 with
  | nil => cases h
  | cons t ts ih =>
      cases t with
      | interrupted => exact ih hkernel hopen h
      | selectFailed =>
          cases h
          exact ⟨rfl, .nothing rfl rfl rfl rfl⟩
      | quiet ms2 =>
          rw [loop] at h
          rw [script, recvLoop]
          by_cases hx : Expired ms1 ms2
          · rw [if_pos hx] at h
            rw [if_pos ((timedOut_elapsed ms1 ms2).mpr hx)]
            cases h
            exact ⟨rfl, .nothing rfl rfl rfl rfl⟩
          · rw [if_neg hx] at h
            rw [if_neg fun ht => hx ((timedOut_elapsed ms1 ms2).mp ht)]
            exact ih hkernel hopen h
      | recvFailed reset ms1' =>
          cases reset with
          | true =>
              cases h
              exact ⟨rfl, .nothing rfl rfl rfl rfl⟩
          | false =>
              cases h
              exact ⟨rfl, .nothing rfl rfl rfl hopen⟩
      | recv cnt ms1' ms3 =>
          obtain ⟨hn, hs, hrest⟩ := hkernel
          have hlen : (w.stream.take cnt).length = cnt := List.length_take_of_le hs
          have hmin : min (w.stream.take cnt).length n.toNat = cnt := by
            rw [hlen]
            omega
          have hsub := toNat_sub_count hn
          simp only [loop] at h
          simp only [script, recvLoop, hmin]
          by_cases h0 : cnt = 0
          · -- the end of the stream
            subst h0
            rw [if_pos rfl] at h ⊢
            cases h
            refine ⟨rfl, .nothing rfl ?_ rfl rfl⟩
            exact blit_nil w.mem p
          · rw [if_neg h0] at h ⊢
            by_cases hall : n.toNat - cnt = 0
            · rw [if_pos ((sub_count_eq_zero_iff hn).mpr hall)] at h
              rw [if_pos hall]
              cases h
              have htake : (w.stream.take cnt).take n.toNat = w.stream.take cnt :=
                List.take_of_length_le (by rw [hlen]; omega)
              exact ⟨rfl, .once hs htake rfl rfl hopen⟩
            · rw [if_neg fun hzero => hall ((sub_count_eq_zero_iff hn).mp hzero)] at h
              rw [if_neg hall]
              by_cases hx : Expired ms1' ms3
              · rw [if_pos hx] at h
                rw [if_pos ((timedOut_elapsed ms1' ms3).mpr hx)]
                cases h
                exact ⟨rfl, .once hs rfl rfl rfl rfl⟩
              · rw [if_neg hx] at h
                rw [if_neg fun ht => hx ((timedOut_elapsed ms1' ms3).mp ht)]
                have hopen' : (w.recv p cnt).isOpen = true := hopen
                obtain ⟨hok, hstored⟩ := ih (hrest (by omega)) hopen' h
                rw [hsub] at hok hstored
                exact ⟨hok, hstored.behind hs⟩

/-- `web_conn_recv` in memory does what the connection with its script says. -/
theorem webConnRecvInto_refines {ts : List Turn} {w w' : World} {dst : Nat} {len : UInt32}
    {ms1 : UInt64} {ok : Bool} (hkernel : Plausible ts w.stream len)
    (h : webConnRecvInto ts w dst len ms1 = some (ok, w')) (conn : Conn)
    (hopen : conn.isOpen = w.isOpen) (hscript : conn.incoming = script ts w.stream ms1) :
    (webConnRecv conn len.toNat).ok = ok ∧
      w'.mem = blit w.mem dst (webConnRecv conn len.toNat).bytes ∧
      w'.isOpen = (webConnRecv conn len.toNat).conn.isOpen := by
  unfold webConnRecvInto at h
  unfold webConnRecv
  rw [hopen, hscript]
  by_cases hw : w.isOpen = true
  · rw [if_pos hw] at h ⊢
    obtain ⟨hok, hstored⟩ := loop_refines hkernel hw h
    exact ⟨hok, hstored.mem, hstored.isOpen⟩
  · rw [if_neg hw] at h ⊢
    cases h
    exact ⟨rfl, (blit_nil w.mem dst).symm, hopen.symm⟩

/-! ## What a receive delivers -/

/-- The next `len` bytes of the stream have gone to `dst`, in order, and nothing else
has changed. -/
structure Delivered (w : World) (dst len : Nat) (w' : World) : Prop where
  enough : len ≤ w.stream.length
  stored : slice w'.mem dst len = w.stream.take len
  consumed : w'.stream = w.stream.drop len
  frame : ∀ k, k < dst ∨ dst + len ≤ k → w'.mem k = w.mem k

/-- On `SUCCESS` the destination holds exactly the bytes that were asked for, whatever
`select`, `recv` and the clock returned on the way. -/
theorem webConnRecvInto_delivers {ts : List Turn} {w w' : World} {dst : Nat} {len : UInt32}
    {ms1 : UInt64} (hkernel : Plausible ts w.stream len)
    (h : webConnRecvInto ts w dst len ms1 = some (true, w')) :
    Delivered w dst len.toNat w' := by
  unfold webConnRecvInto at h
  by_cases hw : w.isOpen = true
  · rw [if_pos hw] at h
    obtain ⟨hok, hstored⟩ := loop_refines hkernel hw h
    have hlen := recvLoop_ok hok
    have hbytes := hstored.bytes
    rw [hlen] at hbytes
    constructor
    · have htake := congrArg List.length hbytes
      rw [hlen, List.length_take] at htake
      omega
    · have hcopy := slice_blit_self w.mem dst (recvLoop len.toNat (script ts w.stream ms1)).bytes
      rw [hlen] at hcopy
      rw [hstored.mem, hcopy, hbytes]
    · rw [hstored.stream, hlen]
    · intro k hk
      rw [hstored.mem]
      exact blit_outside w.mem _ (by rw [hlen]; exact hk)
  · rw [if_neg hw] at h
    cases h

/-- Two bytes, a pause of ten milliseconds, and a third. -/
def threeInTwo : List Turn := [.interrupted, .recv 2 10 10, .quiet 20, .recv 1 30 30]

theorem webConnRecvInto_threeInTwo :
    ∃ w', webConnRecvInto threeInTwo ⟨zero, [1, 2, 3, 4, 5], true⟩ 64 3 0 = some (true, w') ∧
      Delivered ⟨zero, [1, 2, 3, 4, 5], true⟩ 64 3 w' := by
  have hkernel : Plausible threeInTwo [1, 2, 3, 4, 5] 3 := by
    refine ⟨by decide, by decide, fun _ => ⟨by decide, by decide, fun h => ?_⟩⟩
    exact absurd h (by decide)
  have hrun : webConnRecvInto threeInTwo ⟨zero, [1, 2, 3, 4, 5], true⟩ 64 3 0 =
      some (true, ⟨blit (blit zero 64 [1, 2]) 66 [3], [4, 5], true⟩) := rfl
  exact ⟨_, hrun, webConnRecvInto_delivers hkernel hrun⟩

end Itertk.Itsip.RecvLoop
