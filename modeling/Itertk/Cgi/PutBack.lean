import Mathlib.Algebra.Group.Int.Defs
import Mathlib.Algebra.Group.Nat.Defs
import Mathlib.Tactic.ByContra
import Itertk.Base.Ring
import Itertk.Base.Search

/-!
# The stream under a multipart form

An upload is read from the standard input through an `mpStream`, which takes characters
back.  What is put back is read before the rest of the input, in the order in which it was
put: behind what had been put back before and is still unread.

`afterNextBoundary` looks for the line that ends a part.  When a partial match fails it
puts back all of the match but its first character, and the character that failed.  This
goes behind the unread characters of an earlier failure, and so keeps the order of the
stream only when there are none: a match begins at the last of them at the earliest,
because the boundary line begins with the only carriage return in it.

`mpPutBack` does not look whether the ring has room.  What is put back has just been read, but
for the match that fails, and that is no longer than the boundary line.

## Main results

* `mpRead_spec`, `mpPutBack_spec` — the ring and the input are one stream.
* `afterNextBoundary_spec` — a part ends at the first boundary line, wherever that stands.
* `BoundaryPuts.room` — what is put back on the way has room, in every state of the ring.
-/

namespace Itertk.Cgi.PutBack

open Itertk.Base.Ring
open Itertk.Base.Search

/-! ## The stream -/

/-- `mpStream`, with what is left of `cgiIn`. -/
structure MpStream where
  /-- `putback`, `readPos` and `writePos`. -/
  putback : Buffer UInt8 1024
  offset : Int
  cgiIn : List UInt8

/-- `memset(&mp, 0, sizeof(mp))`. -/
def start (cgiIn : List UInt8) : MpStream where
  putback := ⟨fun _ => 0, 0, 0, by decide, by decide⟩
  offset := 0
  cgiIn := cgiIn

/-- The loop of `mpRead`: what it takes from `putback`. -/
def takePutback : Nat → Buffer UInt8 1024 → List UInt8 × Buffer UInt8 1024
  | 0, r => ([], r)
  | len + 1, r =>
      if r.readPos ≠ r.writePos then
        (front r :: (takePutback len (pop r)).1, (takePutback len (pop r)).2)
      else ([], r)

/-- `mpRead(mpp, buffer, len)`: the bytes in `buffer`, as many as it returns.  At the end of
the input it returns 0 or `EOF`, and no caller tells them apart. -/
def mpRead (cgiContentLength : Int) (mpp : MpStream) (len : Nat) : List UInt8 × MpStream :=
  let got := (takePutback len mpp.putback).1
  let ring := (takePutback len mpp.putback).2
  let len := min ((len : Int) - got.length) (cgiContentLength - mpp.offset)
  if len ≠ 0 then
    let fgot := mpp.cgiIn.take len.toNat
    (got ++ fgot, ⟨ring, mpp.offset + (got.length + fgot.length), mpp.cgiIn.drop len.toNat⟩)
  else (got, ⟨ring, mpp.offset, mpp.cgiIn⟩)

/-- `mpPutBack(mpp, data, len)`. -/
def mpPutBack (mpp : MpStream) (data : List UInt8) : MpStream :=
  ⟨pushAll mpp.putback data, mpp.offset - data.length, mpp.cgiIn⟩

/-- What waits in the ring. -/
def pending (mpp : MpStream) : List UInt8 := items mpp.putback

/-- What the program still is to read. -/
def stream (mpp : MpStream) : List UInt8 := pending mpp ++ mpp.cgiIn

/-- The declared length does not cut the input off.  `offset` does not count what is read
from the ring alone, so that it falls behind. -/
def WithinLength (cgiContentLength : Int) (mpp : MpStream) : Prop :=
  mpp.offset + (pending mpp).length + mpp.cgiIn.length ≤ cgiContentLength

private theorem takePutback_spec (len : Nat) (r : Buffer UInt8 1024) :
    (takePutback len r).1 = (items r).take len ∧
      items (takePutback len r).2 = (items r).drop len := by
  induction len generalizing r with
  | zero => exact ⟨rfl, rfl⟩
  | succ len ih =>
      rw [takePutback]
      by_cases hpos : r.readPos ≠ r.writePos
      · obtain ⟨htake, hdrop⟩ := ih (pop r)
        rw [if_pos hpos, items_pop hpos, htake, hdrop]
        exact ⟨rfl, rfl⟩
      · have hnil := (items_eq_nil_iff r).mpr (Decidable.not_not.mp hpos)
        rw [if_neg hpos, hnil]
        exact ⟨rfl, rfl⟩

/-- What `fread` is asked for, cut to the declared length, gets what is left of the input. -/
theorem take_limit {cl : Int} {mpp : MpStream} (h : WithinLength cl mpp) (len : Nat) :
    mpp.cgiIn.take (min (len : Int) (cl - mpp.offset)).toNat = mpp.cgiIn.take len ∧
      mpp.cgiIn.drop (min (len : Int) (cl - mpp.offset)).toNat = mpp.cgiIn.drop len := by
  rw [WithinLength] at h
  by_cases hlen : (len : Int) ≤ cl - mpp.offset
  · rw [Int.min_eq_left hlen, Int.toNat_natCast]
    exact ⟨rfl, rfl⟩
  · have hbound : mpp.cgiIn.length ≤ (min (len : Int) (cl - mpp.offset)).toNat := by omega
    have hbound' : mpp.cgiIn.length ≤ len := by omega
    rw [List.take_of_length_le hbound, List.take_of_length_le hbound',
      List.drop_eq_nil_of_le hbound, List.drop_eq_nil_of_le hbound']
    exact ⟨rfl, rfl⟩

/-- A read takes the next bytes of the stream. -/
theorem mpRead_spec {cl : Int} {mpp : MpStream} (h : WithinLength cl mpp) (len : Nat) :
    (mpRead cl mpp len).1 = (stream mpp).take len ∧
      pending (mpRead cl mpp len).2 = (pending mpp).drop len ∧
      (mpRead cl mpp len).2.cgiIn = mpp.cgiIn.drop (len - (pending mpp).length) ∧
      WithinLength cl (mpRead cl mpp len).2 := by
  obtain ⟨hgot, hring⟩ := takePutback_spec len mpp.putback
  have hgotLen : (takePutback len mpp.putback).1.length = min len (pending mpp).length := by
    rw [hgot, List.length_take]
    rfl
  have hrest : (len : Int) - (takePutback len mpp.putback).1.length =
      ((len - (pending mpp).length : Nat) : Int) := by omega
  obtain ⟨htake, hdrop⟩ := take_limit h (len - (pending mpp).length)
  have hstream : (stream mpp).take len = (pending mpp).take len ++
      mpp.cgiIn.take (len - (pending mpp).length) := List.take_append
  have hringLen : (items (takePutback len mpp.putback).2).length = (pending mpp).length - len := by
    rw [hring, List.length_drop]
    rfl
  have hwithin := h
  rw [WithinLength] at hwithin
  rw [mpRead, hrest, hstream]
  by_cases hzero : min ((len - (pending mpp).length : Nat) : Int) (cl - mpp.offset) ≠ 0
  · simp only [if_pos hzero]
    rw [htake, hdrop]
    refine ⟨congrArg (· ++ _) hgot, hring, rfl, ?_⟩
    show mpp.offset + (_ + _) + ((items _).length : Int) + _ ≤ cl
    rw [hringLen, hgotLen, List.length_take, List.length_drop]
    omega
  · simp only [if_neg hzero]
    rw [Decidable.not_not.mp hzero] at htake hdrop
    refine ⟨?_, hring, hdrop, ?_⟩
    · rw [← htake, hgot]
      exact (List.append_nil _).symm
    · show mpp.offset + ((items _).length : Int) + (mpp.cgiIn.length : Int) ≤ cl
      rw [hringLen]
      omega

private theorem mpRead_stream {cl : Int} {mpp : MpStream} (h : WithinLength cl mpp) (len : Nat) :
    stream (mpRead cl mpp len).2 = (stream mpp).drop len := by
  obtain ⟨-, hpending, hinput, -⟩ := mpRead_spec h len
  rw [stream, hpending, hinput, stream, List.drop_append]

theorem mpPutBack_spec {cl : Int} {mpp : MpStream} (h : WithinLength cl mpp) (data : List UInt8)
    (hroom : (pending mpp).length + data.length < 1024) :
    pending (mpPutBack mpp data) = pending mpp ++ data ∧
      (mpPutBack mpp data).cgiIn = mpp.cgiIn ∧ WithinLength cl (mpPutBack mpp data) := by
  have hitems : items (pushAll mpp.putback data) = items mpp.putback ++ data :=
    items_pushAll data (by rw [← length_items]; exact hroom)
  refine ⟨hitems, rfl, ?_⟩
  rw [WithinLength] at h ⊢
  show mpp.offset - data.length + ((items (pushAll mpp.putback data)).length : Int) +
    (mpp.cgiIn.length : Int) ≤ cl
  rw [hitems, List.length_append, ← pending]
  omega

/-! ## Progress

How much is left to read bounds the loops, in every state of the ring. -/

/-- What is left in the ring and in the input. -/
def left (mpp : MpStream) : Nat := count mpp.putback + mpp.cgiIn.length

private theorem takePutback_count (len : Nat) (r : Buffer UInt8 1024) :
    (takePutback len r).1.length + count (takePutback len r).2 = count r := by
  obtain ⟨htake, hdrop⟩ := takePutback_spec len r
  rw [← length_items, ← length_items, htake, hdrop, ← List.length_append,
    List.take_append_drop]

theorem mpRead_left (cl : Int) (mpp : MpStream) (len : Nat) :
    (mpRead cl mpp len).1.length + left (mpRead cl mpp len).2 = left mpp := by
  have hcount := takePutback_count len mpp.putback
  rw [mpRead]
  dsimp only
  split_ifs
  · rw [left, left, List.length_append, List.length_take, List.length_drop]
    dsimp only
    omega
  · rw [left, left]
    dsimp only
    omega

private theorem count_push_le (r : Buffer UInt8 1024) (a : UInt8) :
    count (push r a) ≤ count r + 1 := by
  by_cases h : count r + 1 < 1024
  · exact Nat.le_of_eq (count_push h a)
  · have hlt := count_lt (push r a)
    omega

private theorem count_pushAll_le (r : Buffer UInt8 1024) (data : List UInt8) :
    count (pushAll r data) ≤ count r + data.length := by
  induction data generalizing r with
  | nil => exact Nat.le_refl _
  | cons a data ih =>
      have hpush := count_push_le r a
      have hrest := ih (push r a)
      rw [List.length_cons]
      exact Nat.le_trans hrest (by omega)

theorem mpPutBack_left (mpp : MpStream) (data : List UInt8) :
    left (mpPutBack mpp data) ≤ left mpp + data.length := by
  have hput := count_pushAll_le mpp.putback data
  rw [left, left]
  show count (pushAll mpp.putback data) + mpp.cgiIn.length ≤ _
  omega

/-- `mpRead(mpp, d, 1) == 1`, and the character. -/
def mpReadChar (cgiContentLength : Int) (mpp : MpStream) : Option UInt8 :=
  (mpRead cgiContentLength mpp 1).1.head?

theorem mpReadChar_left {cl : Int} {mpp : MpStream} {d : UInt8} (h : mpReadChar cl mpp = some d) :
    left (mpRead cl mpp 1).2 < left mpp := by
  have hleft := mpRead_left cl mpp 1
  have hpos : 0 < (mpRead cl mpp 1).1.length := by
    rw [mpReadChar] at h
    exact List.length_pos_of_mem (List.mem_of_mem_head? h)
  omega

private theorem mpReadChar_spec {cl : Int} {mpp : MpStream} (h : WithinLength cl mpp) :
    mpReadChar cl mpp = (stream mpp).head? := by
  rw [mpReadChar, (mpRead_spec h 1).1, List.head?_take, if_neg Nat.one_ne_zero]

/-! ## Room in the ring -/

/-- `data` can be put back without running into what still waits. -/
def HasRoom (mpp : MpStream) (data : List UInt8) : Prop :=
  (pending mpp).length + data.length < 1024

private theorem pending_lt (mpp : MpStream) : (pending mpp).length < 1024 := by
  rw [pending, length_items]
  exact count_lt mpp.putback

private theorem mpRead_pending (cl : Int) (mpp : MpStream) (len : Nat) :
    (pending (mpRead cl mpp len).2).length = (pending mpp).length - len := by
  have hring : (mpRead cl mpp len).2.putback = (takePutback len mpp.putback).2 := by
    rw [mpRead]
    dsimp only
    split <;> rfl
  rw [pending, hring, (takePutback_spec len mpp.putback).2, List.length_drop, pending]

private theorem mpPutBack_pending_le (mpp : MpStream) (data : List UInt8) :
    (pending (mpPutBack mpp data)).length ≤ (pending mpp).length + data.length := by
  rw [pending, pending, length_items, length_items]
  exact count_pushAll_le mpp.putback data

theorem mpRead_length_le (cl : Int) (mpp : MpStream) (len : Nat) :
    (mpRead cl mpp len).1.length ≤ len := by
  have htaken : (takePutback len mpp.putback).1.length ≤ len := by
    rw [(takePutback_spec len mpp.putback).1]
    exact List.length_take_le _ _
  rw [mpRead]
  dsimp only
  split
  · rw [List.length_append, List.length_take]
    omega
  · exact htaken

/-- What has just been read can be put back. -/
theorem hasRoom_read (cl : Int) (mpp : MpStream) {len : Nat} {data : List UInt8}
    (hdata : data.length ≤ len) (hlen : len < 1024) : HasRoom (mpRead cl mpp len).2 data := by
  have hlt := pending_lt mpp
  rw [HasRoom, mpRead_pending]
  omega

/-! ## The stream and plain text -/

/-- The stream that a function leaves holds the rest of the text, with at most `n`
characters in the ring. -/
structure Leaves (cl : Int) (n : Nat) (mpp : MpStream) (rest : List UInt8) : Prop where
  rest_eq : stream mpp = rest
  small : (pending mpp).length ≤ n
  within : WithinLength cl mpp

theorem Leaves.mono {cl : Int} {n m : Nat} {mpp : MpStream} {rest : List UInt8}
    (h : Leaves cl n mpp rest) (hle : n ≤ m) : Leaves cl m mpp rest :=
  ⟨h.rest_eq, Nat.le_trans h.small hle, h.within⟩

/-- A read takes the next characters of the text. -/
theorem Leaves.read {cl : Int} {n : Nat} {mpp : MpStream} {rest : List UInt8}
    (h : Leaves cl n mpp rest) (len : Nat) :
    (mpRead cl mpp len).1 = rest.take len ∧
      Leaves cl (n - len) (mpRead cl mpp len).2 (rest.drop len) := by
  obtain ⟨hread, hpending, -, hwithin⟩ := mpRead_spec h.within len
  have hsmall := h.small
  refine ⟨by rw [hread, h.rest_eq], ?_, ?_, hwithin⟩
  · rw [mpRead_stream h.within, h.rest_eq]
  · rw [hpending, List.length_drop]
    omega

theorem Leaves.readChar {cl : Int} {n : Nat} {mpp : MpStream} {d : UInt8} {rest : List UInt8}
    (h : Leaves cl n mpp (d :: rest)) :
    mpReadChar cl mpp = some d ∧ Leaves cl (n - 1) (mpRead cl mpp 1).2 rest := by
  obtain ⟨hread, hnext⟩ := h.read 1
  exact ⟨by rw [mpReadChar, hread]; rfl, hnext⟩

theorem Leaves.end {cl : Int} {n : Nat} {mpp : MpStream} (h : Leaves cl n mpp []) :
    mpReadChar cl mpp = none ∧ Leaves cl (n - 1) (mpRead cl mpp 1).2 [] := by
  obtain ⟨hread, hnext⟩ := h.read 1
  exact ⟨by rw [mpReadChar, hread]; rfl, hnext⟩

/-- Into an empty ring a few characters go back to their place. -/
theorem Leaves.putBack {cl : Int} {mpp : MpStream} {rest : List UInt8} (h : Leaves cl 0 mpp rest)
    (data : List UInt8) (hdata : data.length ≤ 2) :
    Leaves cl data.length (mpPutBack mpp data) (data ++ rest) := by
  have hnil : pending mpp = [] := List.length_eq_zero_iff.mp (Nat.le_zero.mp h.small)
  obtain ⟨hpending, hinput, hwithin⟩ := mpPutBack_spec h.within data (by
    rw [hnil, List.length_nil]
    omega)
  rw [hnil, List.nil_append] at hpending
  refine ⟨?_, Nat.le_of_eq (congrArg List.length hpending), hwithin⟩
  have hrest := h.rest_eq
  rw [stream, hnil, List.nil_append] at hrest
  rw [stream, hpending, hinput, hrest]

theorem leaves_start {cl : Int} {cgiIn : List UInt8} (h : (cgiIn.length : Int) ≤ cl) :
    Leaves cl 0 (start cgiIn) cgiIn := by
  refine ⟨rfl, Nat.le_refl 0, ?_⟩
  show (0 : Int) + ((0 : Nat) : Int) + (cgiIn.length : Int) ≤ cl
  omega

/-- What a function that reads the stream returns, beside what the same function returns on
plain text: the same value, and the stream that holds the rest of the text. -/
structure Agrees {α : Type} (cl : Int) (n : Nat) (text : Option (α × List UInt8))
    (r : Option (α × MpStream)) : Prop where
  same : r.map (fun x => (x.1, stream x.2)) = text
  ready : ∀ x, r = some x → (pending x.2).length ≤ n ∧ WithinLength cl x.2

variable {α : Type}

theorem Agrees.none (cl : Int) (n : Nat) : Agrees cl n (none : Option (α × List UInt8)) none :=
  ⟨rfl, fun _ h => nomatch h⟩

theorem Agrees.some {cl : Int} {n : Nat} {mpp : MpStream} {rest : List UInt8} (a : α)
    (h : Leaves cl n mpp rest) : Agrees cl n (some (a, rest)) (some (a, mpp)) where
  same := by rw [Option.map_some, h.rest_eq]
  ready x hx := by
    cases hx
    exact ⟨h.small, h.within⟩

/-- A change of the value. -/
theorem Agrees.map {cl : Int} {n : Nat} {text : Option (α × List UInt8)}
    {r : Option (α × MpStream)} (h : Agrees cl n text r) (f : α → α) :
    Agrees cl n (text.map fun x => (f x.1, x.2)) (r.map fun x => (f x.1, x.2)) where
  same := by
    rw [← h.same, Option.map_map, Option.map_map]
    rfl
  ready := by
    intro x hx
    obtain ⟨y, hy, rfl⟩ := Option.map_eq_some_iff.mp hx
    exact h.ready y hy

/-- One function after the other. -/
theorem Agrees.bind {β : Type} {cl : Int} {n m : Nat} {text : Option (α × List UInt8)}
    {r : Option (α × MpStream)} (h : Agrees cl n text r)
    {f : α × List UInt8 → Option (β × List UInt8)} {g : α × MpStream → Option (β × MpStream)}
    (hnext : ∀ a mpp rest, Leaves cl n mpp rest → Agrees cl m (f (a, rest)) (g (a, mpp))) :
    Agrees cl m (text.bind f) (r.bind g) := by
  rw [← h.same]
  cases hr : r with
  | none => exact Agrees.none cl m
  | some x =>
      obtain ⟨hsmall, hwithin⟩ := h.ready x hr
      exact hnext x.1 x.2 (stream x.2) ⟨rfl, hsmall, hwithin⟩

/-! ## The boundary line -/

/-- The loop of `afterNextBoundary`, with `boffset` characters of the boundary matched: what
it appends to the body. -/
def scan (cgiContentLength : Int) (workingBoundary : List UInt8) (mpp : MpStream)
    (boffset : Nat) : Option (List UInt8 × MpStream) :=
  let next := (mpRead cgiContentLength mpp 1).2
  match _h : mpReadChar cgiContentLength mpp with
  | none => none
  | some d =>
      if workingBoundary[boffset]? = some d then
        if boffset + 1 = workingBoundary.length then some ([], next)
        else scan cgiContentLength workingBoundary next (boffset + 1)
      else if 0 < boffset then
        -- The real boundary could begin in the middle of a false match.
        (scan cgiContentLength workingBoundary
          (mpPutBack (mpPutBack next ((workingBoundary.drop 1).take (boffset - 1))) [d]) 0).map
            fun r => (workingBoundary.headD 0 :: r.1, r.2)
      else (scan cgiContentLength workingBoundary next 0).map fun r => (d :: r.1, r.2)
termination_by (left mpp + boffset, left mpp)
decreasing_by
  · have hread := mpReadChar_left _h
    by_cases hlt : left (mpRead cgiContentLength mpp 1).2 + (boffset + 1) < left mpp + boffset
    · exact Prod.Lex.left _ _ hlt
    · have heq : left mpp + boffset = left (mpRead cgiContentLength mpp 1).2 + (boffset + 1) := by
        omega
      rw [heq]
      exact Prod.Lex.right _ hread
  · have hread := mpReadChar_left _h
    have hmatch := mpPutBack_left (mpRead cgiContentLength mpp 1).2
      ((workingBoundary.drop 1).take (boffset - 1))
    have hchar := mpPutBack_left (mpPutBack (mpRead cgiContentLength mpp 1).2
      ((workingBoundary.drop 1).take (boffset - 1))) [d]
    rw [List.length_take] at hmatch
    rw [List.length_singleton] at hchar
    exact Prod.Lex.left _ _ (by omega)
  · have hread := mpReadChar_left _h
    exact Prod.Lex.left _ _ (by omega)

theorem scan_none {cl : Int} {boundary : List UInt8} {mpp : MpStream} (k : Nat)
    (h : mpReadChar cl mpp = none) : scan cl boundary mpp k = none := by
  rw [scan]
  split <;> simp_all

theorem scan_some {cl : Int} {boundary : List UInt8} {mpp : MpStream} (k : Nat) {d : UInt8}
    (h : mpReadChar cl mpp = some d) :
    scan cl boundary mpp k =
      if boundary[k]? = some d then
        if k + 1 = boundary.length then some ([], (mpRead cl mpp 1).2)
        else scan cl boundary (mpRead cl mpp 1).2 (k + 1)
      else if 0 < k then
        (scan cl boundary
          (mpPutBack (mpPutBack (mpRead cl mpp 1).2 ((boundary.drop 1).take (k - 1))) [d]) 0).map
            fun r => (boundary.headD 0 :: r.1, r.2)
      else (scan cl boundary (mpRead cl mpp 1).2 0).map fun r => (d :: r.1, r.2) := by
  rw [scan]
  split
  · next hnone => rw [h] at hnone; cases hnone
  · next d' hsome =>
      rw [h] at hsome
      cases hsome
      rfl

private theorem eq_nil_of_dropLast {a : UInt8} {q : List UInt8} (h : a ∉ (a :: q).dropLast) :
    q = [] := by
  cases q with
  | nil => rfl
  | cons b q => exact absurd List.mem_cons_self h

private theorem not_mem_dropLast_tail {a : UInt8} {q : List UInt8} (h : a ∉ q.dropLast) :
    a ∉ (q.drop 1).dropLast := by
  cases q with
  | nil => exact h
  | cons b q =>
      cases q with
      | nil => exact h
      | cons c q => exact fun hmem => h (List.mem_cons_of_mem b hmem)

/-- A read of one character. -/
theorem mpReadChar_some {cl : Int} {mpp : MpStream} {d : UInt8} (hwithin : WithinLength cl mpp)
    (h : mpReadChar cl mpp = some d) : stream mpp = d :: stream (mpRead cl mpp 1).2 := by
  rw [mpReadChar_spec hwithin] at h
  rw [mpRead_stream hwithin]
  cases hs : stream mpp with
  | nil => rw [hs] at h; cases h
  | cons c s =>
      rw [hs, List.head?_cons] at h
      cases h
      rfl

/-- What is read as part of the boundary empties the ring. -/
theorem pending_matched {cl : Int} {mpp : MpStream} {h d : UInt8} {t : List UInt8} {k : Nat}
    (hwithin : WithinLength cl mpp) (hread : mpReadChar cl mpp = some d)
    (hd : (h :: t)[k]? = some d) (hhead : h ∉ (pending mpp).dropLast)
    (hmatched : 0 < k → pending mpp = []) : pending (mpRead cl mpp 1).2 = [] := by
  rw [(mpRead_spec hwithin 1).2.1]
  cases hq : pending mpp with
  | nil => rfl
  | cons c q =>
      have hk : k = 0 := by
        by_contra hk
        rw [hmatched (Nat.pos_of_ne_zero hk)] at hq
        cases hq
      rw [hk, List.getElem?_cons_zero] at hd
      rw [mpReadChar_spec hwithin, stream, hq, List.cons_append, List.head?_cons] at hread
      rw [hq, Option.some.inj hread, ← Option.some.inj hd] at hhead
      exact eq_nil_of_dropLast hhead

/-- Behind an empty ring the failed match goes back to its place. -/
theorem mpPutBack_failed {cl : Int} {mpp : MpStream} {t : List UInt8} (d : UInt8)
    (hwithin : WithinLength cl mpp) (hempty : pending mpp = []) (ht : t.length < 1023) :
    pending (mpPutBack (mpPutBack mpp t) [d]) = t ++ [d] ∧
      stream (mpPutBack (mpPutBack mpp t) [d]) = t ++ d :: stream mpp ∧
      WithinLength cl (mpPutBack (mpPutBack mpp t) [d]) := by
  obtain ⟨hpending, hinput, hwithin⟩ :=
    mpPutBack_spec hwithin t (by rw [hempty, List.length_nil]; omega)
  obtain ⟨hpending', hinput', hwithin'⟩ :=
    mpPutBack_spec hwithin [d] (by
      rw [hpending, hempty, List.nil_append, List.length_singleton]
      omega)
  have hq : pending (mpPutBack (mpPutBack mpp t) [d]) = t ++ [d] := by
    rw [hpending', hpending, hempty, List.nil_append]
  refine ⟨hq, ?_, hwithin'⟩
  rw [stream, hq, hinput', hinput, stream, hempty, List.append_assoc]
  rfl

/-- The ring keeps the order of the stream, and the boundary is found where it stands first.
The induction is on the characters that are read; those of a failed match count again, but
not its first one. -/
theorem scan_spec {cl : Int} {h : UInt8} {t : List UInt8} (hh : h ∉ t) (hlen : t.length < 1024)
    (mpp : MpStream) (k : Nat) (hk : k ≤ t.length) (hwithin : WithinLength cl mpp)
    (hhead : h ∉ (pending mpp).dropLast) (hmatched : 0 < k → pending mpp = []) :
    Agrees cl 0 (findFirst (h :: t) ((h :: t).take k ++ stream mpp)) (scan cl (h :: t) mpp k) := by
  induction mpp, k using scan.induct cl (h :: t) with
  | case1 mpp k hnone =>
      have hs : stream mpp = [] := List.head?_eq_none_iff.mp (mpReadChar_spec hwithin ▸ hnone)
      rw [scan_none k hnone, hs, List.append_nil, findFirst_short]
      · exact Agrees.none cl 0
      · rw [List.length_take, List.length_cons]
        omega
  | case2 mpp k d hread hd hfull =>
      rw [scan_some k hread, if_pos hd, if_pos hfull, mpReadChar_some hwithin hread,
        take_append_cons hd, hfull, List.take_length, findFirst_self]
      have hempty := pending_matched hwithin hread hd hhead hmatched
      have hsmall : (pending (mpRead cl mpp 1).2).length ≤ 0 :=
        Nat.le_of_eq (congrArg List.length hempty)
      exact Agrees.some [] ⟨rfl, hsmall, (mpRead_spec hwithin 1).2.2.2⟩
  | case3 mpp k next d hread hd hpart ih =>
      have hempty := pending_matched hwithin hread hd hhead hmatched
      have hlt := (List.getElem?_eq_some_iff.mp hd).1
      rw [List.length_cons] at hpart hlt
      rw [scan_some k hread, if_pos hd, if_neg (by rw [List.length_cons]; exact hpart),
        mpReadChar_some hwithin hread, take_append_cons hd]
      exact ih (by omega) (mpRead_spec hwithin 1).2.2.2 (by rw [hempty]; exact List.not_mem_nil)
        fun _ => hempty
  | case4 mpp k next d hread hd hpos ih =>
      have hnext := (mpRead_spec hwithin 1).2.2.2
      have hempty : pending next = [] := by
        rw [(mpRead_spec hwithin 1).2.1, hmatched hpos]
        rfl
      obtain ⟨j, rfl⟩ : ∃ j, k = j + 1 := ⟨k - 1, by omega⟩
      have hroom : (t.take j).length < 1023 := by
        rw [List.length_take]
        omega
      obtain ⟨hq, hs, hback⟩ := mpPutBack_failed d hnext hempty hroom
      have hrest := ih (Nat.zero_le _) hback ?_ fun hlt => absurd hlt (Nat.lt_irrefl 0)
      · rw [scan_some (j + 1) hread, if_neg hd, if_pos hpos, mpReadChar_some hwithin hread,
          List.take_succ_cons, findFirst_mismatch (by omega : j < t.length) hd]
        refine Agrees.map ?_ (List.cons h)
        rw [List.take_zero, List.nil_append] at hrest
        rw [← hs]
        exact hrest
      · show h ∉ (pending (mpPutBack (mpPutBack next (t.take j)) [d])).dropLast
        rw [hq, List.dropLast_concat]
        exact fun hmem => hh (List.mem_of_mem_take hmem)
  | case5 mpp k next d hread hd hpos ih =>
      obtain rfl : k = 0 := by omega
      have hne : d ≠ h := fun he => hd (by rw [he]; rfl)
      rw [scan_some 0 hread, if_neg hd, if_neg hpos, mpReadChar_some hwithin hread, List.take_zero,
        List.nil_append, findFirst_ne t _ hne]
      refine Agrees.map ?_ (List.cons d)
      refine ih (Nat.zero_le _) (mpRead_spec hwithin 1).2.2.2 ?_ fun hlt =>
        absurd hlt (Nat.lt_irrefl 0)
      rw [(mpRead_spec hwithin 1).2.1]
      exact not_mem_dropLast_tail hhead

/-- While the loop of `afterNextBoundary` runs, `data` is put back into the stream `m`. -/
inductive ScanPuts (cl : Int) (boundary : List UInt8) :
    MpStream → Nat → MpStream → List UInt8 → Prop where
  | matched {mpp m : MpStream} {k : Nat} {d : UInt8} {data : List UInt8}
      (hread : mpReadChar cl mpp = some d) (hd : boundary[k]? = some d)
      (hpart : k + 1 ≠ boundary.length)
      (h : ScanPuts cl boundary (mpRead cl mpp 1).2 (k + 1) m data) :
      ScanPuts cl boundary mpp k m data
  | failed {mpp : MpStream} {k : Nat} {d : UInt8} (hread : mpReadChar cl mpp = some d)
      (hd : boundary[k]? ≠ some d) (hpos : 0 < k) :
      ScanPuts cl boundary mpp k (mpRead cl mpp 1).2 ((boundary.drop 1).take (k - 1))
  | last {mpp : MpStream} {k : Nat} {d : UInt8} (hread : mpReadChar cl mpp = some d)
      (hd : boundary[k]? ≠ some d) (hpos : 0 < k) :
      ScanPuts cl boundary mpp k
        (mpPutBack (mpRead cl mpp 1).2 ((boundary.drop 1).take (k - 1))) [d]
  | again {mpp m : MpStream} {k : Nat} {d : UInt8} {data : List UInt8}
      (hread : mpReadChar cl mpp = some d) (hd : boundary[k]? ≠ some d) (hpos : 0 < k)
      (h : ScanPuts cl boundary
        (mpPutBack (mpPutBack (mpRead cl mpp 1).2 ((boundary.drop 1).take (k - 1))) [d]) 0 m data) :
      ScanPuts cl boundary mpp k m data
  | other {mpp m : MpStream} {d : UInt8} {data : List UInt8} (hread : mpReadChar cl mpp = some d)
      (hd : boundary[0]? ≠ some d) (h : ScanPuts cl boundary (mpRead cl mpp 1).2 0 m data) :
      ScanPuts cl boundary mpp 0 m data

/-- A match and what waits in the ring together stay below its size: as long as something
waits, a character more of the match is one less in the ring. -/
theorem ScanPuts.room {cl : Int} {boundary data : List UInt8} {mpp m : MpStream} {k : Nat}
    (h : ScanPuts cl boundary mpp k m data) (hlen : boundary.length < 1024)
    (hk : (pending mpp).length + k < 1024) : HasRoom m data := by
  have hprefix : ∀ j, ((boundary.drop 1).take (j - 1)).length ≤ j - 1 :=
    fun j => List.length_take_le _ _
  induction h with
  | @matched mpp m k d data hread hd hpart h ih =>
      have hnext := mpRead_pending cl mpp 1
      have hlt := (List.getElem?_eq_some_iff.mp hd).1
      exact ih (by omega)
  | @failed mpp k d hread hd hpos =>
      have hnext := mpRead_pending cl mpp 1
      have hshort := hprefix k
      rw [HasRoom]
      omega
  | @last mpp k d hread hd hpos =>
      have hnext := mpRead_pending cl mpp 1
      have hshort := hprefix k
      have hback := mpPutBack_pending_le (mpRead cl mpp 1).2 ((boundary.drop 1).take (k - 1))
      rw [HasRoom, List.length_singleton]
      omega
  | @again mpp m k d data hread hd hpos h ih =>
      have hnext := mpRead_pending cl mpp 1
      have hshort := hprefix k
      have hback := mpPutBack_pending_le (mpRead cl mpp 1).2 ((boundary.drop 1).take (k - 1))
      have hchar := mpPutBack_pending_le
        (mpPutBack (mpRead cl mpp 1).2 ((boundary.drop 1).take (k - 1))) [d]
      rw [List.length_singleton] at hchar
      exact ih (by omega)
  | @other mpp m d data hread hd h ih => exact ih (pending_lt _)

/-! ## The end of a part -/

/-- `workingBoundary`. -/
def workingBoundary (cgiMultipartBoundary : List UInt8) (first : Bool) : List UInt8 :=
  if first then 45 :: 45 :: cgiMultipartBoundary else 13 :: 10 :: 45 :: 45 :: cgiMultipartBoundary

/-- The end of `afterNextBoundary`: the newline or the dashes behind the boundary. -/
def readTrailer (cgiContentLength : Int) (out : List UInt8) (mpp : MpStream) :
    Option (List UInt8 × MpStream) :=
  let d := mpRead cgiContentLength mpp 2
  if d.1.length ≠ 2 then none
  else if d.1 = [13, 10] then some (out, d.2)
  else if d.1.head? = some 45 then some (out, mpPutBack d.2 d.1)
  else some (out, d.2)

/-- `afterNextBoundary`, when `malloc` succeeds: the body, and the stream behind the
boundary; `none` is `cgiParseIO`. -/
def afterNextBoundary (cgiContentLength : Int) (cgiMultipartBoundary : List UInt8) (mpp : MpStream)
    (first : Bool) : Option (List UInt8 × MpStream) :=
  (scan cgiContentLength (workingBoundary cgiMultipartBoundary first) mpp 0).bind fun r =>
    readTrailer cgiContentLength r.1 r.2

/-- While `afterNextBoundary` runs, `data` is put back into the stream `m`. -/
inductive BoundaryPuts (cl : Int) (boundary : List UInt8) (mpp : MpStream) (first : Bool) :
    MpStream → List UInt8 → Prop where
  | scan {m : MpStream} {data : List UInt8}
      (h : ScanPuts cl (workingBoundary boundary first) mpp 0 m data) :
      BoundaryPuts cl boundary mpp first m data
  | dashes {out : List UInt8} {next : MpStream}
      (hscan : scan cl (workingBoundary boundary first) mpp 0 = some (out, next))
      (htwo : (mpRead cl next 2).1.length = 2) (hdash : (mpRead cl next 2).1.head? = some 45) :
      BoundaryPuts cl boundary mpp first (mpRead cl next 2).2 (mpRead cl next 2).1

/-- A body and the text behind its boundary: without the two characters that end the line,
but with the dashes that end the form. -/
def nextLine (r : List UInt8 × List UInt8) : Option (List UInt8 × List UInt8) :=
  if r.2.length < 2 then none
  else some (r.1, if r.2.head? = some 45 then r.2 else r.2.drop 2)

/-- The body before the first boundary line of a text, and what follows the line. -/
def nextPart (boundary s : List UInt8) : Option (List UInt8 × List UInt8) :=
  (findFirst (workingBoundary boundary false) s).bind nextLine

theorem readTrailer_spec {cl : Int} {mpp : MpStream} {rest : List UInt8} (out : List UInt8)
    (h : Leaves cl 0 mpp rest) : Agrees cl 2 (nextLine (out, rest)) (readTrailer cl out mpp) := by
  obtain ⟨hread, hnext⟩ := h.read 2
  rw [readTrailer, hread, nextLine]
  match rest with
  | [] => exact Agrees.none cl 2
  | [c] => exact Agrees.none cl 2
  | c :: c' :: rest =>
      have hlong : ¬(c :: c' :: rest).length < 2 := by simp
      have hboth : ¬[c, c'].length ≠ 2 := not_not_intro rfl
      have htake : (c :: c' :: rest).take 2 = [c, c'] := rfl
      dsimp only
      rw [if_neg hlong, htake, if_neg hboth, List.head?_cons, List.head?_cons]
      by_cases hcr : [c, c'] = [13, 10]
      · obtain ⟨rfl, -⟩ := List.cons_eq_cons.mp hcr
        rw [if_pos hcr, if_neg (by decide)]
        exact Agrees.some out (hnext.mono (Nat.zero_le 2))
      rw [if_neg hcr]
      by_cases hdash : some c = some 45
      · rw [if_pos hdash, if_pos hdash]
        exact Agrees.some out (hnext.putBack [c, c'] (Nat.le_refl 2))
      · rw [if_neg hdash, if_neg hdash]
        exact Agrees.some out (hnext.mono (Nat.zero_le 2))

/-- The text of a boundary, as `main` cuts it out of the content type. -/
structure IsBoundary (boundary : List UInt8) : Prop where
  line : (13 : UInt8) ∉ boundary
  short : boundary.length < 1020

/-- Whatever the stream holds, what is put back on the way to the boundary has room. -/
theorem BoundaryPuts.room {cl : Int} {boundary data : List UInt8} {mpp m : MpStream} {first : Bool}
    (h : BoundaryPuts cl boundary mpp first m data) (hboundary : IsBoundary boundary) :
    HasRoom m data := by
  cases h with
  | scan h =>
      have hshort := hboundary.short
      refine h.room ?_ (pending_lt mpp)
      cases first with
      | true => exact Nat.lt_of_le_of_lt (Nat.le_add_right _ 2) (Nat.add_lt_add_right hshort 4)
      | false => exact Nat.add_lt_add_right hshort 4
  | dashes hscan htwo hdash => exact hasRoom_read cl _ (Nat.le_of_eq htwo) (by decide)

/-- The boundary line begins with the only carriage return in it. -/
theorem IsBoundary.tail {boundary : List UInt8} (h : IsBoundary boundary) :
    (13 : UInt8) ∉ 10 :: 45 :: 45 :: boundary := by
  intro hmem
  simp only [List.mem_cons] at hmem
  rcases hmem with h13 | h13 | h13 | hmem
  · exact absurd h13 (by decide)
  · exact absurd h13 (by decide)
  · exact absurd h13 (by decide)
  · exact h.line hmem

/-- A part is read up to the first boundary line, whatever its body holds: the search agrees
with the one on the plain text. -/
theorem afterNextBoundary_spec {cl : Int} {boundary : List UInt8} {mpp : MpStream}
    {s : List UInt8} (hboundary : IsBoundary boundary) (h : Leaves cl 1 mpp s) :
    Agrees cl 2 (nextPart boundary s) (afterNextBoundary cl boundary mpp false) := by
  have hline := hboundary.tail
  have hlen : (10 :: 45 :: 45 :: boundary : List UInt8).length < 1024 := by
    have hshort := hboundary.short
    simp only [List.length_cons]
    omega
  have hlast : (pending mpp).dropLast = [] := by
    have hsmall := h.small
    exact List.length_eq_zero_iff.mp (by rw [List.length_dropLast]; omega)
  have hscan := scan_spec hline hlen mpp 0 (Nat.zero_le _) h.within
    (by rw [hlast]; exact List.not_mem_nil) fun h => absurd h (Nat.lt_irrefl 0)
  rw [h.rest_eq] at hscan
  exact hscan.bind fun out _ _ hleaves => readTrailer_spec out hleaves

end Itertk.Cgi.PutBack
