import Itertk.Cgi.PutBack
import Itertk.Cgi.Upgrade
import Itertk.Cgi.UrlEncoded

/-!
# The parts of an upload

An upload arrives as parts between boundary lines.  Each part begins with header lines that
name the field and, for a file, the file; what follows the empty line is kept in memory or
goes to a temporary file.

A parameter of `Content-Disposition` that `decomposeValue` does not know is written through
a null pointer.

The parser reads an `mpStream`; `partText` reads plain text in the same way and says what
the parser is for.

## Main results

* `rounds_refines` — on every stream the parser agrees with the one on plain text, and ends,
  and the ring takes all that it puts back.
-/

namespace Itertk.Cgi.Multipart

open Itertk.Base.Search
open Itertk.Daemon.Config
open Itertk.Discovery.Report
open Itertk.Cgi.Session
open Itertk.Cgi.UrlEncoded
open Itertk.Cgi.PutBack

/-! ## Characters -/

/-- `isalpha`. -/
def isAlpha (c : UInt8) : Bool := 65 ≤ c ∧ c ≤ 90 ∨ 97 ≤ c ∧ c ≤ 122

/-- `isalnum`. -/
def isAlnum (c : UInt8) : Bool := isAlpha c ∨ 48 ≤ c ∧ c ≤ 57

/-- `tolower`. -/
def toLower (c : UInt8) : UInt8 := if 65 ≤ c ∧ c ≤ 90 then c + 32 else c

/-- `cgiStrEqNc(s1, s2)`. -/
def cgiStrEqNc : List UInt8 → List UInt8 → Bool
  | [], [] => true
  | [], _ :: _ => false
  | _ :: _, [] => false
  | a :: s1, b :: s2 =>
      if isAlpha a then
        if toLower a ≠ toLower b then false else cgiStrEqNc s1 s2
      else if a ≠ b then false
      else cgiStrEqNc s1 s2

/-- The C string in a buffer. -/
def terminated (s : List UInt8) : List UInt8 := s.takeWhile (· ≠ 0)

/-- `APPEND`, to a buffer of 1024 bytes. -/
def append (s : List UInt8) (ch : UInt8) : List UInt8 :=
  if s.length + 1 < 1024 then s ++ [ch] else s

/-! ## A header line -/

/-- The inner loop of `readHeaderLine`. -/
def skipSpaces (cgiContentLength : Int) (mpp : MpStream) : MpStream :=
  let next := (mpRead cgiContentLength mpp 1).2
  match _h : mpReadChar cgiContentLength mpp with
  | none => next
  | some d => if isSpace d then skipSpaces cgiContentLength next else mpPutBack next [d]
termination_by left mpp
decreasing_by exact mpReadChar_left _h

/-- What `readHeaderLine` reads behind a carriage return. -/
def skipNewline (cgiContentLength : Int) (mpp : MpStream) : MpStream :=
  let next := (mpRead cgiContentLength mpp 1).2
  match mpReadChar cgiContentLength mpp with
  | none => next
  | some d => if d = 10 then next else mpPutBack next [d]

/-- The end of `readHeaderLine`. -/
def lineEnd (attr value : List UInt8) : Option (List UInt8 × List UInt8) :=
  if attr ≠ [] ∧ value ≠ [] then some (terminated attr, terminated value) else none

private theorem skipSpaces_none {cl : Int} {mpp : MpStream} (h : mpReadChar cl mpp = none) :
    skipSpaces cl mpp = (mpRead cl mpp 1).2 := by
  rw [skipSpaces]
  split <;> simp_all

private theorem skipSpaces_some {cl : Int} {mpp : MpStream} {d : UInt8}
    (h : mpReadChar cl mpp = some d) :
    skipSpaces cl mpp =
      if isSpace d then skipSpaces cl (mpRead cl mpp 1).2
      else mpPutBack (mpRead cl mpp 1).2 [d] := by
  rw [skipSpaces]
  split
  · next hnone => rw [h] at hnone; cases hnone
  · next hsome => rw [h] at hsome; cases hsome; rfl

private theorem mpRead_left_le (cl : Int) (mpp : MpStream) :
    left (mpRead cl mpp 1).2 ≤ left mpp := by
  have hread := mpRead_left cl mpp 1
  omega

/-- A character that is put back has been read before. -/
theorem mpPutBack_char_left {cl : Int} {mpp : MpStream} {d : UInt8}
    (h : mpReadChar cl mpp = some d) : left (mpPutBack (mpRead cl mpp 1).2 [d]) ≤ left mpp := by
  have hread := mpReadChar_left h
  have hback := mpPutBack_left (mpRead cl mpp 1).2 [d]
  rw [List.length_singleton] at hback
  omega

private theorem skipSpaces_left (cl : Int) (mpp : MpStream) :
    left (skipSpaces cl mpp) ≤ left mpp := by
  induction mpp using skipSpaces.induct cl with
  | case1 mpp hnone =>
      rw [skipSpaces_none hnone]
      exact mpRead_left_le cl mpp
  | case2 mpp next d hread hspace ih =>
      rw [skipSpaces_some hread, if_pos hspace]
      exact Nat.le_trans ih (mpRead_left_le cl mpp)
  | case3 mpp d hread hspace =>
      rw [skipSpaces_some hread, if_neg hspace]
      exact mpPutBack_char_left hread

private theorem skipNewline_left (cl : Int) (mpp : MpStream) :
    left (skipNewline cl mpp) ≤ left mpp := by
  rw [skipNewline]
  cases hread : mpReadChar cl mpp with
  | none => exact mpRead_left_le cl mpp
  | some d =>
      dsimp only
      split_ifs
      · exact mpRead_left_le cl mpp
      · exact mpPutBack_char_left hread

/-- `readHeaderLine`, with what it has read of the line: the name and the value, when it
returns 1. -/
def readHeaderLine (cgiContentLength : Int) (mpp : MpStream) (attr value : List UInt8)
    (valueFound : Bool) : Option (List UInt8 × List UInt8) × MpStream :=
  let next := (mpRead cgiContentLength mpp 1).2
  match _h : mpReadChar cgiContentLength mpp with
  | none => (none, next)
  | some d =>
      if d = 13 then (lineEnd attr value, skipNewline cgiContentLength next)
      else if d = 10 then (lineEnd attr value, next)
      else if d = 58 ∧ attr ≠ [] then
        readHeaderLine cgiContentLength (skipSpaces cgiContentLength next) attr value true
      else if valueFound = false then
        readHeaderLine cgiContentLength next (if isSpace d then attr else append attr d) value false
      else readHeaderLine cgiContentLength next attr (append value d) true
termination_by left mpp
decreasing_by
  · exact Nat.lt_of_le_of_lt (skipSpaces_left _ _) (mpReadChar_left _h)
  · exact mpReadChar_left _h
  · exact mpReadChar_left _h

private theorem readHeaderLine_none {cl : Int} {mpp : MpStream} (attr value : List UInt8)
    (valueFound : Bool) (h : mpReadChar cl mpp = none) :
    readHeaderLine cl mpp attr value valueFound = (none, (mpRead cl mpp 1).2) := by
  rw [readHeaderLine]
  split <;> simp_all

private theorem readHeaderLine_some {cl : Int} {mpp : MpStream} {d : UInt8}
    (attr value : List UInt8) (valueFound : Bool) (h : mpReadChar cl mpp = some d) :
    readHeaderLine cl mpp attr value valueFound =
      if d = 13 then (lineEnd attr value, skipNewline cl (mpRead cl mpp 1).2)
      else if d = 10 then (lineEnd attr value, (mpRead cl mpp 1).2)
      else if d = 58 ∧ attr ≠ [] then
        readHeaderLine cl (skipSpaces cl (mpRead cl mpp 1).2) attr value true
      else if valueFound = false then
        readHeaderLine cl (mpRead cl mpp 1).2
          (if isSpace d then attr else append attr d) value false
      else readHeaderLine cl (mpRead cl mpp 1).2 attr (append value d) true := by
  rw [readHeaderLine]
  split
  · next hnone => rw [h] at hnone; cases hnone
  · next hsome => rw [h] at hsome; cases hsome; rfl

private theorem readHeaderLine_left_le (cl : Int) (mpp : MpStream) (attr value : List UInt8)
    (valueFound : Bool) : left (readHeaderLine cl mpp attr value valueFound).2 ≤ left mpp := by
  induction mpp, attr, value, valueFound using readHeaderLine.induct cl with
  | case1 mpp attr value valueFound hnone =>
      rw [readHeaderLine_none attr value valueFound hnone]
      exact mpRead_left_le cl mpp
  | case2 mpp attr value valueFound hread =>
      rw [readHeaderLine_some attr value valueFound hread, if_pos rfl]
      exact Nat.le_trans (skipNewline_left cl _) (mpRead_left_le cl mpp)
  | case3 mpp attr value valueFound hread hcr =>
      rw [readHeaderLine_some attr value valueFound hread, if_neg (by decide), if_pos rfl]
      exact mpRead_left_le cl mpp
  | case4 mpp attr value valueFound next d hread hcr hlf hcolon ih =>
      rw [readHeaderLine_some attr value valueFound hread, if_neg hcr, if_neg hlf, if_pos hcolon]
      exact Nat.le_trans ih (Nat.le_trans (skipSpaces_left cl _) (mpRead_left_le cl mpp))
  | case5 mpp attr value next d hread hcr hlf hcolon ih =>
      rw [readHeaderLine_some attr value false hread, if_neg hcr, if_neg hlf, if_neg hcolon,
        if_pos rfl]
      exact Nat.le_trans ih (mpRead_left_le cl mpp)
  | case6 mpp attr value valueFound next d hread hcr hlf hcolon hfound ih =>
      rw [readHeaderLine_some attr value valueFound hread, if_neg hcr, if_neg hlf, if_neg hcolon,
        if_neg hfound]
      exact Nat.le_trans ih (mpRead_left_le cl mpp)

/-- A line takes something from the stream. -/
theorem readHeaderLine_left {cl : Int} {mpp : MpStream} (attr value : List UInt8)
    (valueFound : Bool) {d : UInt8} (h : mpReadChar cl mpp = some d) :
    left (readHeaderLine cl mpp attr value valueFound).2 < left mpp := by
  have hread := mpReadChar_left h
  rw [readHeaderLine_some attr value valueFound h]
  split_ifs
  · exact Nat.lt_of_le_of_lt (skipNewline_left cl _) hread
  · exact hread
  · exact Nat.lt_of_le_of_lt
      (Nat.le_trans (readHeaderLine_left_le cl _ _ _ _) (skipSpaces_left cl _)) hread
  · exact Nat.lt_of_le_of_lt (readHeaderLine_left_le cl _ _ _ _) hread
  · exact Nat.lt_of_le_of_lt (readHeaderLine_left_le cl _ _ _ _) hread
  · exact Nat.lt_of_le_of_lt (readHeaderLine_left_le cl _ _ _ _) hread

/-! ## A header line of plain text -/

/-- The rest behind a carriage return. -/
def afterReturn : List UInt8 → List UInt8
  | [] => []
  | d :: s => if d = 10 then s else d :: s

/-- `readHeaderLine` on plain text. -/
def headerLine (attr value : List UInt8) (valueFound : Bool) :
    List UInt8 → Option (List UInt8 × List UInt8) × List UInt8
  | [] => (none, [])
  | d :: s =>
      if d = 13 then (lineEnd attr value, afterReturn s)
      else if d = 10 then (lineEnd attr value, s)
      else if d = 58 ∧ attr ≠ [] then headerLine attr value true (s.dropWhile isSpace)
      else if valueFound = false then
        headerLine (if isSpace d then attr else append attr d) value false s
      else headerLine attr (append value d) true s
termination_by s => s.length
decreasing_by
  · exact Nat.lt_succ_of_le (List.dropWhile_suffix _).length_le
  · exact Nat.lt_succ_self _
  · exact Nat.lt_succ_self _

private theorem skipSpaces_spec {cl : Int} {mpp : MpStream} {s : List UInt8}
    (h : Leaves cl 0 mpp s) :
    Leaves cl 1 (skipSpaces cl mpp) (s.dropWhile isSpace) := by
  induction s generalizing mpp with
  | nil =>
      obtain ⟨hread, hnext⟩ := h.end
      rw [skipSpaces_none hread]
      exact hnext.mono (Nat.zero_le 1)
  | cons d s ih =>
      obtain ⟨hread, hnext⟩ := h.readChar
      rw [skipSpaces_some hread]
      by_cases hspace : isSpace d = true
      · rw [if_pos hspace, List.dropWhile_cons_of_pos hspace]
        exact ih hnext
      · rw [if_neg hspace, List.dropWhile_cons_of_neg hspace]
        exact hnext.putBack [d] (Nat.le_succ 1)

private theorem skipNewline_spec {cl : Int} {mpp : MpStream} {s : List UInt8}
    (h : Leaves cl 1 mpp s) :
    Leaves cl 1 (skipNewline cl mpp) (afterReturn s) := by
  cases s with
  | nil =>
      obtain ⟨hread, hnext⟩ := h.end
      rw [skipNewline, hread]
      exact hnext.mono (Nat.zero_le 1)
  | cons d s =>
      obtain ⟨hread, hnext⟩ := h.readChar
      rw [skipNewline, hread, afterReturn]
      by_cases hlf : d = 10
      · rw [if_pos hlf]
        dsimp only
        rw [if_pos hlf]
        exact hnext.mono (Nat.zero_le 1)
      · rw [if_neg hlf]
        dsimp only
        rw [if_neg hlf]
        exact hnext.putBack [d] (Nat.le_succ 1)

/-- A header line is read as from plain text.  What is put back meets an empty ring: at a
colon a character of the name has been read before it. -/
theorem readHeaderLine_spec {cl : Int} {mpp : MpStream} {s : List UInt8} (attr value : List UInt8)
    (valueFound : Bool) (h : Leaves cl 2 mpp s)
    (hattr : attr ≠ [] → (pending mpp).length ≤ 1) :
    (readHeaderLine cl mpp attr value valueFound).1 = (headerLine attr value valueFound s).1 ∧
      Leaves cl 1 (readHeaderLine cl mpp attr value valueFound).2
        (headerLine attr value valueFound s).2 := by
  induction attr, value, valueFound, s using headerLine.induct generalizing mpp with
  | case1 attr value valueFound =>
      obtain ⟨hread, hnext⟩ := h.end
      rw [readHeaderLine_none attr value valueFound hread, headerLine]
      exact ⟨rfl, hnext⟩
  | case2 attr value valueFound s =>
      obtain ⟨hread, hnext⟩ := h.readChar
      rw [readHeaderLine_some attr value valueFound hread, headerLine, if_pos rfl, if_pos rfl]
      exact ⟨rfl, skipNewline_spec hnext⟩
  | case3 attr value valueFound s hcr =>
      obtain ⟨hread, hnext⟩ := h.readChar
      rw [readHeaderLine_some attr value valueFound hread, headerLine, if_neg hcr, if_neg hcr,
        if_pos rfl, if_pos rfl]
      exact ⟨rfl, hnext⟩
  | case4 attr value valueFound d s hcr hlf hcolon ih =>
      obtain ⟨hread, hnext⟩ := (Leaves.mk h.rest_eq (hattr hcolon.2) h.within).readChar
      rw [readHeaderLine_some attr value valueFound hread, headerLine, if_neg hcr, if_neg hcr,
        if_neg hlf, if_neg hlf, if_pos hcolon, if_pos hcolon]
      have hskip := skipSpaces_spec hnext
      exact ih (hskip.mono (by decide)) fun _ => hskip.small
  | case5 attr value d s hcr hlf hcolon ih =>
      obtain ⟨hread, hnext⟩ := h.readChar
      rw [readHeaderLine_some attr value false hread, headerLine, if_neg hcr, if_neg hcr,
        if_neg hlf, if_neg hlf, if_neg hcolon, if_neg hcolon, if_pos rfl, if_pos rfl]
      exact ih (hnext.mono (by decide)) fun _ => hnext.small
  | case6 attr value valueFound d s hcr hlf hcolon hfound ih =>
      obtain ⟨hread, hnext⟩ := h.readChar
      rw [readHeaderLine_some attr value valueFound hread, headerLine, if_neg hcr, if_neg hcr,
        if_neg hlf, if_neg hlf, if_neg hcolon, if_neg hcolon, if_neg hfound, if_neg hfound]
      exact ih (hnext.mono (by decide)) fun _ => hnext.small

/-! ## The value of a header -/

/-- The characters up to `;`, of a quoted text those between the quotes; and what is left
from the `;` on. -/
def quoted : List UInt8 → List UInt8 × List UInt8
  | [] => ([], [])
  | c :: value =>
      if c = 34 then
        (value.takeWhile (· ≠ 34), (value.dropWhile (· ≠ 34)).dropWhile (· ≠ 59))
      else ((c :: value).takeWhile (· ≠ 59), (c :: value).dropWhile (· ≠ 59))

private theorem quoted_length (value : List UInt8) : (quoted value).2.length ≤ value.length := by
  cases value with
  | nil => exact Nat.le_refl 0
  | cons c value =>
      rw [quoted]
      split_ifs
      · have hquote := (List.dropWhile_suffix (l := value) (· ≠ 34)).length_le
        have hrest := (List.dropWhile_suffix (l := value.dropWhile (· ≠ 34)) (· ≠ 59)).length_le
        exact Nat.le_succ_of_le (Nat.le_trans hrest hquote)
      · exact (List.dropWhile_suffix _).length_le

/-- A parameter behind a `;`: its name, its value and what is left; none when the line is
malformed. -/
def parameter (value : List UInt8) : Option (List UInt8 × List UInt8 × List UInt8) :=
  let value := value.dropWhile isSpace
  let argName := (value.takeWhile isAlnum).take 1023
  match (value.dropWhile isAlnum).dropWhile isSpace with
  | [] => none
  | c :: value =>
      if c ≠ 61 then none
      else
        let argValue := quoted (value.dropWhile isSpace)
        some (argName, argValue.1, argValue.2)

private theorem parameter_length {value argName argValue rest : List UInt8}
    (h : parameter value = some (argName, argValue, rest)) : rest.length < value.length := by
  have hspace := (List.dropWhile_suffix (l := value) isSpace).length_le
  have hname := (List.dropWhile_suffix (l := value.dropWhile isSpace) isAlnum).length_le
  have hspace' :=
    (List.dropWhile_suffix (l := (value.dropWhile isSpace).dropWhile isAlnum) isSpace).length_le
  rw [parameter] at h
  dsimp only at h
  cases hrest : ((value.dropWhile isSpace).dropWhile isAlnum).dropWhile isSpace with
  | nil => rw [hrest] at h; cases h
  | cons c s =>
      rw [hrest] at h hspace'
      dsimp only at h
      split_ifs at h
      cases h
      have hquoted := quoted_length (s.dropWhile isSpace)
      have hspace'' := (List.dropWhile_suffix (l := s) isSpace).length_le
      rw [List.length_cons] at hspace'
      omega

/-- The loop of `decomposeValue` over the parameters; none when it writes through a null
pointer. -/
def parameters (argNames : List (List UInt8)) (argValueSpace : Nat)
    (argValues : List (List UInt8)) : List UInt8 → Option (List (List UInt8))
  | [] => some argValues
  | c :: value =>
      if c ≠ 59 then some argValues
      else
        match _h : parameter value with
        | none => some argValues
        | some (argName, argValue, rest) =>
            let argNum := argNames.findIdx (cgiStrEqNc argName)
            if argNum < argNames.length then
              parameters argNames argValueSpace
                (argValues.set argNum (argValue.take (argValueSpace - 1))) rest
            else if argValueSpace ≠ 0 then none
            else parameters argNames argValueSpace argValues rest
termination_by value => value.length
decreasing_by all_goals exact Nat.lt_succ_of_lt (parameter_length _h)

/-- `decomposeValue(value, mvalue, 1024, argNames, argValues, argValueSpace)`: `mvalue` and
`argValues`. -/
def decomposeValue (value : List UInt8) (argNames : List (List UInt8)) (argValueSpace : Nat) :
    Option (List UInt8 × List (List UInt8)) :=
  let mvalue := quoted (value.dropWhile isSpace)
  (parameters argNames argValueSpace (argNames.map fun _ => []) mvalue.2).map fun argValues =>
    (mvalue.1.take 1023, argValues)

/-- What the header of a part says. -/
structure Header where
  fvalue : List UInt8
  fname : List UInt8
  ffileName : List UInt8
  fcontentType : List UInt8

/-- The values before the first header line. -/
def noHeader : Header := ⟨[], [], [], []⟩

/-- `"Content-Disposition"`. -/
def contentDisposition : List UInt8 :=
  chars ['C', 'o', 'n', 't', 'e', 'n', 't', '-', 'D', 'i', 's', 'p', 'o', 's', 'i', 't', 'i', 'o',
    'n']

/-- `"Content-Type"`. -/
def contentTypeName : List UInt8 :=
  chars ['C', 'o', 'n', 't', 'e', 'n', 't', '-', 'T', 'y', 'p', 'e']

/-- `"form-data"`. -/
def formData : List UInt8 := chars ['f', 'o', 'r', 'm', '-', 'd', 'a', 't', 'a']

/-- `"name"`. -/
def nameArg : List UInt8 := chars ['n', 'a', 'm', 'e']

/-- `"filename"`. -/
def fileNameArg : List UInt8 := chars ['f', 'i', 'l', 'e', 'n', 'a', 'm', 'e']

/-- The body of the loop over the header lines; none when the program is killed. -/
def readHeader (hdr : Header) (attr value : List UInt8) : Option Header :=
  if cgiStrEqNc attr contentDisposition then
    (decomposeValue value [nameArg, fileNameArg] 1024).map fun r =>
      { hdr with fvalue := r.1, fname := r.2.getD 0 [], ffileName := r.2.getD 1 [] }
  else if cgiStrEqNc attr contentTypeName then
    (decomposeValue value [] 0).map fun r => { hdr with fcontentType := r.1 }
  else some hdr

/-- The loop over the header lines. -/
def readHeaders (cgiContentLength : Int) (mpp : MpStream) (hdr : Header) :
    Option (Header × MpStream) :=
  match _h : readHeaderLine cgiContentLength mpp [] [] false with
  | (none, next) => some (hdr, next)
  | (some (attr, value), next) =>
      match readHeader hdr attr value with
      | none => none
      | some hdr => readHeaders cgiContentLength next hdr
termination_by left mpp
decreasing_by
  cases hread : mpReadChar cgiContentLength mpp with
  | none =>
      rw [readHeaderLine_none [] [] false hread] at _h
      cases _h
  | some d =>
      have hleft := readHeaderLine_left [] [] false hread
      rw [_h] at hleft
      exact hleft

private theorem afterReturn_length (s : List UInt8) : (afterReturn s).length ≤ s.length := by
  cases s with
  | nil => exact Nat.le_refl 0
  | cons d s =>
      rw [afterReturn]
      split_ifs
      · exact Nat.le_succ _
      · exact Nat.le_refl _

private theorem headerLine_length_le (attr value : List UInt8) (valueFound : Bool)
    (s : List UInt8) :
    (headerLine attr value valueFound s).2.length ≤ s.length := by
  induction attr, value, valueFound, s using headerLine.induct with
  | case1 attr value valueFound => rw [headerLine]
  | case2 attr value valueFound s =>
      rw [headerLine, if_pos rfl]
      exact Nat.le_succ_of_le (afterReturn_length s)
  | case3 attr value valueFound s hcr =>
      rw [headerLine, if_neg hcr, if_pos rfl]
      exact Nat.le_succ _
  | case4 attr value valueFound d s hcr hlf hcolon ih =>
      rw [headerLine, if_neg hcr, if_neg hlf, if_pos hcolon]
      exact Nat.le_succ_of_le (Nat.le_trans ih (List.dropWhile_suffix _).length_le)
  | case5 attr value d s hcr hlf hcolon ih =>
      rw [headerLine, if_neg hcr, if_neg hlf, if_neg hcolon, if_pos rfl]
      exact Nat.le_succ_of_le ih
  | case6 attr value valueFound d s hcr hlf hcolon hfound ih =>
      rw [headerLine, if_neg hcr, if_neg hlf, if_neg hcolon, if_neg hfound]
      exact Nat.le_succ_of_le ih

private theorem headerLine_length (attr value : List UInt8) (valueFound : Bool) (d : UInt8)
    (s : List UInt8) : (headerLine attr value valueFound (d :: s)).2.length < (d :: s).length := by
  have hle := headerLine_length_le
  rw [headerLine]
  split_ifs
  · exact Nat.lt_succ_of_le (afterReturn_length s)
  · exact Nat.lt_succ_self _
  · exact Nat.lt_succ_of_le (Nat.le_trans (hle _ _ _ _) (List.dropWhile_suffix _).length_le)
  · exact Nat.lt_succ_of_le (hle _ _ _ _)
  · exact Nat.lt_succ_of_le (hle _ _ _ _)
  · exact Nat.lt_succ_of_le (hle _ _ _ _)

/-- The loop over the header lines of plain text. -/
def headers (hdr : Header) (s : List UInt8) : Option (Header × List UInt8) :=
  match _h : headerLine [] [] false s with
  | (none, rest) => some (hdr, rest)
  | (some (attr, value), rest) =>
      match readHeader hdr attr value with
      | none => none
      | some hdr => headers hdr rest
termination_by s.length
decreasing_by
  cases s with
  | nil =>
      rw [headerLine] at _h
      cases _h
  | cons d s =>
      have hlt := headerLine_length [] [] false d s
      rw [_h] at hlt
      exact hlt

/-! ## The parts -/

/-- The system under `getTempFileName` and `fopen`: the name that the `k`-th `mkstemp` makes,
none when it or `chmod` fails, and whether the file can be opened then. -/
structure Temporary where
  mkstemp : Nat → Option (List UInt8)
  fopen : Nat → Bool

/-- What the parser has made: the list at `cgiFormEntryFirst`, the files, and how many
temporary files it has asked for. -/
structure Store where
  form : List FormEntry
  files : Files
  calls : Nat

/-- `tfileName` for a part, and whether `outf` is open; none when there is no name. -/
def openOut (tmp : Temporary) (st : Store) (hdr : Header) : Option (List UInt8 × Bool) :=
  if hdr.ffileName ≠ [] then (tmp.mkstemp st.calls).map fun name => (name, tmp.fopen st.calls)
  else some ([], false)

/-- A new entry at the end of the list.  The body is in the temporary file, when that is
open. -/
def addEntry (st : Store) (hdr : Header) (out : List UInt8 × Bool) (body : List UInt8) : Store where
  form := st.form ++
    [⟨hdr.fname, if out.2 then [] else body, body.length, hdr.ffileName, hdr.fcontentType, out.1⟩]
  files path :=
    if hdr.ffileName ≠ [] ∧ path = out.1 then some (if out.2 then body else []) else st.files path
  calls := if hdr.ffileName ≠ [] then st.calls + 1 else st.calls

/-- How a round of the loop ends: by `break`, with an error, killed, or with more to read. -/
inductive Round (σ : Type) where
  | done
  | io
  | killed
  | more (st : Store) (s : σ)

/-- A round of the loop of `cgiParsePostMultipartInput`. -/
def readPart (tmp : Temporary) (cgiContentLength : Int) (cgiMultipartBoundary : List UInt8)
    (st : Store) (mpp : MpStream) : Round MpStream :=
  let d := mpRead cgiContentLength mpp 2
  if d.1.length < 2 then .done
  else if d.1 = [45, 45] then .done
  else
    match readHeaders cgiContentLength (mpPutBack d.2 d.1) noHeader with
    | none => .killed
    | some (hdr, mpp) =>
        if cgiStrEqNc hdr.fvalue formData = false then .more st mpp
        else
          match openOut tmp st hdr with
          | none => .io
          | some out =>
              match afterNextBoundary cgiContentLength cgiMultipartBoundary mpp false with
              | none => .io
              | some (body, mpp) => .more (addEntry st hdr out body) mpp

/-- The same on plain text. -/
def partText (tmp : Temporary) (cgiMultipartBoundary : List UInt8) (st : Store)
    (s : List UInt8) : Round (List UInt8) :=
  if s.length < 2 then .done
  else if s.take 2 = [45, 45] then .done
  else
    match headers noHeader s with
    | none => .killed
    | some (hdr, s) =>
        if cgiStrEqNc hdr.fvalue formData = false then .more st s
        else
          match openOut tmp st hdr with
          | none => .io
          | some out =>
              match nextPart cgiMultipartBoundary s with
              | none => .io
              | some (body, s) => .more (addEntry st hdr out body) s

/-- What becomes of the form. -/
inductive Outcome where
  | success (st : Store)
  | io
  | killed

/-- The loop, for at most so many rounds; none when it has not ended. -/
def rounds {σ : Type} (round : Store → σ → Round σ) : Nat → Store → σ → Option Outcome
  | 0, _, _ => none
  | n + 1, st, s =>
      match round st s with
      | .done => some (.success st)
      | .io => some .io
      | .killed => some .killed
      | .more st s => rounds round n st s

/-- `cgiParsePostMultipartInput` within so many rounds.  Without a first boundary the form is
empty. -/
def cgiParsePostMultipartInput (tmp : Temporary) (cgiContentLength : Int)
    (cgiMultipartBoundary cgiIn : List UInt8) (files : Files) (n : Nat) : Option Outcome :=
  if cgiContentLength = 0 then some (.success ⟨[], files, 0⟩)
  else
    match afterNextBoundary cgiContentLength cgiMultipartBoundary (start cgiIn) true with
    | none => some (.success ⟨[], files, 0⟩)
    | some (_, mpp) =>
        rounds (readPart tmp cgiContentLength cgiMultipartBoundary) n ⟨[], files, 0⟩ mpp

/-! ## The parser and plain text -/

private theorem readHeaders_end {cl : Int} {mpp next : MpStream} (hdr : Header)
    (h : readHeaderLine cl mpp [] [] false = (none, next)) :
    readHeaders cl mpp hdr = some (hdr, next) := by
  rw [readHeaders]
  split <;> simp_all

private theorem readHeaders_line {cl : Int} {mpp next : MpStream} {attr value : List UInt8}
    (hdr : Header) (h : readHeaderLine cl mpp [] [] false = (some (attr, value), next)) :
    readHeaders cl mpp hdr =
      (readHeader hdr attr value).bind fun hdr => readHeaders cl next hdr := by
  rw [readHeaders]
  split
  · next hend => rw [h] at hend; cases hend
  · next hline =>
      rw [h] at hline
      cases hline
      cases readHeader hdr attr value <;> rfl

theorem headers_end {s rest : List UInt8} (hdr : Header)
    (h : headerLine [] [] false s = (none, rest)) : headers hdr s = some (hdr, rest) := by
  rw [headers]
  split <;> simp_all

theorem headers_line {s rest attr value : List UInt8} (hdr : Header)
    (h : headerLine [] [] false s = (some (attr, value), rest)) :
    headers hdr s = (readHeader hdr attr value).bind fun hdr => headers hdr rest := by
  rw [headers]
  split
  · next hend => rw [h] at hend; cases hend
  · next hline =>
      rw [h] at hline
      cases hline
      cases readHeader hdr attr value <;> rfl

/-- The loop over the header lines reads them as from plain text. -/
theorem readHeaders_spec {cl : Int} {mpp : MpStream} {s : List UInt8} (hdr : Header)
    (h : Leaves cl 2 mpp s) : Agrees cl 1 (headers hdr s) (readHeaders cl mpp hdr) := by
  induction hdr, s using headers.induct generalizing mpp with
  | case1 hdr s rest hend =>
      obtain ⟨hline, hnext⟩ := readHeaderLine_spec [] [] false h fun hne => absurd rfl hne
      rw [hend] at hline hnext
      rw [headers_end hdr hend, readHeaders_end hdr (Prod.ext hline rfl)]
      exact Agrees.some hdr hnext
  | case2 hdr s attr value rest hend hkilled =>
      obtain ⟨hline, hnext⟩ := readHeaderLine_spec [] [] false h fun hne => absurd rfl hne
      rw [hend] at hline hnext
      rw [headers_line hdr hend, readHeaders_line hdr (Prod.ext hline rfl), hkilled]
      exact Agrees.none cl 1
  | case3 hdr s attr value rest hend hdr' hread ih =>
      obtain ⟨hline, hnext⟩ := readHeaderLine_spec [] [] false h fun hne => absurd rfl hne
      rw [hend] at hline hnext
      rw [headers_line hdr hend, readHeaders_line hdr (Prod.ext hline rfl), hread]
      exact ih (hnext.mono (Nat.le_succ 1))

/-- How a round on the stream ends, beside how it ends on plain text. -/
inductive SameRound (cl : Int) : Round (List UInt8) → Round MpStream → Prop where
  | done : SameRound cl .done .done
  | io : SameRound cl .io .io
  | killed : SameRound cl .killed .killed
  | more (st : Store) {s : List UInt8} {mpp : MpStream} (h : Leaves cl 2 mpp s) :
      SameRound cl (.more st s) (.more st mpp)

/-- One part is read as from plain text. -/
theorem readPart_spec (tmp : Temporary) {cl : Int} {boundary : List UInt8}
    (hboundary : IsBoundary boundary) (st : Store) {mpp : MpStream} {s : List UInt8}
    (h : Leaves cl 2 mpp s) :
    SameRound cl (partText tmp boundary st s) (readPart tmp cl boundary st mpp) := by
  obtain ⟨hread, hnext⟩ := h.read 2
  have hlen : (s.take 2).length = min 2 s.length := List.length_take
  rw [readPart, partText, hread]
  by_cases hshort : s.length < 2
  · have hshort' : (s.take 2).length < 2 := by omega
    rw [if_pos hshort, if_pos hshort']
    exact SameRound.done
  have htwo : (s.take 2).length = 2 := by omega
  have hshort' : ¬(s.take 2).length < 2 := by omega
  rw [if_neg hshort, if_neg hshort']
  by_cases hend : s.take 2 = [45, 45]
  · rw [if_pos hend, if_pos hend]
    exact SameRound.done
  rw [if_neg hend, if_neg hend]
  have hback := hnext.putBack (s.take 2) (Nat.le_of_eq htwo)
  rw [htwo, List.take_append_drop] at hback
  have hheaders := readHeaders_spec noHeader hback
  rw [← hheaders.same]
  cases hhdr : readHeaders cl (mpPutBack (mpRead cl mpp 2).2 (s.take 2)) noHeader with
  | none => exact SameRound.killed
  | some x =>
      obtain ⟨hdr, mpp'⟩ := x
      obtain ⟨hsmall, hwithin⟩ := hheaders.ready _ hhdr
      dsimp only [Option.map_some]
      split_ifs with hform
      · exact SameRound.more st ⟨rfl, Nat.le_succ_of_le hsmall, hwithin⟩
      cases openOut tmp st hdr with
      | none => exact SameRound.io
      | some out =>
          have hbody := afterNextBoundary_spec hboundary ⟨rfl, hsmall, hwithin⟩
          dsimp only
          rw [← hbody.same]
          cases hpart : afterNextBoundary cl boundary mpp' false with
          | none => exact SameRound.io
          | some y =>
              obtain ⟨hsmall, hwithin⟩ := hbody.ready y hpart
              exact SameRound.more _ ⟨rfl, hsmall, hwithin⟩

/-- A run agrees when each round does. -/
theorem rounds_agree {cl : Int} {text : Store → List UInt8 → Round (List UInt8)}
    {round : Store → MpStream → Round MpStream}
    (hround : ∀ st s mpp, Leaves cl 2 mpp s → SameRound cl (text st s) (round st mpp)) (n : Nat)
    (st : Store) {s : List UInt8} {mpp : MpStream} (h : Leaves cl 2 mpp s) :
    rounds round n st mpp = rounds text n st s := by
  induction n generalizing st s mpp with
  | zero => rfl
  | succ n ih =>
      have hstep := hround st s mpp h
      rw [rounds, rounds]
      generalize text st s = t, round st mpp = r at hstep
      cases hstep with
      | done => rfl
      | io => rfl
      | killed => rfl
      | more st' hleaves => exact ih st' hleaves

/-! ## The end of the loop -/

private theorem headers_length_le {hdr hdr' : Header} {s rest : List UInt8}
    (h : headers hdr s = some (hdr', rest)) : rest.length ≤ s.length := by
  induction hdr, s using headers.induct with
  | case1 hdr s rest' hend =>
      have hle := headerLine_length_le [] [] false s
      rw [headers_end hdr hend] at h
      cases h
      rw [hend] at hle
      exact hle
  | case2 hdr s attr value rest' hend hkilled =>
      rw [headers_line hdr hend, hkilled] at h
      cases h
  | case3 hdr s attr value rest' hend hdr'' hread ih =>
      have hle := headerLine_length_le [] [] false s
      rw [headers_line hdr hend, hread] at h
      rw [hend] at hle
      exact Nat.le_trans (ih h) hle

/-- The header takes something from the text. -/
theorem headers_length {hdr hdr' : Header} {d : UInt8} {s rest : List UInt8}
    (h : headers hdr (d :: s) = some (hdr', rest)) : rest.length < (d :: s).length := by
  have hlt := headerLine_length [] [] false d s
  cases hline : headerLine [] [] false (d :: s) with
  | mk r next =>
      rw [hline] at hlt
      cases r with
      | none =>
          rw [headers_end hdr hline] at h
          cases h
          exact hlt
      | some line =>
          rw [headers_line hdr hline] at h
          obtain ⟨hdr'', -, hrest⟩ := Option.bind_eq_some_iff.mp h
          exact Nat.lt_of_le_of_lt (headers_length_le hrest) hlt

private theorem nextPart_length {boundary s body rest : List UInt8}
    (h : nextPart boundary s = some (body, rest)) : rest.length ≤ s.length := by
  obtain ⟨r, hsplit, hline⟩ := Option.bind_eq_some_iff.mp h
  have hlen := congrArg List.length (findFirst_sound hsplit)
  rw [List.length_append, List.length_append] at hlen
  rw [nextLine] at hline
  split_ifs at hline
  · cases hline
    omega
  · cases hline
    rw [List.length_drop]
    omega

private theorem partText_length {tmp : Temporary} {boundary s s' : List UInt8} {st st' : Store}
    (h : partText tmp boundary st s = .more st' s') : s'.length < s.length := by
  rw [partText] at h
  split_ifs at h with hshort hend
  cases s with
  | nil => exact absurd (Nat.zero_lt_two) hshort
  | cons d s =>
      cases hhdr : headers noHeader (d :: s) with
      | none => rw [hhdr] at h; cases h
      | some x =>
          obtain ⟨hdr, rest⟩ := x
          have hlt := headers_length hhdr
          rw [hhdr] at h
          dsimp only at h
          split_ifs at h with hform
          · cases h
            exact hlt
          · cases hout : openOut tmp st hdr with
            | none => rw [hout] at h; cases h
            | some out =>
                rw [hout] at h
                dsimp only at h
                cases hpart : nextPart boundary rest with
                | none => rw [hpart] at h; cases h
                | some y =>
                    rw [hpart] at h
                    cases h
                    exact Nat.lt_of_le_of_lt (nextPart_length hpart) hlt

/-- Each round takes something from the text, so that the loop ends. -/
theorem rounds_partText_ends (tmp : Temporary) (boundary : List UInt8) (n : Nat) (st : Store)
    {s : List UInt8} (h : s.length < n) : (rounds (partText tmp boundary) n st s).isSome := by
  induction n generalizing st s with
  | zero => exact absurd h (Nat.not_lt_zero _)
  | succ n ih =>
      rw [rounds]
      cases hround : partText tmp boundary st s with
      | done => rfl
      | io => rfl
      | killed => rfl
      | more st' s' =>
          have hlt := partText_length hround
          exact ih st' (by omega)

theorem rounds_readPart (tmp : Temporary) {cl : Int} {boundary : List UInt8}
    (hboundary : IsBoundary boundary) (st : Store) {mpp : MpStream} {s : List UInt8}
    (h : Leaves cl 2 mpp s) (n : Nat) :
    rounds (readPart tmp cl boundary) n st mpp = rounds (partText tmp boundary) n st s :=
  rounds_agree (fun st _ _ h => readPart_spec tmp hboundary st h) n st h

/-! ## What is put back -/

/-- While the inner loop of `readHeaderLine` runs, `data` is put back into the stream `m`. -/
inductive SpacesPuts (cl : Int) : MpStream → MpStream → List UInt8 → Prop where
  | back {mpp : MpStream} {d : UInt8} (hread : mpReadChar cl mpp = some d)
      (hspace : isSpace d = false) : SpacesPuts cl mpp (mpRead cl mpp 1).2 [d]
  | skip {mpp m : MpStream} {d : UInt8} {data : List UInt8} (hread : mpReadChar cl mpp = some d)
      (hspace : isSpace d = true) (h : SpacesPuts cl (mpRead cl mpp 1).2 m data) :
      SpacesPuts cl mpp m data

/-- The same while `readHeaderLine` runs. -/
inductive LinePuts (cl : Int) :
    MpStream → List UInt8 → List UInt8 → Bool → MpStream → List UInt8 → Prop where
  | newline {mpp : MpStream} {attr value : List UInt8} {found : Bool} {d : UInt8}
      (hread : mpReadChar cl mpp = some 13) (hnext : mpReadChar cl (mpRead cl mpp 1).2 = some d)
      (hne : d ≠ 10) :
      LinePuts cl mpp attr value found (mpRead cl (mpRead cl mpp 1).2 1).2 [d]
  | spaces {mpp m : MpStream} {attr value data : List UInt8} {found : Bool}
      (hread : mpReadChar cl mpp = some 58) (hattr : attr ≠ [])
      (h : SpacesPuts cl (mpRead cl mpp 1).2 m data) : LinePuts cl mpp attr value found m data
  | colon {mpp m : MpStream} {attr value data : List UInt8} {found : Bool}
      (hread : mpReadChar cl mpp = some 58) (hattr : attr ≠ [])
      (h : LinePuts cl (skipSpaces cl (mpRead cl mpp 1).2) attr value true m data) :
      LinePuts cl mpp attr value found m data
  | name {mpp m : MpStream} {attr value data : List UInt8} {d : UInt8}
      (hread : mpReadChar cl mpp = some d) (hcr : d ≠ 13) (hlf : d ≠ 10)
      (hcolon : ¬(d = 58 ∧ attr ≠ []))
      (h : LinePuts cl (mpRead cl mpp 1).2 (if isSpace d then attr else append attr d) value false
        m data) : LinePuts cl mpp attr value false m data
  | value {mpp m : MpStream} {attr value data : List UInt8} {d : UInt8}
      (hread : mpReadChar cl mpp = some d) (hcr : d ≠ 13) (hlf : d ≠ 10)
      (hcolon : ¬(d = 58 ∧ attr ≠ []))
      (h : LinePuts cl (mpRead cl mpp 1).2 attr (append value d) true m data) :
      LinePuts cl mpp attr value true m data

/-- The same while the loop over the header lines runs. -/
inductive HeadersPuts (cl : Int) : MpStream → Header → MpStream → List UInt8 → Prop where
  | line {mpp m : MpStream} {hdr : Header} {data : List UInt8}
      (h : LinePuts cl mpp [] [] false m data) : HeadersPuts cl mpp hdr m data
  | more {mpp m next : MpStream} {hdr hdr' : Header} {attr value data : List UInt8}
      (hline : readHeaderLine cl mpp [] [] false = (some (attr, value), next))
      (hread : readHeader hdr attr value = some hdr') (h : HeadersPuts cl next hdr' m data) :
      HeadersPuts cl mpp hdr m data

/-- The same while a round of the loop of `cgiParsePostMultipartInput` runs. -/
inductive PartPuts (tmp : Temporary) (cl : Int) (boundary : List UInt8) (st : Store)
    (mpp : MpStream) : MpStream → List UInt8 → Prop where
  | two (hlen : ¬(mpRead cl mpp 2).1.length < 2) (hend : (mpRead cl mpp 2).1 ≠ [45, 45]) :
      PartPuts tmp cl boundary st mpp (mpRead cl mpp 2).2 (mpRead cl mpp 2).1
  | headers {m : MpStream} {data : List UInt8} (hlen : ¬(mpRead cl mpp 2).1.length < 2)
      (hend : (mpRead cl mpp 2).1 ≠ [45, 45])
      (h : HeadersPuts cl (mpPutBack (mpRead cl mpp 2).2 (mpRead cl mpp 2).1) noHeader m data) :
      PartPuts tmp cl boundary st mpp m data
  | body {m next : MpStream} {data : List UInt8} {hdr : Header} {out : List UInt8 × Bool}
      (hlen : ¬(mpRead cl mpp 2).1.length < 2) (hend : (mpRead cl mpp 2).1 ≠ [45, 45])
      (hhdr : readHeaders cl (mpPutBack (mpRead cl mpp 2).2 (mpRead cl mpp 2).1) noHeader =
        some (hdr, next))
      (hform : cgiStrEqNc hdr.fvalue formData = true) (hout : openOut tmp st hdr = some out)
      (h : BoundaryPuts cl boundary next false m data) : PartPuts tmp cl boundary st mpp m data

/-- The same while the loop runs. -/
inductive RoundsPuts (tmp : Temporary) (cl : Int) (boundary : List UInt8) :
    Store → MpStream → MpStream → List UInt8 → Prop where
  | here {st : Store} {mpp m : MpStream} {data : List UInt8}
      (h : PartPuts tmp cl boundary st mpp m data) : RoundsPuts tmp cl boundary st mpp m data
  | later {st st' : Store} {mpp mpp' m : MpStream} {data : List UInt8}
      (hround : readPart tmp cl boundary st mpp = .more st' mpp')
      (h : RoundsPuts tmp cl boundary st' mpp' m data) : RoundsPuts tmp cl boundary st mpp m data

/-- What the header lines put back has just been read. -/
theorem SpacesPuts.room {cl : Int} {mpp m : MpStream} {data : List UInt8}
    (h : SpacesPuts cl mpp m data) : HasRoom m data := by
  induction h with
  | back hread hspace => exact hasRoom_read cl _ (Nat.le_refl 1) (by decide)
  | skip hread hspace h ih => exact ih

theorem LinePuts.room {cl : Int} {mpp m : MpStream} {attr value data : List UInt8} {found : Bool}
    (h : LinePuts cl mpp attr value found m data) : HasRoom m data := by
  induction h with
  | newline hread hnext hne => exact hasRoom_read cl _ (Nat.le_refl 1) (by decide)
  | spaces hread hattr h => exact h.room
  | colon hread hattr h ih => exact ih
  | name hread hcr hlf hcolon h ih => exact ih
  | value hread hcr hlf hcolon h ih => exact ih

theorem HeadersPuts.room {cl : Int} {mpp m : MpStream} {hdr : Header} {data : List UInt8}
    (h : HeadersPuts cl mpp hdr m data) : HasRoom m data := by
  induction h with
  | line h => exact h.room
  | more hline hread h ih => exact ih

theorem PartPuts.room {tmp : Temporary} {cl : Int} {boundary : List UInt8} {st : Store}
    {mpp m : MpStream} {data : List UInt8} (h : PartPuts tmp cl boundary st mpp m data)
    (hboundary : IsBoundary boundary) : HasRoom m data := by
  cases h with
  | two hlen hend =>
      have hread := mpRead_length_le cl mpp 2
      exact hasRoom_read cl mpp hread (by decide)
  | headers hlen hend h => exact h.room
  | body hlen hend hhdr hform hout h => exact h.room hboundary

/-- Nothing that is put back runs into what still waits in the ring, in any state of it. -/
theorem RoundsPuts.room {tmp : Temporary} {cl : Int} {boundary : List UInt8} {st : Store}
    {mpp m : MpStream} {data : List UInt8} (h : RoundsPuts tmp cl boundary st mpp m data)
    (hboundary : IsBoundary boundary) : HasRoom m data := by
  induction h with
  | here h => exact h.room hboundary
  | later hround h ih => exact ih

/-- On every stream the ring takes all that is put back, by the search for the first boundary and
behind it; there the parser agrees with the one on plain text, and ends after at most as many
rounds as there are characters. -/
theorem rounds_refines (tmp : Temporary) {cl : Int} {boundary : List UInt8}
    (hboundary : IsBoundary boundary) (st : Store) {mpp : MpStream} {s : List UInt8}
    (h : Leaves cl 2 mpp s) :
    (∀ m data, BoundaryPuts cl boundary mpp true m data → HasRoom m data) ∧
      (∀ m data, RoundsPuts tmp cl boundary st mpp m data → HasRoom m data) ∧
      (∀ n, rounds (readPart tmp cl boundary) n st mpp = rounds (partText tmp boundary) n st s) ∧
      (rounds (readPart tmp cl boundary) (s.length + 1) st mpp).isSome := by
  refine ⟨fun m data hputs => hputs.room hboundary, fun m data hputs => hputs.room hboundary,
    rounds_readPart tmp hboundary st h, ?_⟩
  rw [rounds_readPart tmp hboundary st h]
  exact rounds_partText_ends tmp boundary (s.length + 1) st (Nat.lt_succ_self _)

/-- The names and bodies in the form, when it has been read. -/
def entries : Option Outcome → List (List UInt8 × List UInt8)
  | some (.success st) => st.form.map fun e => (e.attr, e.value)
  | _ => []

/-- The system under a form without files. -/
def noFiles : Temporary := ⟨fun _ => none, fun _ => false⟩

/-- A field `a` whose body breaks off like the boundary `B`, and the end of the form. -/
def nearlyEnded : List UInt8 :=
  contentDisposition ++ [58, 32] ++ formData ++
    chars [';', ' ', 'n', 'a', 'm', 'e', '=', '"', 'a', '"'] ++
    [13, 10, 13, 10, 120, 13, 10, 45, 121, 13, 10, 45, 45, 66, 45, 45, 13, 10]

/-- It is copied although the match fails, with two characters in the ring at first. -/
theorem rounds_refines_nearlyEnded :
    (∀ m data, BoundaryPuts 56 [66] (mpPutBack (start (nearlyEnded.drop 2)) [67, 111]) true m data →
        HasRoom m data) ∧
      (∀ m data, RoundsPuts noFiles 56 [66] ⟨[], boot, 0⟩
        (mpPutBack (start (nearlyEnded.drop 2)) [67, 111]) m data → HasRoom m data) ∧
      (rounds (readPart noFiles 56 [66]) 59 ⟨[], boot, 0⟩
        (mpPutBack (start (nearlyEnded.drop 2)) [67, 111])).isSome ∧
      entries (rounds (readPart noFiles 56 [66]) 59 ⟨[], boot, 0⟩
        (mpPutBack (start (nearlyEnded.drop 2)) [67, 111])) = [([97], [120, 13, 10, 45, 121])] := by
  have hstart : Leaves 56 0 (start (nearlyEnded.drop 2)) (nearlyEnded.drop 2) :=
    leaves_start (by decide)
  have hboundary : IsBoundary [66] := ⟨by decide, by decide⟩
  obtain ⟨hfirst, hroom, hsame, hends⟩ := rounds_refines noFiles hboundary ⟨[], boot, 0⟩
    (hstart.putBack [67, 111] (Nat.le_refl 2))
  refine ⟨hfirst, hroom, hends, ?_⟩
  rw [hsame]
  decide +kernel

end Itertk.Cgi.Multipart
