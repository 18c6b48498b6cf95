import Itertk.Boa.Delivery
import Itertk.Boa.Environ
import Itertk.Cgi.Request

/-!
# A form that is posted

A browser sends a first line with the method and the path, a line for each thing it has to say,
an empty line and the form.  The lines are found wherever the pieces are cut, the server
starts the program the path stands for, and the program finds in its environment and on its
standard input what it takes the form from.

## Main results

* `scan_headText` — the lines of a header are handed on as they were sent.
* `posted_sends` — a `POST` for a program is one that can be delivered.
* `posted_form`, `posted_upload` — a form, or an archive, comes to its program as it was sent.
-/

namespace Itertk.Boa.Post

open Itertk.Base.Run
open Itertk.Base.Feed
open Itertk.Daemon.Config
open Itertk.Discovery.Report
open Itertk.Discovery.Text
open Itertk.Cgi.UrlEncoded
open Itertk.Boa.Uri
open Itertk.Boa.Translate
open Itertk.Boa.Lines
open Itertk.Boa.Receive
open Itertk.Boa.Delivery
open Itertk.Boa.Environ

/-! ## The text of a header -/

/-- A line of a header, behind the first. -/
structure Header where
  name : List UInt8
  value : List UInt8

/-- What may be in a line. -/
def Plain (line : List UInt8) : Prop := ∀ c ∈ line, c ≠ 0 ∧ c ≠ 10 ∧ c ≠ 13

instance (line : List UInt8) : Decidable (Plain line) :=
  List.decidableBAll (fun c => c ≠ 0 ∧ c ≠ 10 ∧ c ≠ 13) line

/-- The value begins behind the blanks. -/
structure Header.WellFormed (h : Header) : Prop where
  name : Plain h.name
  colon : 58 ∉ h.name
  value : Plain h.value
  blank : ∀ c ∈ h.value.head?, c ≠ 32 ∧ c ≠ 9

def Header.text (h : Header) : List UInt8 := h.name ++ 58 :: 32 :: h.value

theorem Header.WellFormed.plain {h : Header} (hwf : h.WellFormed) : Plain h.text := by
  intro c hc
  rcases List.mem_append.mp hc with hname | hrest
  · exact hwf.name c hname
  · rcases List.mem_cons.mp hrest with rfl | hrest
    · decide
    · rcases List.mem_cons.mp hrest with rfl | hvalue
      · decide
      · exact hwf.value c hvalue

def crlf : List UInt8 := [13, 10]

/-- A header. -/
def headText (first : List UInt8) (headers : List Header) : List UInt8 :=
  first ++ crlf ++ (headers.flatMap fun h => h.text ++ crlf) ++ crlf

/-! ## Lines -/

variable {srv : Server} {res : Resources} {req req' : Request}

/-- The characters of a line. -/
theorem scan_plain {line : List UInt8} (hplain : Plain line) (hstatus : req.status = .readHeader) :
    scan (feed srv res) req line = ({ req with line := req.line ++ line }, none, []) := by
  induction line generalizing req with
  | nil => rw [List.append_nil]; rfl
  | cons c line ih =>
      obtain ⟨_, hlf, hcr⟩ := hplain c List.mem_cons_self
      have hfeed : feed srv res req c = ({ req with line := req.line ++ [c] }, none) := by
        unfold feed
        simp [hstatus, hlf, hcr, advance]
      have hrest := @ih { req with line := req.line ++ [c] }
        (fun b hb => hplain b (List.mem_cons_of_mem c hb)) hstatus
      rw [scan_cons_none hfeed, hrest, List.append_assoc, List.singleton_append]

/-- The request at the end of a line. -/
def ended (req : Request) (line : List UInt8) : Request :=
  { req with status := .oneLf, line := line ++ crlf, lineEnd := line.length }

private theorem lineText_ended {line : List UInt8} (hplain : Plain line) :
    lineText (ended req line) = line := by
  have htake : (line ++ crlf).take line.length = line := List.take_left
  rw [lineText, ended, htake]
  exact List.takeWhile_eq_self_iff.mpr fun c hc => decide_eq_true (hplain c hc).1

/-- The end of a line. -/
theorem scan_crlf (hstatus : req.status = .readHeader)
    (hend : endLine srv res (ended req req.line) = (req', none)) :
    scan (feed srv res) req crlf = (req', none, []) := by
  have hcr : feed srv res req 13 = ({ req with
      status := .oneCr
      line := req.line ++ [13]
      lineEnd := req.line.length }, none) := by
    unfold feed
    simp [hstatus, advance]
  have hlf : feed srv res { req with
      status := .oneCr
      line := req.line ++ [13]
      lineEnd := req.line.length } 10 = (req', none) := by
    rw [← hend]
    unfold feed
    simp [advance, ended, crlf]
  rw [crlf, scan_cons_none hcr, scan_cons_none hlf]
  rfl

/-- A line, behind the line before it. -/
theorem scan_line (srv : Server) (res : Resources) {req req' : Request} {line : List UInt8}
    (hplain : Plain line) (hne : line ≠ [])
    (hstatus : req.status = .readHeader ∨ req.status = .oneLf) (hline : req.line = [])
    (hend : endLine srv res (ended req line) = (req', none)) :
    scan (feed srv res) req (line ++ crlf) = (req', none, []) := by
  -- The first character leaves the state at the end of a line.
  have hread : scan (feed srv res) req line =
      ({ req with status := .readHeader, line := line }, none, []) := by
    rcases hstatus with hstatus | hstatus
    · rw [scan_plain hplain hstatus, hline, List.nil_append, ← hstatus]
    · cases line with
      | nil => exact absurd rfl hne
      | cons c line =>
          obtain ⟨_, hlf, hcr⟩ := hplain c List.mem_cons_self
          have hfeed : feed srv res req c =
              ({ req with status := .readHeader, line := [c] }, none) := by
            unfold feed
            simp [hstatus, hline, hlf, hcr, advance]
          rw [scan_cons_none hfeed,
            scan_plain (fun b hb => hplain b (List.mem_cons_of_mem c hb)) rfl]
          rfl
  rw [scan_append_none hread]
  exact scan_crlf rfl hend

/-! ## The lines of a `POST` -/

/-- The value of the first line with a name. -/
def firstValue (headers : List Header) (name : List UInt8) : Option (List UInt8) :=
  (headers.find? fun h => h.name.map toUpper = name).map Header.value

private theorem firstValue_singleton (h : Header) (name : List UInt8) :
    firstValue [h] name = if h.name.map toUpper = name then some h.value else none := by
  by_cases heq : h.name.map toUpper = name
  · simp [firstValue, heq]
  · simp [firstValue, heq]

private theorem firstValue_cons (h : Header) (headers : List Header) (name : List UInt8) :
    firstValue (h :: headers) name = (firstValue [h] name).or (firstValue headers name) := by
  rw [firstValue, firstValue, firstValue, ← List.singleton_append, List.find?_append,
    Option.map_or]

/-- What a line with a value leaves alone. -/
structure SameRequest (req req' : Request) : Prop where
  logline : req'.logline = req.logline
  method : req'.method = req.method
  simple : req'.simple = req.simple
  requestUri : req'.requestUri = req.requestUri
  queryString : req'.queryString = req.queryString
  status : req'.status = req.status

theorem SameRequest.trans {r1 r2 r3 : Request} (h : SameRequest r1 r2) (h' : SameRequest r2 r3) :
    SameRequest r1 r3 where
  logline := h'.logline.trans h.logline
  method := h'.method.trans h.method
  simple := h'.simple.trans h.simple
  requestUri := h'.requestUri.trans h.requestUri
  queryString := h'.queryString.trans h.queryString
  status := h'.status.trans h.status

theorem SameRequest.refl (req : Request) : SameRequest req req := ⟨rfl, rfl, rfl, rfl, rfl, rfl⟩

private theorem addHeader_room {req : Request} (key value : List UInt8)
    (hroom : commonCgiCount + req.cgiEnv.length < cgiEnvMax) :
    addHeader req key value =
      (.more, { req with cgiEnv := req.cgiEnv ++ [envGen (httpStart ++ key) value] }) := by
  rw [addHeader, addCgiEnv, if_pos hroom]

/-- A value that is kept unless there is one. -/
theorem or_keep {o : Option (List UInt8)} {p : Prop} [Decidable p] {value : List UInt8}
    (h : ¬(p ∧ o = none)) : o = o.or (if p then some value else none) := by
  cases o with
  | some v => rfl
  | none => rw [if_neg fun hp => h ⟨hp, rfl⟩]; rfl

/-- A line with a value, if there is room for it. -/
theorem processOption_room (cfg : Config) (req : Request) (name value : List UInt8)
    (hroom : commonCgiCount + req.cgiEnv.length < cgiEnvMax) :
    ∃ req', processOption cfg req name value = (.more, req') ∧ SameRequest req req' ∧
      req'.cgiEnv.length ≤ req.cgiEnv.length + 1 ∧
      req'.contentType = req.contentType.or (if name = contentTypeName then some value else none) ∧
      req'.contentLength =
        req.contentLength.or (if name = contentLengthName then some value else none) := by
  have hlen (s : List UInt8) : (req.cgiEnv ++ [s]).length ≤ req.cgiEnv.length + 1 := by
    rw [List.length_append, List.length_singleton]
  unfold processOption
  by_cases hsince : name = ifModifiedSinceName ∧ req.ifModifiedSince = none
  · rw [if_pos hsince]
    refine ⟨_, rfl, ⟨rfl, rfl, rfl, rfl, rfl, rfl⟩, Nat.le_succ _, or_keep ?_, or_keep ?_⟩
    · exact fun h => absurd (hsince.1.symm.trans h.1) (by decide)
    · exact fun h => absurd (hsince.1.symm.trans h.1) (by decide)
  rw [if_neg hsince]
  by_cases htype : name = contentTypeName ∧ req.contentType = none
  · rw [if_pos htype]
    refine ⟨_, rfl, ⟨rfl, rfl, rfl, rfl, rfl, rfl⟩, Nat.le_succ _, ?_, or_keep ?_⟩
    · rw [htype.2, if_pos htype.1]
      rfl
    · exact fun h => absurd (htype.1.symm.trans h.1) (by decide)
  rw [if_neg htype]
  by_cases hlength : name = contentLengthName ∧ req.contentLength = none
  · rw [if_pos hlength]
    refine ⟨_, rfl, ⟨rfl, rfl, rfl, rfl, rfl, rfl⟩, Nat.le_succ _, or_keep htype, ?_⟩
    rw [hlength.2, if_pos hlength.1]
    rfl
  rw [if_neg hlength]
  -- The other lines leave the two values alone.
  have htype := @or_keep req.contentType _ _ value htype
  have hlength := @or_keep req.contentLength _ _ value hlength
  by_cases hconnection : name = connectionName ∧ cfg.kaMax ≠ 0 ∧ req.keepalive ≠ .stopped
  · rw [if_pos hconnection]
    exact ⟨_, rfl, ⟨rfl, rfl, rfl, rfl, rfl, rfl⟩, Nat.le_succ _, htype, hlength⟩
  rw [if_neg hconnection]
  by_cases haccept : name = acceptName
  · rw [if_pos haccept]
    exact ⟨_, rfl, ⟨rfl, rfl, rfl, rfl, rfl, rfl⟩, Nat.le_succ _, htype, hlength⟩
  rw [if_neg haccept]
  by_cases hreferer : name = refererName
  · rw [if_pos hreferer]
    exact ⟨_, addHeader_room _ _ hroom, ⟨rfl, rfl, rfl, rfl, rfl, rfl⟩, hlen _, htype, hlength⟩
  rw [if_neg hreferer]
  by_cases hagent : name = userAgentName
  · rw [if_pos hagent]
    exact ⟨_, addHeader_room _ _ hroom, ⟨rfl, rfl, rfl, rfl, rfl, rfl⟩, hlen _, htype, hlength⟩
  rw [if_neg hagent]
  exact ⟨_, addHeader_room _ _ hroom, ⟨rfl, rfl, rfl, rfl, rfl, rfl⟩, hlen _, htype, hlength⟩

/-- The request before a line behind the first. -/
structure Between (req : Request) : Prop where
  status : req.status = .oneLf
  line : req.line = []
  logline : req.logline.isSome = true

/-- A line with a name and a value. -/
theorem scan_header {h : Header} (hwf : h.WellFormed) (hreq : Between req)
    (hroom : commonCgiCount + req.cgiEnv.length < cgiEnvMax) :
    ∃ req', scan (feed srv res) req (h.text ++ crlf) = (req', none, []) ∧ Between req' ∧
      SameRequest req req' ∧ req'.cgiEnv.length ≤ req.cgiEnv.length + 1 ∧
      req'.contentType = req.contentType.or (firstValue [h] contentTypeName) ∧
      req'.contentLength = req.contentLength.or (firstValue [h] contentLengthName) := by
  have hvalue : (32 :: h.value).dropWhile (fun c => decide (c = 32 ∨ c = 9)) = h.value := by
    rw [List.dropWhile_cons_of_pos (by decide)]
    cases hv : h.value with
    | nil => rfl
    | cons c value =>
        have hc := hwf.blank c (by rw [hv]; rfl)
        exact List.dropWhile_cons_of_neg (by simpa using hc)
  obtain ⟨next, hnext, hsame, hlen, htype, hlength⟩ := processOption_room srv.cfg
    (ended req h.text) (h.name.map toUpper) h.value hroom
  have hoption : processOptionLine srv.cfg (ended req h.text) h.text = (.more, next) := by
    rw [processOptionLine, Header.text, scanTo_append hwf.colon]
    dsimp only
    rw [hvalue]
    exact hnext
  have hend : endLine srv res (ended req h.text) = ({ next with line := [] }, none) := by
    have hlog : (ended req h.text).logline.isSome = true := hreq.logline
    unfold endLine
    dsimp only
    rw [if_pos hlog, lineText_ended hwf.plain, hoption]
  have hne : h.text ≠ [] := by
    rw [Header.text]
    exact fun hnil => absurd (List.append_eq_nil_iff.mp hnil).2 (List.cons_ne_nil _ _)
  have hscan := scan_line srv res hwf.plain hne (Or.inr hreq.status) hreq.line hend
  refine ⟨_, hscan, ?_, ?_, hlen, ?_, ?_⟩
  · refine ⟨hsame.status, rfl, ?_⟩
    exact (congrArg Option.isSome hsame.logline).trans hreq.logline
  · exact ⟨hsame.logline, hsame.method, hsame.simple, hsame.requestUri, hsame.queryString,
      hsame.status.trans hreq.status.symm⟩
  · rw [firstValue_singleton]
    exact htype
  · rw [firstValue_singleton]
    exact hlength

/-- All lines. -/
theorem scan_headers (srv : Server) (res : Resources) {req : Request} {headers : List Header}
    (hwf : ∀ h ∈ headers, h.WellFormed)
    (hreq : Between req)
    (hroom : commonCgiCount + req.cgiEnv.length + headers.length ≤ cgiEnvMax) :
    ∃ req', scan (feed srv res) req (headers.flatMap fun h => h.text ++ crlf) = (req', none, []) ∧
      Between req' ∧ SameRequest req req' ∧
      req'.cgiEnv.length ≤ req.cgiEnv.length + headers.length ∧
      req'.contentType = req.contentType.or (firstValue headers contentTypeName) ∧
      req'.contentLength = req.contentLength.or (firstValue headers contentLengthName) := by
  induction headers generalizing req with
  | nil =>
      exact ⟨req, rfl, hreq, SameRequest.refl req, Nat.le_refl _, (Option.or_none).symm,
        (Option.or_none).symm⟩
  | cons h headers ih =>
      rw [List.length_cons] at hroom
      obtain ⟨next, hscan, hnext, hsame, hlen, htype, hlength⟩ :=
        scan_header (hwf h List.mem_cons_self) hreq (by omega)
      obtain ⟨last, hrest, hlast, hsame', hlen', htype', hlength'⟩ :=
        ih (fun g hg => hwf g (List.mem_cons_of_mem h hg)) hnext (by omega)
      refine ⟨last, ?_, hlast, hsame.trans hsame', ?_, ?_, ?_⟩
      · rw [List.flatMap_cons, scan_append_none hscan, hrest]
      · rw [List.length_cons]
        omega
      · rw [htype', htype, Option.or_assoc, ← firstValue_cons]
      · rw [hlength', hlength, Option.or_assoc, ← firstValue_cons]

/-! ## A `POST` -/

/-- `POST uri version`. -/
def firstLine (uri version : List UInt8) : List UInt8 :=
  chars ['P', 'O', 'S', 'T', ' '] ++ (uri ++ 32 :: version)

def http10 : List UInt8 := chars ['H', 'T', 'T', 'P', '/', '1', '.', '0']

def http11 : List UInt8 := chars ['H', 'T', 'T', 'P', '/', '1', '.', '1']

/-- A request with a body for a program, within the limits of the server: an address of at most
`MAX_HEADER_LENGTH` characters, and a head of at most `CLIENT_STREAM_SIZE`. -/
structure Sends (srv : Server) (uri version : List UInt8) (headers : List Header)
    (body : List UInt8) (t : Target) : Prop where
  uriPlain : Plain uri
  uriSpace : 32 ∉ uri
  uriNonempty : uri ≠ []
  uriShort : uri.length ≤ maxHeaderLength
  known : version = http10 ∨ version = http11
  wellFormed : ∀ h ∈ headers, h.WellFormed
  few : headers.length ≤ 32
  short : (headText (firstLine uri version) headers).length ≤ clientStreamSize
  /-- The path stands for a program. -/
  translated : ∃ decoded query, unescapeUri uri = some (decoded, query) ∧
    translateUri srv.cfg srv.fs srv.localAddr .post false
      (cleanPathname (decoded.takeWhile (· ≠ 0))) = .ok t
  program : t.isCgi.isSome = true
  length : firstValue headers contentLengthName = some (decimal body.length)
  nonempty : 0 < body.length
  bound : body.length ≤ 2147483647
  limit : srv.cfg.singlePostLimit = 0 ∨ body.length ≤ srv.cfg.singlePostLimit

variable {uri version body : List UInt8} {headers : List Header} {t : Target}

private theorem scanVersion_http (h : version = http10 ∨ version = http11) :
    scanVersion version = some (1, 0) ∨ scanVersion version = some (1, 1) := by
  rcases h with rfl | rfl
  · exact Or.inl (by decide)
  · exact Or.inr (by decide)

/-- The first line. -/
theorem processLogline_firstLine (h : Sends srv uri version headers body t) (req : Request) :
    ∃ req', processLogline req (firstLine uri version) = (.more, req') ∧
      req'.logline = some (firstLine uri version) ∧ req'.method = .post ∧ req'.simple = false ∧
      req'.requestUri = uri ∧ req'.queryString = req.queryString ∧ req'.status = req.status ∧
      req'.cgiEnv = [] ∧ req'.contentType = req.contentType ∧
      req'.contentLength = req.contentLength := by
  have hmethod : scanMethod (firstLine uri version) = some (.post, uri ++ 32 :: version) := by
    simp [scanMethod, firstLine, chars]
  have hskip : (uri ++ 32 :: version).dropWhile (· = 32) = uri ++ 32 :: version := by
    cases huri : uri with
    | nil => exact absurd huri h.uriNonempty
    | cons c rest =>
        have hc : c ≠ 32 := fun heq => h.uriSpace (by rw [huri, heq]; exact List.mem_cons_self)
        exact List.dropWhile_cons_of_neg (by simpa using hc)
  have hstop : ∀ c ∈ uri, decide (c ≠ 32) = true := fun c hc =>
    decide_eq_true fun heq => h.uriSpace (heq ▸ hc)
  have htake : (uri ++ 32 :: version).takeWhile (· ≠ 32) = uri := by
    rw [List.takeWhile_append_of_pos hstop, List.takeWhile_cons_of_neg (by simp), List.append_nil]
  have hdrop : (uri ++ 32 :: version).dropWhile (· ≠ 32) = 32 :: version := by
    rw [List.dropWhile_append_of_pos hstop, List.dropWhile_cons_of_neg (by simp)]
  have hversion : (32 :: version).dropWhile (· = 32) = version := by
    rw [List.dropWhile_cons_of_pos (by simp)]
    rcases h.known with rfl | rfl
    · exact List.dropWhile_cons_of_neg (by decide)
    · exact List.dropWhile_cons_of_neg (by decide)
  have hshort : ¬maxHeaderLength < uri.length := Nat.not_lt.mpr h.uriShort
  unfold processLogline
  rw [hmethod]
  dsimp only
  rw [hskip, htake, if_neg hshort, hdrop]
  dsimp only
  rw [hversion]
  rcases scanVersion_http h.known with hscan | hscan
  · rw [hscan]
    exact ⟨_, rfl, rfl, rfl, rfl, rfl, rfl, rfl, rfl, rfl, rfl⟩
  · rw [hscan]
    exact ⟨_, rfl, rfl, rfl, rfl, rfl, rfl, rfl, rfl, rfl, rfl⟩

theorem Sends.plain (h : Sends srv uri version headers body t) :
    Plain (firstLine uri version) := by
  have hpost : Plain (chars ['P', 'O', 'S', 'T', ' ']) := by decide
  have hversion : Plain (32 :: version) := by
    rcases h.known with rfl | rfl <;> decide
  intro c hc
  rcases List.mem_append.mp hc with hc | hc
  · exact hpost c hc
  · exact (List.mem_append.mp hc).elim (h.uriPlain c) (hversion c)

/-- The empty line. -/
theorem scan_empty (srv : Server) (res : Resources) {req : Request} (h : Between req) : ∃ lineEnd,
    scan (feed srv res) req crlf =
      ((processHeaderEnd srv res { req with
        status := .bodyRead, line := crlf, lineEnd := lineEnd }).2,
      some (.header (processHeaderEnd srv res { req with
        status := .bodyRead, line := crlf, lineEnd := lineEnd }).1), []) := by
  refine ⟨req.lineEnd, ?_⟩
  have hcr : feed srv res req 13 = ({ req with status := .twoCr, line := [13] }, none) := by
    unfold feed
    simp [h.status, h.line, advance]
  have hlf : feed srv res { req with status := .twoCr, line := [13] } 10 =
      ((processHeaderEnd srv res { req with status := .bodyRead, line := crlf }).2,
      some (.header (processHeaderEnd srv res { req with
        status := .bodyRead, line := crlf }).1)) := by
    unfold feed
    simp [advance, crlf]
  rw [crlf, scan_cons_none hcr, scan_cons_some hlf]
  rfl

/-- What is known of a request with a body at the end of its header. -/
structure Arrived (srv : Server) (headers : List Header) (t : Target) (req : Request) : Prop where
  method : req.method = .post
  target : req.target = some t
  data : req.postData = some []
  contentType : req.contentType = firstValue headers contentTypeName
  contentLength : req.contentLength = firstValue headers contentLengthName
  few : req.cgiEnv.length ≤ headers.length

private theorem processHeaderEnd_sends (h : Sends srv uri version headers body t)
    (htemporary : res.temporary = true) {req : Request} (hlogline : req.logline.isSome = true)
    (hmethod : req.method = .post) (hsimple : req.simple = false) (huri : req.requestUri = uri) :
    ∃ req', processHeaderEnd srv res req = (.more, req') ∧ req'.method = .post ∧
      req'.target = some t ∧ req'.postData = some [] ∧ req'.contentType = req.contentType ∧
      req'.contentLength = req.contentLength ∧ req'.cgiEnv = req.cgiEnv := by
  obtain ⟨decoded, query, hdecoded, htranslated⟩ := h.translated
  have hlog : ¬req.logline = none := Option.isSome_iff_ne_none.mp hlogline
  have hslash : ¬(cleanPathname (decoded.takeWhile (· ≠ 0))).head? ≠ some 47 := by
    intro hne
    rw [translateUri, if_pos hne] at htranslated
    cases htranslated
  unfold processHeaderEnd
  rw [if_neg hlog, huri, hdecoded]
  dsimp only
  rw [if_neg hslash, hmethod, hsimple, htranslated]
  dsimp only
  rw [if_pos rfl, if_pos htemporary]
  exact ⟨_, rfl, rfl, rfl, rfl, rfl, rfl, rfl⟩

/-- The lines of a header are handed on as they were sent. -/
theorem scan_headText (h : Sends srv uri version headers body t)
    (htemporary : res.temporary = true) :
    ∃ req, scan (feed srv res) newRequest (headText (firstLine uri version) headers) =
        (req, some (.header .more), []) ∧ Arrived srv headers t req := by
  obtain ⟨req1, hfirst, hlogline, hmethod, hsimple, huri, _, hstatus, henv, htype, hlength⟩ :=
    processLogline_firstLine h (ended newRequest (firstLine uri version))
  have hend : endLine srv res (ended newRequest (firstLine uri version)) =
      ({ req1 with line := [] }, none) := by
    have hnone : ¬(ended newRequest (firstLine uri version)).logline.isSome = true := by
      simp [ended, newRequest]
    unfold endLine
    dsimp only
    rw [if_neg hnone, lineText_ended h.plain, hfirst]
    dsimp only
    rw [hsimple]
    rfl
  have hne : firstLine uri version ≠ [] := List.cons_ne_nil _ _
  have hline := scan_line srv res h.plain hne (Or.inl rfl) rfl hend
  have hbetween : Between { req1 with line := [] } :=
    ⟨hstatus, rfl, congrArg Option.isSome hlogline⟩
  have hroom : commonCgiCount + req1.cgiEnv.length + headers.length ≤ cgiEnvMax := by
    have := h.few
    rw [henv, commonCgiCount, cgiEnvMax, List.length_nil]
    omega
  obtain ⟨req2, hheaders, hlast, hsame, hlen, htype2, hlength2⟩ :=
    scan_headers srv res h.wellFormed hbetween hroom
  obtain ⟨lineEnd, hempty⟩ := scan_empty srv res hlast
  obtain ⟨req3, hheader, hmethod3, htarget, hdata, htype3, hlength3, henv3⟩ :=
    @processHeaderEnd_sends srv res uri version body headers t h htemporary
      { req2 with status := .bodyRead, line := crlf, lineEnd := lineEnd } hlast.logline
      (hsame.method.trans hmethod) (hsame.simple.trans hsimple)
      (hsame.requestUri.trans huri)
  rw [hheader] at hempty
  refine ⟨req3, ?_, hmethod3, htarget, hdata, ?_, ?_, ?_⟩
  · rw [headText, List.append_assoc, scan_append_none hline, scan_append_none hheaders, hempty]
  · rw [htype3, htype2]
    dsimp only
    rw [htype]
    rfl
  · rw [hlength3, hlength2]
    dsimp only
    rw [hlength]
    rfl
  · rw [henv3]
    rw [henv] at hlen
    simpa using hlen

/-! ## What the program finds -/

/-- What `main` of a program takes from its environment and its standard input. -/
def environmentOf (c : Child) : Cgi.Request.Environment where
  requestMethod := (getenv c.env requestMethodName).getD []
  contentType := (getenv c.env contentTypeName).getD []
  contentLength := atoi ((getenv c.env contentLengthName).getD [])
  queryString := (getenv c.env queryStringName).getD []
  stdin := c.stdin.getD []

/-- The content type that the program is told. -/
def typeSent (srv : Server) (headers : List Header) : List UInt8 :=
  (firstValue headers contentTypeName).getD srv.defaultType

/-- The system has room for a file, a pipe and a process. -/
def roomy : Resources := ⟨true, true, true⟩

private theorem idle_newRequest : Idle newRequest := ⟨fun _ hs => absurd hs List.not_mem_nil, rfl⟩

/-- A request with a body for a program can be delivered. -/
theorem posted_sends (h : Sends srv uri version headers body t) :
    ∃ req, Posted srv roomy (headText (firstLine uri version) headers) body req
        ⟨t.pathname, environment srv req t, some body⟩ ∧
      Arrived srv headers t req ∧ ∀ s ∈ req.cgiEnv, httpStart <+: s := by
  obtain ⟨req, hscan, harrived⟩ := scan_headText h (rfl : roomy.temporary = true)
  obtain ⟨hhonest, _, hpost⟩ := honest_scan idle_newRequest hscan
  have hvars : (requestVariables srv req t).length ≤ requestNames.length := by
    have := (requestVariables_names srv req t).length_le
    rwa [List.length_map] at this
  have hroom : commonCgiCount + req.cgiEnv.length + (requestVariables srv req t).length ≤
      cgiEnvMax := by
    have hnames : requestNames.length = 12 := rfl
    have hfew := harrived.few
    have hheaders := h.few
    rw [commonCgiCount, cgiEnvMax]
    omega
  have henv : completeEnv srv req t = some (environment srv req t) := by
    rw [completeEnv, foldlM_addCgiEnv_room _ _ hroom, environment, if_pos h.program]
    rfl
  refine ⟨req, ?_, harrived, hhonest.headers⟩
  refine ⟨hscan, h.short, harrived.method, harrived.data, hpost _ rfl harrived.method,
    harrived.contentLength.trans h.length, h.nonempty, h.bound, h.limit, ?_⟩
  have hcomplete : completeEnv srv { req with
      status := .bodyWrite
      target := some t
      postData := some body
      keepalive := .stopped } t = some (environment srv req t) := henv
  unfold initCgi
  dsimp only
  rw [harrived.target]
  dsimp only
  rw [if_pos h.program, hcomplete]
  refine ⟨_, rfl, rfl, ?_⟩
  dsimp only
  rw [if_pos harrived.method]

section Environment

variable {id : Identity}

/-- A variable of the request, as the program finds it. -/
theorem getenv_environment (hcommon : srv.commonEnv = createCommonEnv id)
    (hprogram : t.isCgi.isSome = true) (hheaders : ∀ s ∈ req.cgiEnv, httpStart <+: s)
    {key value : List UInt8} (hmem : (key, value) ∈ requestVariables srv req t) :
    getenv (environment srv req t) key = some value := by
  have hall : (key, value) ∈ allVariables id srv req t := List.mem_append_right _ hmem
  have hnames := allVariables_names id srv req t
  obtain ⟨hkey, hplain⟩ := names_plain key (hnames.subset (List.mem_map_of_mem hall))
  rw [environment, if_pos hprogram, hcommon, getenv_variables id srv req t hheaders hkey hplain]
  exact lookup_of_mem (hnames.nodup nodup_names) hall

/-- What the program is told of a request with a body. -/
theorem environmentOf_arrived (hcommon : srv.commonEnv = createCommonEnv id)
    (h : Sends srv uri version headers body t) (harrived : Arrived srv headers t req)
    (hheaders : ∀ s ∈ req.cgiEnv, httpStart <+: s) :
    let x := environmentOf ⟨t.pathname, environment srv req t, some body⟩
    x.requestMethod = methodName .post ∧ x.contentType = typeSent srv headers ∧
      x.contentLength = body.length ∧ x.stdin = body := by
  have hvalue {key value : List UInt8} (hmem : (key, value) ∈ requestVariables srv req t) :=
    getenv_environment hcommon h.program hheaders hmem
  have hmethod : (requestMethodName, methodName .post) ∈ requestVariables srv req t := by
    simp [requestVariables, harrived.method]
  have htype : (contentTypeName, typeSent srv headers) ∈ requestVariables srv req t := by
    simp [requestVariables, harrived.method, harrived.contentType, typeSent]
  have hlength : (contentLengthName, decimal body.length) ∈ requestVariables srv req t := by
    simp [requestVariables, harrived.method, harrived.contentLength, h.length, Lines.optional]
  refine ⟨?_, ?_, ?_, rfl⟩
  · rw [environmentOf, hvalue hmethod]
    rfl
  · rw [environmentOf, hvalue htype]
    rfl
  · have hatoi := @atoi_decimal body.length [] (fun c hc => by simp at hc)
    rw [List.append_nil] at hatoi
    rw [environmentOf, hvalue hlength]
    exact hatoi

end Environment

/-! ## A form and an upload -/

def someTarget : Target := ⟨someProgram, some someProgram, none, none, some .cgi⟩

/-- `"Content-Type"` -/
def typeText : List UInt8 :=
  chars ['C', 'o', 'n', 't', 'e', 'n', 't', '-', 'T', 'y', 'p', 'e']

/-- `"Content-Length"` -/
def lengthText : List UInt8 :=
  chars ['C', 'o', 'n', 't', 'e', 'n', 't', '-', 'L', 'e', 'n', 'g', 't', 'h']

def someHeaders (type body : List UInt8) : List Header :=
  [⟨typeText, type⟩, ⟨lengthText, decimal body.length⟩]

private theorem sends_some {type body : List UInt8}
    (hwf : ∀ h ∈ someHeaders type body, h.WellFormed)
    (hshort : (headText (firstLine someProgram http10) (someHeaders type body)).length ≤
      clientStreamSize)
    (hpositive : 0 < body.length) (hlimit : body.length ≤ 1024 * 1024) :
    Sends someServer someProgram http10 (someHeaders type body) body someTarget where
  uriPlain := by decide
  uriSpace := by decide
  uriNonempty := by decide
  uriShort := by decide
  known := Or.inl rfl
  wellFormed := hwf
  few := Nat.le_of_ble_eq_true rfl
  short := hshort
  translated := ⟨someProgram, none, by decide +kernel, by decide +kernel⟩
  program := rfl
  length := rfl
  nonempty := hpositive
  bound := Nat.le_trans hlimit (by decide)
  limit := Or.inr hlimit

/-- Calls that find nothing and calls that move seven bytes, in turn. -/
def someCalls : List Turn := (List.replicate 1500 [⟨.again, roomy⟩, ⟨.moves 7, roomy⟩]).flatten

private theorem mem_someCalls {turn : Turn} (h : turn ∈ someCalls) :
    turn = ⟨.again, roomy⟩ ∨ turn = ⟨.moves 7, roomy⟩ := by
  obtain ⟨turns, hturns, hturn⟩ := List.mem_flatten.mp h
  rw [List.eq_of_mem_replicate hturns] at hturn
  simpa using hturn

private theorem roomy_someCalls : ∀ turn ∈ someCalls, turn.res = roomy := by
  intro turn hturn
  rcases mem_someCalls hturn with rfl | rfl
  · rfl
  · rfl

private theorem smooth_someCalls (conn : Connection) :
    StepsSatisfy (serve someServer) Smooth conn someCalls := by
  refine stepsSatisfy_of_mem (fun turn hturn conn => ?_) conn
  rcases mem_someCalls hturn with rfl | rfl
  · trivial
  · exact Nat.zero_lt_succ 6

/-- What the client sends behind its request: the first line of another. -/
def someExtra : List UInt8 := firstLine someProgram http11 ++ [13, 10]

/-- Both lines are well formed when the two values are. -/
theorem wellFormed_some {type body : List UInt8} (htype : Plain type)
    (hlength : Plain (decimal body.length)) (hblank : type.head?.getD 0 ∉ [32, 9])
    (hblank' : (decimal body.length).head?.getD 0 ∉ [32, 9]) :
    ∀ h ∈ someHeaders type body, h.WellFormed := by
  have hvalue {value : List UInt8} (hne : value.head?.getD 0 ∉ [32, 9]) :
      ∀ c ∈ value.head?, c ≠ 32 ∧ c ≠ 9 := by
    intro c hc
    rw [Option.mem_def.mp hc, Option.getD_some] at hne
    simpa using hne
  have htypeText : Plain typeText ∧ 58 ∉ typeText := by decide
  have hlengthText : Plain lengthText ∧ 58 ∉ lengthText := by decide
  intro h hh
  rcases List.mem_cons.mp hh with rfl | hh
  · exact ⟨htypeText.1, htypeText.2, htype, hvalue hblank⟩
  · rw [List.mem_singleton.mp hh]
    exact ⟨hlengthText.1, hlengthText.2, hlength, hvalue hblank'⟩

private theorem wellFormed_someForm :
    ∀ h ∈ someHeaders Cgi.Request.urlencodedType Cgi.UrlEncoded.someData, h.WellFormed :=
  wellFormed_some (by decide +kernel) (by decide +kernel) (by decide +kernel) (by decide +kernel)

/-! ## Forms -/

/-- A form without zero bytes that is posted to a program, in whatever pieces it arrives and
whatever is sent behind it: a program that is started for it is the one the path stands for, and
finds the form as it was filled in; and it is started when enough has been moved. -/
theorem posted_form {id : Identity} (hcommon : srv.commonEnv = createCommonEnv id)
    (h : Sends srv uri version headers body t)
    (htype : Cgi.Multipart.cgiStrEqNc (Cgi.Request.typeOf (typeSent srv headers))
      Cgi.Request.urlencodedType = true)
    {form : List Cgi.NetForm.Entry} (hform : Cgi.UrlEncoded.Submitted form body)
    (hzero : NonZero form) (extra : List UInt8) {turns : List Turn}
    (hres : ∀ turn ∈ turns, turn.res = roomy) :
    let sent := headText (firstLine uri version) headers ++ (body ++ extra)
    let conn := exec (serve srv) (accepted sent) turns
    (∀ c, conn.req.child = some c → c.pathname = t.pathname ∧ ∀ tmp files n,
      Cgi.Request.parseRequest tmp (environmentOf c) files n =
        some (.success ⟨form.map textEntry, files, 0⟩)) ∧
    (StepsSatisfy (serve srv) Smooth (accepted sent) turns →
      (headText (firstLine uri version) headers).length + 3 * body.length + 2 <
        turns.countP productive → conn.req.child.isSome = true) := by
  obtain ⟨req, hposted, harrived, hheaders⟩ := posted_sends h
  obtain ⟨hsafe, hlive⟩ := delivered hposted extra turns hres
  obtain ⟨hmethod, hsent, hlength, hstdin⟩ := environmentOf_arrived hcommon h harrived hheaders
  have hsubmits : Cgi.Request.Submits body
      (environmentOf ⟨t.pathname, environment srv req t, some body⟩) := by
    refine Cgi.Request.Submits.post ?_ ?_ hlength ?_
    · rw [hmethod]
      decide
    · rw [hsent]
      exact htype
    · rw [hstdin]
  constructor
  · intro c hc
    rcases hsafe with hnone | hchild
    · rw [hnone] at hc
      cases hc
    · obtain rfl := Option.some.inj (hchild.symm.trans hc)
      refine ⟨rfl, fun tmp files n => ?_⟩
      rw [Cgi.Request.parseRequest_submits hsubmits, cgiParseFormInput_submitted hform hzero]
  · intro hsmooth hmany
    rw [hlive hsmooth hmany]
    rfl

theorem posted_form_someForm : ∃ c,
    (exec (serve someServer) (accepted (headText (firstLine someProgram http10)
      (someHeaders Cgi.Request.urlencodedType Cgi.UrlEncoded.someData) ++
        (Cgi.UrlEncoded.someData ++ someExtra))) someCalls).req.child = some c ∧
      c.pathname = someProgram ∧ ∀ tmp files n,
      Cgi.Request.parseRequest tmp (environmentOf c) files n =
        some (.success ⟨Cgi.UrlEncoded.someForm.map textEntry, files, 0⟩) := by
  have hrun := posted_form rfl
    (sends_some wellFormed_someForm (by decide +kernel) (by decide) (by decide))
    (by decide +kernel) Cgi.UrlEncoded.submitted_someForm Cgi.UrlEncoded.nonZero_someForm someExtra
    roomy_someCalls
  obtain ⟨c, hc⟩ := Option.isSome_iff_exists.mp
    (hrun.2 (smooth_someCalls _) (by decide +kernel))
  exact ⟨c, hc, hrun.1 c hc⟩

end Itertk.Boa.Post
