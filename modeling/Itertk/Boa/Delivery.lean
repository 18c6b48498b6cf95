import Itertk.Base.Progress
import Itertk.Boa.Receive

/-!
# The body of a `POST` reaches the program

A `POST` is on its way to a program: its header is being read, its body is being copied, the
program runs, or the connection is closed.  In which of these states it is depends on what the
system moves and when; what the program finds on its standard input does not.

## Main results

* `next_live` — a call of a handler starts the program, fails or goes on, and a call that moves
  something brings the program nearer.
* `phase_serve` — a call leads from one of these states to another.
* `delivered` — whatever pieces the request arrives in and the file takes, a program that is
  started finds the body, and it is started when enough has been moved.
-/

namespace Itertk.Boa.Delivery

open Itertk.Base.Run
open Itertk.Base.Feed
open Itertk.Base.Progress
open Itertk.Discovery.Report
open Itertk.Discovery.Text
open Itertk.Boa.Translate
open Itertk.Boa.Lines
open Itertk.Boa.Receive

/-! ## The length of the body -/

private theorem boaAtoi_decimal {n : Nat} (h : n ≤ 2147483647) : boaAtoi (decimal n) = n := by
  have hdigit : ((decimal n).head?.bind digit).isNone = false := by
    cases hdec : decimal n with
    | nil => exact absurd hdec (decimal_ne_nil n)
    | cons c s =>
        have hc := decimal_digits_only n c (hdec ▸ List.mem_cons_self)
        rw [List.head?_cons, Option.bind_some]
        exact Option.isNone_eq_false_iff.mpr (Option.isSome_iff_ne_none.mpr hc)
  have hprefix : (decimal n).isPrefixOf (decimal n) = true :=
    List.isPrefixOf_iff_prefix.mpr (List.prefix_refl _)
  rw [boaAtoi, hdigit]
  simp only [digits_decimal, Nat.min_eq_left h, hprefix, Bool.false_eq_true, ↓reduceIte]

/-! ## Requests with a body -/

/-- A request whose header is `head`, with a body that may be sent, to a program that can be
started. -/
structure Posted (srv : Server) (res : Resources) (head body : List UInt8) (req : Request)
    (child : Child) : Prop where
  header : scan (feed srv res) newRequest head = (req, some (.header .more), [])
  short : head.length ≤ clientStreamSize
  method : req.method = .post
  data : req.postData = some []
  idle : req.child = none
  length : req.contentLength = some (decimal body.length)
  nonempty : 0 < body.length
  bound : body.length ≤ 2147483647
  limit : srv.cfg.singlePostLimit = 0 ∨ body.length ≤ srv.cfg.singlePostLimit
  starts : ∃ final, initCgi srv res { req with status := .bodyWrite, postData := some body } =
    (.more, final) ∧ final.status = .pipeRead ∧ final.child = some child

variable {srv : Server} {res : Resources} {head body extra : List UInt8} {req : Request}
  {child : Child}

/-- The request while its body is copied. -/
def copying (req : Request) (body : List UInt8) (status : Status) (filepos : Nat) : Request :=
  { req with status := status, postData := some (body.take filepos) }

/-- A request that is received.  In its header `parsed` is what the lines were found in; of its
body `pending` has not been read, and something may follow it. -/
inductive Live (srv : Server) (res : Resources) (head body extra : List UInt8) (req : Request)
    (conn : Connection) : Prop where
  | header {parsed : List UInt8} (hopen : conn.closed = false)
      (hsent : parsed ++ conn.unparsed ++ conn.incoming = head ++ (body ++ extra))
      (hpos : conn.streamPos = (parsed ++ conn.unparsed).length)
      (hscan : scan (feed srv res) newRequest parsed = (conn.req, none, []))
  | body {status : Status} {pending more : List UInt8} (hopen : conn.closed = false)
      (hreq : conn.req = copying req body status conn.filepos)
      (hstatus : status = .bodyWrite ∨ status = .bodyRead ∧ conn.chunk = [] ∧ pending ≠ [])
      (hsize : conn.filesize = body.length)
      (hrest : body.drop conn.filepos = conn.chunk ++ pending)
      (hincoming : conn.incoming = pending ++ more)

/-- The program runs. -/
structure Started (child : Child) (conn : Connection) : Prop where
  status : conn.req.status = .pipeRead
  child : conn.req.child = some child

/-- The request is given up. -/
structure Lost (conn : Connection) : Prop where
  closed : conn.closed = true
  child : conn.req.child = none

/-- Nothing goes wrong in a call: there is something to move, or the call is repeated.
`read_body` does not repeat a call that was interrupted. -/
def Smooth (conn : Connection) (turn : Turn) : Prop :=
  match turn.io with
  | .moves n => 0 < n
  | .again => True
  | .interrupted => conn.req.status ≠ .bodyRead
  | .failed => False

/-- The calls that find their socket, or their file, ready. -/
def productive (turn : Turn) : Bool :=
  match turn.io with
  | .moves n => 0 < n
  | _ => false

/-- How many calls that move something are left at most. -/
def callsLeft (head body : List UInt8) (conn : Connection) : Nat :=
  let pending := body.length - conn.filepos - conn.chunk.length
  match conn.req.status with
  | .bodyWrite => 3 * pending + conn.chunk.length + 1
  | .bodyRead => 3 * pending + conn.chunk.length
  | _ => head.length - conn.streamPos + 3 * body.length + 2

private theorem reading_newRequest : Reading newRequest.status := Or.inl rfl

/-- What has been parsed of a header that is not complete. -/
theorem scan_before {p q : List UInt8} (hq : q ≠ [])
    (h : scan (feed srv res) newRequest (p ++ q) = (req, some (.header .more), [])) :
    ∃ next, scan (feed srv res) newRequest p = (next, none, []) ∧ next.child = none := by
  rcases hscan : scan (feed srv res) newRequest p with ⟨next, stop, rest⟩
  cases stop with
  | none =>
      obtain rfl := scan_rest hscan
      exact ⟨next, rfl, (scan_none reading_newRequest hscan).2⟩
  | some stop =>
      rw [scan_append_some hscan] at h
      have hrest := congrArg (fun r => r.2.2) h
      exact absurd (List.append_eq_nil_iff.mp hrest).2 hq

private theorem readSome_eq_some {n limit : Nat} {incoming bytes rest : List UInt8}
    (h : readSome n limit incoming = some (bytes, rest)) :
    incoming = bytes ++ rest ∧ bytes ≠ [] ∧ bytes.length ≤ limit := by
  unfold readSome at h
  split at h
  · cases h
  · rename_i hne
    cases h
    refine ⟨(List.take_append_drop _ _).symm, hne, ?_⟩
    exact Nat.le_trans (List.length_take_le _ _) (Nat.min_le_right n limit)

private theorem readSome_eq_none {n limit : Nat} {incoming : List UInt8}
    (h : readSome n limit incoming = none) : n = 0 ∨ limit = 0 ∨ incoming = [] := by
  unfold readSome at h
  split at h
  · rename_i hnil
    rcases List.take_eq_nil_iff.mp hnil with hzero | hnil
    · omega
    · exact Or.inr (Or.inr hnil)
  · cases h

/-- A piece that is no longer than what is pending is a beginning of it. -/
theorem append_within {pending more bytes rest : List UInt8}
    (h : pending ++ more = bytes ++ rest) (hle : bytes.length ≤ pending.length) :
    ∃ left, pending = bytes ++ left ∧ rest = left ++ more := by
  rcases List.append_eq_append_iff.mp h with ⟨q, hq, hmore⟩ | hsplit
  · have hnil : q = [] := by
      rw [hq, List.length_append] at hle
      exact List.eq_nil_of_length_eq_zero (by omega)
    refine ⟨[], ?_, ?_⟩
    · rw [hq, hnil, List.append_nil, List.append_nil]
    · rw [hmore, hnil, List.nil_append, List.nil_append]
  · exact hsplit

/-! ## The header -/

section Header

variable {conn : Connection} {turn : Turn} {parsed : List UInt8}

/-- The header has come: the body begins with what followed it in the buffer. -/
theorem readHeader_complete (h : Posted srv res head body req child) (hturn : turn.res = res)
    (hscan : scan (feed srv res) newRequest parsed = (conn.req, none, [])) {rest : List UInt8}
    (hsplit : parsed ++ conn.unparsed = head ++ rest) :
    readHeader srv turn conn = (.more, { conn with
      req := { req with status := .bodyWrite }
      unparsed := rest
      filesize := body.length
      filepos := 0
      chunk := rest.take body.length }) := by
  have hstop : scan (feed srv turn.res) conn.req conn.unparsed =
      (req, some (.header .more), rest) := by
    rw [hturn, ← scan_append_none hscan, hsplit, scan_append_some h.header, List.nil_append]
  have hpositive : ¬((body.length : Int) ≤ 0) := by
    have := h.nonempty
    omega
  have hlimit : ¬(srv.cfg.singlePostLimit ≠ 0 ∧
      (srv.cfg.singlePostLimit : Int) < (body.length : Int)) := by
    have := h.limit
    omega
  rw [readHeader, hstop]
  simp only [h.method, ne_eq, reduceCtorEq, not_false_eq_true, and_self, ↓reduceIte]
  simp only [startBody, h.length, boaAtoi_decimal h.bound, if_neg hpositive, if_neg hlimit,
    Int.toNat_natCast]

/-- The header has not come: what was in the buffer is parsed, and there is room for more. -/
theorem readHeader_more (h : Posted srv res head body req child) (hturn : turn.res = res)
    (hscan : scan (feed srv res) newRequest parsed = (conn.req, none, [])) {q : List UInt8}
    (hsplit : head = parsed ++ conn.unparsed ++ q) (hq : q ≠ []) :
    ∃ next, scan (feed srv res) newRequest (parsed ++ conn.unparsed) = (next, none, []) ∧
      next.child = none ∧
      readHeader srv turn conn = refill turn { conn with req := next, unparsed := [] } := by
  have hheader := h.header
  rw [hsplit] at hheader
  obtain ⟨next, hnext, hchild⟩ := scan_before hq hheader
  refine ⟨next, hnext, hchild, ?_⟩
  have hfeed : scan (feed srv turn.res) conn.req conn.unparsed = (next, none, []) := by
    rw [hturn, ← scan_append_none hscan, hnext]
  rw [readHeader, hfeed]

/-- What the socket brings to a buffer with room. -/
theorem refill_cases (conn : Connection) (turn : Turn) (hroom : conn.streamPos < clientStreamSize) :
    (refill turn conn = (.more, conn) ∧ turn.io = .interrupted) ∨
    (refill turn conn = (.blocked, conn) ∧ turn.io = .again) ∨
    (refill turn conn = (.close, conn) ∧
      (turn.io = .failed ∨ turn.io = .moves 0 ∨ conn.incoming = [])) ∨
    ∃ bytes rest, conn.incoming = bytes ++ rest ∧ bytes ≠ [] ∧
      bytes.length ≤ clientStreamSize - conn.streamPos ∧
      refill turn conn = (.more, { conn with
        unparsed := bytes
        streamPos := conn.streamPos + bytes.length
        incoming := rest }) := by
  have hlt : ¬clientStreamSize - conn.streamPos < 1 := by omega
  unfold refill
  rw [if_neg hlt]
  cases hio : turn.io with
  | interrupted => exact Or.inl ⟨rfl, rfl⟩
  | again => exact Or.inr (Or.inl ⟨rfl, rfl⟩)
  | failed => exact Or.inr (Or.inr (Or.inl ⟨rfl, Or.inl rfl⟩))
  | moves n =>
      dsimp only
      cases hread : readSome n (clientStreamSize - conn.streamPos) conn.incoming with
      | none =>
          refine Or.inr (Or.inr (Or.inl ⟨rfl, Or.inr ?_⟩))
          rcases readSome_eq_none hread with hzero | hzero | hnil
          · exact Or.inl (congrArg Io.moves hzero)
          · exact absurd hzero (by omega)
          · exact Or.inr hnil
      | some r =>
          obtain ⟨hsplit, hne, hle⟩ := readSome_eq_some hread
          exact Or.inr (Or.inr (Or.inr ⟨r.1, r.2, hsplit, hne, hle, rfl⟩))

end Header

/-! ## The calls of a handler -/

section Serve

variable {conn : Connection} {turn : Turn}

private theorem serve_header (srv : Server) (turn : Turn) (hopen : conn.closed = false)
    (h : Reading conn.req.status) :
    serve srv conn turn = { (readHeader srv turn conn).2 with
      closed := (readHeader srv turn conn).1 = .close } := by
  unfold serve
  rw [if_neg (by rw [hopen]; exact Bool.false_ne_true)]
  rcases h with h | h | h | h <;> rw [h]

private theorem serve_bodyRead (srv : Server) (turn : Turn) (hopen : conn.closed = false)
    (h : conn.req.status = .bodyRead) :
    serve srv conn turn = { (readBody turn conn).2 with
      closed := (readBody turn conn).1 = .close } := by
  unfold serve
  rw [if_neg (by rw [hopen]; exact Bool.false_ne_true), h]

private theorem serve_bodyWrite (srv : Server) (turn : Turn) (hopen : conn.closed = false)
    (h : conn.req.status = .bodyWrite) :
    serve srv conn turn = { (writeBody srv turn conn).2 with
      closed := (writeBody srv turn conn).1 = .close } := by
  unfold serve
  rw [if_neg (by rw [hopen]; exact Bool.false_ne_true), h]

private theorem copying_zero (h : req.postData = some []) :
    copying req body .bodyWrite 0 = { req with status := .bodyWrite } := by
  rw [copying, List.take_zero, ← h]

private theorem callsLeft_header (head body : List UInt8) (h : Reading conn.req.status) :
    callsLeft head body conn = head.length - conn.streamPos + 3 * body.length + 2 := by
  unfold callsLeft
  rcases h with h | h | h | h <;> rw [h]

/-- What a call makes of a request that is received. -/
def Next (srv : Server) (res : Resources) (head body extra : List UInt8) (req : Request)
    (child : Child) (conn : Connection) (turn : Turn) : Prop :=
  let next := serve srv conn turn
  Started child next ∨ (Lost next ∧ ¬Smooth conn turn) ∨
    (Live srv res head body extra req next ∧
      callsLeft head body next ≤ callsLeft head body conn ∧
      (productive turn = true → callsLeft head body next < callsLeft head body conn))

/-- The header is in the buffer, and the body begins with what follows it there. -/
theorem next_complete (h : Posted srv res head body req child) (hturn : turn.res = res)
    (hopen : conn.closed = false)
    (hscan : scan (feed srv res) newRequest parsed = (conn.req, none, [])) (rest : List UInt8)
    (hbuffer : parsed ++ conn.unparsed = head ++ rest)
    (hrest : body ++ extra = rest ++ conn.incoming) :
    Next srv res head body extra req child conn turn := by
  have hreading := (scan_none reading_newRequest hscan).1
  have hserve := serve_header srv turn hopen hreading
  rw [readHeader_complete h hturn hscan hbuffer] at hserve
  have hsplit : ∃ pending more, body = rest.take body.length ++ pending ∧
      conn.incoming = pending ++ more := by
    rcases List.append_eq_append_iff.mp hrest with ⟨q, hq, _⟩ | ⟨q, hq, hmore⟩
    · refine ⟨[], conn.incoming, ?_, rfl⟩
      rw [hq, List.take_left, List.append_nil]
    · refine ⟨q, extra, ?_, hmore⟩
      rw [List.take_of_length_le (by rw [hq, List.length_append]; omega)]
      exact hq
  obtain ⟨pending, more, hbody, hincoming⟩ := hsplit
  have hcount := congrArg List.length hbody
  rw [List.length_append] at hcount
  have hbefore := callsLeft_header head body hreading
  have hafter : callsLeft head body (serve srv conn turn) < callsLeft head body conn := by
    rw [hbefore, hserve]
    simp only [callsLeft]
    omega
  refine Or.inr (Or.inr ⟨?_, Nat.le_of_lt hafter, fun _ => hafter⟩)
  rw [hserve]
  exact Live.body rfl (copying_zero h.data).symm (Or.inl rfl) rfl hbody hincoming

/-- The header is not in the buffer, and the rest of it has to be read. -/
theorem next_more (h : Posted srv res head body req child) (hturn : turn.res = res)
    (hopen : conn.closed = false)
    (hpos : conn.streamPos = (parsed ++ conn.unparsed).length)
    (hscan : scan (feed srv res) newRequest parsed = (conn.req, none, [])) {q : List UInt8}
    (hq : q ≠ []) (hhead : head = parsed ++ conn.unparsed ++ q)
    (hincoming : conn.incoming = q ++ (body ++ extra)) :
    Next srv res head body extra req child conn turn := by
  have hreading := (scan_none reading_newRequest hscan).1
  have hserve := serve_header srv turn hopen hreading
  obtain ⟨next, hnext, hchild, hread⟩ := readHeader_more h hturn hscan hhead hq
  rw [hread] at hserve
  have hbefore := callsLeft_header head body hreading
  have hlength := congrArg List.length hhead
  rw [List.length_append, ← hpos] at hlength
  have hqlen := List.length_pos_iff.mpr hq
  have hroom : conn.streamPos < clientStreamSize := by
    have := h.short
    omega
  -- The connection if nothing is moved.
  have hsame {io : Io} (hio : turn.io = io) (hidle : ∀ n, io ≠ .moves n) {ret : Ret}
      (hret : ret ≠ .close)
      (hserve : serve srv conn turn =
        { conn with req := next, unparsed := [], closed := ret = .close }) :
      Next srv res head body extra req child conn turn := by
    refine Or.inr (Or.inr ?_)
    rw [hserve]
    have hlive : Live srv res head body extra req
        { conn with req := next, unparsed := [], closed := ret = .close } := by
      refine Live.header (decide_eq_false hret) ?_ ?_ hnext
      · rw [hincoming, List.append_nil, hhead]
        simp only [List.append_assoc]
      · rw [List.append_nil]
        exact hpos
    have hafter : callsLeft head body
        { conn with req := next, unparsed := [], closed := ret = .close } = _ :=
      callsLeft_header head body (scan_none reading_newRequest hnext).1
    refine ⟨hlive, Nat.le_of_eq (hafter.trans hbefore.symm), ?_⟩
    intro hprod
    rw [productive, hio] at hprod
    cases io with
    | moves n => exact absurd rfl (hidle n)
    | interrupted | again | failed => cases hprod
  rcases refill_cases { conn with req := next, unparsed := [] } turn hroom with
    ⟨hrefill, hio⟩ | ⟨hrefill, hio⟩ | ⟨hrefill, hio⟩ | ⟨bytes, rest, hbytes, hne, hle, hrefill⟩
  · rw [hrefill] at hserve
    exact hsame hio (by simp) (by simp) hserve
  · rw [hrefill] at hserve
    exact hsame hio (by simp) (by simp) hserve
  · rw [hrefill] at hserve
    refine Or.inr (Or.inl ⟨⟨by rw [hserve]; rfl, by rw [hserve]; exact hchild⟩, ?_⟩)
    unfold Smooth
    rcases hio with hio | hio | hio
    · rw [hio]
      exact id
    · rw [hio]
      exact Nat.lt_irrefl 0
    · rw [hincoming] at hio
      exact absurd (List.append_eq_nil_iff.mp hio).1 hq
  · rw [hrefill] at hserve
    refine Or.inr (Or.inr ?_)
    have hbyteslen := List.length_pos_iff.mpr hne
    have hafter : callsLeft head body (serve srv conn turn) < callsLeft head body conn := by
      rw [hserve, hbefore, callsLeft_header head body (scan_none reading_newRequest hnext).1]
      dsimp only
      omega
    refine ⟨?_, Nat.le_of_lt hafter, fun _ => hafter⟩
    rw [hserve]
    refine Live.header rfl ?_ ?_ hnext
    · dsimp only at hbytes ⊢
      rw [List.append_assoc, ← hbytes, hincoming, hhead]
      simp only [List.append_assoc]
    · dsimp only
      exact hpos ▸ List.length_append.symm

private theorem next_header (h : Posted srv res head body req child) (hturn : turn.res = res)
    (hopen : conn.closed = false)
    (hsent : parsed ++ conn.unparsed ++ conn.incoming = head ++ (body ++ extra))
    (hpos : conn.streamPos = (parsed ++ conn.unparsed).length)
    (hscan : scan (feed srv res) newRequest parsed = (conn.req, none, [])) :
    Next srv res head body extra req child conn turn := by
  rcases List.append_eq_append_iff.mp hsent with ⟨q, hhead, hrest⟩ | ⟨rest, hbuffer, hrest⟩
  · by_cases hq : q = []
    · rw [hq, List.append_nil] at hhead
      rw [hq, List.nil_append] at hrest
      refine next_complete h hturn hopen hscan [] ?_ hrest.symm
      rw [List.append_nil, hhead]
    · exact next_more h hturn hopen hpos hscan hq hhead hrest
  · exact next_complete h hturn hopen hscan rest hbuffer hrest

/-- Everything is in the file: the program is started. -/
theorem next_start (h : Posted srv res head body req child) (hturn : turn.res = res)
    (hopen : conn.closed = false) (hreq : conn.req = copying req body .bodyWrite conn.filepos)
    (hsize : conn.filesize = body.length) (hchunk : conn.chunk = [])
    (hall : body.length ≤ conn.filepos) : Next srv res head body extra req child conn turn := by
  have hserve := serve_bodyWrite srv turn hopen (congrArg Request.status hreq)
  obtain ⟨final, hinit, hstatus, hchild⟩ := h.starts
  have hfile : conn.req = { req with status := .bodyWrite, postData := some body } := by
    rw [hreq, copying, List.take_of_length_le hall]
  have hwrite : writeBody srv turn conn = (.more, { conn with
      chunk := []
      req := final
      filepos := 0 }) := by
    unfold writeBody
    rw [hchunk]
    simp only [List.length_nil, Nat.zero_min, ↓reduceIte, hsize, hall, hturn, hfile, hinit, hchild,
      Option.isSome_some]
  rw [hwrite] at hserve
  refine Or.inl ⟨?_, ?_⟩
  · rw [hserve]
    exact hstatus
  · rw [hserve]
    exact hchild

/-- The file takes a part of the chunk. -/
theorem next_write (h : Posted srv res head body req child) {pending more : List UInt8}
    (hopen : conn.closed = false) (hreq : conn.req = copying req body .bodyWrite conn.filepos)
    (hsize : conn.filesize = body.length) (hrest : body.drop conn.filepos = conn.chunk ++ pending)
    (hincoming : conn.incoming = pending ++ more) (hchunk : conn.chunk ≠ []) :
    Next srv res head body extra req child conn turn := by
  have hserve := serve_bodyWrite srv turn hopen (congrArg Request.status hreq)
  have hlength := congrArg List.length hrest
  rw [List.length_drop, List.length_append] at hlength
  have hpositive := List.length_pos_iff.mpr hchunk
  have hwhole : min conn.chunk.length (conn.filesize - conn.filepos) = conn.chunk.length := by
    rw [hsize]
    omega
  have hsome : conn.chunk.length ≠ 0 := by omega
  have hsame : Live srv res head body extra req { conn with closed := false } :=
    Live.body rfl hreq (Or.inl rfl) hsize hrest hincoming
  have hchild : conn.req.child = none := by
    rw [hreq]
    exact h.idle
  unfold writeBody at hserve
  rw [hwhole] at hserve
  simp only [hsome, ↓reduceIte] at hserve
  cases hio : turn.io with
  | interrupted | again =>
      rw [hio] at hserve
      refine Or.inr (Or.inr ?_)
      rw [hserve]
      refine ⟨hsame, Nat.le_refl _, ?_⟩
      intro hprod
      rw [productive, hio] at hprod
      cases hprod
  | failed =>
      rw [hio] at hserve
      refine Or.inr (Or.inl ⟨⟨by rw [hserve]; rfl, by rw [hserve]; exact hchild⟩, ?_⟩)
      rw [Smooth, hio]
      exact id
  | moves n =>
      rw [hio] at hserve
      simp only [reduceCtorEq, decide_false] at hserve
      have hwritten : (conn.chunk.take (min n conn.chunk.length)).length =
          min n conn.chunk.length := by
        rw [List.length_take]
        omega
      rw [hwritten] at hserve
      refine Or.inr (Or.inr ?_)
      have hm : min n conn.chunk.length ≤ conn.chunk.length := Nat.min_le_right _ _
      have htake : body.take (conn.filepos + min n conn.chunk.length) =
          body.take conn.filepos ++ conn.chunk.take (min n conn.chunk.length) := by
        rw [List.take_add, hrest, List.take_append_of_le_length hm]
      have hdrop : body.drop (conn.filepos + min n conn.chunk.length) =
          conn.chunk.drop (min n conn.chunk.length) ++ pending := by
        rw [← List.drop_drop, hrest, List.drop_append_of_le_length hm]
      have hcopy : { conn.req with
            status := Status.bodyWrite
            postData := conn.req.postData.map
              (· ++ conn.chunk.take (min n conn.chunk.length)) } =
          copying req body .bodyWrite (conn.filepos + min n conn.chunk.length) := by
        rw [hreq, copying, copying, htake]
        rfl
      have hbefore : callsLeft head body conn =
          3 * (body.length - conn.filepos - conn.chunk.length) + conn.chunk.length + 1 := by
        rw [callsLeft, congrArg Request.status hreq]
        rfl
      have hafter : callsLeft head body (serve srv conn turn) =
          3 * (body.length - (conn.filepos + min n conn.chunk.length) -
            (conn.chunk.length - min n conn.chunk.length)) +
            (conn.chunk.length - min n conn.chunk.length) + 1 := by
        rw [hserve]
        simp only [callsLeft, congrArg Request.status hreq, copying, List.length_drop]
      refine ⟨?_, by rw [hafter, hbefore]; omega, ?_⟩
      · rw [hserve]
        refine Live.body rfl (hcopy ▸ ?_) (Or.inl rfl) hsize hdrop hincoming
        rw [show Status.bodyWrite = conn.req.status by rw [hreq]; rfl]
      · intro hprod
        rw [productive, hio] at hprod
        have hn : 0 < n := of_decide_eq_true hprod
        rw [hafter, hbefore]
        omega

/-- What is left of the body has to be read. -/
theorem next_read (h : Posted srv res head body req child) {pending more : List UInt8}
    (hopen : conn.closed = false) (hreq : conn.req = copying req body .bodyRead conn.filepos)
    (hsize : conn.filesize = body.length) (hchunk : conn.chunk = []) (hpending : pending ≠ [])
    (hrest : body.drop conn.filepos = pending) (hincoming : conn.incoming = pending ++ more) :
    Next srv res head body extra req child conn turn := by
  have hserve := serve_bodyRead srv turn hopen (congrArg Request.status hreq)
  have hlength := congrArg List.length hrest
  rw [List.length_drop] at hlength
  have hpositive := List.length_pos_iff.mpr hpending
  have hchild : conn.req.child = none := by
    rw [hreq]
    exact h.idle
  have hroom : min (conn.filesize - conn.filepos) (bufferSize - conn.chunk.length) ≠ 0 := by
    rw [hsize, hchunk, hlength]
    simp only [List.length_nil, bufferSize]
    omega
  unfold readBody at hserve
  simp only [hroom, ↓reduceIte] at hserve
  cases hio : turn.io with
  | again =>
      rw [hio] at hserve
      refine Or.inr (Or.inr ?_)
      rw [hserve]
      refine ⟨?_, Nat.le_refl _, ?_⟩
      · exact Live.body rfl hreq (Or.inr ⟨rfl, hchunk, hpending⟩) hsize
          (by rw [hrest, hchunk, List.nil_append]) hincoming
      · intro hprod
        rw [productive, hio] at hprod
        cases hprod
  | interrupted =>
      rw [hio] at hserve
      refine Or.inr (Or.inl ⟨⟨by rw [hserve]; rfl, by rw [hserve]; exact hchild⟩, ?_⟩)
      rw [Smooth, hio]
      exact fun hsmooth => hsmooth (congrArg Request.status hreq)
  | failed =>
      rw [hio] at hserve
      refine Or.inr (Or.inl ⟨⟨by rw [hserve]; rfl, by rw [hserve]; exact hchild⟩, ?_⟩)
      rw [Smooth, hio]
      exact id
  | moves n =>
      rw [hio] at hserve
      dsimp only at hserve
      cases hread : readSome n (min (conn.filesize - conn.filepos)
          (bufferSize - conn.chunk.length)) conn.incoming with
      | none =>
          simp only [hread] at hserve
          refine Or.inr (Or.inl ⟨⟨by rw [hserve]; rfl, by rw [hserve]; exact hchild⟩, ?_⟩)
          rw [Smooth, hio]
          rcases readSome_eq_none hread with hzero | hzero | hnil
          · rw [hzero]
            exact Nat.lt_irrefl 0
          · exact absurd hzero hroom
          · rw [hincoming] at hnil
            exact absurd (List.append_eq_nil_iff.mp hnil).1 hpending
      | some r =>
          simp only [hread] at hserve
          obtain ⟨hsplit, hne, hle⟩ := readSome_eq_some hread
          have hshort : r.1.length ≤ pending.length := by
            rw [← hlength, ← hsize]
            exact Nat.le_trans hle (Nat.min_le_left _ _)
          rw [hincoming] at hsplit
          obtain ⟨rest, hpend, hmore⟩ := append_within hsplit hshort
          have hcount := congrArg List.length hpend
          rw [List.length_append] at hcount
          have hread := List.length_pos_iff.mpr hne
          have hbefore : callsLeft head body conn = 3 * pending.length := by
            simp only [callsLeft, congrArg Request.status hreq, copying, hchunk, List.length_nil,
              Nat.sub_zero, hlength, Nat.add_zero]
          have hafter : callsLeft head body (serve srv conn turn) <
              callsLeft head body conn := by
            rw [hbefore, hserve]
            simp only [callsLeft, hchunk, List.nil_append]
            omega
          refine Or.inr (Or.inr ⟨?_, Nat.le_of_lt hafter, fun _ => hafter⟩)
          rw [hserve]
          refine Live.body rfl ?_ (Or.inl rfl) hsize ?_ hmore
          · rw [hreq]
            rfl
          · dsimp only
            rw [hrest, hchunk, List.nil_append, hpend]

/-- Nothing is left of the chunk, but something of the body. -/
theorem next_turn {pending more : List UInt8}
    (hopen : conn.closed = false) (hreq : conn.req = copying req body .bodyWrite conn.filepos)
    (hsize : conn.filesize = body.length) (hchunk : conn.chunk = []) (hpending : pending ≠ [])
    (hrest : body.drop conn.filepos = pending) (hincoming : conn.incoming = pending ++ more) :
    Next srv res head body extra req child conn turn := by
  have hserve := serve_bodyWrite srv turn hopen (congrArg Request.status hreq)
  have hlength := congrArg List.length hrest
  rw [List.length_drop] at hlength
  have hpositive := List.length_pos_iff.mpr hpending
  have hmissing : ¬body.length ≤ conn.filepos := by omega
  have hwrite : writeBody srv turn conn = (.more, { conn with
      chunk := []
      req := { conn.req with status := .bodyRead } }) := by
    unfold writeBody
    rw [hchunk]
    simp only [List.length_nil, Nat.zero_min, ↓reduceIte, hsize, hmissing]
  rw [hwrite] at hserve
  have hafter : callsLeft head body (serve srv conn turn) < callsLeft head body conn := by
    rw [hserve]
    simp only [callsLeft, congrArg Request.status hreq, copying, hchunk, List.length_nil]
    omega
  refine Or.inr (Or.inr ⟨?_, Nat.le_of_lt hafter, fun _ => hafter⟩)
  rw [hserve]
  refine Live.body rfl ?_ (Or.inr ⟨rfl, rfl, hpending⟩) hsize ?_ hincoming
  · rw [hreq]
    rfl
  · exact hrest

/-- A call of a handler. -/
theorem next_live (h : Posted srv res head body req child) (hturn : turn.res = res)
    (hlive : Live srv res head body extra req conn) :
    Next srv res head body extra req child conn turn := by
  cases hlive with
  | header hopen hsent hpos hscan => exact next_header h hturn hopen hsent hpos hscan
  | body hopen hreq hstatus hsize hrest hincoming =>
      rename_i status pending more
      rcases hstatus with rfl | ⟨rfl, hchunk, hpending⟩
      · by_cases hchunk : conn.chunk = []
        · rw [hchunk, List.nil_append] at hrest
          by_cases hpending : pending = []
          · rw [hpending, List.drop_eq_nil_iff] at hrest
            exact next_start h hturn hopen hreq hsize hchunk hrest
          · exact next_turn hopen hreq hsize hchunk hpending hrest hincoming
        · exact next_write h hopen hreq hsize hrest hincoming hchunk
      · rw [hchunk, List.nil_append] at hrest
        exact next_read h hopen hreq hsize hchunk hpending hrest hincoming

/-! ## Runs -/

/-- A connection after some calls. -/
def Phase (srv : Server) (res : Resources) (head body extra : List UInt8) (req : Request)
    (child : Child) (conn : Connection) : Prop :=
  Live srv res head body extra req conn ∨ Started child conn ∨ Lost conn

private theorem started_serve (h : Started child conn) : Started child (serve srv conn turn) := by
  unfold serve
  split
  · exact h
  · rw [h.status]
    exact ⟨h.status, h.child⟩

theorem phase_serve (h : Posted srv res head body req child) (hturn : turn.res = res)
    (hphase : Phase srv res head body extra req child conn) :
    Phase srv res head body extra req child (serve srv conn turn) := by
  rcases hphase with hlive | hstarted | hlost
  · rcases next_live h hturn hlive with hnext | ⟨hnext, _⟩ | ⟨hnext, _⟩
    · exact Or.inr (Or.inl hnext)
    · exact Or.inr (Or.inr hnext)
    · exact Or.inl hnext
  · exact Or.inr (Or.inl (started_serve hstarted))
  · refine Or.inr (Or.inr ?_)
    rw [serve, if_pos hlost.closed]
    exact hlost

private theorem Phase.child_eq (h : Posted srv res head body req child)
    (hphase : Phase srv res head body extra req child conn) :
    conn.req.child = none ∨ conn.req.child = some child := by
  rcases hphase with hlive | hstarted | hlost
  · cases hlive with
    | header hopen hsent hpos hscan =>
        exact Or.inl (scan_none reading_newRequest hscan).2
    | body hopen hreq hstatus hsize hrest hincoming =>
        rw [hreq]
        exact Or.inl h.idle
  · exact Or.inr hstarted.child
  · exact Or.inl hlost.child

private theorem live_accepted (srv : Server) (res : Resources) (head body extra : List UInt8)
    (req : Request) : Live srv res head body extra req (accepted (head ++ (body ++ extra))) :=
  @Live.header srv res head body extra req _ [] rfl rfl rfl rfl

end Serve

/-- In every run a program that was started for the request is the one that was asked for, and
its standard input is the body; after enough calls that move something it was started. -/
theorem delivered (h : Posted srv res head body req child) (extra : List UInt8)
    (turns : List Turn) (hres : ∀ turn ∈ turns, turn.res = res) :
    ((exec (serve srv) (accepted (head ++ (body ++ extra))) turns).req.child = none ∨
      (exec (serve srv) (accepted (head ++ (body ++ extra))) turns).req.child = some child) ∧
    (StepsSatisfy (serve srv) Smooth (accepted (head ++ (body ++ extra))) turns →
      head.length + 3 * body.length + 2 < turns.countP productive →
      (exec (serve srv) (accepted (head ++ (body ++ extra))) turns).req.child = some child) := by
  have hstart := live_accepted srv res head body extra req
  have hsteps : StepsSatisfy (serve srv) (fun _ turn => turn.res = res)
      (accepted (head ++ (body ++ extra))) turns :=
    stepsSatisfy_of_mem (fun turn hturn _ => hres turn hturn) _
  constructor
  · have hphase : Phase srv res head body extra req child
        (exec (serve srv) (accepted (head ++ (body ++ extra))) turns) :=
      exec_under (fun conn turn hconn hturn => phase_serve h hturn hconn) (Or.inl hstart) hsteps
    exact hphase.child_eq h
  · intro hsmooth hmany
    have hboth := (stepsSatisfy_and _ _).mpr ⟨hsteps, hsmooth⟩
    have hcalls : callsLeft head body (accepted (head ++ (body ++ extra))) <
        turns.countP productive := by
      rw [callsLeft_header head body reading_newRequest]
      exact hmany
    have hstarted : Started child
        (exec (serve srv) (accepted (head ++ (body ++ extra))) turns) := by
      refine exec_reaches (fun conn turn hconn => started_serve hconn) ?_ hstart hboth hcalls
      intro conn turn hlive ⟨hturn, hsmooth⟩
      rcases next_live h hturn hlive with hnext | ⟨_, hrough⟩ | hnext
      · exact Or.inl hnext
      · exact absurd hsmooth hrough
      · exact Or.inr hnext
    exact hstarted.child

end Itertk.Boa.Delivery
