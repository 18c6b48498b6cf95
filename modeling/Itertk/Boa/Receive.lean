import Itertk.Base.Feed
import Itertk.Boa.Lines
import Itertk.Discovery.Text

/-!
# Receiving a request

`read_header` finds the lines of a request in what the socket brings, one character after
the other.  Behind the header of a `POST`, `read_body` and `write_body` take turns to copy as
many bytes as `Content-Length` says to a temporary file; what of the body came with the header
is copied first.  `process_requests` calls a request whenever its socket, or its file, is
ready.

## Main results

* `scan_none` — a header that has not ended has started nothing.
-/

namespace Itertk.Boa.Receive

open Itertk.Base.Feed
open Itertk.Daemon.Config
open Itertk.Discovery.Report
open Itertk.Boa.Translate
open Itertk.Boa.Get
open Itertk.Boa.Lines

/-! ## Connections -/

/-- What the system makes of a `read` or a `write`: it moves at most `n` bytes, or fails with
`EINTR`, `EAGAIN` or another error. -/
inductive Io where
  | moves (n : Nat) | interrupted | again | failed
deriving DecidableEq

/-- What a call of a handler meets. -/
structure Turn where
  io : Io
  res : Resources

structure Connection where
  req : Request
  /-- `client_stream` from `parse_pos` to `client_stream_pos`. -/
  unparsed : List UInt8
  /-- `client_stream_pos`. -/
  streamPos : Nat
  filesize : Nat
  filepos : Nat
  /-- What lies between `header_line` and `header_end` while the body is copied. -/
  chunk : List UInt8
  /-- What the client has sent and the server has not read. -/
  incoming : List UInt8
  /-- A handler has returned 0. -/
  closed : Bool

/-- A connection on which the client sends `sent`. -/
def accepted (sent : List UInt8) : Connection := ⟨newRequest, [], 0, 0, 0, [], sent, false⟩

/-- `CLIENT_STREAM_SIZE`. -/
def clientStreamSize : Nat := 8192

/-- `BUFFER_SIZE`. -/
def bufferSize : Nat := 8192

/-! ## `read_header` -/

/-- The `switch` on the status. -/
def advance (status : Status) (c : UInt8) : Status :=
  match status with
  | .readHeader => if c = 13 then .oneCr else if c = 10 then .oneLf else .readHeader
  | .oneCr => if c = 10 then .oneLf else if c ≠ 13 then .readHeader else .oneCr
  | .oneLf => if c = 13 then .twoCr else if c = 10 then .bodyRead else .readHeader
  | .twoCr => if c = 10 then .bodyRead else if c ≠ 13 then .readHeader else .twoCr
  | status => status

/-- How `read_header` leaves its loop: from a line, or at the end of the header. -/
inductive Stop where
  | line (ret : Ret)
  | header (ret : Ret)
deriving DecidableEq

/-- The C string that begins at `header_line`. -/
def lineText (req : Request) : List UInt8 := (req.line.take req.lineEnd).takeWhile (· ≠ 0)

/-- What is done with a line that has ended. -/
def endLine (srv : Server) (res : Resources) (req : Request) : Request × Option Stop :=
  let text := lineText req
  if req.logline.isSome then
    match processOptionLine srv.cfg req text with
    | (.close, req) => (req, some (.line .close))
    | (_, req) => ({ req with line := [] }, none)
  else
    match processLogline req text with
    | (.close, req) => (req, some (.line .close))
    | (_, req) =>
        if req.simple then
          -- A request without a version ends with its first line, which stays where it is.
          let (ret, req) :=
            processHeaderEnd srv res { req with line := req.line.set req.lineEnd 0 }
          (req, some (.line ret))
        else ({ req with line := [] }, none)

/-- A round of the loop. -/
def feed (srv : Server) (res : Resources) (req : Request) (c : UInt8) : Request × Option Stop :=
  let lineEnd :=
    if req.status = .readHeader ∧ (c = 13 ∨ c = 10) then req.line.length else req.lineEnd
  let req := { req with
    status := advance req.status c
    line := req.line ++ [c]
    lineEnd := lineEnd }
  if req.status = .oneLf then endLine srv res req
  else if req.status = .bodyRead then
    let (ret, req) := processHeaderEnd srv res req
    (req, some (.header ret))
  else (req, none)

/-- `boa_atoi`. -/
def boaAtoi (s : List UInt8) : Int :=
  if (s.head?.bind digit).isNone then -1
  else
    let n := min (digits 0 s) 2147483647
    if s.isPrefixOf (decimal n) then n else -1

/-- What follows the header of a `POST`. -/
def startBody (srv : Server) (conn : Connection) : Ret × Connection :=
  let bad : Ret × Connection := (.close, { conn with req := (refuse conn.req .badRequest).2 })
  match conn.req.contentLength with
  | none => bad
  | some text =>
      let n := boaAtoi text
      if n ≤ 0 then bad
      else if srv.cfg.singlePostLimit ≠ 0 ∧ (srv.cfg.singlePostLimit : Int) < n then bad
      else
        (.more, { conn with
          filesize := n.toNat
          filepos := 0
          chunk := conn.unparsed.take n.toNat })

/-- `read`: what it brings, and what is left; none at the end of the file. -/
def readSome (n limit : Nat) (incoming : List UInt8) : Option (List UInt8 × List UInt8) :=
  if incoming.take (min n limit) = [] then none
  else some (incoming.take (min n limit), incoming.drop (min n limit))

/-- The end of `read_header`, when the buffer holds no end of the header. -/
def refill (turn : Turn) (conn : Connection) : Ret × Connection :=
  if clientStreamSize - conn.streamPos < 1 then
    (.close, { conn with req := { conn.req with status := .dead } })
  else
    match turn.io with
    | .interrupted => (.more, conn)
    | .again => (.blocked, conn)
    | .failed => (.close, conn)
    | .moves n =>
        match readSome n (clientStreamSize - conn.streamPos) conn.incoming with
        | none => (.close, conn)
        | some (bytes, rest) =>
            (.more, { conn with
              unparsed := bytes
              streamPos := conn.streamPos + bytes.length
              incoming := rest })

/-- `read_header`. -/
def readHeader (srv : Server) (turn : Turn) (conn : Connection) : Ret × Connection :=
  match scan (feed srv turn.res) conn.req conn.unparsed with
  | (req, some (.line ret), rest) => (ret, { conn with req := req, unparsed := rest })
  | (req, some (.header ret), rest) =>
      let conn := { conn with req := req, unparsed := rest }
      if ret ≠ .close ∧ req.method = .post then
        startBody srv { conn with req := { req with status := .bodyWrite } }
      else (ret, conn)
  | (req, none, _) => refill turn { conn with req := req, unparsed := [] }

/-! ## `read_body` and `write_body` -/

/-- `read_body`. -/
def readBody (turn : Turn) (conn : Connection) : Ret × Connection :=
  let bytesToRead := min (conn.filesize - conn.filepos) (bufferSize - conn.chunk.length)
  if bytesToRead = 0 then (.more, { conn with req := { conn.req with status := .bodyWrite } })
  else
    match turn.io with
    | .again => (.blocked, conn)
    | .interrupted | .failed => (.close, { conn with req := (refuse conn.req .error).2 })
    | .moves n =>
        match readSome n bytesToRead conn.incoming with
        | none => (.close, { conn with req := (refuse conn.req .badRequest).2 })
        | some (bytes, rest) =>
            (.more, { conn with
              req := { conn.req with status := .bodyWrite }
              chunk := conn.chunk ++ bytes
              incoming := rest })

/-- `write_body`. -/
def writeBody (srv : Server) (turn : Turn) (conn : Connection) : Ret × Connection :=
  let bytesToWrite := min conn.chunk.length (conn.filesize - conn.filepos)
  if bytesToWrite = 0 then
    let conn := { conn with chunk := [] }
    if conn.filesize ≤ conn.filepos then
      let (ret, req) := initCgi srv turn.res conn.req
      (ret, { conn with req := req, filepos := if req.child.isSome then 0 else conn.filepos })
    else (.more, { conn with req := { conn.req with status := .bodyRead } })
  else
    match turn.io with
    | .again => (.blocked, conn)
    | .interrupted => (.more, conn)
    | .failed => (.close, { conn with req := (refuse conn.req .error).2 })
    | .moves n =>
        let written := conn.chunk.take (min n bytesToWrite)
        (.more, { conn with
          req := { conn.req with postData := conn.req.postData.map (· ++ written) }
          filepos := conn.filepos + written.length
          chunk := conn.chunk.drop written.length })

/-- `process_requests`, until the answer begins. -/
def serve (srv : Server) (conn : Connection) (turn : Turn) : Connection :=
  if conn.closed then conn
  else
    let (ret, conn) :=
      match conn.req.status with
      | .readHeader | .oneCr | .oneLf | .twoCr => readHeader srv turn conn
      | .bodyRead => readBody turn conn
      | .bodyWrite => writeBody srv turn conn
      | .write | .pipeRead | .dead => (.more, conn)
    { conn with closed := ret = .close }

/-! ## What a line leaves alone -/

/-- A line changes neither the state of the reader nor what was started. -/
structure Keeps (req req' : Request) : Prop where
  status : req'.status = req.status
  child : req'.child = req.child

private theorem keeps_addHeader (req : Request) (key value : List UInt8) :
    Keeps req (addHeader req key value).2 := by
  unfold addHeader
  split
  · exact ⟨rfl, rfl⟩
  · exact ⟨rfl, rfl⟩

private theorem keeps_processOptionLine (cfg : Config) (req : Request) (line : List UInt8) :
    Keeps req (processOptionLine cfg req line).2 := by
  have hadd (req' : Request) (key value : List UInt8) (h : Keeps req req') :
      Keeps req (addHeader req' key value).2 :=
    ⟨(keeps_addHeader req' key value).status.trans h.status,
      (keeps_addHeader req' key value).child.trans h.child⟩
  unfold processOptionLine
  split
  · exact ⟨rfl, rfl⟩
  · unfold processOption
    split_ifs <;> first | exact ⟨rfl, rfl⟩ | exact hadd _ _ _ ⟨rfl, rfl⟩

private theorem keeps_processLogline (req : Request) (line : List UInt8) :
    Keeps req (processLogline req line).2 := by
  unfold processLogline
  split
  · exact ⟨rfl, rfl⟩
  · dsimp only
    split
    · exact ⟨rfl, rfl⟩
    · split
      · split_ifs <;> exact ⟨rfl, rfl⟩
      · split
        · exact ⟨rfl, rfl⟩
        · split_ifs <;> exact ⟨rfl, rfl⟩

/-- The states in which `read_header` is called. -/
def Reading (status : Status) : Prop :=
  status = .readHeader ∨ status = .oneCr ∨ status = .oneLf ∨ status = .twoCr

private theorem reading_advance {status : Status} (h : Reading status) (c : UInt8) :
    Reading (advance status c) ∨ advance status c = .bodyRead := by
  rcases h with rfl | rfl | rfl | rfl <;> unfold advance <;> dsimp only <;> split_ifs <;>
    simp [Reading]

/-- A line that does not end the header. -/
theorem endLine_none {srv : Server} {res : Resources} {req req' : Request}
    (h : endLine srv res req = (req', none)) : Keeps req req' := by
  unfold endLine at h
  dsimp only at h
  split at h
  · have hkeeps := keeps_processOptionLine srv.cfg req (lineText req)
    split at h
    · cases h
    · rename_i hline
      rw [hline] at hkeeps
      cases h
      exact ⟨hkeeps.status, hkeeps.child⟩
  · have hkeeps := keeps_processLogline req (lineText req)
    split at h
    · cases h
    · rename_i hline
      rw [hline] at hkeeps
      split at h
      · cases h
      · cases h
        exact ⟨hkeeps.status, hkeeps.child⟩

private theorem feed_none {srv : Server} {res : Resources} {req req' : Request} {c : UInt8}
    (hreading : Reading req.status) (h : feed srv res req c = (req', none)) :
    Reading req'.status ∧ req'.child = req.child := by
  unfold feed at h
  dsimp only at h
  have hnext := reading_advance hreading c
  split at h
  · rename_i hlf
    have hkeeps := endLine_none h
    exact ⟨by rw [hkeeps.status, hlf]; exact Or.inr (Or.inr (Or.inl rfl)), hkeeps.child⟩
  · split at h
    · cases h
    · rename_i hbody
      cases h
      exact ⟨hnext.resolve_right hbody, rfl⟩

theorem scan_none {srv : Server} {res : Resources} {req req' : Request} {bytes rest : List UInt8}
    (hreading : Reading req.status) (h : scan (feed srv res) req bytes = (req', none, rest)) :
    Reading req'.status ∧ req'.child = req.child := by
  induction bytes generalizing req with
  | nil =>
      cases h
      exact ⟨hreading, rfl⟩
  | cons c bytes ih =>
      rcases hfeed : feed srv res req c with ⟨next, stop⟩
      cases stop with
      | none =>
          rw [scan_cons_none hfeed] at h
          obtain ⟨hnext, hchild⟩ := feed_none hreading hfeed
          obtain ⟨hlast, hsame⟩ := ih hnext h
          exact ⟨hlast, hsame.trans hchild⟩
      | some stop =>
          rw [scan_cons_some hfeed] at h
          cases h

end Itertk.Boa.Receive
