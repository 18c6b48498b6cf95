import Itertk.Boa.Get
import Itertk.Cgi.Multipart

/-!
# The lines of a request

`process_logline` reads the first line of a request, `process_option_line` each of the others.
At the empty line `process_header_end` finds the file that is asked for; for a program
`init_cgi` completes its environment and starts it.  The lines are the C strings that begin
where a line of the header does.

Memory that runs out is left out, and so are the arguments of a program and what is sent for
a refusal.
-/

namespace Itertk.Boa.Lines

open Itertk.Daemon.Config
open Itertk.Discovery.Report
open Itertk.Cgi.UrlEncoded
open Itertk.Boa.Uri
open Itertk.Boa.Translate
open Itertk.Boa.Get

/-! ## The request -/

/-- `req->status`, up to the answer. -/
inductive Status where
  | readHeader | oneCr | oneLf | twoCr | bodyRead | bodyWrite | write | pipeRead | dead
deriving DecidableEq

/-- `KA_INACTIVE`, `KA_STOPPED`, `KA_ACTIVE`. -/
inductive Keepalive where
  | inactive | stopped | active
deriving DecidableEq

/-- A program as it is started. -/
structure Child where
  pathname : List UInt8
  env : List (List UInt8)
  /-- The file that is tied to its standard input for a `POST`. -/
  stdin : Option (List UInt8)
deriving DecidableEq

/-- What the lines of a request say and what comes of it. -/
structure Request where
  status : Status
  /-- `client_stream` from `header_line` to `parse_pos`. -/
  line : List UInt8
  /-- `header_end - header_line`. -/
  lineEnd : Nat
  logline : Option (List UInt8)
  method : Method
  simple : Bool
  httpVersion : List UInt8
  requestUri : List UInt8
  queryString : Option (List UInt8)
  target : Option Target
  keepalive : Keepalive
  ifModifiedSince : Option (List UInt8)
  contentType : Option (List UInt8)
  contentLength : Option (List UInt8)
  headerReferer : Option (List UInt8)
  headerUserAgent : Option (List UInt8)
  /-- `cgi_env` behind the common variables. -/
  cgiEnv : List (List UInt8)
  /-- The refusal that was answered. -/
  response : Option Refusal
  /-- What `init_get` opened. -/
  opened : Option Opened
  /-- The file at `post_data_fd`. -/
  postData : Option (List UInt8)
  child : Option Child
deriving DecidableEq

/-- `new_request`, `get_request`. -/
def newRequest : Request where
  status := .readHeader
  line := []
  lineEnd := 0
  logline := none
  method := .get
  simple := false
  httpVersion := []
  requestUri := []
  queryString := none
  target := none
  keepalive := .inactive
  ifModifiedSince := none
  contentType := none
  contentLength := none
  headerReferer := none
  headerUserAgent := none
  cgiEnv := []
  response := none
  opened := none
  postData := none
  child := none

/-- What a handler returns: -1, 0, 1. -/
inductive Ret where
  | blocked | close | more
deriving DecidableEq

/-- What the server knows besides the request. -/
structure Server where
  cfg : Config
  fs : FileSystem
  /-- `common_cgi_env`. -/
  commonEnv : List (List UInt8)
  defaultType : List UInt8
  localAddr : List UInt8
  remoteAddr : List UInt8
  remotePort : Nat

/-- Whether `create_temporary_file`, the pipe of a program and `fork` succeed. -/
structure Resources where
  temporary : Bool
  pipe : Bool
  fork : Bool

/-- The `send_r_*` functions. -/
def refuse (req : Request) (r : Refusal) : Ret × Request :=
  (.close, { req with keepalive := .stopped, response := some r })

/-! ## `process_logline` -/

/-- `%u` of `sscanf`. -/
def scanUnsigned (s : List UInt8) : Option (Nat × List UInt8) :=
  let s := s.dropWhile isSpace
  let (negative, s) :=
    match s with
    | 45 :: s => (true, s)
    | 43 :: s => (false, s)
    | s => (false, s)
  if (s.head?.bind digit).isNone then none
  else
    let n := min (digits 0 s) 4294967295
    some (if negative then (4294967296 - n) % 4294967296 else n,
      s.dropWhile fun c => (digit c).isSome)

/-- `sscanf(s, "HTTP/%u.%u", &p1, &p2) == 2`. -/
def scanVersion (s : List UInt8) : Option (Nat × Nat) :=
  if (chars ['H', 'T', 'T', 'P', '/']).isPrefixOf s then
    match scanUnsigned (s.drop 5) with
    | some (p1, 46 :: s) => (scanUnsigned s).map fun r => (p1, r.1)
    | _ => none
  else none

/-- The method of a request line, and what follows its first space. -/
def scanMethod (line : List UInt8) : Option (Method × List UInt8) :=
  if (chars ['G', 'E', 'T', ' ']).isPrefixOf line then some (.get, line.drop 4)
  else if (chars ['H', 'E', 'A', 'D', ' ']).isPrefixOf line then some (.head, line.drop 5)
  else if (chars ['P', 'O', 'S', 'T', ' ']).isPrefixOf line then some (.post, line.drop 5)
  else none

/-- `"HTTP/0.9"`. -/
def simpleHttpVersion : List UInt8 := chars ['H', 'T', 'T', 'P', '/', '0', '.', '9']

/-- `process_logline`. -/
def processLogline (req : Request) (line : List UInt8) : Ret × Request :=
  let req := { req with logline := some line }
  match scanMethod line with
  | none => refuse req .notImplemented
  | some (method, rest) =>
      let stop := rest.dropWhile (· = 32)
      let uri := stop.takeWhile (· ≠ 32)
      let req := { req with method := method, httpVersion := simpleHttpVersion, simple := true }
      if maxHeaderLength < uri.length then refuse req .badRequest
      else
        let req := { req with requestUri := uri }
        let done (req : Request) : Ret × Request :=
          if method = .head ∧ req.simple then refuse req .badRequest
          else (.more, { req with cgiEnv := [] })
        match stop.dropWhile (· ≠ 32) with
        | [] => done req
        | rest =>
            let version := rest.dropWhile (· = 32)
            match scanVersion version with
            | none => refuse req .badRequest
            | some (p1, p2) =>
                if p1 = 1 ∧ (p2 = 0 ∨ p2 = 1) then
                  done { req with httpVersion := version, simple := false }
                else if 1 < p1 ∨ p1 ≠ 0 ∧ 1 < p2 then refuse req .badRequest
                else done req

/-! ## `process_option_line` -/

/-- `to_upper`, of one character. -/
def toUpper (c : UInt8) : UInt8 :=
  if c = 45 then 95 else if 97 ≤ c ∧ c ≤ 122 then c - 32 else c

def commonCgiCount : Nat := 6

def cgiEnvMax : Nat := 50

/-- `env_gen`. -/
def envGen (key value : List UInt8) : List UInt8 := key ++ 61 :: value

/-- `add_cgi_env`; none when there is no room. -/
def addCgiEnv (env : List (List UInt8)) (key value : List UInt8) : Option (List (List UInt8)) :=
  if commonCgiCount + env.length < cgiEnvMax then some (env ++ [envGen key value]) else none

/-- `"HTTP_"`. -/
def httpStart : List UInt8 := chars ['H', 'T', 'T', 'P', '_']

/-- `add_cgi_env` with the name of a header. -/
def addHeader (req : Request) (key value : List UInt8) : Ret × Request :=
  match addCgiEnv req.cgiEnv (httpStart ++ key) value with
  | none => (.close, req)
  | some env => (.more, { req with cgiEnv := env })

def ifModifiedSinceName : List UInt8 :=
  chars ['I', 'F', '_', 'M', 'O', 'D', 'I', 'F', 'I', 'E', 'D', '_', 'S', 'I', 'N', 'C', 'E']

def contentTypeName : List UInt8 :=
  chars ['C', 'O', 'N', 'T', 'E', 'N', 'T', '_', 'T', 'Y', 'P', 'E']

def contentLengthName : List UInt8 :=
  chars ['C', 'O', 'N', 'T', 'E', 'N', 'T', '_', 'L', 'E', 'N', 'G', 'T', 'H']

def connectionName : List UInt8 := chars ['C', 'O', 'N', 'N', 'E', 'C', 'T', 'I', 'O', 'N']

def acceptName : List UInt8 := chars ['A', 'C', 'C', 'E', 'P', 'T']

def refererName : List UInt8 := chars ['R', 'E', 'F', 'E', 'R', 'E', 'R']

def userAgentName : List UInt8 := chars ['U', 'S', 'E', 'R', '_', 'A', 'G', 'E', 'N', 'T']

/-- `"KEEP-ALIVE"`, as `strncasecmp` compares it. -/
def keepAliveValue : List UInt8 := chars ['k', 'e', 'e', 'p', '-', 'a', 'l', 'i', 'v', 'e']

/-- `process_option_line`, of a name in upper case and its value. -/
def processOption (cfg : Config) (req : Request) (name value : List UInt8) : Ret × Request :=
  if name = ifModifiedSinceName ∧ req.ifModifiedSince = none then
    (.more, { req with ifModifiedSince := some value })
  else if name = contentTypeName ∧ req.contentType = none then
    (.more, { req with contentType := some value })
  else if name = contentLengthName ∧ req.contentLength = none then
    (.more, { req with contentLength := some value })
  else if name = connectionName ∧ cfg.kaMax ≠ 0 ∧ req.keepalive ≠ .stopped then
    (.more, { req with keepalive :=
      if keepAliveValue.isPrefixOf (value.map Cgi.Multipart.toLower) then .active else .stopped })
  -- `ACCEPT_ON` is not defined: `add_accept_header` does nothing.
  else if name = acceptName then (.more, req)
  else if name = refererName then
    addHeader { req with headerReferer := some value } name value
  else if name = userAgentName then
    addHeader { req with headerUserAgent := some value } name value
  else addHeader req name value

/-- `process_option_line`. -/
def processOptionLine (cfg : Config) (req : Request) (line : List UInt8) : Ret × Request :=
  match scanTo 58 line with
  | (_, none) => (.close, req)
  | (name, some value) =>
      processOption cfg req (name.map toUpper) (value.dropWhile fun c => c = 32 ∨ c = 9)

/-! ## `init_cgi` -/

def methodName : Method → List UInt8
  | .get => chars ['G', 'E', 'T']
  | .head => chars ['H', 'E', 'A', 'D']
  | .post => chars ['P', 'O', 'S', 'T']

/-- A variable that is set when there is a value for it. -/
def optional (key : List UInt8) (value : Option (List UInt8)) : List (List UInt8 × List UInt8) :=
  value.toList.map fun v => (key, v)

def requestMethodName : List UInt8 :=
  chars ['R', 'E', 'Q', 'U', 'E', 'S', 'T', '_', 'M', 'E', 'T', 'H', 'O', 'D']

def serverAddrName : List UInt8 := chars ['S', 'E', 'R', 'V', 'E', 'R', '_', 'A', 'D', 'D', 'R']

def serverProtocolName : List UInt8 :=
  chars ['S', 'E', 'R', 'V', 'E', 'R', '_', 'P', 'R', 'O', 'T', 'O', 'C', 'O', 'L']

def requestUriName : List UInt8 := chars ['R', 'E', 'Q', 'U', 'E', 'S', 'T', '_', 'U', 'R', 'I']

def pathInfoName : List UInt8 := chars ['P', 'A', 'T', 'H', '_', 'I', 'N', 'F', 'O']

def pathTranslatedName : List UInt8 :=
  chars ['P', 'A', 'T', 'H', '_', 'T', 'R', 'A', 'N', 'S', 'L', 'A', 'T', 'E', 'D']

def scriptNameName : List UInt8 := chars ['S', 'C', 'R', 'I', 'P', 'T', '_', 'N', 'A', 'M', 'E']

def queryStringName : List UInt8 :=
  chars ['Q', 'U', 'E', 'R', 'Y', '_', 'S', 'T', 'R', 'I', 'N', 'G']

def remoteAddrName : List UInt8 := chars ['R', 'E', 'M', 'O', 'T', 'E', '_', 'A', 'D', 'D', 'R']

def remotePortName : List UInt8 := chars ['R', 'E', 'M', 'O', 'T', 'E', '_', 'P', 'O', 'R', 'T']

/-- The variables that `complete_env` adds, in their order. -/
def requestVariables (srv : Server) (req : Request) (t : Target) :
    List (List UInt8 × List UInt8) :=
  [(requestMethodName, methodName req.method), (serverAddrName, srv.localAddr),
    (serverProtocolName, req.httpVersion), (requestUriName, req.requestUri)] ++
  optional pathInfoName t.pathInfo ++
  optional pathTranslatedName t.pathTranslated ++
  [(scriptNameName, t.scriptName.getD [])] ++
  optional queryStringName req.queryString ++
  [(remoteAddrName, srv.remoteAddr), (remotePortName, decimal srv.remotePort)] ++
  if req.method = .post then
    (contentTypeName, req.contentType.getD srv.defaultType) ::
      optional contentLengthName req.contentLength
  else []

/-- `complete_env`; none when there is no room. -/
def completeEnv (srv : Server) (req : Request) (t : Target) : Option (List (List UInt8)) :=
  ((requestVariables srv req t).foldlM (fun env v => addCgiEnv env v.1 v.2) req.cgiEnv).map
    (srv.commonEnv ++ ·)

/-- `init_cgi`. -/
def initCgi (srv : Server) (res : Resources) (req : Request) : Ret × Request :=
  let req := { req with keepalive := .stopped }
  match req.target with
  | none => (.close, req)
  | some t =>
      let env := if t.isCgi.isSome then completeEnv srv req t else some []
      match env with
      | none => (.close, req)
      | some env =>
          if res.pipe = false then (.close, req)
          else if res.fork = false then refuse req .error
          else
            (.more, { req with
              status := .pipeRead
              child := some ⟨t.pathname, env, if req.method = .post then req.postData else none⟩
              postData := if req.method = .post then none else req.postData })

/-! ## `process_header_end` -/

/-- `process_header_end`. -/
def processHeaderEnd (srv : Server) (res : Resources) (req : Request) : Ret × Request :=
  if req.logline = none then refuse req .error
  else
    match unescapeUri req.requestUri with
    | none => refuse req .badRequest
    | some (decoded, query) =>
        let req := { req with
          requestUri := cleanPathname (decoded.takeWhile (· ≠ 0))
          queryString := query.or req.queryString }
        if req.requestUri.head? ≠ some 47 then refuse req .badRequest
        else
          match translateUri srv.cfg srv.fs srv.localAddr req.method req.simple req.requestUri with
          | .error r => refuse req r
          | .ok t =>
              let req := { req with target := some t }
              if req.method = .post then
                if res.temporary then (.more, { req with postData := some [] }) else (.close, req)
              else if t.isCgi.isSome then initCgi srv res req
              else
                match initGet srv.cfg srv.fs t.pathname with
                | .error r => refuse { req with status := .write } r
                | .ok o => (.more, { req with status := .write, opened := some o })

end Itertk.Boa.Lines
