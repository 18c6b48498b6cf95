import Itertk.Address.IpCheck
import Itertk.Base.Descriptors
import Itertk.Base.Run
import Itertk.Client.Process
import Itertk.Dns.Resolve

/-!
# The sockets of `client_reconnect`

`client_connect_server` has nine exits.  From `fcntl` on a failure goes to its own error
label, which closes the socket and forgets it; before that, when the name of the server is
not resolved, the socket is left to the caller, which closes what it finds in
`g_sockfd_client`.  A query to a name server opens and closes a socket of its own.

The table of open descriptors is part of the state here.  It tells the connection to the
server and the sockets for queries from everything else that the process has open.

## Main results

* `clientConnectServer_eq` — what an attempt leaves, by the ways in which it can end.
* `exec_tight` — after every run no socket is lost.
* `attempt_follows` — an attempt is what the loop of `client_process` takes it for.
-/

namespace Itertk.Client.ConnectServer

open Itertk.Base.Descriptors
open Itertk.Base.Memory
open Itertk.Base.Run
open Itertk.Daemon.State
open Itertk.Discovery.Report (sysStr2ip)
open Itertk.Address.IpCheck
open Itertk.Dns.Query (dnsQuery)
open Itertk.Dns.Resolve (Reply Stack resolve)
open Itertk.Client.Process

/-! ## The calls -/

/-- What a descriptor stands for. -/
inductive Kind where
  /-- A TCP socket that `client_connect_server` has created. -/
  | client
  /-- A UDP socket that `sendDNSPacket` has created. -/
  | query
  | other
  deriving DecidableEq

/-- What one call of `client_connect_server` meets. -/
structure Attempt where
  /-- `socket(AF_INET, SOCK_STREAM, 0)`. -/
  socket : Int
  /-- `con_server.dns_str`. -/
  dnsStr : List UInt8
  /-- The address that `gethostbyname` finds, as `inet_ntoa` writes it. -/
  hostText : List UInt8
  stack : Stack
  /-- `socket(PF_INET, SOCK_DGRAM, 0)`. -/
  querySocket : Int
  /-- The name server, up to `recv`. -/
  server : List UInt8 → Reply
  /-- `fcntl(g_sockfd_client, F_SETFL, ...)`. -/
  setFl : Int
  connect : Int
  /-- `errno == EINPROGRESS`. -/
  inProgress : Bool
  poll : Int
  /-- `revents & (POLLERR | POLLHUP | POLLNVAL)`. -/
  hungUp : Bool
  getsockopt : Int
  /-- The value that `getsockopt` stores. -/
  error : Int

/-- The descriptors of the process, and the globals of the client. -/
structure Globals where
  table : Table Kind
  /-- `g_sockfd_client`. -/
  sockfd : Int
  /-- `g_reconnect_flag`. -/
  flag : Nat
  /-- `con_server.server_ip`. -/
  serverIp : UInt32

/-- `sendDNSPacket`: its value, the buffer, and the table. -/
def sendDNSPacket (socketFd : Int) (reply : Reply) (recvMsg : Mem) (t : Table Kind) :
    (Int × Mem) × Table Kind :=
  let t := result t socketFd .query
  (Dns.Resolve.sendDNSPacket reply recvMsg, closed t socketFd)

/-- `its_dns(www, dns, ip)`: the text behind `ip` with `DNS_OK`. -/
def itsDns (a : Attempt) (www : List UInt8) (t : Table Kind) :
    Option (List UInt8) × Table Kind :=
  let query := dnsQuery www a.stack.name a.stack.buf
  let r := sendDNSPacket a.querySocket (a.server query.2) a.stack.recvMsg t
  ((resolve r.1.2 query.1 r.1.1).ip, r.2)

/-- `dns_resolution(con_server.dns_str)`; `true` is `DNS_OK`. -/
def dnsResolution (a : Attempt) (c : Globals) : Bool × Globals :=
  if ipCheck a.dnsStr = 1 then (true, { c with serverIp := sysStr2ip a.hostText })
  else if a.dnsStr ≠ [] then
    let r := itsDns a a.dnsStr c.table
    match r.1 with
    | some ip => (true, { c with table := r.2, serverIp := sysStr2ip ip })
    | none => (false, { c with table := r.2 })
  else (false, c)

/-- `if (g_sockfd_client > 0) { close(g_sockfd_client); g_sockfd_client = -1; }`. -/
def Globals.release (c : Globals) : Globals :=
  if c.sockfd > 0 then { c with table := closed c.table c.sockfd, sockfd := -1 } else c

/-- The label `err`. -/
def err (c : Globals) : Bool × Globals := (false, { c with flag := reconnectOn }.release)

/-- `client_connect_server`; `true` is `SUCCESS`. -/
def clientConnectServer (a : Attempt) (c : Globals) : Bool × Globals :=
  let c := { c with table := result c.table a.socket .client, sockfd := a.socket }
  if c.sockfd < 0 then (false, c)
  else
    let r := dnsResolution a c
    if r.1 = false then (false, r.2)
    else if a.setFl < 0 then err r.2
    else if a.connect = -1 ∧ a.inProgress = false then err r.2
    else if a.poll = 0 then err r.2
    else if a.poll = -1 then err r.2
    else if a.hungUp then err r.2
    else if a.getsockopt = -1 ∨ a.error ≠ 0 then err r.2
    else (true, r.2)

/-! ## The thread -/

/-- Where the thread is. -/
inductive Place where
  /-- `client_reconnect` has not been called yet. -/
  | before
  /-- At the top of its loop. -/
  | retrying
  /-- The last call has returned. -/
  | returned
  deriving DecidableEq

structure Thread where
  client : Globals
  place : Place

/-- What happens next. -/
inductive Act where
  /-- `client_process` calls `client_reconnect`. -/
  | reconnect
  /-- The next turn of its loop. -/
  | attempt (a : Attempt)

/-- One step: `client_reconnect` up to its loop, or one turn of the loop. -/
def step (s : Thread) : Act → Thread
  | .reconnect =>
      if s.place = .retrying then s else { client := s.client.release, place := .retrying }
  | .attempt a =>
      if s.place = .retrying then
        let r := clientConnectServer a s.client
        if r.1 then { client := r.2, place := .returned }
        else { client := r.2.release, place := .retrying }
      else s

/-- The thread when it starts; the rest of the process has the descriptors `others` open. -/
def start (others : Int → Bool) (flag : Nat) (serverIp : UInt32) : Thread where
  client :=
    { table := fun fd => if others fd then some .other else none
      sockfd := -1
      flag := flag
      serverIp := serverIp }
  place := .before

/-! ## One attempt -/

/-- The address that `dns_resolution` stores; `none` is `DNS_FAILED`. -/
def resolved (a : Attempt) : Option UInt32 :=
  if ipCheck a.dnsStr = 1 then some (sysStr2ip a.hostText)
  else if a.dnsStr ≠ [] then
    (Dns.Resolve.itsDns a.stack a.server a.dnsStr).map sysStr2ip
  else none

/-- A name server is asked. -/
def Asks (a : Attempt) : Prop := ipCheck a.dnsStr ≠ 1 ∧ a.dnsStr ≠ []

instance (a : Attempt) : Decidable (Asks a) := inferInstanceAs (Decidable (_ ∧ _))

/-- The table after `dns_resolution`. -/
def afterDns (a : Attempt) (t : Table Kind) : Table Kind :=
  if Asks a then closed (result t a.querySocket .query) a.querySocket else t

/-- The calls behind `dns_resolution` bring the connection about. -/
def Connects (a : Attempt) : Prop :=
  0 ≤ a.setFl ∧ (a.connect ≠ -1 ∨ a.inProgress = true) ∧ a.poll ≠ 0 ∧ a.poll ≠ -1 ∧
    a.hungUp = false ∧ a.getsockopt ≠ -1 ∧ a.error = 0

instance (a : Attempt) : Decidable (Connects a) := inferInstanceAs (Decidable (_ ∧ _))

/-- `dns_resolution` by its outcome. -/
theorem dnsResolution_eq (a : Attempt) (c : Globals) :
    dnsResolution a c =
      match resolved a with
      | some ip => (true, { c with table := afterDns a c.table, serverIp := ip })
      | none => (false, { c with table := afterDns a c.table }) := by
  unfold dnsResolution resolved afterDns
  by_cases hip : ipCheck a.dnsStr = 1
  · have hasks : ¬Asks a := fun h => h.1 hip
    simp only [if_pos hip, if_neg hasks]
  · by_cases hname : a.dnsStr ≠ []
    · have htable : (itsDns a a.dnsStr c.table).2 =
          closed (result c.table a.querySocket .query) a.querySocket := rfl
      have htext : (itsDns a a.dnsStr c.table).1 = Dns.Resolve.itsDns a.stack a.server a.dnsStr :=
        rfl
      have hasks : Asks a := ⟨hip, hname⟩
      simp only [if_neg hip, if_pos hname, if_pos hasks, htable, htext]
      cases Dns.Resolve.itsDns a.stack a.server a.dnsStr <;> rfl
    · have hasks : ¬Asks a := fun h => hname h.2
      simp only [if_neg hip, if_neg hname, if_neg hasks]

/-- The exits behind `dns_resolution`: all but the last go through the error label. -/
theorem exits_eq (a : Attempt) (c : Globals) :
    (if a.setFl < 0 then err c
      else if a.connect = -1 ∧ a.inProgress = false then err c
      else if a.poll = 0 then err c
      else if a.poll = -1 then err c
      else if a.hungUp then err c
      else if a.getsockopt = -1 ∨ a.error ≠ 0 then err c
      else (true, c)) = if Connects a then (true, c) else err c := by
  by_cases h : Connects a
  · rw [if_pos h]
    obtain ⟨hfl, hconnect, h0, h1, hhup, hopt, herror⟩ := h
    have hfl' : ¬a.setFl < 0 := by omega
    have hconnect' : ¬(a.connect = -1 ∧ a.inProgress = false) := by grind
    have hhup' : ¬a.hungUp = true := by rw [hhup]; decide
    have hopt' : ¬(a.getsockopt = -1 ∨ a.error ≠ 0) := by omega
    rw [if_neg hfl', if_neg hconnect', if_neg h0, if_neg h1, if_neg hhup', if_neg hopt']
  · rw [if_neg h]
    unfold Connects at h
    grind

/-- The ways in which an attempt can end. -/
theorem clientConnectServer_eq (a : Attempt) (c : Globals) :
    clientConnectServer a c =
      if a.socket < 0 then (false, { c with sockfd := a.socket })
      else
        let t := afterDns a (opened c.table a.socket .client)
        match resolved a with
        | none => (false, { c with table := t, sockfd := a.socket })
        | some ip =>
            let c := { c with table := t, sockfd := a.socket, serverIp := ip }
            if Connects a then (true, c) else err c := by
  unfold clientConnectServer
  by_cases hsocket : a.socket < 0
  · simp only [hsocket, if_true, result_failed]
  · have hopened : result c.table a.socket .client = opened c.table a.socket .client :=
      result_opened c.table .client (Int.not_lt.mp hsocket)
    simp only [hsocket, if_false, hopened, dnsResolution_eq, exits_eq]
    cases resolved a <;> simp

/-! ## The sockets -/

/-- A call returns -1 or a positive descriptor that is not in use. -/
def Gives (t : Table Kind) (r : Int) : Prop := r = -1 ∨ (0 < r ∧ t r = none)

instance (t : Table Kind) (r : Int) : Decidable (Gives t r) :=
  inferInstanceAs (Decidable (_ ∨ _))

/-- What the kernel promises for the sockets of a step. -/
def Promised (s : Thread) : Act → Prop
  | .reconnect => True
  | .attempt a =>
      s.place = .retrying → Gives s.client.table a.socket ∧
        Gives (result s.client.table a.socket .client) a.querySocket

instance (s : Thread) (x : Act) : Decidable (Promised s x) :=
  match x with
  | .reconnect => inferInstanceAs (Decidable True)
  | .attempt _ => inferInstanceAs (Decidable (_ → _))

/-- The sockets of the client, by the place of the thread: none at the top of the loop, and
`g_sockfd_client` alone behind it. -/
def Owned (c : Globals) : Place → Prop
  | .before => c.sockfd = -1 ∧ NoneOf c.table .client
  | .retrying => NoneOf c.table .client
  | .returned => 0 < c.sockfd ∧ OnlyOf c.table .client c.sockfd

/-- No socket is lost: every query has closed its own, and the client has what it should. -/
structure Tight (s : Thread) : Prop where
  queries : NoneOf s.client.table .query
  client : Owned s.client s.place

variable {a : Attempt} {c : Globals} {t : Table Kind}

private theorem release_closed (h : c.sockfd ≤ 0) : c.release = c := if_neg (by omega)

private theorem release_open (h : 0 < c.sockfd) :
    c.release = { c with table := closed c.table c.sockfd, sockfd := -1 } := if_pos h

private theorem release_sockfd (c : Globals) : c.release.sockfd ≤ 0 := by
  by_cases hopen : 0 < c.sockfd
  · rw [release_open hopen]
    exact Int.le_of_lt (Int.negSucc_lt_zero 0)
  · rw [release_closed (by omega)]
    omega

/-- Releasing the only socket of the client leaves none. -/
theorem release_only (h : 0 < c.sockfd) (honly : OnlyOf c.table .client c.sockfd) :
    NoneOf c.release.table .client := by
  rw [release_open h]
  exact honly.closed

private theorem release_query (h : NoneOf c.table .query) : NoneOf c.release.table .query := by
  by_cases hopen : 0 < c.sockfd
  · rw [release_open hopen]
    exact h.closed c.sockfd
  · rw [release_closed (by omega)]
    exact h

/-- A query closes the only socket that it has opened. -/
theorem afterDns_query (h : NoneOf t .query) : NoneOf (afterDns a t) .query := by
  unfold afterDns
  by_cases hasks : Asks a
  · rw [if_pos hasks]
    by_cases hr : a.querySocket < 0
    · rw [result_failed t .query hr]
      exact h.closed a.querySocket
    · rw [result_opened t .query (Int.not_lt.mp hr)]
      exact (h.opened a.querySocket).closed
  · rw [if_neg hasks]
    exact h

/-- A query leaves the socket of the client alone. -/
theorem afterDns_client {fd : Int} (h : OnlyOf t .client fd) (hne : fd ≠ a.querySocket) :
    OnlyOf (afterDns a t) .client fd := by
  unfold afterDns
  by_cases hasks : Asks a
  · rw [if_pos hasks]
    exact (h.result_other hne (by decide)).closed_other hne
  · rw [if_neg hasks]
    exact h

/-- The socket that an attempt has opened is no socket of its query. -/
theorem socket_ne_query (hsocket : 0 < a.socket)
    (hquery : Gives (result t a.socket .client) a.querySocket) : a.socket ≠ a.querySocket := by
  rw [result_opened t .client (Int.le_of_lt hsocket)] at hquery
  rcases hquery with hfailed | ⟨-, hfree⟩
  · omega
  · exact ne_of_fresh hfree (opened_self t a.socket .client)

/-- The outcome `r` of an attempt: on success the client has its socket and no other, and on
failure it has none once the caller has released what was left to it. -/
structure Settles (r : Bool × Globals) : Prop where
  queries : NoneOf r.2.table .query
  success : r.1 = true → 0 < r.2.sockfd ∧ OnlyOf r.2.table .client r.2.sockfd
  failure : r.1 = false → NoneOf r.2.release.table .client

/-- An attempt that fails with its socket still open. -/
theorem Settles.left (hquery : NoneOf c.table .query) (hpos : 0 < c.sockfd)
    (honly : OnlyOf c.table .client c.sockfd) : Settles (false, c) :=
  ⟨hquery, nofun, fun _ => release_only hpos honly⟩

/-- An attempt that fails through the error label. -/
theorem Settles.err (hquery : NoneOf c.table .query) (hpos : 0 < c.sockfd)
    (honly : OnlyOf c.table .client c.sockfd) : Settles (err c) := by
  refine ⟨release_query hquery, nofun, fun _ => ?_⟩
  have hclosed : NoneOf { c with flag := reconnectOn }.release.table .client :=
    release_only hpos honly
  show NoneOf { c with flag := reconnectOn }.release.release.table .client
  rw [release_closed (release_sockfd _)]
  exact hclosed

/-- Every exit of an attempt that began without a socket. -/
theorem clientConnectServer_settles (hclient : NoneOf c.table .client)
    (hqueries : NoneOf c.table .query) (hsocket : Gives c.table a.socket)
    (hquery : Gives (result c.table a.socket .client) a.querySocket) :
    Settles (clientConnectServer a c) := by
  rw [clientConnectServer_eq]
  rcases hsocket with hfailed | ⟨hpos, hfree⟩
  · have hneg : a.socket < 0 := by omega
    rw [if_pos hneg]
    refine ⟨hqueries, nofun, fun _ => ?_⟩
    have hnone : ({ c with sockfd := a.socket } : Globals).sockfd ≤ 0 := Int.le_of_lt hneg
    rw [release_closed hnone]
    exact hclient
  · have hneg : ¬a.socket < 0 := by omega
    rw [if_neg hneg]
    have honly : OnlyOf (afterDns a (opened c.table a.socket .client)) .client a.socket :=
      afterDns_client (hclient.opened a.socket) (socket_ne_query hpos hquery)
    have hnone : NoneOf (afterDns a (opened c.table a.socket .client)) .query :=
      afterDns_query (hqueries.opened_other a.socket (by decide))
    cases resolved a with
    | none => exact .left hnone hpos honly
    | some ip =>
        dsimp only
        by_cases hconnects : Connects a
        · rw [if_pos hconnects]
          exact ⟨hnone, fun _ => ⟨hpos, honly⟩, nofun⟩
        · rw [if_neg hconnects]
          exact .err hnone hpos honly

/-! ## Runs -/

/-- `client_reconnect` closes the socket of the last call before its loop. -/
theorem tight_reconnect {s : Thread} (h : Tight s) : Tight (step s .reconnect) := by
  rw [step]
  by_cases hplace : s.place = .retrying
  · rw [if_pos hplace]
    exact h
  · rw [if_neg hplace]
    refine ⟨release_query h.queries, ?_⟩
    have howned := h.client
    show NoneOf s.client.release.table .client
    cases hp : s.place with
    | before =>
        rw [hp] at howned
        rw [release_closed (by rw [howned.1]; decide)]
        exact howned.2
    | retrying => exact absurd hp hplace
    | returned =>
        rw [hp] at howned
        exact release_only howned.1 howned.2

/-- One turn of the loop. -/
theorem tight_attempt {s : Thread} (h : Tight s) (hkernel : Promised s (.attempt a)) :
    Tight (step s (.attempt a)) := by
  rw [step]
  by_cases hplace : s.place = .retrying
  · rw [if_pos hplace]
    have howned := h.client
    rw [hplace] at howned
    obtain ⟨hsocket, hquery⟩ := hkernel hplace
    have hsettles := clientConnectServer_settles howned h.queries hsocket hquery
    dsimp only
    by_cases hok : (clientConnectServer a s.client).1 = true
    · rw [if_pos hok]
      exact ⟨hsettles.queries, hsettles.success hok⟩
    · rw [if_neg hok]
      exact ⟨release_query hsettles.queries, hsettles.failure (Bool.eq_false_iff.mpr hok)⟩
  · rw [if_neg hplace]
    exact h

private theorem tight_step (s : Thread) (x : Act) (h : Tight s) (hkernel : Promised s x) :
    Tight (step s x) := by
  cases x with
  | reconnect => exact tight_reconnect h
  | attempt a => exact tight_attempt h hkernel

private theorem tight_start (others : Int → Bool) (flag : Nat) (serverIp : UInt32) :
    Tight (start others flag serverIp) := by
  have hnone : ∀ k, k ≠ .other → NoneOf (start others flag serverIp).client.table k := by
    intro k hk fd heq
    by_cases ho : others fd = true
    · exact hk (Option.some.inj ((if_pos ho).symm.trans heq)).symm
    · cases (if_neg ho).symm.trans heq
  exact ⟨hnone .query (by decide), rfl, hnone .client (by decide)⟩

/-- After every run of the thread, at whatever place it leaves it, no socket is lost. -/
theorem exec_tight (others : Int → Bool) (flag : Nat) (serverIp : UInt32) {xs : List Act}
    (hkernel : StepsSatisfy step Promised (start others flag serverIp) xs) :
    Tight (exec step (start others flag serverIp) xs) :=
  exec_under tight_step (tight_start others flag serverIp) hkernel

/-- An attempt on which nothing fails but what is said; it does not ask a name server. -/
def someAttempt (socket : Int) (dnsStr : List UInt8) (poll : Int) : Attempt where
  socket := socket
  dnsStr := dnsStr
  hostText := dnsStr
  stack := ⟨zero, zero, zero⟩
  querySocket := -1
  server := fun _ => .nothing
  setFl := 0
  connect := -1
  inProgress := true
  poll := poll
  hungUp := false
  getsockopt := 0
  error := 0

/-- `1.2.3.4` -/
def someAddress : List UInt8 := Daemon.Config.chars ['1', '.', '2', '.', '3', '.', '4']

/-- The name is missing, `socket` fails, the connection times out, and then it comes about. -/
def someRun : List Act :=
  [.reconnect, .attempt (someAttempt 5 [] 1), .attempt (someAttempt (-1) someAddress 1),
    .attempt (someAttempt 5 someAddress 0), .attempt (someAttempt 6 someAddress 1)]

theorem exec_tight_someRun :
    StepsSatisfy step Promised (start (fun fd => fd == 3) reconnectOn 0) someRun ∧
      (exec step (start (fun fd => fd == 3) reconnectOn 0) someRun).place = .returned ∧
      Tight (exec step (start (fun fd => fd == 3) reconnectOn 0) someRun) := by
  have hkernel : StepsSatisfy step Promised (start (fun fd => fd == 3) reconnectOn 0) someRun := by
    decide
  exact ⟨hkernel, by decide, exec_tight (fun fd => fd == 3) reconnectOn 0 hkernel⟩

/-! ## The loop of `client_process` -/

/-- The round in which the loop of `client_process` makes the attempt. -/
def Attempt.round (a : Attempt) : Round where
  resolved := if a.socket < 0 then none else resolved a
  connects := decide (Connects a)
  packet := none

/-- The steps of the loop for one attempt: the second is taken if there is an address. -/
def tries (s : Loop) (a : Attempt) : Loop :=
  if a.round.resolved = none then advance s a.round else advance (advance s a.round) a.round

private theorem release_flag (c : Globals) : c.release.flag = c.flag := by
  unfold Globals.release
  split <;> rfl

private theorem advance_unresolved {s : Loop} {x : Round} (hpc : s.pc = .dial)
    (hx : x.resolved = none) : advance s x = s := by
  simp only [advance, hpc, hx]

private theorem advance_resolved {s : Loop} {x : Round} {ip : UInt32} (hpc : s.pc = .dial)
    (hx : x.resolved = some ip) : advance s x = s.goto { s.recv.dev with
      conf := Daemon.Config.store32 s.recv.dev.conf Daemon.Layout.serverOff ip } .answer := by
  simp only [advance, hpc, hx]

/-- An attempt is what the loop of `client_process` takes it for. -/
theorem attempt_follows {s : Loop} (a : Attempt) (c : Globals) (hpc : s.pc = .dial)
    (hflag : s.flag = c.flag) :
    (tries s a).pc = (if (clientConnectServer a c).1 then .assignOff else .dial) ∧
      (tries s a).flag = (clientConnectServer a c).2.flag := by
  rw [clientConnectServer_eq]
  by_cases hsocket : a.socket < 0
  · have hround : a.round.resolved = none := if_pos hsocket
    rw [if_pos hsocket, tries, if_pos hround, advance_unresolved hpc hround]
    exact ⟨hpc, hflag⟩
  · have hround : a.round.resolved = resolved a := if_neg hsocket
    rw [if_neg hsocket]
    cases hr : resolved a with
    | none =>
        rw [hr] at hround
        rw [tries, if_pos hround, advance_unresolved hpc hround]
        exact ⟨hpc, hflag⟩
    | some ip =>
        rw [hr] at hround
        have hgoes : ¬a.round.resolved = none := by rw [hround]; nofun
        rw [tries, if_neg hgoes, advance_resolved hpc hround]
        by_cases hconnects : Connects a
        · have hthen : a.round.connects = true := decide_eq_true hconnects
          simp only [hconnects, if_true, advance, Loop.goto, hthen]
          exact ⟨trivial, hflag⟩
        · have hthen : a.round.connects = false := decide_eq_false hconnects
          simp only [hconnects, if_false, advance, Loop.goto, hthen, err, release_flag]
          exact ⟨rfl, rfl⟩

end Itertk.Client.ConnectServer
