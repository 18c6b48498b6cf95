import Itertk.Boa.Receive

/-!
# What a program learns about a request

The environment of a program is a list of strings `NAME=value`, and `getenv` finds the first
with the name.  The server puts its own variables in front, then one for each line of the
header that it does not know, and last what it knows about the request.  A client chooses the
names of its lines, but each of them gets `HTTP_` in front.

## Main results

* `honest_serve` — a call of a handler keeps what is known of the environment.
* `getenv_started` — whatever a client sends, a variable that does not begin with `HTTP_` has
  the value that the server gives it.
-/

namespace Itertk.Boa.Environ

open List (Sublist)
open Itertk.Base.Run
open Itertk.Base.Feed
open Itertk.Daemon.Config
open Itertk.Discovery.Report
open Itertk.Boa.Translate
open Itertk.Boa.Get
open Itertk.Boa.Lines
open Itertk.Boa.Receive

/-! ## `getenv` -/

/-- `getenv`. -/
def getenv (env : List (List UInt8)) (key : List UInt8) : Option (List UInt8) :=
  (env.find? fun s => (envGen key []).isPrefixOf s).map fun s => s.drop (key.length + 1)

/-- The value that comes first for a name. -/
def lookup (vars : List (List UInt8 × List UInt8)) (key : List UInt8) : Option (List UInt8) :=
  (vars.find? fun v => v.1 = key).map Prod.snd

/-- A variable is found by its name. -/
theorem isPrefixOf_envGen {key name : List UInt8} (hkey : 61 ∉ key) (hname : 61 ∉ name)
    (value : List UInt8) :
    (envGen key []).isPrefixOf (envGen name value) = decide (name = key) := by
  induction key generalizing name with
  | nil =>
      cases name with
      | nil => rfl
      | cons b name =>
          have hb : ¬(61 : UInt8) = b := fun h => hname (h ▸ List.mem_cons_self)
          simp [envGen, List.isPrefixOf, hb]
  | cons a key ih =>
      have ha : ¬a = 61 := fun h => hkey (h ▸ List.mem_cons_self)
      cases name with
      | nil => simp [envGen, List.isPrefixOf, ha]
      | cons b name =>
          have hrest := ih (fun h => hkey (List.mem_cons_of_mem a h))
            (fun h => hname (List.mem_cons_of_mem b h))
          simp only [envGen] at hrest ⊢
          simp only [List.cons_append, List.isPrefixOf, hrest, List.cons.injEq]
          by_cases hab : a = b
          · simp [hab]
          · simp [hab, Ne.symm hab]

private theorem getenv_append (env rest : List (List UInt8)) (key : List UInt8) :
    getenv (env ++ rest) key = (getenv env key).or (getenv rest key) := by
  rw [getenv, getenv, getenv, List.find?_append, Option.map_or]

/-- Variables that were made by `env_gen`. -/
theorem getenv_envGen {vars : List (List UInt8 × List UInt8)} (hvars : ∀ v ∈ vars, 61 ∉ v.1)
    {key : List UInt8} (hkey : 61 ∉ key) :
    getenv (vars.map fun v => envGen v.1 v.2) key = lookup vars key := by
  induction vars with
  | nil => rfl
  | cons v vars ih =>
      have hv := isPrefixOf_envGen hkey (hvars v List.mem_cons_self) v.2
      have hrest := ih fun w hw => hvars w (List.mem_cons_of_mem v hw)
      rw [getenv, lookup] at hrest ⊢
      rw [List.map_cons]
      by_cases heq : v.1 = key
      · have hdrop : (envGen key v.2).drop (key.length + 1) = v.2 := by
          rw [envGen, ← List.singleton_append, ← List.append_assoc]
          exact List.drop_left' (by rw [List.length_append]; rfl)
        rw [List.find?_cons_of_pos (by rw [hv]; exact decide_eq_true heq),
          List.find?_cons_of_pos (by simpa using heq), Option.map_some, Option.map_some, heq, hdrop]
      · rw [List.find?_cons_of_neg (by rw [hv]; simpa using heq),
          List.find?_cons_of_neg (by simpa using heq), hrest]

/-- A variable of a line of the header is not found by a name of another kind. -/
theorem getenv_headers {env : List (List UInt8)} (h : ∀ s ∈ env, httpStart <+: s)
    {key : List UInt8} (hkey : ¬httpStart <+: key) : getenv env key = none := by
  rw [getenv, Option.map_eq_none_iff, List.find?_eq_none]
  intro s hs hfound
  have hshort : (envGen key []).length ≤ httpStart.length ∨
      httpStart.length ≤ key.length := by
    rw [envGen, List.length_append, List.length_singleton]
    omega
  have hvar := List.isPrefixOf_iff_prefix.mp hfound
  rcases hshort with hle | hle
  · -- The `=` would have to be in `HTTP_`.
    have hin := List.prefix_of_prefix_length_le hvar (h s hs) hle
    have hmem : (61 : UInt8) ∈ httpStart :=
      hin.subset (List.mem_append_right key List.mem_cons_self)
    exact absurd hmem (by decide)
  · have hkeyin : key <+: s := (List.prefix_append key [61]).trans hvar
    exact hkey (List.prefix_of_prefix_length_le (h s hs) hkeyin hle)

/-! ## The variables of the server -/

/-- What of `boa.conf` the programs see. -/
structure Identity where
  /-- `cgi_path`, or `DEFAULT_PATH`. -/
  cgiPath : List UInt8
  serverName : List UInt8
  serverPort : Nat
  serverAdmin : List UInt8

def pathName : List UInt8 := chars ['P', 'A', 'T', 'H']

def serverSoftwareName : List UInt8 :=
  chars ['S', 'E', 'R', 'V', 'E', 'R', '_', 'S', 'O', 'F', 'T', 'W', 'A', 'R', 'E']

/-- `SERVER_VERSION`. -/
def serverVersion : List UInt8 := chars ['B', 'o', 'a', '/', '0', '.', '9', '4', '.', '1', '3']

def serverNameName : List UInt8 :=
  chars ['S', 'E', 'R', 'V', 'E', 'R', '_', 'N', 'A', 'M', 'E']

def gatewayInterfaceName : List UInt8 :=
  chars ['G', 'A', 'T', 'E', 'W', 'A', 'Y', '_', 'I', 'N', 'T', 'E', 'R', 'F', 'A', 'C', 'E']

/-- `CGI_VERSION`. -/
def cgiVersion : List UInt8 := chars ['C', 'G', 'I', '/', '1', '.', '1']

def serverPortName : List UInt8 :=
  chars ['S', 'E', 'R', 'V', 'E', 'R', '_', 'P', 'O', 'R', 'T']

def serverAdminName : List UInt8 :=
  chars ['S', 'E', 'R', 'V', 'E', 'R', '_', 'A', 'D', 'M', 'I', 'N']

/-- The variables of `create_common_env`. -/
def commonVariables (id : Identity) : List (List UInt8 × List UInt8) :=
  [(pathName, id.cgiPath), (serverSoftwareName, serverVersion), (serverNameName, id.serverName),
    (gatewayInterfaceName, cgiVersion), (serverPortName, decimal id.serverPort),
    (serverAdminName, id.serverAdmin)]

/-- `create_common_env`. -/
def createCommonEnv (id : Identity) : List (List UInt8) :=
  (commonVariables id).map fun v => envGen v.1 v.2

/-- The names of these variables. -/
def commonNames : List (List UInt8) :=
  [pathName, serverSoftwareName, serverNameName, gatewayInterfaceName, serverPortName,
    serverAdminName]

/-- The names that `complete_env` can add. -/
def requestNames : List (List UInt8) :=
  [requestMethodName, serverAddrName, serverProtocolName, requestUriName] ++ [pathInfoName] ++
    [pathTranslatedName] ++ [scriptNameName] ++ [queryStringName] ++
    [remoteAddrName, remotePortName] ++ [contentTypeName, contentLengthName]

private theorem optional_names (key : List UInt8) (value : Option (List UInt8)) :
    Sublist ((optional key value).map Prod.fst) [key] := by
  cases value with
  | none => exact List.nil_sublist _
  | some v => exact Sublist.refl _

/-- A request has a variable of a name at most once, and the names in this order. -/
theorem requestVariables_names (srv : Server) (req : Request) (t : Target) :
    Sublist ((requestVariables srv req t).map Prod.fst) requestNames := by
  have hpost : Sublist ((if req.method = .post then
      (contentTypeName, req.contentType.getD srv.defaultType) ::
        optional contentLengthName req.contentLength
      else []).map Prod.fst) [contentTypeName, contentLengthName] := by
    split
    · exact (optional_names _ _).cons_cons _
    · exact List.nil_sublist _
  simp only [requestVariables, requestNames, List.map_append]
  exact ((((((Sublist.refl _).append (optional_names _ _)).append
    (optional_names _ _)).append (Sublist.refl _)).append
    (optional_names _ _)).append (Sublist.refl _)).append hpost

/-- No name is used twice. -/
theorem nodup_names : (commonNames ++ requestNames).Nodup := by decide

theorem names_plain : ∀ k ∈ commonNames ++ requestNames, 61 ∉ k ∧ ¬httpStart <+: k := by
  decide

/-! ## The variables of a started program -/

/-- Everything that the server knows of a request. -/
def allVariables (id : Identity) (srv : Server) (req : Request) (t : Target) :
    List (List UInt8 × List UInt8) := commonVariables id ++ requestVariables srv req t

theorem allVariables_names (id : Identity) (srv : Server) (req : Request) (t : Target) :
    Sublist ((allVariables id srv req t).map Prod.fst) (commonNames ++ requestNames) := by
  rw [allVariables, List.map_append]
  exact (Sublist.refl commonNames).append (requestVariables_names srv req t)

private theorem lookup_append (vars rest : List (List UInt8 × List UInt8)) (key : List UInt8) :
    lookup (vars ++ rest) key = (lookup vars key).or (lookup rest key) := by
  rw [lookup, lookup, lookup, List.find?_append, Option.map_or]

/-- The value of a name that occurs once. -/
theorem lookup_of_mem {vars : List (List UInt8 × List UInt8)} (hnodup : (vars.map Prod.fst).Nodup)
    {key value : List UInt8} (h : (key, value) ∈ vars) : lookup vars key = some value := by
  induction vars with
  | nil => exact absurd h List.not_mem_nil
  | cons v vars ih =>
      rw [List.map_cons, List.nodup_cons] at hnodup
      rcases List.mem_cons.mp h with rfl | hmem
      · rw [lookup, List.find?_cons_of_pos (by simp)]
        rfl
      · have hne : v.1 ≠ key := fun heq =>
          hnodup.1 (heq ▸ List.mem_map_of_mem (f := Prod.fst) hmem)
        rw [lookup, List.find?_cons_of_neg (by simpa using hne), ← lookup]
        exact ih hnodup.2 hmem

/-- The environment of a program: between what the server knows stand the lines of the
client. -/
theorem getenv_variables (id : Identity) (srv : Server) (req : Request) (t : Target)
    {headers : List (List UInt8)} (hheaders : ∀ s ∈ headers, httpStart <+: s) {key : List UInt8}
    (hkey : 61 ∉ key) (hplain : ¬httpStart <+: key) :
    getenv (createCommonEnv id ++
        (headers ++ (requestVariables srv req t).map fun v => envGen v.1 v.2)) key =
      lookup (allVariables id srv req t) key := by
  have hnames : ∀ v ∈ allVariables id srv req t, 61 ∉ v.1 := fun v hv =>
    (names_plain v.1 ((allVariables_names id srv req t).subset (List.mem_map_of_mem hv))).1
  rw [getenv_append, getenv_append, getenv_headers hheaders hplain, Option.none_or, createCommonEnv,
    getenv_envGen (fun v hv => hnames v (List.mem_append_left _ hv)) hkey,
    getenv_envGen (fun v hv => hnames v (List.mem_append_right _ hv)) hkey, allVariables,
    lookup_append]

/-! ## Requests -/

/-- A request for which nothing was started: what the client's lines have added to its
environment begins with `HTTP_`. -/
structure Idle (req : Request) : Prop where
  headers : ∀ s ∈ req.cgiEnv, httpStart <+: s
  child : req.child = none

/-- The environment of a program that is started for a target. -/
def environment (srv : Server) (req : Request) (t : Target) : List (List UInt8) :=
  if t.isCgi.isSome then
    srv.commonEnv ++ (req.cgiEnv ++ (requestVariables srv req t).map fun v => envGen v.1 v.2)
  else []

/-- A program that was started was started for the target of its request. -/
structure Honest (srv : Server) (req : Request) : Prop where
  headers : ∀ s ∈ req.cgiEnv, httpStart <+: s
  started : ∀ c, req.child = some c → req.status = .pipeRead ∧
    ∃ t, req.target = some t ∧ c.pathname = t.pathname ∧ c.env = environment srv req t

variable {srv : Server} {res : Resources} {req : Request}

private theorem Idle.honest (h : Idle req) : Honest srv req where
  headers := h.headers
  started c hc := by
    rw [h.child] at hc
    cases hc

private theorem Idle.of_eq (h : Idle req) {req' : Request} (henv : req'.cgiEnv = req.cgiEnv)
    (hchild : req'.child = req.child) : Idle req' where
  headers := henv ▸ h.headers
  child := hchild.trans h.child

private theorem Idle.honest_of_eq (h : Idle req) {req' : Request} (henv : req'.cgiEnv = req.cgiEnv)
    (hchild : req'.child = req.child) : Honest srv req' := (h.of_eq henv hchild).honest

/-- `complete_env` puts its variables behind those of the header. -/
theorem foldlM_addCgiEnv {vars : List (List UInt8 × List UInt8)} {env env' : List (List UInt8)}
    (h : vars.foldlM (fun env v => addCgiEnv env v.1 v.2) env = some env') :
    env' = env ++ vars.map fun v => envGen v.1 v.2 := by
  induction vars generalizing env with
  | nil =>
      cases h
      exact (List.append_nil _).symm
  | cons v vars ih =>
      rw [List.foldlM_cons, addCgiEnv] at h
      split at h
      · rw [ih h, List.map_cons, List.append_assoc, List.singleton_append]
      · cases h

/-- There is room for all of them. -/
theorem foldlM_addCgiEnv_room (vars : List (List UInt8 × List UInt8)) (env : List (List UInt8))
    (h : commonCgiCount + env.length + vars.length ≤ cgiEnvMax) :
    vars.foldlM (fun env v => addCgiEnv env v.1 v.2) env =
      some (env ++ vars.map fun v => envGen v.1 v.2) := by
  induction vars generalizing env with
  | nil => rw [List.map_nil, List.append_nil]; rfl
  | cons v vars ih =>
      rw [List.length_cons] at h
      have hroom : commonCgiCount + env.length < cgiEnvMax := by omega
      have hrest := ih (env ++ [envGen v.1 v.2]) (by
        rw [List.length_append, List.length_singleton]
        omega)
      rw [List.foldlM_cons, addCgiEnv, if_pos hroom]
      simp only [Option.bind_eq_bind, Option.bind_some, hrest, List.map_cons, List.append_assoc,
        List.singleton_append]

private theorem completeEnv_eq {t : Target} {env : List (List UInt8)}
    (h : completeEnv srv req t = some env) :
    env = srv.commonEnv ++
      (req.cgiEnv ++ (requestVariables srv req t).map fun v => envGen v.1 v.2) := by
  obtain ⟨own, hown, rfl⟩ := Option.map_eq_some_iff.mp h
  rw [foldlM_addCgiEnv hown]

private theorem honest_initCgi (h : Idle req) : Honest srv (initCgi srv res req).2 := by
  unfold initCgi
  dsimp only
  split
  · exact h.honest_of_eq rfl rfl
  · rename_i t htarget
    split
    · exact h.honest_of_eq rfl rfl
    · rename_i env henv
      by_cases hpipe : res.pipe = false
      · rw [if_pos hpipe]
        exact h.honest_of_eq rfl rfl
      · rw [if_neg hpipe]
        by_cases hfork : res.fork = false
        · rw [if_pos hfork]
          exact h.honest_of_eq rfl rfl
        · rw [if_neg hfork]
          refine ⟨h.headers, fun c hc => ?_⟩
          obtain rfl := Option.some.inj hc
          refine ⟨rfl, t, htarget, rfl, ?_⟩
          unfold environment
          by_cases hcgi : t.isCgi.isSome = true
          · rw [if_pos hcgi] at henv ⊢
            exact completeEnv_eq henv
          · rw [if_neg hcgi] at henv ⊢
            exact (Option.some.inj henv).symm

private theorem method_initCgi : (initCgi srv res req).2.method = req.method := by
  unfold initCgi
  dsimp only
  split
  · rfl
  · split
    · rfl
    · split_ifs <;> rfl

/-- The end of the header starts a program only for a request without a body. -/
theorem honest_processHeaderEnd (h : Idle req) :
    Honest srv (processHeaderEnd srv res req).2 ∧
      ((processHeaderEnd srv res req).2.method = .post →
        (processHeaderEnd srv res req).2.child = none) := by
  have hidle {req' : Request} (henv : req'.cgiEnv = req.cgiEnv) (hchild : req'.child = req.child) :
      Honest srv req' ∧ (req'.method = .post → req'.child = none) :=
    ⟨(h.of_eq henv hchild).honest, fun _ => (h.of_eq henv hchild).child⟩
  unfold processHeaderEnd
  split
  · exact hidle rfl rfl
  · split
    · exact hidle rfl rfl
    · dsimp only
      split
      · exact hidle rfl rfl
      · split
        · exact hidle rfl rfl
        · split
          · split
            · exact hidle rfl rfl
            · exact hidle rfl rfl
          · rename_i hmethod
            split
            · refine ⟨honest_initCgi (h.of_eq rfl rfl), fun hpost => ?_⟩
              rw [method_initCgi] at hpost
              exact absurd hpost hmethod
            · split
              · exact hidle rfl rfl
              · exact hidle rfl rfl

/-! ## Lines -/

private theorem idle_addHeader (h : Idle req) (key value : List UInt8) :
    Idle (addHeader req key value).2 := by
  unfold addHeader
  split
  · exact h
  · rename_i env henv
    refine ⟨fun s hs => ?_, h.child⟩
    unfold addCgiEnv at henv
    split at henv
    · obtain rfl := Option.some.inj henv
      rcases List.mem_append.mp hs with hs | hs
      · exact h.headers s hs
      · rw [List.mem_singleton.mp hs, envGen, List.append_assoc]
        exact List.prefix_append httpStart _
    · cases henv

private theorem idle_processOptionLine (h : Idle req) (cfg : Config) (line : List UInt8) :
    Idle (processOptionLine cfg req line).2 := by
  have hadd (req' : Request) (key value : List UInt8) (h : Idle req') :
      Idle (addHeader req' key value).2 := idle_addHeader h key value
  unfold processOptionLine
  split
  · exact h
  · unfold processOption
    split_ifs <;> first | exact h.of_eq rfl rfl | exact hadd _ _ _ (h.of_eq rfl rfl)

private theorem idle_processLogline (h : Idle req) (line : List UInt8) :
    Idle (processLogline req line).2 := by
  have hnone {req' : Request} (henv : req'.cgiEnv = []) (hchild : req'.child = req.child) :
      Idle req' := by
    refine ⟨?_, hchild.trans h.child⟩
    rw [henv]
    exact fun s hs => absurd hs List.not_mem_nil
  unfold processLogline
  split
  · exact h.of_eq rfl rfl
  · dsimp only
    split
    · exact h.of_eq rfl rfl
    · split
      · split_ifs <;> first | exact (h.of_eq rfl rfl) | exact hnone rfl rfl
      · split
        · exact h.of_eq rfl rfl
        · split_ifs <;> first | exact (h.of_eq rfl rfl) | exact hnone rfl rfl

private theorem endLine_ne_header (ret : Ret) {req' : Request} :
    endLine srv res req ≠ (req', some (.header ret)) := by
  intro hend
  unfold endLine at hend
  dsimp only at hend
  split at hend
  · split at hend <;> cases hend
  · split at hend
    · cases hend
    · split at hend <;> cases hend

/-- A line of the header. -/
theorem honest_endLine {req' : Request} {stop : Option Stop}
    (hend : endLine srv res req = (req', stop)) (h : Idle req) :
    Honest srv req' ∧ (stop = none → Idle req') := by
  unfold endLine at hend
  dsimp only at hend
  split at hend
  · have hline := idle_processOptionLine h srv.cfg (lineText req)
    split at hend
    · rename_i heq
      rw [heq] at hline
      cases hend
      exact ⟨hline.honest, fun hstop => absurd hstop (Option.some_ne_none _)⟩
    · rename_i heq
      rw [heq] at hline
      cases hend
      exact ⟨hline.honest_of_eq rfl rfl, fun _ => (hline.of_eq rfl rfl)⟩
  · have hline := idle_processLogline h (lineText req)
    split at hend
    · rename_i heq
      rw [heq] at hline
      cases hend
      exact ⟨hline.honest, fun hstop => absurd hstop (Option.some_ne_none _)⟩
    · rename_i heq
      rw [heq] at hline
      split at hend
      · cases hend
        refine ⟨(honest_processHeaderEnd ?_).1, fun hstop => absurd hstop (Option.some_ne_none _)⟩
        exact hline.of_eq rfl rfl
      · cases hend
        exact ⟨hline.honest_of_eq rfl rfl, fun _ => (hline.of_eq rfl rfl)⟩

/-- A character of the header. -/
theorem honest_feed (h : Idle req) {c : UInt8} {req' : Request} {stop : Option Stop}
    (hfeed : feed srv res req c = (req', stop)) :
    Honest srv req' ∧ (stop = none → Idle req') ∧
      ∀ ret, stop = some (.header ret) → req'.method = .post → req'.child = none := by
  unfold feed at hfeed
  dsimp only at hfeed
  split at hfeed
  · obtain ⟨hhonest, hidle⟩ := honest_endLine hfeed (h.of_eq rfl rfl)
    refine ⟨hhonest, hidle, fun ret hret => ?_⟩
    rw [hret] at hfeed
    exact absurd hfeed (endLine_ne_header ret)
  · split at hfeed
    · cases hfeed
      refine ⟨(honest_processHeaderEnd ?_).1, fun hstop => absurd hstop (Option.some_ne_none _),
        fun _ _ => (honest_processHeaderEnd ?_).2⟩
      · exact h.of_eq rfl rfl
      · exact h.of_eq rfl rfl
    · cases hfeed
      exact ⟨h.honest_of_eq rfl rfl, fun _ => (h.of_eq rfl rfl),
        fun ret hret => absurd hret.symm (Option.some_ne_none _)⟩

theorem honest_scan (h : Idle req) {bytes rest : List UInt8} {req' : Request} {stop : Option Stop}
    (hscan : scan (feed srv res) req bytes = (req', stop, rest)) :
    Honest srv req' ∧ (stop = none → Idle req') ∧
      ∀ ret, stop = some (.header ret) → req'.method = .post → req'.child = none := by
  induction bytes generalizing req with
  | nil =>
      cases hscan
      exact ⟨h.honest, fun _ => h, fun ret hret => absurd hret.symm (Option.some_ne_none _)⟩
  | cons c bytes ih =>
      rcases hfeed : feed srv res req c with ⟨next, o⟩
      have hstep := honest_feed h hfeed
      cases o with
      | none =>
          rw [scan_cons_none hfeed] at hscan
          exact ih (hstep.2.1 rfl) hscan
      | some r =>
          rw [scan_cons_some hfeed] at hscan
          cases hscan
          exact hstep

/-! ## Runs -/

/-- A program runs only when nothing is read or copied. -/
theorem Honest.idle (h : Honest srv req) (hstatus : req.status ≠ .pipeRead) : Idle req where
  headers := h.headers
  child := by
    cases hchild : req.child with
    | none => rfl
    | some c => exact absurd (h.started c hchild).1 hstatus

section Handlers

variable {conn : Connection} {turn : Turn}

private theorem idle_refill (h : Idle conn.req) : Idle (refill turn conn).2.req := by
  unfold refill
  split
  · exact h.of_eq rfl rfl
  · split
    · exact h
    · exact h
    · exact h
    · split
      · exact h
      · exact h

private theorem idle_startBody (h : Idle conn.req) : Idle (startBody srv conn).2.req := by
  unfold startBody
  split
  · exact h.of_eq rfl rfl
  · dsimp only
    split_ifs
    · exact h.of_eq rfl rfl
    · exact h.of_eq rfl rfl
    · exact h

private theorem honest_readHeader (h : Idle conn.req) :
    Honest srv (readHeader srv turn conn).2.req := by
  unfold readHeader
  split
  · rename_i heq
    exact (honest_scan h heq).1
  · rename_i ret rest heq
    obtain ⟨hhonest, _, hpost⟩ := honest_scan h heq
    dsimp only
    split
    · rename_i hbody
      refine (idle_startBody ?_).honest
      exact Idle.of_eq ⟨hhonest.headers, hpost _ rfl hbody.2⟩ rfl rfl
    · exact hhonest
  · rename_i heq
    exact (idle_refill ((honest_scan h heq).2.1 rfl)).honest

private theorem idle_readBody (h : Idle conn.req) : Idle (readBody turn conn).2.req := by
  unfold readBody
  dsimp only
  split
  · exact h.of_eq rfl rfl
  · split
    · exact h
    · exact h.of_eq rfl rfl
    · exact h.of_eq rfl rfl
    · split
      · exact h.of_eq rfl rfl
      · exact h.of_eq rfl rfl

private theorem honest_writeBody (h : Idle conn.req) :
    Honest srv (writeBody srv turn conn).2.req := by
  unfold writeBody
  dsimp only
  split
  · split
    · exact honest_initCgi h
    · exact h.honest_of_eq rfl rfl
  · split
    · exact h.honest
    · exact h.honest
    · exact h.honest_of_eq rfl rfl
    · exact h.honest_of_eq rfl rfl

/-- A call of a handler. -/
theorem honest_serve (h : Honest srv conn.req) : Honest srv (serve srv conn turn).req := by
  have hidle {status : Status} (hstatus : conn.req.status = status) (hne : status ≠ .pipeRead) :
      Idle conn.req := h.idle (hstatus ▸ hne)
  unfold serve
  split
  · exact h
  · cases hstatus : conn.req.status with
    | readHeader | oneCr | oneLf | twoCr =>
        exact honest_readHeader (hidle hstatus (by simp))
    | bodyRead => exact (idle_readBody (hidle hstatus (by simp))).honest
    | bodyWrite => exact honest_writeBody (hidle hstatus (by simp))
    | write | pipeRead | dead => exact h

end Handlers

private theorem honest_exec (srv : Server) (sent : List UInt8) (turns : List Turn) :
    Honest srv (exec (serve srv) (accepted sent) turns).req := by
  have hstart : Honest srv (accepted sent).req :=
    Idle.honest ⟨fun s hs => absurd hs List.not_mem_nil, rfl⟩
  exact exec_under (I := fun conn : Connection => Honest srv conn.req) (A := fun _ _ => True)
    (fun conn turn hconn _ => honest_serve hconn) hstart
    (stepsSatisfy_of_forall (fun _ _ => trivial) _ turns)

/-- Whatever a client sends, and in whatever pieces, a program is started for the target of the
request, and every variable whose name does not begin with `HTTP_` is the server's: no line
of the header replaces one or adds one. -/
theorem getenv_started {srv : Server} {id : Identity} (hcommon : srv.commonEnv = createCommonEnv id)
    (sent : List UInt8) (turns : List Turn) {c : Child}
    (hchild : (exec (serve srv) (accepted sent) turns).req.child = some c) :
    ∃ t, (exec (serve srv) (accepted sent) turns).req.target = some t ∧
      c.pathname = t.pathname ∧
      (t.isCgi.isSome = true →
        getenv c.env remoteAddrName = some srv.remoteAddr ∧
        ∀ key, 61 ∉ key → ¬httpStart <+: key → getenv c.env key =
          lookup (allVariables id srv (exec (serve srv) (accepted sent) turns).req t) key) := by
  have hhonest := honest_exec srv sent turns
  obtain ⟨_, t, htarget, hpath, henv⟩ := hhonest.started c hchild
  refine ⟨t, htarget, hpath, fun hcgi => ?_⟩
  have hall (key : List UInt8) (hkey : 61 ∉ key) (hplain : ¬httpStart <+: key) : getenv c.env key =
      lookup (allVariables id srv (exec (serve srv) (accepted sent) turns).req t) key := by
    rw [henv, environment, if_pos hcgi, hcommon]
    exact getenv_variables id srv _ t hhonest.headers hkey hplain
  have haddr : (remoteAddrName, srv.remoteAddr) ∈
      allVariables id srv (exec (serve srv) (accepted sent) turns).req t := by
    refine List.mem_append_right _ ?_
    simp [requestVariables]
  refine ⟨?_, hall⟩
  rw [hall remoteAddrName (by decide) (by decide)]
  exact lookup_of_mem ((allVariables_names id srv _ t).nodup nodup_names) haddr

/-! ## A line that is named like a variable -/

/-- `/c/a`, a program. -/
def someProgram : List UInt8 := chars ['/', 'c', '/', 'a']

/-- A server with programs in `/c/`, for a client at `9`. -/
def someServer : Server where
  cfg := { someConfig with
    aliases := addAliases [⟨chars ['/', 'c', '/'], chars ['/', 'c', '/'], .scriptAlias⟩] }
  fs := ⟨fun path => if path = someProgram then some (.file true) else none, fun _ => .error .noent⟩
  commonEnv := createCommonEnv ⟨[], [], 80, []⟩
  defaultType := []
  localAddr := []
  remoteAddr := chars ['9']
  remotePort := 1024

/-- `GET /c/a HTTP/1.0`, with a line for `REMOTE_ADDR`. -/
def someForgery : List UInt8 :=
  chars ['G', 'E', 'T', ' ', '/', 'c', '/', 'a', ' ', 'H', 'T', 'T', 'P', '/', '1', '.', '0', '\r',
      '\n'] ++
    remoteAddrName ++ chars [':', ' ', '7', '\r', '\n', '\r', '\n']

/-- The request is read in two pieces and its program is started. -/
def someTurns : List Turn :=
  [⟨.moves 20, ⟨true, true, true⟩⟩, ⟨.moves 100, ⟨true, true, true⟩⟩, ⟨.again, ⟨true, true, true⟩⟩]

/-- The program that runs. -/
def someChild : Child where
  pathname := someProgram
  env := createCommonEnv ⟨[], [], 80, []⟩ ++ [envGen (httpStart ++ remoteAddrName) (chars ['7'])] ++
    [envGen requestMethodName (methodName .get), envGen serverAddrName [],
      envGen serverProtocolName (chars ['H', 'T', 'T', 'P', '/', '1', '.', '0']),
      envGen requestUriName someProgram, envGen scriptNameName someProgram,
      envGen remoteAddrName (chars ['9']), envGen remotePortName (decimal 1024)]
  stdin := none

theorem getenv_started_someForgery :
    ∃ t, (exec (serve someServer) (accepted someForgery) someTurns).req.target = some t ∧
      someChild.pathname = t.pathname ∧
      (t.isCgi.isSome = true →
        getenv someChild.env remoteAddrName = some someServer.remoteAddr ∧
        ∀ key, 61 ∉ key → ¬httpStart <+: key → getenv someChild.env key =
          lookup (allVariables ⟨[], [], 80, []⟩ someServer
            (exec (serve someServer) (accepted someForgery) someTurns).req t) key) :=
  getenv_started rfl someForgery someTurns (by decide +kernel)

end Itertk.Boa.Environ
