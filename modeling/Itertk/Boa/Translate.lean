import Mathlib.Data.List.Infix
import Mathlib.Logic.Function.Basic
import Itertk.Boa.Uri

/-!
# From the path of a request to a file

`translate_uri` looks the path up among the aliases, which lie in a hash table, and else puts
it behind the document root.  `init_script_alias` divides what is behind a script alias into
the script and the path that the script gets.  `init_get` opens a file, or what stands for a
directory.

Where the path ends with the alias, `init_script_alias` looks behind the end of a string; this
is left out, and so is memory that runs out.

## Main results

* `findAlias_addAliases` — the hash table finds the first alias that covers the path.
-/

namespace Itertk.Boa.Translate

open Itertk.Base.Paths
open Itertk.Daemon.Config
open Itertk.Boa.Uri

/-! ## Aliases -/

/-- `ALIAS`, `SCRIPTALIAS`, `REDIRECT`. -/
inductive AliasType where
  | alias | scriptAlias | redirect
deriving DecidableEq

structure Alias where
  fakename : List UInt8
  /-- As it is kept: a name that began with `./` stands here after `normalize_path`. -/
  realname : List UInt8
  type : AliasType
deriving DecidableEq

/-- `get_alias_hash_value` of a name that is not empty. -/
def getAliasHashValue : List UInt8 → Nat
  | [] => 0
  | c :: file => (file.takeWhile (· ≠ 47)).foldl (fun hash c => hash + c.toNat) c.toNat % 17

/-- `alias_hashtable`. -/
abbrev Table := Nat → List Alias

/-- `add_alias`.  The last alias of a chain is not compared. -/
def addAlias (t : Table) (a : Alias) : Table :=
  let hash := getAliasHashValue a.fakename
  if a.fakename ∈ (t hash).dropLast.map Alias.fakename then t
  else Function.update t hash (t hash ++ [a])

/-- The condition of `find_alias`. -/
def Alias.covers (uri : List UInt8) (a : Alias) : Bool :=
  a.fakename.isPrefixOf uri &&
    (a.fakename.getLast? = some 47 ∨ ((uri.drop a.fakename.length).head?.getD 47) = 47)

/-- `find_alias`. -/
def findAlias (t : Table) (uri : List UInt8) : Option Alias :=
  (t (getAliasHashValue uri)).find? (Alias.covers uri)

/-- The table after the configuration was read. -/
def addAliases (aliases : List Alias) : Table := aliases.foldl addAlias fun _ => []

/-- The name begins with a slash, and something stands between it and the next. -/
def Alias.Rooted (a : Alias) : Prop := ∃ c file, a.fakename = 47 :: c :: file ∧ c ≠ 47

/-- A path has the hash value of an alias that covers it, if the first name of the path is
that of the alias. -/
theorem getAliasHashValue_covers {a : Alias} (ha : a.Rooted) {uri : List UInt8}
    (h : a.covers uri = true) : getAliasHashValue uri = getAliasHashValue a.fakename := by
  obtain ⟨c, file, hname, hc⟩ := ha
  obtain ⟨hpre, hend⟩ := (Bool.and_eq_true _ _).mp h
  obtain ⟨rest, hrest⟩ := List.isPrefixOf_iff_prefix.mp hpre
  have hfirst : (c :: file ++ rest).takeWhile (· ≠ 47) = (c :: file).takeWhile (· ≠ 47) := by
    by_cases hmem : 47 ∈ c :: file
    · obtain ⟨before, after, hsplit, hnone⟩ := List.eq_append_cons_of_mem hmem
      have hbefore : ∀ b ∈ before, decide (b ≠ 47) = true := fun b hb =>
        decide_eq_true fun heq => hnone (heq ▸ hb)
      rw [hsplit, List.append_assoc, List.takeWhile_append_of_pos hbefore,
        List.takeWhile_append_of_pos hbefore]
      simp
    · have hall : ∀ b ∈ c :: file, decide (b ≠ 47) = true := fun b hb =>
        decide_eq_true fun heq => hmem (heq ▸ hb)
      rw [List.takeWhile_append_of_pos hall, List.takeWhile_eq_self_iff.mpr hall]
      -- The alias does not end with a slash, so that the path ends or goes on with one.
      have hlast : a.fakename.getLast? ≠ some 47 := by
        rw [hname, List.getLast?_cons_cons]
        intro heq
        exact hmem (List.mem_of_getLast? heq)
      rcases of_decide_eq_true hend with heq | hslash
      · exact absurd heq hlast
      · rw [← hrest, List.drop_left] at hslash
        cases rest with
        | nil => rw [List.takeWhile_nil, List.append_nil]
        | cons b rest =>
            obtain rfl : b = 47 := hslash
            simp
  rw [← hrest, hname, List.cons_append, getAliasHashValue, getAliasHashValue, hfirst]

/-- What an alias adds to the table. -/
theorem findAlias_addAlias {t : Table} {a : Alias} (ha : a.Rooted) (uri : List UInt8) :
    findAlias (addAlias t a) uri =
      (findAlias t uri).or (if a.covers uri then some a else none) := by
  unfold findAlias addAlias
  by_cases hold : a.fakename ∈ (t (getAliasHashValue a.fakename)).dropLast.map Alias.fakename
  · rw [if_pos hold]
    by_cases hcovers : a.covers uri = true
    · obtain ⟨b, hb, hname⟩ := List.mem_map.mp hold
      have hcovered : b.covers uri = true := by
        rw [Alias.covers, hname]
        exact hcovers
      rw [getAliasHashValue_covers ha hcovers]
      obtain ⟨found, hfound⟩ := Option.isSome_iff_exists.mp
        (List.find?_isSome.mpr ⟨b, List.dropLast_subset _ hb, hcovered⟩)
      rw [hfound, Option.some_or]
    · rw [if_neg hcovers, Option.or_none]
  · rw [if_neg hold]
    by_cases hhash : getAliasHashValue uri = getAliasHashValue a.fakename
    · rw [hhash, Function.update_self, List.find?_append]
      cases hcovers : a.covers uri <;> simp [hcovers]
    · have hcovers : ¬a.covers uri = true := fun h => hhash (getAliasHashValue_covers ha h)
      rw [Function.update_of_ne hhash, if_neg hcovers, Option.or_none]

/-- The hash table finds the first alias of the configuration that covers the path. -/
theorem findAlias_addAliases {aliases : List Alias} (h : ∀ a ∈ aliases, a.Rooted)
    (uri : List UInt8) : findAlias (addAliases aliases) uri = aliases.find? (Alias.covers uri) := by
  have hfold : ∀ (t : Table), (∀ a ∈ aliases, a.Rooted) →
      findAlias (aliases.foldl addAlias t) uri =
        (findAlias t uri).or (aliases.find? (Alias.covers uri)) := by
    clear h
    induction aliases with
    | nil =>
        intro t _
        rw [List.foldl_nil, List.find?_nil, Option.or_none]
    | cons a aliases ih =>
        intro t h
        rw [List.foldl_cons, ih _ fun b hb => h b (List.mem_cons_of_mem a hb),
          findAlias_addAlias (h a List.mem_cons_self), Option.or_assoc]
        cases hcovers : a.covers uri <;> simp [hcovers]
  exact hfold _ h

/-- `/a` comes before `/a/b`, in the same chain. -/
theorem findAlias_addAliases_nested :
    findAlias (addAliases [⟨[47, 97], [47], .alias⟩, ⟨[47, 97, 47, 98], [47], .redirect⟩])
        [47, 97, 47, 98] =
      [⟨[47, 97], [47], .alias⟩, ⟨[47, 97, 47, 98], [47], .redirect⟩].find?
        (Alias.covers [47, 97, 47, 98]) :=
  findAlias_addAliases (fun a ha => by
    rcases List.mem_cons.mp ha with rfl | ha
    · exact ⟨97, [], rfl, by decide⟩
    · rw [List.mem_singleton.mp ha]
      exact ⟨97, [47, 98], rfl, by decide⟩) _

/-! ## The server -/

/-- What a path names. -/
inductive Node where
  | dir
  /-- Any bit of `S_IFREG` or of the rights to read and execute is set. -/
  | file (usable : Bool)
deriving DecidableEq

/-- `ENOENT`, `EACCES`, and any other error. -/
inductive Errno where
  | noent | acces | other
deriving DecidableEq

structure FileSystem where
  stat : List UInt8 → Option Node
  /-- `open(path, O_RDONLY)`, and `fstat` of the descriptor. -/
  openFile : List UInt8 → Except Errno Node

/-- What `boa.conf` says. -/
structure Config where
  aliases : Table
  documentRoot : Option (List UInt8)
  userDir : Option (List UInt8)
  virtualHost : Bool
  getHomeDir : List UInt8 → Option (List UInt8)
  getMimeType : List UInt8 → List UInt8
  directoryIndex : Option (List UInt8)
  dirMaker : Bool
  cacheDir : Bool
  singlePostLimit : Nat
  kaMax : Nat

/-- `M_GET`, `M_HEAD`, `M_POST`. -/
inductive Method where
  | get | head | post
deriving DecidableEq

/-- `CGI`, `NPH`. -/
inductive CgiType where
  | cgi | nph
deriving DecidableEq

/-- The answers of `response.c` that end a request. -/
inductive Refusal where
  | movedPerm | movedTemp (url : List UInt8) | badRequest | forbidden | notFound | error
  | notImplemented
deriving DecidableEq

/-- What `translate_uri` finds out. -/
structure Target where
  pathname : List UInt8
  scriptName : Option (List UInt8)
  pathInfo : Option (List UInt8)
  pathTranslated : Option (List UInt8)
  isCgi : Option CgiType
deriving DecidableEq

def maxHeaderLength : Nat := 1024

/-- `CGI_MIME_TYPE`. -/
def cgiMimeType : List UInt8 :=
  chars ['a', 'p', 'p', 'l', 'i', 'c', 'a', 't', 'i', 'o', 'n', '/', 'x', '-', 'h', 't', 't', 'p',
    'd', '-', 'c', 'g', 'i']

/-! ## `init_script_alias` -/

/-- The loop over the slashes of `pathname`, and the checks behind it: the script, and what
follows it. -/
def findScript (fs : FileSystem) (path : List UInt8) :
    List UInt8 → Except Refusal (List UInt8 × Option (List UInt8))
  | [] =>
      match fs.stat path with
      | none => .error .notFound
      | some .dir => .error .forbidden
      | some (.file usable) => if usable then .ok (path, none) else .error .forbidden
  | c :: rest =>
      if c = 47 then
        match fs.stat path with
        | none => .error .notFound
        | some .dir => findScript fs (path ++ [c]) rest
        | some (.file usable) => if usable then .ok (path, some (c :: rest)) else .error .forbidden
      else findScript fs (path ++ [c]) rest

/-- The path of `~user` and what follows it. -/
def userPath (cfg : Config) (userDir name : List UInt8) : Option (List UInt8) :=
  (cfg.getHomeDir (name.takeWhile (· ≠ 47))).map fun home =>
    home ++ 47 :: userDir ++ name.dropWhile (· ≠ 47)

/-- `path_translated`. -/
def translatePath (cfg : Config) (pathInfo : List UInt8) : Except Refusal (Option (List UInt8)) :=
  match (cfg.aliases (getAliasHashValue pathInfo)).find? fun a =>
    a.fakename.isPrefixOf pathInfo with
  | some a =>
      if maxHeaderLength < a.realname.length + pathInfo.length - a.fakename.length then
        .error .badRequest
      else .ok (some (a.realname ++ pathInfo.drop a.fakename.length))
  | none =>
      match cfg.userDir with
      | some userDir =>
          if pathInfo[1]? = some 126 then
            match userPath cfg userDir (pathInfo.drop 2) with
            | none => .error .notFound
            | some path => .ok (some path)
          else .ok (cfg.documentRoot.map (· ++ pathInfo))
      | none => .ok (cfg.documentRoot.map (· ++ pathInfo))

/-- `init_script_alias`. -/
def initScriptAlias (cfg : Config) (fs : FileSystem) (simple : Bool) (a : Alias)
    (uri : List UInt8) : Except Refusal Target := do
  let rest := uri.drop a.fakename.length
  if maxHeaderLength < rest.length + a.realname.length then throw .badRequest
  let isCgi := if (chars ['n', 'p', 'h', '-']).isPrefixOf rest || simple then CgiType.nph else .cgi
  let (pathname, pathInfo) ← findScript fs (a.realname ++ rest.take 1) (rest.drop 1)
  match pathInfo with
  | none => return ⟨pathname, some uri, none, none, some isCgi⟩
  | some info =>
      let pathTranslated ← translatePath cfg info
      return ⟨pathname, some (uri.take (uri.length - info.length)), some info, pathTranslated,
        some isCgi⟩

/-! ## `translate_uri` -/

/-- The part for aliases. -/
def translateAlias (cfg : Config) (fs : FileSystem) (method : Method) (simple : Bool) (a : Alias)
    (uri : List UInt8) : Except Refusal Target :=
  if a.type = .scriptAlias then initScriptAlias cfg fs simple a uri
  else
    let buffer := a.realname ++ uri.drop a.fakename.length
    if maxHeaderLength < buffer.length then .error .badRequest
    else if a.type = .redirect then
      .error (if method = .post then .badRequest else .movedTemp buffer)
    else .ok ⟨buffer, none, none, none, none⟩

/-- The part behind the aliases: the `buffer`. -/
def translatePlain (cfg : Config) (localAddr uri : List UInt8) : Except Refusal (List UInt8) :=
  match cfg.userDir, decide (uri[1]? = some 126) with
  | some userDir, true =>
      match userPath cfg userDir (uri.drop 2) with
      | none => .error .notFound
      | some path => if maxHeaderLength < path.length then .error .badRequest else .ok path
  | _, _ =>
      match cfg.documentRoot with
      | none => .error .notFound
      | some root =>
          let host := if cfg.virtualHost then localAddr else []
          if maxHeaderLength < root.length + uri.length + host.length + 1 then .error .badRequest
          else .ok (if cfg.virtualHost then root ++ 47 :: host ++ uri else root ++ uri)

/-- `translate_uri`. -/
def translateUri (cfg : Config) (fs : FileSystem) (localAddr : List UInt8) (method : Method)
    (simple : Bool) (uri : List UInt8) : Except Refusal Target :=
  if uri.head? ≠ some 47 then .error .badRequest
  else
    match findAlias cfg.aliases uri with
    | some a => translateAlias cfg fs method simple a uri
    | none => do
        let buffer ← translatePlain cfg localAddr uri
        if cfg.getMimeType buffer = cgiMimeType then
          return ⟨buffer, some uri, none, none, some (if simple then .nph else .cgi)⟩
        else if method = .post then throw .badRequest
        else return ⟨buffer, none, none, none, none⟩

end Itertk.Boa.Translate
