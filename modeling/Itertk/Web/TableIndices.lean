import Itertk.Base.Slots
import Itertk.Web.PortRecords

/-!
# Indices that `CONF_QUERY` and `CONF_SET` use

The port index of these commands is `itsip_data[1]` as it comes from the network; the CGI
programs send the number of the port less one, which is 255 for number 0.  The user index
is what `get_usr_id` returns, and that is `MAX_USR_NUM` for a name that no slot has.

The indices are recorded beside the run of each handler, in the order in which the code
uses them.  The handlers are tied to the records: their tests read the elements recorded, an
answer starts at one of them, and what a request changes lies in them.

## Main results

* `mayAccess_same`, `isRoot_same`, `sysConfQuery_element`, `request_outside` — the handlers use
  the elements that are recorded.
* `mayAccess_inTable_iff` — the test of the limits needs a port that there is, and never
  looks up the right of an unknown user.
* `confIndices_iff` — when all indices of a request are in range.
-/

namespace Itertk.Web.TableIndices

open Itertk.Base.Memory
open Itertk.Base.Slots
open Itertk.Daemon.Layout
open Itertk.Daemon.State
open Itertk.Itsip.Socket
open Itertk.Itsip.Header
open Itertk.Web.Users
open Itertk.Web.Handlers
open Itertk.Web.PortRecords

/-! ## Recorded indices -/

/-- The arrays of `g_conf_info` that the two commands index; `rights` is `read` or `modify`
of an element of `con_lim`. -/
inductive Table where
  | conLim | conCom | conMode | conUsr | rights
  deriving DecidableEq

/-- The number of elements. -/
def Table.extent : Table → Nat
  | conLim | conCom | conMode => maxComPort
  | conUsr | rights => maxUsrNum

/-- A table and the index used into it. -/
abbrev Index := Table × Nat

/-- The slots that the loop of `get_usr_id` compares with the name. -/
def getUsrIdIndices (conf : Mem) (name : List UInt8) : List Index :=
  (List.range (min (getUsrId conf name + 1) maxUsrNum)).map fun i => (.conUsr, i)

/-- The condition on `con_lim[port]`, evaluated from the left. -/
def mayAccessIndices (conf : Mem) (port : Nat) (name : List UInt8) : List Index :=
  if limEnable conf port = disabled then [(.conLim, port)]
  else if limEnable conf port = enabled then
    (.conLim, port) :: (.conLim, port) :: getUsrIdIndices conf name ++
      if getUsrId conf name < maxUsrNum then [(.conLim, port), (.rights, getUsrId conf name)]
      else []
  else [(.conLim, port), (.conLim, port)]

/-- The condition on `con_usr[id]`, and the element of `con_lim` behind it. -/
def limitIndices (conf : Mem) (port : Nat) (name : List UInt8) : List Index :=
  getUsrIdIndices conf name ++ (.conUsr, getUsrId conf name) ::
    if usrAuth conf (getUsrId conf name) = usrRoot then [(.conLim, port)] else []

/-- The indices of `sys_conf_query`. -/
def sysConfQueryIndices (conf head : Mem) : List Index :=
  let name := requester head
  match ConfKind.ofByte (itsipData head 0) with
  | some .com =>
      mayAccessIndices conf (port head) name ++
        if MayAccess conf limRead (port head) name then [(.conCom, port head)] else []
  | some .mode =>
      mayAccessIndices conf (port head) name ++
        if MayAccess conf limRead (port head) name then [(.conMode, port head)] else []
  | some .limit => limitIndices conf (port head) name
  | _ => []

/-- The indices of the assignments of a permitted `CONF_COM`, and of `com_set`. -/
def putComIndices (port : Nat) (c : ConfigCom) : List Index :=
  (if c.all ≠ 1 then [(.conCom, port)] else (List.range maxComPort).map fun i => (.conCom, i)) ++
    [(.conCom, port)]

/-- The indices of `sys_conf_set`: none unless the block is received. -/
def sysConfSetIndices (head : Mem) (s : Session) : List Index :=
  let conf := s.dev.conf
  let name := requester head
  match ConfKind.ofByte (itsipData head 0) with
  | some .com =>
      if (webConnRecv s.conn comSize).ok = false then []
      else
        mayAccessIndices conf (port head) name ++
          if MayAccess conf limModify (port head) name then
            putComIndices (port head) (broughtCom s)
          else []
  | some .mode =>
      if (webConnRecv s.conn modeSize).ok = false then []
      else
        mayAccessIndices conf (port head) name ++
          if MayAccess conf limModify (port head) name then [(.conMode, port head)] else []
  | some .limit =>
      if (webConnRecv s.conn limSize).ok = false then [] else limitIndices conf (port head) name
  | _ => []

/-- A `CONF_QUERY` or `CONF_SET` header that comes from an open connection. -/
structure ConfRequest where
  command : ItsCmd
  head : Mem
  conn : Conn
  isConf : command = .confQuery ∨ command = .confSet
  itsip : head 0 = itsHead
  code : itsipCmd head = command.code
  isOpen : conn.isOpen = true

/-- The indices that `web_cmd_proc` uses on the request. -/
def indices (d : Device) (r : ConfRequest) : List Index :=
  match ItsCmd.ofByte (itsipCmd r.head) with
  | some .confQuery => sysConfQueryIndices d.conf r.head
  | some .confSet => sysConfSetIndices r.head ⟨d, r.conn, []⟩
  | _ => []

/-- All indices are in range. -/
def InTable (is : List Index) : Prop := ∀ i ∈ is, i.2 < i.1.extent

instance (is : List Index) : Decidable (InTable is) := inferInstanceAs (Decidable (∀ i ∈ is, _))

/-! ## The handlers and their indices -/

/-- The size of the block that `CONF_SET` receives for a kind. -/
def blockSize : ConfKind → Option Nat
  | .com => some comSize
  | .mode => some modeSize
  | .limit => some limSize
  | .gpio | .server => none

/-- Where an element lies; a right lies in the element of `con_lim` that is used with it. -/
def Table.off : Table → Nat → Nat
  | conLim, i => limOff i
  | conCom, i => comOff i
  | conMode, i => modeOff i
  | conUsr, i => usrOff i
  | rights, _ => 0

def Table.size : Table → Nat
  | conLim => limSize
  | conCom => comSize
  | conMode => modeSize
  | conUsr => usrSize
  | rights => 0

/-- The byte lies in an element that is used. -/
def InElement (is : List Index) (b : Nat) : Prop :=
  ∃ x ∈ is, x.1.off x.2 ≤ b ∧ b < x.1.off x.2 + x.1.size

/-- What the tests read of an element is the same. -/
def SameElement (conf conf' : Mem) : Index → Prop
  | (.conLim, i) => ∀ k, k < limSize → conf (limOff i + k) = conf' (limOff i + k)
  | (.conUsr, i) =>
      cstr (usrName conf i) = cstr (usrName conf' i) ∧ usrAuth conf i = usrAuth conf' i
  | _ => True

variable {conf conf' : Mem} {p : Nat} {name : List UInt8}

/-- The lookup reads the slots that are recorded. -/
theorem getUsrId_same (h : ∀ x ∈ getUsrIdIndices conf name, SameElement conf conf' x) :
    getUsrId conf name = getUsrId conf' name := by
  refine congrArg (Option.getD · maxUsrNum) (firstSlot_upTo fun i hi => ?_)
  have hname := (h (.conUsr, i) (List.mem_map.mpr ⟨i, List.mem_range.mpr hi, rfl⟩)).1
  rw [hname]

/-- The test of the limits reads the elements that are recorded. -/
theorem mayAccess_same {right : Mem → Nat → Nat → UInt8}
    (hright : right = limRead ∨ right = limModify)
    (h : ∀ x ∈ mayAccessIndices conf p name, SameElement conf conf' x) :
    MayAccess conf right p name ↔ MayAccess conf' right p name := by
  have hlim : SameElement conf conf' (.conLim, p) := by
    refine h _ ?_
    unfold mayAccessIndices
    split
    · exact List.mem_singleton_self _
    · split
      · exact List.mem_cons_self
      · exact List.mem_cons_self
  have henable : limEnable conf p = limEnable conf' p := hlim 1 (by decide)
  unfold MayAccess
  rw [← henable]
  refine or_congr_right (and_congr_right fun hon => ?_)
  have hindices : mayAccessIndices conf p name = (.conLim, p) :: (.conLim, p) ::
      getUsrIdIndices conf name ++
        if getUsrId conf name < maxUsrNum then [(.conLim, p), (.rights, getUsrId conf name)]
        else [] := by
    rw [mayAccessIndices, if_neg (by rw [hon]; decide), if_pos hon]
  rw [hindices] at h
  have hid : getUsrId conf name = getUsrId conf' name :=
    getUsrId_same fun x hx => h x (by simp [hx])
  rw [← hid]
  refine and_congr_right fun hlt => ?_
  have hbyte : right conf p (getUsrId conf name) = right conf' p (getUsrId conf name) := by
    simp only [maxUsrNum] at hlt
    rcases hright with rfl | rfl
    · have hread := hlim (2 + getUsrId conf name) (by simp only [limSize]; omega)
      rwa [← Nat.add_assoc] at hread
    · have hmodify := hlim (18 + getUsrId conf name) (by simp only [limSize]; omega)
      rwa [← Nat.add_assoc] at hmodify
  rw [hbyte]

/-- So does the test of `CONF_LIMIT`. -/
theorem isRoot_same (h : ∀ x ∈ limitIndices conf p name, SameElement conf conf' x) :
    usrAuth conf (getUsrId conf name) = usrAuth conf' (getUsrId conf' name) := by
  unfold limitIndices at h
  rw [← getUsrId_same fun x hx => h x (List.mem_append_left _ hx)]
  exact (h (.conUsr, getUsrId conf name) (by simp)).2

/-- A query is refused, or answered from the address of an element that is recorded. -/
theorem sysConfQuery_element (env : Env) (head : Mem) (s : Session) {k : ConfKind}
    (hk : ConfKind.ofByte (itsipData head 0) = some k) (hblock : (blockSize k).isSome = true) :
    sysConfQuery env head s = s.refuse env ∨
      ∃ x ∈ sysConfQueryIndices s.dev.conf head, ∃ ack,
        sysConfQuery env head s = s.reply ack (some (shift s.dev.conf (x.1.off x.2))) x.1.size := by
  unfold sysConfQuery sysConfQueryIndices
  rw [hk]
  dsimp only
  cases k with
  | gpio | server => exact absurd hblock Bool.false_ne_true
  | com =>
      by_cases hmay : MayAccess s.dev.conf limRead (port head) (requester head)
      · refine .inr ⟨(.conCom, port head), List.mem_append_right _ ?_, _, if_pos hmay⟩
        exact List.mem_ite_nil_right.mpr ⟨hmay, List.mem_singleton_self _⟩
      · exact .inl (if_neg hmay)
  | mode =>
      by_cases hmay : MayAccess s.dev.conf limRead (port head) (requester head)
      · refine .inr ⟨(.conMode, port head), List.mem_append_right _ ?_, _, if_pos hmay⟩
        exact List.mem_ite_nil_right.mpr ⟨hmay, List.mem_singleton_self _⟩
      · exact .inl (if_neg hmay)
  | limit =>
      by_cases hroot : usrAuth s.dev.conf (getUsrId s.dev.conf (requester head)) = usrRoot
      · exact .inr ⟨(.conLim, port head), by simp [limitIndices, hroot], _, if_pos hroot⟩
      · exact .inl (if_neg hroot)

/-- A byte that lies in no element lies beside each of them. -/
theorem beside_of_mem {is : List Index} {b : Nat} (h : ¬InElement is b) {x : Index} (hx : x ∈ is) :
    b < x.1.off x.2 ∨ x.1.off x.2 + x.1.size ≤ b := by
  by_contra hin
  exact h ⟨x, hx, by omega, by omega⟩

/-- What a performed `CONF_COM` changes lies in the elements that are recorded. -/
theorem putCom_outside {c : ConfigCom} {b : Nat} (h : ¬InElement (putComIndices p c) b) :
    putCom conf p c b = conf b := by
  unfold putCom
  by_cases hall : c.all ≠ 1
  · have hport := beside_of_mem h (x := (.conCom, p)) (by simp [putComIndices])
    rw [if_pos hall]
    refine blit_outside _ _ ?_
    rw [ConfigCom.bytes_length]
    exact hport
  · rw [if_neg hall]
    refine forUpTo_keeps (fun m : Mem => m b) conf maxComPort fun i hi m => blit_outside _ _ ?_
    have hport := beside_of_mem h (x := (.conCom, i)) (by simp [putComIndices, hall, hi])
    rw [ConfigCom.bytes_length]
    exact hport

/-- A case of `sys_conf_set` changes what is indexed behind its test. -/
theorem guarded_outside {ok : Bool} {may : Prop} [Decidable may] {is used : List Index} {set : Mem}
    {b : Nat} (h : ¬InElement (if ok = false then [] else is ++ if may then used else []) b)
    (hset : ok = true → ¬InElement used b → set b = conf b) :
    (if ok = true ∧ may then set else conf) b = conf b := by
  by_cases hdone : ok = true ∧ may
  · rw [if_neg (by rw [hdone.1]; decide), if_pos hdone.2] at h
    rw [if_pos hdone]
    exact hset hdone.1 fun ⟨x, hx, hin⟩ => h ⟨x, List.mem_append_right _ hx, hin⟩
  · rw [if_neg hdone]

/-- What `CONF_SET` changes lies in the elements that are recorded. -/
theorem sysConfSet_outside (head : Mem) (s : Session) {b : Nat}
    (h : ¬InElement (sysConfSetIndices head s) b) :
    (sysConfSet head s).1.dev.conf b = s.dev.conf b := by
  have hblock : ∀ {t : Table} {size : Nat}, t.size = size → (webConnRecv s.conn size).ok = true →
      ¬InElement [(t, port head)] b →
      blit s.dev.conf (t.off (port head)) (webConnRecv s.conn size).bytes b = s.dev.conf b := by
    rintro t _ rfl hok hout
    refine blit_outside _ _ ?_
    rw [webConnRecv_ok hok]
    exact beside_of_mem hout (x := (t, port head)) (List.mem_singleton_self _)
  unfold sysConfSetIndices at h
  unfold sysConfSet
  cases hk : ConfKind.ofByte (itsipData head 0) with
  | none => rfl
  | some k =>
      rw [hk] at h
      cases k with
      | gpio | server => rfl
      | com =>
          show (sysConfSetCom (port head) (requester head) s).1.dev.conf b = _
          rw [sysConfSetCom_conf]
          exact guarded_outside h fun _ => putCom_outside
      | mode =>
          show (sysConfSetMode (port head) (requester head) s).1.dev.conf b = _
          rw [sysConfSetMode_conf]
          exact guarded_outside h (hblock (t := .conMode) rfl)
      | limit =>
          have hconf : (sysConfSetLimit (port head) (requester head) s).1.dev.conf =
              if (webConnRecv s.conn limSize).ok = true ∧
                  usrAuth s.dev.conf (getUsrId s.dev.conf (requester head)) = usrRoot then
                blit s.dev.conf (limOff (port head)) (webConnRecv s.conn limSize).bytes
              else s.dev.conf := guarded_conf rfl
          dsimp only [limitIndices] at h
          rw [List.append_cons] at h
          show (sysConfSetLimit (port head) (requester head) s).1.dev.conf b = _
          rw [hconf]
          exact guarded_outside h (hblock (t := .conLim) rfl)

/-- What a request changes lies in the elements that are recorded. -/
theorem request_outside (env : Env) (d : Device) (r : ConfRequest) {b : Nat}
    (h : ¬InElement (indices d r) b) :
    (webCmdProc env r.head ⟨d, r.conn, []⟩).dev.conf b = d.conf b := by
  rw [webCmdProc_eq env _ r.itsip r.code, if_neg (by rw [r.isOpen]; decide)]
  rcases r.isConf with hc | hc
  · rw [hc]
    exact congrFun (congrArg Device.conf (sysConfQuery_dev env r.head ⟨d, r.conn, []⟩)) b
  · unfold indices at h
    rw [r.code, hc, ItsCmd.ofByte_code] at h
    rw [hc]
    exact sysConfSet_outside r.head ⟨d, r.conn, []⟩ h

/-! ## Names and ports -/

/-- The request gets to the tables: it is a query, or its block arrives. -/
def Arrives (r : ConfRequest) (k : ConfKind) : Prop :=
  r.command = .confSet → ∀ size ∈ blockSize k, (webConnRecv r.conn size).ok = true

/-- The port is one of the two; for `CONF_LIMIT` the user is known, and the port one of the
two if the user is a root user. -/
def NamesEntries (conf head : Mem) : ConfKind → Prop
  | .com | .mode => port head < maxComPort
  | .limit =>
      getUsrId conf (requester head) < maxUsrNum ∧
        (usrAuth conf (getUsrId conf (requester head)) = usrRoot → port head < maxComPort)
  | .gpio | .server => True

/-- What the header of a request has to name, if it gets to the tables. -/
def NamesInTables (d : Device) (r : ConfRequest) : Prop :=
  ∀ k, ConfKind.ofByte (itsipData r.head 0) = some k → Arrives r k → NamesEntries d.conf r.head k

/-! ## The tests -/

private theorem inTable_append {is is' : List Index} :
    InTable (is ++ is') ↔ InTable is ∧ InTable is' :=
  List.forall_mem_append

private theorem inTable_cons {i : Index} {is : List Index} :
    InTable (i :: is) ↔ i.2 < i.1.extent ∧ InTable is :=
  List.forall_mem_cons

private theorem inTable_nil : InTable [] := fun _ h => absurd h List.not_mem_nil

/-- The loop of the lookup ends with the table. -/
theorem getUsrId_inTable (conf : Mem) (name : List UInt8) :
    InTable (getUsrIdIndices conf name) := by
  intro i hi
  obtain ⟨j, hj, rfl⟩ := List.mem_map.mp hi
  have hlt := List.mem_range.mp hj
  show j < maxUsrNum
  omega

/-- The test of the limits of a port indexes with this port in any case, and with a user
that is known. -/
theorem mayAccess_inTable_iff (conf : Mem) (port : Nat) (name : List UInt8) :
    InTable (mayAccessIndices conf port name) ↔ port < maxComPort := by
  have hport : InTable [(Table.conLim, port)] ↔ port < maxComPort := by
    rw [inTable_cons]
    exact and_iff_left inTable_nil
  unfold mayAccessIndices
  by_cases h0 : limEnable conf port = disabled
  · rw [if_pos h0]
    exact hport
  · rw [if_neg h0]
    by_cases h1 : limEnable conf port = enabled
    · rw [if_pos h1, List.cons_append, List.cons_append, inTable_cons, inTable_cons,
        inTable_append]
      constructor
      · exact And.left
      · intro h
        refine ⟨h, h, getUsrId_inTable conf name, ?_⟩
        by_cases hid : getUsrId conf name < maxUsrNum
        · rw [if_pos hid, inTable_cons, inTable_cons]
          exact ⟨h, hid, inTable_nil⟩
        · rw [if_neg hid]
          exact inTable_nil
    · rw [if_neg h1, inTable_cons, hport]
      exact and_iff_right_of_imp id

/-- The test of `CONF_LIMIT` indexes with the result of the lookup as it is. -/
theorem limit_inTable_iff (conf : Mem) (port : Nat) (name : List UInt8) :
    InTable (limitIndices conf port name) ↔
      getUsrId conf name < maxUsrNum ∧
        (usrAuth conf (getUsrId conf name) = usrRoot → port < maxComPort) := by
  unfold limitIndices
  rw [inTable_append, inTable_cons, and_iff_right (getUsrId_inTable conf name)]
  apply and_congr_right
  intro _
  by_cases hroot : usrAuth conf (getUsrId conf name) = usrRoot
  · rw [if_pos hroot, inTable_cons]
    constructor
    · exact fun h _ => h.1
    · exact fun h => ⟨h hroot, inTable_nil⟩
  · rw [if_neg hroot]
    exact iff_of_true inTable_nil fun h => absurd h hroot

/-- An element that is used after the test is one that the test has looked at. -/
theorem guarded_inTable_iff {conf : Mem} {port : Nat} {name : List UInt8} {may : Prop}
    [Decidable may] {used : List Index} (hused : port < maxComPort → InTable used) :
    InTable (mayAccessIndices conf port name ++ if may then used else []) ↔ port < maxComPort := by
  rw [inTable_append, mayAccess_inTable_iff]
  constructor
  · exact And.left
  · intro h
    refine ⟨h, ?_⟩
    split
    · exact hused h
    · exact inTable_nil

private theorem putCom_inTable {port : Nat} (c : ConfigCom) (h : port < maxComPort) :
    InTable (putComIndices port c) := by
  unfold putComIndices
  rw [inTable_append, inTable_cons]
  refine ⟨?_, h, inTable_nil⟩
  by_cases hall : c.all ≠ 1
  · rw [if_pos hall, inTable_cons]
    exact ⟨h, inTable_nil⟩
  · rw [if_neg hall]
    intro i hi
    obtain ⟨j, hj, rfl⟩ := List.mem_map.mp hi
    exact List.mem_range.mp hj

/-! ## The two commands -/

private theorem sysConfQuery_inTable_iff (conf head : Mem) :
    InTable (sysConfQueryIndices conf head) ↔
      ∀ k, ConfKind.ofByte (itsipData head 0) = some k → NamesEntries conf head k := by
  unfold sysConfQueryIndices
  cases ConfKind.ofByte (itsipData head 0) with
  | none => exact iff_of_true inTable_nil fun _ h => by cases h
  | some k =>
      simp only [Option.some_inj, forall_eq']
      cases k with
      | com | mode => exact guarded_inTable_iff fun h => inTable_cons.mpr ⟨h, inTable_nil⟩
      | limit => exact limit_inTable_iff conf _ _
      | gpio | server => exact iff_of_true inTable_nil trivial

/-- Nothing is indexed before the block is there. -/
theorem received_inTable_iff {ok : Bool} {is : List Index} {P : Prop} (h : InTable is ↔ P) :
    InTable (if ok = false then [] else is) ↔ (ok = true → P) := by
  cases ok with
  | false => exact iff_of_true inTable_nil fun hok => by cases hok
  | true =>
      rw [if_neg (by decide), h]
      exact ⟨fun hP _ => hP, fun hP => hP rfl⟩

private theorem sysConfSet_inTable_iff (head : Mem) (s : Session) :
    InTable (sysConfSetIndices head s) ↔
      ∀ k, ConfKind.ofByte (itsipData head 0) = some k →
        (∀ size ∈ blockSize k, (webConnRecv s.conn size).ok = true) →
          NamesEntries s.dev.conf head k := by
  unfold sysConfSetIndices
  cases ConfKind.ofByte (itsipData head 0) with
  | none => exact iff_of_true inTable_nil fun _ h => by cases h
  | some k =>
      simp only [Option.some_inj, forall_eq']
      cases k with
      | com =>
          simp only [blockSize, Option.mem_some_iff, forall_eq']
          exact received_inTable_iff (guarded_inTable_iff (putCom_inTable _))
      | mode =>
          simp only [blockSize, Option.mem_some_iff, forall_eq']
          exact received_inTable_iff
            (guarded_inTable_iff fun h => inTable_cons.mpr ⟨h, inTable_nil⟩)
      | limit =>
          simp only [blockSize, Option.mem_some_iff, forall_eq']
          exact received_inTable_iff (limit_inTable_iff _ _ _)
      | gpio | server => exact iff_of_true inTable_nil fun _ => trivial

/-- All indices of a request are in range exactly if the header names a port and a user that
there are, as far as the tables are used at all. -/
theorem confIndices_iff (d : Device) (r : ConfRequest) :
    InTable (indices d r) ↔ NamesInTables d r := by
  unfold indices NamesInTables Arrives
  rw [r.code]
  rcases r.isConf with hc | hc
  · rw [hc, ItsCmd.ofByte_code]
    simp only [reduceCtorEq, false_implies, true_implies]
    exact sysConfQuery_inTable_iff d.conf r.head
  · rw [hc, ItsCmd.ofByte_code]
    simp only [true_implies]
    exact sysConfSet_inTable_iff r.head ⟨d, r.conn, []⟩

/-- A query for the record of port number 0, as the CGI programs send it. -/
def queryPort0 : ConfRequest where
  command := .confQuery
  head := store (itsipPack zero ItsCmd.confQuery.code 0 0) 33 255
  conn := ⟨true, [], [], []⟩
  isConf := .inl rfl
  itsip := rfl
  code := rfl
  isOpen := rfl

theorem not_inTable_queryPort0 : ¬InTable (indices (Device.start zero) queryPort0) := by
  decide

end Itertk.Web.TableIndices
