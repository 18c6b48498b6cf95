import Itertk.Base.Run
import Itertk.Base.Slots
import Itertk.Web.PortRecords

/-!
# The accounts behind `USER_SET`

`sys_usr_set` changes `con_usr` byte by byte.  What its callers see is a table of
sixteen names, in which every operation gives at most one slot a new name: `ADD`
the first free slot, `DEL` and `MODIFY` the first slot with the old name
(`Op.edit`).  The bytes follow this table as long as every string that is copied
ends inside its field.

## Main results

* `handle_eq` — a request is refused, or `applyUserSet` runs on what it brought.
* `Holds.handle`, `Holds.run` — the bytes of `con_usr` refine a table of names.
* `handle_below` — no request reaches the fields before `con_usr`.
-/

namespace Itertk.Web.Accounts

open Itertk.Base.Memory
open Itertk.Base.Run
open Itertk.Base.Slots
open Itertk.Daemon.Layout
open Itertk.Daemon.Config
open Itertk.Daemon.State
open Itertk.Itsip.Socket
open Itertk.Itsip.Header
open Itertk.Web.Users
open Itertk.Web.Handlers
open Itertk.Web.PortRecords

/-! ## Requests -/

/-- An `ITS_USER_SET` header and the connection its records come from. -/
structure UserRequest where
  env : Env
  head : Mem
  conn : Conn
  itsip : head 0 = itsHead
  command : itsipCmd head = ItsCmd.userSet.code

/-- `set_flag`. -/
def UserRequest.flag (r : UserRequest) : UInt8 := itsipData r.head 0

/-- The local `extdat` after the receive. -/
def UserRequest.extdat (r : UserRequest) : Mem :=
  blit r.env.stack 0 (webConnRecv r.conn (itsipExtlen r.head)).bytes

/-- The request is handled: its `itsip_user` names a slot with `USR_ROOT`. -/
def Admitted (conf : Mem) (r : UserRequest) : Prop :=
  r.conn.isOpen = true ∧ ∃ u ∈ getUsrInfo conf (requester r.head), usrAuth conf u = usrRoot

instance (conf : Mem) (r : UserRequest) : Decidable (Admitted conf r) :=
  inferInstanceAs (Decidable (_ ∧ _))

/-- `web_cmd_proc` on the request. -/
def handle (d : Device) (r : UserRequest) : Device :=
  (webCmdProc r.env r.head ⟨d, r.conn, []⟩).dev

theorem handle_eq (d : Device) (r : UserRequest) :
    handle d r = if Admitted d.conf r then (applyUserSet r.flag r.extdat d).1 else d := by
  rw [handle, webCmdProc_eq r.env _ r.itsip r.command]
  by_cases hopen : r.conn.isOpen = false
  · rw [if_pos hopen, if_neg]
    rintro ⟨h, -⟩
    rw [hopen] at h
    cases h
  · rw [if_neg hopen]
    show (sysUsrSet r.env r.head ⟨d, r.conn, []⟩).1.dev = _
    have hopen' : r.conn.isOpen = true := Bool.not_eq_false _ ▸ hopen
    unfold sysUsrSet
    dsimp only
    cases huser : getUsrInfo d.conf (cstr (itsipUser r.head)) with
    | none =>
        rw [if_neg]
        rintro ⟨-, u, hu, -⟩
        rw [requester, huser] at hu
        cases hu
    | some u =>
        dsimp only
        by_cases hroot : usrAuth d.conf u = usrRoot
        · rw [if_neg (not_not_intro hroot), if_pos ⟨hopen', u, huser, hroot⟩]
          rfl
        · rw [if_pos hroot, if_neg]
          rintro ⟨-, v, hv, hvroot⟩
          rw [requester, huser] at hv
          cases hv
          exact hroot hvroot

/-! ## The table of names -/

/-- The names of `con_usr`; a free slot has the empty one. -/
abbrev Names := Nat → List UInt8

/-- `"root"`. -/
abbrev rootName : List UInt8 := chars ['r', 'o', 'o', 't']

/-- What a request asks for, as far as names are concerned. -/
inductive Op where
  | add (name : List UInt8)
  | del (name : List UInt8)
  | modify (name nname : List UInt8)
  deriving DecidableEq

namespace Op

/-- The first slot with the name. -/
def find (t : Names) (name : List UInt8) : Option Nat := firstSlot maxUsrNum fun i => name = t i

/-- The slot that gets a new name. -/
def edit (t : Names) : Op → Option (Nat × List UInt8)
  | add name => if find t name = none then (find t []).map fun i => (i, name) else none
  | del name => if name = rootName then none else (find t name).map fun i => (i, [])
  | modify name nname => if nname = [] then none else (find t name).map fun i => (i, nname)

/-- The name it gets fits into its field. -/
def Fits : Op → Prop
  | add name => name.length < 24
  | del _ => True
  | modify _ nname => nname.length < 24

instance : DecidablePred Fits
  | add name => inferInstanceAs (Decidable (name.length < 24))
  | del _ => inferInstanceAs (Decidable True)
  | modify _ nname => inferInstanceAs (Decidable (nname.length < 24))

end Op

/-- The table with one slot edited. -/
def write (t : Names) : Option (Nat × List UInt8) → Names
  | some e => Function.update t e.1 e.2
  | none => t

/-- The table after an operation, if there is one. -/
def apply (t : Names) (o : Option Op) : Names := write t (o.bind (Op.edit t))

theorem find_lt {t : Names} {name : List UInt8} {i : Nat} (h : Op.find t name = some i) :
    i < maxUsrNum ∧ name = t i ∧ ∀ j, j < i → name ≠ t j := by
  obtain ⟨hi, hname, hbefore⟩ := firstSlot_eq_some_iff.mp h
  exact ⟨hi, of_decide_eq_true hname, fun j hj => of_decide_eq_false (hbefore j hj)⟩

theorem find_none {t : Names} {name : List UInt8} (h : Op.find t name = none) :
    ∀ i, i < maxUsrNum → name ≠ t i := fun i hi =>
  of_decide_eq_false (firstSlot_eq_none_iff.mp h i hi)

theorem find_congr {t t' : Names} (h : SameBelow maxUsrNum t t') (name : List UInt8) :
    Op.find t name = Op.find t' name :=
  firstSlot_congr fun i hi => by rw [h i hi]

private theorem edit_congr {t t' : Names} (h : SameBelow maxUsrNum t t') (o : Op) :
    o.edit t = o.edit t' := by
  cases o <;> simp only [Op.edit, find_congr h]

/-- An operation edits slot `i` in one of three ways. -/
theorem edit_eq_some_iff {t : Names} {o : Op} {i : Nat} {x : List UInt8} :
    o.edit t = some (i, x) ↔
      o = .add x ∧ Op.find t x = none ∧ Op.find t [] = some i ∨
        (∃ name, o = .del name ∧ name ≠ rootName ∧ Op.find t name = some i ∧ x = []) ∨
        ∃ name, o = .modify name x ∧ x ≠ [] ∧ Op.find t name = some i := by
  cases o with
  | add name =>
      by_cases hnew : Op.find t name = none
      · simp only [Op.edit, if_pos hnew, Option.map_eq_some_iff, Prod.mk.injEq]
        grind
      · simp only [Op.edit, if_neg hnew]
        grind
  | del name =>
      by_cases hroot : name = rootName
      · simp only [Op.edit, if_pos hroot]
        grind
      · simp only [Op.edit, if_neg hroot, Option.map_eq_some_iff, Prod.mk.injEq]
        grind
  | modify name nname =>
      by_cases hnew : nname = []
      · simp only [Op.edit, if_pos hnew]
        grind
      · simp only [Op.edit, if_neg hnew, Option.map_eq_some_iff, Prod.mk.injEq]
        grind

/-- An operation makes a slot hold a new name exactly when it edits the slot to it. -/
theorem apply_eq_iff {t : Names} {u : Nat} {x : List UInt8} (h : t u ≠ x) (o : Op) :
    apply t (some o) u = x ↔ o.edit t = some (u, x) := by
  show write t (o.edit t) u = x ↔ _
  cases o.edit t with
  | none => exact iff_of_false h fun hnone => by cases hnone
  | some e =>
      show Function.update t e.1 e.2 u = x ↔ _
      by_cases hu : u = e.1
      · rw [hu, Function.update_self, Option.some_inj, Prod.ext_iff]
        exact ⟨fun hx => ⟨rfl, hx⟩, fun he => he.2⟩
      · rw [Function.update_of_ne hu]
        refine iff_of_false h fun he => hu ?_
        rw [Option.some.inj he]

/-- Tables with the same names stay such. -/
theorem apply_congr {t t' : Names} (h : SameBelow maxUsrNum t t') (o : Option Op) :
    SameBelow maxUsrNum (apply t o) (apply t' o) := by
  have hedit : o.bind (Op.edit t) = o.bind (Op.edit t') := by
    cases o with
    | none => rfl
    | some o => exact edit_congr h o
  rw [apply, apply, hedit]
  cases o.bind (Op.edit t') with
  | none => exact h
  | some e => exact h.update e.1 e.2

/-! ## The bytes of the table -/

/-- The names that `con_usr` holds. -/
def userNames (conf : Mem) : Names := fun i => cstr (usrName conf i)

/-- Every name ends inside its field. -/
def Tidy (conf : Mem) : Prop := ∀ i, i < maxUsrNum → (userNames conf i).length < 24

/-- `conf'` differs from `conf` at most from `lo` to `hi`. -/
def Within (lo hi : Nat) (conf conf' : Mem) : Prop := ∀ k, k < lo ∨ hi ≤ k → conf' k = conf k

theorem Within.trans {lo hi : Nat} {m m' m'' : Mem} (h : Within lo hi m m')
    (h' : Within lo hi m' m'') : Within lo hi m m'' :=
  fun k hk => (h' k hk).trans (h k hk)

theorem Within.mono {lo hi lo' hi' : Nat} {m m' : Mem} (h : Within lo hi m m') (hlo : lo' ≤ lo)
    (hhi : hi ≤ hi') : Within lo' hi' m m' :=
  fun k hk => h k (by omega)

theorem strcpy_within (m : Mem) {off n : Nat} {s : List UInt8} (h : s.length < n) :
    Within off (off + n) m (strcpy m off s) := by
  intro k hk
  apply blit_outside
  rw [List.length_append, List.length_singleton]
  omega

theorem fill_within (m : Mem) (off n : Nat) (v : UInt8) :
    Within off (off + n) m (fill m off n v) := by
  intro k hk
  exact if_neg (by omega)

/-- A name that is not written to stays. -/
theorem userNames_keep {conf conf' : Mem} {i : Nat}
    (h : ∀ k, k < 24 → conf' (usrOff i + 2 + k) = conf (usrOff i + 2 + k))
    (hi : (userNames conf i).length < 24) : userNames conf' i = userNames conf i :=
  cstr_congr (by rw [strLimit]; omega) (fun k hk => (h k hk).symm) hi

/-- Writing to one name field changes that name only. -/
theorem userNames_write {conf conf' : Mem} {i : Nat}
    (h : Within (usrOff i + 2) (usrOff i + 26) conf conf') (htidy : Tidy conf) :
    SameBelow maxUsrNum (userNames conf')
      (Function.update (userNames conf) i (userNames conf' i)) := by
  intro j hj
  by_cases hji : j = i
  · rw [hji, Function.update_self]
  · rw [Function.update_of_ne hji]
    apply userNames_keep _ (htidy j hj)
    intro k hk
    apply h
    simp only [usrOff]
    omega

/-- Writing to a password field changes no name. -/
theorem userNames_passwd {conf conf' : Mem} {i : Nat}
    (h : Within (usrOff i + 26) (usrOff i + 50) conf conf') (htidy : Tidy conf) :
    SameBelow maxUsrNum (userNames conf') (userNames conf) := by
  intro j hj
  apply userNames_keep _ (htidy j hj)
  intro k hk
  apply h
  simp only [usrOff]
  omega

/-- The authorities lie outside both fields. -/
theorem usrAuth_keep {conf conf' : Mem} {i lo hi : Nat} (h : Within lo hi conf conf')
    (hlo : usrOff i + 2 ≤ lo) (hhi : hi ≤ usrOff i + 50) (j : Nat) :
    usrAuth conf' j = usrAuth conf j := by
  apply h
  simp only [usrOff] at hlo hhi ⊢
  omega

theorem userNames_strcpy (conf : Mem) (i : Nat) {name : List UInt8} (hfits : name.length < 24)
    (hzero : (0 : UInt8) ∉ name) : userNames (strcpy conf (usrOff i + 2) name) i = name := by
  refine cstr_of_slice ?_ hzero (by rw [strLimit]; omega)
  have h := slice_blit_self conf (usrOff i + 2) (name ++ [0])
  rw [List.length_append, List.length_singleton] at h
  rw [usrName, slice_shift]
  exact h

theorem userNames_fill (conf : Mem) (i : Nat) :
    userNames (fill conf (usrOff i + 2) 24 0) i = [] := by
  apply (cstr_eq_nil_iff _).mpr
  show fill conf (usrOff i + 2) 24 0 (usrOff i + 2 + 0) = 0
  exact if_pos (by omega)

/-! ## One slot changed -/

/-- `conf'` is `conf` with one name changed, and perhaps passwords. -/
structure Edited (conf : Mem) (e : Option (Nat × List UInt8)) (conf' : Mem) : Prop where
  names : SameBelow maxUsrNum (userNames conf') (write (userNames conf) e)
  auth : ∀ i, usrAuth conf' i = usrAuth conf i

theorem Edited.refl (conf : Mem) : Edited conf none conf := ⟨fun _ _ => rfl, fun _ => rfl⟩

private theorem edited_name {conf conf' : Mem} {i : Nat} {name : List UInt8}
    (h : Within (usrOff i + 2) (usrOff i + 26) conf conf') (hname : userNames conf' i = name)
    (htidy : Tidy conf) : Edited conf (some (i, name)) conf' where
  names := by
    have hwrite := userNames_write h htidy
    rw [hname] at hwrite
    exact hwrite
  auth := usrAuth_keep (i := i) h (by omega) (by omega)

private theorem edited_passwd {conf conf' : Mem} {i : Nat}
    (h : Within (usrOff i + 26) (usrOff i + 50) conf conf') (htidy : Tidy conf) :
    Edited conf none conf' :=
  ⟨userNames_passwd h htidy, usrAuth_keep (i := i) h (by omega) (by omega)⟩

theorem Edited.tidy {conf conf' : Mem} {e : Option (Nat × List UInt8)} (h : Edited conf e conf')
    (htidy : Tidy conf) (hfits : ∀ x ∈ e, x.2.length < 24) : Tidy conf' := by
  intro i hi
  rw [h.names i hi]
  cases e with
  | none => exact htidy i hi
  | some x =>
      show (Function.update (userNames conf) x.1 x.2 i).length < 24
      by_cases hix : i = x.1
      · rw [hix, Function.update_self]
        exact hfits x rfl
      · rw [Function.update_of_ne hix]
        exact htidy i hi

/-- A password written after a name leaves the name. -/
theorem Edited.andPasswd {conf conf' conf'' : Mem} {e : Option (Nat × List UInt8)}
    (h : Edited conf e conf') (h' : Edited conf' none conf'') : Edited conf e conf'' :=
  ⟨h'.names.trans h.names, fun i => (h'.auth i).trans (h.auth i)⟩

/-! ## The operations of `config.c` -/

theorem getUsrInfo_eq (conf : Mem) (name : List UInt8) :
    getUsrInfo conf name = Op.find (userNames conf) name := rfl

/-- A slot whose name starts with its terminator is one with the empty name. -/
theorem freeSlot_eq (conf : Mem) :
    (findSlot fun i => usrName conf i 0 = 0) = Op.find (userNames conf) [] := by
  apply firstSlot_congr
  intro i _
  rw [decide_eq_decide]
  constructor
  · exact fun h => ((cstr_eq_nil_iff _).mpr h).symm
  · exact fun h => (cstr_eq_nil_iff _).mp h.symm

private theorem sysUsrAdd_edited (d : Device) {name psw : List UInt8} (htidy : Tidy d.conf)
    (hname : name.length < 24) (hpsw : psw.length < 24) (hzero : (0 : UInt8) ∉ name) :
    Edited d.conf ((Op.find (userNames d.conf) []).map fun i => (i, name))
      (sysUsrAdd d name psw).1.conf := by
  unfold sysUsrAdd
  rw [freeSlot_eq]
  cases Op.find (userNames d.conf) [] with
  | none => exact .refl d.conf
  | some i =>
      have hwrite : Edited d.conf (some (i, name)) (strcpy d.conf (usrOff i + 2) name) :=
        edited_name (strcpy_within _ hname) (userNames_strcpy _ i hname hzero) htidy
      have htidy' := hwrite.tidy htidy fun x hx => by cases hx; exact hname
      exact hwrite.andPasswd (edited_passwd (strcpy_within _ hpsw) htidy')

private theorem sysUsrDel_edited (d : Device) (name : List UInt8) (htidy : Tidy d.conf) :
    Edited d.conf ((Op.find (userNames d.conf) name).map fun i => (i, []))
      (sysUsrDel d name).1.conf := by
  unfold sysUsrDel
  rw [getUsrInfo_eq]
  cases Op.find (userNames d.conf) name with
  | none => exact .refl d.conf
  | some i => exact edited_name (fill_within _ _ 24 0) (userNames_fill _ i) htidy

private theorem setUsrName_edited (d : Device) (oname : List UInt8) {nname : List UInt8}
    (htidy : Tidy d.conf) (hname : nname.length < 24) (hzero : (0 : UInt8) ∉ nname) :
    Edited d.conf ((Op.find (userNames d.conf) oname).map fun i => (i, nname))
      (setUsrName d oname nname).1.conf := by
  unfold setUsrName
  rw [getUsrInfo_eq]
  cases Op.find (userNames d.conf) oname with
  | none => exact .refl d.conf
  | some i =>
      exact edited_name ((fill_within _ _ 24 0).trans (strcpy_within _ hname))
        (userNames_strcpy _ i hname hzero) htidy

private theorem setUsrPsw_edited (d : Device) (name : List UInt8) {psw : List UInt8}
    (htidy : Tidy d.conf) (hpsw : psw.length < 24) :
    Edited d.conf none (setUsrPsw d name psw).1.conf := by
  unfold setUsrPsw
  cases getUsrInfo d.conf name with
  | none => exact .refl d.conf
  | some i => exact edited_passwd ((fill_within _ _ 24 0).trans (strcpy_within _ hpsw)) htidy

/-! ## `sys_usr_set` -/

/-- The operation that a flag and the received records ask for. -/
def opOf (flag : UInt8) (extdat : Mem) : Option Op :=
  match UserSet.ofByte flag with
  | some .add => some (.add (cstr (shift extdat 2)))
  | some .del => some (.del (cstr (shift extdat 2)))
  | some .modify => some (.modify (cstr (shift extdat 2)) (cstr (shift extdat (usrSize + 2))))
  | none => none

/-- The password that the operation copies ends inside its field. -/
def PasswdFits (flag : UInt8) (extdat : Mem) : Prop :=
  (UserSet.ofByte flag = some .add → (cstr (shift extdat 26)).length < 24) ∧
    (UserSet.ofByte flag = some .modify → (cstr (shift extdat (usrSize + 26))).length < 24)

instance (flag : UInt8) (extdat : Mem) : Decidable (PasswdFits flag extdat) :=
  inferInstanceAs (Decidable (_ ∧ _))

/-- The operation of an admitted request. -/
def operation (conf : Mem) (r : UserRequest) : Option Op :=
  if Admitted conf r then opOf r.flag r.extdat else none

/-- The strings that an admitted request copies end inside their fields. -/
structure Terminated (conf : Mem) (r : UserRequest) : Prop where
  name : ∀ o ∈ operation conf r, o.Fits
  passwd : Admitted conf r → PasswdFits r.flag r.extdat

private theorem applyUserSet_edited {flag : UInt8} {extdat : Mem} (d : Device) (htidy : Tidy d.conf)
    (hname : ∀ o ∈ opOf flag extdat, o.Fits) (hpsw : PasswdFits flag extdat) :
    Edited d.conf ((opOf flag extdat).bind (Op.edit (userNames d.conf)))
      (applyUserSet flag extdat d).1.conf := by
  unfold applyUserSet
  unfold opOf at hname ⊢
  cases hflag : UserSet.ofByte flag with
  | none => exact .refl d.conf
  | some o =>
      rw [hflag] at hname
      cases o with
      | add =>
          have hfits : (cstr (shift extdat 2)).length < 24 := hname _ rfl
          dsimp only [Option.bind_some, Op.edit]
          rw [getUsrInfo_eq]
          by_cases hfree : Op.find (userNames d.conf) (cstr (shift extdat 2)) = none
          · rw [if_pos hfree, if_pos hfree]
            exact sysUsrAdd_edited d htidy hfits (hpsw.1 hflag) (zero_notMem_cstr _)
          · rw [if_neg hfree, if_neg hfree]
            exact .refl d.conf
      | del =>
          dsimp only [Option.bind_some, Op.edit]
          rw [getUsrInfo_eq]
          by_cases hroot : cstr (shift extdat 2) = rootName
          · rw [if_pos hroot]
            split
            · exact .refl d.conf
            · exact .refl d.conf
          · rw [if_neg hroot]
            by_cases hfound : Op.find (userNames d.conf) (cstr (shift extdat 2)) = none
            · rw [if_pos hfound, hfound]
              exact .refl d.conf
            · rw [if_neg hfound, if_neg hroot]
              exact sysUsrDel_edited d _ htidy
      | modify =>
          have hfits : (cstr (shift extdat (usrSize + 2))).length < 24 := hname _ rfl
          dsimp only [Option.bind_some, Op.edit]
          by_cases hnew : cstr (shift extdat (usrSize + 2)) = []
          · have hbyte : extdat (usrSize + 2) = 0 := (cstr_eq_nil_iff _).mp hnew
            rw [if_pos hnew, if_neg (not_not_intro hbyte)]
            exact setUsrPsw_edited d _ htidy (hpsw.2 hflag)
          · have hbyte : extdat (usrSize + 2) ≠ 0 := fun h => hnew ((cstr_eq_nil_iff _).mpr h)
            rw [if_neg hnew, if_pos hbyte]
            have hrename := setUsrName_edited d (cstr (shift extdat 2)) htidy hfits
              (zero_notMem_cstr _)
            have htidy' := hrename.tidy htidy fun x hx => by
              obtain ⟨i, _, rfl⟩ := Option.map_eq_some_iff.mp hx
              exact hfits
            exact hrename.andPasswd (setUsrPsw_edited _ _ htidy' (hpsw.2 hflag))

theorem handle_edited (d : Device) {r : UserRequest} (htidy : Tidy d.conf)
    (hterm : Terminated d.conf r) :
    Edited d.conf ((operation d.conf r).bind (Op.edit (userNames d.conf))) (handle d r).conf := by
  have hname := hterm.name
  rw [handle_eq, operation]
  rw [operation] at hname
  by_cases hadm : Admitted d.conf r
  · rw [if_pos hadm] at hname
    rw [if_pos hadm, if_pos hadm]
    exact applyUserSet_edited d htidy hname (hterm.passwd hadm)
  · rw [if_neg hadm, if_neg hadm]
    exact .refl d.conf

private theorem edit_fits {t : Names} {o : Op} (h : o.Fits) : ∀ e ∈ o.edit t, e.2.length < 24 := by
  rintro ⟨i, x⟩ hedit
  rcases edit_eq_some_iff.mp hedit with ⟨rfl, -⟩ | ⟨_, -, -, -, rfl⟩ | ⟨_, rfl, -⟩
  · exact h
  · exact Nat.zero_lt_succ _
  · exact h

theorem handle_tidy (d : Device) {r : UserRequest} (htidy : Tidy d.conf)
    (hterm : Terminated d.conf r) : Tidy (handle d r).conf := by
  refine (handle_edited d htidy hterm).tidy htidy fun x hx => ?_
  obtain ⟨o, ho, hx⟩ := Option.bind_eq_some_iff.mp hx
  exact edit_fits (hterm.name o ho) x hx

/-! ## Runs -/

/-- `USR_NORMAL`. -/
def usrNormal : UInt8 := 0

/-- `con_usr` holds the names `t`, each inside its field, and slot 0 alone has
`USR_ROOT`. -/
structure Holds (d : Device) (t : Names) : Prop where
  names : SameBelow maxUsrNum (userNames d.conf) t
  tidy : Tidy d.conf
  auth : ∀ i, i < maxUsrNum → usrAuth d.conf i = if i = 0 then usrRoot else usrNormal

/-- The request is handled by a table of names. -/
def step (t : Names) (r : UserRequest) : Names :=
  if r.conn.isOpen = true ∧ Op.find t (requester r.head) = some 0 then
    apply t (opOf r.flag r.extdat)
  else t

/-- Whoever is in slot 0 is admitted. -/
theorem Holds.admitted_iff {d : Device} {t : Names} (h : Holds d t) (r : UserRequest) :
    Admitted d.conf r ↔ r.conn.isOpen = true ∧ Op.find t (requester r.head) = some 0 := by
  rw [Admitted, getUsrInfo_eq, find_congr h.names]
  apply and_congr_right
  intro _
  constructor
  · rintro ⟨u, hu, hroot⟩
    rw [h.auth u (find_lt hu).1] at hroot
    by_cases hu0 : u = 0
    · rw [← hu0]
      exact hu
    · rw [if_neg hu0] at hroot
      exact absurd hroot (by decide)
  · intro hu
    exact ⟨0, hu, h.auth 0 (by decide)⟩

/-- What a request does to the bytes of `con_usr` it does to the names. -/
theorem Holds.handle {d : Device} {t : Names} (h : Holds d t) {r : UserRequest}
    (hterm : Terminated d.conf r) : Holds (handle d r) (step t r) where
  names := by
    have hstep : step t r = apply t (operation d.conf r) := by
      rw [step, operation]
      by_cases hadm : Admitted d.conf r
      · rw [if_pos ((h.admitted_iff r).mp hadm), if_pos hadm]
      · rw [if_neg fun hc => hadm ((h.admitted_iff r).mpr hc), if_neg hadm]
        rfl
    rw [hstep]
    exact (handle_edited d h.tidy hterm).names.trans (apply_congr h.names _)
  tidy := handle_tidy d h.tidy hterm
  auth := fun i hi => ((handle_edited d h.tidy hterm).auth i).trans (h.auth i hi)

/-- Every admitted operation of the run copies strings that end inside their
fields. -/
def TerminatedRun (d : Device) (rs : List UserRequest) : Prop :=
  StepsSatisfy Accounts.handle (fun d r => Terminated d.conf r) d rs

/-- The strings of the request end inside their fields, admitted or not. -/
def StringsFit (r : UserRequest) : Prop :=
  (∀ o ∈ opOf r.flag r.extdat, o.Fits) ∧ PasswdFits r.flag r.extdat

instance (r : UserRequest) : Decidable (StringsFit r) := inferInstanceAs (Decidable (_ ∧ _))

theorem StringsFit.terminated {r : UserRequest} (h : StringsFit r) (conf : Mem) :
    Terminated conf r where
  name := by
    rw [operation]
    split
    · exact h.1
    · intro o ho
      cases ho
  passwd _ := h.2

theorem terminatedRun_of_fit {rs : List UserRequest} (h : ∀ r ∈ rs, StringsFit r) (d : Device) :
    TerminatedRun d rs := by
  induction rs generalizing d with
  | nil => trivial
  | cons r rs ih =>
      exact ⟨(h r List.mem_cons_self).terminated d.conf,
        ih (fun r' hr' => h r' (List.mem_cons_of_mem r hr')) _⟩

/-- A run on the bytes of `con_usr` is one on the names. -/
theorem Holds.run {d : Device} {t : Names} (h : Holds d t) {rs : List UserRequest}
    (hterm : TerminatedRun d rs) : Holds (exec Accounts.handle d rs) (exec step t rs) := by
  induction rs generalizing d t with
  | nil => exact h
  | cons r rs ih => exact ih (h.handle hterm.1) hterm.2

/-! ## Before `con_usr` -/

private theorem strcpy_below (m : Mem) (s : List UInt8) {off k : Nat} (hoff : usrOff 0 ≤ off)
    (hk : k < usrOff 0) : strcpy m off s k = m k :=
  strcpy_before m s (by omega)

private theorem sysUsrAdd_below (d : Device) (name psw : List UInt8) {k : Nat} (hk : k < usrOff 0) :
    (sysUsrAdd d name psw).1.conf k = d.conf k := by
  unfold sysUsrAdd
  split
  · show strcpy _ _ _ k = _
    rw [strcpy_below _ _ (by simp only [usrOff]; omega) hk,
      strcpy_below _ _ (by simp only [usrOff]; omega) hk]
  · rfl

private theorem sysUsrDel_below (d : Device) (name : List UInt8) {k : Nat} (hk : k < usrOff 0) :
    (sysUsrDel d name).1.conf k = d.conf k := by
  simp only [usrOff] at hk
  unfold sysUsrDel
  split
  · exact fill_before _ _ _ (by simp only [usrOff]; omega)
  · rfl

private theorem setUsrName_below (d : Device) (oname nname : List UInt8) {k : Nat}
    (hk : k < usrOff 0) :
    (setUsrName d oname nname).1.conf k = d.conf k := by
  unfold setUsrName
  split
  · show strcpy _ _ _ k = _
    rw [strcpy_below _ _ (by simp only [usrOff]; omega) hk]
    exact fill_before _ _ _ (by simp only [usrOff] at hk ⊢; omega)
  · rfl

private theorem setUsrPsw_below (d : Device) (name psw : List UInt8) {k : Nat} (hk : k < usrOff 0) :
    (setUsrPsw d name psw).1.conf k = d.conf k := by
  unfold setUsrPsw
  split
  · show strcpy _ _ _ k = _
    rw [strcpy_below _ _ (by simp only [usrOff]; omega) hk]
    exact fill_before _ _ _ (by simp only [usrOff] at hk ⊢; omega)
  · rfl

/-- However long its strings are, a request writes behind the start of `con_usr`. -/
theorem handle_below (d : Device) (r : UserRequest) {k : Nat} (hk : k < usrOff 0) :
    (handle d r).conf k = d.conf k := by
  rw [handle_eq]
  split
  · unfold applyUserSet
    dsimp only
    split
    · split
      · exact sysUsrAdd_below d _ _ hk
      · rfl
    · split
      · rfl
      · split
        · rfl
        · exact sysUsrDel_below d _ hk
    · split
      · rw [setUsrPsw_below _ _ _ hk, setUsrName_below _ _ _ hk]
      · exact setUsrPsw_below d _ _ hk
    · rfl
  · rfl

/-! ## The default table -/

/-- `crypt` with the salt `NC616` makes 13 characters. -/
def CryptFits (b : Build) : Prop := b.rootPasswd.length < 24

def defaultNames : Names := Function.update (fun _ => []) 0 rootName

private theorem defaultNames_fits (i : Nat) : (defaultNames i).length < 24 := by
  rw [defaultNames]
  by_cases hi : i = 0
  · rw [hi, Function.update_self]
    decide
  · rw [Function.update_of_ne hi]
    exact Nat.zero_lt_succ _

private theorem emptied_names (m : Mem) {i : Nat} (hi : i < maxUsrNum) :
    userNames (forUpTo maxUsrNum defaultUsr m) i = [] := by
  apply (cstr_eq_nil_iff _).mpr
  exact defaultUsr_empty m hi ⟨by omega, by omega⟩

/-- The accounts of `config_makedefault`: `root` in slot 0. -/
theorem configMakedefault_edited (b : Build) (m : Mem) (hcrypt : CryptFits b) :
    ∃ m', Edited (forUpTo maxUsrNum defaultUsr m') (some (0, rootName))
        (strcpy (strcpy (forUpTo maxUsrNum defaultUsr m') (usrOff 0 + 2) rootName)
          (usrOff 0 + 26) b.rootPasswd) ∧
      ∀ k, k < serverOff → configMakedefault b m k =
        store (strcpy (strcpy (forUpTo maxUsrNum defaultUsr m') (usrOff 0 + 2) rootName)
          (usrOff 0 + 26) b.rootPasswd) (usrOff 0 + 50) usrRoot k := by
  obtain ⟨m', hm⟩ := configMakedefault_usr b m
  refine ⟨m', ?_, hm⟩
  have htidy : Tidy (forUpTo maxUsrNum defaultUsr m') := by
    intro i hi
    rw [emptied_names m' hi]
    exact Nat.zero_lt_succ _
  have hroot : rootName.length < 24 := by decide
  have hname : Edited (forUpTo maxUsrNum defaultUsr m') (some (0, rootName))
      (strcpy (forUpTo maxUsrNum defaultUsr m') (usrOff 0 + 2) rootName) :=
    edited_name (strcpy_within _ hroot) (userNames_strcpy _ 0 hroot (by decide)) htidy
  have htidy' := hname.tidy htidy fun x hx => by cases hx; exact hroot
  exact hname.andPasswd (edited_passwd (strcpy_within _ hcrypt) htidy')

private theorem configMakedefault_names (b : Build) (m : Mem) (hcrypt : CryptFits b) :
    SameBelow maxUsrNum (userNames (configMakedefault b m)) defaultNames := by
  obtain ⟨m', hedited, hm⟩ := configMakedefault_edited b m hcrypt
  intro i hi
  have hnames := hedited.names i hi
  have hempty : write (userNames (forUpTo maxUsrNum defaultUsr m')) (some (0, rootName)) i =
      defaultNames i := by
    by_cases hi0 : i = 0
    · rw [hi0]
      rfl
    · show Function.update (userNames (forUpTo maxUsrNum defaultUsr m')) 0 rootName i = _
      rw [defaultNames, Function.update_of_ne hi0, Function.update_of_ne hi0,
        emptied_names m' hi]
  rw [hempty] at hnames
  rw [← hnames]
  apply userNames_keep
  · intro k hk
    simp only [maxUsrNum] at hi
    rw [hm _ (by simp only [usrOff, serverOff]; omega),
      store_ne _ _ (by simp only [usrOff]; omega)]
  · rw [hnames]
    exact defaultNames_fits i

/-- The default configuration holds the table with `root` in slot 0. -/
theorem configMakedefault_holds {b : Build} {m : Mem} {d : Device} (hcrypt : CryptFits b)
    (hd : d.conf = configMakedefault b m) : Holds d defaultNames where
  names := by
    rw [hd]
    exact configMakedefault_names b m hcrypt
  tidy := by
    intro i hi
    rw [hd, configMakedefault_names b m hcrypt i hi]
    exact defaultNames_fits i
  auth := by
    intro i hi
    obtain ⟨m', hedited, hm⟩ := configMakedefault_edited b m hcrypt
    simp only [maxUsrNum] at hi
    rw [hd, usrAuth, hm _ (by simp only [usrOff, serverOff]; omega)]
    by_cases hi0 : i = 0
    · rw [hi0, if_pos rfl, store_self]
    · rw [if_neg hi0, store_ne _ _ (by simp only [usrOff]; omega)]
      have hauth := hedited.auth i
      rw [usrAuth, usrAuth, defaultUsr_empty m' hi ⟨by omega, by omega⟩] at hauth
      exact hauth

/-! ## Requests and devices -/

/-- The user `name` asks for `c` with two records. -/
def requestOf (name : List UInt8) (c : UserSet) (records : List UInt8) : UserRequest where
  env := Env.idle
  head := strcpy (store (itsipPack zero ItsCmd.userSet.code 112 0) 32 c.code) 8 name
  conn := ⟨true, [.data records 0], [], []⟩
  itsip := rfl
  command := rfl

/-- A `USR_INFO` with a name and a password. -/
def usrRecord (name psw : List UInt8) : List UInt8 :=
  slice (strcpy (strcpy zero 2 name) 26 psw) 0 usrSize

/-- The build whose password is `crypt("123456", "NC616")`. -/
def factoryBuild : Build :=
  ⟨[], chars ['N', 'C', 'C', 'G', 'Y', '4', '1', 'P', 'c', 'F', '3', 'r', 'o']⟩

theorem factoryBuild_fits : CryptFits factoryBuild := by
  show factoryBuild.rootPasswd.length < 24
  decide

/-- The device in the configuration of that build. -/
def factoryDevice : Device := Device.start (configMakedefault factoryBuild zero)

theorem factoryDevice_holds : Holds factoryDevice defaultNames :=
  configMakedefault_holds factoryBuild_fits rfl

end Itertk.Web.Accounts
