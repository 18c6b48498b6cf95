import Itertk.Base.Field
import Itertk.Web.UserPayload

/-!
# The outcome of `USER_MODIFY`

`sys_usr_set` renames the first user with the old name, and then gives the new password to
the first user with the new name.  It compares the results of `set_usr_name` and
`set_usr_psw` with `FAILURE`, which neither returns, and the address of the new password
with `'\0'`, so that it ends in `USR_MODIFY_OK` whatever it has found.

The records lie in the first 112 bytes of what arrives.  More bytes than these run over `extdat`,
which has no end in the model: what they overwrite on the stack is not part of the results.

## Main result

* `modifyHandled_iff` — when the result and the table are what they should be.
-/

namespace Itertk.Web.UserModify

open Itertk.Base.Memory
open Itertk.Base.Field
open Itertk.Daemon.Layout
open Itertk.Daemon.Config
open Itertk.Daemon.State
open Itertk.Itsip.Header
open Itertk.Web.Users
open Itertk.Web.Handlers
open Itertk.Web.Accounts
open Itertk.Web.UserPayload

/-! ## Fields -/

/-- `usr_name` of slot `i` is cleared and gets a new string. -/
def putName (conf : Mem) (i : Nat) (name : List UInt8) : Mem := putField conf (usrOff i + 2) 24 name

/-- `usr_passwd` of slot `i` is cleared and gets a new string. -/
def putPasswd (conf : Mem) (i : Nat) (psw : List UInt8) : Mem :=
  putField conf (usrOff i + 26) 24 psw

/-- The password of slot `i`. -/
def userPasswd (conf : Mem) (i : Nat) : List UInt8 := cstr (usrPasswd conf i)

private theorem setUsrName_conf (d : Device) (oname nname : List UInt8) :
    (setUsrName d oname nname).1.conf =
      ((getUsrInfo d.conf oname).map fun i => putName d.conf i nname).getD d.conf := by
  unfold setUsrName
  cases getUsrInfo d.conf oname with
  | none => rfl
  | some i => rfl

private theorem setUsrPsw_conf (d : Device) (name psw : List UInt8) :
    (setUsrPsw d name psw).1.conf =
      ((getUsrInfo d.conf name).map fun i => putPasswd d.conf i psw).getD d.conf := by
  unfold setUsrPsw
  cases getUsrInfo d.conf name with
  | none => rfl
  | some i => rfl

theorem userNames_putName (conf : Mem) (i : Nat) {name : List UInt8} (hfits : name.length < 24)
    (hzero : (0 : UInt8) ∉ name) : userNames (putName conf i name) i = name :=
  userNames_strcpy _ i hfits hzero

theorem userPasswd_strcpy (conf : Mem) (i : Nat) {psw : List UInt8} (hfits : psw.length < 24)
    (hzero : (0 : UInt8) ∉ psw) : userPasswd (strcpy conf (usrOff i + 26) psw) i = psw := by
  refine cstr_of_slice ?_ hzero (by rw [strLimit]; omega)
  have h := slice_blit_self conf (usrOff i + 26) (psw ++ [0])
  rw [List.length_append, List.length_singleton] at h
  rw [usrPasswd, slice_shift]
  exact h

private theorem userPasswd_putPasswd (conf : Mem) (i : Nat) {psw : List UInt8}
    (hfits : psw.length < 24)
    (hzero : (0 : UInt8) ∉ psw) : userPasswd (putPasswd conf i psw) i = psw :=
  userPasswd_strcpy _ i hfits hzero

/-! ## The request -/

/-- The old name. -/
def oldName (env : Env) (head : Mem) (s : Session) : List UInt8 :=
  cstr (shift (extdat env head s.conn) 2)

/-- The new name. -/
def newName (env : Env) (head : Mem) (s : Session) : List UInt8 :=
  cstr (shift (extdat env head s.conn) (usrSize + 2))

/-- The new password. -/
def newPasswd (env : Env) (head : Mem) (s : Session) : List UInt8 :=
  cstr (shift (extdat env head s.conn) (usrSize + 26))

/-- A `USER_MODIFY` of a user with `USR_ROOT`; what it writes into the table ends inside its
fields. -/
structure ModifyRequest (env : Env) (head : Mem) (s : Session) : Prop where
  root : FromRoot s.dev.conf head
  flag : itsipData head 0 = UserSet.modify.code
  new : (newName env head s).length < 24
  passwd : (newPasswd env head s).length < 24

/-- The user in slot `i` is the one with the name. -/
def Registered (conf : Mem) (name : List UInt8) (i : Nat) : Prop :=
  name ≠ [] ∧ getUsrInfo conf name = some i

/-- Slot `i` has the new name, if there is one, and the new password; nothing else has
changed. -/
structure Modified (conf : Mem) (i : Nat) (nname npsw : List UInt8) (conf' : Mem) : Prop where
  name : nname ≠ [] → userNames conf' i = nname
  passwd : userPasswd conf' i = npsw
  frame : Within (if nname = [] then usrOff i + 26 else usrOff i + 2) (usrOff i + 50) conf conf'

/-- There is such a user, and something to give him. -/
def Modifiable (env : Env) (head : Mem) (s : Session) (i : Nat) : Prop :=
  Registered s.dev.conf (oldName env head s) i ∧
    (newName env head s ≠ [] ∨ newPasswd env head s ≠ [])

structure ModifyHandled (env : Env) (head : Mem) (s : Session) : Prop where
  ok_iff : (sysUsrSet env head s).2 = .usrModifyOk ↔ ∃ i, Modifiable env head s i
  modified : ∀ i, Modifiable env head s i →
    Modified s.dev.conf i (newName env head s) (newPasswd env head s)
      (sysUsrSet env head s).1.dev.conf
  failed : (∀ i, ¬Modifiable env head s i) →
    conUsr (sysUsrSet env head s).1.dev.conf = conUsr s.dev.conf ∧
      (sysUsrSet env head s).2 = .usrModifyFailed

/-- The new password goes to slot `i`, or to a slot that has it already, like slot `i`. -/
def PasswdLands (conf : Mem) (i : Nat) (nname npsw : List UInt8) : Prop :=
  ∀ j, getUsrInfo (putName conf i nname) nname = some j →
    j = i ∨ HoldsField conf (usrOff j + 26) 24 npsw ∧ userPasswd conf i = npsw

/-! ## What the code does -/

/-- The configuration after `USER_MODIFY`. -/
def modifyConf (conf : Mem) (oname nname npsw : List UInt8) : Mem :=
  if nname = [] then ((getUsrInfo conf oname).map fun i => putPasswd conf i npsw).getD conf
  else
    let conf := ((getUsrInfo conf oname).map fun i => putName conf i nname).getD conf
    ((getUsrInfo conf nname).map fun j => putPasswd conf j npsw).getD conf

theorem applyUserSet_modify {flag : UInt8} (hflag : UserSet.ofByte flag = some .modify)
    (extdat : Mem) (d : Device) :
    (applyUserSet flag extdat d).1.conf =
        modifyConf d.conf (cstr (shift extdat 2)) (cstr (shift extdat (usrSize + 2)))
          (cstr (shift extdat (usrSize + 26))) ∧
      (applyUserSet flag extdat d).2 = .usrModifyOk := by
  unfold applyUserSet modifyConf
  rw [hflag]
  dsimp only
  have hempty : cstr (shift extdat (usrSize + 2)) = [] ↔ extdat (usrSize + 2) = 0 :=
    cstr_eq_nil_iff _
  by_cases hnew : cstr (shift extdat (usrSize + 2)) = []
  · rw [if_neg (not_not_intro (hempty.mp hnew)), if_pos hnew, setUsrPsw_conf]
    exact ⟨rfl, rfl⟩
  · rw [if_pos (fun h => hnew (hempty.mpr h)), if_neg hnew]
    refine ⟨?_, rfl⟩
    dsimp only
    rw [setUsrPsw_conf, setUsrName_conf]

private theorem ModifyRequest.course {env : Env} {head : Mem} {s : Session}
    (h : ModifyRequest env head s) :
    (sysUsrSet env head s).1.dev.conf =
        modifyConf s.dev.conf (oldName env head s) (newName env head s) (newPasswd env head s) ∧
      (sysUsrSet env head s).2 = .usrModifyOk := by
  obtain ⟨hdev, hret⟩ := sysUsrSet_root env h.root
  rw [h.flag] at hdev hret
  rw [hdev, hret]
  exact applyUserSet_modify rfl _ s.dev

/-! ## When it is right -/

theorem putName_within (conf : Mem) (i : Nat) {name : List UInt8} (h : name.length < 24) :
    Within (usrOff i + 2) (usrOff i + 26) conf (putName conf i name) :=
  fun _ hk => putField_outside conf h (by omega)

theorem putPasswd_within (conf : Mem) (i : Nat) {psw : List UInt8} (h : psw.length < 24) :
    Within (usrOff i + 26) (usrOff i + 50) conf (putPasswd conf i psw) :=
  fun _ hk => putField_outside conf h (by omega)

/-- A rename leaves the passwords. -/
theorem userPasswd_putName (conf : Mem) (i : Nat) {name : List UInt8} (h : name.length < 24) :
    userPasswd (putName conf i name) i = userPasswd conf i := by
  have hsame : usrPasswd (putName conf i name) i = usrPasswd conf i := by
    funext k
    exact putName_within conf i h _ (.inr (by omega))
  rw [userPasswd, hsame, userPasswd]

theorem holdsField_putName (conf : Mem) (i j : Nat) {name psw : List UInt8} (h : name.length < 24) :
    HoldsField (putName conf i name) (usrOff j + 26) 24 psw ↔
      HoldsField conf (usrOff j + 26) 24 psw := by
  apply HoldsField.congr
  intro k hk
  apply putName_within conf i h
  simp only [usrOff]
  omega

section

variable {conf : Mem} {i : Nat} {nname npsw : List UInt8} (hname : nname.length < 24)
  (hname0 : (0 : UInt8) ∉ nname) (hpsw : npsw.length < 24) (hpsw0 : (0 : UInt8) ∉ npsw)

include hpsw hpsw0

/-- Only the password is given. -/
theorem modified_putPasswd : Modified conf i [] npsw (putPasswd conf i npsw) where
  name := fun h => absurd rfl h
  passwd := userPasswd_putPasswd conf i hpsw hpsw0
  frame := by
    rw [if_pos rfl]
    exact putPasswd_within conf i hpsw

include hname hname0

/-- The password goes to the slot that has been renamed. -/
theorem modified_self (hnew : nname ≠ []) :
    Modified conf i nname npsw (putPasswd (putName conf i nname) i npsw) where
  name := by
    intro _
    have hrenamed := userNames_putName conf i hname hname0
    have hkept : userNames (putPasswd (putName conf i nname) i npsw) i =
        userNames (putName conf i nname) i := by
      apply userNames_keep
      · exact fun k hk => putPasswd_within _ i hpsw _ (.inl (by omega))
      · rw [hrenamed]
        exact hname
    rw [hkept, hrenamed]
  passwd := userPasswd_putPasswd _ i hpsw hpsw0
  frame := by
    rw [if_neg hnew]
    have hrename :=
      (putName_within conf i hname).mono (Nat.le_refl _) (show _ ≤ usrOff i + 50 by omega)
    exact hrename.trans ((putPasswd_within _ i hpsw).mono (by omega) (by omega))

omit hpsw0 in
/-- The password goes to another slot. -/
theorem modified_other_iff (hnew : nname ≠ []) {j : Nat} (hj : j ≠ i) :
    Modified conf i nname npsw (putPasswd (putName conf i nname) j npsw) ↔
      HoldsField conf (usrOff j + 26) 24 npsw ∧ userPasswd conf i = npsw := by
  constructor
  · intro h
    have hholds : HoldsField conf (usrOff j + 26) 24 npsw := by
      intro k hk
      rw [← putField_holds (putName conf i nname) (usrOff j + 26) 24 npsw k hk]
      refine (h.frame _ ?_).symm
      rw [if_neg hnew]
      simp only [usrOff]
      omega
    refine ⟨hholds, ?_⟩
    have hsame := (putField_eq_self_iff _ hpsw).mpr ((holdsField_putName conf i j hname).mpr hholds)
    have hpasswd := h.passwd
    rw [putPasswd, hsame, userPasswd_putName conf i hname] at hpasswd
    exact hpasswd
  · rintro ⟨hholds, hpasswd⟩
    have hsame := (putField_eq_self_iff _ hpsw).mpr ((holdsField_putName conf i j hname).mpr hholds)
    rw [putPasswd, hsame]
    constructor
    · exact fun _ => userNames_putName conf i hname hname0
    · rw [userPasswd_putName conf i hname]
      exact hpasswd
    · rw [if_neg hnew]
      exact (putName_within conf i hname).mono (Nat.le_refl _) (by omega)

/-- A user is modified as he should be exactly if he keeps his name, or the password lands
where it belongs. -/
theorem modified_iff {oname : List UInt8} (hslot : getUsrInfo conf oname = some i) :
    Modified conf i nname npsw (modifyConf conf oname nname npsw) ↔
      nname = [] ∨ PasswdLands conf i nname npsw := by
  unfold modifyConf
  rw [hslot]
  by_cases hnew : nname = []
  · subst hnew
    rw [if_pos rfl]
    exact iff_of_true (modified_putPasswd hpsw hpsw0) (.inl rfl)
  · rw [if_neg hnew, or_iff_right hnew]
    show Modified conf i nname npsw
      (((getUsrInfo (putName conf i nname) nname).map fun j =>
        putPasswd (putName conf i nname) j npsw).getD (putName conf i nname)) ↔ _
    unfold PasswdLands
    cases hfound : getUsrInfo (putName conf i nname) nname with
    | none =>
        have hi := (find_lt hslot).1
        exact absurd (userNames_putName conf i hname hname0).symm (find_none hfound i hi)
    | some j =>
        show Modified conf i nname npsw (putPasswd (putName conf i nname) j npsw) ↔ _
        by_cases hj : j = i
        · subst hj
          refine iff_of_true (modified_self hname hname0 hpsw hpsw0 hnew) ?_
          intro k hk
          exact .inl (Option.some.inj hk).symm
        · rw [modified_other_iff hname hname0 hpsw hnew hj]
          constructor
          · intro h k hk
            rw [← Option.some.inj hk]
            exact .inr h
          · intro h
            exact (h j rfl).resolve_left hj

end

/-- The outcome is right exactly if there is a user with the old name and something to give
him, and the password lands where it belongs. -/
theorem modifyHandled_iff {env : Env} {head : Mem} {s : Session} (h : ModifyRequest env head s) :
    ModifyHandled env head s ↔
      ∃ i, Modifiable env head s i ∧
        (newName env head s = [] ∨
          PasswdLands s.dev.conf i (newName env head s) (newPasswd env head s)) := by
  obtain ⟨hconf, hret⟩ := h.course
  have hiff : ∀ i, Modifiable env head s i →
      (Modified s.dev.conf i (newName env head s) (newPasswd env head s)
          (sysUsrSet env head s).1.dev.conf ↔
        newName env head s = [] ∨
          PasswdLands s.dev.conf i (newName env head s) (newPasswd env head s)) := by
    intro i hi
    rw [hconf]
    exact modified_iff h.new (zero_notMem_cstr _) h.passwd (zero_notMem_cstr _) hi.1.2
  constructor
  · intro hgood
    obtain ⟨i, hi⟩ := hgood.ok_iff.mp hret
    exact ⟨i, hi, (hiff i hi).mp (hgood.modified i hi)⟩
  · rintro ⟨i, hi, hlands⟩
    refine ⟨iff_of_true hret ⟨i, hi⟩, ?_, fun hno => absurd hi (hno i)⟩
    intro k hk
    have hki : i = k := Option.some.inj (hi.1.2.symm.trans hk.1.2)
    subst hki
    exact (hiff i hi).mpr hlands

/-- The old name is nobody's. -/
def renameNobody : UserRequest :=
  requestOf rootName .modify (usrRecord (chars ['x']) [] ++ usrRecord (chars ['y']) [])

theorem modifyHandled_bothRecords :
    ModifyHandled bothRecords.env bothRecords.head (sessionOf bothRecords) := by
  have hold : oldName bothRecords.env bothRecords.head (sessionOf bothRecords) = rootName := by
    decide +kernel
  have hnew : newName bothRecords.env bothRecords.head (sessionOf bothRecords) = [] := by
    decide +kernel
  have hpasswd : newPasswd bothRecords.env bothRecords.head (sessionOf bothRecords) =
      chars ['p', 'w'] := by decide +kernel
  have hroot := sessionOf_fromRoot (r := bothRecords) (by decide)
  refine (modifyHandled_iff ⟨hroot, rfl, ?_, ?_⟩).mpr ⟨0, ⟨⟨?_, ?_⟩, .inr ?_⟩, .inl hnew⟩
  · rw [hnew]
    decide
  · rw [hpasswd]
    decide
  · rw [hold]
    decide
  · have hnames := find_congr factoryDevice_holds.names
    rw [hold, getUsrInfo_eq, sessionOf, hnames]
    decide
  · rw [hpasswd]
    decide

/-- `USR_MODIFY_OK` for a user who does not exist. -/
theorem not_modifyHandled_nobody :
    ModifyRequest renameNobody.env renameNobody.head (sessionOf renameNobody) ∧
      ¬ModifyHandled renameNobody.env renameNobody.head (sessionOf renameNobody) := by
  have hold : oldName renameNobody.env renameNobody.head (sessionOf renameNobody) =
      chars ['x'] := by
    decide +kernel
  have hroot := sessionOf_fromRoot (r := renameNobody) (by decide)
  have hrequest : ModifyRequest renameNobody.env renameNobody.head (sessionOf renameNobody) :=
    ⟨hroot, rfl, by decide +kernel, by decide +kernel⟩
  refine ⟨hrequest, fun h => ?_⟩
  obtain ⟨i, ⟨-, hslot⟩, -⟩ := h.ok_iff.mp hrequest.course.2
  have hnames := find_congr factoryDevice_holds.names
  rw [hold, getUsrInfo_eq, sessionOf, hnames] at hslot
  exact absurd (hslot.symm.trans (show Op.find defaultNames (chars ['x']) = none by decide))
    (Option.some_ne_none i)

end Itertk.Web.UserModify
