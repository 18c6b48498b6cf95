import Itertk.Web.AccountRecords

/-!
# Whom `ITS_LOGIN` admits

`sys_usr_login` compares the name with every slot of `con_usr`, free ones included.  The
empty name is found in the first free slot, and `sys_usr_del` clears the name of a user but
not his password.  So the empty name logs in with the password of whoever has left that
slot last.

## Main results

* `loginOk_iff` — what `LOGIN_OK` says about the table.
* `loginSound_iff` — which logins are those of registered users.
* `login_after_del` — the password of a deleted user admits the empty name.
-/

namespace Itertk.Web.Login

open Itertk.Base.Memory
open Itertk.Base.Run
open Itertk.Base.Slots
open Itertk.Daemon.Layout
open Itertk.Daemon.Config
open Itertk.Daemon.State
open Itertk.Itsip.Header
open Itertk.Web.Users
open Itertk.Web.Handlers
open Itertk.Web.Accounts
open Itertk.Web.UserModify
open Itertk.Web.AccountRecords

/-! ## Logins -/

/-- `psw` is the password of a user with the name. -/
def IsAccount (conf : Mem) (name psw : List UInt8) : Prop :=
  name ≠ [] ∧ ∃ i, i < maxUsrNum ∧ userNames conf i = name ∧ userPasswd conf i = psw

/-- A login that succeeds is one of a registered user. -/
def LoginSound (conf : Mem) (name psw : List UInt8) : Prop :=
  sysUsrLogin conf name psw = .loginOk → IsAccount conf name psw

/-- The first slot without a name. -/
def freeSlot (conf : Mem) : Option Nat := findSlot fun i => usrName conf i 0 = 0

/-- The first slot with the name decides. -/
theorem loginOk_iff (conf : Mem) (name psw : List UInt8) :
    sysUsrLogin conf name psw = .loginOk ↔
      ∃ i, Op.find (userNames conf) name = some i ∧ psw = userPasswd conf i := by
  have hfind : (findSlot fun i => name = cstr (usrName conf i)) = Op.find (userNames conf) name :=
    rfl
  unfold sysUsrLogin
  rw [hfind]
  cases Op.find (userNames conf) name with
  | none =>
      refine iff_of_false (fun hret => nomatch hret) ?_
      rintro ⟨i, hi, -⟩
      cases hi
  | some i =>
      dsimp only
      by_cases hpsw : psw = cstr (usrPasswd conf i)
      · rw [if_pos hpsw]
        exact iff_of_true rfl ⟨i, rfl, hpsw⟩
      · rw [if_neg hpsw]
        refine iff_of_false (by decide) ?_
        rintro ⟨j, hj, hpsw'⟩
        cases hj
        exact hpsw hpsw'

/-- On every table, only the empty name logs in without an account. -/
theorem loginSound_conf_iff (conf : Mem) (name psw : List UInt8) :
    LoginSound conf name psw ↔
      name ≠ [] ∨ ∀ i, freeSlot conf = some i → psw ≠ userPasswd conf i := by
  unfold LoginSound freeSlot
  rw [loginOk_iff, freeSlot_eq]
  by_cases hname : name = []
  · subst hname
    rw [or_iff_right (not_not_intro rfl)]
    constructor
    · intro hsound i hi hpsw
      exact (hsound ⟨i, hi, hpsw⟩).1 rfl
    · rintro hno ⟨i, hi, hpsw⟩
      exact absurd hpsw (hno i hi)
  · refine iff_of_true ?_ (.inl hname)
    rintro ⟨i, hi, hpsw⟩
    obtain ⟨hlt, hin, -⟩ := find_lt hi
    exact ⟨hname, i, hlt, hin.symm, hpsw.symm⟩

/-- On every table that requests make of the default one, a login that succeeds is that of
a registered user, exactly if the name is not empty, or the password is not the one left in
the first free slot. -/
theorem loginSound_iff (b : Build) (m : Mem) (rs : List UserRequest) (name psw : List UInt8) :
    LoginSound (exec handle (Device.start (configMakedefault b m)) rs).conf name psw ↔
      name ≠ [] ∨
        ∀ i, freeSlot (exec handle (Device.start (configMakedefault b m)) rs).conf = some i →
          psw ≠ userPasswd (exec handle (Device.start (configMakedefault b m)) rs).conf i :=
  loginSound_conf_iff _ name psw

/-! ## Deleted users -/

/-- `USER_DEL` leaves the password. -/
theorem userPasswd_del (conf : Mem) (i : Nat) :
    userPasswd (fill conf (usrOff i + 2) 24 0) i = userPasswd conf i := by
  have hsame : usrPasswd (fill conf (usrOff i + 2) 24 0) i = usrPasswd conf i := by
    funext k
    exact fill_within conf (usrOff i + 2) 24 0 _ (.inr (by omega))
  rw [userPasswd, hsame, userPasswd]

/-- If every slot before that of a user has a name, his password admits the empty name as
soon as he is deleted. -/
theorem login_after_del {d : Device} (h : WellFormed d.conf) {name : List UInt8} {i : Nat}
    (hslot : getUsrInfo d.conf name = some i) (hfull : ∀ j, j < i → userNames d.conf j ≠ []) :
    sysUsrLogin (sysUsrDel d name).1.conf [] (userPasswd d.conf i) = .loginOk := by
  have hconf : (sysUsrDel d name).1.conf = fill d.conf (usrOff i + 2) 24 0 := by
    unfold sysUsrDel
    rw [hslot]
    rfl
  rw [hconf, loginOk_iff]
  refine ⟨i, ?_, (userPasswd_del d.conf i).symm⟩
  obtain ⟨hi, -, -⟩ := find_lt hslot
  refine firstSlot_eq_some_iff.mpr ⟨hi, decide_eq_true (userNames_fill d.conf i).symm, fun j hj =>
    ?_⟩
  have hkept : userNames (fill d.conf (usrOff i + 2) 24 0) j = userNames d.conf j := by
    refine userNames_keep (fun k hk => ?_) (h.tidy j (by omega))
    exact fill_before _ _ _ (by simp only [usrOff]; omega)
  rw [hkept]
  exact decide_eq_false fun hempty => hfull j hj hempty.symm

/-! ## A user who comes and goes -/

def bob : List UInt8 := chars ['b', 'o', 'b']

def addBob : UserRequest :=
  requestOf rootName .add (usrRecord bob (chars ['p', 'w']) ++ usrRecord [] [])

def delBob : UserRequest := requestOf rootName .del (usrRecord bob [] ++ usrRecord [] [])

private theorem addBob_fits : StringsFit addBob := by decide +kernel

/-- The table after `addBob`. -/
theorem handle_addBob :
    (handle factoryDevice addBob).conf =
      strcpy (strcpy factoryDevice.conf (usrOff 1 + 2) bob) (usrOff 1 + 26) (chars ['p', 'w']) := by
  have hadm : Admitted factoryDevice.conf addBob :=
    (factoryDevice_holds.admitted_iff addBob).mpr ⟨rfl, by decide +kernel⟩
  have hname : cstr (shift addBob.extdat 2) = bob := by decide +kernel
  have hpsw : cstr (shift addBob.extdat 26) = chars ['p', 'w'] := by decide +kernel
  have hnew : getUsrInfo factoryDevice.conf bob = none := by
    rw [getUsrInfo_eq, find_congr factoryDevice_holds.names]
    decide
  have hfree : (findSlot fun i => usrName factoryDevice.conf i 0 = 0) = some 1 := by
    rw [freeSlot_eq, find_congr factoryDevice_holds.names]
    decide
  have hflag : UserSet.ofByte addBob.flag = some .add := by decide
  rw [handle_eq, if_pos hadm, applyUserSet, hflag]
  dsimp only
  rw [hname, hpsw, if_pos hnew, sysUsrAdd, hfree]
  rfl

/-- Bob's password admits the empty name when he is gone. -/
theorem not_loginSound_bob :
    ¬∀ (b : Build) (m : Mem) (rs : List UserRequest) (name psw : List UInt8),
      LoginSound (exec handle (Device.start (configMakedefault b m)) rs).conf name psw := by
  intro h
  have hholds := factoryDevice_holds.handle (addBob_fits.terminated _)
  have hnames := find_congr hholds.names
  have hadm : Admitted (handle factoryDevice addBob).conf delBob :=
    (hholds.admitted_iff delBob).mpr ⟨rfl, by decide +kernel⟩
  have hname : cstr (shift delBob.extdat 2) = bob := by decide +kernel
  have hslot : getUsrInfo (handle factoryDevice addBob).conf bob = some 1 := by
    rw [getUsrInfo_eq, hnames]
    decide +kernel
  have hflag : UserSet.ofByte delBob.flag = some .del := by decide
  have hdel : (handle (handle factoryDevice addBob) delBob).conf =
      (sysUsrDel (handle factoryDevice addBob) bob).1.conf := by
    rw [handle_eq, if_pos hadm, applyUserSet, hflag]
    dsimp only
    rw [hname, if_neg (by rw [hslot]; exact Option.some_ne_none 1), if_neg (by decide)]
  have hwf : WellFormed (handle factoryDevice addBob).conf := by
    rw [handle_addBob]
    exact (sound_add factoryDevice_wellFormed (by decide) (by decide) (by decide)).wellFormed
  have hfull : ∀ j, j < 1 → userNames (handle factoryDevice addBob).conf j ≠ [] := by
    intro j hj
    rw [hholds.names j (by simp only [maxUsrNum]; omega), Nat.lt_one_iff.mp hj]
    decide +kernel
  have hlogin := login_after_del hwf hslot hfull
  have hpsw : userPasswd (handle factoryDevice addBob).conf 1 = chars ['p', 'w'] := by
    rw [handle_addBob]
    exact userPasswd_strcpy _ 1 (by decide) (by decide)
  rw [hpsw, ← hdel] at hlogin
  have hdevice : Device.start (configMakedefault factoryBuild zero) = factoryDevice := rfl
  have hsound := h factoryBuild zero [addBob, delBob] [] (chars ['p', 'w'])
  rw [hdevice, exec, exec, exec] at hsound
  exact (hsound hlogin).1 rfl

end Itertk.Web.Login
