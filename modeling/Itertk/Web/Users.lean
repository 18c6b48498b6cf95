import Itertk.Daemon.Config
import Itertk.Daemon.State
import Itertk.Itsip.Header

/-!
# The user table

The functions of `config.c` and `web_net.c` that look names up in `con_usr` and
change its slots.  A lookup is `strcmp` against one slot after the other, so the
first slot with the name decides, and the empty name is found in the first empty
slot.
-/

namespace Itertk.Web.Users

open Itertk.Base.Memory
open Itertk.Daemon.Layout
open Itertk.Daemon.Config
open Itertk.Daemon.State
open Itertk.Itsip.Header

/-! ## C strings -/

/-- Longer than any object that holds a name; a string is cut here if it does not
end before. -/
def strLimit : Nat := 128

/-- The C string at `m`: the bytes before the first zero. -/
def cstr (m : Mem) : List UInt8 := (slice m 0 strLimit).takeWhile (· ≠ 0)

/-- A string is empty exactly when it starts with its terminator. -/
theorem cstr_eq_nil_iff (m : Mem) : cstr m = [] ↔ m 0 = 0 := by
  rw [cstr, show strLimit = 127 + 1 from rfl, slice_succ, List.takeWhile_cons]
  by_cases h : m 0 = 0
  · rw [if_neg (by rw [decide_eq_true_iff]; exact not_not_intro h)]
    exact iff_of_true rfl h
  · rw [if_pos (by rw [decide_eq_true_iff]; exact h)]
    exact iff_of_false (List.cons_ne_nil _ _) h

/-- No byte of a string is its terminator. -/
theorem zero_notMem_cstr (m : Mem) : (0 : UInt8) ∉ cstr m := by
  intro h
  have hne := List.all_eq_true.mp List.all_takeWhile 0 h
  exact absurd hne (by decide)

/-- A string that ends within the first `n` bytes depends on these only. -/
theorem cstr_congr {n : Nat} {m m' : Mem} (hn : n ≤ strLimit) (hagree : AgreeBelow n m m')
    (hend : (cstr m).length < n) : cstr m' = cstr m := by
  have hsplit : ∀ m : Mem, cstr m =
      (slice m 0 n ++ slice m (0 + n) (strLimit - n)).takeWhile (· ≠ 0) := by
    intro m
    rw [cstr, slice_split m 0 hn]
  have hshort : ((slice m 0 n).takeWhile (· ≠ 0)).length ≠ (slice m 0 n).length := by
    intro hall
    rw [hsplit, List.takeWhile_append, if_pos hall, List.length_append, slice_length] at hend
    omega
  rw [hsplit m, hsplit m', ← hagree.slice (by omega), List.takeWhile_append, if_neg hshort,
    List.takeWhile_append, if_neg hshort]

/-- A string copied with its terminator is read back. -/
theorem cstr_of_slice {m : Mem} {s : List UInt8} (h : slice m 0 (s.length + 1) = s ++ [0])
    (hzero : (0 : UInt8) ∉ s) (hlen : s.length < strLimit) : cstr m = s := by
  have hsplit : slice m 0 strLimit =
      s ++ [0] ++ slice m (0 + (s.length + 1)) (strLimit - (s.length + 1)) := by
    rw [← h]
    exact slice_split m 0 hlen
  have hne : ∀ b ∈ s, decide (b ≠ 0) = true := by
    intro b hb
    rw [decide_eq_true_iff]
    rintro rfl
    exact hzero hb
  rw [cstr, hsplit, List.append_assoc, List.takeWhile_append_of_pos hne, List.singleton_append,
    List.takeWhile_cons_of_neg (by decide), List.append_nil]

/-! ## Lookup -/

/-- The first slot with the property. -/
def findSlot (p : Nat → Bool) : Option Nat := (List.range maxUsrNum).find? p

/-- `get_usr_info(name)`: the index of the entry it points to. -/
def getUsrInfo (conf : Mem) (name : List UInt8) : Option Nat :=
  findSlot fun i => name = cstr (usrName conf i)

/-- `get_usr_id(name)`: `MAX_USR_NUM` when no slot has the name. -/
def getUsrId (conf : Mem) (name : List UInt8) : Nat :=
  (findSlot fun i => cstr (usrName conf i) = name).getD maxUsrNum

/-- `USR_ROOT`. -/
def usrRoot : UInt8 := 1

/-- `sys_usr_login(name, psw)`. -/
def sysUsrLogin (conf : Mem) (name psw : List UInt8) : CmdCode :=
  match findSlot fun i => name = cstr (usrName conf i) with
  | some i => if psw = cstr (usrPasswd conf i) then .loginOk else .errorPsw
  | none => .noUser

/-! ## Changes -/

/-- `sys_usr_add(name, psw)`. -/
def sysUsrAdd (d : Device) (name psw : List UInt8) : Device × CmdCode :=
  match findSlot fun i => usrName d.conf i 0 = 0 with
  | some i =>
      let conf := strcpy d.conf (usrOff i + 2) name
      let conf := strcpy conf (usrOff i + 26) psw
      (configSave d conf, .usrAddOk)
  | none => (d, .usrAddFailed)

/-- `sys_usr_del(name)`. -/
def sysUsrDel (d : Device) (name : List UInt8) : Device × CmdCode :=
  match getUsrInfo d.conf name with
  | some i => (configSave d (fill d.conf (usrOff i + 2) 24 0), .usrDelOk)
  | none => (d, .usrDelFailed)

/-- `set_usr_name(oname, nname)`. -/
def setUsrName (d : Device) (oname nname : List UInt8) : Device × CmdCode :=
  match getUsrInfo d.conf oname with
  | some i =>
      (configSave d (strcpy (fill d.conf (usrOff i + 2) 24 0) (usrOff i + 2) nname), .usrModifyOk)
  | none => (d, .usrModifyFailed)

/-- `set_usr_psw(name, psw)`. -/
def setUsrPsw (d : Device) (name psw : List UInt8) : Device × CmdCode :=
  match getUsrInfo d.conf name with
  | some i =>
      (configSave d (strcpy (fill d.conf (usrOff i + 26) 24 0) (usrOff i + 26) psw), .usrModifyOk)
  | none => (d, .usrModifyFailed)

end Itertk.Web.Users
