import Itertk.Itsip.Library
import Itertk.Web.PortRecords

/-!
# For whom a `CONF_SET` is checked

`sys_conf_set` looks up the user named in `itsip_user`.  The `*_query` functions of
`itslib` copy their `name` there; `its_conf_com_set`, `its_conf_mode_set` and
`its_conf_lim_set` take a `name` too and do not, and `itsip_pack` leaves the field as
the stack had it.
-/

namespace Itertk.Web.Identity

open Itertk.Base.Memory
open Itertk.Daemon.Layout
open Itertk.Daemon.Config
open Itertk.Daemon.State
open Itertk.Itsip.Socket
open Itertk.Itsip.Header
open Itertk.Itsip.Library
open Itertk.Web.Users
open Itertk.Web.Handlers
open Itertk.Web.PortRecords

/-! ## The setters -/

/-- The name of a user: a C string that fits into `itsip_user`. -/
structure UserName where
  bytes : List UInt8
  short : bytes.length ≤ 23
  nonzero : (0 : UInt8) ∉ bytes

/-- What `its_conf_com_set(name, con_com, flag)` sends. -/
def itsConfComSet (_name : UserName) (conCom : Mem) (flag : UInt8) (stack : Mem) : Message :=
  (Call.confComSet conCom flag).message stack

/-- What `its_conf_mode_set(name, con_mode)` sends. -/
def itsConfModeSet (_name : UserName) (conMode : Mem) (stack : Mem) : Message :=
  (Call.confModeSet conMode).message stack

/-- What `its_conf_lim_set(name, con_lim)` sends. -/
def itsConfLimSet (_name : UserName) (conLim : Mem) (stack : Mem) : Message :=
  (Call.confLimSet conLim).message stack

/-- The setters, with their other arguments. -/
inductive Setter where
  | com (conCom : Mem) (flag : UInt8)
  | mode (conMode : Mem)
  | lim (conLim : Mem)

/-- The request that a setter sends for a user; the packet lay on the stack. -/
def Setter.request (name : UserName) (stack : Mem) : Setter → Message
  | com conCom flag => itsConfComSet name conCom flag stack
  | mode conMode => itsConfModeSet name conMode stack
  | lim conLim => itsConfLimSet name conLim stack

/-- The header that `web_svr_proc` makes of the first bytes of the request. -/
def arrived (env : Env) (m : Message) : Mem := receivedHead env ((transmitted m).take headSize)

/-- The name by which `sys_conf_set` looks up limits and rights is that of the user. -/
def CheckedFor (env : Env) (name : UserName) (m : Message) : Prop :=
  requester (arrived env m) = name.bytes

/-! ## What arrives -/

/-- The header arrives as it was sent. -/
theorem arrived_eq (env : Env) (m : Message) {i : Nat} (hi : i < headSize) :
    arrived env m i = m.head i := by
  have hhead : (transmitted m).take headSize = slice m.head 0 headSize := by
    rw [transmitted_eq]
    exact List.take_left' (slice_length _ _ _)
  have hbyte : (slice m.head 0 headSize)[i]? = some (m.head i) := by
    rw [getElem?_slice, if_pos hi, Nat.zero_add]
  have hblit := blit_of_getElem? (fill env.stack 0 headSize 0) 0 hbyte
  rw [Nat.zero_add] at hblit
  rw [arrived, hhead]
  exact hblit

/-- No setter writes to `itsip_user`. -/
theorem request_user (name : UserName) (stack : Mem) (s : Setter) {k : Nat} (hk : k < 24) :
    (s.request name stack).head (8 + k) = stack (8 + k) := by
  have hpack : ∀ n : UInt16, packed stack .confSet n (8 + k) = stack (8 + k) := by
    intro n
    simp (disch := omega) only [packed, itsipPack, store_ne]
  cases s with
  | com conCom flag =>
      show store (store (store (packed stack .confSet _) 32 _) 33 _) 34 flag (8 + k) = _
      simp (disch := omega) only [store_ne, hpack]
  | mode conMode =>
      show store (store (packed stack .confSet _) 32 _) 33 _ (8 + k) = _
      simp (disch := omega) only [store_ne, hpack]
  | lim conLim =>
      show store (store (packed stack .confSet _) 32 _) 33 _ (8 + k) = _
      simp (disch := omega) only [store_ne, hpack]

/-- A string that fits into a field of 24 bytes depends on these only. -/
theorem cstr_eq_iff {m m' : Mem} (h : AgreeBelow 24 m m') {name : List UInt8}
    (hname : name.length < 24) : cstr m = name ↔ cstr m' = name := by
  have hlimit : 24 ≤ strLimit := by decide
  constructor
  · rintro rfl
    exact cstr_congr hlimit h hname
  · rintro rfl
    exact cstr_congr hlimit h.symm hname

/-- The check is made for the user exactly when the uninitialised packet held the
user's name already. -/
theorem checkedFor_iff (env : Env) (name : UserName) (stack : Mem) (s : Setter) :
    CheckedFor env name (s.request name stack) ↔ cstr (shift stack 8) = name.bytes := by
  apply cstr_eq_iff
  · intro k hk
    show arrived env (s.request name stack) (8 + k) = stack (8 + k)
    rw [arrived_eq env _ (by rw [headSize]; omega), request_user name stack s hk]
  · have := name.short
    omega

/-- A query made for the same user is checked for that user, whatever was on the stack. -/
theorem checkedFor_query (env : Env) (name : UserName) (stack conCom : Mem) :
    CheckedFor env name ((Call.confComQuery name.bytes conCom).message stack) := by
  have hshort := name.short
  refine cstr_of_slice ?_ name.nonzero (by rw [strLimit]; omega)
  rw [show itsipUser _ = shift _ 8 from rfl, slice_shift]
  have hcopy := slice_blit_self (packed stack .confQuery 0) 8 (name.bytes ++ [0])
  rw [List.length_append, List.length_singleton] at hcopy
  rw [← hcopy, slice_eq_iff]
  intro i hi
  rw [arrived_eq env _ (by rw [headSize]; omega)]
  show store (store (named stack .confQuery name.bytes 0) 32 _) 33 _ (8 + i) = _
  rw [store_ne _ _ (by omega), store_ne _ _ (by omega)]
  rfl

/-- With zeros on the stack the request of `"root"` is checked for nobody. -/
theorem checkedFor_zeroStack :
    ¬∀ (env : Env) (name : UserName) (stack : Mem) (s : Setter),
      CheckedFor env name (s.request name stack) := by
  intro h
  let root : UserName := ⟨chars ['r', 'o', 'o', 't'], by decide, by decide⟩
  have hname : cstr (shift zero 8) = root.bytes :=
    (cstr_eq_iff (fun k hk => ?_) (by decide)).mp (h Env.idle root zero (.com zero 0))
  · rw [(cstr_eq_nil_iff _).mpr rfl] at hname
    exact absurd hname (by decide)
  · show arrived Env.idle (Setter.request root zero (.com zero 0)) (8 + k) = zero (8 + k)
    rw [arrived_eq _ _ (by rw [headSize]; omega), request_user root zero _ hk]

end Itertk.Web.Identity
