import Itertk.Web.Handlers

/-!
# What `CONF_SET` does to the port records

A `CONF_SET` of kind `CONF_COM` or `CONF_MODE` that names an existing port
changes the configuration when its block arrives whole and the limits of that
port let the requester through (`Performed`), and then as `putCom` or a copy of
the block says.
-/

namespace Itertk.Web.PortRecords

open Itertk.Base.Memory
open Itertk.Daemon.Layout
open Itertk.Daemon.State
open Itertk.Itsip.Socket
open Itertk.Itsip.Header
open Itertk.Web.Users
open Itertk.Web.Handlers

/-! ## The request -/

/-- `itsip_data[1]`. -/
def port (head : Mem) : Nat := (itsipData head 1).toNat

/-- The name in `itsip_user`. -/
def requester (head : Mem) : List UInt8 := cstr (itsipUser head)

/-- A `CONF_SET` header of the given kind with a port index below `MAX_COM_PORT`. -/
structure PortRequest (kind : ConfKind) (head : Mem) : Prop where
  itsip : head 0 = itsHead
  command : itsipCmd head = ItsCmd.confSet.code
  kind : itsipData head 0 = kind.code
  port : port head < maxComPort

/-- The block of `size` bytes arrives, and the limits of the named port let the
requester through. -/
def Performed (head : Mem) (s : Session) (size : Nat) : Prop :=
  (webConnRecv s.conn size).ok = true ∧ MayAccess s.dev.conf limModify (port head) (requester head)

instance (head : Mem) (s : Session) (size : Nat) : Decidable (Performed head s size) :=
  inferInstanceAs (Decidable (_ ∧ _))

/-- The `CONFIG_COM` that the connection brings. -/
def broughtCom (s : Session) : ConfigCom := receivedCom (webConnRecv s.conn comSize).bytes

/-! ## The configuration after it -/

/-- The three ways through a case of `sys_conf_set`: the block does not arrive, the
requester is let through, or is not. -/
theorem guarded_conf {ok : Bool} {may : Prop} [Decidable may]
    {failed set refused : Session × CmdCode}
    (h : refused.1.dev = failed.1.dev) :
    (if ok = false then failed else if may then set else refused).1.dev.conf =
      if ok = true ∧ may then set.1.dev.conf else failed.1.dev.conf := by
  cases ok with
  | false => rw [if_pos rfl, if_neg fun hboth => Bool.false_ne_true hboth.1]
  | true =>
      rw [if_neg Bool.false_ne_true.symm]
      by_cases hmay : may
      · rw [if_pos hmay, if_pos ⟨rfl, hmay⟩]
      · rw [if_neg hmay, if_neg fun hboth => hmay hboth.2, h]

theorem sysConfSetCom_conf (p : Nat) (name : List UInt8) (s : Session) :
    (sysConfSetCom p name s).1.dev.conf =
      if (webConnRecv s.conn comSize).ok = true ∧ MayAccess s.dev.conf limModify p name then
        putCom s.dev.conf p (broughtCom s)
      else s.dev.conf := by
  refine Eq.trans (guarded_conf ?_) (ite_congr rfl (fun _ => ?_) fun _ => rfl)
  · rfl
  · exact comSet_conf _ _

theorem sysConfSetMode_conf (p : Nat) (name : List UInt8) (s : Session) :
    (sysConfSetMode p name s).1.dev.conf =
      if (webConnRecv s.conn modeSize).ok = true ∧ MayAccess s.dev.conf limModify p name then
        blit s.dev.conf (modeOff p) (webConnRecv s.conn modeSize).bytes
      else s.dev.conf := by
  exact guarded_conf rfl

/-- A closed connection brings nothing. -/
theorem not_performed_of_closed {head : Mem} {s : Session} {size : Nat}
    (h : s.conn.isOpen = false) : ¬Performed head s size := by
  rintro ⟨hok, -⟩
  rw [webConnRecv, h] at hok
  exact absurd hok Bool.false_ne_true

theorem webCmdProc_com (env : Env) {head : Mem} (s : Session) (h : PortRequest .com head) :
    (webCmdProc env head s).dev.conf =
      if Performed head s comSize then putCom s.dev.conf (port head) (broughtCom s)
      else s.dev.conf := by
  rw [webCmdProc_eq env s h.itsip h.command]
  by_cases hopen : s.conn.isOpen = false
  · rw [if_pos hopen, if_neg (not_performed_of_closed hopen)]
  · rw [if_neg hopen]
    show (sysConfSet head s).1.dev.conf = _
    rw [sysConfSet, h.kind, ConfKind.ofByte_code]
    exact sysConfSetCom_conf (port head) (requester head) s

theorem webCmdProc_mode (env : Env) {head : Mem} (s : Session) (h : PortRequest .mode head) :
    (webCmdProc env head s).dev.conf =
      if Performed head s modeSize then
        blit s.dev.conf (modeOff (port head)) (webConnRecv s.conn modeSize).bytes
      else s.dev.conf := by
  rw [webCmdProc_eq env s h.itsip h.command]
  by_cases hopen : s.conn.isOpen = false
  · rw [if_pos hopen, if_neg (not_performed_of_closed hopen)]
  · rw [if_neg hopen]
    show (sysConfSet head s).1.dev.conf = _
    rw [sysConfSet, h.kind, ConfKind.ofByte_code]
    exact sysConfSetMode_conf (port head) (requester head) s

/-! ## The records after it -/

/-- A record brought for one port replaces the record of that port. -/
theorem putCom_one {c : ConfigCom} (h : c.all ≠ 1) (conf : Mem) (p q : Nat) :
    ConfigCom.load (putCom conf p c) (comOff q) =
      if q = p then c else ConfigCom.load conf (comOff q) := by
  rw [putCom, if_pos h, ConfigCom.load_blit_com]

/-- A record brought for all ports gives each its six line settings. -/
theorem putCom_all {c : ConfigCom} (h : c.all = 1) (conf : Mem) (p : Nat) {q : Nat}
    (hq : q < maxComPort) :
    ConfigCom.load (putCom conf p c) (comOff q) = withLine (ConfigCom.load conf (comOff q)) c := by
  rw [putCom, if_neg (not_not_intro h), maxComPort, forUpTo_succ, forUpTo_succ, forUpTo_zero]
  simp only [ConfigCom.load_blit_com]
  rcases q with _ | _ | q
  · rfl
  · rfl
  · simp only [maxComPort] at hq
    omega

/-- Either way the other records stay. -/
theorem putCom_above (conf : Mem) {p : Nat} (hp : p < maxComPort) (c : ConfigCom) {i : Nat}
    (hi : modeOff 0 ≤ i) : putCom conf p c i = conf i := by
  simp only [modeOff, maxComPort] at hi hp
  have habove : ∀ (m : Mem) (k : Nat) (l : ConfigCom), k < 2 →
      blit m (comOff k) l.bytes i = m i := by
    intro m k l hk
    apply blit_after
    rw [ConfigCom.bytes_length]
    simp only [comOff, comSize]
    omega
  rw [putCom]
  by_cases h : c.all ≠ 1
  · rw [if_pos h, habove _ _ _ hp]
  · rw [if_neg h, maxComPort, forUpTo_succ, forUpTo_succ, forUpTo_zero, habove _ _ _ (by omega),
      habove _ _ _ (by omega)]

end Itertk.Web.PortRecords
