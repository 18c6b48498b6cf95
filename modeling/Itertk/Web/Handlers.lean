import Itertk.Itsip.Socket
import Itertk.Web.Users

/-!
# The ITSIP server

`web_svr_proc` reads a header from a connection and `web_cmd_proc` switches on
its command.  An arm may read a block of its own choice of length, changes
`g_conf_info`, and answers with a header and perhaps a block.

`web_cmd_proc` is `webArm` behind two tests; `asked` says how many bytes an arm
reads, and `webArm_conn` that it does nothing else to the connection but answer.
-/

namespace Itertk.Web.Handlers

open Itertk.Base.Memory
open Itertk.Daemon.Layout
open Itertk.Daemon.Config
open Itertk.Daemon.State
open Itertk.Itsip.Socket
open Itertk.Itsip.Header
open Itertk.Web.Users

/-! ## State -/

/-- What a handler does outside the daemon's memory and its connection. -/
inductive Effect where
  /-- `set_gpio` and `com_set`. -/
  | device (e : Event)
  /-- `config_net_set(&g_conf_info.con_net)`. -/
  | netSet (net : List UInt8)
  /-- `system("reboot")`. -/
  | reboot

/-- The daemon while it serves one connection. -/
structure Session where
  dev : Device
  conn : Conn
  effects : List Effect

/-- `net_conn_send` on the connection; no handler looks at its result. -/
def Session.reply (s : Session) (head : Mem) (data : Option Mem) (len : Nat) : Session :=
  { s with conn := (netConnSend s.conn head data len).2 }

/-- A header that `itsip_pack` makes of a local `its_ack_pak`. -/
def ackHead (env : Env) (c : ItsCmd) (extlen : UInt16) : Mem := itsipPack env.stack c.ack extlen 0

/-- The answer of the `*_SET` commands: a header with the result in `itsip_data[0]`. -/
def Session.answer (env : Env) (c : ItsCmd) (s : Session) (ret : CmdCode) : Session :=
  s.reply (store (ackHead env c 0) 32 ret.code) none 0

/-- The answer with a block of `len` bytes. -/
def Session.answerBlock (env : Env) (c : ItsCmd) (s : Session) (data : Mem) (len : Nat) : Session :=
  s.reply (ackHead env c (UInt16.ofNat len)) (some data) len

/-! ## Users -/

/-- The switch of `sys_usr_set`, over the two received records.  `set_usr_name` and
`set_usr_psw` never return `FAILURE`, and `extdat[1].usr_passwd` is never a null
pointer, so `USER_MODIFY` always succeeds. -/
def applyUserSet (flag : UInt8) (extdat : Mem) (d : Device) : Device × CmdCode :=
  let name := cstr (shift extdat 2)
  let nname := cstr (shift extdat (usrSize + 2))
  let npsw := cstr (shift extdat (usrSize + 26))
  match UserSet.ofByte flag with
  | some .add =>
      if getUsrInfo d.conf name = none then sysUsrAdd d name (cstr (shift extdat 26))
      else (d, .rcUsrexist)
  | some .del =>
      if getUsrInfo d.conf name = none then (d, .rcNousr)
      else if name = chars ['r', 'o', 'o', 't'] then (d, .usrDelFailed)
      else sysUsrDel d name
  | some .modify =>
      if extdat (usrSize + 2) ≠ 0 then
        ((setUsrPsw (setUsrName d name nname).1 nname npsw).1, .usrModifyOk)
      else ((setUsrPsw d name npsw).1, .usrModifyOk)
  | none => (d, .rcNousr)

/-- `sys_usr_set`: `web_conn_recv` reads `itsip_extlen` bytes over the stack, and its
result is not looked at. -/
def sysUsrSet (env : Env) (head : Mem) (s : Session) : Session × CmdCode :=
  match getUsrInfo s.dev.conf (cstr (itsipUser head)) with
  | none => (s, .rcNousr)
  | some u =>
      if usrAuth s.dev.conf u ≠ usrRoot then (s, .rcNoright)
      else
        let r := webConnRecv s.conn (itsipExtlen head)
        let p := applyUserSet (itsipData head 0) (blit env.stack 0 r.bytes) s.dev
        ({ s with dev := p.1, conn := r.conn }, p.2)

/-! ## Access to a port -/

def enabled : UInt8 := 1
def disabled : UInt8 := 0

/-- The condition of `sys_conf_query` and `sys_conf_set` on `con_lim[port]`, with the
array of rights it looks into. -/
def MayAccess (conf : Mem) (right : Mem → Nat → Nat → UInt8) (port : Nat) (name : List UInt8) :
    Prop :=
  limEnable conf port = disabled ∨
    (limEnable conf port = enabled ∧ getUsrId conf name < maxUsrNum ∧
      right conf port (getUsrId conf name) = enabled)

instance (conf : Mem) (right : Mem → Nat → Nat → UInt8) (port : Nat) (name : List UInt8) :
    Decidable (MayAccess conf right port name) :=
  inferInstanceAs (Decidable (_ ∨ _))

/-! ## Queries -/

/-- The refusal of `sys_conf_query`. -/
def Session.refuse (env : Env) (s : Session) : Session :=
  s.reply (store (ackHead env .confQuery 0) 32 1) none 0

/-- The local `mygpio` of `sys_conf_query`. -/
def myGpio (env : Env) (d : Device) : Mem :=
  let m := forUpTo 3 (fun i m => store32 m (4 * i) (d.alarmIn i).toUInt32) env.stack
  let m := blit m 12 (slice d.conf (gpioOff + 12) 3)
  blit m 15 (slice d.conf (gpioOff + 15) 4)

/-- `sys_conf_query`; for `CONF_SERVER` it sends an uninitialised local. -/
def sysConfQuery (env : Env) (head : Mem) (s : Session) : Session :=
  let conf := s.dev.conf
  let port := (itsipData head 1).toNat
  let name := cstr (itsipUser head)
  let ok (len : Nat) : Mem := store (ackHead env .confQuery (UInt16.ofNat len)) 32 0
  match ConfKind.ofByte (itsipData head 0) with
  | some .com =>
      if MayAccess conf limRead port name then
        s.reply (ok comSize) (some (shift conf (comOff port))) comSize
      else s.refuse env
  | some .mode =>
      if MayAccess conf limRead port name then
        s.reply (ok modeSize) (some (shift conf (modeOff port))) modeSize
      else s.refuse env
  | some .limit =>
      if usrAuth conf (getUsrId conf name) = usrRoot then
        s.answerBlock env .confQuery (shift conf (limOff port)) limSize
      else s.refuse env
  | some .gpio => s.reply (ok gpioSize) (some (myGpio env s.dev)) gpioSize
  | some .server => s.reply (ok serverSize) (some env.stack) serverSize
  | none => s

/-- It sends, and that is all. -/
theorem sysConfQuery_dev (env : Env) (head : Mem) (s : Session) :
    (sysConfQuery env head s).dev = s.dev := by
  unfold sysConfQuery
  cases ConfKind.ofByte (itsipData head 0) with
  | none => rfl
  | some k =>
      cases k with
      | gpio | server => rfl
      | com | mode | limit =>
          dsimp only
          split <;> rfl

/-- `sprintf(g_conf_info.con_sys.sw_ver, "%s", PROGRAM_VERSION)`. -/
def putSwVer (conf : Mem) : Mem := strcpy conf (sysOff + 96) (chars ['v', '4', '.', '0', '0'])

/-- The loop of `ITS_GPIO_QUERY` over `alarm[0..7]`, an array of three, and
`get_sensor(g_conf_info.con_gpio.sensor)`. -/
def putGpioStatus (env : Env) (d : Device) : Mem :=
  let conf := forUpTo 8 (fun i m => store32 m (gpioOff + 4 * i) (d.alarmIn i).toUInt32) d.conf
  blit conf (gpioOff + 19) (env.am2301.take 30)

/-! ## Settings -/

/-- The common body of the `sys_*_set` handlers: receive a block into a local, copy it
into `g_conf_info`, save. -/
def sysSet (off size : Nat) (ok failed : CmdCode) (s : Session) : Session × CmdCode :=
  let r := webConnRecv s.conn size
  let s := { s with conn := r.conn }
  if r.ok then ({ s with dev := configSave s.dev (blit s.dev.conf off r.bytes) }, ok)
  else (s, failed)

/-- `config_net_set(&g_conf_info.con_net)`. -/
def Session.configNetSet (s : Session) : Session :=
  { s with effects := s.effects ++ [.netSet (slice s.dev.conf netOff netSize)] }

def sysSysinfoSet : Session → Session × CmdCode := sysSet sysOff sysSize .sysSetOk .sysSetFailed

def sysServerSet : Session → Session × CmdCode :=
  sysSet serverOff serverSize .serverSetOk .serverSetFailed

def sysVlanSet : Session → Session × CmdCode := sysSet vlanOff vlanSize .vlanSetOk .vlanSetFailed

def sysNetinfoSet (s : Session) : Session × CmdCode :=
  let r := sysSet netOff netSize .netSetOk .netSetFailed s
  if r.2 = .netSetOk then (r.1.configNetSet, r.2) else r

/-- `sys_gpio_set` drives the four outputs, and fails with `NET_SET_FAILED`. -/
def sysGpioSet (s : Session) : Session × CmdCode :=
  let r := sysSet gpioOff gpioSize .gpioSetOk .netSetFailed s
  let output (k : Nat) : UInt8 := r.1.dev.conf (gpioOff + 15 + k)
  if r.2 = .gpioSetOk then
    ({ r.1 with effects := r.1.effects ++ [.device (.gpio 96 (output 0)),
        .device (.gpio 42 (output 1)), .device (.gpio 43 (output 2)),
        .device (.gpio 44 (output 3))] }, r.2)
  else r

/-- The assignments of `reconfig`. -/
def reconfig (conf : Mem) : Mem :=
  let m := store32 conf netOff (ip4 192 168 1 166)
  let m := store32 m (netOff + 4) (ip4 255 255 255 0)
  let m := store32 m (netOff + 8) (ip4 192 168 1 1)
  let m := store32 m (netOff + 12) 0
  let m := store32 m (netOff + 16) 0
  let m := store32 m (netOff + 20) (ip4 192 168 1 1)
  let m := store32 m (netOff + 24) 0
  let m := fill m (gpioOff + 12) 8 1
  let m := store32 m serverOff 0
  let m := store16 m (serverOff + 4) 8888
  strcpy m (serverOff + 6)
    (chars ['1', '9', '2', '.', '1', '6', '8', '.', '1', '.', '1', '0', '8'])

/-- `sys_factory_set`. -/
def sysFactorySet (s : Session) : Session × CmdCode :=
  let s := { s with dev := configSave s.dev (reconfig s.dev.conf)
                    effects := s.effects ++ [Effect.reboot] }
  (s.configNetSet, .factorySetOk)

/-- The six fields that `all` spreads over every port. -/
def withLine (old c : ConfigCom) : ConfigCom :=
  { old with bps := c.bps, dbit := c.dbit, chk := c.chk, sbit := c.sbit, type := c.type,
             isloop := c.isloop }

/-- The assignments of `sys_conf_set` for a permitted `CONF_COM`. -/
def putCom (conf : Mem) (port : Nat) (c : ConfigCom) : Mem :=
  if c.all ≠ 1 then blit conf (comOff port) c.bytes
  else
    forUpTo maxComPort
      (fun i conf => blit conf (comOff i) (withLine (ConfigCom.load conf (comOff i)) c).bytes) conf

/-- The local `conf_com` after a full receive. -/
def receivedCom (bytes : List UInt8) : ConfigCom := ConfigCom.load (blit zero 0 bytes) 0

/-- `case CONF_COM` of `sys_conf_set`: the record is received before the limits are
looked at, and a refusal is answered like a success. -/
def sysConfSetCom (port : Nat) (name : List UInt8) (s : Session) : Session × CmdCode :=
  let r := webConnRecv s.conn comSize
  let s := { s with conn := r.conn }
  if r.ok = false then (s, .recvFailed)
  else if MayAccess s.dev.conf limModify port name then
    let conf := putCom s.dev.conf port (receivedCom r.bytes)
    let o := comSet (configSave s.dev conf) (ConfigCom.load conf (comOff port))
    ({ s with dev := o.1, effects := s.effects ++ o.2.map Effect.device }, .comSetOk)
  else (s, .comSetOk)

/-- `case CONF_MODE`. -/
def sysConfSetMode (port : Nat) (name : List UInt8) (s : Session) : Session × CmdCode :=
  let r := webConnRecv s.conn modeSize
  let s := { s with conn := r.conn }
  if r.ok = false then (s, .recvFailed)
  else if MayAccess s.dev.conf limModify port name then
    ({ s with dev := configSave s.dev (blit s.dev.conf (modeOff port) r.bytes) }, .modeSetOk)
  else (s, .modeSetFailed)

/-- `case CONF_LIMIT`. -/
def sysConfSetLimit (port : Nat) (name : List UInt8) (s : Session) : Session × CmdCode :=
  let r := webConnRecv s.conn limSize
  let s := { s with conn := r.conn }
  if r.ok = false then (s, .recvFailed)
  else if usrAuth s.dev.conf (getUsrId s.dev.conf name) = usrRoot then
    ({ s with dev := configSave s.dev (blit s.dev.conf (limOff port) r.bytes) }, .limitSetOk)
  else (s, .limitSetFailed)

/-- `sys_conf_set`. -/
def sysConfSet (head : Mem) (s : Session) : Session × CmdCode :=
  let port := (itsipData head 1).toNat
  let name := cstr (itsipUser head)
  match ConfKind.ofByte (itsipData head 0) with
  | some .com => sysConfSetCom port name s
  | some .mode => sysConfSetMode port name s
  | some .limit => sysConfSetLimit port name s
  | _ => (s, .comSetFailed)

/-! ## The dispatcher -/

/-- The arms of the switch in `web_cmd_proc`. -/
def webArm (env : Env) (head : Mem) (s : Session) : ItsCmd → Session
  | .login =>
      s.answer env .login
        (sysUsrLogin s.dev.conf (cstr (itsipUser head)) (cstr (shift head 32)))
  | .userQuery => s.answerBlock env .userQuery (shift s.dev.conf (usrOff 0)) (maxUsrNum * usrSize)
  | .userSet =>
      -- the answer's header is not packed
      let r := sysUsrSet env head s
      r.1.reply (store env.stack 32 r.2.code) none 0
  | .sysinfoQuery =>
      let s := { s with dev := { s.dev with conf := putSwVer s.dev.conf } }
      s.answerBlock env .sysinfoQuery (shift s.dev.conf sysOff) sysSize
  | .sysinfoSet => let r := sysSysinfoSet s; r.1.answer env .sysinfoSet r.2
  | .confQuery => sysConfQuery env head s
  | .confSet => let r := sysConfSet head s; r.1.answer env .confSet r.2
  | .netinfoQuery => s.answerBlock env .netinfoQuery (shift s.dev.conf netOff) netSize
  | .netinfoSet => let r := sysNetinfoSet s; r.1.answer env .netinfoSet r.2
  | .vlanQuery => s.answerBlock env .vlanQuery (shift s.dev.conf vlanOff) vlanSize
  | .vlanSet => let r := sysVlanSet s; r.1.answer env .vlanSet r.2
  | .factorySet => let r := sysFactorySet s; r.1.answer env .factorySet r.2
  | .serverQuery => s.answerBlock env .serverQuery (shift s.dev.conf serverOff) serverSize
  | .serverSet =>
      let r := sysServerSet s
      let s := r.1.answer env .serverSet r.2
      if r.2 = .serverSetOk then { s with dev := { s.dev with reconnectFlag := reconnectOn } }
      else s
  | .gpioQuery =>
      let s := { s with dev := { s.dev with conf := putGpioStatus env s.dev } }
      s.answerBlock env .gpioQuery (shift s.dev.conf gpioOff) gpioSize
  | .gpioSet => let r := sysGpioSet s; r.1.answer env .gpioSet r.2

/-- `web_cmd_proc`. -/
def webCmdProc (env : Env) (head : Mem) (s : Session) : Session :=
  if s.conn.isOpen = false then s
  else if head 0 ≠ itsHead then s
  else
    match ItsCmd.ofByte (itsipCmd head) with
    | some c => webArm env head s c
    | none => s

/-- On an open connection the header selects its arm. -/
theorem webCmdProc_eq (env : Env) {head : Mem} (s : Session) {c : ItsCmd} (hhead : head 0 = itsHead)
    (hcmd : itsipCmd head = c.code) :
    webCmdProc env head s = if s.conn.isOpen = false then s else webArm env head s c := by
  unfold webCmdProc
  rw [if_neg (not_not_intro hhead), hcmd, ItsCmd.ofByte_code]

/-- The local `net_data` of `web_svr_proc` after a header has been received. -/
def receivedHead (env : Env) (bytes : List UInt8) : Mem :=
  blit (fill env.stack 0 headSize 0) 0 bytes

/-- `web_svr_proc`: one header and its handling. -/
def webSvrProc (env : Env) (s : Session) : Session :=
  if s.conn.isOpen = false then s
  else
    let r := webConnRecv s.conn headSize
    let s := { s with conn := r.conn }
    if r.ok then webCmdProc env (receivedHead env r.bytes) s else s

/-! ## What an arm reads -/

/-- The number of bytes an arm asks the connection for, if it asks. -/
def asked (conf head : Mem) : ItsCmd → Option Nat
  | .sysinfoSet => some sysSize
  | .netinfoSet => some netSize
  | .vlanSet => some vlanSize
  | .serverSet => some serverSize
  | .gpioSet => some gpioSize
  | .confSet =>
      match ConfKind.ofByte (itsipData head 0) with
      | some .com => some comSize
      | some .mode => some modeSize
      | some .limit => some limSize
      | _ => none
  | .userSet =>
      match getUsrInfo conf (cstr (itsipUser head)) with
      | some u => if usrAuth conf u ≠ usrRoot then none else some (itsipExtlen head)
      | none => none
  | _ => none

/-- The connection after a read of so many bytes, or none. -/
def readAsked (conn : Conn) : Option Nat → Conn
  | some n => (webConnRecv conn n).conn
  | none => conn

theorem sysSet_conn (off size : Nat) (ok failed : CmdCode) (s : Session) :
    (sysSet off size ok failed s).1.conn = (webConnRecv s.conn size).conn := by
  simp only [sysSet]
  split <;> rfl

theorem sysUsrSet_conn (env : Env) (head : Mem) (s : Session) :
    (sysUsrSet env head s).1.conn = readAsked s.conn (asked s.dev.conf head .userSet) := by
  unfold sysUsrSet
  simp only [asked]
  cases getUsrInfo s.dev.conf (cstr (itsipUser head)) with
  | none => rfl
  | some u =>
      by_cases h : usrAuth s.dev.conf u ≠ usrRoot
      · simp only [if_pos h]
        rfl
      · simp only [if_neg h]
        rfl

theorem sysConfSet_conn (head : Mem) (s : Session) :
    (sysConfSet head s).1.conn = readAsked s.conn (asked s.dev.conf head .confSet) := by
  unfold sysConfSet
  simp only [asked]
  cases ConfKind.ofByte (itsipData head 0) with
  | none => rfl
  | some k =>
      cases k with
      | gpio | server => rfl
      | com =>
          simp only [sysConfSetCom]
          split
          · rfl
          · split <;> rfl
      | mode =>
          simp only [sysConfSetMode]
          split
          · rfl
          · split <;> rfl
      | limit =>
          simp only [sysConfSetLimit]
          split
          · rfl
          · split <;> rfl

/-- An arm reads what it asks for, and then does nothing to the connection but
answer. -/
theorem webArm_conn (env : Env) (head : Mem) (s : Session) (c : ItsCmd) :
    (webArm env head s c).conn = readAsked s.conn (asked s.dev.conf head c) ∨
      ∃ h data len, (webArm env head s c).conn =
        (netConnSend (readAsked s.conn (asked s.dev.conf head c)) h data len).2 := by
  have sent : ∀ (s' : Session) (h : Mem) (data : Option Mem) (len : Nat) (conn : Conn),
      s'.conn = conn → ∃ h' data' len', (s'.reply h data len).conn =
        (netConnSend conn h' data' len').2 := by
    rintro s' h data len _ rfl
    exact ⟨h, data, len, rfl⟩
  cases c with
  | login | userQuery | sysinfoQuery | netinfoQuery | vlanQuery | serverQuery | gpioQuery =>
      exact .inr (sent _ _ _ _ _ rfl)
  | factorySet => exact .inr (sent _ _ _ _ _ rfl)
  | sysinfoSet | vlanSet => exact .inr (sent _ _ _ _ _ (sysSet_conn _ _ _ _ s))
  | netinfoSet =>
      refine .inr (sent _ _ _ _ _ ?_)
      rw [sysNetinfoSet]
      split
      · exact sysSet_conn _ _ _ _ s
      · exact sysSet_conn _ _ _ _ s
  | gpioSet =>
      refine .inr (sent _ _ _ _ _ ?_)
      simp only [sysGpioSet]
      split
      · exact sysSet_conn _ _ _ _ s
      · exact sysSet_conn _ _ _ _ s
  | serverSet =>
      -- the flag that asks for a reconnection is set after the answer
      have hanswer : (webArm env head s .serverSet).conn =
          ((sysServerSet s).1.answer env .serverSet (sysServerSet s).2).conn := by
        simp only [webArm]
        split <;> rfl
      rw [hanswer]
      exact .inr (sent _ _ _ _ _ (sysSet_conn _ _ _ _ s))
  | userSet => exact .inr (sent _ _ _ _ _ (sysUsrSet_conn env head s))
  | confSet => exact .inr (sent _ _ _ _ _ (sysConfSet_conn head s))
  | confQuery =>
      show (sysConfQuery env head s).conn = s.conn ∨
        ∃ h data len, (sysConfQuery env head s).conn = (netConnSend s.conn h data len).2
      unfold sysConfQuery
      cases ConfKind.ofByte (itsipData head 0) with
      | none => exact .inl rfl
      | some k =>
          cases k with
          | gpio | server => exact .inr (sent _ _ _ _ _ rfl)
          | com | mode | limit =>
              dsimp only
              split
              · exact .inr (sent _ _ _ _ _ rfl)
              · exact .inr (sent _ _ _ _ _ rfl)

end Itertk.Web.Handlers
