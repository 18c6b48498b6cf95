import Itertk.Base.Memory

/-!
# ITSIP headers

An ITSIP message is a header of 56 bytes, sometimes with a block of data behind
it.  The two copies of `inc/itsip.h`, `inc/cmd_def.h` and `itsip_pack` (daemon
and library) say the same.  A header is kept as the memory it lies in, since
`itsip_pack` leaves most of it as the stack had it, and the user name may run on
into the data bytes.

| field         | offset |
|---------------|--------|
| `itsip_head`  | 0      |
| `itsip_cmd`   | 1      |
| `itsip_ver`   | 2      |
| `itsip_thl`   | 3      |
| `itsip_extlen`| 4, 5   |
| `itsip_dev_t` | 6      |
| `itsip_user`  | 8..31  |
| `itsip_data`  | 32..55 |
-/

namespace Itertk.Itsip.Header

open Itertk.Base.Memory

/-! ## Codes -/

/-- `ITS_HEAD`. -/
def itsHead : UInt8 := 0xff

def itsipVersion : UInt8 := 0x01
def itsipThlen : UInt8 := 8

/-- The commands that have an arm in `web_cmd_proc`. -/
inductive ItsCmd where
  | login | userQuery | userSet | sysinfoQuery | sysinfoSet | confQuery | confSet
  | netinfoQuery | netinfoSet | vlanQuery | vlanSet | factorySet | serverQuery | serverSet
  | gpioQuery | gpioSet
  deriving DecidableEq, Repr

namespace ItsCmd

/-- The `case` label. -/
def code : ItsCmd → UInt8
  | login => 0xa0
  | sysinfoQuery => 0xa1
  | confQuery => 0xa2
  | confSet => 0xa3
  | userSet => 0xa5
  | userQuery => 0xae
  | sysinfoSet => 0xaf
  | netinfoQuery => 0xc0
  | netinfoSet => 0xc1
  | vlanQuery => 0xc2
  | vlanSet => 0xc3
  | factorySet => 0xc4
  | serverQuery => 0xc5
  | serverSet => 0xc6
  | gpioQuery => 0xc7
  | gpioSet => 0xc8

/-- The `ITS_ACK_*` code of the answer. -/
def ack : ItsCmd → UInt8
  | login => 0xb0
  | sysinfoQuery => 0xb1
  | confQuery => 0xb2
  | confSet => 0xb3
  | userSet => 0xb5
  | userQuery => 0xbe
  | sysinfoSet => 0xbf
  | netinfoQuery => 0xd0
  | netinfoSet => 0xd1
  | vlanQuery => 0xd2
  | vlanSet => 0xd3
  | factorySet => 0xd4
  | serverQuery => 0xd5
  | serverSet => 0xd6
  | gpioQuery => 0xd7
  | gpioSet => 0xd8

/-- The arm that `switch (p_net_head->itsip_cmd)` selects. -/
def ofByte (b : UInt8) : Option ItsCmd :=
  [login, userQuery, userSet, sysinfoQuery, sysinfoSet, confQuery, confSet, netinfoQuery,
    netinfoSet, vlanQuery, vlanSet, factorySet, serverQuery, serverSet, gpioQuery,
    gpioSet].find? fun c => c.code = b

@[simp] theorem ofByte_code (c : ItsCmd) : ofByte c.code = some c := by
  cases c <;> rfl

end ItsCmd

/-- `CONF_COM` to `CONF_SERVER`, in `itsip_data[0]` of a `CONF_*` command. -/
inductive ConfKind where
  | com | mode | limit | gpio | server
  deriving DecidableEq, Repr

namespace ConfKind

def code : ConfKind → UInt8
  | com => 0
  | mode => 1
  | limit => 2
  | gpio => 3
  | server => 4

def ofByte (b : UInt8) : Option ConfKind :=
  [com, mode, limit, gpio, server].find? fun c => c.code = b

@[simp] theorem ofByte_code (c : ConfKind) : ofByte c.code = some c := by
  cases c <;> rfl

end ConfKind

/-- `USER_ADD`, `USER_DEL`, `USER_MODIFY`, in `itsip_data[0]` of `USER_SET`. -/
inductive UserSet where
  | add | del | modify
  deriving DecidableEq, Repr

namespace UserSet

def code : UserSet → UInt8
  | add => 0
  | del => 1
  | modify => 2

def ofByte (b : UInt8) : Option UserSet := [add, del, modify].find? fun c => c.code = b

end UserSet

/-- The results of `tagCMD_CODE` that the handlers return. -/
inductive CmdCode where
  | recvFailed | loginOk | noUser | errorPsw
  | sysSetOk | sysSetFailed | netSetOk | netSetFailed | vlanSetOk | vlanSetFailed | factorySetOk
  | rcNousr | rcNoright | rcUsrexist
  | usrAddOk | usrAddFailed | usrDelOk | usrDelFailed | usrModifyOk | usrModifyFailed
  | comSetOk | comSetFailed | modeSetOk | modeSetFailed | limitSetOk | limitSetFailed
  | serverSetOk | serverSetFailed | gpioSetOk
  deriving DecidableEq, Repr

/-- The value of the enumerator. -/
def CmdCode.code : CmdCode → UInt8
  | recvFailed => 3
  | loginOk => 4
  | noUser => 5
  | errorPsw => 6
  | sysSetOk => 9
  | sysSetFailed => 10
  | netSetOk => 11
  | netSetFailed => 12
  | vlanSetOk => 13
  | vlanSetFailed => 14
  | factorySetOk => 15
  | rcNousr => 17
  | rcNoright => 18
  | rcUsrexist => 19
  | usrAddOk => 20
  | usrAddFailed => 22
  | usrDelOk => 23
  | usrDelFailed => 25
  | usrModifyOk => 26
  | usrModifyFailed => 28
  | comSetOk => 29
  | comSetFailed => 30
  | modeSetOk => 31
  | modeSetFailed => 32
  | limitSetOk => 33
  | limitSetFailed => 34
  | serverSetOk => 35
  | serverSetFailed => 36
  | gpioSetOk => 39

/-! ## Fields -/

def itsipCmd (head : Mem) : UInt8 := head 1

/-- `itsip_extlen`, a `WORD`. -/
def itsipExtlen (head : Mem) : Nat := (head 4).toNat + 256 * (head 5).toNat

/-- The memory from `itsip_user` on. -/
def itsipUser (head : Mem) : Mem := shift head 8

def itsipData (head : Mem) (i : Nat) : UInt8 := head (32 + i)

/-- `itsip_pack(cmd, extlen, dev_t, NULL, &pkt)` on a packet that lay on the stack;
the reserved byte, the user and the data bytes stay as they were. -/
def itsipPack (stack : Mem) (cmd : UInt8) (extlen : UInt16) (devT : UInt8) : Mem :=
  let m := store stack 0 itsHead
  let m := store m 1 cmd
  let m := store m 2 itsipVersion
  let m := store m 3 itsipThlen
  let m := store m 4 extlen.toUInt8
  let m := store m 5 (extlen / 0x100).toUInt8
  store m 6 devT

end Itertk.Itsip.Header
