import Itertk.Daemon.Config
import Itertk.Itsip.Header
import Itertk.Itsip.Socket

/-!
# The requests of `itslib`

Each function of `itscmd.c` packs a header, hands it to `net_conn_send` with or
without a structure of its caller, and waits for the answer.  `Call.message` is
what the functions hand over; the `*_set` functions do not use their `name`, and
the `*_query` functions of ports use the id in the structure they are to fill.
-/

namespace Itertk.Itsip.Library

open Itertk.Base.Memory
open Itertk.Daemon.Layout
open Itertk.Daemon.Config
open Itertk.Itsip.Socket
open Itertk.Itsip.Header

/-! ## Messages -/

/-- The arguments of `net_conn_send`. -/
structure Message where
  head : Mem
  block : Option Mem
  len : Nat

/-- `net_conn_send(&conn, &pak.head, NULL, 0)`. -/
def headOnly (head : Mem) : Message := ⟨head, none, 0⟩

/-- `net_conn_send(&conn, &pak.head, (BYTE *)block, len)`, behind a header that
declares the same length. -/
def withBlock (head : UInt16 → Mem) (block : Mem) (len : Nat) : Message :=
  ⟨head (UInt16.ofNat len), some block, len⟩

/-- A packed header. -/
def packed (stack : Mem) (c : ItsCmd) (extlen : UInt16) : Mem := itsipPack stack c.code extlen 0

/-- A packed header with the user's name. -/
def named (stack : Mem) (c : ItsCmd) (name : List UInt8) (extlen : UInt16) : Mem :=
  strcpy (packed stack c extlen) 8 name

/-- `itsip_data[0] = kind; itsip_data[1] = id - 1`. -/
def withPort (head : Mem) (kind : ConfKind) (id : UInt8) : Mem :=
  store (store head 32 kind.code) 33 (id - 1)

/-- The calls of `itscmd.c`; a `Mem` is a pointer of the caller. -/
inductive Call where
  | userLogin (name hash : List UInt8)
  | sysinfoQuery (name : List UInt8)
  | sysinfoSet (conSys : Mem)
  | netinfoQuery (name : List UInt8)
  | netinfoSet (conNet : Mem)
  | vlanQuery (name : List UInt8)
  | vlanSet (conVlan : Mem)
  | factorySet
  | userQuery (name : List UInt8)
  | userAdd (name : List UInt8) (conUsr : Mem)
  | userDel (name : List UInt8) (conUsr : Mem)
  | userModify (name : List UInt8) (conUsr : Mem)
  | confComQuery (name : List UInt8) (conCom : Mem)
  | confGpioQuery (name : List UInt8)
  | confGpioSet (conGpio : Mem)
  | confServerQuery (name : List UInt8)
  | confModeQuery (name : List UInt8) (conMode : Mem)
  | confLimQuery (name : List UInt8) (conLim : Mem)
  | confComSet (conCom : Mem) (flag : UInt8)
  | confServerSet (conServer : Mem)
  | confModeSet (conMode : Mem)
  | confLimSet (conLim : Mem)

/-- The command of the header. -/
def Call.cmd : Call → ItsCmd
  | userLogin .. => .login
  | sysinfoQuery _ => .sysinfoQuery
  | sysinfoSet _ => .sysinfoSet
  | netinfoQuery _ => .netinfoQuery
  | netinfoSet _ => .netinfoSet
  | vlanQuery _ => .vlanQuery
  | vlanSet _ => .vlanSet
  | factorySet => .factorySet
  | userQuery _ => .userQuery
  | userAdd .. | userDel .. | userModify .. => .userSet
  | confComQuery .. | confModeQuery .. | confLimQuery .. => .confQuery
  | confGpioQuery _ => .gpioQuery
  | confGpioSet _ => .gpioSet
  | confServerQuery _ => .serverQuery
  | confComSet .. | confModeSet _ | confLimSet _ => .confSet
  | confServerSet _ => .serverSet

/-- What a call sends; the packet lay on the stack, and `hash` is
`crypt(psw, USR_SALT)`. -/
def Call.message (stack : Mem) (call : Call) : Message :=
  let c := call.cmd
  match call with
  | userLogin name hash => headOnly (strcpy (named stack c name 0) 32 hash)
  | sysinfoQuery name | netinfoQuery name | vlanQuery name | userQuery name =>
      headOnly (named stack c name 0)
  | factorySet => headOnly (packed stack c 0)
  | sysinfoSet conSys => withBlock (packed stack c) conSys sysSize
  | netinfoSet conNet => withBlock (packed stack c) conNet netSize
  | vlanSet conVlan => withBlock (packed stack c) conVlan vlanSize
  | userAdd name conUsr =>
      withBlock (fun n => store (named stack c name n) 32 UserSet.add.code) conUsr usrSize
  | userDel name conUsr =>
      withBlock (fun n => store (named stack c name n) 32 UserSet.del.code) conUsr usrSize
  | userModify name conUsr =>
      withBlock (fun n => store (named stack c name n) 32 UserSet.modify.code) conUsr (usrSize * 2)
  | confComQuery name conCom =>
      headOnly (withPort (named stack c name 0) .com (load32 conCom 0).toUInt8)
  | confGpioQuery name => headOnly (store (named stack c name 0) 32 ConfKind.gpio.code)
  | confGpioSet conGpio => withBlock (packed stack c) conGpio gpioSize
  | confServerQuery name => headOnly (store (named stack c name 0) 32 ConfKind.server.code)
  | confModeQuery name conMode =>
      headOnly (withPort (named stack c name 0) .mode (load32 conMode 0).toUInt8)
  | confLimQuery name conLim => headOnly (withPort (named stack c name 0) .limit (conLim 0))
  | confComSet conCom flag =>
      withBlock
        (fun n => store (withPort (packed stack c n) .com (load32 conCom 0).toUInt8) 34 flag)
        conCom comSize
  | confServerSet conServer => withBlock (packed stack c) conServer serverSize
  | confModeSet conMode =>
      withBlock (fun n => withPort (packed stack c n) .mode (load32 conMode 0).toUInt8) conMode
        modeSize
  | confLimSet conLim =>
      withBlock (fun n => withPort (packed stack c n) .limit (conLim 0)) conLim limSize

/-! ## The header of a call -/

/-- The length that a header declares is the length of its block. -/
theorem message_head (stack : Mem) (call : Call) {i : Nat} (hi : i < 8) :
    (call.message stack).head i =
      itsipPack stack call.cmd.code (UInt16.ofNat (call.message stack).len) 0 i := by
  cases call <;> simp (disch := omega) only [Call.message, headOnly, withBlock, named, packed,
    withPort, strcpy_before, store_ne] <;> rfl

theorem itsipExtlen_pack (stack : Mem) (cmd : UInt8) (extlen : UInt16) (devT : UInt8) :
    itsipExtlen (itsipPack stack cmd extlen devT) = extlen.toNat := by
  have hlt := extlen.toNat_lt
  show extlen.toUInt8.toNat + 256 * (extlen / 0x100).toUInt8.toNat = _
  simp only [UInt16.toNat_toUInt8, UInt16.toNat_div, UInt16.reduceToNat]
  omega

theorem message_len_le (stack : Mem) (call : Call) : (call.message stack).len ≤ 256 := by
  cases call <;> simp only [Call.message, headOnly, withBlock, sysSize, netSize, vlanSize, usrSize,
    gpioSize, comSize, serverSize, modeSize, limSize] <;> omega

/-- A block is not empty, and no block means no length. -/
theorem message_len_pos_iff (stack : Mem) (call : Call) :
    0 < (call.message stack).len ↔ (call.message stack).block ≠ none := by
  cases call <;> simp [Call.message, headOnly, withBlock, sysSize, netSize, vlanSize, usrSize,
    gpioSize, serverSize, modeSize, limSize]

/-! ## Calls on one connection -/

/-- A new connection whose peer takes all it is sent. -/
def fresh : Conn := ⟨true, [], [], []⟩

/-- What `net_conn_send` puts on it. -/
def transmitted (m : Message) : List UInt8 := (netConnSend fresh m.head m.block m.len).2.sent

/-- The header, and `MAX_LENGTH` bytes behind it when there is a block. -/
theorem transmitted_eq (m : Message) :
    transmitted m = slice m.head 0 headSize ++ behindHead m.block m.len := by
  have hopen : fresh.isOpen = true := rfl
  have hwilling : Willing fresh.outgoing := .nil
  exact netConnSend_sent (netConnSend_willing hopen hwilling m.head m.block m.len).1

/-- The messages sent one after the other. -/
def sendAll (conn : Conn) : List Message → Conn
  | [] => conn
  | m :: ms => sendAll (netConnSend conn m.head m.block m.len).2 ms

/-- A peer that takes its time gets the same bytes. -/
theorem sendAll_sent {conn : Conn} (hopen : conn.isOpen = true) (h : Willing conn.outgoing)
    (ms : List Message) : (sendAll conn ms).sent = conn.sent ++ ms.flatMap transmitted := by
  induction ms generalizing conn with
  | nil =>
      rw [List.flatMap_nil, List.append_nil]
      rfl
  | cons m ms ih =>
      obtain ⟨hok, hopen', hwilling⟩ := netConnSend_willing hopen h m.head m.block m.len
      rw [sendAll, ih hopen' hwilling, netConnSend_sent hok, List.flatMap_cons, transmitted_eq]
      simp only [List.append_assoc]

end Itertk.Itsip.Library
