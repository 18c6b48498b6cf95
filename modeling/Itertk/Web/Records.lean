import Itertk.Itsip.Calls
import Itertk.Web.Answers
import Itertk.Web.ConfStatus
import Itertk.Web.FactoryReset
import Itertk.Web.Framing
import Itertk.Web.ReadOnly

/-!
# The records behind ITSIP

What the daemon keeps for its programs is a handful of records that do not overlap.  A call
acts on each record by itself: `Call.effect` says how, in terms of the record's bytes and
the call's arguments only.  `con_gpio`, which every query of it changes, and the accounts are
not among them.

## Main result

* `webArm_served` — serving a call either leaves every record as it is or has the call's
  effect on each, and the answer says which or brings the record.
-/

namespace Itertk.Web.Records

open Itertk.Base.Memory
open Itertk.Daemon.Layout
open Itertk.Daemon.Config
open Itertk.Daemon.State
open Itertk.Itsip.Socket
open Itertk.Itsip.Header
open Itertk.Itsip.Library
open Itertk.Itsip.Calls
open Itertk.Web.Handlers
open Itertk.Web.PortRecords
open Itertk.Web.ConfStatus
open Itertk.Web.Framing

/-! ## Records -/

/-- The records of `CONFI_DATA` that calls set and query. -/
inductive Cell where
  | sys | net | vlan | server
  | com (p : Fin maxComPort)
  | mode (p : Fin maxComPort)
  | lim (p : Fin maxComPort)
  deriving DecidableEq

namespace Cell

def off : Cell → Nat
  | sys => sysOff
  | net => netOff
  | vlan => vlanOff
  | server => serverOff
  | com p => comOff p
  | mode p => modeOff p
  | lim p => limOff p

def size : Cell → Nat
  | sys => sysSize
  | net => netSize
  | vlan => vlanSize
  | server => serverSize
  | com _ => comSize
  | mode _ => modeSize
  | lim _ => limSize

private theorem size_bounds (c : Cell) : 0 < c.size ∧ c.size ≤ maxLength := by
  cases c <;> decide +revert

/-- No two of them share a byte. -/
theorem disjoint {c c' : Cell} (h : c ≠ c') :
    c.off + c.size ≤ c'.off ∨ c'.off + c'.size ≤ c.off := by
  cases c <;> cases c' <;>
    simp only [off, size, sysOff, netOff, vlanOff, serverOff, comOff, modeOff, limOff, sysSize,
      netSize, vlanSize, serverSize, comSize, modeSize, limSize, ne_eq, com.injEq, mode.injEq,
      lim.injEq, not_true_eq_false, maxComPort] at h ⊢ <;> omega

end Cell

/-- What the configuration holds of a record. -/
def record (conf : Mem) (c : Cell) : List UInt8 := slice conf c.off c.size

private theorem record_length (conf : Mem) (c : Cell) : (record conf c).length = c.size :=
  slice_length _ _ _

/-- A record depends on its own bytes. -/
theorem record_congr {m m' : Mem} {c : Cell}
    (h : ∀ i, c.off ≤ i → i < c.off + c.size → m i = m' i) :
    record m c = record m' c := by
  rw [record, record, slice_eq_iff]
  intro i hi
  exact h _ (by omega) (by omega)

/-- A list with some of its bytes replaced. -/
def patch (old : List UInt8) (k : Nat) (bytes : List UInt8) : List UInt8 :=
  old.take k ++ bytes ++ old.drop (k + bytes.length)

private theorem patch_all {old bytes : List UInt8} (h : bytes.length = old.length) :
    patch old 0 bytes = bytes := by
  rw [patch, List.take_zero, List.nil_append, List.drop_eq_nil_of_le (by omega), List.append_nil]

private theorem slice_blit_within (m : Mem) (off : Nat) {k n : Nat} {bytes : List UInt8}
    (h : k + bytes.length ≤ n) :
    slice (blit m (off + k) bytes) off n = patch (slice m off n) k bytes := by
  have hfront : slice (blit m (off + k) bytes) off k = slice m off k :=
    slice_blit_disjoint m bytes (.inl (Nat.le_refl _))
  have hback : slice (blit m (off + k) bytes) (off + k + bytes.length) (n - k - bytes.length) =
      slice m (off + k + bytes.length) (n - k - bytes.length) :=
    slice_blit_disjoint m bytes (.inr (Nat.le_refl _))
  rw [patch, take_slice _ _ (by omega), drop_slice _ _ h, slice_split _ off (show k ≤ n by omega),
    slice_split _ (off + k) (show bytes.length ≤ n - k by omega), hfront, hback, slice_blit_self,
    List.append_assoc, ← Nat.add_assoc, Nat.sub_sub]

/-- A copy inside one record changes it there and no other. -/
theorem record_blit_within (conf : Mem) (c c' : Cell) {k : Nat} {bytes : List UInt8}
    (h : k + bytes.length ≤ c.size) :
    record (blit conf (c.off + k) bytes) c' =
      if c' = c then patch (record conf c) k bytes else record conf c' := by
  by_cases hc : c' = c
  · rw [if_pos hc, hc]
    exact slice_blit_within conf c.off h
  · rw [if_neg hc]
    apply slice_blit_disjoint
    have hdisjoint := Cell.disjoint hc
    omega

/-- A copy over a whole record. -/
theorem record_blit (conf : Mem) (c c' : Cell) {bytes : List UInt8} (h : bytes.length = c.size) :
    record (blit conf c.off bytes) c' = if c' = c then bytes else record conf c' := by
  have hwithin := @record_blit_within conf c c' 0 bytes (by omega)
  rw [patch_all (by rw [record_length, h])] at hwithin
  exact hwithin

/-- `con_gpio` lies behind them all. -/
theorem Cell.before_gpio (c : Cell) : c.off + c.size ≤ gpioOff := by
  cases c <;> simp only [off, size, sysOff, netOff, vlanOff, serverOff, comOff, modeOff, limOff,
    gpioOff, sysSize, netSize, vlanSize, serverSize, comSize, modeSize, limSize] <;>
    first | omega | (rename_i p; have hp := p.isLt; simp only [maxComPort] at hp; omega)

private theorem record_of_gpio {m m' : Mem} (h : ∀ i, i < gpioOff → m i = m' i) (c : Cell) :
    record m c = record m' c := by
  have hbefore := c.before_gpio
  exact record_congr fun i _ hi => h i (by omega)

/-! ## What a call does to a record -/

/-- The port with this id. -/
def portOf (id : UInt8) : Option (Fin maxComPort) :=
  if h : (id - 1).toNat < maxComPort then some ⟨(id - 1).toNat, h⟩ else none

private theorem portOf_eq_some {id : UInt8} {p : Fin maxComPort} (h : portOf id = some p) :
    (id - 1).toNat = p := by
  unfold portOf at h
  split at h
  · cases h
    rfl
  · cases h

/-- The id in a `CONFIG_COM` or a `CONFIG_MODE`. -/
def idOf (m : Mem) : UInt8 := (load32 m 0).toUInt8

/-- The line settings of a block for all ports, in the record of another port. -/
def spread (old block : List UInt8) : List UInt8 :=
  (withLine (receivedCom old) (receivedCom block)).bytes

/-- `PROGRAM_VERSION` as a C string. -/
def version : List UInt8 := chars ['v', '4', '.', '0', '0'] ++ [0]

/-- What a call that is carried out makes of a record. -/
def effect (call : Call) (c : Cell) (old : List UInt8) : List UInt8 :=
  match call, c with
  | .sysinfoQuery _, .sys => patch old 96 version
  | .sysinfoSet conSys, .sys => slice conSys 0 sysSize
  | .netinfoSet conNet, .net => slice conNet 0 netSize
  | .vlanSet conVlan, .vlan => slice conVlan 0 vlanSize
  | .confServerSet conServer, .server => slice conServer 0 serverSize
  | .confComSet conCom _, .com p =>
      if (receivedCom (slice conCom 0 comSize)).all = 1 then spread old (slice conCom 0 comSize)
      else if portOf (idOf conCom) = some p then slice conCom 0 comSize else old
  | .confModeSet conMode, .mode p =>
      if portOf (idOf conMode) = some p then slice conMode 0 modeSize else old
  | .confLimSet conLim, .lim p =>
      if portOf (conLim 0) = some p then slice conLim 0 limSize else old
  | .factorySet, .net => patch old 0 FactoryReset.netDefaults
  | .factorySet, .server => patch old 0 FactoryReset.serverDefaults
  | _, _ => old

/-- What a program expects of a call: a result that means success, or a record. -/
inductive Op where
  | set (ok : UInt8)
  | query (c : Cell)
  | other

/-- `its_conf_*_query`, if the port is one of the table. -/
def portQuery (cell : Fin maxComPort → Cell) (id : UInt8) : Op :=
  match portOf id with
  | some p => .query (cell p)
  | none => .other

def op : Call → Op
  | .sysinfoSet _ => .set CmdCode.sysSetOk.code
  | .netinfoSet _ => .set CmdCode.netSetOk.code
  | .vlanSet _ => .set CmdCode.vlanSetOk.code
  | .factorySet => .set CmdCode.factorySetOk.code
  | .confServerSet _ => .set CmdCode.serverSetOk.code
  | .confComSet _ _ => .set CmdCode.comSetOk.code
  | .confModeSet _ => .set CmdCode.modeSetOk.code
  | .confLimSet _ => .set CmdCode.limitSetOk.code
  | .sysinfoQuery _ => .query .sys
  | .netinfoQuery _ => .query .net
  | .vlanQuery _ => .query .vlan
  | .confServerQuery _ => .query .server
  | .confComQuery _ conCom => portQuery .com (idOf conCom)
  | .confModeQuery _ conMode => portQuery .mode (idOf conMode)
  | .confLimQuery _ conLim => portQuery .lim (conLim 0)
  | _ => .other

private theorem portQuery_ne_set (cell : Fin maxComPort → Cell) (id ok : UInt8) :
    portQuery cell id ≠ .set ok := by
  unfold portQuery
  split
  · exact Op.noConfusion
  · exact Op.noConfusion

/-- No code of success is what a call returns for itself. -/
theorem op_set_code {call : Call} {ok : UInt8} (h : op call = .set ok) :
    ok ∉ [failure, connFailed, sendFailed, recvFailed] := by
  cases call with
  | confComQuery | confModeQuery | confLimQuery => exact absurd h (portQuery_ne_set _ _ _)
  | sysinfoSet | netinfoSet | vlanSet | factorySet | confServerSet | confComSet | confModeSet
  | confLimSet =>
      cases h
      decide
  | _ => cases h

/-- The call changes no account, and sets no port beyond the tables. -/
def InTables : Call → Prop
  | .userAdd .. | .userDel .. | .userModify .. => False
  | .confComSet conCom _ => portOf (idOf conCom) ≠ none
  | .confModeSet conMode => portOf (idOf conMode) ≠ none
  | .confLimSet conLim => portOf (conLim 0) ≠ none
  | _ => True

/-- The call sets the line of a port whose limits are on. -/
def Limited (records : Cell → List UInt8) : Call → Prop
  | .confComSet conCom _ => ∃ p, portOf (idOf conCom) = some p ∧ (records (.lim p))[1]? ≠ some 0
  | _ => False

/-! ## Changes of the configuration -/

private theorem record_putSwVer (name : List UInt8) (conf : Mem) (c : Cell) :
    record (putSwVer conf) c = effect (.sysinfoQuery name) c (record conf c) := by
  have hwithin := @record_blit_within conf .sys c 96 version (by decide)
  refine Eq.trans hwithin ?_
  by_cases hc : c = .sys
  · rw [if_pos hc, hc]
    rfl
  · rw [if_neg hc]
    cases c <;> first | rfl | exact absurd rfl hc

private theorem record_reconfig (conf : Mem) (c : Cell) :
    record (reconfig conf) c = effect .factorySet c (record conf c) := by
  have hserver := @record_blit_within
    (fill (blit conf netOff FactoryReset.netDefaults) (gpioOff + 12) 8 1) .server c 0
    FactoryReset.serverDefaults (by decide)
  have hgpio : ∀ c, record (fill (blit conf netOff FactoryReset.netDefaults) (gpioOff + 12) 8 1) c =
      record (blit conf netOff FactoryReset.netDefaults) c := fun c =>
    record_of_gpio (fun i hi => fill_before _ _ _ (by omega)) c
  have hnet : ∀ c, record (blit conf netOff FactoryReset.netDefaults) c =
      if c = .net then patch (record conf .net) 0 FactoryReset.netDefaults else record conf c :=
    fun c => @record_blit_within conf .net c 0 FactoryReset.netDefaults (by decide)
  rw [FactoryReset.reconfig_eq]
  refine hserver.trans ?_
  rw [hgpio, hgpio, hnet, hnet]
  cases c <;> rfl

/-- A record of `con_com` as the structure. -/
theorem record_com (conf : Mem) (p : Fin maxComPort) :
    record conf (.com p) = (ConfigCom.load conf (comOff p)).bytes :=
  (ConfigCom.bytes_load conf (comOff p)).symm

private theorem receivedCom_record (conf : Mem) (p : Fin maxComPort) :
    receivedCom (record conf (.com p)) = ConfigCom.load conf (comOff p) := by
  apply ConfigCom.load_congr
  intro i hi
  have hlen : i < (record conf (.com p)).length := by
    rw [record_length]
    exact hi
  rw [blit_hit _ _ _ _ hlen]
  exact getElem_slice _ _ _ _ _

private theorem receivedCom_bytes {bytes : List UInt8} (h : bytes.length = comSize) :
    (receivedCom bytes).bytes = bytes := by
  rw [receivedCom, ConfigCom.bytes_load, ← h]
  exact slice_blit_self zero 0 bytes

/-- The line settings of the block in every record, or the block in one. -/
theorem record_putCom (conf conCom : Mem) (flag : UInt8) {p : Fin maxComPort}
    (hp : portOf (idOf conCom) = some p) (c : Cell) :
    record (putCom conf p (receivedCom (slice conCom 0 comSize))) c =
      effect (.confComSet conCom flag) c (record conf c) := by
  have hone : ∀ (m : Mem) (q : Fin maxComPort) (l : ConfigCom) (c : Cell),
      record (blit m (comOff q) l.bytes) c = if c = .com q then l.bytes else record m c :=
    fun m q l c => record_blit m (.com q) c l.bytes_length
  by_cases hall : (receivedCom (slice conCom 0 comSize)).all = 1
  · have hother : ∀ c, (∀ q, c ≠ .com q) →
        record (putCom conf p (receivedCom (slice conCom 0 comSize))) c = record conf c := by
      intro c hc
      rw [putCom, if_neg (not_not_intro hall)]
      exact forUpTo_keeps (fun m => record m c) conf maxComPort fun j hj m =>
        (hone m ⟨j, hj⟩ _ c).trans (if_neg (hc ⟨j, hj⟩))
    cases c with
    | com q =>
        show _ = if _ = 1 then _ else _
        rw [if_pos hall, record_com, putCom_all hall _ _ q.isLt, spread, receivedCom_record]
    | _ => exact hother _ fun q h => Cell.noConfusion h
  · rw [putCom, if_pos hall, hone, receivedCom_bytes (slice_length _ _ _)]
    cases c with
    | com q =>
        show _ = if _ = 1 then _ else _
        rw [if_neg hall, hp]
        by_cases hq : q = p
        · rw [if_pos (by rw [hq]), if_pos (by rw [hq])]
        · rw [if_neg (fun h => hq (Cell.com.inj h)), if_neg (fun h => hq (Option.some.inj h).symm)]
    | _ => rfl

/-! ## What is read from a connection -/

/-- A read that succeeds takes the front of what the connection is to bring. -/
theorem webConnRecv_front {conn : Conn} {n : Nat} {l : List UInt8}
    (hok : (webConnRecv conn n).ok = true) (h : unread conn.incoming <+: l) :
    (webConnRecv conn n).bytes = l.take n ∧
      unread (webConnRecv conn n).conn.incoming <+: l.drop n := by
  have hopen : conn.isOpen = true := by
    cases hc : conn.isOpen with
    | true => rfl
    | false =>
        rw [webConnRecv, hc] at hok
        cases hok
  have hstream : (webConnRecv conn n).bytes ++ unread (webConnRecv conn n).conn.incoming =
      unread conn.incoming := by
    rw [webConnRecv, if_pos hopen]
    exact (recvLoop_unread n conn.incoming).1
  have hlen := webConnRecv_ok hok
  rw [← hstream] at h
  obtain ⟨rest, hrest⟩ := h
  rw [List.append_assoc] at hrest
  rw [← hrest]
  refine ⟨(List.take_left' hlen).symm, ?_⟩
  rw [List.drop_left' hlen]
  exact List.prefix_append _ _

/-- The block behind a header. -/
theorem webConnRecv_block {conn : Conn} {n : Nat} {m : Mem}
    (hok : (webConnRecv conn n).ok = true) (hn : n ≤ maxLength)
    (h : unread conn.incoming <+: slice m 0 maxLength) :
    (webConnRecv conn n).bytes = slice m 0 n := by
  rw [(webConnRecv_front hok h).1, take_slice m 0 hn]

/-- What follows the header of a request with a structure. -/
theorem block_of_behind {m : Mem} {len : Nat} {l : List UInt8} (hpos : 0 < len)
    (h : l <+: behindHead (some m) len) : l <+: slice m 0 maxLength := by
  rw [behindHead, if_pos hpos] at h
  exact h

/-! ## Serving a call -/

/-- What the answer says: a header and what follows it. -/
structure Answer where
  head : Mem
  block : List UInt8

/-- A code that means success comes after the call was carried out, or was not allowed to
set a line; a record comes as the call leaves it, or none does. -/
def Tells (call : Call) (records : Cell → List UInt8) (took : Bool) (a : Answer) : Prop :=
  match op call with
  | .set ok => itsipData a.head 0 = ok → took = true ∨ Limited records call
  | .query c => itsipExtlen a.head = 0 ∨
      (took = true ∧ itsipExtlen a.head = c.size ∧ a.block.take c.size = effect call c (records c))
  | .other => True

/-- A call has been served: it took effect or not, and a beginning of its answer has been
sent. -/
structure Served (call : Call) (s s' : Session) (took : Bool) (a : Answer) : Prop where
  records : ∀ c, record s'.dev.conf c =
    if took = true then effect call c (record s.dev.conf c) else record s.dev.conf c
  tells : Tells call (record s.dev.conf) took a
  sent : ∃ front, front <+: slice a.head 0 headSize ++ a.block ∧
    s'.conn.sent = s.conn.sent ++ front

private theorem reply_sent (s : Session) (head : Mem) (data : Option Mem) (len : Nat) :
    ∃ front, front <+: slice head 0 headSize ++ behindHead data len ∧
      (s.reply head data len).conn.sent = s.conn.sent ++ front :=
  netConnSend_appends s.conn head data len

/-- A call that is answered with a code. -/
theorem served_answer {env : Env} {c : ItsCmd} {call : Call} {s t : Session} {ret : CmdCode}
    {took : Bool} {ok : UInt8} (hsent : t.conn.sent = s.conn.sent)
    (hrecords : ∀ c, record t.dev.conf c =
      if took = true then effect call c (record s.dev.conf c) else record s.dev.conf c)
    (hop : op call = .set ok)
    (hok : ret.code = ok → took = true ∨ Limited (record s.dev.conf) call) :
    ∃ took a, Served call s (t.answer env c ret) took a := by
  obtain ⟨front, hfront, hreply⟩ := reply_sent t (store (ackHead env c 0) 32 ret.code) none 0
  refine ⟨took, ⟨store (ackHead env c 0) 32 ret.code, []⟩, hrecords, ?_, front, hfront, ?_⟩
  · rw [Tells, hop]
    exact hok
  · rw [← hsent]
    exact hreply

/-- A call that is answered with a record. -/
theorem served_block {call : Call} {s t : Session} {head data : Mem} {len : Nat} {cell : Cell}
    (hsent : t.conn.sent = s.conn.sent)
    (hrecords : ∀ c, record t.dev.conf c = effect call c (record s.dev.conf c))
    (hop : op call = .query cell) (hlen : len = cell.size) (hextlen : itsipExtlen head = cell.size)
    (hdata : slice data 0 len = record t.dev.conf cell) :
    ∃ took a, Served call s (t.reply head (some data) len) took a := by
  obtain ⟨front, hfront, hreply⟩ := reply_sent t head (some data) len
  have hpos : len > 0 := by
    rw [hlen]
    exact cell.size_bounds.1
  have hle : len ≤ maxLength := by
    rw [hlen]
    exact cell.size_bounds.2
  rw [behindHead, if_pos hpos] at hfront
  have hblock : (slice data 0 maxLength).take cell.size =
      effect call cell (record s.dev.conf cell) := by
    rw [← hlen, take_slice data 0 hle, hdata]
    exact hrecords cell
  generalize slice data 0 maxLength = block at hfront hblock
  refine ⟨true, ⟨head, block⟩, hrecords, ?_, front, hfront, ?_⟩
  · rw [Tells, hop]
    exact .inr ⟨rfl, hextlen, hblock⟩
  · rw [← hsent]
    exact hreply

/-- A query that is turned down leaves the records alone and sends none. -/
theorem served_refused {call : Call} {s : Session} {head : Mem} {cell : Cell}
    (hop : op call = .query cell) (hextlen : itsipExtlen head = 0) :
    ∃ took a, Served call s (s.reply head none 0) took a := by
  obtain ⟨front, hfront, hreply⟩ := reply_sent s head none 0
  refine ⟨false, ⟨head, []⟩, fun c => rfl, ?_, front, hfront, hreply⟩
  rw [Tells, hop]
  exact .inl hextlen

/-- A call whose result no program of the records waits for. -/
theorem served_other {call : Call} {s t : Session} {head : Mem} {data : Option Mem} {len : Nat}
    (hsent : t.conn.sent = s.conn.sent)
    (hrecords : ∀ c, record t.dev.conf c = record s.dev.conf c) (hop : op call = .other) :
    ∃ took a, Served call s (t.reply head data len) took a := by
  obtain ⟨front, hfront, hreply⟩ := reply_sent t head data len
  refine ⟨false, ⟨head, behindHead data len⟩, hrecords, ?_, front, hfront, ?_⟩
  · rw [Tells, hop]
    trivial
  · rw [← hsent]
    exact hreply

/-! ## The `sys_*_set` handlers -/

/-- The common body stores the block or nothing, and says which. -/
theorem sysSet_record (cell : Cell) {ok failed : CmdCode} (hne : failed.code ≠ ok.code)
    {s : Session} {m : Mem} (h : unread s.conn.incoming <+: slice m 0 maxLength) :
    ∃ took, (∀ c, record (sysSet cell.off cell.size ok failed s).1.dev.conf c =
        if took = true then (if c = cell then slice m 0 cell.size else record s.dev.conf c)
        else record s.dev.conf c) ∧
      ((sysSet cell.off cell.size ok failed s).2.code = ok.code → took = true) := by
  have hle := cell.size_bounds.2
  simp only [sysSet]
  cases hok : (webConnRecv s.conn cell.size).ok with
  | false =>
      refine ⟨false, fun c => rfl, fun hcode => ?_⟩
      exact absurd hcode hne
  | true =>
      refine ⟨true, fun c => ?_, fun _ => rfl⟩
      rw [if_pos rfl, if_pos rfl]
      show record (blit s.dev.conf cell.off (webConnRecv s.conn cell.size).bytes) c = _
      rw [webConnRecv_block hok hle h, record_blit _ _ _ (slice_length _ _ _)]

/-- The answer of a handler that stores as `sysSet` does. -/
theorem sysSet_served {env : Env} {c : ItsCmd} {call : Call} (cell : Cell) {ok failed : CmdCode}
    (hne : failed.code ≠ ok.code) (hop : op call = .set ok.code) {m : Mem}
    (heffect : ∀ c old, effect call c old = if c = cell then slice m 0 cell.size else old)
    {s : Session} (h : unread s.conn.incoming <+: slice m 0 maxLength) {t : Session × CmdCode}
    (hconf : t.1.dev.conf = (sysSet cell.off cell.size ok failed s).1.dev.conf)
    (hconn : t.1.conn = (sysSet cell.off cell.size ok failed s).1.conn)
    (hret : t.2 = (sysSet cell.off cell.size ok failed s).2) :
    ∃ took a, Served call s (t.1.answer env c t.2) took a := by
  obtain ⟨took, hrecords, hok⟩ := sysSet_record cell hne h
  have hsent : t.1.conn.sent = s.conn.sent := by
    rw [hconn]
    exact Answers.sysSet_sent _ _ _ _ s
  refine served_answer hsent (fun c => ?_) hop fun hcode => .inl (hok (hret ▸ hcode))
  rw [hconf, hrecords c, heffect]

/-- It changes nothing in front of its record. -/
theorem sysSet_before (off size : Nat) (ok failed : CmdCode) (s : Session) (i : Nat)
    (hi : i < off) :
    (sysSet off size ok failed s).1.dev.conf i = s.dev.conf i := by
  simp only [sysSet]
  split
  · exact blit_before _ _ hi
  · rfl

/-- `sys_netinfo_set` configures the interface besides. -/
theorem sysNetinfoSet_eq (s : Session) :
    (sysNetinfoSet s).1.dev = (sysSet netOff netSize .netSetOk .netSetFailed s).1.dev ∧
      (sysNetinfoSet s).1.conn = (sysSet netOff netSize .netSetOk .netSetFailed s).1.conn ∧
      (sysNetinfoSet s).2 = (sysSet netOff netSize .netSetOk .netSetFailed s).2 := by
  rw [sysNetinfoSet]
  split
  · exact ⟨rfl, rfl, rfl⟩
  · exact ⟨rfl, rfl, rfl⟩

/-- `sys_gpio_set` drives the outputs besides. -/
theorem sysGpioSet_eq (s : Session) :
    (sysGpioSet s).1.dev = (sysSet gpioOff gpioSize .gpioSetOk .netSetFailed s).1.dev ∧
      (sysGpioSet s).1.conn = (sysSet gpioOff gpioSize .gpioSetOk .netSetFailed s).1.conn := by
  simp only [sysGpioSet]
  split
  · exact ⟨rfl, rfl⟩
  · exact ⟨rfl, rfl⟩

/-! ## `sys_conf_set` and `sys_conf_query` -/

/-- The header that a call is served with. -/
def Arrives (call : Call) (stack head : Mem) : Prop :=
  ∀ i, i < headSize → head i = (call.message stack).head i

private theorem withPort_kind (head : Mem) (kind : ConfKind) (id : UInt8) :
    withPort head kind id 32 = kind.code :=
  (store_ne _ _ (by decide)).trans (store_self _ _ _)

private theorem withPort_port (head : Mem) (kind : ConfKind) (id : UInt8) :
    withPort head kind id 33 = id - 1 :=
  store_self _ _ _

/-- The kind and the id of a call for one port. -/
def portCall : Call → Option (ConfKind × UInt8)
  | .confComQuery _ conCom => some (.com, idOf conCom)
  | .confModeQuery _ conMode => some (.mode, idOf conMode)
  | .confLimQuery _ conLim => some (.limit, conLim 0)
  | .confComSet conCom _ => some (.com, idOf conCom)
  | .confModeSet conMode => some (.mode, idOf conMode)
  | .confLimSet conLim => some (.limit, conLim 0)
  | _ => none

/-- The header says kind and port. -/
theorem Arrives.port {call : Call} {stack head : Mem} (h : Arrives call stack head)
    {kind : ConfKind} {id : UInt8} (hcall : portCall call = some (kind, id)) :
    itsipData head 0 = kind.code ∧ port head = (id - 1).toNat := by
  have hhead : (call.message stack).head 32 = kind.code ∧
      (call.message stack).head 33 = id - 1 := by
    cases call with
    | confComSet conCom flag =>
        cases hcall
        simp only [Call.message, withBlock]
        rw [store_ne _ _ (by decide), store_ne _ _ (by decide)]
        exact ⟨withPort_kind _ _ _, withPort_port _ _ _⟩
    | confComQuery | confModeQuery | confLimQuery | confModeSet | confLimSet =>
        cases hcall
        simp only [Call.message, withBlock, headOnly]
        exact ⟨withPort_kind _ _ _, withPort_port _ _ _⟩
    | _ => cases hcall
  exact ⟨(h 32 (by decide)).trans hhead.1,
    congrArg UInt8.toNat ((h 33 (by decide)).trans hhead.2)⟩

/-- The records of a kind, one for each port. -/
def portCell : SetKind → Fin maxComPort → Cell
  | .com => .com
  | .mode => .mode
  | .limit => .lim

/-- Where `sys_conf_query` and `sys_conf_set` look for them. -/
def portOff : SetKind → Nat → Nat
  | .com => comOff
  | .mode => modeOff
  | .limit => limOff

private theorem portCell_off (k : SetKind) (p : Fin maxComPort) :
    (portCell k p).off = portOff k p := by
  cases k <;> rfl

private theorem portCell_size (k : SetKind) (p : Fin maxComPort) :
    (portCell k p).size = k.size := by
  cases k <;> rfl

private theorem portCell_inj (k : SetKind) {p q : Fin maxComPort}
    (h : portCell k p = portCell k q) :
    p = q := by
  cases k with
  | com => exact Cell.com.inj h
  | mode => exact Cell.mode.inj h
  | limit => exact Cell.lim.inj h

/-- The record of the port that a call names. -/
private theorem ite_portCell {α : Type} (k : SetKind) {id : UInt8} {p : Fin maxComPort}
    (hp : portOf id = some p) (q : Fin maxComPort) (a b : α) :
    (if portOf id = some q then a else b) = if portCell k q = portCell k p then a else b := by
  rw [hp]
  by_cases hq : q = p
  · rw [if_pos (by rw [hq]), if_pos (by rw [hq])]
  · rw [if_neg fun h => hq (Option.some.inj h).symm, if_neg fun h => hq (portCell_inj k h)]

/-- A case of `sys_conf_set` that has its effect when it writes, and none otherwise. -/
theorem confSet_served {env : Env} (k : SetKind) {call : Call} {head : Mem} {s : Session}
    (hkind : itsipData head 0 = k.kind.code) (hop : op call = .set k.okCode.code)
    (hput : (webConnRecv s.conn k.size).ok = true → ∀ c,
      record (k.put s.dev.conf (port head) (webConnRecv s.conn k.size).bytes) c =
        effect call c (record s.dev.conf c))
    (hrefused : k.refusedCode.code = k.okCode.code →
      ¬k.Permitted s.dev.conf (port head) (requester head) → Limited (record s.dev.conf) call) :
    ∃ took a, Served call s ((sysConfSet head s).1.answer env .confSet (sysConfSet head s).2)
      took a := by
  have hsent := Answers.sysConfSet_sent head s
  cases sysConfSet_course hkind s with
  | notReceived _ hret hdev =>
      refine @served_answer env _ call s _ _ false _ hsent
        (fun c => by rw [hdev]; rfl) hop fun hcode => ?_
      rw [hret] at hcode
      cases k <;> exact absurd hcode (by decide)
  | refused _ hno hret hdev =>
      refine @served_answer env _ call s _ _ false _ hsent
        (fun c => by rw [hdev]; rfl) hop fun hcode => ?_
      rw [hret] at hcode
      exact .inr (hrefused hcode hno)
  | set hok _ _ hconf _ =>
      refine @served_answer env _ call s _ _ true _ hsent (fun c => ?_) hop fun _ => .inl rfl
      rw [hconf, hput hok, if_pos rfl]

/-- A block that is for one port in any case. -/
theorem confBlock_served {env : Env} (k : SetKind) {call : Call} {head m : Mem} {s : Session}
    {id : UInt8} {p : Fin maxComPort} (hp : portOf id = some p)
    (hhead : itsipData head 0 = k.kind.code ∧ port head = (id - 1).toNat)
    (hop : op call = .set k.okCode.code) (htells : k.refusedCode.code ≠ k.okCode.code)
    (hput : ∀ conf bytes, k.put conf (port head) bytes = blit conf (portOff k (port head)) bytes)
    (hblock : unread s.conn.incoming <+: slice m 0 maxLength)
    (heffect : ∀ c old, effect call c old = if c = portCell k p then slice m 0 k.size else old) :
    ∃ took a, Served call s ((sysConfSet head s).1.answer env .confSet (sysConfSet head s).2)
      took a := by
  have hoff : portOff k (port head) = (portCell k p).off := by
    rw [portCell_off, hhead.2, portOf_eq_some hp]
  have hsize : k.size ≤ maxLength := by cases k <;> decide
  refine confSet_served k hhead.1 hop (fun hok c => ?_) fun hcode => absurd hcode htells
  rw [hput, webConnRecv_block hok hsize hblock, heffect, hoff]
  exact record_blit s.dev.conf (portCell k p) c (by rw [slice_length, portCell_size])

/-- The limits that turn a requester down are on. -/
theorem limited_of_refused {conf : Mem} {right : Mem → Nat → Nat → UInt8} {p : Fin maxComPort}
    {name : List UInt8} (h : ¬MayAccess conf right p name) :
    (record conf (.lim p))[1]? ≠ some 0 := by
  intro hbyte
  have hsize : 1 < (Cell.lim p).size := show 1 < limSize by decide
  rw [record, getElem?_slice, if_pos hsize] at hbyte
  exact h (.inl (Option.some.inj hbyte))

/-- The answer to a query of a port, granted or refused. -/
theorem portQuery_served (call : Call) (cell : Fin maxComPort → Cell) {id : UInt8} {q size : Nat}
    (hop : op call = portQuery cell id) (heffect : ∀ c old, effect call c old = old)
    (hoff : ∀ p : Fin maxComPort, (id - 1).toNat = p → (cell p).off = q)
    (hsize : ∀ p, (cell p).size = size) {head refusal : Mem} (hhead : itsipExtlen head = size)
    (hrefusal : itsipExtlen refusal = 0) {may : Prop} [Decidable may] (s : Session) :
    ∃ took a, Served call s
      (if may then s.reply head (some (shift s.dev.conf q)) size else s.reply refusal none 0)
      took a := by
  cases hp : portOf id with
  | none =>
      have hother : op call = .other := by rw [hop, portQuery, hp]
      split
      · exact served_other rfl (fun c => rfl) hother
      · exact served_other rfl (fun c => rfl) hother
  | some p =>
      have hquery : op call = .query (cell p) := by rw [hop, portQuery, hp]
      split
      · refine served_block rfl (fun c => (heffect c _).symm) hquery (hsize p).symm
          (hhead.trans (hsize p).symm) ?_
        rw [slice_shift, record, hoff p (portOf_eq_some hp), hsize p]
      · exact served_refused hquery hrefusal

private theorem itsipExtlen_ackHead (env : Env) (c : ItsCmd) {len : Nat} (h : len < 65536) :
    itsipExtlen (ackHead env c (UInt16.ofNat len)) = len := by
  rw [ackHead, itsipExtlen_pack, UInt16.toNat_ofNat']
  exact Nat.mod_eq_of_lt h

/-- Each kind of `sys_conf_query`. -/
theorem confQuery_served {env : Env} (k : SetKind) {call : Call} {head : Mem} {id : UInt8}
    (hhead : itsipData head 0 = k.kind.code ∧ port head = (id - 1).toNat)
    (hop : op call = portQuery (portCell k) id) (heffect : ∀ c old, effect call c old = old)
    (s : Session) : ∃ took a, Served call s (sysConfQuery env head s) took a := by
  have hoff : ∀ p : Fin maxComPort, (id - 1).toNat = p →
      (portCell k p).off = portOff k (port head) := by
    intro p hp
    rw [portCell_off, hhead.2, hp]
  rw [sysConfQuery, hhead.1, ConfKind.ofByte_code]
  cases k with
  | com | mode | limit =>
      dsimp only [SetKind.kind]
      refine portQuery_served call _ hop heffect hoff (fun _ => rfl) ?_ ?_ s
      · exact itsipExtlen_ackHead env .confQuery (by decide)
      · exact itsipExtlen_ackHead env .confQuery (by decide)

/-! ## Every call -/

/-- A call that names its record in the tables, and no account, is served as `Served`
says. -/
theorem webArm_served (env : Env) {call : Call} (hcall : InTables call) {stack head : Mem}
    (hhead : Arrives call stack head) {s : Session}
    (h : unread s.conn.incoming <+:
      behindHead (call.message stack).block (call.message stack).len) :
    ∃ took a, Served call s (webArm env head s call.cmd) took a := by
  cases call with
  | userAdd | userDel | userModify => exact absurd hcall id
  | userLogin | userQuery => exact served_other rfl (fun c => rfl) rfl
  | confGpioQuery name =>
      refine served_other rfl (fun c => ?_) rfl
      exact record_of_gpio (fun i hi => ReadOnly.putGpioStatus_outside env s.dev (.inl hi)) c
  | factorySet =>
      exact @served_answer env .factorySet .factorySet s _ _ true _ rfl
        (record_reconfig s.dev.conf) rfl fun _ => .inl rfl
  | sysinfoQuery name =>
      exact served_block rfl (record_putSwVer name s.dev.conf) rfl rfl
        (itsipExtlen_ackHead env _ (by decide)) (slice_shift _ _ _)
  | netinfoQuery name | vlanQuery name | confServerQuery name =>
      exact served_block rfl (fun c => rfl) rfl rfl
        (itsipExtlen_ackHead env _ (by decide)) (slice_shift _ _ _)
  | sysinfoSet m =>
      exact sysSet_served .sys (by decide) rfl (fun c old => by cases c <;> rfl)
        (block_of_behind (show 0 < sysSize by decide) h) rfl rfl rfl
  | vlanSet m =>
      exact sysSet_served .vlan (by decide) rfl (fun c old => by cases c <;> rfl)
        (block_of_behind (show 0 < vlanSize by decide) h) rfl rfl rfl
  | netinfoSet m =>
      obtain ⟨hdev, hconn, hret⟩ := sysNetinfoSet_eq s
      exact sysSet_served .net (by decide) rfl (fun c old => by cases c <;> rfl)
        (block_of_behind (show 0 < netSize by decide) h) (congrArg Device.conf hdev) hconn hret
  | confServerSet m =>
      obtain ⟨took, a, hrecords, htells, hsent⟩ := @sysSet_served env .serverSet (.confServerSet m)
        .server .serverSetOk .serverSetFailed (by decide) rfl m (fun c old => by cases c <;> rfl) s
        (block_of_behind (show 0 < serverSize by decide) h) _ rfl rfl rfl
      -- `g_reconnect_flag` is no record
      have hsame : (webArm env head s .serverSet).dev.conf = (sysServerSet s).1.dev.conf ∧
          (webArm env head s .serverSet).conn =
            ((sysServerSet s).1.answer env .serverSet (sysServerSet s).2).conn := by
        simp only [webArm]
        split
        · exact ⟨rfl, rfl⟩
        · exact ⟨rfl, rfl⟩
      refine ⟨took, a, fun c => ?_, htells, ?_⟩
      · rw [show Call.cmd (.confServerSet m) = .serverSet from rfl, hsame.1]
        exact hrecords c
      · rw [show Call.cmd (.confServerSet m) = .serverSet from rfl, hsame.2]
        exact hsent
  | confGpioSet m =>
      obtain ⟨hdev, hconn⟩ := sysGpioSet_eq s
      refine served_other ?_ (fun c => ?_) rfl
      · rw [hconn]
        exact Answers.sysSet_sent _ _ _ _ s
      · rw [hdev]
        exact record_of_gpio (sysSet_before _ _ _ _ s) c
  | confComSet m flag =>
      obtain ⟨p, hp⟩ := Option.ne_none_iff_exists'.mp hcall
      obtain ⟨hkind, hport⟩ := hhead.port (show portCall (.confComSet m flag) = _ from rfl)
      rw [portOf_eq_some hp] at hport
      refine confSet_served .com hkind rfl (fun hok c => ?_) fun _ hno => ⟨p, hp, ?_⟩
      · rw [webConnRecv_block hok (by decide) (block_of_behind (show 0 < comSize by decide) h),
          hport]
        exact record_putCom s.dev.conf m flag hp c
      · rw [hport] at hno
        exact limited_of_refused hno
  | confModeSet m =>
      obtain ⟨p, hp⟩ := Option.ne_none_iff_exists'.mp hcall
      refine confBlock_served .mode hp (hhead.port rfl) rfl (by decide) (fun _ _ => rfl)
        (block_of_behind (show 0 < modeSize by decide) h) fun c old => ?_
      cases c with
      | mode q => exact ite_portCell .mode hp q _ _
      | _ => rfl
  | confLimSet m =>
      obtain ⟨p, hp⟩ := Option.ne_none_iff_exists'.mp hcall
      refine confBlock_served .limit hp (hhead.port rfl) rfl (by decide) (fun _ _ => rfl)
        (block_of_behind (show 0 < limSize by decide) h) fun c old => ?_
      cases c with
      | lim q => exact ite_portCell .limit hp q _ _
      | _ => rfl
  | confComQuery name m =>
      exact confQuery_served .com (hhead.port rfl) rfl (fun c old => by cases c <;> rfl) s
  | confModeQuery name m =>
      exact confQuery_served .mode (hhead.port rfl) rfl (fun c old => by cases c <;> rfl) s
  | confLimQuery name m =>
      exact confQuery_served .limit (hhead.port rfl) rfl (fun c old => by cases c <;> rfl) s

end Itertk.Web.Records
