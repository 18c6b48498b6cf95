import Itertk.Daemon.Config
import Itertk.Daemon.State

/-!
# Serial ports

`com_init` opens the ports and applies the record of each; `com_set` applies one
record.  Applying one (`com_para_set`) programs the terminal of the port and sets
`rs_type`, the one line mode that all ports share.

`Terminals` remembers what `setTTY` was last called with on each descriptor, and
`PortCall` tells the full-duplex calls on a port from the locked ones.
-/

namespace Itertk.Daemon.Serial

open Itertk.Base.Memory
open Itertk.Daemon.Layout
open Itertk.Daemon.State

/-! ## Opening and applying -/

/-- `RS232`. -/
def rs232 : UInt8 := 0

/-- `RS485`. -/
def rs485 : UInt8 := 1

/-- `com_para_set(fd, con_com)`. -/
def comParaSet (d : Device) (fd : Int) (c : ConfigCom) : Outcome :=
  if fd > 0 then ({ d with rsType := c.type }, [.tty fd c.bps c.dbit c.chk c.sbit]) else (d, [])

/-- `com_set` is `com_para_set` on the port that the record names. -/
theorem comSet_eq (d : Device) (c : ConfigCom) :
    comSet d c = comParaSet d (d.gcomfd (c.id - 1)) c := rfl

/-- `com_dev_open`: `opened i` is what `open` returns for port `i`. -/
def comDevOpen (d : Device) (opened : Nat → Int) : Device :=
  { d with gcomfd := fun k => if k.toNat < maxComPort then opened k.toNat else d.gcomfd k }

/-- One round of the loop of `com_init`. -/
def comInitRound (i : Nat) (o : Outcome) : Outcome :=
  o.andThen fun d =>
    comParaSet d (d.gcomfd (UInt32.ofNat i)) (ConfigCom.load d.conf (comOff i))

/-- `com_init`, up to the start of the port threads. -/
def comInit (d : Device) (opened : Nat → Int) : Outcome :=
  forUpTo maxComPort comInitRound (comDevOpen d opened, [])

theorem comParaSet_open {fd : Int} (h : fd > 0) (d : Device) (c : ConfigCom) :
    comParaSet d fd c = ({ d with rsType := c.type }, [.tty fd c.bps c.dbit c.chk c.sbit]) :=
  if_pos h

theorem comParaSet_closed {fd : Int} (h : ¬fd > 0) (d : Device) (c : ConfigCom) :
    comParaSet d fd c = (d, []) :=
  if_neg h

/-- Applying a record touches no global but `rs_type`. -/
theorem comParaSet_dev (d : Device) (fd : Int) (c : ConfigCom) :
    (comParaSet d fd c).1 = { d with rsType := (comParaSet d fd c).1.rsType } := by
  by_cases h : fd > 0
  · rw [comParaSet_open h]
  · rw [comParaSet_closed h]

@[simp] theorem comParaSet_conf (d : Device) (fd : Int) (c : ConfigCom) :
    (comParaSet d fd c).1.conf = d.conf := by
  rw [comParaSet_dev]

@[simp] theorem comParaSet_gcomfd (d : Device) (fd : Int) (c : ConfigCom) :
    (comParaSet d fd c).1.gcomfd = d.gcomfd := by
  rw [comParaSet_dev]

@[simp] theorem comParaSet_saved (d : Device) (fd : Int) (c : ConfigCom) :
    (comParaSet d fd c).1.saved = d.saved := by
  rw [comParaSet_dev]

/-- `com_init` applies the record of port 0, then that of port 1. -/
theorem comInit_eq (d : Device) (opened : Nat → Int) :
    comInit d opened =
      Outcome.andThen
        (comParaSet (comDevOpen d opened) (opened 0) (ConfigCom.load d.conf (comOff 0)))
        fun d' => comParaSet d' (opened 1) (ConfigCom.load d.conf (comOff 1)) := by
  simp only [comInit, maxComPort, forUpTo_succ, forUpTo_zero, comInitRound, Outcome.andThen,
    comParaSet_conf, comParaSet_gcomfd, List.nil_append]
  rfl

/-! ## Terminals -/

/-- The arguments of `setTTY` that set the line. -/
structure Line where
  bps : UInt32
  dbit : UInt8
  chk : UInt8
  sbit : UInt32
  deriving DecidableEq

/-- The line settings of a record. -/
def line (c : ConfigCom) : Line := ⟨c.bps, c.dbit, c.chk, c.sbit⟩

/-- What `setTTY` was last called with on each descriptor, if it was; a call that refuses its
arguments, whose result `com_para_set` ignores, counts too. -/
abbrev Terminals := Int → Option Line

/-- An event programs the terminal that it names, if it is a call of `setTTY`. -/
def Terminals.after (t : Terminals) : Event → Terminals
  | .tty fd bps dbit chk sbit => fun k => if k = fd then some ⟨bps, dbit, chk, sbit⟩ else t k
  | _ => t

/-- The terminals after the events. -/
def Terminals.afterAll (t : Terminals) (es : List Event) : Terminals := es.foldl Terminals.after t

@[simp] theorem afterAll_nil (t : Terminals) : t.afterAll [] = t := rfl

@[simp] theorem afterAll_reply (t : Terminals) (r : List UInt8) : t.afterAll [.reply r] = t := rfl

theorem afterAll_append (t : Terminals) (es es' : List Event) :
    t.afterAll (es ++ es') = (t.afterAll es).afterAll es' :=
  List.foldl_append

/-- Applying a record programs the terminal of the port with its line, if the port is
open, and no other. -/
theorem comParaSet_terminals (t : Terminals) (d : Device) (fd : Int) (c : ConfigCom) (k : Int) :
    t.afterAll (comParaSet d fd c).2 k = if fd > 0 ∧ k = fd then some (line c) else t k := by
  by_cases h : fd > 0
  · rw [comParaSet_open h]
    by_cases hk : k = fd
    · rw [if_pos ⟨h, hk⟩]
      exact if_pos hk
    · rw [if_neg fun hboth => hk hboth.2]
      exact if_neg hk
  · rw [comParaSet_closed h, if_neg fun hboth => h hboth.1]
    rfl

/-! ## Calls on a port -/

/-- What the daemon does to transfer data over a port. -/
inductive PortCall where
  /-- `pthread_mutex_lock(&rs485_mutex)`. -/
  | lock
  | unlock
  | read (fd : Int)
  | write (fd : Int) (data : List UInt8)
  /-- `ioctl(fd, TIORS485WR, arg)`. -/
  | ioctl (fd : Int) (data : List UInt8)
  /-- `SendComDataToNet(id, data, len)`. -/
  | toNet (id : UInt32) (data : List UInt8)
  /-- `Protocol_SendComDataToNet_PollMode(id, data, len)`. -/
  | pollMode (id : UInt32) (data : List UInt8)
  /-- `Protocol_SendComDataToNet_IntMode(id, data, len)`. -/
  | intMode (id : UInt32) (data : List UInt8)
  deriving DecidableEq

/-- A round of the loop of `writen`. -/
def asWrite : Event → Option PortCall
  | .serial fd data => some (.write fd data)
  | _ => none

/-- A round of the loop of `writen_rs485`. -/
def asIoctl : Event → Option PortCall
  | .serial fd data => some (.ioctl fd data)
  | _ => none

/-- The calls of `writen_rs485`; a call that has not returned holds the lock. -/
def rs485Calls (o : Option Int × List Event) : List PortCall :=
  .lock :: o.2.filterMap asIoctl ++ if o.1 = none then [] else [.unlock]

/-- The calls of `SendNetDataToCom(id, data, len)`. -/
def sendNetDataToComCalls (env : Env) (d : Device) (id : UInt32) (data : List UInt8) :
    List PortCall :=
  if d.rsType = rs232 then (writen env (d.gcomfd id) data).2.filterMap asWrite
  else if d.rsType = rs485 then rs485Calls (writenRs485 env (d.gcomfd id) data)
  else []

/-- What the full-duplex branch of `com_proc` does with the data for the alarm server,
by `g_conf_info.con_com[id].rsvd[0]`. -/
def toAlarmServer (d : Device) (id : UInt32) (data : List UInt8) : List PortCall :=
  let mode := (ConfigCom.load d.conf (comIndexOff id)).rsvd ⟨0, by decide⟩
  if mode = 0 then [.pollMode id data] else if mode = 1 then [.intMode id data] else []

/-- One round of `com_proc` for the port `id`, whose `read` gets `data`; nothing when it
fails. -/
def comProcCalls (d : Device) (id : UInt32) (data : List UInt8) : List PortCall :=
  if d.rsType = rs232 then
    .read (d.gcomfd id) ::
      if data = [] then [] else .toNet id data :: toAlarmServer d id data
  else if d.rsType = rs485 then
    .lock :: .read (d.gcomfd id) :: (if data = [] then [] else [.toNet id data]) ++ [.unlock]
  else []

/-- The half-duplex path takes the lock. -/
def HalfDuplex (calls : List PortCall) : Prop := PortCall.lock ∈ calls

instance (calls : List PortCall) : Decidable (HalfDuplex calls) :=
  inferInstanceAs (Decidable (_ ∈ _))

private theorem not_halfDuplex_write (es : List Event) : ¬HalfDuplex (es.filterMap asWrite) := by
  intro h
  obtain ⟨e, -, he⟩ := List.mem_filterMap.mp h
  cases e with
  | serial => cases he
  | _ => cases he

/-- A send takes the half-duplex path exactly in the mode `RS485`. -/
theorem sendNetDataToCom_halfDuplex_iff (env : Env) (d : Device) (id : UInt32)
    (data : List UInt8) :
    HalfDuplex (sendNetDataToComCalls env d id data) ↔ d.rsType = rs485 := by
  unfold sendNetDataToComCalls
  by_cases h0 : d.rsType = rs232
  · rw [if_pos h0, h0]
    exact iff_of_false (not_halfDuplex_write _) (by decide)
  · rw [if_neg h0]
    by_cases h1 : d.rsType = rs485
    · rw [if_pos h1]
      exact iff_of_true (List.mem_append_left _ List.mem_cons_self) h1
    · rw [if_neg h1]
      exact iff_of_false List.not_mem_nil h1

private theorem lock_notMem_toAlarmServer (d : Device) (id : UInt32) (data : List UInt8) :
    PortCall.lock ∉ toAlarmServer d id data := by
  unfold toAlarmServer
  dsimp only
  split
  · simp
  · split
    · simp
    · simp

/-- So does a read of the port's thread. -/
theorem comProc_halfDuplex_iff (d : Device) (id : UInt32) (data : List UInt8) :
    HalfDuplex (comProcCalls d id data) ↔ d.rsType = rs485 := by
  unfold comProcCalls HalfDuplex
  by_cases h0 : d.rsType = rs232
  · refine iff_of_false ?_ (by rw [h0]; decide)
    rw [if_pos h0]
    by_cases hdata : data = []
    · simp [hdata]
    · simp [hdata, lock_notMem_toAlarmServer]
  · rw [if_neg h0]
    by_cases h1 : d.rsType = rs485
    · rw [if_pos h1]
      exact iff_of_true (List.mem_append_left _ List.mem_cons_self) h1
    · rw [if_neg h1]
      exact iff_of_false List.not_mem_nil h1

end Itertk.Daemon.Serial
