import Itertk.Client.Dispatch

/-!
# Rejected packets

A packet is to be rejected when its device byte is not this device's, or when it
is shorter than its command needs: the fixed minimum of the check, or, with a
count byte, the bytes that the count announces.  `noEffect_iff` says which of
these packets really leave no trace: those that no check lets through, and those
that store what is stored already.

For a `SET_IO` whose count is above 8 this is about the record as it is stored: on the target
such a packet also writes past the 18 bytes that `set_io_out` keeps on its stack.
-/

namespace Itertk.Client.Rejection

open Itertk.Base.Memory
open Itertk.Daemon.Layout
open Itertk.Daemon.State
open Itertk.Client.Checks
open Itertk.Client.Replies
open Itertk.Client.Dispatch

/-! ## The packets and the property -/

/-- The length up to the last entry that the packet's count announces; the
minimum of the check where there is no count. -/
def neededLength (cmd : Mem) : Command → Nat
  | .setDeviceAttr | .setTemp => 5 + 2 * (cmd 4).toNat
  | .setUartAttr => 5 + 8 * (cmd 4).toNat
  | .setIo => 5 + 3 * (cmd 4).toNat
  | .getUartAttr | .getIoStatus | .getTempStatus => 5 + (cmd 4).toNat
  | .uartSendData => 7 + (declaredCount cmd).toNat
  | c => c.minLength

/-- The packet is not for this device, or too short for its command. -/
def Rejected (cmd : Mem) (num : Nat) : Prop :=
  cmd 3 ≠ alarmDeviceId ∨
    ∃ c : Command, cmd 2 = c.code ∧ (num < c.minLength ∨ num < neededLength cmd c)

/-- Configuration and heartbeat are as before, and no pin, port or reply was
written. -/
structure NoEffect (d : Device) (o : Outcome) : Prop where
  conf : o.1.conf = d.conf
  heartbeatS : o.1.heartbeatS = d.heartbeatS
  heartbeatTimeout : o.1.heartbeatTimeout = d.heartbeatTimeout
  reconnectFlag : o.1.reconnectFlag = d.reconnectFlag
  events : ∀ e ∈ o.2, e.visible = false

/-- The sensor record is the one stored already. -/
def SameRecord (d : Device) (k : Nat) (sensor : Mem) : Prop :=
  ∀ i, i < sensorSize → sensor i = d.conf (sensorOff k + i)

/-- A command that changes nothing: `GET_TIME`, or a `SET_TEMP` or `SET_IO` of
what is stored, the latter without naming an output. -/
def Idle (env : Env) (cmd : Mem) (d : Device) : Command → Prop
  | .getTime => True
  | .setTemp => SameRecord d sensorTypeSingleBus (tempRecord env cmd)
  | .setIo => SameRecord d sensorTypeIoOut (ioRecord env cmd).1 ∧
      ∀ j, j < (cmd 4).toNat → ioOutput cmd j = []
  | _ => False

/-! ## Every answering command is visible -/

/-- The commands with a reply. -/
def answers : Command → Bool
  | .getTime | .setUartRecvAttr | .setIo | .setTemp => false
  | _ => true

private theorem send_answers (d : Device) (r : Mem × Nat) : ∃ e ∈ (send d r).2, e.visible = true :=
  ⟨_, List.mem_singleton_self _, rfl⟩

private theorem andThen_answers {o : Outcome} {h : Device → Outcome}
    (hv : ∃ e ∈ (h o.1).2, e.visible = true) : ∃ e ∈ (o.andThen h).2, e.visible = true := by
  obtain ⟨e, he, hvis⟩ := hv
  exact ⟨e, List.mem_append_right _ he, hvis⟩

private theorem perform_answers (env : Env) (cmd : Mem) (d : Device) {c : Command}
    (hc : answers c = true) : ∃ e ∈ (perform env cmd d c).2, e.visible = true := by
  cases c with
  | getTime | setUartRecvAttr | setIo | setTemp => exact absurd hc (by decide)
  | getDeviceAttr => exact andThen_answers (send_answers _ _)
  | getAlarmStatus => exact andThen_answers (send_answers _ _)
  | setDeviceAttr => exact andThen_answers (andThen_answers (send_answers _ _))
  | setHeartbeat => exact ⟨_, List.mem_append_left _ (List.mem_singleton_self _), rfl⟩
  | setUartAttr =>
      show ∃ e ∈ (setUartAttr env cmd d).2, e.visible = true
      rcases setUartAttr_cases env cmd d with ⟨r, hr⟩ | ⟨_, _, r, hr⟩
      · rw [hr]; exact send_answers d r
      · rw [hr]; exact andThen_answers (send_answers _ r)
  | uartSendData =>
      show ∃ e ∈ (makeAckUartSendData env cmd (selectPort d cmd)).2, e.visible = true
      rcases makeAckUartSendData_cases env cmd (selectPort d cmd) with
        ⟨_, r, hr⟩ | ⟨_, ⟨hb, m, hr⟩ | ⟨r, hr⟩⟩
      · rw [hr]; exact send_answers _ r
      · rw [hr]; exact uartSendData_blocked hb
      · rw [hr]; exact andThen_answers (send_answers _ r)
  | getIoStatus =>
      show ∃ e ∈ (getIoStatus env cmd d).2, e.visible = true
      rcases getIoStatus_cases env cmd d with ⟨r, hr⟩ | ⟨m, hr⟩
      · rw [hr]; exact send_answers d r
      · rw [hr]; exact ⟨_, List.mem_singleton_self _, rfl⟩
  | _ => exact send_answers _ _

/-! ## The two commands that store without a reply -/

private theorem setTemp_noEffect_iff (env : Env) (cmd : Mem) (d : Device) :
    NoEffect d (setTemp env cmd d) ↔ SameRecord d sensorTypeSingleBus (tempRecord env cmd) := by
  rw [SameRecord, ← storeSensor_eq_iff, setTemp_eq]
  constructor
  · intro h
    have := h.conf
    rwa [configSave_conf] at this
  · intro h
    refine ⟨?_, rfl, rfl, rfl, ?_⟩
    · rw [configSave_conf, h]
    · intro e he
      rw [List.mem_singleton.mp he]
      rfl

/-- The events of the loop are the indices used and the outputs driven. -/
theorem setIoLoop_silent_iff (cmd sensor : Mem) (n : Nat) :
    (∀ e ∈ (forUpTo n (setIoRound cmd) (sensor, [])).2, e.visible = false) ↔
      ∀ j, j < n → ioOutput cmd j = [] := by
  induction n with
  | zero => exact ⟨fun _ j hj => absurd hj (Nat.not_lt_zero j), fun _ e he => absurd he (by simp)⟩
  | succ n ih =>
      rw [forUpTo_succ]
      show (∀ e ∈ (forUpTo n (setIoRound cmd) (sensor, [])).2 ++ .sensorIndex n :: ioOutput cmd n,
        e.visible = false) ↔ _
      constructor
      · intro h j hj
        by_cases hjn : j = n
        · subst hjn
          apply List.eq_nil_iff_forall_not_mem.mpr
          intro e he
          have hvis := ioOutput_visible cmd j e he
          rw [h e (List.mem_append_right _ (List.mem_cons_of_mem _ he))] at hvis
          cases hvis
        · exact ih.mp (fun e he => h e (List.mem_append_left _ he)) j (by omega)
      · intro h e he
        rcases List.mem_append.mp he with he | he
        · exact ih.mpr (fun j hj => h j (by omega)) e he
        · rw [h n (by omega)] at he
          rw [List.mem_singleton.mp he]
          rfl

private theorem setIoOut_noEffect_iff (env : Env) (cmd : Mem) (d : Device) :
    NoEffect d (setIoOut env cmd d) ↔
      SameRecord d sensorTypeIoOut (ioRecord env cmd).1 ∧
        ∀ j, j < (cmd 4).toNat → ioOutput cmd j = [] := by
  rw [SameRecord, ← storeSensor_eq_iff, setIoOut_eq]
  constructor
  · intro h
    have hconf := h.conf
    rw [configSave_conf] at hconf
    exact ⟨hconf, (setIoLoop_silent_iff cmd _ _).mp h.events⟩
  · rintro ⟨hconf, hout⟩
    refine ⟨?_, rfl, rfl, rfl, (setIoLoop_silent_iff cmd _ _).mpr hout⟩
    rw [configSave_conf, hconf]

/-! ## Rejected packets -/

/-- A packet of the class that gets through a check is one whose count announces
more than was received. -/
theorem Rejected.reaches {cmd : Mem} {num : Nat} {c : Command} (h : Rejected cmd num)
    (hc : Reaches cmd num c) (hcheck : c.hasCheck = true) : num < neededLength cmd c := by
  have hacc := hc.accepted hcheck
  rcases h with hdev | ⟨c', hcode, hlen⟩
  · exact absurd hacc.device hdev
  · have hsame := Command.ofByte_code c
    rw [← hc.command, hcode, Command.ofByte_code] at hsame
    obtain rfl : c' = c := Option.some.inj hsame
    have := hacc.length
    omega

/-- A packet of the class leaves no trace exactly when every command it reaches is
idle: it reaches none, or `GET_TIME`, or it stores what is stored. -/
theorem noEffect_iff (env : Env) (d : Device) (buf : Mem) (p : Packet)
    (h : Rejected (received buf p) p.bytes.length) :
    NoEffect d (clientDispatch env (received buf p) p.bytes.length d) ↔
      ∀ c, Reaches (received buf p) p.bytes.length c → Idle env (received buf p) d c := by
  rcases clientDispatch_cases env (received buf p) p.bytes.length d with ⟨c, hc, heq⟩ | ⟨hno, heq⟩
  · have hone : (∀ c', Reaches (received buf p) p.bytes.length c' →
        Idle env (received buf p) d c') ↔
        Idle env (received buf p) d c :=
      ⟨fun hall => hall c hc, fun hidle c' hc' => hc.unique hc' ▸ hidle⟩
    rw [heq, hone]
    by_cases hans : answers c = true
    · -- a reply is an effect, and no answering command is idle
      have hidle : ¬Idle env (received buf p) d c := by
        intro hidle
        cases c with
        | getTime | setUartRecvAttr | setIo | setTemp => exact absurd hans (by decide)
        | _ => exact hidle
      refine ⟨fun hnone => ?_, fun hi => absurd hi hidle⟩
      obtain ⟨e, he, hvis⟩ := perform_answers env (received buf p) d hans
      rw [hnone.events e he] at hvis
      cases hvis
    · cases c with
      | getTime =>
          exact ⟨fun _ => trivial,
            fun _ => ⟨rfl, rfl, rfl, rfl, fun e he => absurd he List.not_mem_nil⟩⟩
      | setTemp => exact setTemp_noEffect_iff env _ d
      | setIo => exact setIoOut_noEffect_iff env _ d
      | setUartRecvAttr =>
          -- this command has no count, so its check excludes the class
          have hlen := h.reaches hc rfl
          have hacc := (hc.accepted rfl).length
          exact absurd hacc (Nat.not_le.mpr hlen)
      | _ => exact absurd rfl hans
  · rw [heq]
    exact ⟨fun _ c hc => absurd hc (hno c),
      fun _ => ⟨rfl, rfl, rfl, rfl, fun e he => absurd he List.not_mem_nil⟩⟩

/-- `SET_TEMP` for another device. -/
def foreignSetTemp : Packet where
  bytes := [0x55, 0xaa, 0x22, 0x02, 1, 1, 7, 0]
  nonempty := by decide
  short := by decide

/-- A `SET_TIME` that is one byte short leaves no trace. -/
def shortSetTime : Packet where
  bytes := [0x55, 0xaa, 0x08, 0x01, 0, 0, 0, 0, 0, 0]
  nonempty := by decide
  short := by decide

theorem noEffect_shortSetTime :
    NoEffect (Device.start zero)
      (clientDispatch Env.idle (received zero shortSetTime) shortSetTime.bytes.length
        (Device.start zero)) := by
  have hclass : Rejected (received zero shortSetTime) shortSetTime.bytes.length :=
    .inr ⟨.setTime, rfl, .inl (by decide)⟩
  refine (noEffect_iff Env.idle (Device.start zero) zero shortSetTime hclass).mpr ?_
  intro c hc
  have hcode : c = .setTime := by
    have := Command.ofByte_code c
    rw [← hc.command] at this
    exact (Option.some.inj this).symm
  subst hcode
  exact absurd (hc.accepted rfl).length (by decide)

theorem noEffect_foreignSetTemp :
    ¬(∀ (env : Env) (d : Device) (buf : Mem) (p : Packet),
      Rejected (received buf p) p.bytes.length →
        NoEffect d (clientDispatch env (received buf p) p.bytes.length d)) := by
  intro h
  have hpkt := h Env.idle (Device.start zero) zero foreignSetTemp (.inl (by decide))
  have hc : Reaches (received zero foreignSetTemp) foreignSetTemp.bytes.length .setTemp :=
    ⟨rfl, rfl, fun hcheck => absurd hcheck (by decide)⟩
  rw [clientDispatch_reaches Env.idle _ hc] at hpkt
  have htemp : NoEffect (Device.start zero)
      (setTemp Env.idle (received zero foreignSetTemp) (Device.start zero)) := hpkt
  have hsame := (setTemp_noEffect_iff _ _ _).mp htemp
  exact absurd (hsame 10 (by decide)) (by decide)

end Itertk.Client.Rejection
