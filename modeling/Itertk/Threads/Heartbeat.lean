import Itertk.Base.Run
import Itertk.Threads.System

/-!
# Heartbeat supervision

`client_process` counts its iterations in `heartbeat_timeout` and declares
`HEARTBEAT_OFFLINE` when the count passes `heartbeat_s`.  A declaration and an
accepted `SET_HEARTBEAT` start the count again.  The ghost log has an entry for each
completed iteration, the last one first.

## Main results

* `Counted.step` — the counter is the length of the log since the last reset.
* `heartbeat_supervised` — when an iteration declares, and on which links none does.
-/

namespace Itertk.Threads.Heartbeat

open Itertk.Base.Memory
open Itertk.Base.Run
open Itertk.Daemon.State
open Itertk.Client.Dispatch
open Itertk.Client.Process
open Itertk.Threads.System

/-! ## The log of iterations -/

/-- What an iteration did to the heartbeat. -/
structure Iteration where
  /-- It declared `HEARTBEAT_OFFLINE`. -/
  declared : Bool
  /-- The period of the `SET_HEARTBEAT` that it accepted. -/
  beat : Option UInt8

/-- It set `heartbeat_timeout` to 0. -/
def Iteration.resets (i : Iteration) : Bool := i.declared || i.beat.isSome

/-- How many iterations were completed after the last one with `p`. -/
def completedSince (p : Iteration → Bool) (log : List Iteration) : Nat :=
  (log.takeWhile fun i => !p i).length

/-- The system, whether the iteration that runs has declared, and the log. -/
structure Clock where
  sys : BothThreads
  declared : Bool
  log : List Iteration

namespace Clock

@[simp] abbrev pc (c : Clock) : Pc := c.sys.loop.pc
@[simp] abbrev period (c : Clock) : UInt8 := c.sys.loop.recv.dev.heartbeatS
@[simp] abbrev timeout (c : Clock) : UInt16 := c.sys.loop.recv.dev.heartbeatTimeout

/-- Both threads when they start. -/
def start (r : Receiver) : Clock := ⟨BothThreads.start r, false, []⟩

end Clock

/-- The period of the `SET_HEARTBEAT` that a step accepts. -/
def accepted (s : Loop) (x : Round) : Option UInt8 :=
  if s.pc = .read then
    x.packet.bind fun p => if IsHeartbeat s.recv p.2 then some (period s.recv p.2) else none
  else none

/-- A step with its log; an iteration is complete when the loop is back at its top. -/
def tick (c : Clock) : Action → Clock
  | .main r => { c with sys := act c.sys (.main r) }
  | .client x =>
      let sys := act c.sys (.client x)
      let declared := c.declared || decide (c.pc = .offline)
      if sys.loop.pc = .top then ⟨sys, false, ⟨declared, accepted c.sys.loop x⟩ :: c.log⟩
      else ⟨sys, declared, c.log⟩

/-- The step calls `set_heartbeat(HEARTBEAT_OFFLINE, HEARTBEAT_TIMEOUT)`. -/
def Declares (c : Clock) : Action → Prop
  | .main _ => False
  | .client _ => c.pc = .offline

private theorem completedSince_cons (p : Iteration → Bool) (i : Iteration) (log : List Iteration) :
    completedSince p (i :: log) = if p i then 0 else completedSince p log + 1 := by
  unfold completedSince
  cases h : p i <;> simp [h]

/-- The more iterations count as the last one, the fewer come after it. -/
theorem completedSince_anti {p q : Iteration → Bool} (h : ∀ i, p i = true → q i = true)
    (log : List Iteration) : completedSince q log ≤ completedSince p log := by
  induction log with
  | nil => exact Nat.le_refl _
  | cons i log ih =>
      rw [completedSince_cons, completedSince_cons]
      cases hp : p i with
      | true => simp [h i hp]
      | false =>
          rw [if_neg Bool.false_ne_true]
          split
          · exact Nat.zero_le _
          · omega

/-! ## Counter and period -/

/-- What a step can make of the period and the counter. -/
inductive Beat (s : Loop) (x : Round) : UInt8 → UInt16 → Prop where
  | counted : s.pc = .top →
      Beat s x s.recv.dev.heartbeatS (s.recv.dev.heartbeatTimeout + 1)
  | declared : s.pc = .offline → Beat s x heartbeatTimeoutDefault 0
  | accepted (t : UInt8) : s.pc = .read → accepted s x = some t → Beat s x t 0
  | kept : s.pc ≠ .top → s.pc ≠ .offline → accepted s x = none →
      Beat s x s.recv.dev.heartbeatS s.recv.dev.heartbeatTimeout

private theorem accepted_of_ne {s : Loop} (x : Round) (h : s.pc ≠ .read) :
    accepted s x = none := if_neg h

private theorem advance_beat (s : Loop) (x : Round) :
    Beat s x (advance s x).recv.dev.heartbeatS (advance s x).recv.dev.heartbeatTimeout := by
  have hkept : s.pc ≠ .top ∧ s.pc ≠ .offline ∧ s.pc ≠ .read →
      Beat s x s.recv.dev.heartbeatS s.recv.dev.heartbeatTimeout := by
    rintro ⟨htop, hoffline, hread⟩
    exact .kept htop hoffline (accepted_of_ne x hread)
  unfold advance
  cases hpc : s.pc with
  | top => exact .counted hpc
  | offline => exact .declared hpc
  | dial =>
      rw [hpc] at hkept
      cases x.resolved with
      | none => exact hkept (by decide)
      | some ip => exact hkept (by decide)
  | answer =>
      rw [hpc] at hkept
      cases x.connects with
      | true => exact hkept (by decide)
      | false => exact hkept (by decide)
  | read =>
      cases hp : x.packet with
      | none =>
          have hnone : accepted s x = none := by rw [accepted, if_pos hpc, hp]; rfl
          exact .kept (by rw [hpc]; decide) (by rw [hpc]; decide) hnone
      | some p =>
          by_cases hbeat : IsHeartbeat s.recv p.2
          · have hsome : accepted s x = some (period s.recv p.2) := by
              rw [accepted, if_pos hpc, hp, Option.bind_some, if_pos hbeat]
            obtain ⟨-, hperiod, htimeout⟩ := clientStep_heartbeat p.1 hbeat
            have h := Beat.accepted _ hpc hsome
            rw [← hperiod, ← htimeout] at h
            exact h
          · have hnone : accepted s x = none := by
              rw [accepted, if_pos hpc, hp, Option.bind_some, if_neg hbeat]
            have hsame := clientStep_other p.1 hbeat
            have h := Beat.kept (by rw [hpc]; decide) (by rw [hpc]; decide) hnone
            rw [← hsame.period, ← hsame.timeout] at h
            exact h
  | testOn | testOffline | reconnect | assignOff | testSock | assignOn =>
      rw [hpc] at hkept
      exact hkept (by decide)

/-! ## Every run -/

/-- The counter at the top of an iteration and inside one. -/
structure Counted (c : Clock) : Prop where
  top : c.pc = .top → c.declared = false ∧
    c.timeout.toNat = completedSince Iteration.resets c.log ∧ c.timeout.toNat ≤ c.period.toNat
  inside : c.pc ≠ .top → c.pc ≠ .offline →
    c.timeout.toNat = (if c.declared then 0 else completedSince Iteration.resets c.log + 1) ∧
      c.timeout.toNat ≤ c.period.toNat

theorem Counted.start (r : Receiver) : Counted (Clock.start r) where
  top := fun _ => ⟨rfl, rfl, Nat.zero_le _⟩
  inside := fun h => absurd rfl h

/-- The increment does not wrap. -/
theorem Counted.next {c : Clock} (h : Counted c) (hpc : c.pc = .top) :
    (c.timeout + 1).toNat = completedSince Iteration.resets c.log + 1 := by
  obtain ⟨-, hcount, hle⟩ := h.top hpc
  have hperiod := c.period.toNat_lt
  rw [UInt16.toNat_add, ← hcount]
  apply Nat.mod_eq_of_lt
  show c.timeout.toNat + 1 < 2 ^ 16
  omega

private theorem tick_of_top {c : Clock} {x : Round} (h : (advance c.sys.loop x).pc = .top) :
    tick c (.client x) = ⟨act c.sys (.client x), false,
      ⟨c.declared || decide (c.pc = .offline), accepted c.sys.loop x⟩ :: c.log⟩ := if_pos h

private theorem tick_of_not_top {c : Clock} {x : Round} (h : (advance c.sys.loop x).pc ≠ .top) :
    tick c (.client x) =
      ⟨act c.sys (.client x), c.declared || decide (c.pc = .offline), c.log⟩ := if_neg h

/-- An iteration has ended with period `S` and counter `T`. -/
theorem Counted.ended {c : Clock} {x : Round} {S : UInt8} {T : UInt16}
    (htop : (advance c.sys.loop x).pc = .top) (hS : (advance c.sys.loop x).recv.dev.heartbeatS = S)
    (hT : (advance c.sys.loop x).recv.dev.heartbeatTimeout = T)
    (hcount : T.toNat = completedSince Iteration.resets
      (⟨c.declared || decide (c.pc = .offline), accepted c.sys.loop x⟩ :: c.log))
    (hle : T.toNat ≤ S.toNat) : Counted (tick c (.client x)) := by
  subst hS hT
  rw [tick_of_top htop]
  exact ⟨fun _ => ⟨rfl, hcount, hle⟩, fun h => absurd htop h⟩

/-- An iteration goes on with period `S` and counter `T`. -/
theorem Counted.goesOn {c : Clock} {x : Round} {S : UInt8} {T : UInt16}
    (htop : (advance c.sys.loop x).pc ≠ .top) (hS : (advance c.sys.loop x).recv.dev.heartbeatS = S)
    (hT : (advance c.sys.loop x).recv.dev.heartbeatTimeout = T)
    (hcount : (advance c.sys.loop x).pc ≠ .offline →
      T.toNat = (if c.declared || decide (c.pc = .offline) then 0
        else completedSince Iteration.resets c.log + 1) ∧ T.toNat ≤ S.toNat) :
    Counted (tick c (.client x)) := by
  subst hS hT
  rw [tick_of_not_top htop]
  exact ⟨fun h => absurd h htop, fun _ => hcount⟩

theorem Counted.client {c : Clock} (h : Counted c) (x : Round) : Counted (tick c (.client x)) := by
  have htop := advance_pc_top_iff c.sys.loop x
  have hoffline := advance_pc_offline_iff c.sys.loop x
  have hbeat := advance_beat c.sys.loop x
  generalize hS : (advance c.sys.loop x).recv.dev.heartbeatS = S at hbeat
  generalize hT : (advance c.sys.loop x).recv.dev.heartbeatTimeout = T at hbeat
  cases hbeat with
  | counted hpc =>
      have hnext := h.next hpc
      have hnt : (advance c.sys.loop x).pc ≠ .top := by rw [Ne, htop, hpc]; decide
      apply Counted.goesOn hnt hS hT
      intro hno
      have hlate : ¬Late c.sys.loop := fun hlate => hno (hoffline.mpr ⟨hpc, hlate⟩)
      rw [Late, Nat.not_lt] at hlate
      rw [(h.top hpc).1, decide_eq_false (by rw [Clock.pc, hpc]; decide)]
      exact ⟨hnext, hlate⟩
  | declared hpc =>
      have hnt : (advance c.sys.loop x).pc ≠ .top := by rw [Ne, htop, hpc]; decide
      apply Counted.goesOn hnt hS hT
      intro _
      rw [decide_eq_true hpc, Bool.or_true]
      exact ⟨rfl, Nat.zero_le _⟩
  | accepted t hpc ht =>
      apply Counted.ended (htop.mpr (.inl hpc)) hS hT
      · rw [completedSince_cons, ht, Iteration.resets, Option.isSome_some, Bool.or_true, if_pos rfl]
        rfl
      · exact Nat.zero_le _
  | kept hnt hno hnone =>
      obtain ⟨hcount, hle⟩ := h.inside hnt hno
      have hdeclared : (c.declared || decide (c.pc = .offline)) = c.declared := by
        rw [decide_eq_false hno, Bool.or_false]
      by_cases hback : (advance c.sys.loop x).pc = .top
      · apply Counted.ended hback hS hT
        · rw [hdeclared, hnone, completedSince_cons, Iteration.resets, Option.isSome_none,
            Bool.or_false]
          exact hcount
        · exact hle
      · apply Counted.goesOn hback hS hT
        intro _
        rw [hdeclared]
        exact ⟨hcount, hle⟩

theorem Counted.step {c : Clock} (h : Counted c) (a : Action) : Counted (tick c a) := by
  cases a with
  | client x => exact h.client x
  | main r =>
      obtain ⟨hperiod, htimeout⟩ := act_main_heartbeat c.sys r
      obtain ⟨hpc, -, -⟩ := act_main c.sys r
      obtain ⟨htop, hinside⟩ := h
      constructor
      · simp only [tick, Clock.pc, Clock.timeout, Clock.period, hpc, hperiod, htimeout]
        exact htop
      · simp only [tick, Clock.pc, Clock.timeout, Clock.period, hpc, hperiod, htimeout]
        exact hinside

/-- At the top of an iteration the counter is the length of the log since the last
reset, and the iteration declares exactly when one more exceeds the period. -/
def Supervised (c : Clock) : Prop :=
  c.pc = .top →
    c.timeout.toNat = completedSince Iteration.resets c.log ∧ c.timeout.toNat ≤ c.period.toNat ∧
      c.period.toNat ≤ 255 ∧
      ∀ x, (tick c (.client x)).pc = .offline ↔
        c.period.toNat < completedSince Iteration.resets c.log + 1

private theorem tick_sys (c : Clock) (a : Action) : (tick c a).sys = act c.sys a := by
  cases a with
  | main r => rfl
  | client x =>
      by_cases hback : (advance c.sys.loop x).pc = .top
      · rw [tick_of_top hback]
      · rw [tick_of_not_top hback]

private theorem Counted.offline_iff {c : Clock} (h : Counted c) (hpc : c.pc = .top) (x : Round) :
    (tick c (.client x)).pc = .offline ↔
      c.period.toNat < completedSince Iteration.resets c.log + 1 := by
  rw [Clock.pc, tick_sys]
  show (advance c.sys.loop x).pc = .offline ↔ _
  rw [advance_pc_offline_iff, and_iff_right hpc, ← h.next hpc]
  exact Iff.rfl

private theorem Counted.supervised {c : Clock} (h : Counted c) : Supervised c := by
  intro hpc
  obtain ⟨-, hcount, hle⟩ := h.top hpc
  exact ⟨hcount, hle, Nat.le_of_lt_succ c.period.toNat_lt, h.offline_iff hpc⟩

/-! ## A link that is served -/

/-- It accepted a `SET_HEARTBEAT`. -/
def Iteration.beats (i : Iteration) : Bool := i.beat.isSome

/-- Every `SET_HEARTBEAT` that is accepted brings a period of `t` at least, and one is
accepted at least once in every `t` iterations. -/
def Served (t : Nat) (c : Clock) : Action → Prop
  | .main _ => True
  | .client x =>
      (∀ p ∈ accepted c.sys.loop x, t ≤ p.toNat) ∧
        (c.pc = .top → completedSince Iteration.beats c.log < t)

/-- The clock with an empty log. -/
def Clock.restart (c : Clock) : Clock := { c with log := [] }

/-- A link that is served so far. -/
structure Alive (t : Nat) (c : Clock) : Prop where
  counted : Counted c
  period : t ≤ c.period.toNat
  place : c.pc ≠ .offline

theorem Alive.step {t : Nat} {c : Clock} (h : Alive t c) (a : Action) (hs : Served t c a) :
    Alive t (tick c a) := by
  refine ⟨h.counted.step a, ?_, ?_⟩
  · cases a with
    | main r =>
        show t ≤ (act c.sys (.main r)).loop.recv.dev.heartbeatS.toNat
        rw [(act_main_heartbeat c.sys r).1]
        exact h.period
    | client x =>
        have hbeat := advance_beat c.sys.loop x
        rw [Clock.period, tick_sys]
        show t ≤ (advance c.sys.loop x).recv.dev.heartbeatS.toNat
        generalize (advance c.sys.loop x).recv.dev.heartbeatS = S at hbeat ⊢
        generalize (advance c.sys.loop x).recv.dev.heartbeatTimeout = T at hbeat
        cases hbeat with
        | counted hpc => exact h.period
        | declared hpc => exact absurd hpc h.place
        | accepted _ hpc hp => exact hs.1 _ hp
        | kept => exact h.period
  · cases a with
    | main r =>
        show (act c.sys (.main r)).loop.pc ≠ .offline
        rw [(act_main c.sys r).1]
        exact h.place
    | client x =>
        intro hoffline
        have hpc : c.pc = .top := by
          rw [Clock.pc, tick_sys] at hoffline
          exact ((advance_pc_offline_iff c.sys.loop x).mp hoffline).1
        -- a reset comes no earlier than the last `SET_HEARTBEAT`
        have hsince : completedSince Iteration.resets c.log ≤
            completedSince Iteration.beats c.log :=
          completedSince_anti
            (fun i hi => by rw [Iteration.resets, ← Iteration.beats, hi, Bool.or_true])
            c.log
        have hquiet := hs.2 hpc
        have hperiod := h.period
        have hlate := (h.counted.offline_iff hpc x).mp hoffline
        omega

private theorem Alive.notDeclares {t : Nat} {c : Clock} (h : Alive t c) (a : Action) :
    ¬Declares c a := by
  cases a with
  | main r => exact id
  | client x => exact h.place

/-- In every run, the counter is what it should be at the top of each iteration; and
from any top where it is 0 and the period is `t` at least, a link that is served is not
torn down. -/
theorem heartbeat_supervised (r : Receiver) (as : List Action) :
    let c := exec tick (Clock.start r) as
    Supervised c ∧
      (c.pc = .top → c.timeout = 0 → ∀ (t : Nat) (zs : List Action), t ≤ c.period.toNat →
        StepsSatisfy tick (Served t) c.restart zs →
          StepsSatisfy tick (fun c a => ¬Declares c a) c.restart zs) := by
  intro c
  have hcounted : Counted c :=
    exec_under (I := Counted) (fun c a h _ => h.step a) (Counted.start r)
      (stepsSatisfy_of_forall (fun _ _ => trivial) _ _)
  refine ⟨hcounted.supervised, fun hpc hzero t zs ht hserved => ?_⟩
  have hrestart : Counted c.restart := by
    refine ⟨fun _ => ⟨(hcounted.top hpc).1, ?_, (hcounted.top hpc).2.2⟩, fun h => absurd hpc h⟩
    show c.timeout.toNat = 0
    rw [hzero]
    rfl
  have halive : Alive t c.restart :=
    ⟨hrestart, ht, by rw [show c.restart.pc = .top from hpc]; decide⟩
  exact stepsSatisfy_under (I := Alive t) (fun c a h hs => h.step a hs)
    (fun c a h _ => h.notDeclares a) halive
    hserved

/-! ## Links that are torn down -/

/-- A `SET_HEARTBEAT` with period `t` is accepted at least once in every `t` iterations. -/
def BeatsEvery (t : Nat) (c : Clock) : Action → Prop
  | .main _ => True
  | .client _ =>
      c.pc = .top → completedSince (fun i => decide (i.beat.map UInt8.toNat = some t)) c.log < t

instance (t : Nat) (c : Clock) : ∀ a, Decidable (BeatsEvery t c a)
  | .main _ => inferInstanceAs (Decidable True)
  | .client _ => inferInstanceAs (Decidable (_ → _))

instance (t : Nat) (c : Clock) : ∀ a, Decidable (Served t c a)
  | .main _ => inferInstanceAs (Decidable True)
  | .client _ => inferInstanceAs (Decidable (_ ∧ (_ → _)))

instance (c : Clock) : ∀ a, Decidable (Declares c a)
  | .main _ => inferInstanceAs (Decidable False)
  | .client _ => inferInstanceAs (Decidable (c.pc = .offline))

/-- A round that brings a `SET_HEARTBEAT`. -/
def beating (t : UInt8) : Round :=
  { linked with packet := some (Env.idle, ⟨[0x55, 0xaa, 0x09, 0x01, t, 0], Nat.succ_pos _,
      show 6 ≤ readMax by decide⟩) }

/-- `n` steps of the client, then one that reads a `SET_HEARTBEAT`. -/
def beatAfter (n : Nat) (t : UInt8) : List Action :=
  List.replicate n (.client linked) ++ [.client (beating t)]

/-- A period of 3, then one of 1, then silence for one iteration. -/
def shortenedRun : List Action :=
  beatAfter 12 3 ++ beatAfter 4 1 ++ List.replicate 7 (.client linked)

/-- Ten silent iterations before the first `SET_HEARTBEAT`, whose period is 20. -/
def lateRun : List Action := beatAfter 62 20

/-- A period of `t` in every `t` iterations is not enough: not when another packet
brings a shorter one, and not while the period is still the one at the start. -/
theorem heartbeat_tornDown :
    (¬∀ (r : Receiver) (as : List Action) (t : Nat), 1 ≤ t →
      StepsSatisfy tick (BeatsEvery t) (Clock.start r) as →
        StepsSatisfy tick (fun c a => ¬Declares c a) (Clock.start r) as) ∧
    ¬∀ (r : Receiver) (as : List Action) (t : Nat), 1 ≤ t →
      StepsSatisfy tick (Served t) (Clock.start r) as →
        StepsSatisfy tick (fun c a => ¬Declares c a) (Clock.start r) as := by
  constructor
  · intro h
    have hrun := h ⟨zero, Device.start zero⟩ shortenedRun 3 (by decide) (by decide +kernel)
    exact absurd hrun (by decide +kernel)
  · intro h
    have hrun := h ⟨zero, Device.start zero⟩ lateRun 20 (by decide) (by decide +kernel)
    exact absurd hrun (by decide +kernel)

end Itertk.Threads.Heartbeat
