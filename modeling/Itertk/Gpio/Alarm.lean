import Mathlib.Logic.Function.Basic
import Itertk.Base.Hold
import Itertk.Client.Replies

/-!
# The alarm inputs

`get_alarm` reads the eight input pins through one local variable.  `alarm_proc` samples
them every 100 ms; a change of an input switches its alarm on, and 300 samples without
another one switch it off.  Each input has its own counter, a `u32` that also runs while
the alarm is off.

## Main results

* `alarmProc_timer` — input `i` of `alarm_proc` is a hold timer of its own.
* `alarmIn_iff` — when `g_alarm_in[i]` is on.
-/

namespace Itertk.Gpio.Alarm

open Itertk.Base.Memory
open Itertk.Base.Hold
open Itertk.Daemon.State
open Itertk.Client.Replies

/-! ## Sampling -/

/-- `ALARM_MAX`. -/
def alarmMax : Nat := 8

def alarmOn : UInt8 := 1
def alarmOff : UInt8 := 0

/-- `ALARM_IN1` to `ALARM_IN8`. -/
def alarmPin (k : Nat) : Nat := [38, 37, 41, 65, 66, 67, 32, 33].getD k 0

/-- `get_gpio(ALARM_INk, &alarm); alarm_in[k] = (u8) alarm;` over the array and `alarm`. -/
def putAlarm (env : Env) (k : Nat) (s : Mem × UInt8) : Mem × UInt8 :=
  let alarm := getGpio env k (alarmPin k) s.2
  (store s.1 k alarm, alarm)

/-- `get_alarm(alarm_in)`.  The variable `alarm` is not initialised. -/
def getAlarm (env : Env) (alarmIn : Mem) : Mem :=
  (forUpTo alarmMax (putAlarm env) (alarmIn, env.stack 0)).1

/-! ## `alarm_proc` -/

/-- `ALARM_OFF_TIMEOUT`. -/
def alarmOffTimeout : UInt32 := 300

/-- The locals of `alarm_proc`, and `g_alarm_in`. -/
structure AlarmProc where
  alarmInit : Mem
  offCount : Nat → UInt32
  alarmIn : Mem

/-- The body of the inner loop: input `i` of one cycle. -/
def alarmInput (alarmUpdate : Mem) (i : Nat) (s : AlarmProc) : AlarmProc :=
  let s :=
    if alarmUpdate i ≠ s.alarmInit i then
      { s with
        alarmIn := store s.alarmIn i alarmOn
        offCount := Function.update s.offCount i 0 }
    else { s with offCount := Function.update s.offCount i (s.offCount i + 1) }
  if s.alarmIn i = alarmOn then
    if s.offCount i ≥ alarmOffTimeout then { s with alarmIn := store s.alarmIn i alarmOff } else s
  else s

/-- One cycle, on what `get_alarm(alarm_update)` has stored. -/
def alarmCycle (alarmUpdate : Mem) (s : AlarmProc) : AlarmProc :=
  let s := forUpTo alarmMax (alarmInput alarmUpdate) s
  { s with alarmInit := blit s.alarmInit 0 (slice alarmUpdate 0 alarmMax) }

/-- `init_alarm`, as far as `g_alarm_in` goes. -/
def initAlarm (alarmIn : Mem) : Mem := fill alarmIn 0 alarmMax alarmOff

/-- `alarm_proc` after `t` cycles, from `init_alarm` on; its calls of `get_alarm` store
`samples 0`, `samples 1` and so on. -/
def alarmProc (samples : Nat → Mem) (alarmIn : Mem) : Nat → AlarmProc
  | 0 => ⟨samples 0, fun _ => 0, initAlarm alarmIn⟩
  | t + 1 => alarmCycle (samples (t + 1)) (alarmProc samples alarmIn t)

/-- Input `i` is not the same in sample `c` and the next. -/
def changed (samples : Nat → Mem) (i c : Nat) : Bool := decide (samples (c + 1) i ≠ samples c i)

/-! ## One input -/

/-- What `alarm_proc` keeps about input `i`. -/
def AlarmProc.timer (s : AlarmProc) (i : Nat) : Timer :=
  ⟨decide (s.alarmIn i = alarmOn), (s.offCount i).toNat⟩

/-- The values that `g_alarm_in[i]` takes. -/
def AlarmProc.Binary (s : AlarmProc) (i : Nat) : Prop :=
  s.alarmIn i = alarmOn ∨ s.alarmIn i = alarmOff

/-- A change switches on; else the counter advances and may switch off. -/
theorem alarmInput_cases (u : Mem) (i : Nat) (s : AlarmProc) :
    (u i ≠ s.alarmInit i ∧ alarmInput u i s =
      { s with
        alarmIn := store s.alarmIn i alarmOn
        offCount := Function.update s.offCount i 0 }) ∨
    (u i = s.alarmInit i ∧ s.alarmIn i = alarmOn ∧ s.offCount i + 1 ≥ alarmOffTimeout ∧
      alarmInput u i s =
        { s with
          alarmIn := store s.alarmIn i alarmOff
          offCount := Function.update s.offCount i (s.offCount i + 1) }) ∨
    (u i = s.alarmInit i ∧ (s.alarmIn i = alarmOn → ¬s.offCount i + 1 ≥ alarmOffTimeout) ∧
      alarmInput u i s =
        { s with offCount := Function.update s.offCount i (s.offCount i + 1) }) := by
  unfold alarmInput
  by_cases hev : u i ≠ s.alarmInit i
  · refine .inl ⟨hev, ?_⟩
    simp only [if_pos hev, store_self, Function.update_self, if_true]
    exact if_neg (by decide)
  · have heq : u i = s.alarmInit i := Decidable.not_not.mp hev
    simp only [if_neg hev, Function.update_self]
    by_cases hon : s.alarmIn i = alarmOn
    · rw [if_pos hon]
      by_cases hout : s.offCount i + 1 ≥ alarmOffTimeout
      · exact .inr (.inl ⟨heq, hon, hout, if_pos hout⟩)
      · exact .inr (.inr ⟨heq, fun _ => hout, if_neg hout⟩)
    · exact .inr (.inr ⟨heq, fun h => absurd h hon, if_neg hon⟩)

private theorem alarmInput_init (u : Mem) (i : Nat) (s : AlarmProc) :
    (alarmInput u i s).alarmInit = s.alarmInit := by
  rcases alarmInput_cases u i s with ⟨_, h⟩ | ⟨_, _, _, h⟩ | ⟨_, _, h⟩ <;> rw [h]

/-- A round leaves the other inputs alone. -/
theorem alarmInput_other (u : Mem) (s : AlarmProc) {i k : Nat} (hk : k ≠ i) :
    (alarmInput u i s).alarmIn k = s.alarmIn k ∧ (alarmInput u i s).offCount k = s.offCount k := by
  rcases alarmInput_cases u i s with ⟨_, h⟩ | ⟨_, _, _, h⟩ | ⟨_, _, h⟩ <;> rw [h]
  · exact ⟨store_ne _ _ hk, Function.update_of_ne hk _ _⟩
  · exact ⟨store_ne _ _ hk, Function.update_of_ne hk _ _⟩
  · exact ⟨rfl, Function.update_of_ne hk _ _⟩

private theorem alarmInput_binary (u : Mem) {i : Nat} {s : AlarmProc} (h : s.Binary i) :
    (alarmInput u i s).Binary i := by
  rcases alarmInput_cases u i s with ⟨_, hs⟩ | ⟨_, _, _, hs⟩ | ⟨_, _, hs⟩ <;> rw [hs]
  · exact .inl (store_self _ _ _)
  · exact .inr (store_self _ _ _)
  · exact h

private theorem toNat_succ (c : UInt32) : (c + 1).toNat = (c.toNat + 1) % UInt32.size :=
  UInt32.toNat_add c 1

/-- A round is a tick of the input's own timer; a change is its event. -/
theorem alarmInput_timer (u : Mem) (i : Nat) (s : AlarmProc) :
    (alarmInput u i s).timer i =
      (s.timer i).tick (UInt32.size) alarmOffTimeout.toNat (decide (u i ≠ s.alarmInit i)) := by
  have hlt : ∀ c : UInt32, c + 1 ≥ alarmOffTimeout ↔ ¬(c.toNat + 1) % UInt32.size <
      alarmOffTimeout.toNat := by
    intro c
    rw [← toNat_succ, Nat.not_lt]
    exact UInt32.le_iff_toNat_le
  have htimer : s.timer i = ⟨decide (s.alarmIn i = alarmOn), (s.offCount i).toNat⟩ := rfl
  rcases alarmInput_cases u i s with ⟨hev, h⟩ | ⟨hev, hon, hout, h⟩ | ⟨hev, hin, h⟩ <;> rw [h]
  · rw [decide_eq_true hev, Timer.tick_event _ (by decide)]
    simp only [AlarmProc.timer, store_self, Function.update_self]
    rfl
  · rw [decide_eq_false (not_not_intro hev), htimer, Timer.tick_quiet,
      decide_eq_false ((hlt _).mp hout), Bool.and_false]
    simp only [AlarmProc.timer, store_self, Function.update_self, toNat_succ]
    rfl
  · rw [decide_eq_false (not_not_intro hev), htimer, Timer.tick_quiet]
    simp only [AlarmProc.timer, Function.update_self, toNat_succ, Timer.mk.injEq, and_true]
    by_cases hon : s.alarmIn i = alarmOn
    · have hlt' := Decidable.not_not.mp fun hnot => hin hon ((hlt _).mpr hnot)
      rw [decide_eq_true hon, decide_eq_true hlt']
      rfl
    · rw [decide_eq_false hon, Bool.false_and]

/-! ## One cycle -/

/-- The inner loop ticks the timers of the inputs below its bound and leaves the others
alone. -/
theorem alarmInputs_timer (u : Mem) (s : AlarmProc) (n : Nat) :
    let s' := forUpTo n (alarmInput u) s
    s'.alarmInit = s.alarmInit ∧
      ∀ i, (n ≤ i → s'.timer i = s.timer i) ∧
        (i < n → s'.timer i =
          (s.timer i).tick (UInt32.size) alarmOffTimeout.toNat (decide (u i ≠ s.alarmInit i))) ∧
        (s.Binary i → s'.Binary i) := by
  induction n with
  | zero => exact ⟨rfl, fun i => ⟨fun _ => rfl, fun hi => absurd hi (Nat.not_lt_zero _), id⟩⟩
  | succ n ih =>
      obtain ⟨hinit, hrest⟩ := ih
      rw [forUpTo_succ]
      refine ⟨(alarmInput_init u n _).trans hinit, fun i => ?_⟩
      obtain ⟨hbeyond, hbelow, hbin⟩ := hrest i
      by_cases hi : i = n
      · subst hi
        refine ⟨fun h => by omega, fun _ => ?_, fun h => alarmInput_binary u (hbin h)⟩
        rw [alarmInput_timer, hbeyond (Nat.le_refl _), hinit]
      · obtain ⟨halarm, hcount⟩ := alarmInput_other u (forUpTo n (alarmInput u) s) hi
        have hsame : (alarmInput u n (forUpTo n (alarmInput u) s)).timer i =
            (forUpTo n (alarmInput u) s).timer i := by
          simp only [AlarmProc.timer, halarm, hcount]
        rw [hsame]
        refine ⟨fun h => hbeyond (by omega), fun h => hbelow (by omega), fun h => ?_⟩
        have := hbin h
        rw [AlarmProc.Binary, halarm]
        exact this

/-- What the timers and the alarms are after a cycle. -/
theorem alarmCycle_input (u : Mem) (s : AlarmProc) (i : Nat) :
    (alarmCycle u s).timer i = (forUpTo alarmMax (alarmInput u) s).timer i ∧
      ((alarmCycle u s).Binary i ↔ (forUpTo alarmMax (alarmInput u) s).Binary i) := by
  rw [alarmCycle]
  generalize forUpTo alarmMax (alarmInput u) s = s'
  exact ⟨rfl, Iff.rfl⟩

private theorem alarmProc_init (samples : Nat → Mem) (alarmIn : Mem) (t : Nat) {i : Nat}
    (hi : i < alarmMax) :
    (alarmProc samples alarmIn t).alarmInit i = samples t i := by
  cases t with
  | zero => rfl
  | succ t =>
      have hlen : i < (slice (samples (t + 1)) 0 alarmMax).length := by rw [slice_length]; exact hi
      have hcopy := blit_hit (forUpTo alarmMax (alarmInput (samples (t + 1)))
        (alarmProc samples alarmIn t)).alarmInit 0 i _ hlen
      rw [getElem_slice, Nat.zero_add] at hcopy
      exact hcopy

/-- Input `i` is a hold timer whose events are its own changes. -/
theorem alarmProc_timer (samples : Nat → Mem) (alarmIn : Mem) (t : Nat) {i : Nat}
    (hi : i < alarmMax) :
    (alarmProc samples alarmIn t).timer i =
      run (UInt32.size) alarmOffTimeout.toNat (changed samples i) ⟨false, 0⟩ t := by
  induction t with
  | zero =>
      have hoff : initAlarm alarmIn i = alarmOff := if_pos ⟨Nat.zero_le _, by omega⟩
      simp only [alarmProc, AlarmProc.timer, hoff]
      rfl
  | succ t ih =>
      obtain ⟨-, hloop⟩ :=
        alarmInputs_timer (samples (t + 1)) (alarmProc samples alarmIn t) alarmMax
      obtain ⟨-, htick, -⟩ := hloop i
      rw [run, ← ih, alarmProc, (alarmCycle_input _ _ i).1, htick hi,
        alarmProc_init samples alarmIn t hi]
      rfl

private theorem alarmProc_binary (samples : Nat → Mem) (alarmIn : Mem) (t : Nat) {i : Nat}
    (hi : i < alarmMax) : (alarmProc samples alarmIn t).Binary i := by
  induction t with
  | zero => exact .inr (if_pos ⟨Nat.zero_le _, by omega⟩)
  | succ t ih =>
      obtain ⟨-, hloop⟩ :=
        alarmInputs_timer (samples (t + 1)) (alarmProc samples alarmIn t) alarmMax
      rw [alarmProc, (alarmCycle_input _ _ i).2]
      exact (hloop i).2.2 ih

/-- After `t` cycles alarm `i` is on exactly when input `i` changed in one of the last 300,
whatever the other inputs did. -/
theorem alarmIn_iff (samples : Nat → Mem) (alarmIn : Mem) (t : Nat) {i : Nat} (hi : i < alarmMax) :
    ((alarmProc samples alarmIn t).alarmIn i = alarmOn ↔
      ∃ c, c < t ∧ t ≤ c + 300 ∧ samples (c + 1) i ≠ samples c i) ∧
    ∀ samples' alarmIn', (∀ c, samples' c i = samples c i) →
      (alarmProc samples' alarmIn' t).alarmIn i = (alarmProc samples alarmIn t).alarmIn i := by
  have hon : ∀ samples alarmIn, (alarmProc samples alarmIn t).alarmIn i = alarmOn ↔
      ∃ c, c < t ∧ t ≤ c + 300 ∧ samples (c + 1) i ≠ samples c i := by
    intro samples alarmIn
    have htimer := congrArg Timer.on (alarmProc_timer samples alarmIn t hi)
    have hrun := run_on_iff (m := UInt32.size) (changed samples i) (s := ⟨false, 0⟩)
      (show 0 < alarmOffTimeout.toNat by decide) (by decide) rfl t
    have h300 : alarmOffTimeout.toNat = 300 := rfl
    rw [← htimer, h300] at hrun
    simpa only [AlarmProc.timer, decide_eq_true_eq, Within, changed] using hrun
  refine ⟨hon samples alarmIn, fun samples' alarmIn' hsame => ?_⟩
  have hiff := (hon samples' alarmIn').trans
    ((by simp only [hsame] : _ ↔ _).trans (hon samples alarmIn).symm)
  rcases alarmProc_binary samples alarmIn t hi with h | h
  · rw [h]
    exact hiff.mpr h
  · rw [h]
    rcases alarmProc_binary samples' alarmIn' t hi with h' | h'
    · have := hiff.mp h'
      rw [h] at this
      exact absurd this (by decide)
    · exact h'

/-- A change at the first cycle keeps the alarm on for 300 cycles and no longer. -/
theorem alarmIn_hold :
    let samples : Nat → Mem := fun c _ => if c = 0 then 0 else 1
    (alarmProc samples zero 300).alarmIn 3 = alarmOn ∧
      (alarmProc samples zero 301).alarmIn 3 ≠ alarmOn := by
  intro samples
  constructor
  · exact (alarmIn_iff samples zero 300 (i := 3) (by decide)).1.mpr
      ⟨0, by omega, by omega, by decide⟩
  · intro hon
    obtain ⟨c, -, hle, hne⟩ := (alarmIn_iff samples zero 301 (i := 3) (by decide)).1.mp hon
    exact hne (by simp only [samples]; rw [if_neg (by omega), if_neg (by omega)])

end Itertk.Gpio.Alarm
