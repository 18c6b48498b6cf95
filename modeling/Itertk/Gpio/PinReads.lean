import Itertk.Base.Carry
import Itertk.Gpio.Alarm

/-!
# Pins that cannot be read

`get_alarm` and `make_ack_get_io_status` read several pins into one variable and store it
whatever `get_gpio` returned.  When a read fails the variable has the last value that a
read of the same call got.  Before any read it is zero in `make_ack_get_io_status`; in
`get_alarm` it is not initialised.

## Main result

* `pinReads_iff` — which patterns of failures put one pin's value beside another pin.
-/

namespace Itertk.Gpio.PinReads

open Itertk.Base.Memory
open Itertk.Base.Carry
open Itertk.Daemon.State
open Itertk.Client.Replies
open Itertk.Gpio.Alarm

/-! ## Patterns of reads -/

/-- The `i`-th read gets the character of the level `v i` if `ok i`, and fails otherwise. -/
def withReads (env : Env) (ok : Nat → Bool) (v : Nat → UInt8) : Env :=
  { env with gpioRead := fun i _ => if ok i = true then some (v i + 0x30) else none }

private theorem getGpio_withReads (env : Env) (ok : Nat → Bool) (v : Nat → UInt8) (i pin : Nat)
    (gs : UInt8) : getGpio (withReads env ok v) i pin gs = if ok i = true then v i else gs := by
  unfold getGpio withReads
  dsimp only
  by_cases h : ok i = true
  · rw [if_pos h, if_pos h]
    exact UInt8.add_sub_cancel _ _
  · rw [if_neg h, if_neg h]

/-! ## `get_alarm` -/

/-- The pins of the eight inputs. -/
def alarmPins (k : Nat) : Option Nat := some (alarmPin k)

/-- The samples stored by a call of `get_alarm` with the pattern `ok`. -/
def alarmSamples (alarmIn : Mem) (ok : Nat → Bool) (env : Env) (v : Nat → UInt8) : Nat → UInt8 :=
  getAlarm (withReads env ok v) alarmIn

private theorem getAlarm_loop (env : Env) (alarmIn : Mem) (ok : Nat → Bool) (v : Nat → UInt8)
    (n : Nat) :
    let s := forUpTo n (putAlarm (withReads env ok v)) (alarmIn, env.stack 0)
    s.2 = carry (reads alarmPins ok) v (env.stack 0) n ∧
      ∀ k, k < n → s.1 k = carry (reads alarmPins ok) v (env.stack 0) (k + 1) := by
  induction n with
  | zero => exact ⟨rfl, fun k hk => absurd hk (Nat.not_lt_zero k)⟩
  | succ n ih =>
      obtain ⟨hcarry, hbelow⟩ := ih
      have hnext : getGpio (withReads env ok v) n (alarmPin n)
          (forUpTo n (putAlarm (withReads env ok v)) (alarmIn, env.stack 0)).2 =
          carry (reads alarmPins ok) v (env.stack 0) (n + 1) := by
        rw [getGpio_withReads, hcarry]
        rfl
      rw [forUpTo_succ, putAlarm]
      refine ⟨hnext, fun k hk => ?_⟩
      rcases Nat.lt_succ_iff_lt_or_eq.mp hk with hlt | rfl
      · rw [← hbelow k hlt]
        exact store_ne _ _ (by omega)
      · rw [← hnext]
        exact store_self _ _ _

/-! ## `make_ack_get_io_status` -/

/-- The pins behind the outputs that the packet lists. -/
def outputPins (cmd : Mem) (j : Nat) : Option Nat := outputPin (cmd (5 + j))

/-- How many statuses the reply has. -/
def statusCount (cmd : Mem) : Nat :=
  if cmd 4 = 0 ∨ cmd 4 > ioOutNum then 0 else (cmd 4).toNat

/-- The statuses that `make_ack_get_io_status` puts beside the listed outputs; it starts with
the environment and the send buffer `e`. -/
def ioStatuses (cmd : Mem) (ok : Nat → Bool) (e : Env × Mem) (v : Nat → UInt8) (j : Nat) : UInt8 :=
  (makeAckGetIoStatus (withReads e.1 ok v) cmd e.2).1 (6 + 2 * j)

private theorem putIoStatus_loop (env : Env) (cmd m : Mem) (ok : Nat → Bool) (v : Nat → UInt8)
    (n : Nat) :
    let s := forUpTo n (putIoStatus (withReads env ok v) cmd) (m, 0)
    s.2 = carry (reads (outputPins cmd) ok) v 0 n ∧
      ∀ j, j < n → s.1 (6 + 2 * j) =
        if (outputPins cmd j).isSome = true then carry (reads (outputPins cmd) ok) v 0 (j + 1)
        else 0xff := by
  induction n with
  | zero => exact ⟨rfl, fun j hj => absurd hj (Nat.not_lt_zero j)⟩
  | succ n ih =>
      obtain ⟨hcarry, hbelow⟩ := ih
      have hkeep : ∀ (s : Mem) (gs : UInt8) j, j < n →
          store (store s (5 + 2 * n) (cmd (5 + n))) (6 + 2 * n) gs (6 + 2 * j) = s (6 + 2 * j) := by
        intro s gs j hj
        rw [store_ne _ _ (by omega), store_ne _ _ (by omega)]
      rw [forUpTo_succ]
      cases hpin : outputPin (cmd (5 + n)) with
      | some pin =>
          have hnext : getGpio (withReads env ok v) n pin
              (forUpTo n (putIoStatus (withReads env ok v) cmd) (m, 0)).2 =
              carry (reads (outputPins cmd) ok) v 0 (n + 1) := by
            rw [getGpio_withReads, hcarry, carry, reads, outputPins, hpin]
            rfl
          simp only [putIoStatus, hpin]
          refine ⟨hnext, fun j hj => ?_⟩
          rcases Nat.lt_succ_iff_lt_or_eq.mp hj with hlt | rfl
          · rw [hkeep _ _ j hlt]
            exact hbelow j hlt
          · rw [store_self, hnext, outputPins, hpin]
            rfl
      | none =>
          have hskip : reads (outputPins cmd) ok n = false := by rw [reads, outputPins, hpin]; rfl
          simp only [putIoStatus, hpin]
          refine ⟨?_, fun j hj => ?_⟩
          · rw [carry, if_neg (by rw [hskip]; decide)]
            exact hcarry
          · rcases Nat.lt_succ_iff_lt_or_eq.mp hj with hlt | rfl
            · rw [hkeep _ _ j hlt]
              exact hbelow j hlt
            · rw [store_self, outputPins, hpin]
              rfl

private theorem getAlarm_stores (alarmIn : Mem) (ok : Nat → Bool) :
    Stores alarmPins ok alarmMax (fun env : Env => env.stack 0) 0 (alarmSamples alarmIn ok) := by
  intro env v j hj
  obtain ⟨-, hloop⟩ := getAlarm_loop env alarmIn ok v alarmMax
  exact hloop j hj

private theorem ioStatuses_stores (cmd : Mem) (ok : Nat → Bool) :
    Stores (outputPins cmd) ok (statusCount cmd) (fun _ : Env × Mem => 0) 0xff
      (ioStatuses cmd ok) := by
  intro e v j hj
  unfold statusCount at hj
  split at hj
  · exact absurd hj (Nat.not_lt_zero j)
  · next hok =>
    obtain ⟨-, hloop⟩ := putIoStatus_loop e.1 cmd
      (store (makeAckHead e.2 protocolAckGetIoStatus) 4 (cmd 4)) ok v (cmd 4).toNat
    rw [← hloop j hj, ioStatuses, makeAckGetIoStatus]
    simp only [if_neg hok]
    exact store_ne _ _ (by omega)

/-! ## Which patterns mix pins -/

private theorem three_bytes (a b : UInt8) : ∃ c, c ≠ a ∧ c ≠ b := by
  by_cases h0 : a ≠ 0 ∧ b ≠ 0
  · exact ⟨0, h0.1.symm, h0.2.symm⟩
  · by_cases h1 : a ≠ 1 ∧ b ≠ 1
    · exact ⟨1, h1.1.symm, h1.2.symm⟩
    · exact ⟨2, by grind, by grind⟩

/-- The stack may hold anything. -/
theorem stack_differs (a : UInt8) : ∃ env : Env, env.stack 0 ≠ a := by
  obtain ⟨c, hc, -⟩ := three_bytes a a
  exact ⟨{ Env.idle with stack := fun _ => c }, hc⟩

/-- `get_alarm` has set its variable before it stores it exactly when its first read succeeds. -/
theorem alarmStarted_iff (ok : Nat → Bool) : Started alarmPins ok alarmMax ↔ ok 0 = true := by
  constructor
  · intro h
    obtain ⟨i, hi, hread⟩ := h 0 (by decide) rfl
    obtain rfl : i = 0 := Nat.le_zero.mp hi
    exact hread
  · exact fun h j _ _ => ⟨0, Nat.zero_le j, h⟩

/-- What is stored for a pin was read from it or is a fixed marker, in `get_alarm` and in
`make_ack_get_io_status`, exactly when no read fails whose last successful predecessor read
another pin, and in `get_alarm` the first read does not fail. -/
theorem pinReads_iff (alarmIn cmd : Mem) (ok : Nat → Bool) :
    (Attributed alarmPins ok alarmMax (alarmSamples alarmIn ok) ↔
      Unmixed alarmPins ok alarmMax ∧ ok 0 = true) ∧
    (Attributed (outputPins cmd) ok (statusCount cmd) (ioStatuses cmd ok) ↔
      Unmixed (outputPins cmd) ok (statusCount cmd)) := by
  constructor
  · rw [← alarmStarted_iff]
    exact attributed_iff_started three_bytes (getAlarm_stores alarmIn ok) stack_differs
  · have : Nonempty (Env × Mem) := ⟨.idle, zero⟩
    exact attributed_iff three_bytes (ioStatuses_stores cmd ok)

/-- Only the first read succeeds. -/
def firstOnly (i : Nat) : Bool := decide (i = 0)

/-- A status request for outputs 1 and 2. -/
def twoOutputs : Mem := blit zero 0 [0x55, 0xaa, 0x1b, 0x01, 2, 1, 2, 0]

/-- Nothing was read from the source of round 1, which stores 0 and 1 as round 0 reads them. -/
theorem not_attributed {ι : Type} {source : Nat → Option Nat} {n : Nat}
    {stored : ι → (Nat → UInt8) → Nat → UInt8} (hn : 1 < n) (hsource : source 0 ≠ source 1) (e : ι)
    (h0 : stored e (fun _ => 0) 1 = 0) (h1 : stored e (fun _ => 1) 1 = 1) :
    ¬Attributed source firstOnly n stored := by
  intro hattr
  obtain ⟨marker, hmarker⟩ := hattr
  have hm : ∀ v, stored e v 1 = marker 1 := by
    intro v
    rcases hmarker e v 1 hn with h | ⟨i, -, hread, hsame, -⟩
    · exact h
    · rw [reads, Bool.and_eq_true] at hread
      obtain rfl : i = 0 := of_decide_eq_true hread.2
      exact absurd hsame hsource
  rw [← hm fun _ => 1, h1] at hm
  have := (hm fun _ => 0).symm.trans h0
  exact absurd this (by decide)

/-- Input 2 gets the sample of input 1, and output 2 the status of output 1. -/
theorem pinReads_mixed :
    ¬Attributed alarmPins firstOnly alarmMax (alarmSamples zero firstOnly) ∧
    ¬Attributed (outputPins twoOutputs) firstOnly (statusCount twoOutputs)
      (ioStatuses twoOutputs firstOnly) :=
  ⟨not_attributed (by decide) (by decide) .idle (by decide) (by decide),
    not_attributed (by decide) (by decide) (.idle, zero) (by decide) (by decide)⟩

end Itertk.Gpio.PinReads
