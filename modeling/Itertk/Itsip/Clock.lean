import Mathlib.Algebra.Group.Int.Defs
import Mathlib.Algebra.Group.Nat.Defs
import Itertk.Itsip.SendLoop

/-!
# The clock behind the timeouts

`system_mscount_get` computes `tv_sec * 1000 + tv_usec / 1000` in the 32-bit `long` of the
target and widens the sum to 64 bits afterwards.  The seconds since 1970 left 31 bits of
milliseconds behind after 25 days, so the sum is the time in milliseconds modulo `2 ^ 32`,
read as a signed number and extended by its sign.

Two readings differ by the time between them as long as the sum does not wrap.  The tests
of `web_conn_recv` and `net_conn_send_pkt` also compare the readings as unsigned numbers, and
there a reading below zero is larger than one above it.

## Main results

* `systemMscountGet_eq` — what is read is the time less the full turns of the 32-bit sum.
* `measuresElapsed_iff` — when the difference of two readings is the time between them, and
  the test for the timeout is right.
-/

namespace Itertk.Itsip.Clock

open Itertk.Itsip.Socket (timeoutCnt)
open Itertk.Itsip.RecvLoop (Expired)

/-! ## Readings -/

/-- What `gettimeofday` stores, with the 32-bit `time_t` and `long` of the target. -/
structure TimeVal where
  tvSec : Int32
  tvUsec : Int32
  normal : 0 ≤ tvUsec.toInt ∧ tvUsec.toInt < 1000000

/-- `CLOCKS_PER_MSEC`. -/
def clocksPerMsec : Int32 := 1000

/-- `system_mscount_get`, at the time `tv`. -/
def systemMscountGet (tv : TimeVal) : UInt64 :=
  (tv.tvSec * clocksPerMsec + tv.tvUsec / clocksPerMsec).toInt64.toUInt64

/-- The time in microseconds. -/
def micros (tv : TimeVal) : Int := tv.tvSec.toInt * 1000000 + tv.tvUsec.toInt

/-- The time in whole milliseconds. -/
def millis (tv : TimeVal) : Int := micros tv / 1000

/-- The milliseconds from `t₁` to `t₂`. -/
def elapsed (t₁ t₂ : TimeVal) : Int := millis t₂ - millis t₁

private theorem millis_eq (tv : TimeVal) :
    millis tv = tv.tvSec.toInt * 1000 + tv.tvUsec.toInt / 1000 := by
  unfold millis micros
  omega

/-- A 32-bit `time_t` keeps the milliseconds within 42 bits and the sign. -/
theorem millis_bounds (tv : TimeVal) : -2 ^ 42 ≤ millis tv ∧ millis tv < 2 ^ 42 := by
  have hlo := tv.tvSec.le_toInt
  have hhi := tv.tvSec.toInt_lt
  have husec := tv.normal
  rw [millis_eq]
  omega

/-! ## The 32-bit sum -/

/-- How often the signed 32-bit sum has wrapped at `tv`. -/
def turns (tv : TimeVal) : Int := (millis tv + 2 ^ 31) / 2 ^ 32

/-- A signed 32-bit number is the number less the full turns. -/
theorem bmod_eq (x : Int) : x.bmod (2 ^ 32) = x - 2 ^ 32 * ((x + 2 ^ 31) / 2 ^ 32) := by
  unfold Int.bmod
  dsimp only
  split <;> omega

/-- Widening to `UQWORD` extends the sign. -/
theorem toNat_widen (x : Int32) : (x.toInt64.toUInt64.toNat : Int) = x.toInt % 2 ^ 64 := by
  have hbits : x.toInt64.toInt = (x.toInt64.toUInt64.toNat : Int).bmod (2 ^ 64) :=
    BitVec.toInt_eq_toNat_bmod x.toInt64.toBitVec
  have hlt := x.toInt64.toUInt64.toNat_lt
  rw [Int32.toInt_toInt64] at hbits
  rw [hbits]
  unfold Int.bmod
  dsimp only
  split <;> omega

/-- The 32-bit sum, as the number it stands for. -/
theorem sum_toInt (tv : TimeVal) :
    (tv.tvSec * clocksPerMsec + tv.tvUsec / clocksPerMsec).toInt =
      millis tv - 2 ^ 32 * turns tv := by
  have husec := tv.normal
  have hms : clocksPerMsec.toInt = 1000 := by decide
  have hdiv : tv.tvUsec.toInt.tdiv 1000 = tv.tvUsec.toInt / 1000 :=
    Int.tdiv_eq_ediv_of_nonneg husec.1
  rw [Int32.toInt_add, Int32.toInt_mul, Int32.toInt_div, hms, hdiv, ← Int.add_bmod, ← millis_eq,
    bmod_eq, turns]

/-- A reading: the time less the full turns, as an unsigned 64-bit number. -/
theorem systemMscountGet_eq (tv : TimeVal) :
    ((systemMscountGet tv).toNat : Int) = (millis tv - 2 ^ 32 * turns tv) % 2 ^ 64 := by
  rw [systemMscountGet, toNat_widen, sum_toInt]

/-! ## Two readings -/

/-- The difference of the readings at `t₁` and `t₂` is the time between them, and the test
of the two loops tells whether `TIMEOUT_CNT` milliseconds have passed. -/
structure MeasuresElapsed (t₁ t₂ : TimeVal) : Prop where
  difference : ((systemMscountGet t₂ - systemMscountGet t₁).toNat : Int) = elapsed t₁ t₂
  expired : Expired (systemMscountGet t₁) (systemMscountGet t₂) ↔ (timeoutCnt : Int) ≤ elapsed t₁ t₂

/-- No odd multiple of `2 ^ 31` milliseconds falls between the two times, and no even one
either unless less than `TIMEOUT_CNT` milliseconds have passed. -/
def Uncrossed (t₁ t₂ : TimeVal) : Prop :=
  turns t₁ = turns t₂ ∧
    (millis t₁ / 2 ^ 32 = millis t₂ / 2 ^ 32 ∨ elapsed t₁ t₂ < timeoutCnt)

private theorem elapsed_nonneg {t₁ t₂ : TimeVal} (h : micros t₁ ≤ micros t₂) :
    0 ≤ elapsed t₁ t₂ := by
  unfold elapsed millis
  omega

/-- The difference is right exactly when the sum does not wrap in between. -/
theorem difference_iff {t₁ t₂ : TimeVal} (h : micros t₁ ≤ micros t₂) :
    ((systemMscountGet t₂ - systemMscountGet t₁).toNat : Int) = elapsed t₁ t₂ ↔
      turns t₁ = turns t₂ := by
  have h₁ := systemMscountGet_eq t₁
  have h₂ := systemMscountGet_eq t₂
  have hb₁ := millis_bounds t₁
  have hb₂ := millis_bounds t₂
  have he := elapsed_nonneg h
  rw [UInt64.toNat_sub]
  unfold elapsed turns at *
  omega

/-- The test, as a statement about numbers. -/
theorem expired_toNat (ms₁ ms₂ : UInt64) : Expired ms₁ ms₂ ↔
    ms₁.toNat < ms₂.toNat ∧ timeoutCnt ≤ (ms₂ - ms₁).toNat := by
  have htimeout : (UInt64.ofNat timeoutCnt).toNat = timeoutCnt := by decide
  rw [← htimeout]
  exact and_congr UInt64.lt_iff_toNat_lt UInt64.le_iff_toNat_le

/-- Without a wrap in between, the test is right exactly when the readings do not pass from
below zero to above it, or it has nothing to report yet. -/
theorem expired_iff {t₁ t₂ : TimeVal} (h : micros t₁ ≤ micros t₂) (hturns : turns t₁ = turns t₂) :
    (Expired (systemMscountGet t₁) (systemMscountGet t₂) ↔ (timeoutCnt : Int) ≤ elapsed t₁ t₂) ↔
      (millis t₁ / 2 ^ 32 = millis t₂ / 2 ^ 32 ∨ elapsed t₁ t₂ < timeoutCnt) := by
  have h₁ := systemMscountGet_eq t₁
  have h₂ := systemMscountGet_eq t₂
  have hdiff := (difference_iff h).mpr hturns
  have he := elapsed_nonneg h
  rw [expired_toNat]
  unfold elapsed turns timeoutCnt at *
  omega

/-- Timeouts measure the time exactly when the 32-bit sum neither wraps between the two
readings nor changes its sign while the timeout runs out. -/
theorem measuresElapsed_iff {t₁ t₂ : TimeVal} (h : micros t₁ ≤ micros t₂) :
    MeasuresElapsed t₁ t₂ ↔ Uncrossed t₁ t₂ := by
  constructor
  · intro hm
    have hturns := (difference_iff h).mp hm.difference
    exact ⟨hturns, (expired_iff h hturns).mp hm.expired⟩
  · rintro ⟨hturns, hsign⟩
    exact ⟨(difference_iff h).mpr hturns, (expired_iff h hturns).mpr hsign⟩

/-- Across a wrap: one millisecond passes. -/
def beforeWrap : TimeVal := ⟨2147483, 647000, by decide⟩
def afterWrap : TimeVal := ⟨2147483, 648000, by decide⟩

/-- Across zero: two and a half seconds pass. -/
def beforeZero : TimeVal := ⟨4294966, 0, by decide⟩
def afterZero : TimeVal := ⟨4294968, 500000, by decide⟩

/-- An hour without a wrap, and the two failures. -/
theorem measuresElapsed_iff_instants :
    MeasuresElapsed ⟨1000, 0, by decide⟩ ⟨4600, 999999, by decide⟩ ∧
      ¬MeasuresElapsed beforeWrap afterWrap ∧ ¬MeasuresElapsed beforeZero afterZero :=
  ⟨(measuresElapsed_iff (by decide)).mpr ⟨by decide, .inl (by decide)⟩,
    fun h => absurd ((measuresElapsed_iff (by decide)).mp h).1 (by decide),
    fun h => absurd ((measuresElapsed_iff (by decide)).mp h).2 (by decide)⟩

/-- One millisecond across a wrap passes for a timeout; two and a half seconds across zero
do not. -/
theorem clock_misleads :
    (elapsed beforeWrap afterWrap = 1 ∧
        Expired (systemMscountGet beforeWrap) (systemMscountGet afterWrap) ∧
        ¬MeasuresElapsed beforeWrap afterWrap) ∧
      elapsed beforeZero afterZero = 2500 ∧
        ¬Expired (systemMscountGet beforeZero) (systemMscountGet afterZero) ∧
        ¬MeasuresElapsed beforeZero afterZero := by
  have hwrap : Expired (systemMscountGet beforeWrap) (systemMscountGet afterWrap) := by decide
  have hzero : ¬Expired (systemMscountGet beforeZero) (systemMscountGet afterZero) := by decide
  have hshort : ¬(timeoutCnt : Int) ≤ elapsed beforeWrap afterWrap := by decide
  have hlong : (timeoutCnt : Int) ≤ elapsed beforeZero afterZero := by decide
  exact ⟨⟨by decide, hwrap, fun h => hshort (h.expired.mp hwrap)⟩,
    by decide, hzero, fun h => hzero (h.expired.mpr hlong)⟩

/-! ## The two loops -/

variable {t₁ t₂ : TimeVal}

/-- A turn of `web_conn_recv` in which nothing arrives closes the connection exactly when
the timeout has passed. -/
theorem recv_quiet (h : micros t₁ ≤ micros t₂) (hclear : Uncrossed t₁ t₂)
    (ts : List RecvLoop.Turn) (w : RecvLoop.World) (p : Nat) (n : UInt32) :
    RecvLoop.loop (.quiet (systemMscountGet t₂) :: ts) w p n (systemMscountGet t₁) =
      if (timeoutCnt : Int) ≤ elapsed t₁ t₂ then some (false, w.close)
      else RecvLoop.loop ts w p n (systemMscountGet t₁) := by
  have htest := (expired_iff h hclear.1).mpr hclear.2
  rw [RecvLoop.loop]
  by_cases hx : (timeoutCnt : Int) ≤ elapsed t₁ t₂
  · rw [if_pos (htest.mpr hx), if_pos hx]
  · rw [if_neg fun he => hx (htest.mp he), if_neg hx]

/-- The same of `net_conn_send_pkt`. -/
theorem send_quiet (h : micros t₁ ≤ micros t₂) (hclear : Uncrossed t₁ t₂)
    (ts : List SendLoop.Turn) (w : SendLoop.World) (buf : Base.Memory.Mem) (ptr : Nat) (n : Int) :
    SendLoop.loop (.quiet (systemMscountGet t₂) :: ts) w buf ptr n (systemMscountGet t₁) =
      if (timeoutCnt : Int) ≤ elapsed t₁ t₂ then some (false, w.close)
      else SendLoop.loop ts w buf ptr n (systemMscountGet t₁) := by
  have htest := (expired_iff h hclear.1).mpr hclear.2
  rw [SendLoop.loop]
  by_cases hx : (timeoutCnt : Int) ≤ elapsed t₁ t₂
  · rw [if_pos (htest.mpr hx), if_pos hx]
  · rw [if_neg fun he => hx (htest.mp he), if_neg hx]

end Itertk.Itsip.Clock
