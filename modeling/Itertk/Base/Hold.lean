/-!
# Retriggerable hold timers

An output that an event switches on and that goes off by itself when no event has come for
`timeout` ticks.  The timer is a flag and a counter modulo `m`; the counter runs freely and
is looked at only while the flag is on, so that it may wrap around while it is off.

## Main results

* `Timed.tick` — the counter of a timer that is on is the age of the last event.
* `run_on_iff` — the timer is on exactly when an event came within the last `timeout` ticks.
-/

namespace Itertk.Base.Hold

/-- The flag, and the ticks since the last event modulo the size of the counter. -/
structure Timer where
  on : Bool
  count : Nat

/-- An event switches on and clears the counter, else the counter advances. -/
def Timer.advance (m : Nat) (event : Bool) (s : Timer) : Timer :=
  if event = true then ⟨true, 0⟩ else ⟨s.on, (s.count + 1) % m⟩

/-- The test of the timeout. -/
def Timer.expire (timeout : Nat) (s : Timer) : Timer :=
  if s.on = true ∧ timeout ≤ s.count then ⟨false, s.count⟩ else s

def Timer.tick (m timeout : Nat) (event : Bool) (s : Timer) : Timer :=
  (s.advance m event).expire timeout

theorem Timer.tick_event (m : Nat) {timeout : Nat} (hpos : 0 < timeout) (s : Timer) :
    s.tick m timeout true = ⟨true, 0⟩ := by
  rw [Timer.tick, Timer.advance, if_pos rfl]
  exact if_neg fun hout => Nat.not_le_of_lt hpos hout.2

theorem Timer.tick_quiet (m timeout : Nat) (on : Bool) (count : Nat) :
    Timer.tick m timeout false ⟨on, count⟩ =
      ⟨on && decide ((count + 1) % m < timeout), (count + 1) % m⟩ := by
  rw [Timer.tick, Timer.advance, if_neg Bool.false_ne_true, Timer.expire]
  by_cases hout : timeout ≤ (count + 1) % m
  · have hnot : ¬(count + 1) % m < timeout := by omega
    cases on <;> simp [hout, hnot]
  · have hlt : (count + 1) % m < timeout := by omega
    cases on <;> simp [hout, hlt]

/-- The timer after `t` ticks; tick `c` has the event `event c`. -/
def run (m timeout : Nat) (event : Nat → Bool) (s : Timer) : Nat → Timer
  | 0 => s
  | t + 1 => (run m timeout event s t).tick m timeout (event t)

/-- One of the last `n` ticks before time `t` had an event. -/
def Within (n : Nat) (event : Nat → Bool) (t : Nat) : Prop :=
  ∃ c, c < t ∧ t ≤ c + n ∧ event c = true

/-- A timer that is on counts from the last event; one that is off has seen none for
`timeout` ticks. -/
structure Timed (timeout : Nat) (event : Nat → Bool) (t : Nat) (s : Timer) : Prop where
  on : s.on = true → ∃ c, c < t ∧ event c = true ∧ (∀ c', c < c' → c' < t → event c' = false) ∧
    t = c + 1 + s.count ∧ s.count < timeout
  off : s.on = false → ∀ c, c < t → event c = true → c + timeout < t

theorem Timed.start (timeout : Nat) (event : Nat → Bool) {s : Timer} (h : s.on = false) :
    Timed timeout event 0 s where
  on := fun hon => by rw [h] at hon; cases hon
  off := fun _ _ hc => absurd hc (Nat.not_lt_zero _)

/-- An event is the last one. -/
theorem Timed.event {m timeout t : Nat} {event : Nat → Bool} (s : Timer) (hpos : 0 < timeout)
    (hev : event t = true) : Timed timeout event (t + 1) (s.tick m timeout true) := by
  rw [Timer.tick_event m hpos]
  exact ⟨fun _ => ⟨t, by omega, hev, fun c' _ _ => by omega, rfl, hpos⟩,
    fun hoff => by cases hoff⟩

/-- Without an event now, the events are those before. -/
theorem event_before {event : Nat → Bool} {t c : Nat} (hev : event t = false) (hc : c < t + 1)
    (hc' : event c = true) : c < t := by
  rcases Nat.lt_succ_iff_lt_or_eq.mp hc with hlt | rfl
  · exact hlt
  · rw [hev] at hc'
    cases hc'

/-- A timer that is on gets older, and goes off at the timeout; it does not wrap around. -/
theorem Timed.older {m timeout t count : Nat} {event : Nat → Bool} (hm : timeout < m)
    (hev : event t = false) (h : Timed timeout event t ⟨true, count⟩) :
    Timed timeout event (t + 1) (Timer.tick m timeout false ⟨true, count⟩) := by
  obtain ⟨c, hct, hc, hlast, hcount, hlt⟩ := h.on rfl
  dsimp only at hcount hlt
  have hnowrap : (count + 1) % m = count + 1 := Nat.mod_eq_of_lt (by omega)
  have hage : ∀ d, d < t + 1 → event d = true → d ≤ c := by
    intro d hd hd'
    apply Nat.le_of_not_lt
    intro hcd
    rw [hlast d hcd (event_before hev hd hd')] at hd'
    cases hd'
  rw [Timer.tick_quiet, hnowrap, Bool.true_and]
  constructor
  · intro hnext
    refine ⟨c, by omega, hc, fun d hcd hd => ?_, by dsimp only; omega, of_decide_eq_true hnext⟩
    cases hd' : event d with
    | false => rfl
    | true =>
        have := hage d hd hd'
        omega
  · intro hnext d hd hd'
    have hout : ¬count + 1 < timeout := of_decide_eq_false hnext
    have := hage d hd hd'
    omega

/-- A timer that is off stays off, whatever its counter does. -/
theorem Timed.stays {m timeout t count : Nat} {event : Nat → Bool} (hev : event t = false)
    (h : Timed timeout event t ⟨false, count⟩) :
    Timed timeout event (t + 1) (Timer.tick m timeout false ⟨false, count⟩) := by
  rw [Timer.tick_quiet, Bool.false_and]
  exact ⟨fun hnext => absurd hnext Bool.false_ne_true, fun _ c hc hc' =>
    Nat.lt_succ_of_lt (h.off rfl c (event_before hev hc hc') hc')⟩

theorem Timed.tick {m timeout t : Nat} {event : Nat → Bool} {s : Timer} (hpos : 0 < timeout)
    (hm : timeout < m) (h : Timed timeout event t s) :
    Timed timeout event (t + 1) (s.tick m timeout (event t)) := by
  cases hev : event t with
  | true => exact .event s hpos hev
  | false =>
      obtain ⟨on, count⟩ := s
      cases on with
      | true => exact h.older hm hev
      | false => exact h.stays hev

private theorem run_timed {m timeout : Nat} (event : Nat → Bool) {s : Timer} (hpos : 0 < timeout)
    (hm : timeout < m) (hs : s.on = false) (t : Nat) :
    Timed timeout event t (run m timeout event s t) := by
  induction t with
  | zero => exact .start timeout event hs
  | succ t ih => exact ih.tick hpos hm

/-- However long the counter has run and wrapped before. -/
theorem run_on_iff {m timeout : Nat} (event : Nat → Bool) {s : Timer} (hpos : 0 < timeout)
    (hm : timeout < m) (hs : s.on = false) (t : Nat) :
    (run m timeout event s t).on = true ↔ Within timeout event t := by
  have h := run_timed event hpos hm hs t
  constructor
  · intro hon
    obtain ⟨c, hct, hc, -, hcount, hlt⟩ := h.on hon
    exact ⟨c, hct, by omega, hc⟩
  · intro hwithin
    obtain ⟨c, hct, hle, hc⟩ := hwithin
    cases hon : (run m timeout event s t).on with
    | true => rfl
    | false =>
        have := h.off hon c hct hc
        omega

end Itertk.Base.Hold
