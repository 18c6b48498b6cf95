import Itertk.Client.UartRoundTrip

/-!
# What `SET_UART_ATTR` leaves alone

The command sets the rate, data bits, stop bits and parity of the ports that it names.
Record `j` of the command is made in a copy of `con_com[j]`, and that copy is stored at the
port that the record names.  So the other fields of the port come from the `j`-th port.

## Main result

* `frameKept_iff` — when the fields that the command does not set keep their values.
-/

namespace Itertk.Client.UartFrame

open Itertk.Base.Memory
open Itertk.Daemon.Layout
open Itertk.Daemon.State
open Itertk.Client.Replies
open Itertk.Client.Dispatch
open Itertk.Client.UartRoundTrip

/-- `con_com[k]`. -/
def conCom (conf : Mem) (k : Nat) : ConfigCom := ConfigCom.load conf (comOff k)

/-- `con_com[k].id` is `k + 1`. -/
def Numbered (conf : Mem) : Prop := ∀ k, k < 2 → (conCom conf k).id = UInt32.ofNat (k + 1)

/-- `c'` differs from `c` in `bps`, `dbit`, `sbit` and `chk` only. -/
def LineOnly (c c' : ConfigCom) : Prop :=
  c' = { c with bps := c'.bps, dbit := c'.dbit, sbit := c'.sbit, chk := c'.chk }

/-- The fields that the command does not set, but for the id. -/
structure SameTraits (c c' : ConfigCom) : Prop where
  bctrl : c.bctrl = c'.bctrl
  rts : c.rts = c'.rts
  dtr : c.dtr = c'.dtr
  all : c.all = c'.all
  type : c.type = c'.type
  isloop : c.isloop = c'.isloop
  rsvd : c.rsvd = c'.rsvd
  alive : c.alive = c'.alive

/-- The command changes the line settings of the ports it names and nothing else, but for
the entry of the sensor table that lists the ports. -/
structure FrameKept (cmd conf conf' : Mem) : Prop where
  named : ∀ j, j < (cmd 4).toNat →
    LineOnly (conCom conf (portOf cmd j)) (conCom conf' (portOf cmd j))
  unnamed : ∀ k, k < 2 → (∀ j, j < (cmd 4).toNat → portOf cmd j ≠ k) →
    conCom conf' k = conCom conf k
  rest : ∀ i, i < comOff 0 ∨ comOff 2 ≤ i → i < sensorOff sensorTypeUart ∨ sensorOff 1 ≤ i →
    conf' i = conf i

/-! ## The frame of the loop -/

/-- A place that is in no named record and not in the sensor entry is left alone. -/
theorem setUartAttr_outside (env : Env) {cmd : Mem} {d : Device}
    (hlegal : LegalUartCommand d.conf cmd) {i : Nat}
    (hcom : ∀ j, j < (cmd 4).toNat →
      i < comOff (portOf cmd j) ∨ comOff (portOf cmd j) + comSize ≤ i)
    (hsensor : i < sensorOff sensorTypeUart ∨ sensorOff 1 ≤ i) :
    (setUartAttr env cmd d).1.conf i = d.conf i := by
  have hround : ∀ j s, 0 ≤ j → j < 0 + (cmd 4).toNat → s.dev.conf i = d.conf i →
      (UartRun.atExit (setUartRound d.conf cmd j s)).dev.conf i = d.conf i := by
    intro j s _ hj hs
    rw [Nat.zero_add] at hj
    rcases setUartRound_cases d.conf cmd j s with ⟨_, hr⟩ | ⟨_, _, hr⟩ | ⟨_, _, hr⟩
    · rw [hr]
      exact hs
    · rw [hr]
      exact hs
    · rw [hr]
      show (comSet _ _).1.conf i = _
      rw [comSet_conf, configSave_conf, (comIndexOff_port (hlegal.ids j hj) d.conf).1,
        storeSensor_outside _ _ _ _ hsensor, ← hs]
      refine blit_outside _ _ ?_
      rw [ConfigCom.bytes_length]
      exact hcom j hj
  rcases setUartAttr_cases env cmd d with ⟨r, h⟩ | ⟨_, _, r, h⟩
  · rw [h]
    rfl
  · rw [h]
    exact setUartRounds_keeps d.conf cmd (P := fun s => s.dev.conf i = d.conf i) _ 0 hround rfl

/-- The record of a named port after the command. -/
theorem setUartAttr_named (env : Env) {cmd : Mem} {d : Device}
    (hlegal : LegalUartCommand d.conf cmd) {j : Nat} (hj : j < (cmd 4).toNat) :
    conCom (setUartAttr env cmd d).1.conf (portOf cmd j) = uartRecord d.conf cmd j := by
  obtain ⟨s, hconf, hs⟩ := setUartAttr_stored env hlegal
  rw [conCom, hconf]
  exact hs.records j hj

/-- The record of the round differs from the port's own in the line settings only, if the
two ports share the rest. -/
theorem lineOnly_uartRecord {cmd conf : Mem} (hnum : Numbered conf)
    (hlegal : LegalUartCommand conf cmd)
    {j : Nat} (hj : j < (cmd 4).toNat) :
    LineOnly (conCom conf (portOf cmd j)) (uartRecord conf cmd j) ↔
      SameTraits (conCom conf j) (conCom conf (portOf cmd j)) := by
  have hport := (comIndexOff_port (hlegal.ids j hj) conf).2
  have hid : (resetMsb (cmd (5 + 8 * j))).toUInt32 = (conCom conf (portOf cmd j)).id := by
    rw [hnum _ hport, portOf]
    rcases hlegal.ids j hj with h | h <;> rw [h] <;> rfl
  constructor
  · intro h
    have hfields := ConfigCom.mk.inj h
    obtain ⟨-, -, -, -, -, hbctrl, hrts, hdtr, hall, htype, hisloop, hrsvd, halive⟩ := hfields
    exact ⟨hbctrl, hrts, hdtr, hall, htype, hisloop, hrsvd, halive⟩
  · intro h
    obtain ⟨hbctrl, hrts, hdtr, hall, htype, hisloop, hrsvd, halive⟩ := h
    rw [LineOnly, uartRecord]
    simp only [ConfigCom.mk.injEq, true_and]
    exact ⟨hid, hbctrl, hrts, hdtr, hall, htype, hisloop, hrsvd, halive⟩

/-- The frame is kept exactly when each record is at the position of the port it names, or
the port at its position shares the other fields with it. -/
theorem frameKept_iff (env : Env) {cmd : Mem} {d : Device} (hnum : Numbered d.conf)
    (hlegal : LegalUartCommand d.conf cmd) :
    FrameKept cmd d.conf (setUartAttr env cmd d).1.conf ↔
      ∀ j, j < (cmd 4).toNat → SameTraits (conCom d.conf j) (conCom d.conf (portOf cmd j)) := by
  constructor
  · intro h j hj
    have hline := h.named j hj
    rw [setUartAttr_named env hlegal hj] at hline
    exact (lineOnly_uartRecord hnum hlegal hj).mp hline
  · intro h
    constructor
    case named =>
      intro j hj
      rw [setUartAttr_named env hlegal hj]
      exact (lineOnly_uartRecord hnum hlegal hj).mpr (h j hj)
    case unnamed =>
      intro k hk hno
      apply ConfigCom.load_congr
      intro i hi
      simp only [comOff, comSize] at hi ⊢
      apply setUartAttr_outside env hlegal
      · intro j hj
        have := hno j hj
        simp only [comOff, comSize]
        omega
      · simp only [sensorOff]
        omega
    case rest =>
      intro i hcom hsensor
      apply setUartAttr_outside env hlegal _ hsensor
      intro j hj
      have hport := (comIndexOff_port (hlegal.ids j hj) d.conf).2
      simp only [comOff, comSize] at hcom ⊢
      omega

/-- Two numbered ports, of which port 2 has the receive mode `mode`. -/
def twoPorts (mode : UInt8) : Mem :=
  store (store (store zero (comOff 0) 1) (comOff 1) 2) (comOff 1 + 20) mode

/-- One record, for port 2: 9600 8N1. -/
def namePort2 : Mem :=
  blit zero 0 [0x55, 0xaa, 0x0f, 0x01, 1, 2, 0, 0x00, 0x25, 0x80, 8, 1, 0, 0]

private theorem twoPorts_numbered (mode : UInt8) : Numbered (twoPorts mode) := by
  intro k hk
  match k, hk with
  | 0, _ => rfl
  | 1, _ => rfl

private theorem namePort2_legal (conf : Mem) : LegalUartCommand conf namePort2 where
  count := .inl rfl
  ids j hj := by
    obtain rfl : j = 0 := Nat.lt_one_iff.mp hj
    exact .inr rfl
  distinct i j hij hj := by
    have := Nat.lt_one_iff.mp hj
    omega
  good j hj := by
    obtain rfl : j = 0 := Nat.lt_one_iff.mp hj
    rfl

/-- Two ports in the same receive mode keep it. -/
theorem frameKept_sameMode :
    FrameKept namePort2 (twoPorts 0) (setUartAttr .idle namePort2
      (Device.start (twoPorts 0))).1.conf := by
  refine (frameKept_iff .idle (d := Device.start (twoPorts 0)) (twoPorts_numbered 0)
    (namePort2_legal _)).mpr fun j hj => ?_
  obtain rfl : j = 0 := Nat.lt_one_iff.mp hj
  refine ⟨rfl, rfl, rfl, rfl, rfl, rfl, ?_, rfl⟩
  funext i
  match i with
  | 0 => rfl
  | 1 => rfl
  | 2 => rfl
  | 3 => rfl

/-- Port 2 in interrupt mode gets the poll mode of port 1. -/
theorem frameKept_fails :
    ¬∀ (env : Env) (cmd : Mem) (d : Device), Numbered d.conf → LegalUartCommand d.conf cmd →
      FrameKept cmd d.conf (setUartAttr env cmd d).1.conf := by
  intro h
  have hkept := h .idle namePort2 (Device.start (twoPorts 1)) (twoPorts_numbered 1)
    (namePort2_legal _)
  have hline := hkept.named 0 Nat.one_pos
  rw [setUartAttr_named .idle (namePort2_legal _) Nat.one_pos] at hline
  have hmode := congrArg (fun c => c.rsvd 0) hline
  exact absurd hmode (by decide)

end Itertk.Client.UartFrame
