import Itertk.Client.SensorTable
import Itertk.Web.Handlers

/-!
# The two ways to the outputs

`SET_IO` of the alarm server and `GPIO_SET` of the web both drive `OUTPUT_1` to
`OUTPUT_4`.  `sys_gpio_set` drives what it has stored in `con_gpio.output`;
`set_io_out` stores a sensor record and leaves `con_gpio` as it was.  That record is a local
variable of 18 bytes with room for eight outputs, and the count of the packet is not tested.

The levels are kept by pin, as the last `set_gpio` left them, and with them what the client
has done, which says where in its record `set_io_out` has written.
-/

namespace Itertk.Web.Outputs

open Itertk.Base.Memory
open Itertk.Base.Run
open Itertk.Daemon.Layout
open Itertk.Daemon.Config
open Itertk.Daemon.State
open Itertk.Client.Checks
open Itertk.Client.Replies
open Itertk.Client.Dispatch
open Itertk.Client.SensorTable
open Itertk.Itsip.Socket
open Itertk.Itsip.Header
open Itertk.Web.Handlers

/-! ## Levels -/

/-- `OUTPUT_1` to `OUTPUT_4`. -/
def outputPins : List Nat := [96, 42, 43, 44]

/-- `g_conf_info.con_gpio.output[k]`. -/
def output (conf : Mem) (k : Nat) : UInt8 := conf (gpioOff + 15 + k)

/-- The last level written to each pin, if one was. -/
abbrev Levels := Nat → Option UInt8

/-- The levels after some events. -/
def after (levels : Levels) : List Event → Levels
  | [] => levels
  | .gpio pin v :: es => after (fun p => if p = pin then some v else levels p) es
  | _ :: es => after levels es

private theorem after_append (levels : Levels) (es es' : List Event) :
    after levels (es ++ es') = after (after levels es) es' := by
  induction es generalizing levels with
  | nil => rfl
  | cons e es ih =>
      rw [List.cons_append]
      cases e with
      | gpio pin v => exact ih _
      | tty | serial | reply | replyUndefined | sensorIndex => exact ih levels

/-- What the effects of a web request do to pins and ports. -/
def deviceEvents (effects : List Effect) : List Event :=
  effects.filterMap fun e => match e with
    | .device e => some e
    | _ => none

/-! ## Requests -/

/-- A packet that carries the code of `SET_IO`. -/
structure SetIoPacket extends Packet where
  command : bytes[2]? = some Command.setIo.code

/-- An `ITS_GPIO_SET` header and the connection its record comes from. -/
structure GpioRequest where
  env : Env
  head : Mem
  conn : Conn
  itsip : head 0 = itsHead
  command : itsipCmd head = ItsCmd.gpioSet.code

/-- The requests that drive outputs. -/
inductive Input where
  | setIo (env : Env) (packet : SetIoPacket)
  | gpioSet (r : GpioRequest)

/-- The daemon, the levels of its pins and what the client has done. -/
structure Panel where
  recv : Receiver
  levels : Levels
  events : List Event

/-- The daemon's handling of a request. -/
def serve (s : Panel) : Input → Panel
  | .setIo env packet =>
      let r := clientStep env s.recv packet.toPacket
      ⟨r.1, after s.levels r.2, s.events ++ r.2⟩
  | .gpioSet r =>
      let t := webCmdProc r.env r.head ⟨s.recv.dev, r.conn, []⟩
      ⟨{ s.recv with dev := t.dev }, after s.levels (deviceEvents t.effects), s.events⟩

/-- Every output that was driven has the level that `con_gpio.output` says. -/
def LevelsAgree (s : Panel) : Prop :=
  ∀ k pin, outputPins[k]? = some pin → ∀ v, s.levels pin = some v →
    output s.recv.dev.conf k = v

/-- So it is, and no record has been written past its end. -/
structure OutputsAgree (s : Panel) : Prop where
  levels : LevelsAgree s
  inRecord : IndicesOk s.events

/-! ## What a packet drives -/

/-- The level of the last of `n` entries of a packet that names output `seq`. -/
def lastLevel (cmd : Mem) (seq : UInt8) : Nat → Option UInt8
  | 0 => none
  | n + 1 =>
      if cmd (5 + 3 * n % 256) = seq then some (cmd (7 + 3 * n % 256)) else lastLevel cmd seq n

/-- A `SET_IO` that is handled has at most eight entries and drives each output it names to
the stored level. -/
def DrivesStored (s : Panel) : Input → Prop
  | .setIo _ packet =>
      let cmd := received s.recv.buf packet.toPacket
      Reaches cmd packet.bytes.length .setIo →
        (cmd 4).toNat ≤ singleSensorMaxNum ∧
        ∀ k, k < 4 → ∀ v, lastLevel cmd (UInt8.ofNat (k + 1)) (cmd 4).toNat = some v →
          output s.recv.dev.conf k = v
  | .gpioSet _ => True

/-- The switch of `set_io_out`, case by case. -/
theorem outputPin_cases (seq : UInt8) (pin : Nat) :
    outputPin seq = some pin ↔
      seq = 1 ∧ pin = 96 ∨ seq = 2 ∧ pin = 42 ∨ seq = 3 ∧ pin = 43 ∨ seq = 4 ∧ pin = 44 := by
  unfold outputPin
  grind

/-- It selects pin `k` for the number `k + 1`. -/
theorem outputPin_eq_iff {k pin : Nat} (h : outputPins[k]? = some pin) (seq : UInt8) :
    outputPin seq = some pin ↔ seq = UInt8.ofNat (k + 1) := by
  rw [outputPin_cases]
  match k, h with
  | 0, h | 1, h | 2, h | 3, h =>
      obtain rfl := Option.some.inj h
      simp

private theorem after_ioOutput (levels : Levels) (cmd : Mem) (j : Nat) {k pin : Nat}
    (h : outputPins[k]? = some pin) :
    after levels (ioOutput cmd j) pin =
      if cmd (5 + 3 * j % 256) = UInt8.ofNat (k + 1) then some (cmd (7 + 3 * j % 256))
      else levels pin := by
  have hpin := outputPin_eq_iff h (cmd (5 + 3 * j % 256))
  simp only [ioOutput]
  cases hseq : outputPin (cmd (5 + 3 * j % 256)) with
  | none =>
      rw [if_neg]
      · rfl
      · intro hk
        rw [hpin.mpr hk] at hseq
        cases hseq
  | some pin' =>
      show (if pin = pin' then some (cmd (7 + 3 * j % 256)) else levels pin) = _
      rw [hseq] at hpin
      refine ite_congr ?_ (fun _ => rfl) fun _ => rfl
      rw [← propext hpin, Option.some_inj]
      exact propext eq_comm

/-- The loop of `set_io_out` leaves each output at the last level given for it. -/
theorem after_ioRecord (levels : Levels) (env : Env) (cmd : Mem) {k pin : Nat}
    (h : outputPins[k]? = some pin) :
    after levels (ioRecord env cmd).2 pin =
      (lastLevel cmd (UInt8.ofNat (k + 1)) (cmd 4).toNat).or (levels pin) := by
  refine forUpTo_invariant
    (fun n (s : Mem × List Event) =>
      after levels s.2 pin = (lastLevel cmd (UInt8.ofNat (k + 1)) n).or (levels pin))
    rfl (cmd 4).toNat fun n _ s hs => ?_
  show after levels (s.2 ++ .sensorIndex n :: ioOutput cmd n) pin = _
  rw [after_append]
  show after (after levels s.2) (ioOutput cmd n) pin = _
  rw [after_ioOutput _ cmd n h, lastLevel]
  by_cases hseq : cmd (5 + 3 * n % 256) = UInt8.ofNat (k + 1)
  · rw [if_pos hseq, if_pos hseq]
    rfl
  · rw [if_neg hseq, if_neg hseq]
    exact hs

/-! ## One request -/

/-- The sensor records lie behind `con_gpio`. -/
theorem setIoOut_output (env : Env) (cmd : Mem) (d : Device) {k : Nat} (hk : k < 4) :
    output (setIoOut env cmd d).1.conf k = output d.conf k := by
  rw [setIoOut_eq]
  apply storeSensor_outside
  simp only [gpioOff, sensorOff]
  omega

/-- What `sys_gpio_set` drives once it has stored the record. -/
def drivesAll (conf : Mem) : List Event :=
  [.gpio 96 (output conf 0), .gpio 42 (output conf 1), .gpio 43 (output conf 2),
    .gpio 44 (output conf 3)]

private theorem after_drivesAll (levels : Levels) (conf : Mem) {k pin : Nat}
    (h : outputPins[k]? = some pin) :
    after levels (drivesAll conf) pin = some (output conf k) := by
  match k, h with
  | 0, h | 1, h | 2, h | 3, h =>
      obtain rfl := Option.some.inj h
      rfl

/-- `sys_gpio_set` leaves all as it was, or drives the outputs to what it has stored. -/
theorem sysGpioSet_cases (s : Session) :
    ((sysGpioSet s).1.dev.conf = s.dev.conf ∧ (sysGpioSet s).1.effects = s.effects) ∨
      (sysGpioSet s).1.effects =
        s.effects ++ (drivesAll (sysGpioSet s).1.dev.conf).map Effect.device := by
  unfold sysGpioSet sysSet
  dsimp only
  cases (webConnRecv s.conn gpioSize).ok with
  | true => exact .inr rfl
  | false => exact .inl ⟨rfl, rfl⟩

private theorem gpioSet_cases (s : Panel) (r : GpioRequest) :
    ((serve s (.gpioSet r)).recv.dev.conf = s.recv.dev.conf ∧
      (serve s (.gpioSet r)).levels = s.levels) ∨
    (serve s (.gpioSet r)).levels =
      after s.levels (drivesAll (serve s (.gpioSet r)).recv.dev.conf) := by
  simp only [serve, webCmdProc_eq r.env _ r.itsip r.command]
  by_cases hopen : r.conn.isOpen = false
  · rw [if_pos hopen]
    exact .inl ⟨rfl, rfl⟩
  · rw [if_neg hopen]
    show ((sysGpioSet ⟨s.recv.dev, r.conn, []⟩).1.dev.conf = s.recv.dev.conf ∧
      after s.levels (deviceEvents (sysGpioSet ⟨s.recv.dev, r.conn, []⟩).1.effects) = s.levels) ∨
      after s.levels (deviceEvents (sysGpioSet ⟨s.recv.dev, r.conn, []⟩).1.effects) =
        after s.levels (drivesAll (sysGpioSet ⟨s.recv.dev, r.conn, []⟩).1.dev.conf)
    rcases sysGpioSet_cases ⟨s.recv.dev, r.conn, []⟩ with ⟨hconf, heffects⟩ | heffects
    · rw [heffects]
      exact .inl ⟨hconf, rfl⟩
    · rw [heffects]
      exact .inr rfl

private theorem agree_gpioSet {s : Panel} (hagree : OutputsAgree s) (r : GpioRequest) :
    OutputsAgree (serve s (.gpioSet r)) := by
  refine ⟨fun k pin hpin v hv => ?_, hagree.inRecord⟩
  rcases gpioSet_cases s r with ⟨hconf, hlevels⟩ | hlevels
  · rw [hlevels] at hv
    rw [hconf]
    exact hagree.levels k pin hpin v hv
  · rw [hlevels, after_drivesAll _ _ hpin] at hv
    exact Option.some.inj hv

/-- A `SET_IO` that is handled drives outputs and leaves what is stored for them. -/
theorem setIo_reached (s : Panel) (env : Env) {packet : SetIoPacket}
    (h : Reaches (received s.recv.buf packet.toPacket) packet.bytes.length .setIo) :
    (∀ k pin, outputPins[k]? = some pin →
      (serve s (.setIo env packet)).levels pin =
        (lastLevel (received s.recv.buf packet.toPacket) (UInt8.ofNat (k + 1))
          (received s.recv.buf packet.toPacket 4).toNat).or (s.levels pin)) ∧
    ∀ k, k < 4 →
      output (serve s (.setIo env packet)).recv.dev.conf k = output s.recv.dev.conf k := by
  rw [serve, clientStep_reaches env s.recv h]
  constructor
  · intro k pin hpin
    rw [perform, setIoOut_eq]
    exact after_ioRecord s.levels env _ hpin
  · intro k hk
    exact setIoOut_output env _ s.recv.dev hk

/-- It goes past its record exactly when it has more than eight entries. -/
theorem setIo_events {s : Panel} (hrecord : IndicesOk s.events) (env : Env) {packet : SetIoPacket}
    (h : Reaches (received s.recv.buf packet.toPacket) packet.bytes.length .setIo) :
    IndicesOk (serve s (.setIo env packet)).events ↔
      (received s.recv.buf packet.toPacket 4).toNat ≤ singleSensorMaxNum := by
  rw [← ioRecord_indices env, serve, clientStep_reaches env s.recv h, perform, setIoOut_eq]
  constructor
  · exact fun hall j hj => hall j (List.mem_append_right _ hj)
  · exact fun hnew => indicesOk_append hrecord hnew

private theorem setIo_iff {s : Panel} (hagree : OutputsAgree s) (env : Env) {packet : SetIoPacket}
    (h : Reaches (received s.recv.buf packet.toPacket) packet.bytes.length .setIo) :
    DrivesStored s (.setIo env packet) ↔ OutputsAgree (serve s (.setIo env packet)) := by
  obtain ⟨hlevel, houtput⟩ := setIo_reached s env h
  have hrecord := setIo_events hagree.inRecord env h
  constructor
  · intro hstored
    obtain ⟨hcount, hlast⟩ := hstored h
    refine ⟨fun k pin hpin v hv => ?_, hrecord.mpr hcount⟩
    have hk : k < 4 := (List.getElem?_eq_some_iff.mp hpin).1
    rw [houtput k hk]
    rw [hlevel k pin hpin] at hv
    cases hnamed : lastLevel (received s.recv.buf packet.toPacket) (UInt8.ofNat (k + 1))
        (received s.recv.buf packet.toPacket 4).toNat with
    | none =>
        rw [hnamed, Option.none_or] at hv
        exact hagree.levels k pin hpin v hv
    | some w =>
        rw [hnamed, Option.some_or] at hv
        obtain rfl := Option.some.inj hv
        exact hlast k hk w hnamed
  · intro hafter _
    refine ⟨hrecord.mp hafter.inRecord, fun k hk v hlast => ?_⟩
    have hpin : outputPins[k]? = some outputPins[k] := List.getElem?_eq_getElem hk
    rw [← houtput k hk]
    apply hafter.levels k _ hpin v
    rw [hlevel k _ hpin, hlast, Option.some_or]

/-- A request keeps levels and configuration in agreement exactly when it is not a
`SET_IO` with more entries than its record takes, or one that drives an output to another
level than the stored one. -/
theorem drivesStored_iff {s : Panel} (hagree : OutputsAgree s) (x : Input) :
    DrivesStored s x ↔ OutputsAgree (serve s x) := by
  cases x with
  | gpioSet r => exact iff_of_true trivial (agree_gpioSet hagree r)
  | setIo env packet =>
      by_cases hreach : Reaches (received s.recv.buf packet.toPacket) packet.bytes.length .setIo
      · exact setIo_iff hagree env hreach
      · refine iff_of_true (fun hc => absurd hc hreach) ?_
        rw [serve, clientStep_refused env s.recv packet.command hreach, List.append_nil]
        exact ⟨hagree.levels, hagree.inRecord⟩

/-! ## Runs -/

/-- The daemon before any request. -/
def Panel.start (r : Receiver) : Panel := ⟨r, fun _ => none, []⟩

/-- The outputs agree after every request exactly when every `SET_IO` that is handled has at
most eight entries and drives the outputs it names to the levels that are stored. -/
theorem outputsAgree_iff (r : Receiver) (xs : List Input) :
    (∀ ys, ys <+: xs → OutputsAgree (exec serve (Panel.start r) ys)) ↔
      StepsSatisfy serve DrivesStored (Panel.start r) xs := by
  have hstart : OutputsAgree (Panel.start r) := by
    refine ⟨fun k pin _ v hv => ?_, fun j hj => absurd hj List.not_mem_nil⟩
    cases hv
  exact @reaches_iff _ _ serve OutputsAgree DrivesStored
    (fun s x h => drivesStored_iff h x) _ hstart
    xs

/-! ## An output switched off -/

/-- `SET_IO` with one entry: output 1, level 0. -/
def switchOff : SetIoPacket where
  bytes := [0x55, 0xaa, 0x1a, 0x01, 0x01, 0x01, 0x00, 0x00, 0x00]
  nonempty := by decide
  short := by decide
  command := rfl

/-- From the default configuration, in which output 1 is stored as 1, the pin goes to
0 and the stored level stays. -/
theorem outputsAgree_switchOff :
    ¬∀ (b : Build) (m : Mem) (r : Receiver) (xs : List Input),
      r.dev.conf = configMakedefault b m →
        ∀ ys, ys <+: xs → LevelsAgree (exec serve (Panel.start r) ys) := by
  intro h
  let r : Receiver := ⟨zero, Device.start (configMakedefault ⟨[], []⟩ zero)⟩
  have hafter : LevelsAgree (serve (Panel.start r) (.setIo Env.idle switchOff)) :=
    h ⟨[], []⟩ zero r [.setIo Env.idle switchOff] rfl _ (List.prefix_refl _)
  have hreach : Reaches (received zero switchOff.toPacket) switchOff.bytes.length .setIo :=
    Accepted.reaches (by decide)
  obtain ⟨hlevel, houtput⟩ := setIo_reached (Panel.start r) Env.idle hreach
  have hpin : outputPins[0]? = some 96 := rfl
  have hzero := hafter 0 96 hpin 0 (by rw [hlevel 0 96 hpin]; decide)
  have hone : configMakedefault ⟨[], []⟩ zero (gpioOff + 12 + 3) = 1 :=
    configMakedefault_gpio ⟨[], []⟩ zero (by decide)
  have hstored : output r.dev.conf 0 = 1 := hone
  rw [houtput 0 (by decide)] at hzero
  exact absurd (hstored.symm.trans hzero) (by decide)

end Itertk.Web.Outputs
