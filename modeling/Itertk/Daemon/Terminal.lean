import Itertk.Base.Flags
import Itertk.Daemon.Serial
import Itertk.Daemon.Uart

/-!
# Programming a terminal

`setTTY` turns the four settings of a line into the control words of a `termios` and
hands these to `tcsetattr`.  It has its own switches over the legal values, apart from
those of `is_good_uart`.  `Programs` reads the settings back from the words, as the
driver does.

## Main results

* `setTTY_oneTable` — the two functions know the same legal lines.
* `comSet_programs` — `com_set` programs a legal record on the port that it names.
-/

namespace Itertk.Daemon.Terminal

open Itertk.Base.Flags
open Itertk.Daemon.Layout
open Itertk.Daemon.State
open Itertk.Daemon.Uart
open Itertk.Daemon.Serial

/-! ## `termios` -/

abbrev Tcflag := BitVec 32

/-- `struct termios`, with `c_cc[VTIME]` and `c_cc[VMIN]`. -/
structure Termios where
  iflag : Tcflag
  oflag : Tcflag
  cflag : Tcflag
  lflag : Tcflag
  vtime : UInt8
  vmin : UInt8

def ibaud0 : Tcflag := 0x80000000
def inpck : Tcflag := 0x10
def istrip : Tcflag := 0x20
def opost : Tcflag := 0x1
def cbaud : Tcflag := 0x100f
def csize : Tcflag := 0x30
def cs5 : Tcflag := 0x0
def cs6 : Tcflag := 0x10
def cs7 : Tcflag := 0x20
def cs8 : Tcflag := 0x30
def cstopb : Tcflag := 0x40
def cread : Tcflag := 0x80
def parenb : Tcflag := 0x100
def parodd : Tcflag := 0x200
def clocal : Tcflag := 0x800
def isig : Tcflag := 0x1
def icanon : Tcflag := 0x2
def echo : Tcflag := 0x8
def echoe : Tcflag := 0x10

def b300 : Tcflag := 0x7
def b600 : Tcflag := 0x8
def b1200 : Tcflag := 0x9
def b2400 : Tcflag := 0xb
def b4800 : Tcflag := 0xc
def b9600 : Tcflag := 0xd
def b19200 : Tcflag := 0xe
def b38400 : Tcflag := 0xf
def b57600 : Tcflag := 0x1001
def b115200 : Tcflag := 0x1002
def b230400 : Tcflag := 0x1003
def b460800 : Tcflag := 0x1004
def b576000 : Tcflag := 0x1006
def b921600 : Tcflag := 0x1007

/-- The rates up to `B921600` and their codes. -/
def speeds : List (UInt32 × Tcflag) :=
  [(0, 0x0), (50, 0x1), (75, 0x2), (110, 0x3), (134, 0x4), (150, 0x5), (200, 0x6), (300, b300),
    (600, b600), (1200, b1200), (1800, 0xa), (2400, b2400), (4800, b4800), (9600, b9600),
    (19200, b19200), (38400, b38400), (57600, b57600), (115200, b115200), (230400, b230400),
    (460800, b460800), (500000, 0x1005), (576000, b576000), (921600, b921600)]

/-- `cfsetispeed`. -/
def cfsetispeed (t : Termios) (speed : Tcflag) : Termios :=
  if speed = 0 then { t with iflag := set t.iflag ibaud0 }
  else { t with iflag := clear t.iflag ibaud0, cflag := set (clear t.cflag cbaud) speed }

/-- `cfsetospeed`. -/
def cfsetospeed (t : Termios) (speed : Tcflag) : Termios :=
  { t with cflag := set (clear t.cflag cbaud) speed }

/-! ## `setTTY` -/

/-- The code that `switch (speed)` picks; every other rate gets `B115200`. -/
def speedCode (speed : UInt32) : Tcflag :=
  if speed = 300 then b300
  else if speed = 600 then b600
  else if speed = 1200 then b1200
  else if speed = 2400 then b2400
  else if speed = 4800 then b4800
  else if speed = 9600 then b9600
  else if speed = 19200 then b19200
  else if speed = 38400 then b38400
  else if speed = 57600 then b57600
  else if speed = 115200 then b115200
  else if speed = 230400 then b230400
  else if speed = 460800 then b460800
  else if speed = 576000 then b576000
  else if speed = 921600 then b921600
  else b115200

/-- `switch (databits)`. -/
def sizeCode (databits : UInt32) : Option Tcflag :=
  if databits = 5 then some cs5
  else if databits = 6 then some cs6
  else if databits = 7 then some cs7
  else if databits = 8 then some cs8
  else none

/-- `switch (parity)`. -/
def setParity (ntm : Termios) (parity : UInt32) : Option Termios :=
  if parity = 3 then
    some { ntm with
      cflag := clear (clear ntm.cflag parenb) parodd
      iflag := clear ntm.iflag (set inpck istrip) }
  else if parity = 2 then
    some { ntm with
      cflag := set (set ntm.cflag parenb) parodd
      iflag := set ntm.iflag (set inpck istrip) }
  else if parity = 1 then
    some { ntm with
      iflag := set ntm.iflag (set inpck istrip)
      cflag := clear (set ntm.cflag parenb) parodd }
  else none

/-- `switch (stopbits)`. -/
def setStop (ntm : Termios) (stopbits : UInt32) : Option Termios :=
  if stopbits = 1 then some { ntm with cflag := clear ntm.cflag cstopb }
  else if stopbits = 2 then some { ntm with cflag := set ntm.cflag cstopb }
  else none

/-- The assignments after the switches. -/
def rawMode (ntm : Termios) : Termios :=
  { ntm with
    cflag := set ntm.cflag (set clocal cread)
    lflag := clear ntm.lflag (set (set (set icanon echo) echoe) isig)
    oflag := clear ntm.oflag opost
    vtime := 0
    vmin := 0 }

/-- `setTTY(i, fd, speed, databits, parity, stopbits)`: what it returns and what it
hands to `tcsetattr`.  The arguments are `int`s, of which only the bits matter;
`tcgetattr` has filled in `old`, and `accepts` says that `tcsetattr` returns 0. -/
def setTTY (fd : Int) (speed databits parity stopbits : UInt32) (old : Termios)
    (accepts : Bool) : Int × Option Termios :=
  if fd ≤ 0 then (-1, none)
  else
    let ntm := { old with cflag := clear old.cflag csize }
    let ntm := cfsetospeed (cfsetispeed ntm (speedCode speed)) (speedCode speed)
    match sizeCode databits with
    | none => (-1, none)
    | some cs =>
        match setParity { ntm with cflag := set ntm.cflag cs } parity with
        | none => (-2, none)
        | some ntm =>
            match setStop ntm stopbits with
            | none => (-3, none)
            | some ntm => (if accepts then 1 else -4, some (rawMode ntm))

/-- `setTTY` on the line of a record. -/
def setLine (fd : Int) (l : Line) (old : Termios) (accepts : Bool) : Int × Option Termios :=
  setTTY fd l.bps l.dbit.toUInt32 l.chk.toUInt32 l.sbit old accepts

/-! ## What a terminal is programmed to -/

/-- The rate that the control word stands for. -/
def rate (cflag : Tcflag) : Option UInt32 :=
  (speeds.find? fun s => s.2 = field cflag cbaud).map Prod.fst

/-- The data bits under `CSIZE`. -/
def dataBits (cflag : Tcflag) : UInt8 :=
  if field cflag csize = cs5 then 5
  else if field cflag csize = cs6 then 6
  else if field cflag csize = cs7 then 7
  else 8

/-- The parity, with the codes of `chk`: none, odd, even. -/
def parity (cflag : Tcflag) : UInt8 :=
  if field cflag parenb = 0 then 3 else if field cflag parodd = 0 then 1 else 2

def stopBits (cflag : Tcflag) : UInt32 := if field cflag cstopb = 0 then 1 else 2

/-- The terminal has the four settings of the line. -/
structure Programs (t : Termios) (l : Line) : Prop where
  bps : rate t.cflag = some l.bps
  dbit : dataBits t.cflag = l.dbit
  chk : parity t.cflag = l.chk
  sbit : stopBits t.cflag = l.sbit

/-! ## The switches -/

/-- A word keeps the fields that have no bit among `own`. -/
def Keeps (own x y : Tcflag) : Prop := ∀ mask, field own mask = 0 → field y mask = field x mask

private theorem speedCode_other {speed : UInt32} (h : speed ∉ baudRates) :
    speedCode speed = b115200 := by
  simp only [baudRates, List.mem_cons, List.not_mem_nil, or_false, not_or] at h
  obtain ⟨h1, h2, h3, h4, h5, h6, h7, h8, h9, h10, h11, h12, h13, h14⟩ := h
  rw [speedCode, if_neg h1, if_neg h2, if_neg h3, if_neg h4, if_neg h5, if_neg h6, if_neg h7,
    if_neg h8, if_neg h9, if_neg h10, if_neg h11, if_neg h12, if_neg h13, if_neg h14]

/-- The codes of the switch lie under `CBAUD`, and none of them is `B0`. -/
theorem speedCode_field (speed : UInt32) :
    speedCode speed ≠ 0 ∧ field (speedCode speed) cbaud = speedCode speed := by
  by_cases hin : speed ∈ baudRates
  · have hall : baudRates.all (fun r => speedCode r ≠ 0 ∧
        field (speedCode r) cbaud = speedCode r) = true := by decide
    exact of_decide_eq_true (List.all_eq_true.mp hall speed hin)
  · rw [speedCode_other hin]
    decide

/-- A rate is read back from its code exactly when it is in the list of `is_good_uart`. -/
theorem rate_iff {cflag : Tcflag} {speed : UInt32} (h : field cflag cbaud = speedCode speed) :
    rate cflag = some speed ↔ speed ∈ baudRates := by
  rw [rate, h]
  constructor
  · intro hrate
    by_cases hin : speed ∈ baudRates
    · exact hin
    · have h115200 : (speeds.find? fun s => s.2 = b115200).map Prod.fst = some 115200 := by decide
      rw [speedCode_other hin, h115200] at hrate
      rw [← Option.some.inj hrate]
      decide
  · intro hin
    have hall : baudRates.all (fun r =>
        (speeds.find? fun s => s.2 = speedCode r).map Prod.fst = some r) = true := by decide
    exact of_decide_eq_true (List.all_eq_true.mp hall speed hin)

/-- A byte that is widened to an `int` keeps its value. -/
theorem toUInt32_ne {a b : UInt8} (h : ¬a = b) : ¬a.toUInt32 = b.toUInt32 := fun he =>
  h (UInt8.toUInt32_inj.mp he)

/-- The data bits that the switch knows, and how they are read back. -/
theorem sizeCode_cases (d : UInt8) :
    (d ∉ [5, 6, 7, 8] ∧ sizeCode d.toUInt32 = none) ∨
      ∃ cs, sizeCode d.toUInt32 = some cs ∧ d ∈ [5, 6, 7, 8] ∧ field cs csize = cs ∧
        ∀ cflag, field cflag csize = cs → dataBits cflag = d := by
  by_cases hd : d ∈ [5, 6, 7, 8]
  · right
    have hbits : d = 5 ∨ d = 6 ∨ d = 7 ∨ d = 8 := by
      simpa only [List.mem_cons, List.not_mem_nil, or_false] using hd
    rcases hbits with rfl | rfl | rfl | rfl <;>
      exact ⟨_, rfl, hd, by decide, fun cflag h => by rw [dataBits, h]; decide⟩
  · simp only [List.mem_cons, List.not_mem_nil, or_false, not_or] at hd
    obtain ⟨h5, h6, h7, h8⟩ := hd
    have hne5 : ¬d.toUInt32 = 5 := toUInt32_ne h5
    have hne6 : ¬d.toUInt32 = 6 := toUInt32_ne h6
    have hne7 : ¬d.toUInt32 = 7 := toUInt32_ne h7
    have hne8 : ¬d.toUInt32 = 8 := toUInt32_ne h8
    refine .inl ⟨by simp [h5, h6, h7, h8], ?_⟩
    rw [sizeCode, if_neg hne5, if_neg hne6, if_neg hne7, if_neg hne8]

/-- The parities that the switch knows: two bits of `c_cflag` tell them apart, and no other
field of it changes. -/
theorem setParity_cases (ntm : Termios) (p : UInt8) :
    (p ∉ [3, 2, 1] ∧ setParity ntm p.toUInt32 = none) ∨
      ∃ t, setParity ntm p.toUInt32 = some t ∧ p ∈ [3, 2, 1] ∧
        (∀ cflag, field cflag parenb = field t.cflag parenb →
          field cflag parodd = field t.cflag parodd → parity cflag = p) ∧
        Keeps (set parenb parodd) ntm.cflag t.cflag := by
  by_cases h3 : p = 3
  · refine .inr ⟨_, by rw [h3]; rfl, by rw [h3]; decide, fun cflag hb _ => ?_, fun mask h => ?_⟩
    · rw [parity, hb, field_clear_off (by decide), field_clear_all (by decide), if_pos rfl, h3]
    · obtain ⟨hb, ho⟩ := field_set_eq_zero_iff.mp h
      rw [field_clear_off ho, field_clear_off hb]
  by_cases h2 : p = 2
  · refine .inr ⟨_, by rw [h2]; rfl, by rw [h2]; decide, fun cflag hb ho => ?_, fun mask h => ?_⟩
    · have hparenb : field cflag parenb = parenb := by
        rw [hb, field_set_off (by decide), field_set_self]
      have hparodd : field cflag parodd = parodd := by rw [ho, field_set_self]
      rw [parity, hparenb, hparodd, if_neg (by decide), if_neg (by decide), h2]
    · obtain ⟨hb, ho⟩ := field_set_eq_zero_iff.mp h
      rw [field_set_off ho, field_set_off hb]
  by_cases h1 : p = 1
  · refine .inr ⟨_, by rw [h1]; rfl, by rw [h1]; decide, fun cflag hb ho => ?_, fun mask h => ?_⟩
    · have hparenb : field cflag parenb = parenb := by
        rw [hb, field_clear_off (by decide), field_set_self]
      have hparodd : field cflag parodd = 0 := by rw [ho, field_clear_all (by decide)]
      rw [parity, hparenb, hparodd, if_neg (by decide), if_pos rfl, h1]
    · obtain ⟨hb, ho⟩ := field_set_eq_zero_iff.mp h
      rw [field_clear_off ho, field_set_off hb]
  have hne3 : ¬p.toUInt32 = 3 := toUInt32_ne h3
  have hne2 : ¬p.toUInt32 = 2 := toUInt32_ne h2
  have hne1 : ¬p.toUInt32 = 1 := toUInt32_ne h1
  exact .inl ⟨by simp [h3, h2, h1], by rw [setParity, if_neg hne3, if_neg hne2, if_neg hne1]⟩

/-- The stop bits that the switch knows. -/
theorem setStop_cases (ntm : Termios) (n : UInt32) :
    (n ∉ [1, 2] ∧ setStop ntm n = none) ∨
      ∃ t, setStop ntm n = some t ∧ n ∈ [1, 2] ∧
        (∀ cflag, field cflag cstopb = field t.cflag cstopb → stopBits cflag = n) ∧
        Keeps cstopb ntm.cflag t.cflag := by
  by_cases h1 : n = 1
  · refine .inr ⟨_, by rw [h1]; rfl, by rw [h1]; decide, fun cflag h => ?_, fun mask h => ?_⟩
    · rw [stopBits, h, field_clear_all (by decide), if_pos rfl, h1]
    · exact field_clear_off h
  by_cases h2 : n = 2
  · refine .inr ⟨_, by rw [h2]; rfl, by rw [h2]; decide, fun cflag h => ?_, fun mask h => ?_⟩
    · rw [stopBits, h, field_set_self, if_neg (by decide), h2]
    · exact field_set_off h
  exact .inl ⟨by simp [h1, h2], by rw [setStop, if_neg h1, if_neg h2]⟩

/-- The rate of a control word is the one that was set last. -/
theorem cfsetospeed_field (t : Termios) {speed : Tcflag} (h : field speed cbaud = speed) :
    field (cfsetospeed t speed).cflag cbaud = speed :=
  field_set_in (field_clear_all (by decide)) h

/-- Setting the two rates leaves the other fields. -/
theorem setSpeed_keeps (t : Termios) {speed : Tcflag} (h0 : speed ≠ 0)
    (h : field speed cbaud = speed) :
    Keeps cbaud t.cflag (cfsetospeed (cfsetispeed t speed) speed).cflag := by
  intro mask hbaud
  have hspeed := field_of_within h hbaud
  rw [cfsetospeed, cfsetispeed, if_neg h0, field_set_off hspeed, field_clear_off hbaud,
    field_set_off hspeed, field_clear_off hbaud]

/-! ## Legal lines -/

/-- The four settings are among those that the switches list. -/
structure Legal (l : Line) : Prop where
  bps : l.bps ∈ baudRates
  dbit : l.dbit ∈ [5, 6, 7, 8]
  chk : l.chk ∈ [3, 2, 1]
  sbit : l.sbit ∈ [1, 2]

/-- `setTTY` returns 1 and programs the line exactly if the line is legal.  The switches
are passed one after the other; each later one leaves the fields of the earlier ones. -/
theorem setLine_iff {fd : Int} (hfd : fd > 0) (l : Line) (old : Termios) :
    (∃ t, setLine fd l old true = (1, some t) ∧ Programs t l) ↔ Legal l := by
  obtain ⟨hcode, hbaud⟩ := speedCode_field l.bps
  have hno : ∀ {r : Int} {t : Termios}, ¬((r, none) : Int × Option Termios) = (1, some t) := by
    intro r t h
    cases h
  unfold setLine setTTY
  rw [if_neg (by omega)]
  dsimp only
  have hspeed := setSpeed_keeps { old with cflag := clear old.cflag csize } hcode hbaud
  have hrate := cfsetospeed_field
    (cfsetispeed { old with cflag := clear old.cflag csize } (speedCode l.bps)) hbaud
  generalize cfsetospeed (cfsetispeed { old with cflag := clear old.cflag csize } (speedCode l.bps))
    (speedCode l.bps) = ntm at hspeed hrate ⊢
  rcases sizeCode_cases l.dbit with ⟨hd, hsize⟩ | ⟨cs, hsize, hd, hcs, hbits⟩
  · rw [hsize]
    exact iff_of_false (fun ⟨_, h, _⟩ => hno h) fun h => hd h.dbit
  rw [hsize]
  dsimp only
  rcases setParity_cases { ntm with cflag := set ntm.cflag cs } l.chk with
    ⟨hp, hparity⟩ | ⟨t, hparity, hp, hchk, hkeeps⟩
  · rw [hparity]
    exact iff_of_false (fun ⟨_, h, _⟩ => hno h) fun h => hp h.chk
  rw [hparity]
  dsimp only
  rcases setStop_cases t l.sbit with ⟨hs, hstop⟩ | ⟨t', hstop, hs, hsbit, hkeeps'⟩
  · rw [hstop]
    exact iff_of_false (fun ⟨_, h, _⟩ => hno h) fun h => hs h.sbit
  rw [hstop]
  dsimp only
  have hraw : ∀ {mask : Tcflag}, field (set clocal cread) mask = 0 →
      field (rawMode t').cflag mask = field t'.cflag mask := field_set_off
  have hcbaud : field (rawMode t').cflag cbaud = speedCode l.bps := by
    rw [hraw (by decide), hkeeps' cbaud (by decide), hkeeps cbaud (by decide)]
    exact (field_set_off (field_of_within hcs (by decide))).trans hrate
  have hcsize : field (rawMode t').cflag csize = cs := by
    rw [hraw (by decide), hkeeps' csize (by decide), hkeeps csize (by decide)]
    refine field_set_in ?_ hcs
    rw [hspeed csize (by decide)]
    exact field_clear_all (by decide)
  have hdbit := hbits _ hcsize
  have hpar : parity (rawMode t').cflag = l.chk := by
    apply hchk
    · rw [hraw (by decide), hkeeps' parenb (by decide)]
    · rw [hraw (by decide), hkeeps' parodd (by decide)]
  have hstopBits := hsbit _ (hraw (by decide))
  constructor
  · rintro ⟨_, hret, hprog⟩
    cases hret
    exact ⟨(rate_iff hcbaud).mp hprog.bps, hd, hp, hs⟩
  · intro hlegal
    exact ⟨_, rfl, (rate_iff hcbaud).mpr hlegal.bps, hdbit, hpar, hstopBits⟩

private theorem goodLine_iff (c : ConfigCom) : GoodLine c ↔ Legal (line c) :=
  ⟨fun h => ⟨h.bps, h.dbit, h.chk, h.sbit⟩, fun h => ⟨h.bps, h.dbit, h.chk, h.sbit⟩⟩

/-- `setTTY` fails in its own switches before it calls `tcsetattr`. -/
theorem setLine_refused {fd : Int} {l : Line} {old : Termios} {accepts : Bool}
    (h : (setLine fd l old accepts).1 ∈ [-1, -2, -3]) : (setLine fd l old accepts).2 = none := by
  unfold setLine setTTY at *
  by_cases hfd : fd ≤ 0
  · rw [if_pos hfd]
  rw [if_neg hfd] at h ⊢
  dsimp only at h ⊢
  generalize cfsetospeed _ _ = ntm at h ⊢
  cases hsize : sizeCode l.dbit.toUInt32 with
  | none => rfl
  | some cs =>
      rw [hsize] at h
      dsimp only at h ⊢
      cases hparity : setParity { ntm with cflag := set ntm.cflag cs } l.chk.toUInt32 with
      | none => rfl
      | some t =>
          rw [hparity] at h
          dsimp only at h ⊢
          cases hstop : setStop t l.sbit with
          | none => rfl
          | some t' =>
              rw [hstop] at h
              cases accepts with
              | true => exact absurd h (show (1 : Int) ∉ [-1, -2, -3] by decide)
              | false => exact absurd h (show (-4 : Int) ∉ [-1, -2, -3] by decide)

/-- What `com_set` does for a record that `is_good_uart` accepts: `setTTY` programs its line
on the port that it names, if that is open. -/
theorem comSet_programs (d : Device) {c : ConfigCom} (hgood : isGoodUart c = setUartAttrPass)
    (old : Termios) : ∀ e ∈ (comSet d c).2, ∃ fd t,
      e = .tty fd c.bps c.dbit c.chk c.sbit ∧ setLine fd (line c) old true = (1, some t) ∧
        Programs t (line c) := by
  intro e he
  rw [comSet_eq] at he
  by_cases hfd : d.gcomfd (c.id - 1) > 0
  · rw [comParaSet_open hfd, List.mem_singleton] at he
    have hlegal := (goodLine_iff c).mp ((isGoodUart_iff c).mp hgood)
    obtain ⟨t, hret, hprog⟩ := (setLine_iff hfd (line c) old).mpr hlegal
    exact ⟨_, t, he, hret, hprog⟩
  · rw [comParaSet_closed hfd] at he
    exact absurd he List.not_mem_nil

/-- `is_good_uart` accepts a record exactly if `setTTY` succeeds on its line and programs
it, with the rate that it asks for; and `setTTY` does not touch the terminal when it returns
one of its three errors. -/
theorem setTTY_oneTable (c : ConfigCom) (old : Termios) :
    (∀ fd : Int, fd > 0 → (isGoodUart c = setUartAttrPass ↔
        ∃ t, setLine fd (line c) old true = (1, some t) ∧ Programs t (line c))) ∧
      ∀ fd accepts, (setLine fd (line c) old accepts).1 ∈ [-1, -2, -3] →
        (setLine fd (line c) old accepts).2 = none := by
  constructor
  · intro fd hfd
    rw [isGoodUart_iff, goodLine_iff]
    exact (setLine_iff hfd (line c) old).symm
  · intro fd accepts h
    exact setLine_refused h

/-- A record for 9600 bits per second, eight data bits, no parity and one stop bit. -/
def com9600 : ConfigCom where
  id := 1
  bps := 9600
  sbit := 1
  dbit := 8
  chk := 3
  bctrl := 0
  rts := 0
  dtr := 0
  all := 0
  type := 0
  isloop := 0
  rsvd := fun _ => 0
  alive := 0

theorem oneTable_9600 :
    ∃ t, setLine 3 (line com9600) ⟨0, 0, 0, 0, 0, 0⟩ true = (1, some t) ∧
      Programs t (line com9600) :=
  ((setTTY_oneTable com9600 ⟨0, 0, 0, 0, 0, 0⟩).1 3 (by decide)).mp (by decide)

end Itertk.Daemon.Terminal
