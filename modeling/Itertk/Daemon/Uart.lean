import Itertk.Daemon.Layout

/-!
# Serial line parameters

The alarm server writes a baud rate as three big-endian bytes and the parity
with its own code; `g_conf_info` keeps the rate as a `DWORD` and the parity with
the code of `com.c`.  This module holds the two translations, the validity test
`isGoodUart`, and the facts that make them inverse of each other on every
setting the test accepts.
-/

namespace Itertk.Daemon.Uart

open Itertk.Daemon.Layout

/-! ## Baud rate -/

/-- `calc_baud_rate(a, b, c)`. -/
def calcBaudRate (a b c : UInt8) : UInt32 :=
  a.toUInt32 * 0x10000 + b.toUInt32 * 0x100 + c.toUInt32

/-- `calc_high_byte(x)`, stored in a `u8`. -/
def calcHighByte (x : UInt32) : UInt8 := (x / 0x10000).toUInt8

/-- `calc_mid_byte(x)`, stored in a `u8`. -/
def calcMidByte (x : UInt32) : UInt8 := (x % 0x10000 / 0x100).toUInt8

/-- `calc_low_byte(x)`, stored in a `u8`. -/
def calcLowByte (x : UInt32) : UInt8 := (x % 0x10000 % 0x100).toUInt8

private theorem calcBaudRate_toNat (a b c : UInt8) :
    (calcBaudRate a b c).toNat = a.toNat * 65536 + b.toNat * 256 + c.toNat := by
  have ha := a.toNat_lt
  have hb := b.toNat_lt
  have hc := c.toNat_lt
  simp only [calcBaudRate, UInt32.toNat_add, UInt32.toNat_mul, UInt8.toNat_toUInt32,
    UInt32.reduceToNat]
  omega

/-- The three bytes a rate was assembled from are the three it is split into. -/
theorem calcBytes_baudRate (a b c : UInt8) :
    calcHighByte (calcBaudRate a b c) = a ∧ calcMidByte (calcBaudRate a b c) = b ∧
      calcLowByte (calcBaudRate a b c) = c := by
  have ha := a.toNat_lt
  have hb := b.toNat_lt
  have hc := c.toNat_lt
  simp only [calcHighByte, calcMidByte, calcLowByte, ← UInt8.toNat_inj, UInt32.toNat_toUInt8,
    UInt32.toNat_div, UInt32.toNat_mod, calcBaudRate_toNat, UInt32.reduceToNat]
  omega

/-! ## Parity -/

/-- `return_local_odd_even`. -/
def returnLocalOddEven (remote : UInt8) : UInt8 :=
  if remote = 0 then 3 else if remote = 1 then 2 else if remote = 2 then 1 else 0xff

/-- `return_remote_odd_even`. -/
def returnRemoteOddEven (loc : UInt8) : UInt8 :=
  if loc = 3 then 0 else if loc = 2 then 1 else if loc = 1 then 2 else 0xff

/-- A parity code that translates to a legal local code translates back. -/
theorem returnRemoteOddEven_local (remote : UInt8)
    (h : returnLocalOddEven remote ∈ [3, 2, 1]) :
    returnRemoteOddEven (returnLocalOddEven remote) = remote := by
  by_cases h0 : remote = 0
  · subst h0; rfl
  by_cases h1 : remote = 1
  · subst h1; rfl
  by_cases h2 : remote = 2
  · subst h2; rfl
  · rw [returnLocalOddEven, if_neg h0, if_neg h1, if_neg h2] at h
    exact absurd h (by decide)

/-! ## `is_good_uart` -/

def setUartAttrPass : UInt8 := 1
def setUartAttrFail : UInt8 := 0

/-- The rates `is_good_uart` lists. -/
def baudRates : List UInt32 :=
  [300, 600, 1200, 2400, 4800, 9600, 19200, 38400, 57600, 115200, 230400, 460800, 576000, 921600]

/-- `is_good_uart`: four switches, each returning early on an illegal value. -/
def isGoodUart (pcom : ConfigCom) : UInt8 :=
  if pcom.bps ∉ baudRates then setUartAttrFail
  else if pcom.dbit ∉ [5, 6, 7, 8] then setUartAttrFail
  else if pcom.chk ∉ [3, 2, 1] then setUartAttrFail
  else if pcom.sbit ∉ [1, 2] then setUartAttrFail
  else setUartAttrPass

/-- The four line settings of an accepted record. -/
structure GoodLine (pcom : ConfigCom) : Prop where
  bps : pcom.bps ∈ baudRates
  dbit : pcom.dbit ∈ [5, 6, 7, 8]
  chk : pcom.chk ∈ [3, 2, 1]
  sbit : pcom.sbit ∈ [1, 2]

theorem isGoodUart_iff (pcom : ConfigCom) :
    isGoodUart pcom = setUartAttrPass ↔ GoodLine pcom := by
  have hne : setUartAttrFail ≠ setUartAttrPass := by decide
  constructor
  · intro h
    unfold isGoodUart at h
    by_cases hb : pcom.bps ∈ baudRates
    · by_cases hd : pcom.dbit ∈ [5, 6, 7, 8]
      · by_cases hc : pcom.chk ∈ [3, 2, 1]
        · by_cases hs : pcom.sbit ∈ [1, 2]
          · exact ⟨hb, hd, hc, hs⟩
          · rw [if_neg (not_not_intro hb), if_neg (not_not_intro hd), if_neg (not_not_intro hc),
              if_pos hs] at h
            exact absurd h hne
        · rw [if_neg (not_not_intro hb), if_neg (not_not_intro hd), if_pos hc] at h
          exact absurd h hne
      · rw [if_neg (not_not_intro hb), if_pos hd] at h
        exact absurd h hne
    · rw [if_pos hb] at h
      exact absurd h hne
  · rintro ⟨hb, hd, hc, hs⟩
    rw [isGoodUart, if_neg (not_not_intro hb), if_neg (not_not_intro hd),
      if_neg (not_not_intro hc), if_neg (not_not_intro hs)]

/-- Only the four line settings matter to `is_good_uart`. -/
theorem isGoodUart_congr {c c' : ConfigCom} (hb : c.bps = c'.bps) (hd : c.dbit = c'.dbit)
    (hc : c.chk = c'.chk) (hs : c.sbit = c'.sbit) : isGoodUart c = isGoodUart c' := by
  rw [isGoodUart, isGoodUart, hb, hd, hc, hs]

instance (c : ConfigCom) : Decidable (GoodLine c) := decidable_of_iff _ (isGoodUart_iff c)

end Itertk.Daemon.Uart
