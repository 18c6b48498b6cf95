import Itertk.Base.Groups
import Itertk.Discovery.Text

/-!
# MAC addresses and their texts

The network form looks at a MAC address twice.  `mac_str_check` compares the length and
each position; `get_mac` takes the text apart at the colons and converts the parts, and
has stored the first ones when it fails at a later one.  `con_net.dev_mac` has the offset
28.

## Main results

* `macStrCheck_iff` — six pairs of hexadecimal digits between colons are accepted.
* `macText_roundTrip` — an accepted text is read, and printed in lower case; a printed one
  is accepted and read.
-/

namespace Itertk.Address.MacText

open Itertk.Base.Groups
open Itertk.Base.Memory
open Itertk.Daemon.Config
open Itertk.Discovery.Report
open Itertk.Discovery.Text

/-! ## The form program -/

/-- `is_mac`. -/
def isMac (c : UInt8) : Bool :=
  (0x30 ≤ c ∧ c ≤ 0x39) ∨ (0x61 ≤ c ∧ c ≤ 0x66) ∨ (0x41 ≤ c ∧ c ≤ 0x46)

/-- `is_colon`. -/
def isColon (c : UInt8) : Bool := c = colon

/-- `MAC_STR_LEN`. -/
def macStrLen : Nat := 17

/-- The `switch` of `mac_str_check`. -/
def macCharOk (i : Nat) (c : UInt8) : Bool :=
  match i with
  | 0 | 1 | 3 | 4 | 6 | 7 | 9 | 10 | 12 | 13 | 15 | 16 => isMac c
  | 2 | 5 | 8 | 11 | 14 => isColon c
  | _ => true

/-- The loop of `mac_str_check`, from the character `i` on. -/
def macStrLoop (i : Nat) : List UInt8 → Int
  | [] => 0
  | c :: s => if macCharOk i c then macStrLoop (i + 1) s else -1

/-- `mac_str_check`; no caller passes a null pointer. -/
def macStrCheck (s : List UInt8) : Int := if s.length ≠ macStrLen then -1 else macStrLoop 0 s

/-- The loop of `get_mac`: `tok` are the parts that `strtok` has not returned, and `k` bytes
are left, the next at `i`. -/
def getMacLoop (m : Mem) (i : Nat) (tok : List (List UInt8)) : Nat → Int × Mem
  | 0 => (0, m)
  | k + 1 =>
      if str2hex tok.head? < 0 then (-1, m)
      else getMacLoop (store m i (UInt8.ofInt (str2hex tok.head?))) (i + 1) tok.tail k

/-- `get_mac`, over `con_net`. -/
def getMac (str : List UInt8) (m : Mem) : Int × Mem :=
  let tok := strtok colon [] str
  let m := store m 28 (UInt8.ofInt (str2hex tok.head?))
  if str2hex tok.head? < 0 then (-1, m) else getMacLoop m 29 tok.tail 5

/-- The value that `show_dev_mac` prints. -/
def showDevMac (m : Mem) : List UInt8 := [colon].intercalate ((slice m 28 6).map hexByte)

/-! ## The grammar -/

/-- Two hexadecimal digits. -/
structure HexPair (g : List UInt8) : Prop where
  length_eq : g.length = 2
  digits_only : ∀ c ∈ g, hexDigit c ≠ none

/-- Six pairs between colons. -/
def MacForm (s : List UInt8) : Prop :=
  ∃ gs : List (List UInt8), gs.length = 6 ∧ (∀ g ∈ gs, HexPair g) ∧ s = [colon].intercalate gs

/-- `tolower`. -/
def lower (c : UInt8) : UInt8 := if 0x41 ≤ c ∧ c ≤ 0x5a then c + 0x20 else c

/-- The value of a pair. -/
def pairByte (g : List UInt8) : UInt8 := UInt8.ofInt (hexDigits 0 g)

/-! ## One pair -/

theorem HexPair.cases {g : List UInt8} (h : HexPair g) :
    ∃ a b t u, g = [a, b] ∧ hexDigit a = some t ∧ hexDigit b = some u := by
  match g, h.length_eq with
  | [a, b], _ =>
    obtain ⟨t, ht⟩ := Option.ne_none_iff_exists'.mp (h.digits_only a (by simp))
    obtain ⟨u, hu⟩ := Option.ne_none_iff_exists'.mp (h.digits_only b (by simp))
    exact ⟨a, b, t, u, rfl, ht, hu⟩

theorem HexPair.ne_nil {g : List UInt8} (h : HexPair g) : g ≠ [] := by
  rintro rfl
  cases h.length_eq

private theorem HexPair.colon_notMem {g : List UInt8} (h : HexPair g) : colon ∉ g :=
  fun hmem => h.digits_only colon hmem (by decide)

private theorem isMac_iff (c : UInt8) : isMac c = true ↔ hexDigit c ≠ none := by
  rw [isMac, decide_eq_true_iff, hexDigit]
  split
  · exact iff_of_true (Or.inl ‹_›) (Option.some_ne_none _)
  · split
    · exact iff_of_true (Or.inr (Or.inr ‹_›)) (Option.some_ne_none _)
    · split
      · exact iff_of_true (Or.inr (Or.inl ‹_›)) (Option.some_ne_none _)
      · refine iff_of_false ?_ fun h => h rfl
        rintro (h | h | h) <;> contradiction

private theorem hexPair_iff (a b : UInt8) : HexPair [a, b] ↔ isMac a = true ∧ isMac b = true := by
  rw [isMac_iff, isMac_iff]
  constructor
  · exact fun h => ⟨h.digits_only a (by simp), h.digits_only b (by simp)⟩
  · rintro ⟨ha, hb⟩
    exact ⟨rfl, by simp [ha, hb]⟩

/-- A hexadecimal digit is printed in lower case. -/
theorem digitChar_hexDigit {c : UInt8} {t : Nat} (h : hexDigit c = some t) :
    t < 16 ∧ (Nat.digitChar t).toNat.toUInt8 = lower c := by
  have hall : ∀ k : Fin 256, (hexDigit (UInt8.ofNat k.val)).all fun t =>
      t < 16 ∧ (Nat.digitChar t).toNat.toUInt8 = lower (UInt8.ofNat k.val) := by decide +kernel
  have hc := hall ⟨c.toNat, c.toNat_lt⟩
  rw [UInt8.ofNat_toNat, h] at hc
  simpa using hc

/-- The value of a pair is not negative, and prints as the pair in lower case. -/
theorem HexPair.read {g : List UInt8} (h : HexPair g) :
    ¬str2hex (some g) < 0 ∧ hexByte (pairByte g) = g.map lower := by
  obtain ⟨a, b, t, u, rfl, ha, hb⟩ := h.cases
  obtain ⟨ht, hta⟩ := digitChar_hexDigit ha
  obtain ⟨hu, hub⟩ := digitChar_hexDigit hb
  have hvalue : hexDigits 0 [a, b] = ((t * 16 + u : Nat) : Int) := by
    rw [hexDigits, ha]
    dsimp only
    rw [hexDigits, hb]
    dsimp only
    rw [hexDigits]
    push_cast
    omega
  refine ⟨by rw [str2hex, hvalue]; omega, ?_⟩
  rw [pairByte, hexByte, hvalue, uint8_ofInt_natCast (by omega),
    show (t * 16 + u) / 16 = t by omega, show (t * 16 + u) % 16 = u by omega]
  show [(Nat.digitChar t).toNat.toUInt8, (Nat.digitChar u).toNat.toUInt8] = [lower a, lower b]
  rw [hta, hub]

/-- A byte is printed as a pair. -/
theorem hexPair_hexByte (b : UInt8) : HexPair (hexByte b) where
  length_eq := rfl
  digits_only _ hmem hc := notMem_hexByte hc b hmem

private theorem pairByte_hexByte (b : UInt8) : pairByte (hexByte b) = b := by
  have hread := str2hex_hexByte b
  rw [str2hex] at hread
  rw [pairByte, hread, uint8_ofInt_toNat]

/-! ## The check -/

private theorem macStrLoop_cons (i : Nat) (c : UInt8) (s : List UInt8) :
    macStrLoop i (c :: s) = 0 ↔ macCharOk i c = true ∧ macStrLoop (i + 1) s = 0 := by
  rw [macStrLoop]
  by_cases h : macCharOk i c = true
  · rw [if_pos h]
    exact ⟨fun hs => ⟨h, hs⟩, And.right⟩
  · rw [if_neg h]
    exact iff_of_false (by decide) fun hs => h hs.1

/-- Each position of a text of the right length is looked at. -/
theorem macStrLoop_iff (a b c d e f g h i j k l m n o p q : UInt8) :
    macStrLoop 0 [a, b, c, d, e, f, g, h, i, j, k, l, m, n, o, p, q] = 0 ↔
      HexPair [a, b] ∧ c = colon ∧ HexPair [d, e] ∧ f = colon ∧ HexPair [g, h] ∧ i = colon ∧
        HexPair [j, k] ∧ l = colon ∧ HexPair [m, n] ∧ o = colon ∧ HexPair [p, q] := by
  simp only [macStrLoop_cons]
  simp only [macStrLoop, macCharOk, isColon, decide_eq_true_eq, hexPair_iff, and_true, and_assoc]

/-- `mac_str_check` accepts six pairs between colons. -/
theorem macStrCheck_iff (s : List UInt8) : macStrCheck s = 0 ↔ MacForm s := by
  constructor
  · intro hcheck
    rw [macStrCheck] at hcheck
    by_cases hlen : s.length = macStrLen
    · rw [if_neg (not_not_intro hlen)] at hcheck
      match s, hlen with
      | [a, b, c, d, e, f, g, h, i, j, k, l, m, n, o, p, q], _ =>
        obtain ⟨h₀, rfl, h₁, rfl, h₂, rfl, h₃, rfl, h₄, rfl, h₅⟩ :=
          (macStrLoop_iff a b c d e f g h i j k l m n o p q).mp hcheck
        refine ⟨[[a, b], [d, e], [g, h], [j, k], [m, n], [p, q]], rfl, ?_, rfl⟩
        simp [h₀, h₁, h₂, h₃, h₄, h₅]
    · rw [if_pos hlen] at hcheck
      cases hcheck
  · rintro ⟨gs, hlen, hgs, rfl⟩
    match gs, hlen with
    | [g₀, g₁, g₂, g₃, g₄, g₅], _ =>
      obtain ⟨h₀, h₁, h₂, h₃, h₄, h₅⟩ : HexPair g₀ ∧ HexPair g₁ ∧ HexPair g₂ ∧ HexPair g₃ ∧
          HexPair g₄ ∧ HexPair g₅ := by simpa using hgs
      obtain ⟨a, b, _, _, rfl, _⟩ := h₀.cases
      obtain ⟨d, e, _, _, rfl, _⟩ := h₁.cases
      obtain ⟨g, h, _, _, rfl, _⟩ := h₂.cases
      obtain ⟨j, k, _, _, rfl, _⟩ := h₃.cases
      obtain ⟨m, n, _, _, rfl, _⟩ := h₄.cases
      obtain ⟨p, q, _, _, rfl, _⟩ := h₅.cases
      exact (macStrLoop_iff a b colon d e colon g h colon j k colon m n colon p q).mpr
        ⟨h₀, rfl, h₁, rfl, h₂, rfl, h₃, rfl, h₄, rfl, h₅⟩

private theorem macStrLoop_cases (i : Nat) (s : List UInt8) :
    macStrLoop i s = 0 ∨ macStrLoop i s = -1 := by
  induction s generalizing i with
  | nil => exact Or.inl rfl
  | cons c s ih =>
      rw [macStrLoop]
      split
      · exact ih _
      · exact Or.inr rfl

theorem macStrCheck_neg_iff (s : List UInt8) : macStrCheck s < 0 ↔ ¬MacForm s := by
  rw [← macStrCheck_iff]
  have hcases : macStrCheck s = 0 ∨ macStrCheck s = -1 := by
    rw [macStrCheck]
    split
    · exact Or.inr rfl
    · exact macStrLoop_cases 0 s
  omega

/-! ## The conversion -/

/-- The loop stores the value of one pair after the other. -/
theorem getMacLoop_pairs {gs : List (List UInt8)} (hgs : ∀ g ∈ gs, HexPair g) (m : Mem)
    (i : Nat) : getMacLoop m i gs gs.length = (0, blit m i (gs.map pairByte)) := by
  induction gs generalizing m i with
  | nil => rw [List.length_nil, getMacLoop, List.map_nil, blit_nil]
  | cons g gs ih =>
      have hg := hgs g List.mem_cons_self
      rw [List.length_cons, getMacLoop, List.head?_cons, if_neg hg.read.1, List.tail_cons,
        ih (fun w hw => hgs w (List.mem_cons_of_mem g hw)), store_eq_blit, str2hex]
      exact congrArg (Prod.mk 0) (blit_append m i [pairByte g] (gs.map pairByte))

/-- `get_mac` stores the values of six pairs. -/
theorem getMac_pairs {gs : List (List UInt8)} (hlen : gs.length = 6)
    (hgs : ∀ g ∈ gs, HexPair g) (m : Mem) :
    getMac ([colon].intercalate gs) m = (0, blit m 28 (gs.map pairByte)) := by
  have htok : strtok colon [] ([colon].intercalate gs) = gs :=
    strtok_intercalate gs fun g hg => ⟨(hgs g hg).ne_nil, (hgs g hg).colon_notMem⟩
  rw [getMac, htok]
  cases gs with
  | nil => cases hlen
  | cons g gs =>
      have hg := hgs g List.mem_cons_self
      have hlen' : gs.length = 5 := Nat.succ.inj hlen
      rw [List.head?_cons, if_neg hg.read.1, List.tail_cons, ← hlen',
        getMacLoop_pairs (fun w hw => hgs w (List.mem_cons_of_mem g hw)), store_eq_blit, str2hex]
      exact congrArg (Prod.mk 0) (blit_append m 28 [pairByte g] (gs.map pairByte))

/-- What has been stored is printed in lower case. -/
theorem showDevMac_pairs {gs : List (List UInt8)} (hlen : gs.length = 6)
    (hgs : ∀ g ∈ gs, HexPair g) (m : Mem) :
    showDevMac (blit m 28 (gs.map pairByte)) = ([colon].intercalate gs).map lower := by
  have hbytes : (gs.map pairByte).map hexByte = gs.map (List.map lower) := by
    rw [List.map_map]
    exact List.map_congr_left fun g hg => (hgs g hg).read.2
  have hslice := slice_blit_self m 28 (gs.map pairByte)
  rw [List.length_map, hlen] at hslice
  have hcolon : lower colon = colon := by decide
  rw [showDevMac, hslice, hbytes, map_intercalate, hcolon]

/-- A text that is accepted is read as six bytes and printed back in lower case; the text
of any six bytes is accepted and read as these. -/
theorem macText_roundTrip :
    (∀ s, macStrCheck s = 0 ↔ MacForm s) ∧
      (∀ s m, macStrCheck s = 0 → ∃ mac : List UInt8, mac.length = 6 ∧
        getMac s m = (0, blit m 28 mac) ∧ showDevMac (getMac s m).2 = s.map lower) ∧
      ∀ m m', macStrCheck (showDevMac m) = 0 ∧
        getMac (showDevMac m) m' = (0, blit m' 28 (slice m 28 6)) := by
  refine ⟨macStrCheck_iff, ?_, ?_⟩
  · intro s m h
    obtain ⟨gs, hlen, hgs, rfl⟩ := (macStrCheck_iff s).mp h
    rw [getMac_pairs hlen hgs]
    exact ⟨gs.map pairByte, by rw [List.length_map, hlen], rfl, showDevMac_pairs hlen hgs m⟩
  · intro m m'
    have hlen : ((slice m 28 6).map hexByte).length = 6 := by
      rw [List.length_map, slice_length]
    have hgs : ∀ g ∈ (slice m 28 6).map hexByte, HexPair g := by
      intro g hg
      obtain ⟨b, _, rfl⟩ := List.mem_map.mp hg
      exact hexPair_hexByte b
    have hback : ((slice m 28 6).map hexByte).map pairByte = slice m 28 6 := by
      rw [List.map_map]
      exact (List.map_congr_left fun b _ => pairByte_hexByte b).trans (List.map_id _)
    refine ⟨(macStrCheck_iff _).mpr ⟨_, hlen, hgs, rfl⟩, ?_⟩
    rw [showDevMac, getMac_pairs hlen hgs, hback]

end Itertk.Address.MacText
