import Itertk.Discovery.Report

/-!
# What the device prints, it reads

`pc_get_dev_info` prints with `sprintf` and `sys_ip2str_static`; `pc_set_dev_info`
reads with `strtok`, `atoi`, `sys_str2ip` and `str2hex`.  Each reader is one loop over
the characters, and each statement here is about the text of one printer followed by
anything that the reader stops at.

## Main results

* `strtok_intercalate` — the fields between delimiters are the tokens.
* `atoi_decimal`, `sysStr2ip_sysIp2str`, `macBytes_print` — numbers, addresses and
  MAC addresses come back.
* `sysStr2ip_octets` — an address is read from any spelling of its four groups.
-/

namespace Itertk.Discovery.Text

open Itertk.Base.Memory
open Itertk.Daemon.Config
open Itertk.Discovery.Report

/-! ## Tokens -/

/-- Fields that are not empty and hold no delimiter come back as tokens. -/
theorem strtok_intercalate {delim : UInt8} (ws : List (List UInt8))
    (h : ∀ w, w ∈ ws → w ≠ [] ∧ delim ∉ w) : strtok delim [] ([delim].intercalate ws) = ws := by
  induction ws with
  | nil => rfl
  | cons w ws ih =>
      obtain ⟨hne, hdelim⟩ := h w List.mem_cons_self
      have hrest := ih fun v hv => h v (List.mem_cons_of_mem w hv)
      cases ws with
      | nil =>
          have happend := strtok_append [] hdelim []
          rw [List.append_nil, List.nil_append] at happend
          rw [List.intercalate_singleton, happend, strtok, if_neg hne]
      | cons v vs =>
          rw [List.intercalate_cons_cons, List.append_assoc, strtok_append [] hdelim,
            List.nil_append, List.singleton_append, strtok_delim hne, hrest]

/-- A character is between the fields or in one of them. -/
theorem notMem_intercalate {c delim : UInt8} (hc : c ≠ delim) {ws : List (List UInt8)}
    (h : ∀ w, w ∈ ws → c ∉ w) : c ∉ [delim].intercalate ws := by
  induction ws with
  | nil => exact List.not_mem_nil
  | cons w ws ih =>
      have hw := h w List.mem_cons_self
      have hrest := ih fun v hv => h v (List.mem_cons_of_mem w hv)
      cases ws with
      | nil =>
          rw [List.intercalate_singleton]
          exact hw
      | cons v vs =>
          rw [List.intercalate_cons_cons]
          intro hmem
          rcases List.mem_append.mp hmem with hleft | hright
          · rcases List.mem_append.mp hleft with hword | hdelim
            · exact hw hword
            · exact hc (List.mem_singleton.mp hdelim)
          · exact hrest hright

/-! ## Decimal numbers -/

/-- The text does not go on with a digit. -/
def Ends (rest : List UInt8) : Prop := ∀ c, c ∈ rest.head? → digit c = none

private theorem digit_char {c : Char} (h : c.isDigit = true) :
    digit c.toNat.toUInt8 = some (c.toNat - '0'.toNat) := by
  have hrange : 48 ≤ c.toNat ∧ c.toNat ≤ 57 := by
    rw [Char.isDigit, Bool.and_eq_true, decide_eq_true_iff, decide_eq_true_iff] at h
    exact h
  have hbyte : c.toNat.toUInt8.toNat = c.toNat := Nat.mod_eq_of_lt (by omega)
  have hdigit : 0x30 ≤ c.toNat.toUInt8 ∧ c.toNat.toUInt8 ≤ 0x39 := by
    rw [UInt8.le_iff_toNat_le, UInt8.le_iff_toNat_le, hbyte]
    exact hrange
  rw [digit, if_pos hdigit, hbyte]
  rfl

/-- The digits of a number are added to what there was. -/
theorem digits_chars {l : List Char} (hl : ∀ c, c ∈ l → c.isDigit = true) (n : Nat)
    (rest : List UInt8) : digits n (chars l ++ rest) = digits (Nat.ofDigitChars 10 l n) rest := by
  induction l generalizing n with
  | nil => rw [Nat.ofDigitChars_nil]; rfl
  | cons c l ih =>
      have hc := digit_char (hl c List.mem_cons_self)
      show digits n (c.toNat.toUInt8 :: (chars l ++ rest)) = _
      rw [digits, hc, Nat.ofDigitChars_cons]
      exact ih (fun d hd => hl d (List.mem_cons_of_mem c hd)) _

private theorem digits_end (n : Nat) {rest : List UInt8} (h : Ends rest) : digits n rest = n := by
  cases rest with
  | nil => rfl
  | cons c rest => rw [digits, h c rfl]

/-- A number is printed with digits only. -/
theorem mem_decimal {n : Nat} {b : UInt8} (hb : b ∈ decimal n) :
    ∃ c : Char, c.isDigit = true ∧ c.toNat.toUInt8 = b := by
  obtain ⟨c, hc, rfl⟩ := List.mem_map.mp hb
  exact ⟨c, Nat.isDigit_of_mem_toDigits (by decide) (by decide) hc, rfl⟩

theorem notMem_decimal {b : UInt8} (hb : digit b = none) (n : Nat) : b ∉ decimal n := by
  intro hmem
  obtain ⟨c, hc, rfl⟩ := mem_decimal hmem
  rw [digit_char hc] at hb
  cases hb

theorem decimal_ne_nil (n : Nat) : decimal n ≠ [] := by
  intro h
  exact Nat.toDigits_ne_nil (List.map_eq_nil_iff.mp h)

/-- In front of a digit `atoi` finds neither a blank nor a sign. -/
theorem atoi_of_digit {b : UInt8} {t : Nat} (h : digit b = some t) (s : List UInt8) :
    atoi (b :: s) = digits 0 (b :: s) := by
  have hspace : isSpace b = false := by
    have hrange : 0x30 ≤ b ∧ b ≤ 0x39 := by
      refine Decidable.byContradiction fun hnot => ?_
      rw [digit, if_neg hnot] at h
      cases h
    rw [UInt8.le_iff_toNat_le, UInt8.le_iff_toNat_le] at hrange
    rw [isSpace, decide_eq_false_iff_not, ← UInt8.toNat_inj, UInt8.le_iff_toNat_le,
      UInt8.le_iff_toNat_le]
    intro hor
    have hlow : 0x30 ≤ b.toNat := hrange.1
    rcases hor with hblank | ⟨_, hcontrol⟩
    · have heq : b.toNat = 0x20 := hblank
      omega
    · have hle : b.toNat ≤ 0x0d := hcontrol
      omega
  have hsign : ∀ c : UInt8, digit c = none → b ≠ c := by
    rintro c hc rfl
    rw [hc] at h
    cases h
  rw [atoi, List.dropWhile_cons_of_neg (by rw [hspace]; decide)]
  split
  · rename_i heq
    exact absurd (List.cons.inj heq).1 (hsign 0x2d (by decide))
  · rename_i heq
    exact absurd (List.cons.inj heq).1 (hsign 0x2b (by decide))
  · rfl

/-- A group of digits is added as a whole. -/
theorem digits_group {g : List UInt8} (hg : ∀ c ∈ g, digit c ≠ none) (n : Nat)
    (rest : List UInt8) : digits n (g ++ rest) = digits (digits n g) rest := by
  induction g generalizing n with
  | nil => rfl
  | cons c g ih =>
      obtain ⟨t, ht⟩ := Option.ne_none_iff_exists'.mp (hg c List.mem_cons_self)
      rw [List.cons_append, digits, digits, ht]
      exact ih (fun x hx => hg x (List.mem_cons_of_mem c hx)) _

/-- The value of a group of digits is read, whatever follows the group. -/
theorem atoi_group {g : List UInt8} (hne : g ≠ []) (hg : ∀ c ∈ g, digit c ≠ none)
    {rest : List UInt8} (h : Ends rest) : atoi (g ++ rest) = digits 0 g := by
  have hdigits := digits_group hg 0 rest
  rw [digits_end _ h] at hdigits
  cases g with
  | nil => exact absurd rfl hne
  | cons c g =>
      obtain ⟨t, ht⟩ := Option.ne_none_iff_exists'.mp (hg c List.mem_cons_self)
      rw [List.cons_append, atoi_of_digit ht, ← List.cons_append, hdigits]

theorem decimal_digits_only (n : Nat) : ∀ c ∈ decimal n, digit c ≠ none :=
  fun _ hmem hc => notMem_decimal hc n hmem

theorem digits_decimal (n : Nat) : digits 0 (decimal n) = n := by
  have hdigits := digits_chars (l := Nat.toDigits 10 n)
    (fun c hc => Nat.isDigit_of_mem_toDigits (by decide) (by decide) hc) 0 []
  rw [List.append_nil, digits, Nat.ofDigitChars_ten_toDigits] at hdigits
  exact hdigits

/-- A number that is printed is read back, whatever follows it. -/
theorem atoi_decimal (n : Nat) {rest : List UInt8} (h : Ends rest) :
    atoi (decimal n ++ rest) = n := by
  rw [atoi_group (decimal_ne_nil n) (decimal_digits_only n) h, digits_decimal]

/-! ## Addresses -/

/-- One group of an address in dots, with any number of leading zeros. -/
structure Octet (g : List UInt8) : Prop where
  ne_nil : g ≠ []
  digits_only : ∀ c ∈ g, digit c ≠ none
  le : digits 0 g ≤ 255

theorem Octet.dot_notMem {g : List UInt8} (h : Octet g) : dot ∉ g :=
  fun hmem => h.digits_only dot hmem (by decide)

/-- A byte is printed as a group. -/
theorem octet_decimal (b : UInt8) : Octet (decimal b.toNat) where
  ne_nil := decimal_ne_nil _
  digits_only := decimal_digits_only _
  le := by
    have hb := b.toNat_lt
    rw [digits_decimal]
    omega

private theorem ends_dot (rest : List UInt8) : Ends (dot :: rest) := by
  intro c hc
  rw [← Option.mem_some_iff.mp hc]
  decide

theorem ends_nil : Ends [] := by
  intro c hc
  cases hc

theorem uint8_ofInt_toNat (b : UInt8) : UInt8.ofInt b.toNat = b := by
  have hb := b.toNat_lt
  rw [← UInt8.toNat_inj, UInt8.ofInt]
  show ((b.toNat : Int) % 2 ^ 8).toNat % 256 = b.toNat
  omega

theorem uint16_ofInt_toNat (x : UInt16) : UInt16.ofInt x.toNat = x := by
  have hx := x.toNat_lt
  rw [← UInt16.toNat_inj, UInt16.ofInt]
  show ((x.toNat : Int) % 2 ^ 16).toNat % 65536 = x.toNat
  omega

theorem uint8_ofInt_natCast {n : Nat} (h : n ≤ 255) : (UInt8.ofInt n).toNat = n := by
  rw [UInt8.ofInt]
  show ((n : Int) % 2 ^ 8).toNat % 256 = n
  omega

/-- A group is one part of an address. -/
theorem ipPart_octet (j : Nat) {g rest : List UInt8} (hg : Octet g) (h : Ends rest) :
    ipPart j (g ++ rest) = UInt32.ofNat (digits 0 g <<< (j * 8)) := by
  rw [ipPart, atoi_group hg.ne_nil hg.digits_only h, uint8_ofInt_natCast hg.le]

/-- The loop passes over a number. -/
theorem ipParts_skip (j : Nat) (ip : UInt32) {w : List UInt8} (h : dot ∉ w) (s : List UInt8) :
    ipParts j ip (w ++ s) = ipParts j ip s := by
  induction w with
  | nil => rfl
  | cons c w ih =>
      have hc : c ≠ dot := fun heq => h (heq ▸ List.mem_cons_self)
      rw [List.cons_append, ipParts, if_neg hc]
      exact ih fun hmem => h (List.mem_cons_of_mem c hmem)

/-- A dot and a group add one part. -/
theorem ipParts_dot (j : Nat) (ip : UInt32) {g rest : List UInt8} (hg : Octet g)
    (h : Ends rest) :
    ipParts j ip (dot :: (g ++ rest)) =
      ipParts (j + 1) (ip + UInt32.ofNat (digits 0 g <<< (j * 8))) rest := by
  rw [ipParts, if_pos rfl, ipPart_octet j hg h, ipParts_skip _ _ hg.dot_notMem]

/-- Four groups between dots are read as the word of their values. -/
theorem sysStr2ip_octets {g₀ g₁ g₂ g₃ : List UInt8} (h₀ : Octet g₀) (h₁ : Octet g₁)
    (h₂ : Octet g₂) (h₃ : Octet g₃) :
    sysStr2ip ([dot].intercalate [g₀, g₁, g₂, g₃]) =
      word32 (UInt8.ofNat (digits 0 g₀)) (UInt8.ofNat (digits 0 g₁)) (UInt8.ofNat (digits 0 g₂))
        (UInt8.ofNat (digits 0 g₃)) := by
  have htext : [dot].intercalate [g₀, g₁, g₂, g₃] =
      g₀ ++ dot :: (g₁ ++ dot :: (g₂ ++ dot :: (g₃ ++ []))) := by
    simp [List.intercalate_cons_cons, List.intercalate_singleton]
  have hle₀ := h₀.le
  have hle₁ := h₁.le
  have hle₂ := h₂.le
  have hle₃ := h₃.le
  rw [htext, sysStr2ip, ipPart_octet 0 h₀ (ends_dot _), ipParts_skip _ _ h₀.dot_notMem,
    ipParts_dot _ _ h₁ (ends_dot _), ipParts_dot _ _ h₂ (ends_dot _), ipParts_dot _ _ h₃ ends_nil,
    ipParts, ← UInt32.toNat_inj, word32_toNat]
  simp only [UInt32.toNat_add, UInt32.toNat_ofNat', UInt8.toNat_ofNat', Nat.shiftLeft_eq]
  omega

/-- An address is printed as its four bytes between dots. -/
theorem sysIp2str_word32 (a b c d : UInt8) :
    sysIp2str (word32 a b c d) =
      [dot].intercalate [decimal a.toNat, decimal b.toNat, decimal c.toNat, decimal d.toNat] := by
  rw [sysIp2str, le32_word32]
  rfl

/-- An address that is printed is read back. -/
theorem sysStr2ip_sysIp2str (ip : UInt32) : sysStr2ip (sysIp2str ip) = ip := by
  rw [sysIp2str, le32, List.map_cons, List.map_cons, List.map_cons, List.map_cons, List.map_nil,
    sysStr2ip_octets (octet_decimal _) (octet_decimal _) (octet_decimal _) (octet_decimal _)]
  simp only [digits_decimal, UInt8.ofNat_toNat]
  exact word32_le32 ip

theorem sysIp2str_ne_nil (ip : UInt32) : sysIp2str ip ≠ [] := by
  rw [sysIp2str, le32, List.map_cons, List.map_cons, List.intercalate_cons_cons,
    List.append_assoc]
  intro h
  exact decimal_ne_nil _ (List.append_eq_nil_iff.mp h).1

/-- An address is printed with digits and dots only. -/
theorem notMem_sysIp2str {b : UInt8} (hb : digit b = none) (hdot : b ≠ dot) (ip : UInt32) :
    b ∉ sysIp2str ip := by
  refine notMem_intercalate hdot fun w hw => ?_
  obtain ⟨c, _, rfl⟩ := List.mem_map.mp hw
  exact notMem_decimal hb _

/-! ## MAC addresses -/

private theorem hexDigit_digitChar {n : Nat} (h : n < 16) :
    hexDigit (Nat.digitChar n).toNat.toUInt8 = some n := by
  have hall : ∀ k : Fin 16, hexDigit (Nat.digitChar k.val).toNat.toUInt8 = some k.val := by decide
  exact hall ⟨n, h⟩

/-- A byte that is printed is read back. -/
theorem str2hex_hexByte (b : UInt8) : str2hex (some (hexByte b)) = b.toNat := by
  have hb := b.toNat_lt
  show hexDigits 0 [(Nat.digitChar (b.toNat / 16)).toNat.toUInt8,
    (Nat.digitChar (b.toNat % 16)).toNat.toUInt8] = _
  rw [hexDigits, hexDigit_digitChar (by omega)]
  show hexDigits (0 * 16 + (b.toNat / 16 : Nat)) [(Nat.digitChar (b.toNat % 16)).toNat.toUInt8] = _
  rw [hexDigits, hexDigit_digitChar (by omega)]
  show (0 * 16 + (b.toNat / 16 : Nat)) * 16 + ((b.toNat % 16 : Nat) : Int) = _
  omega

/-- A byte is printed with hexadecimal digits only. -/
theorem notMem_hexByte {c : UInt8} (hc : hexDigit c = none) (b : UInt8) : c ∉ hexByte b := by
  have hb := b.toNat_lt
  have hdigit : ∀ n, n < 16 → c ≠ (Nat.digitChar n).toNat.toUInt8 := by
    rintro n hn rfl
    rw [hexDigit_digitChar hn] at hc
    cases hc
  intro hmem
  obtain ⟨d, hd, rfl⟩ := List.mem_map.mp hmem
  rcases List.mem_cons.mp hd with rfl | hd
  · exact hdigit _ (by omega) rfl
  · rw [List.mem_singleton.mp hd] at hdigit
    exact hdigit _ (by omega) rfl

/-- Bytes that are printed between colons are read back. -/
theorem macBytes_print {bs : List UInt8} (h : bs ≠ []) :
    macBytes ([colon].intercalate (bs.map hexByte)) = bs := by
  have htok : strtok colon [] ([colon].intercalate (bs.map hexByte)) = bs.map hexByte := by
    refine strtok_intercalate _ fun w hw => ?_
    obtain ⟨b, _, rfl⟩ := List.mem_map.mp hw
    exact ⟨List.cons_ne_nil _ _, notMem_hexByte (by decide) b⟩
  have hread : (bs.map hexByte).map (fun q => UInt8.ofInt (str2hex (some q))) = bs := by
    rw [List.map_map]
    refine (List.map_congr_left fun b _ => ?_).trans (List.map_id bs)
    rw [Function.comp_apply, str2hex_hexByte, uint8_ofInt_toNat, id]
  rw [macBytes, htok]
  cases bs with
  | nil => exact absurd rfl h
  | cons b bs => exact hread

end Itertk.Discovery.Text
