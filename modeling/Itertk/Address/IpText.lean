import Itertk.Address.IpCheck

/-!
# Addresses and their texts

`sys_str2ip` runs `atoi` at the start of the text and behind each dot.  For a text that
`ip_check` accepts these are the four groups, whatever leading zeros they have, and the
printer gives the groups back without them.

`sys_ip2str` prints the same text as `sys_ip2str_static` into the buffer of its caller.

## Main results

* `sysStr2ip_ipCheck` — the two conversions undo each other, up to leading zeros.
-/

namespace Itertk.Address.IpText

open Itertk.Base.Memory
open Itertk.Daemon.Config
open Itertk.Discovery.Report
open Itertk.Discovery.Text
open Itertk.Address.IpCheck

/-! ## Leading zeros -/

def zeroDigit : UInt8 := 0x30

/-- A group without its leading zeros; of zeros alone one stays. -/
def unpadded (g : List UInt8) : List UInt8 :=
  match g.dropWhile (· = zeroDigit) with
  | [] => [zeroDigit]
  | c :: w => c :: w

private theorem digit_cases {c : UInt8} {t : Nat} (h : digit c = some t) :
    t < 10 ∧ c = UInt8.ofNat (48 + t) := by
  by_cases hrange : 0x30 ≤ c ∧ c ≤ 0x39
  · rw [digit, if_pos hrange] at h
    have hlow : 48 ≤ c.toNat := UInt8.le_iff_toNat_le.mp hrange.1
    have hhigh : c.toNat ≤ 57 := UInt8.le_iff_toNat_le.mp hrange.2
    have ht : c.toNat - 48 = t := Option.some.inj h
    refine ⟨by omega, UInt8.toNat_inj.mp ?_⟩
    rw [UInt8.toNat_ofNat']
    omega
  · rw [digit, if_neg hrange] at h
    cases h

/-- The character of a digit is what the digit is printed as. -/
theorem decimal_digit {c : UInt8} {t : Nat} (h : digit c = some t) : decimal t = [c] := by
  obtain ⟨ht, rfl⟩ := digit_cases h
  have hall : ∀ k : Fin 10, decimal k.val = [UInt8.ofNat (48 + k.val)] := by decide
  exact hall ⟨t, ht⟩

/-- A digit behind a number that is not zero is printed behind it. -/
theorem decimal_append {n t : Nat} (hn : 0 < n) (ht : t < 10) :
    decimal (10 * n + t) = decimal n ++ decimal t := by
  rw [decimal, ← Nat.toDigits_append_toDigits (by decide) hn ht]
  exact List.map_append

/-- Behind a number that is not zero a group is printed as it is. -/
theorem decimal_digits {g : List UInt8} (hg : ∀ c ∈ g, digit c ≠ none) {n : Nat} (hn : 0 < n) :
    decimal (digits n g) = decimal n ++ g := by
  induction g generalizing n with
  | nil => rw [digits, List.append_nil]
  | cons c g ih =>
      obtain ⟨t, ht⟩ := Option.ne_none_iff_exists'.mp (hg c List.mem_cons_self)
      have hsmall := (digit_cases ht).1
      rw [digits, ht]
      dsimp only
      rw [ih (fun x hx => hg x (List.mem_cons_of_mem c hx)) (by omega), decimal_append hn hsmall,
        decimal_digit ht, List.append_assoc, List.singleton_append]

/-- The value of a group is printed as the group without leading zeros. -/
theorem decimal_unpadded {g : List UInt8} (hg : ∀ c ∈ g, digit c ≠ none) :
    decimal (digits 0 g) = unpadded g := by
  induction g with
  | nil => decide
  | cons c g ih =>
      have htail : ∀ x ∈ g, digit x ≠ none := fun x hx => hg x (List.mem_cons_of_mem c hx)
      by_cases hc : c = zeroDigit
      · have hzero : digit zeroDigit = some 0 := by decide
        rw [hc, digits, hzero, unpadded, List.dropWhile_cons_of_pos (by decide)]
        exact ih htail
      · obtain ⟨t, ht⟩ := Option.ne_none_iff_exists'.mp (hg c List.mem_cons_self)
        have hpos : 0 < t := by
          rw [Nat.pos_iff_ne_zero]
          rintro rfl
          exact hc (digit_cases ht).2
        rw [digits, ht, unpadded, List.dropWhile_cons_of_neg (by simpa using hc)]
        dsimp only
        rw [Nat.mul_zero, Nat.zero_add, decimal_digits htail hpos, decimal_digit ht,
          List.singleton_append]

/-! ## The two conversions -/

/-- What is read from a dotted quad, and what that is printed as. -/
theorem sysStr2ip_quad {gs : List (List UInt8)} (hlen : gs.length = 4) (hgs : ∀ g ∈ gs, Octet g) :
    (le32 (sysStr2ip ([dot].intercalate gs))).map UInt8.toNat = gs.map (digits 0) ∧
      sysIp2str (sysStr2ip ([dot].intercalate gs)) = [dot].intercalate (gs.map unpadded) := by
  match gs, hlen with
  | [g₀, g₁, g₂, g₃], _ =>
    have hprint : ∀ g, Octet g → decimal (UInt8.ofNat (digits 0 g)).toNat = unpadded g := by
      intro g hg
      rw [UInt8.toNat_ofNat_of_lt' (Nat.lt_succ_of_le hg.le), decimal_unpadded hg.digits_only]
    have hvalue : ∀ g, Octet g → (UInt8.ofNat (digits 0 g)).toNat = digits 0 g := fun g hg =>
      UInt8.toNat_ofNat_of_lt' (Nat.lt_succ_of_le hg.le)
    have h₀ := hgs g₀ (by simp)
    have h₁ := hgs g₁ (by simp)
    have h₂ := hgs g₂ (by simp)
    have h₃ := hgs g₃ (by simp)
    rw [sysStr2ip_octets h₀ h₁ h₂ h₃]
    constructor
    · rw [le32_word32]
      simp only [List.map_cons, List.map_nil, hvalue _ h₀, hvalue _ h₁, hvalue _ h₂, hvalue _ h₃]
    · rw [sysIp2str_word32, hprint _ h₀, hprint _ h₁, hprint _ h₂, hprint _ h₃]
      rfl

/-- Every address is read back from its text, and a text that `ip_check` accepts is read
as the address with the values of its groups and printed back without leading zeros. -/
theorem sysStr2ip_ipCheck :
    (∀ ip, sysStr2ip (sysIp2str ip) = ip) ∧
      ∀ s, ipCheck s = 1 → ∃ gs : List (List UInt8),
        gs.length = 4 ∧ (∀ g ∈ gs, Octet g) ∧ s = [dot].intercalate gs ∧
          (le32 (sysStr2ip s)).map UInt8.toNat = gs.map (digits 0) ∧
            sysIp2str (sysStr2ip s) = [dot].intercalate (gs.map unpadded) := by
  refine ⟨sysStr2ip_sysIp2str, fun s h => ?_⟩
  obtain ⟨gs, hlen, hgs, rfl⟩ := dottedQuad_of_ipCheck h
  have hquad := sysStr2ip_quad hlen hgs
  exact ⟨gs, hlen, hgs, rfl, hquad.1, hquad.2⟩

end Itertk.Address.IpText
