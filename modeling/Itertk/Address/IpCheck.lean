import Itertk.Base.Groups
import Itertk.Discovery.Text

/-!
# Dotted quads

`ip_check` counts: the digits of the text and of the current group, the dots, and the value
of the group.  It returns `TRUE` for the dotted quads only.  For other texts it returns
`FALSE`, except for some with two dots in a row, for which it returns -1.

The daemon and two of the CGI programs have the same text.  None of them passes a null
pointer.

## Main results

* `ipCheck_iff` — `TRUE` is returned for the dotted quads.
* `ipCheck_slips_iff` — the texts for which -1 is returned.
-/

namespace Itertk.Address.IpCheck

open Itertk.Base.Groups
open Itertk.Discovery.Report
open Itertk.Discovery.Text

/-! ## The scan -/

/-- The locals of `ip_check`, but for `result`, which is not used. -/
structure Scan where
  d : Nat
  dotNum : Nat
  dNum : Nat
  charExit : Nat

/-- The loop; the end of the list is the terminator. -/
def ipCheckLoop (v : Scan) : List UInt8 → Int
  | [] => if v.dotNum ≠ 3 ∨ v.charExit = 0 then 0 else 1
  | c :: s =>
      match digit c with
      | some t =>
          if 10 * v.d + t > 255 then 0
          else ipCheckLoop ⟨10 * v.d + t, v.dotNum, v.dNum + 1, v.charExit + 1⟩ s
      | none =>
          if c = dot then
            if v.dotNum + 1 > v.dNum then 0
            else if v.charExit = 0 then -1
            else ipCheckLoop ⟨0, v.dotNum + 1, v.dNum, 0⟩ s
          else 0

/-- `ip_check`; `TRUE` is 1, `FALSE` is 0. -/
def ipCheck (ip : List UInt8) : Int := ipCheckLoop ⟨0, 0, 0, 0⟩ ip

/-! ## The grammar -/

/-- Four groups between dots. -/
def DottedQuad (s : List UInt8) : Prop :=
  ∃ gs : List (List UInt8), gs.length = 4 ∧ (∀ g ∈ gs, Octet g) ∧ s = [dot].intercalate gs

/-- Groups with a dot behind each, and one more dot; the digits are at least as many as the
dots up to here. -/
def DoubleDot (s : List UInt8) : Prop :=
  ∃ (gs : List (List UInt8)) (rest : List UInt8), (∀ g ∈ gs, Octet g) ∧
    gs.length + 1 ≤ gs.flatten.length ∧ s = gs.flatMap (· ++ [dot]) ++ dot :: rest

/-! ## One group -/

variable {d k n e : Nat}

/-- Digits can only make the value larger. -/
theorem le_digits (g : List UInt8) (n : Nat) : n ≤ digits n g := by
  induction g generalizing n with
  | nil => exact Nat.le_refl n
  | cons c g ih =>
      rw [digits]
      cases digit c with
      | none => exact Nat.le_refl n
      | some t =>
          have hrest := ih (10 * n + t)
          dsimp only
          omega

/-- A group of digits is added to the value and counted, if the value stays small. -/
theorem ipCheckLoop_group {g : List UInt8} (hg : ∀ c ∈ g, digit c ≠ none)
    (hle : digits d g ≤ 255) (rest : List UInt8) :
    ipCheckLoop ⟨d, k, n, e⟩ (g ++ rest) =
      ipCheckLoop ⟨digits d g, k, n + g.length, e + g.length⟩ rest := by
  induction g generalizing d n e with
  | nil => rfl
  | cons c g ih =>
      obtain ⟨t, ht⟩ := Option.ne_none_iff_exists'.mp (hg c List.mem_cons_self)
      rw [digits, ht] at hle
      have hsmall := Nat.le_trans (le_digits g (10 * d + t)) hle
      rw [List.cons_append, ipCheckLoop, ht]
      dsimp only
      rw [if_neg (by omega), ih (fun x hx => hg x (List.mem_cons_of_mem c hx)) hle, digits, ht,
        List.length_cons, Nat.add_right_comm n, Nat.add_right_comm e, Nat.add_assoc n,
        Nat.add_assoc e]

/-- A group with another character, or with too large a value, is refused. -/
theorem ipCheckLoop_bad {g : List UInt8} (hdot : dot ∉ g) (hd : d ≤ 255)
    (hbad : ¬((∀ c ∈ g, digit c ≠ none) ∧ digits d g ≤ 255)) (rest : List UInt8) :
    ipCheckLoop ⟨d, k, n, e⟩ (g ++ rest) = 0 := by
  induction g generalizing d n e with
  | nil => exact absurd ⟨fun c hc => absurd hc List.not_mem_nil, hd⟩ hbad
  | cons c g ih =>
      have hc : c ≠ dot := fun heq => hdot (heq ▸ List.mem_cons_self)
      rw [List.cons_append, ipCheckLoop]
      cases ht : digit c with
      | none => exact if_neg hc
      | some t =>
          dsimp only
          by_cases hsmall : 10 * d + t > 255
          · exact if_pos hsmall
          · rw [if_neg hsmall]
            refine ih (fun hmem => hdot (List.mem_cons_of_mem c hmem)) (by omega) fun hgood => ?_
            refine hbad ⟨fun x hx => ?_, ?_⟩
            · rcases List.mem_cons.mp hx with rfl | hx
              · rw [ht]
                exact Option.some_ne_none t
              · exact hgood.1 x hx
            · rw [digits, ht]
              exact hgood.2

/-- A dot behind a group of digits. -/
theorem ipCheckLoop_dot (v : Scan) (s : List UInt8) :
    ipCheckLoop v (dot :: s) =
      if v.dotNum + 1 > v.dNum then 0
      else if v.charExit = 0 then -1
      else ipCheckLoop ⟨0, v.dotNum + 1, v.dNum, 0⟩ s := by
  have hdigit : digit dot = none := by decide
  rw [ipCheckLoop, hdigit]
  exact if_pos rfl

/-- An octet and the dot behind it are passed. -/
theorem ipCheckLoop_octet {g : List UInt8} (hg : Octet g) (hk : k ≤ n) (rest : List UInt8) :
    ipCheckLoop ⟨0, k, n, 0⟩ (g ++ dot :: rest) = ipCheckLoop ⟨0, k + 1, n + g.length, 0⟩ rest := by
  have hpos := List.length_pos_iff.mpr hg.ne_nil
  rw [ipCheckLoop_group hg.digits_only hg.le, ipCheckLoop_dot]
  exact (if_neg (by dsimp only; omega)).trans (if_neg (by dsimp only; omega))

/-- A group that is not empty and no octet is refused. -/
theorem ipCheckLoop_noOctet {g : List UInt8} (hdot : dot ∉ g) (hne : g ≠ []) (hg : ¬Octet g)
    (rest : List UInt8) : ipCheckLoop ⟨0, k, n, e⟩ (g ++ rest) = 0 :=
  ipCheckLoop_bad hdot (Nat.zero_le _) (fun hgood => hg ⟨hne, hgood.1, hgood.2⟩) rest

/-- What becomes of a group with a dot behind it. -/
theorem ipCheckLoop_first {g : List UInt8} (hdot : dot ∉ g) (hk : k ≤ n) (rest : List UInt8) :
    Octet g ∧ ipCheckLoop ⟨0, k, n, 0⟩ (g ++ dot :: rest) =
        ipCheckLoop ⟨0, k + 1, n + g.length, 0⟩ rest ∨
      (g = [] ∧ k + 1 ≤ n) ∧ ipCheckLoop ⟨0, k, n, 0⟩ (g ++ dot :: rest) = -1 ∨
        ¬Octet g ∧ ipCheckLoop ⟨0, k, n, 0⟩ (g ++ dot :: rest) = 0 := by
  by_cases hne : g = []
  · subst hne
    rw [List.nil_append, ipCheckLoop_dot]
    by_cases hmany : k + 1 > n
    · exact Or.inr (Or.inr ⟨fun hg => hg.ne_nil rfl, if_pos hmany⟩)
    · exact Or.inr (Or.inl ⟨⟨rfl, Nat.not_lt.mp hmany⟩, (if_neg hmany).trans (if_pos rfl)⟩)
  · by_cases hg : Octet g
    · exact Or.inl ⟨hg, ipCheckLoop_octet hg hk rest⟩
    · exact Or.inr (Or.inr ⟨hg, ipCheckLoop_noOctet hdot hne hg _⟩)

/-- What becomes of the last group. -/
theorem ipCheckLoop_last {g : List UInt8} (hdot : dot ∉ g) :
    Octet g ∧ ipCheckLoop ⟨0, k, n, 0⟩ g = (if k = 3 then 1 else 0) ∨
      ¬Octet g ∧ ipCheckLoop ⟨0, k, n, 0⟩ g = 0 := by
  by_cases hg : Octet g
  · have hpos := List.length_pos_iff.mpr hg.ne_nil
    have hend := ipCheckLoop_group (k := k) (n := n) (e := 0) hg.digits_only hg.le []
    rw [List.append_nil, ipCheckLoop] at hend
    refine Or.inl ⟨hg, hend.trans ?_⟩
    dsimp only
    by_cases hk : k = 3
    · rw [if_pos hk, if_neg (by omega)]
    · rw [if_neg hk, if_pos (by omega)]
  · refine Or.inr ⟨hg, ?_⟩
    by_cases hne : g = []
    · rw [hne, ipCheckLoop]
      exact if_pos (Or.inr rfl)
    · rw [← List.append_nil g]
      exact ipCheckLoop_noOctet hdot hne hg []

/-! ## Dotted quads -/

/-- From the start of a group on, with as many digits behind it as dots: the text is
accepted exactly when all its groups are octets and bring the dots to three. -/
theorem ipCheckLoop_groups {g : List UInt8} {gs : List (List UInt8)}
    (hdot : ∀ w ∈ g :: gs, dot ∉ w) (hk : k ≤ n) :
    ipCheckLoop ⟨0, k, n, 0⟩ ([dot].intercalate (g :: gs)) = 1 ↔
      k + gs.length = 3 ∧ ∀ w ∈ g :: gs, Octet w := by
  induction gs generalizing g k n with
  | nil =>
      rw [List.intercalate_singleton, List.forall_mem_singleton]
      rcases ipCheckLoop_last (k := k) (n := n) (hdot g List.mem_cons_self) with
        ⟨hoct, heq⟩ | ⟨hoct, heq⟩
      · rw [heq]
        by_cases hthree : k = 3
        · rw [if_pos hthree]
          exact iff_of_true rfl ⟨hthree, hoct⟩
        · rw [if_neg hthree]
          exact iff_of_false (by decide) fun h => hthree h.1
      · rw [heq]
        exact iff_of_false (by decide) fun h => hoct h.2
  | cons g' gs ih =>
      have hdot' : ∀ w ∈ g' :: gs, dot ∉ w := fun w hw => hdot w (List.mem_cons_of_mem g hw)
      rw [List.intercalate_cons_cons, List.append_assoc, List.singleton_append,
        List.forall_mem_cons]
      rcases ipCheckLoop_first (hdot g List.mem_cons_self) hk ([dot].intercalate (g' :: gs)) with
        ⟨hoct, heq⟩ | ⟨hempty, heq⟩ | ⟨hoct, heq⟩
      · have hpos := List.length_pos_iff.mpr hoct.ne_nil
        rw [heq, ih hdot' (by omega), List.length_cons, and_iff_right hoct, Nat.add_right_comm,
          Nat.add_assoc]
      · rw [heq]
        exact iff_of_false (by decide) fun h => h.2.1.ne_nil hempty.1
      · rw [heq]
        exact iff_of_false (by decide) fun h => hoct h.2.1

theorem DottedQuad.ipCheck_eq {s : List UInt8} (h : DottedQuad s) : ipCheck s = 1 := by
  obtain ⟨gs, hlen, hall, rfl⟩ := h
  cases gs with
  | nil => cases hlen
  | cons g gs =>
      rw [List.length_cons] at hlen
      rw [ipCheck, ipCheckLoop_groups (fun w hw => (hall w hw).dot_notMem) (Nat.le_refl 0)]
      exact ⟨by omega, hall⟩

theorem dottedQuad_of_ipCheck {s : List UInt8} (h : ipCheck s = 1) : DottedQuad s := by
  obtain ⟨g, gs, hdot, rfl⟩ := exists_groups dot s
  rw [ipCheck, ipCheckLoop_groups hdot (Nat.le_refl 0), Nat.zero_add] at h
  exact ⟨g :: gs, by rw [List.length_cons, h.1], h.2, rfl⟩

/-- `ip_check` accepts the dotted quads and nothing else. -/
theorem ipCheck_iff (s : List UInt8) : ipCheck s = 1 ↔ DottedQuad s :=
  ⟨dottedQuad_of_ipCheck, DottedQuad.ipCheck_eq⟩

/-! ## The third result -/

/-- Groups with a dot behind each are passed. -/
theorem ipCheckLoop_flatMap {gs : List (List UInt8)} (hgs : ∀ g ∈ gs, Octet g) (hk : k ≤ n)
    (rest : List UInt8) :
    ipCheckLoop ⟨0, k, n, 0⟩ (gs.flatMap (· ++ [dot]) ++ rest) =
      ipCheckLoop ⟨0, k + gs.length, n + gs.flatten.length, 0⟩ rest := by
  induction gs generalizing k n with
  | nil => rfl
  | cons g gs ih =>
      have hg := hgs g List.mem_cons_self
      have hpos := List.length_pos_iff.mpr hg.ne_nil
      rw [List.flatMap_cons, List.append_assoc, List.append_assoc, List.singleton_append,
        ipCheckLoop_octet hg hk, ih (fun w hw => hgs w (List.mem_cons_of_mem g hw)) (by omega),
        List.length_cons, List.flatten_cons, List.length_append, Nat.add_assoc n,
        Nat.add_right_comm, Nat.add_assoc]

/-- The scan leaves with -1 at a second dot only. -/
theorem ipCheckLoop_slips {g : List UInt8} {gs : List (List UInt8)} (hdot : ∀ w ∈ g :: gs, dot ∉ w)
    (hk : k ≤ n) (h : ipCheckLoop ⟨0, k, n, 0⟩ ([dot].intercalate (g :: gs)) = -1) :
    ∃ (ps : List (List UInt8)) (rest : List UInt8), (∀ w ∈ ps, Octet w) ∧
      k + ps.length + 1 ≤ n + ps.flatten.length ∧
      [dot].intercalate (g :: gs) = ps.flatMap (· ++ [dot]) ++ dot :: rest := by
  induction gs generalizing g k n with
  | nil =>
      rw [List.intercalate_singleton] at h
      rcases ipCheckLoop_last (k := k) (n := n) (hdot g List.mem_cons_self) with ⟨-, heq⟩ | ⟨-, heq⟩
      · rw [heq] at h
        split at h <;> cases h
      · rw [heq] at h
        cases h
  | cons g' gs ih =>
      have hdot' : ∀ w ∈ g' :: gs, dot ∉ w := fun w hw => hdot w (List.mem_cons_of_mem g hw)
      rw [List.intercalate_cons_cons, List.append_assoc, List.singleton_append] at h ⊢
      rcases ipCheckLoop_first (hdot g List.mem_cons_self) hk ([dot].intercalate (g' :: gs)) with
        ⟨hoct, heq⟩ | ⟨⟨rfl, hle⟩, -⟩ | ⟨-, heq⟩
      · have hpos := List.length_pos_iff.mpr hoct.ne_nil
        rw [heq] at h
        obtain ⟨ps, rest, hall, hle, hps⟩ := ih hdot' (by omega) h
        refine ⟨g :: ps, rest, List.forall_mem_cons.mpr ⟨hoct, hall⟩, ?_, ?_⟩
        · rw [List.length_cons, List.flatten_cons, List.length_append]
          omega
        · rw [hps, List.flatMap_cons, List.append_assoc, List.append_assoc, List.singleton_append]
      · exact ⟨[], _, fun w hw => absurd hw List.not_mem_nil, hle, rfl⟩
      · rw [heq] at h
        cases h

/-- `ip_check` returns -1 for two dots in a row behind enough digits. -/
theorem ipCheck_slips_iff (s : List UInt8) : ipCheck s = -1 ↔ DoubleDot s := by
  constructor
  · intro h
    obtain ⟨g, gs, hdot, rfl⟩ := exists_groups dot s
    obtain ⟨ps, rest, hall, hle, heq⟩ := ipCheckLoop_slips hdot (Nat.le_refl 0) h
    rw [Nat.zero_add, Nat.zero_add] at hle
    exact ⟨ps, rest, hall, hle, heq⟩
  · rintro ⟨gs, rest, hall, hle, rfl⟩
    rw [ipCheck, ipCheckLoop_flatMap hall (Nat.le_refl 0), ipCheckLoop_dot]
    exact (if_neg (by dsimp only; omega)).trans (if_pos rfl)

private theorem ipCheckLoop_cases (v : Scan) (s : List UInt8) :
    ipCheckLoop v s = 0 ∨ ipCheckLoop v s = 1 ∨ ipCheckLoop v s = -1 := by
  induction s generalizing v with
  | nil =>
      rw [ipCheckLoop]
      split
      · exact Or.inl rfl
      · exact Or.inr (Or.inl rfl)
  | cons c s ih =>
      rw [ipCheckLoop]
      split
      · split
        · exact Or.inl rfl
        · exact ih _
      · split
        · split
          · exact Or.inl rfl
          · split
            · exact Or.inr (Or.inr rfl)
            · exact ih _
        · exact Or.inl rfl

/-- A caller that compares with `FALSE` lets both through. -/
theorem ipCheck_ne_zero_iff (s : List UInt8) : ipCheck s ≠ 0 ↔ DottedQuad s ∨ DoubleDot s := by
  constructor
  · intro h
    rcases ipCheckLoop_cases ⟨0, 0, 0, 0⟩ s with hzero | hone | hslip
    · exact absurd hzero h
    · exact Or.inl (dottedQuad_of_ipCheck hone)
    · exact Or.inr ((ipCheck_slips_iff s).mp hslip)
  · rintro (h | h)
    · rw [h.ipCheck_eq]
      decide
    · rw [(ipCheck_slips_iff s).mpr h]
      decide

/-- No text is both. -/
theorem DoubleDot.not_dottedQuad {s : List UInt8} (h : DoubleDot s) : ¬DottedQuad s := by
  intro hquad
  have hone := hquad.ipCheck_eq
  rw [(ipCheck_slips_iff s).mpr h] at hone
  cases hone

end Itertk.Address.IpCheck
