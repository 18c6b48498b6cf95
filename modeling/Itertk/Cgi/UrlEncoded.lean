import Itertk.Cgi.NetForm
import Mathlib.Data.List.TakeWhile
import Mathlib.Tactic.SplitIfs

/-!
# The fields of a form as they are sent

A form arrives as `name=value` pairs between `&`, from the query string of a `GET` or
from the body of a `POST`.  In a name and in a value `+` stands for a space and `%` with
two hexadecimal digits for any byte; what else a browser escapes is its own choice, and so
is the case of the digits.

Characters are unsigned on the target: every byte is an index of `cgiHexValue`.

## Main results

* `cgiUnescapeChars_escaped` — every escaped form of a text is read back.
* `cgiParseFormInput_submitted` — every form is read back, however it was escaped.
-/

namespace Itertk.Cgi.UrlEncoded

open Itertk.Daemon.Config
open Itertk.Cgi.NetForm

/-! ## The parser -/

/-- `cgiFormEntry`, without `next`. -/
structure FormEntry where
  attr : List UInt8
  /-- The bytes at `value`, without the terminator. -/
  value : List UInt8
  valueLength : Nat
  fileName : List UInt8
  contentType : List UInt8
  tfileName : List UInt8

/-- The entry of a field that comes without a file. -/
def textEntry (e : Entry) : FormEntry := ⟨e.attr, e.value, e.value.length, [], [], []⟩

/-- The entry as the functions for text fields read it. -/
def FormEntry.field (e : FormEntry) : Entry := ⟨e.attr, e.value.takeWhile (· ≠ 0)⟩

/-- `cgiHexValue[ch]`, as `cgiSetupConstants` leaves it. -/
def cgiHexValue (ch : UInt8) : UInt8 :=
  if 48 ≤ ch ∧ ch ≤ 57 then ch - 48
  else if 65 ≤ ch ∧ ch ≤ 70 then ch - 55
  else if 97 ≤ ch ∧ ch ≤ 102 then ch - 87
  else 0

/-- `cgiEscapeState`, with `escapedValue` where it is used. -/
inductive EscapeState where
  | rest
  | first
  | second (escapedValue : UInt8)

/-- The loop of `cgiUnescapeChars`: the characters it writes to `s`. -/
def unescape : EscapeState → List UInt8 → List UInt8
  | _, [] => []
  | .rest, ch :: cp =>
      if ch = 37 then unescape .first cp
      else if ch = 43 then 32 :: unescape .rest cp
      else ch :: unescape .rest cp
  | .first, ch :: cp => unescape (.second (cgiHexValue ch * 16)) cp
  | .second escapedValue, ch :: cp => (escapedValue + cgiHexValue ch) :: unescape .rest cp

/-- `cgiUnescapeChars`: the C string at `s`. -/
def cgiUnescapeChars (cp : List UInt8) : List UInt8 := (unescape .rest cp).takeWhile (· ≠ 0)

/-- The `len + 1` bytes at `s` are enough. -/
theorem unescape_length (st : EscapeState) (cp : List UInt8) :
    (unescape st cp).length ≤ cp.length := by
  induction cp generalizing st with
  | nil => cases st <;> exact Nat.le_refl 0
  | cons ch cp ih =>
      have hrest := ih .rest
      have hfirst := ih .first
      have hsecond := ih (.second (cgiHexValue ch * 16))
      cases st with
      | rest =>
          rw [unescape]
          split_ifs <;> simp only [List.length_cons] <;> omega
      | first =>
          rw [unescape, List.length_cons]
          omega
      | second escapedValue =>
          rw [unescape, List.length_cons, List.length_cons]
          omega

/-- An inner loop of `cgiParseFormInput`: the characters before `stop`, and what follows it
when it was found. -/
def scanTo (stop : UInt8) : List UInt8 → List UInt8 × Option (List UInt8)
  | [] => ([], none)
  | b :: data =>
      if b = stop then ([], some data)
      else (b :: (scanTo stop data).1, (scanTo stop data).2)

theorem scanTo_length {stop : UInt8} {data rest : List UInt8}
    (h : (scanTo stop data).2 = some rest) : rest.length < data.length := by
  induction data with
  | nil => cases h
  | cons b data ih =>
      rw [scanTo] at h
      by_cases hb : b = stop
      · rw [if_pos hb] at h
        cases h
        exact Nat.lt_succ_self _
      · rw [if_neg hb] at h
        exact Nat.lt_succ_of_lt (ih h)

/-- A round of the outer loop: the pair, and what follows its `&` when there is one. -/
def formPair (data : List UInt8) : Option (Entry × Option (List UInt8)) :=
  (scanTo 61 data).2.map fun afterEq =>
    (⟨cgiUnescapeChars (scanTo 61 data).1, cgiUnescapeChars (scanTo 38 afterEq).1⟩,
      (scanTo 38 afterEq).2)

private theorem formPair_length {data rest : List UInt8} {e : Entry}
    (h : formPair data = some (e, some rest)) : rest.length < data.length := by
  obtain ⟨afterEq, hname, hpair⟩ := Option.map_eq_some_iff.mp h
  have heq := scanTo_length hname
  have hamp := scanTo_length (congrArg Prod.snd hpair)
  omega

/-- `cgiParseFormInput`: the list at `cgiFormEntryFirst`, when `malloc` succeeds. -/
def cgiParseFormInput (data : List UInt8) : List FormEntry :=
  match _h : formPair data with
  | none => []
  | some (e, none) => [textEntry e]
  | some (e, some rest) => textEntry e :: cgiParseFormInput rest
termination_by data.length
decreasing_by exact formPair_length _h

theorem cgiParseFormInput_none {data : List UInt8} (h : formPair data = none) :
    cgiParseFormInput data = [] := by
  rw [cgiParseFormInput]
  split <;> simp_all

private theorem cgiParseFormInput_last {data : List UInt8} {e : Entry}
    (h : formPair data = some (e, none)) :
    cgiParseFormInput data = [textEntry e] := by
  rw [cgiParseFormInput]
  split <;> simp_all

private theorem cgiParseFormInput_cons {data rest : List UInt8} {e : Entry}
    (h : formPair data = some (e, some rest)) :
    cgiParseFormInput data = textEntry e :: cgiParseFormInput rest := by
  rw [cgiParseFormInput]
  split <;> simp_all

/-! ## Escaped text -/

/-- The hexadecimal digits. -/
def IsHexDigit (ch : UInt8) : Prop :=
  (48 ≤ ch ∧ ch ≤ 57) ∨ (65 ≤ ch ∧ ch ≤ 70) ∨ (97 ≤ ch ∧ ch ≤ 102)

instance (ch : UInt8) : Decidable (IsHexDigit ch) := by
  unfold IsHexDigit
  infer_instance

/-- `Escaped text sent`: a browser may send `text` as `sent`. -/
inductive Escaped : List UInt8 → List UInt8 → Prop where
  | nil : Escaped [] []
  | literal {ch : UInt8} {text sent : List UInt8} (hch : ch ∉ [37, 38, 43, 61])
      (h : Escaped text sent) : Escaped (ch :: text) (ch :: sent)
  | plus {text sent : List UInt8} (h : Escaped text sent) : Escaped (32 :: text) (43 :: sent)
  | hex {hi lo : UInt8} {text sent : List UInt8} (hhi : IsHexDigit hi) (hlo : IsHexDigit lo)
      (h : Escaped text sent) :
      Escaped ((cgiHexValue hi * 16 + cgiHexValue lo) :: text) (37 :: hi :: lo :: sent)

private theorem unescape_escaped {text sent : List UInt8} (h : Escaped text sent) :
    unescape .rest sent = text := by
  induction h with
  | nil => rfl
  | @literal ch text sent hch h ih =>
      have hpercent : ch ≠ 37 := fun he => hch (by simp [he])
      have hplus : ch ≠ 43 := fun he => hch (by simp [he])
      rw [unescape, if_neg hpercent, if_neg hplus, ih]
  | plus h ih => simp [unescape, ih]
  | hex hhi hlo h ih =>
      rw [unescape, if_pos rfl, unescape, unescape, ih]

/-- Text without a character is taken whole up to it. -/
theorem span_all {stop : UInt8} {text : List UInt8} (h : stop ∉ text) :
    text.takeWhile (· ≠ stop) = text ∧ text.dropWhile (· ≠ stop) = [] := by
  have hall : ∀ c ∈ text, decide (c ≠ stop) = true := fun c hc =>
    decide_eq_true fun he => h (he ▸ hc)
  exact ⟨List.takeWhile_eq_self_iff.mpr hall, List.dropWhile_eq_nil_iff.mpr hall⟩

/-- Every escaped form of a text is read back. -/
theorem cgiUnescapeChars_escaped {text sent : List UInt8} (h : Escaped text sent)
    (hzero : (0 : UInt8) ∉ text) : cgiUnescapeChars sent = text := by
  rw [cgiUnescapeChars, unescape_escaped h, (span_all hzero).1]

/-- Escaped text holds neither separator. -/
theorem Escaped.separators {text sent : List UInt8} (h : Escaped text sent) :
    (61 : UInt8) ∉ sent ∧ (38 : UInt8) ∉ sent := by
  have hdigit : ∀ {ch : UInt8}, IsHexDigit ch → ch ≠ 61 ∧ ch ≠ 38 := by
    intro ch hch
    constructor
    · rintro rfl
      exact absurd hch (by decide)
    · rintro rfl
      exact absurd hch (by decide)
  induction h with
  | nil => exact ⟨List.not_mem_nil, List.not_mem_nil⟩
  | @literal ch text sent hch h ih =>
      have heq : (61 : UInt8) ≠ ch := fun he => hch (by simp [← he])
      have hamp : (38 : UInt8) ≠ ch := fun he => hch (by simp [← he])
      exact ⟨List.not_mem_cons_of_ne_of_not_mem heq ih.1,
        List.not_mem_cons_of_ne_of_not_mem hamp ih.2⟩
  | plus h ih =>
      exact ⟨List.not_mem_cons_of_ne_of_not_mem (by decide) ih.1,
        List.not_mem_cons_of_ne_of_not_mem (by decide) ih.2⟩
  | hex hhi hlo h ih =>
      exact ⟨List.not_mem_cons_of_ne_of_not_mem (by decide)
          (List.not_mem_cons_of_ne_of_not_mem (hdigit hhi).1.symm
            (List.not_mem_cons_of_ne_of_not_mem (hdigit hlo).1.symm ih.1)),
        List.not_mem_cons_of_ne_of_not_mem (by decide)
          (List.not_mem_cons_of_ne_of_not_mem (hdigit hhi).2.symm
            (List.not_mem_cons_of_ne_of_not_mem (hdigit hlo).2.symm ih.2))⟩

/-! ## A form -/

theorem scanTo_append {stop : UInt8} {before : List UInt8} (h : stop ∉ before)
    (after : List UInt8) : scanTo stop (before ++ stop :: after) = (before, some after) := by
  induction before with
  | nil => simp [scanTo]
  | cons b before ih =>
      have hb : b ≠ stop := fun he => h (he ▸ List.mem_cons_self)
      rw [List.cons_append, scanTo, if_neg hb, ih fun hmem => h (List.mem_cons_of_mem b hmem)]

private theorem scanTo_all {stop : UInt8} {data : List UInt8} (h : stop ∉ data) :
    scanTo stop data = (data, none) := by
  induction data with
  | nil => rfl
  | cons b data ih =>
      have hb : b ≠ stop := fun he => h (he ▸ List.mem_cons_self)
      rw [scanTo, if_neg hb, ih fun hmem => h (List.mem_cons_of_mem b hmem)]

/-- `SentAs e pair`: the field `e` is sent as the text `pair`. -/
inductive SentAs (e : Entry) : List UInt8 → Prop where
  | pair {name value : List UInt8} (hname : Escaped e.attr name) (hvalue : Escaped e.value value) :
      SentAs e (name ++ 61 :: value)

private theorem formPair_last {e : Entry} {pair : List UInt8} (h : SentAs e pair)
    (hzero : (0 : UInt8) ∉ e.attr ∧ (0 : UInt8) ∉ e.value) : formPair pair = some (e, none) := by
  cases h with
  | @pair name value hname hvalue =>
      rw [formPair, scanTo_append hname.separators.1 value, Option.map_some,
        scanTo_all hvalue.separators.2, cgiUnescapeChars_escaped hname hzero.1,
        cgiUnescapeChars_escaped hvalue hzero.2]

private theorem formPair_cons {e : Entry} {pair : List UInt8} (h : SentAs e pair)
    (hzero : (0 : UInt8) ∉ e.attr ∧ (0 : UInt8) ∉ e.value) (data : List UInt8) :
    formPair (pair ++ 38 :: data) = some (e, some data) := by
  cases h with
  | @pair name value hname hvalue =>
      rw [formPair, List.append_assoc, List.cons_append,
        scanTo_append hname.separators.1 (value ++ 38 :: data), Option.map_some,
        scanTo_append hvalue.separators.2 data, cgiUnescapeChars_escaped hname hzero.1,
        cgiUnescapeChars_escaped hvalue hzero.2]

/-- `Submitted form data`: the fields of `form` in order, with `&` between them. -/
inductive Submitted : List Entry → List UInt8 → Prop where
  | nil : Submitted [] []
  | last {e : Entry} {pair : List UInt8} (h : SentAs e pair) : Submitted [e] pair
  | cons {e : Entry} {pair : List UInt8} {form : List Entry} {data : List UInt8} (h : SentAs e pair)
      (hform : Submitted form data) : Submitted (e :: form) (pair ++ 38 :: data)

/-- No field holds a terminator. -/
def NonZero (form : List Entry) : Prop := ∀ e ∈ form, (0 : UInt8) ∉ e.attr ∧ (0 : UInt8) ∉ e.value

/-- Every form is read back, however the browser escaped it. -/
theorem cgiParseFormInput_submitted {form : List Entry} {data : List UInt8}
    (h : Submitted form data) (hzero : NonZero form) :
    cgiParseFormInput data = form.map textEntry := by
  induction h with
  | nil => exact cgiParseFormInput_none rfl
  | @last e pair h =>
      refine cgiParseFormInput_last (formPair_last h ?_)
      exact hzero e List.mem_cons_self
  | @cons e pair form data h hform ih =>
      rw [cgiParseFormInput_cons (formPair_cons h (hzero e List.mem_cons_self) data),
        ih fun e' he' => hzero e' (List.mem_cons_of_mem e he'), List.map_cons]

/-! ## Every form can be sent -/

/-- A hexadecimal digit. -/
def hexChar (n : Nat) : UInt8 := UInt8.ofNat (if n < 10 then 48 + n else 55 + n)

private theorem hexChar_byte (ch : UInt8) :
    IsHexDigit (hexChar (ch.toNat / 16)) ∧ IsHexDigit (hexChar (ch.toNat % 16)) ∧
      cgiHexValue (hexChar (ch.toNat / 16)) * 16 + cgiHexValue (hexChar (ch.toNat % 16)) = ch := by
  have hall : ∀ n, n < 256 → IsHexDigit (hexChar (n / 16)) ∧ IsHexDigit (hexChar (n % 16)) ∧
      cgiHexValue (hexChar (n / 16)) * 16 + cgiHexValue (hexChar (n % 16)) = UInt8.ofNat n := by
    decide +kernel
  have hch := hall ch.toNat ch.toNat_lt
  rwa [UInt8.ofNat_toNat] at hch

/-- The byte that two digits stand for. -/
theorem Escaped.byte {hi lo ch : UInt8} {text sent : List UInt8}
    (hch : IsHexDigit hi ∧ IsHexDigit lo ∧ cgiHexValue hi * 16 + cgiHexValue lo = ch)
    (h : Escaped text sent) : Escaped (ch :: text) (37 :: hi :: lo :: sent) := by
  obtain ⟨hhi, hlo, rfl⟩ := hch
  exact .hex hhi hlo h

private theorem exists_escaped (text : List UInt8) : ∃ sent, Escaped text sent := by
  induction text with
  | nil => exact ⟨[], .nil⟩
  | cons ch text ih =>
      obtain ⟨sent, hsent⟩ := ih
      exact ⟨_, hsent.byte (hexChar_byte ch)⟩

theorem exists_submitted (form : List Entry) : ∃ data, Submitted form data := by
  have hpair : ∀ e : Entry, ∃ pair, SentAs e pair := by
    intro e
    obtain ⟨name, hname⟩ := exists_escaped e.attr
    obtain ⟨value, hvalue⟩ := exists_escaped e.value
    exact ⟨_, .pair hname hvalue⟩
  induction form with
  | nil => exact ⟨[], .nil⟩
  | cons e form ih =>
      obtain ⟨pair, he⟩ := hpair e
      obtain ⟨data, hdata⟩ := ih
      exact ⟨_, .cons he hdata⟩

/-! ## Some form -/

/-- A name twice, an `&` in a name, a blank, a percent sign and a byte that is no character. -/
def someForm : List Entry :=
  [⟨chars ['a'], chars ['b', ' ', 'c']⟩, ⟨chars ['a', '&'], chars ['7', '%']⟩,
    ⟨chars ['a'], [255]⟩]

/-- `a=b+c&a%26=7%25&%61=%fF`. -/
def someData : List UInt8 :=
  chars ['a', '=', 'b', '+', 'c', '&', 'a', '%', '2', '6', '=', '7', '%', '2', '5', '&', '%', '6',
    '1', '=', '%', 'f', 'F']

theorem submitted_someForm : Submitted someForm someData := by
  have hfirst : SentAs ⟨chars ['a'], chars ['b', ' ', 'c']⟩ (chars ['a', '=', 'b', '+', 'c']) :=
    @SentAs.pair ⟨chars ['a'], _⟩ [97] [98, 43, 99] (.literal (by decide) .nil)
      (.literal (by decide) (.plus (.literal (by decide) .nil)))
  have hsecond : SentAs ⟨chars ['a', '&'], chars ['7', '%']⟩
      (chars ['a', '%', '2', '6', '=', '7', '%', '2', '5']) :=
    @SentAs.pair ⟨chars ['a', '&'], _⟩ [97, 37, 50, 54] [55, 37, 50, 53]
      (.literal (by decide) (.byte (by decide) .nil))
      (.literal (by decide) (.byte (by decide) .nil))
  have hthird : SentAs ⟨chars ['a'], [255]⟩ (chars ['%', '6', '1', '=', '%', 'f', 'F']) :=
    @SentAs.pair ⟨chars ['a'], _⟩ [37, 54, 49] [37, 102, 70] (.byte (by decide) .nil)
      (.byte (by decide) .nil)
  exact .cons hfirst (.cons hsecond (.last hthird))

theorem nonZero_someForm : NonZero someForm := by
  unfold NonZero
  decide

end Itertk.Cgi.UrlEncoded
