import Mathlib.Data.Nat.Digits.Defs
import Itertk.Base.Controls
import Itertk.Cgi.Request

/-!
# The numbers of a record in a form

The pages of the settings show each number of a record in a control of its own and read the
control back into the number: a drop-down list stands for one of a few values, a text field
holds a number or an address.  `Field` is one such control; the functions `show_*` and
`get_*` of the pages are `Field.show` and `Field.read`.

## Main results

* `readFields_sent` — a form that is sent is read into the record field by field, and a
  field that shows none of its values is read as the first of them.
* `settle_self_iff` — a page that is sent as it was shown changes nothing exactly when
  every list showed the value that the record has.
* `print_settled` — what was read is shown as it was sent.
-/

namespace Itertk.Cgi.Forms

open Itertk.Base.Memory
open Itertk.Base.Controls
open Itertk.Daemon.Config
open Itertk.Discovery.Report
open Itertk.Discovery.Text
open Itertk.Cgi.NetForm
open Itertk.Cgi.UrlEncoded

/-! ## Numbers of a record -/

/-- Where a number lies in a record. -/
inductive Slot where
  | word (off : Nat)
  | byte (off : Nat)

namespace Slot

def off : Slot → Nat
  | word off | byte off => off

def size : Slot → Nat
  | word _ => 4
  | byte _ => 1

def get (con : Mem) : Slot → UInt32
  | word off => load32 con off
  | byte off => (con off).toUInt32

def put (con : Mem) (x : UInt32) : Slot → Mem
  | word off => store32 con off x
  | byte off => store con off x.toUInt8

/-- The number is not cut when it is stored. -/
def Fits (x : UInt32) : Slot → Prop
  | word _ => True
  | byte _ => x < 256

instance (x : UInt32) (s : Slot) : Decidable (s.Fits x) := by
  cases s <;> unfold Fits <;> infer_instance

def Apart (s t : Slot) : Prop := s.off + s.size ≤ t.off ∨ t.off + t.size ≤ s.off

instance (s t : Slot) : Decidable (s.Apart t) := by unfold Apart; infer_instance

variable {s t : Slot} {con : Mem} {x : UInt32}

theorem Apart.symm (h : s.Apart t) : t.Apart s := Or.symm h

private theorem put_outside {i : Nat} (h : i < s.off ∨ s.off + s.size ≤ i) :
    s.put con x i = con i := by
  cases s with
  | word off => exact store32_ne con x h
  | byte off =>
      apply store_ne
      simp only [Slot.off, size] at h
      omega

private theorem get_put (h : s.Fits x) : s.get (s.put con x) = x := by
  cases s with
  | word off => exact load32_store32 con off x
  | byte off =>
      have hlt : x.toNat < 256 := UInt32.lt_iff_toNat_lt.mp h
      show (store con off x.toUInt8 off).toUInt32 = x
      rw [store_self, ← UInt32.toNat_inj, UInt8.toNat_toUInt32, UInt32.toNat_toUInt8]
      omega

theorem get_congr {con' : Mem} (h : ∀ i, s.off ≤ i → i < s.off + s.size → con i = con' i) :
    s.get con = s.get con' := by
  cases s with
  | word off =>
      apply load32_congr
      intro i hi
      exact h (off + i) (by simp [Slot.off]) (by simp only [Slot.off, size]; omega)
  | byte off =>
      have hbyte := h off (by simp [Slot.off]) (by simp [Slot.off, size])
      show (con off).toUInt32 = (con' off).toUInt32
      rw [hbyte]

theorem get_put_apart (h : s.Apart t) : t.get (s.put con x) = t.get con := by
  apply get_congr
  intro i hlow hhigh
  apply put_outside
  rcases h with h | h
  · exact .inr (by omega)
  · exact .inl (by omega)

/-- A number that is stored where it was read from changes nothing. -/
theorem put_get : s.put con (s.get con) = con := by
  cases s with
  | word off =>
      have hbytes : le32 (load32 con off) = slice con off 4 := by
        rw [load32, le32_word32]
        rfl
      show blit con off (le32 (load32 con off)) = con
      rw [hbytes]
      funext i
      by_cases hi : off ≤ i ∧ i < off + 4
      · rw [blit_apply, if_pos hi.1, getElem?_slice, if_pos (by omega), Option.getD_some,
          Nat.add_sub_cancel' hi.1]
      · exact blit_outside con _ (by rw [slice_length]; omega)
  | byte off =>
      funext i
      show store con off (con off).toUInt32.toUInt8 i = con i
      by_cases hi : i = off
      · rw [hi, store_self]
        simp
      · exact store_ne con _ hi

end Slot
/-! ## Numbers as texts -/

/-- `sprintf("%d", x)` of a `DWORD`. -/
def printInt (x : UInt32) : List UInt8 :=
  if x.toNat < 2147483648 then decimal x.toNat else 0x2d :: decimal (4294967296 - x.toNat)

/-- A text that a field of 30 bytes takes as it is. -/
structure Plain (s : List UInt8) : Prop where
  length : s.length ≤ 29
  zero : (0 : UInt8) ∉ s
  lf : (10 : UInt8) ∉ s
  cr : (13 : UInt8) ∉ s

private theorem length_decimal {n e : Nat} (he : 0 < e) (h : n < 10 ^ e) :
    (decimal n).length ≤ e := by
  show (List.map _ _).length ≤ e
  rw [List.length_map]
  exact Nat.toDigits_length 10 n e he h

private theorem plain_decimal {n : Nat} (h : n < 4294967296) : Plain (decimal n) where
  length := Nat.le_trans (length_decimal (e := 10) (by decide) (by omega)) (by decide)
  zero := notMem_decimal (by decide) n
  lf := notMem_decimal (by decide) n
  cr := notMem_decimal (by decide) n

private theorem plain_printInt (x : UInt32) : Plain (printInt x) := by
  have hx := x.toNat_lt
  unfold printInt
  split
  · exact plain_decimal hx
  · have hlen := length_decimal (n := 4294967296 - x.toNat) (e := 10) (by decide) (by omega)
    have hp := plain_decimal (n := 4294967296 - x.toNat) (by omega)
    constructor
    · rw [List.length_cons]
      omega
    · simp [hp.zero]
    · simp [hp.lf]
    · simp [hp.cr]

private theorem plain_sysIp2str (ip : UInt32) : Plain (sysIp2str ip) where
  length := by
    have hlen : ∀ b : UInt8, (decimal b.toNat).length ≤ 3 := fun b =>
      length_decimal (by decide) (Nat.lt_trans b.toNat_lt (by decide))
    have h0 := hlen ip.toUInt8
    have h1 := hlen (ip / 0x100).toUInt8
    have h2 := hlen (ip / 0x10000).toUInt8
    have h3 := hlen (ip / 0x1000000).toUInt8
    simp only [sysIp2str, le32, List.map_cons, List.map_nil, List.intercalate_cons_cons,
      List.intercalate_singleton, List.length_append, List.length_cons, List.length_nil]
    omega
  zero := notMem_sysIp2str (by decide) (by decide) ip
  lf := notMem_sysIp2str (by decide) (by decide) ip
  cr := notMem_sysIp2str (by decide) (by decide) ip

/-- A number that is printed is read back. -/
theorem atoi_printInt (x : UInt32) : UInt32.ofInt (atoi (printInt x)) = x := by
  have hx := x.toNat_lt
  unfold printInt
  split
  · have hread := atoi_decimal x.toNat ends_nil
    rw [List.append_nil] at hread
    rw [hread, ← UInt32.toNat_inj]
    show ((x.toNat : Int) % 4294967296).toNat % 4294967296 = _
    omega
  · have hread : atoi (0x2d :: decimal (4294967296 - x.toNat)) =
        -((4294967296 - x.toNat : Nat) : Int) := by
      show -(digits 0 (decimal (4294967296 - x.toNat)) : Int) = _
      rw [digits_decimal]
    rw [hread, ← UInt32.toNat_inj]
    show ((-((4294967296 - x.toNat : Nat) : Int)) % 4294967296).toNat % 4294967296 = _
    omega

/-! ## Fields -/

/-- A number of a record and the control that shows it. -/
inductive Field where
  /-- A drop-down list, whose option `i` stands for `value i`. -/
  | list (name : List UInt8) (texts : List (List UInt8)) (value : Nat → UInt32) (slot : Slot)
  /-- A text field with a number. -/
  | number (name : List UInt8) (off : Nat)
  /-- A text field with an address. -/
  | address (name : List UInt8) (off : Nat)

namespace Field

def name : Field → List UInt8
  | list name _ _ _ | number name _ | address name _ => name

def slot : Field → Slot
  | list _ _ _ slot => slot
  | number _ off | address _ off => .word off

/-- The control that is printed for a number. -/
def print (x : UInt32) : Field → Control (List UInt8)
  | list name texts value _ => .select name texts (shown (fun i => value i = x) texts.length)
  | number name _ => .text name (printInt x)
  | address name _ => .text name (sysIp2str x)

/-- The control of a record's number. -/
def control (con : Mem) (f : Field) : Control (List UInt8) := f.print (f.slot.get con)

/-- The record after the field was read from a form. -/
def read (form : List Entry) (con : Mem) (f : Field) : Mem :=
  match f with
  | list name texts value slot => slot.put con (value (cgiFormSelectSingle form name texts 0))
  | number name off =>
      store32 con off (UInt32.ofInt (atoi (cgiFormStringNoNewlines form name 30)))
  | address name off => store32 con off (sysStr2ip (cgiFormStringNoNewlines form name 30))

/-- The number that is read back from the control of a number. -/
def settled (x : UInt32) : Field → UInt32
  | list _ texts value _ => value (shown (fun i => value i = x) texts.length)
  | number _ _ | address _ _ => x

/-- The control can show the number. -/
def Shows (x : UInt32) : Field → Prop
  | list _ texts value _ => ∃ i, i < texts.length ∧ value i = x
  | number _ _ | address _ _ => True

instance (x : UInt32) (f : Field) : Decidable (f.Shows x) := by
  cases f <;> unfold Shows <;> infer_instance

/-- The options are different texts for different numbers that the slot can hold. -/
def Proper : Field → Prop
  | list name texts value slot =>
      (0 : UInt8) ∉ name ∧ 0 < texts.length ∧ texts.Nodup ∧ (∀ t ∈ texts, (0 : UInt8) ∉ t) ∧
        (∀ i, i < texts.length → slot.Fits (value i)) ∧
        ∀ i, i < texts.length → ∀ j, j < texts.length → value i = value j → i = j
  | number name _ | address name _ => (0 : UInt8) ∉ name

instance (f : Field) : Decidable f.Proper := by
  cases f <;> unfold Proper <;> infer_instance

variable {f : Field} {x : UInt32}

@[simp] theorem name_print : (f.print x).name = f.name := by cases f <;> rfl

private theorem settled_eq_iff (h : f.Proper) : f.settled x = x ↔ f.Shows x := by
  cases f with
  | number | address => simp [settled, Shows]
  | list name texts value slot =>
      constructor
      · intro heq
        exact ⟨_, shown_lt h.2.1, heq⟩
      · intro hshows
        obtain ⟨i, hi, hvalue⟩ := hshows
        exact of_decide_eq_true (@shown_marked (fun i => value i = x) texts.length i hi
          (decide_eq_true hvalue))

/-- What is read back fits, and is shown as it was. -/
theorem fits_settled (h : f.Proper) : f.slot.Fits (f.settled x) := by
  cases f with
  | number | address => exact trivial
  | list name texts value slot => exact h.2.2.2.2.1 _ (shown_lt h.2.1)

theorem print_settled (h : f.Proper) : f.print (f.settled x) = f.print x := by
  cases f with
  | number | address => rfl
  | list name texts value slot =>
      have hlt := @shown_lt (fun i => value i = x) texts.length h.2.1
      have hmarked := @shown_marked (fun i => value i = settled x (list name texts value slot))
        texts.length _ hlt (decide_eq_true rfl)
      -- different options stand for different numbers
      have hsame := h.2.2.2.2.2 _ (shown_lt h.2.1) _ hlt (of_decide_eq_true hmarked)
      rw [print, print, hsame]

end Field

/-! ## What is sent and read -/

/-- The form that the browser sends for a page. -/
def sent (button : List UInt8) (page : List (Control (List UInt8))) : List Entry :=
  (submission button page).map fun e => ⟨e.1, e.2⟩

section Sent

variable (button : List UInt8) {page : List (Control (List UInt8))}

theorem findFirst_sent (hnames : (page.map Control.name).Nodup) {c : Control (List UInt8)}
    (hc : c ∈ page) : cgiFormEntryFindFirst Entry.attr (sent button page) c.name =
      (c.value button).map fun v => ⟨c.name, v⟩ := by
  have hfind := find_submission button hnames hc
  rw [cgiFormEntryFindFirst, sent, List.find?_map]
  have hsame : ((fun e : Entry => decide (e.attr = c.name)) ∘ fun e : List UInt8 × List UInt8 =>
      (⟨e.1, e.2⟩ : Entry)) = fun e => decide (e.1 = c.name) := rfl
  rw [hsame, hfind, Option.map_map]
  rfl

/-- The chosen option is found among the texts. -/
theorem cgiFormSelectSingle_sent (hnames : (page.map Control.name).Nodup) {name : List UInt8}
    {texts : List (List UInt8)} (htexts : texts.Nodup) {k : Nat} (hk : k < texts.length)
    (hc : Control.select name texts k ∈ page) :
    cgiFormSelectSingle (sent button page) name texts 0 = k := by
  have hfind := findFirst_sent button hnames hc
  have hindex : (texts.findIdx? fun t => t = texts[k]) = some k := by
    rw [List.findIdx?_eq_some_iff_getElem]
    refine ⟨hk, by simp, fun j hj => ?_⟩
    have hne : texts[j] ≠ texts[k] := fun heq =>
      Nat.ne_of_lt hj (htexts.getElem_inj_iff.mp heq)
    simpa using hne
  simp only [Control.name, Control.value, List.getElem?_eq_getElem hk, Option.map_some] at hfind
  rw [cgiFormSelectSingle, hfind]
  simp only [hindex, Option.getD_some]

/-- A plain text is read as it is. -/
theorem cgiFormStringNoNewlines_sent (hnames : (page.map Control.name).Nodup)
    {name s : List UInt8} (hs : Plain s) (hc : Control.text name s ∈ page) :
    cgiFormStringNoNewlines (sent button page) name 30 = s := by
  have hfind := findFirst_sent button hnames hc
  have hall : (s.filter fun c => ¬(c = 13 ∨ c = 10)) = s := by
    rw [List.filter_eq_self]
    intro c hc
    have hcr : c ≠ 13 := fun heq => hs.cr (heq ▸ hc)
    have hlf : c ≠ 10 := fun heq => hs.lf (heq ▸ hc)
    simp [hcr, hlf]
  have hread := cgiFormEntryString_eq 29 [] s (by
    rw [hall, List.length_nil, Nat.zero_add]
    exact hs.length)
  rw [hall, List.nil_append] at hread
  simp only [Control.name, Control.value, Option.map_some] at hfind
  rw [cgiFormStringNoNewlines, hfind]
  exact hread

/-- A field is read as what its control shows. -/
theorem Field.read_sent (hnames : (page.map Control.name).Nodup) {f : Field} (hf : f.Proper)
    {x : UInt32} (hc : f.print x ∈ page) (con : Mem) :
    f.read (sent button page) con = f.slot.put con (f.settled x) := by
  cases f with
  | list name texts value slot =>
      simp only [Field.read, cgiFormSelectSingle_sent button hnames hf.2.2.1 (shown_lt hf.2.1) hc]
      rfl
  | number name off =>
      simp only [Field.read, cgiFormStringNoNewlines_sent button hnames (plain_printInt x) hc,
        atoi_printInt]
      rfl
  | address name off =>
      simp only [Field.read, cgiFormStringNoNewlines_sent button hnames (plain_sysIp2str x) hc,
        sysStr2ip_sysIp2str]
      rfl

/-- Neither the name nor what is sent holds a terminator. -/
def Clean (button : List UInt8) (c : Control (List UInt8)) : Prop :=
  (0 : UInt8) ∉ c.name ∧ ∀ v, c.value button = some v → (0 : UInt8) ∉ v

variable {button}

theorem nonZero_sent (h : ∀ c ∈ page, Clean button c) : NonZero (sent button page) := by
  intro e he
  obtain ⟨pair, hpair, rfl⟩ := List.mem_map.mp he
  obtain ⟨c, hc, hname, hvalue⟩ := mem_submission hpair
  exact ⟨hname ▸ (h c hc).1, (h c hc).2 _ hvalue⟩

theorem Field.clean_print {f : Field} (h : f.Proper) (x : UInt32) : Clean button (f.print x) := by
  cases f with
  | list name texts value slot =>
      refine ⟨h.1, fun v hv => h.2.2.2.1 v ?_⟩
      exact List.mem_of_getElem? hv
  | number name off =>
      refine ⟨h, fun v hv => ?_⟩
      cases hv
      exact (plain_printInt x).zero
  | address name off =>
      refine ⟨h, fun v hv => ?_⟩
      cases hv
      exact (plain_sysIp2str x).zero

end Sent

/-! ## Records -/

/-- The fields of a page, read one after the other. -/
def readFields (fields : List Field) (form : List Entry) (con : Mem) : Mem :=
  fields.foldl (fun con f => f.read form con) con

/-- The record `con` with what the page of `shows` is read as. -/
def settle (fields : List Field) (shows con : Mem) : Mem :=
  fields.foldl (fun con f => f.slot.put con (f.settled (f.slot.get shows))) con

/-- Proper fields that do not overlap. -/
structure Separate (fields : List Field) : Prop where
  proper : ∀ f ∈ fields, f.Proper
  apart : fields.Pairwise fun f g => f.slot.Apart g.slot

theorem Separate.tail {f : Field} {fields : List Field} (h : Separate (f :: fields)) :
    Separate fields where
  proper g hg := h.proper g (List.mem_cons_of_mem f hg)
  apart := (List.pairwise_cons.mp h.apart).2

variable {button : List UInt8} {page : List (Control (List UInt8))} {fields : List Field}
  {shows con : Mem}

/-- A form that is sent is read field by field. -/
theorem readFields_sent (hnames : (page.map Control.name).Nodup)
    (hproper : ∀ f ∈ fields, f.Proper) (hpage : ∀ f ∈ fields, f.control shows ∈ page) :
    readFields fields (sent button page) con = settle fields shows con := by
  induction fields generalizing con with
  | nil => rfl
  | cons f fields ih =>
      have hread := f.read_sent button hnames (hproper f List.mem_cons_self)
        (hpage f List.mem_cons_self) con
      show readFields fields (sent button page) (f.read (sent button page) con) = _
      rw [hread]
      exact ih (fun g hg => hproper g (List.mem_cons_of_mem f hg))
        (fun g hg => hpage g (List.mem_cons_of_mem f hg))

/-- What lies apart from the fields stays. -/
theorem settle_outside {i : Nat}
    (h : ∀ f ∈ fields, i < f.slot.off ∨ f.slot.off + f.slot.size ≤ i) :
    settle fields shows con i = con i := by
  induction fields generalizing con with
  | nil => rfl
  | cons f fields ih =>
      refine Eq.trans (ih fun g hg => h g (List.mem_cons_of_mem f hg)) ?_
      exact Slot.put_outside (h f List.mem_cons_self)

private theorem get_settle_apart {s : Slot} (h : ∀ f ∈ fields, f.slot.Apart s) :
    s.get (settle fields shows con) = s.get con := by
  apply Slot.get_congr
  intro i hlow hhigh
  apply settle_outside
  intro f hf
  rcases h f hf with hbefore | hbehind
  · exact .inr (by omega)
  · exact .inl (by omega)

/-- Every field is in the record. -/
theorem get_settle (h : Separate fields) {f : Field} (hf : f ∈ fields) :
    f.slot.get (settle fields shows con) = f.settled (f.slot.get shows) := by
  induction fields generalizing con with
  | nil => cases hf
  | cons g fields ih =>
      rcases List.mem_cons.mp hf with rfl | hf
      · have hrest : f.slot.get (settle fields shows
            (f.slot.put con (f.settled (f.slot.get shows)))) =
              f.slot.get (f.slot.put con (f.settled (f.slot.get shows))) :=
          get_settle_apart fun g hg => ((List.pairwise_cons.mp h.apart).1 g hg).symm
        exact hrest.trans (Slot.get_put (Field.fits_settled (h.proper f List.mem_cons_self)))
      · exact ih h.tail hf

/-- The record is shown as the form that it was read from. -/
theorem control_settle (h : Separate fields) {f : Field} (hf : f ∈ fields) :
    f.control (settle fields shows con) = f.control shows := by
  rw [Field.control, get_settle h hf, Field.print_settled (h.proper f hf), Field.control]

/-- A page that is sent as it was shown changes nothing exactly when it could show every
number. -/
theorem settle_self_iff (h : Separate fields) :
    settle fields con con = con ↔ ∀ f ∈ fields, f.Shows (f.slot.get con) := by
  constructor
  · intro heq f hf
    have hget : f.slot.get (settle fields con con) = f.settled (f.slot.get con) := get_settle h hf
    rw [heq] at hget
    exact (Field.settled_eq_iff (h.proper f hf)).mp hget.symm
  · intro hshows
    -- one field after the other is stored as it was
    suffices hsuffix : ∀ fs : List Field, (∀ f ∈ fs, f ∈ fields) → settle fs con con = con from
      hsuffix fields fun _ hf => hf
    intro fs hfs
    induction fs with
    | nil => rfl
    | cons f fs ih =>
        have hf := hfs f List.mem_cons_self
        have hsettled := (Field.settled_eq_iff (h.proper f hf)).mpr (hshows f hf)
        show settle fs con (f.slot.put con (f.settled (f.slot.get con))) = con
        rw [hsettled, Slot.put_get]
        exact ih fun g hg => hfs g (List.mem_cons_of_mem f hg)

end Itertk.Cgi.Forms
