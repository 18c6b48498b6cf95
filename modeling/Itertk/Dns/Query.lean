import Itertk.Base.Labels
import Itertk.Discovery.Report

/-!
# The question that is put to a name server

`changeDN` turns a host name into labels with their lengths in front.  It does so from the
last character to the first: every character moves up by one place, every dot becomes the
number of characters that stood behind it, and what is left over is the length of the
first label.  `setHead` and `setQuery` put the header in front and the type and the class
behind.

The daemon and `itslib` have the same text.  The buffers of `its_dns` hold 1024 bytes, and
its callers pass names shorter than `DNS_STR_LEN`, which is 50.

## Main results

* `changeDN_eq` — the name on the wire, wherever the buffer is.
* `dnsQuery_encodes` — the packet reads back as the labels of the host name.
-/

namespace Itertk.Dns.Query

open Itertk.Base.Memory
open Itertk.Base.Codec
open Itertk.Base.Labels
open Itertk.Discovery.Report (dot)

/-! ## The three functions -/

/-- `setHead`. -/
def setHead (buf : Mem) : Mem :=
  let m := store buf 0 0x00
  let m := store m 1 0
  let m := store m 2 0x01
  let m := store m 3 0
  let m := store m 4 0
  let m := store m 5 1
  let m := store m 6 0
  let m := store m 7 0
  let m := store m 11 0
  let m := store m 10 0
  let m := store m 9 0
  store m 8 0

/-- `setQuery`. -/
def setQuery (name buf : Mem) (len : Nat) : Mem :=
  let m := forUpTo len (fun i m => store m (12 + i) (name i)) buf
  let pos := len + 12
  let m := store m pos 0
  let m := store m (pos + 1) 1
  let m := store m (pos + 2) 0
  store m (pos + 3) 1

/-- The loop of `changeDN`; the first argument is `i + 1`. -/
def changeLoop (dn : List UInt8) : (i : Nat) → (j k : Nat) → (name : Mem) → Nat × Mem
  | 0, _, k, m => (k, m)
  | i + 1, j, k, m =>
      if dn.getD i 0 = dot then changeLoop dn i (j - 1) 0 (store m j (UInt8.ofNat k))
      else changeLoop dn i (j - 1) (k + 1) (store m j (dn.getD i 0))

/-- `changeDN(DN, name)`. -/
def changeDN (dn : List UInt8) (name : Mem) : Nat × Mem :=
  let j := dn.length
  let r := changeLoop dn dn.length j 0 (store name (j + 1) 0)
  (dn.length + 2, store r.2 0 (UInt8.ofNat r.1))

/-- The packet that `its_dns` sends for a name, its length first; the two buffers lie on
the stack. -/
def dnsQuery (www : List UInt8) (name buf : Mem) : Nat × List UInt8 :=
  let r := changeDN www name
  let m := setQuery r.2 (setHead buf) r.1
  (r.1 + 16, slice m 0 (r.1 + 16))

/-! ## Host names -/

/-- A label of a host name. -/
structure HostLabel extends Label where
  dot_notMem : dot ∉ bytes
  zero_notMem : 0 ∉ bytes

/-- A host name: one label, and the others behind it. -/
structure HostName where
  first : HostLabel
  rest : List HostLabel

/-- The labels. -/
def HostName.labels (h : HostName) : List (List UInt8) :=
  h.first.bytes :: h.rest.map fun l => l.bytes

/-- The C string. -/
def HostName.text (h : HostName) : List UInt8 := [dot].intercalate h.labels

/-! ## The name on the wire -/

/-- The place of a character in the middle. -/
theorem getD_middle (pre post : List UInt8) (c : UInt8) :
    (pre ++ c :: post).getD pre.length 0 = c := by
  rw [List.getD_eq_getElem?_getD, List.getElem?_append_right (Nat.le_refl _), Nat.sub_self]
  rfl

/-- The loop moves a label up by one place and counts its characters.  It is entered behind
the label, so the induction takes the first character last. -/
theorem changeLoop_label (pre : List UInt8) {w : List UInt8} (post : List UInt8) (hw : dot ∉ w)
    (k : Nat) (m : Mem) :
    changeLoop (pre ++ w ++ post) (pre ++ w).length (pre ++ w).length k m =
      changeLoop (pre ++ w ++ post) pre.length pre.length (k + w.length)
        (blit m (pre.length + 1) w) := by
  induction w generalizing pre k m with
  | nil => rw [List.append_nil, blit_nil, List.length_nil, Nat.add_zero]
  | cons c w ih =>
      have hc : c ≠ dot := fun heq => hw (heq ▸ List.mem_cons_self)
      have hrest := ih (pre ++ [c]) (fun hmem => hw (List.mem_cons_of_mem c hmem)) k m
      have hget : (pre ++ c :: (w ++ post)).getD pre.length 0 = c := getD_middle pre _ c
      simp only [List.append_assoc, List.cons_append, List.nil_append, List.length_append,
        List.length_cons, List.length_nil, Nat.zero_add, Nat.add_assoc] at hrest ⊢
      rw [hrest, changeLoop, hget, if_neg hc, store_front, Nat.add_sub_cancel, Nat.add_assoc k]

/-- All labels but the length of the first one: the loop stores what follows it and leaves
with its length. -/
theorem changeLoop_labels (pre : List UInt8) {l : List UInt8} {ls : List (List UInt8)}
    (hdot : ∀ w ∈ l :: ls, dot ∉ w) (m : Mem) :
    let dn := pre ++ [dot].intercalate (l :: ls)
    changeLoop dn dn.length dn.length 0 m =
      changeLoop dn pre.length pre.length l.length
        (blit m (pre.length + 1) (l ++ putLabels ls)) := by
  induction ls generalizing pre l with
  | nil =>
      have hlabel := changeLoop_label pre [] (hdot l List.mem_cons_self) 0 m
      rw [List.append_nil, Nat.zero_add] at hlabel
      show changeLoop (pre ++ [dot].intercalate [l]) _ _ 0 m = _
      rw [List.intercalate_singleton, putLabels, List.flatMap_nil, List.append_nil]
      exact hlabel
  | cons l' ls ih =>
      have hrest := ih (pre ++ l ++ [dot])
        fun w hw => hdot w (List.mem_cons_of_mem l hw)
      have hlabel := changeLoop_label pre (dot :: [dot].intercalate (l' :: ls))
        (hdot l List.mem_cons_self) 0
      have hget := getD_middle (pre ++ l) ([dot].intercalate (l' :: ls)) dot
      have htext : pre ++ l ++ [dot] ++ [dot].intercalate (l' :: ls) =
          pre ++ l ++ dot :: [dot].intercalate (l' :: ls) := by
        rw [List.append_assoc, List.singleton_append]
      have hlen : (pre ++ l ++ [dot]).length = (pre ++ l).length + 1 := List.length_append
      show changeLoop (pre ++ [dot].intercalate (l :: l' :: ls)) _ _ 0 m = _
      rw [List.intercalate_cons_cons, List.append_assoc l, List.singleton_append,
        ← List.append_assoc]
      simp only [htext, hlen] at hrest
      have hfront := blit_front m (pre.length + 1) l (putLabels (l' :: ls))
      rw [hrest, changeLoop, hget, if_pos rfl, store_front, Nat.add_sub_cancel, hlabel,
        Nat.zero_add, ← putLabels_cons]
      rw [show pre.length + 1 + l.length = (pre ++ l).length + 1 by
        rw [List.length_append]; omega] at hfront
      rw [hfront]

/-- A name takes two bytes more on the wire than as a string. -/
theorem length_putLabels (l : List UInt8) (ls : List (List UInt8)) :
    (putLabels (l :: ls)).length = ([dot].intercalate (l :: ls)).length + 1 := by
  induction ls generalizing l with
  | nil =>
      rw [putLabels_cons, putLabels, List.flatMap_nil, List.append_nil, List.intercalate_singleton]
      rfl
  | cons l' ls ih =>
      rw [putLabels_cons, List.intercalate_cons_cons]
      simp only [List.length_cons, List.length_append, List.length_nil]
      rw [ih l']
      omega

/-- `changeDN` stores the name as it goes on the wire. -/
theorem changeDN_labels {l : List UInt8} {ls : List (List UInt8)} (hdot : ∀ w ∈ l :: ls, dot ∉ w)
    (name : Mem) :
    changeDN ([dot].intercalate (l :: ls)) name =
      (([dot].intercalate (l :: ls)).length + 2, blit name 0 (putName (l :: ls))) := by
  have hlen := length_putLabels l ls
  have hloop := changeLoop_labels [] hdot
  simp only [List.nil_append, List.length_nil, Nat.zero_add] at hloop
  generalize [dot].intercalate (l :: ls) = text at hlen hloop ⊢
  have hend : blit (store name (text.length + 1) 0) 0 (putLabels (l :: ls)) =
      blit name 0 (putName (l :: ls)) := by
    have hfront := blit_front name 0 (putLabels (l :: ls)) [0]
    rw [← store_eq_blit, Nat.zero_add, hlen] at hfront
    exact hfront
  have hfirst := store_front (store name (text.length + 1) 0) 0 (UInt8.ofNat l.length)
    (l ++ putLabels ls)
  rw [Nat.zero_add, ← putLabels_cons, hend] at hfirst
  simp only [changeDN, hloop, changeLoop, hfirst]

/-- No label of a host name has a dot in it. -/
theorem HostName.dot_notMem (h : HostName) : ∀ w ∈ h.labels, dot ∉ w := by
  intro w hw
  rcases List.mem_cons.mp hw with rfl | hw
  · exact h.first.dot_notMem
  · obtain ⟨l, -, rfl⟩ := List.mem_map.mp hw
    exact l.dot_notMem

theorem changeDN_eq (h : HostName) (name : Mem) :
    changeDN h.text name = (h.text.length + 2, blit name 0 (putName h.labels)) :=
  changeDN_labels h.dot_notMem name

/-! ## The packet -/

/-- A query header: the identification is 0, recursion is desired, there is one question,
and there are no records. -/
def queryHead : List UInt8 := [0, 0, 1, 0, 0, 1, 0, 0, 0, 0, 0, 0]

private theorem setHead_eq (buf : Mem) : setHead buf = blit buf 0 queryHead := by
  funext k
  by_cases hk : k < 12
  · have hcases : k = 0 ∨ k = 1 ∨ k = 2 ∨ k = 3 ∨ k = 4 ∨ k = 5 ∨ k = 6 ∨ k = 7 ∨ k = 8 ∨ k = 9 ∨
        k = 10 ∨ k = 11 := by omega
    rcases hcases with rfl | rfl | rfl | rfl | rfl | rfl | rfl | rfl | rfl | rfl | rfl | rfl <;> rfl
  · rw [blit_after _ _ (by show 0 + 12 ≤ k; omega)]
    simp (disch := omega) only [setHead, store_ne]

/-- The name comes behind the header, and type A and class IN behind the name. -/
theorem setQuery_eq (name buf : Mem) (len : Nat) :
    setQuery name buf len = blit buf 12 (slice name 0 len ++ [0, 1, 0, 1]) := by
  have hend : ∀ (a : List UInt8) (v : UInt8) (pos : Nat), pos = 12 + a.length →
      store (blit buf 12 a) pos v = blit buf 12 (a ++ [v]) := by
    rintro a v _ rfl
    exact store_behind buf 12 a v
  simp only [setQuery, forUpTo_copy]
  rw [hend _ 0 _ (by simp only [slice_length]; omega),
    hend _ 1 _ (by simp only [List.length_append, slice_length, List.length_singleton]; omega),
    hend _ 0 _ (by simp only [List.length_append, slice_length, List.length_singleton]; omega),
    hend _ 1 _ (by simp only [List.length_append, slice_length, List.length_singleton]; omega)]
  simp only [List.append_assoc, List.cons_append, List.nil_append]

private theorem length_putName (h : HostName) : (putName h.labels).length = h.text.length + 2 := by
  rw [putName, List.length_append, HostName.text, HostName.labels, length_putLabels]
  rfl

private theorem length_packet (h : HostName) :
    (queryHead ++ (putName h.labels ++ [0, 1, 0, 1])).length = h.text.length + 18 := by
  rw [List.length_append, List.length_append, length_putName]
  show 12 + (h.text.length + 2 + 4) = _
  omega

/-- The packet, byte for byte. -/
theorem dnsQuery_eq (h : HostName) (name buf : Mem) :
    dnsQuery h.text name buf =
      (h.text.length + 18, queryHead ++ (putName h.labels ++ [0, 1, 0, 1])) := by
  have hname := length_putName h
  have hslice := slice_blit_self name 0 (putName h.labels)
  rw [hname] at hslice
  have hpacket := slice_blit_self buf 0 (queryHead ++ (putName h.labels ++ [0, 1, 0, 1]))
  have hlen := length_packet h
  have hjoin := blit_append buf 0 queryHead (putName h.labels ++ [0, 1, 0, 1])
  rw [show 0 + queryHead.length = 12 from rfl] at hjoin
  rw [hlen] at hpacket
  rw [dnsQuery, changeDN_eq]
  dsimp only
  rw [setHead_eq, setQuery_eq, hslice, hjoin]
  exact congrArg _ hpacket

/-- A packet asks for the address of a name. -/
structure Asks (packet : Nat × List UInt8) (labels : List (List UInt8)) (strlen : Nat) : Prop where
  /-- `len + 16`, where `len` is `strlen + 2`. -/
  length : packet.1 = strlen + 2 + 16 ∧ packet.2.length = packet.1
  /-- Twelve bytes, with one question. -/
  head : packet.2.take 12 = queryHead
  /-- The labels, type A and class IN. -/
  question : readName (packet.2.drop 12) = some (labels, [0, 1, 0, 1])

/-- The query that is built for a host name reads back as its labels. -/
theorem dnsQuery_encodes (h : HostName) (name buf : Mem) :
    Asks (dnsQuery h.text name buf) h.labels h.text.length := by
  have hlabels : h.labels = (h.first.toLabel :: h.rest.map HostLabel.toLabel).map Label.bytes := by
    rw [HostName.labels, List.map_cons, List.map_map]
    rfl
  have hread := inverts_labels (h.first.toLabel :: h.rest.map HostLabel.toLabel) [0, 1, 0, 1]
  rw [← hlabels] at hread
  have hbehind : (queryHead ++ (putName h.labels ++ [0, 1, 0, 1])).drop 12 =
      putName h.labels ++ [0, 1, 0, 1] := List.drop_left' rfl
  rw [dnsQuery_eq]
  refine ⟨⟨rfl, length_packet h⟩, List.take_left' rfl, ?_⟩
  rw [hbehind]
  exact hread

end Itertk.Dns.Query
