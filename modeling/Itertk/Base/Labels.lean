import Itertk.Base.Codec

/-!
# Names as labels with their lengths in front

A name is a list of labels.  On the wire each label follows a byte with its length, and a
byte 0 ends the name; a length byte from 64 on is no length.  Nothing here mentions a
particular program.

## Main results

* `inverts_labels` — the reader takes exactly the name off whatever follows it.
-/

namespace Itertk.Base.Labels

open Itertk.Base.Codec

/-- A label: not empty, of at most 63 bytes. -/
structure Label where
  bytes : List UInt8
  ne_nil : bytes ≠ []
  short : bytes.length ≤ 63

/-- A label behind its length. -/
def putLabel (l : List UInt8) : List UInt8 := UInt8.ofNat l.length :: l

/-- The labels of a name, without the end. -/
def putLabels (ls : List (List UInt8)) : List UInt8 := ls.flatMap putLabel

/-- A name. -/
def putName (ls : List (List UInt8)) : List UInt8 := putLabels ls ++ [0]

/-- Reads the labels up to the byte 0. -/
def readName : Reader UInt8 (List (List UInt8))
  | [] => none
  | n :: bs =>
      if n = 0 then some ([], bs)
      else if 64 ≤ n ∨ bs.length < n.toNat then none
      else (readName (bs.drop n.toNat)).map fun r => (bs.take n.toNat :: r.1, r.2)
  termination_by bs => bs.length
  decreasing_by exact Nat.lt_succ_of_le (List.length_drop ▸ Nat.sub_le _ _)

theorem putLabels_cons (l : List UInt8) (ls : List (List UInt8)) :
    putLabels (l :: ls) = UInt8.ofNat l.length :: (l ++ putLabels ls) := rfl

/-- A length byte tells the length. -/
theorem Label.length_toNat (l : Label) : (UInt8.ofNat l.bytes.length).toNat = l.bytes.length := by
  have hshort := l.short
  rw [UInt8.toNat_ofNat']
  omega

/-- A name is read back, whatever follows it. -/
theorem inverts_labels (ls : List Label) :
    Inverts readName putName (ls.map Label.bytes) := by
  induction ls with
  | nil =>
      intro rest
      rw [List.map_nil, putName, putLabels, List.flatMap_nil, List.nil_append,
        List.singleton_append, readName, if_pos rfl]
  | cons l ls ih =>
      intro rest
      have hlen := l.length_toNat
      have hpos := List.length_pos_iff.mpr l.ne_nil
      have hshort := l.short
      have hne : ¬UInt8.ofNat l.bytes.length = 0 := by
        rw [← UInt8.toNat_inj, hlen]
        show ¬l.bytes.length = 0
        omega
      have hfits : ¬(64 ≤ UInt8.ofNat l.bytes.length ∨
          (l.bytes ++ (putName (ls.map Label.bytes) ++ rest)).length <
            (UInt8.ofNat l.bytes.length).toNat) := by
        rw [UInt8.le_iff_toNat_le, hlen, List.length_append]
        show ¬(64 ≤ l.bytes.length ∨ _)
        omega
      have hsplit : putName ((l :: ls).map Label.bytes) ++ rest =
          UInt8.ofNat l.bytes.length :: (l.bytes ++ (putName (ls.map Label.bytes) ++ rest)) := by
        rw [List.map_cons, putName, putLabels_cons, putName]
        simp only [List.cons_append, List.append_assoc]
      rw [hsplit, readName, if_neg hne, if_neg hfits, hlen, List.drop_left' rfl,
        List.take_left' rfl, ih rest]
      rfl

end Itertk.Base.Labels
