/-!
# Readers of encoded values

A reader takes one value off the front of a list of symbols.  It inverts an encoding
on a value when, whatever follows the encoded value, it returns the value and what
follows: encodings that are inverted can be written one after the other.
-/

namespace Itertk.Base.Codec

variable {α β : Type}

/-- Takes one value off the front, if there is one. -/
abbrev Reader (β α : Type) := List β → Option (α × List β)

/-- The reader takes exactly the encoding of `x` off whatever follows it. -/
def Inverts (read : Reader β α) (enc : α → List β) (x : α) : Prop :=
  ∀ rest, read (enc x ++ rest) = some (x, rest)

/-- Takes `n` values off the front. -/
def readMany (read : Reader β α) : Nat → Reader β (List α)
  | 0, bs => some ([], bs)
  | n + 1, bs =>
      match read bs with
      | none => none
      | some (x, bs) =>
          match readMany read n bs with
          | none => none
          | some (xs, bs) => some (x :: xs, bs)

/-- Values that are inverted may be written one after the other. -/
theorem inverts_many {read : Reader β α} {enc : α → List β} (xs : List α)
    (h : ∀ x ∈ xs, Inverts read enc x) :
    Inverts (readMany read xs.length) (List.flatMap enc) xs := by
  induction xs with
  | nil => exact fun _ => rfl
  | cons x xs ih =>
      intro rest
      have hx := h x List.mem_cons_self (xs.flatMap enc ++ rest)
      have hxs := ih (fun y hy => h y (List.mem_cons_of_mem x hy)) rest
      rw [List.flatMap_cons, List.append_assoc, List.length_cons, readMany, hx]
      simp only [hxs]

end Itertk.Base.Codec
