/-!
# Reading a stream that arrives in chunks

A reliable byte stream delivers its bytes in order and cuts them anywhere.
`readFull` is the reader that goes on until it has what it asked for, `readOnce`
the one that takes what the first chunk holds.  What `readFull` returns does not
depend on the cuts; what `readOnce` returns does.

## Main results

* `readFull_eq` — on every segmentation of enough data, `readFull` returns the
  first `n` elements of the stream and leaves the others, in order.
* `readOnce_eq_take_iff` — `readOnce` returns the first `n` elements exactly when
  the first chunk holds them.
-/

namespace Itertk.Base.Chunks

variable {α : Type}

/-- Read until `n` elements have arrived: they, and the chunks still unread. -/
def readFull : Nat → List (List α) → Option (List α × List (List α))
  | _, [] => none
  | n, c :: cs =>
      if n ≤ c.length then some (c.take n, if c.drop n = [] then cs else c.drop n :: cs)
      else (readFull (n - c.length) cs).map fun r => (c ++ r.1, r.2)

/-- Read at most `n` elements of the first chunk. -/
def readOnce (n : Nat) : List (List α) → List α
  | [] => []
  | c :: _ => c.take n

/-- Every chunk carries something. -/
def Solid (cs : List (List α)) : Prop := ∀ c ∈ cs, c ≠ []

theorem Solid.tail {c : List α} {cs : List (List α)} (h : Solid (c :: cs)) : Solid cs :=
  fun c' hc' => h c' (List.mem_cons_of_mem c hc')

theorem Solid.head {c : List α} {cs : List (List α)} (h : Solid (c :: cs)) : c ≠ [] :=
  h c List.mem_cons_self

/-- What remains of a chunk goes back in front of the others. -/
theorem flatten_putBack (c : List α) (cs : List (List α)) (n : Nat) :
    (if c.drop n = [] then cs else c.drop n :: cs).flatten = c.drop n ++ cs.flatten := by
  by_cases h : c.drop n = []
  · rw [if_pos h, h, List.nil_append]
  · rw [if_neg h, List.flatten_cons]

private theorem solid_putBack {c : List α} {cs : List (List α)} (h : Solid (c :: cs)) (n : Nat) :
    Solid (if c.drop n = [] then cs else c.drop n :: cs) := by
  by_cases hd : c.drop n = []
  · rw [if_pos hd]
    exact h.tail
  · rw [if_neg hd]
    intro c' hc'
    rcases List.mem_cons.mp hc' with rfl | hc'
    · exact hd
    · exact h.tail c' hc'

/-- However the stream is cut, its first `n` elements are read and the rest is
left. -/
theorem readFull_eq {cs : List (List α)} (hsolid : Solid cs) {n : Nat} (hpos : 0 < n)
    (hlen : n ≤ cs.flatten.length) :
    ∃ rest, readFull n cs = some (cs.flatten.take n, rest) ∧ Solid rest ∧
      rest.flatten = cs.flatten.drop n := by
  induction cs generalizing n with
  | nil =>
      have : n = 0 := Nat.le_zero.mp hlen
      omega
  | cons c cs ih =>
      rw [List.flatten_cons, List.length_append] at hlen
      rw [List.flatten_cons]
      by_cases hle : n ≤ c.length
      · refine ⟨_, by rw [readFull, if_pos hle, List.take_append_of_le_length hle],
          solid_putBack hsolid n, ?_⟩
        rw [flatten_putBack, List.drop_append_of_le_length hle]
      · obtain ⟨rest, hread, hrest, hflat⟩ := ih hsolid.tail (n := n - c.length)
          (by omega) (by omega)
        have htake : (c ++ cs.flatten).take n = c ++ cs.flatten.take (n - c.length) := by
          rw [List.take_append, List.take_of_length_le (l := c) (by omega)]
        have hdrop : (c ++ cs.flatten).drop n = cs.flatten.drop (n - c.length) := by
          have hnil : c.drop n = [] := List.drop_eq_nil_of_le (by omega)
          rw [List.drop_append, hnil, List.nil_append]
        refine ⟨rest, ?_, hrest, ?_⟩
        · rw [readFull, if_neg hle, hread, Option.map_some, htake]
        · rw [hflat, hdrop]

/-- One read is enough exactly when the first chunk is. -/
theorem readOnce_eq_take_iff {c : List α} {cs : List (List α)} {n : Nat}
    (hlen : n ≤ (c :: cs).flatten.length) :
    readOnce n (c :: cs) = (c :: cs).flatten.take n ↔ n ≤ c.length := by
  rw [List.flatten_cons] at hlen ⊢
  constructor
  · intro h
    have hlength := congrArg List.length h
    rw [readOnce, List.length_take, List.length_take, Nat.min_eq_left hlen] at hlength
    omega
  · intro h
    rw [readOnce, List.take_append_of_le_length h]

end Itertk.Base.Chunks
