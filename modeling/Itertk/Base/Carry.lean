/-!
# One variable for a sequence of reads

A loop reads a source in each round into one variable and stores the variable; when a read
fails the variable keeps what it had.  A round may also have no source, and stores a fixed
value then.

`Attributed` says that what a round stores came from the round's own source, or is a marker
that no read can change, and nothing that the variable held before the loop either.  For that
the failures must be `Unmixed`, and a variable without an initial value must be `Started`.

## Main results

* `attributed_iff` — with an initial value, a failed read gets another source's value exactly
  when the read before it that succeeded was of another source.
* `attributed_iff_started` — without one, also when there was no such read.
-/

namespace Itertk.Base.Carry

variable {α Source : Type}

/-- The variable after `n` rounds; round `i` reads `v i` if `reads i`. -/
def carry (reads : Nat → Bool) (v : Nat → α) (a : α) : Nat → α
  | 0 => a
  | n + 1 => if reads n = true then v n else carry reads v a n

/-- The rounds that have a source and read it. -/
def reads (source : Nat → Option Source) (ok : Nat → Bool) (i : Nat) : Bool :=
  (source i).isSome && ok i

/-- Whatever is read, and in whatever state `e` the loop starts, each of the `n` values stored
was read from the round's own source or is that round's marker. -/
def Attributed {ι : Type} (source : Nat → Option Source) (ok : Nat → Bool) (n : Nat)
    (stored : ι → (Nat → α) → Nat → α) : Prop :=
  ∃ marker : Nat → α, ∀ e v j, j < n →
    stored e v j = marker j ∨
      ∃ i, i < n ∧ reads source ok i = true ∧ source i = source j ∧ stored e v j = v i

/-- Where a read fails, the last one that succeeded was of the same source. -/
def Unmixed (source : Nat → Option Source) (ok : Nat → Bool) (n : Nat) : Prop :=
  ∀ j, j < n → (source j).isSome = true → ok j = false →
    ∀ i, i < j → reads source ok i = true →
      (∀ k, i < k → k < j → reads source ok k = false) → source i = source j

/-- A round with a source has read it, or one before it has read its own. -/
def Started (source : Nat → Option Source) (ok : Nat → Bool) (n : Nat) : Prop :=
  ∀ j, j < n → (source j).isSome = true → ∃ i, i ≤ j ∧ reads source ok i = true

theorem carry_of_none {rd : Nat → Bool} (v : Nat → α) (a : α) {n : Nat}
    (h : ∀ i, i < n → rd i = false) : carry rd v a n = a := by
  induction n with
  | zero => rfl
  | succ n ih =>
      rw [carry, if_neg (by rw [h n (by omega)]; decide)]
      exact ih fun i hi => h i (by omega)

theorem carry_of_last {rd : Nat → Bool} (v : Nat → α) (a : α) {n i : Nat} (hi : i < n)
    (hread : rd i = true) (h : ∀ k, i < k → k < n → rd k = false) : carry rd v a n = v i := by
  induction n with
  | zero => exact absurd hi (Nat.not_lt_zero _)
  | succ n ih =>
      rw [carry]
      by_cases hin : i = n
      · rw [← hin, if_pos hread]
      · rw [if_neg (by rw [h n (by omega) (by omega)]; decide)]
        exact ih (by omega) fun k hk hkn => h k hk (by omega)

/-- No round has read, or one was the last. -/
theorem last_read (rd : Nat → Bool) (n : Nat) :
    (∀ i, i < n → rd i = false) ∨
      ∃ i, i < n ∧ rd i = true ∧ ∀ k, i < k → k < n → rd k = false := by
  induction n with
  | zero => exact .inl fun i hi => absurd hi (Nat.not_lt_zero _)
  | succ n ih =>
      cases hn : rd n with
      | true => exact .inr ⟨n, by omega, hn, fun k _ _ => by omega⟩
      | false =>
          have hbelow : ∀ k, k < n + 1 → (k < n → rd k = false) → rd k = false := by
            intro k hk h
            rcases Nat.lt_succ_iff_lt_or_eq.mp hk with hlt | rfl
            · exact h hlt
            · exact hn
          rcases ih with hnone | ⟨i, hi, hread, hlast⟩
          · exact .inl fun i hi => hbelow i hi (hnone i)
          · exact .inr ⟨i, by omega, hread, fun k hik hk => hbelow k hk (hlast k hik)⟩

/-! ## Loops -/

variable {ι : Type} {source : Nat → Option Source} {ok : Nat → Bool} {n : Nat} {init : ι → α}
  {blank : α} {stored : ι → (Nat → α) → Nat → α}

/-- The loop that starts in state `e` with `init e` in its variable. -/
def Stores (source : Nat → Option Source) (ok : Nat → Bool) (n : Nat) (init : ι → α) (blank : α)
    (stored : ι → (Nat → α) → Nat → α) : Prop :=
  ∀ e v j, j < n → stored e v j =
    if (source j).isSome = true then carry (reads source ok) v (init e) (j + 1) else blank

/-- A failed read must not get another source's value, if there are three values to read. -/
theorem Attributed.unmixed (hattr : Attributed source ok n stored)
    (hα : ∀ a b : α, ∃ c, c ≠ a ∧ c ≠ b) (hstored : Stores source ok n init blank stored) (e : ι) :
    Unmixed source ok n := by
  intro j hj hsource hfail i hij hread hlast
  obtain ⟨marker, hmarker⟩ := hattr
  have hnot : reads source ok j = false := by rw [reads, hfail, Bool.and_false]
  -- round `i` reads a value that is neither the marker nor what the other rounds read
  obtain ⟨x, hx⟩ := hα (marker j) (marker j)
  obtain ⟨y, hy⟩ := hα x x
  have hval : stored e (fun k => if k = i then x else y) j = x := by
    rw [hstored e _ j hj, if_pos hsource, carry_of_last _ _ (i := i) (by omega) hread, if_pos rfl]
    intro k hik hk
    rcases Nat.lt_succ_iff_lt_or_eq.mp hk with hlt | rfl
    · exact hlast k hik hlt
    · exact hnot
  rcases hmarker e (fun k => if k = i then x else y) j hj with hm | ⟨k, -, -, hsame, hk⟩
  · exact absurd (hval.symm.trans hm) hx.1
  · by_cases hki : k = i
    · rw [← hki]
      exact hsame
    · rw [hval, if_neg hki] at hk
      exact absurd hk.symm hy.1

/-- The variable must not be stored before a read has set it, if it could have held two values. -/
theorem Attributed.started (hattr : Attributed source ok n stored)
    (hα : ∀ a b : α, ∃ c, c ≠ a ∧ c ≠ b) (hstored : Stores source ok n init blank stored)
    (hinit : ∀ a, ∃ e, init e ≠ a) : Started source ok n := by
  intro j hj hsource
  obtain ⟨marker, hmarker⟩ := hattr
  rcases last_read (reads source ok) (j + 1) with hnone | ⟨i, hij, hread, -⟩
  · obtain ⟨e, he⟩ := hinit (marker j)
    obtain ⟨y, hy⟩ := hα (init e) (init e)
    have hval : stored e (fun _ => y) j = init e := by
      rw [hstored e _ j hj, if_pos hsource, carry_of_none _ _ hnone]
    rcases hmarker e (fun _ => y) j hj with hm | ⟨k, -, -, -, hk⟩
    · exact absurd (hval.symm.trans hm) he
    · exact absurd (hk.symm.trans hval) hy.1
  · exact ⟨i, Nat.le_of_lt_succ hij, hread⟩

/-- With unmixed failures a round with a source stores the initial value, before any read, or
what was read from its source. -/
theorem Stores.cases (hstored : Stores source ok n init blank stored)
    (hunmixed : Unmixed source ok n) (e : ι) (v : Nat → α) {j : Nat} (hj : j < n)
    (hsource : (source j).isSome = true) :
    (stored e v j = init e ∧ ∀ i, i ≤ j → reads source ok i = false) ∨
      ∃ i, i < n ∧ reads source ok i = true ∧ source i = source j ∧ stored e v j = v i := by
  rw [hstored e v j hj, if_pos hsource]
  cases hread : reads source ok j with
  | true =>
      refine .inr ⟨j, hj, hread, rfl, ?_⟩
      rw [carry, if_pos hread]
  | false =>
      have hfail : ok j = false := by
        rw [reads, hsource, Bool.true_and] at hread
        exact hread
      rw [carry, if_neg (by rw [hread]; decide)]
      rcases last_read (reads source ok) j with hnone | ⟨i, hij, hi, hlast⟩
      · refine .inl ⟨carry_of_none v _ hnone, fun i hi => ?_⟩
        rcases Nat.lt_or_eq_of_le hi with hlt | rfl
        · exact hnone i hlt
        · exact hread
      · exact .inr ⟨i, by omega, hi, hunmixed j hj hsource hfail i hij hi hlast,
          carry_of_last v _ hij hi hlast⟩

/-- The initial value is a marker if it is always the same. -/
theorem attributed_iff {a : α} [Nonempty ι] (hα : ∀ a b : α, ∃ c, c ≠ a ∧ c ≠ b)
    (hstored : Stores source ok n (fun _ : ι => a) blank stored) :
    Attributed source ok n stored ↔ Unmixed source ok n := by
  constructor
  · intro hattr
    obtain ⟨e⟩ := ‹Nonempty ι›
    exact hattr.unmixed hα hstored e
  · intro hunmixed
    refine ⟨fun j => if (source j).isSome = true then a else blank, fun e v j hj => ?_⟩
    dsimp only
    by_cases hsource : (source j).isSome = true
    · rw [if_pos hsource]
      exact (hstored.cases hunmixed e v hj hsource).imp And.left id
    · rw [if_neg hsource, hstored e v j hj, if_neg hsource]
      exact .inl rfl

/-- What a variable that is not initialised happens to hold is none. -/
theorem attributed_iff_started (hα : ∀ a b : α, ∃ c, c ≠ a ∧ c ≠ b)
    (hstored : Stores source ok n init blank stored) (hinit : ∀ a, ∃ e, init e ≠ a) :
    Attributed source ok n stored ↔ Unmixed source ok n ∧ Started source ok n := by
  constructor
  · intro hattr
    obtain ⟨e, -⟩ := hinit blank
    exact ⟨hattr.unmixed hα hstored e, hattr.started hα hstored hinit⟩
  · intro h
    obtain ⟨hunmixed, hstarted⟩ := h
    refine ⟨fun _ => blank, fun e v j hj => ?_⟩
    by_cases hsource : (source j).isSome = true
    · rcases hstored.cases hunmixed e v hj hsource with ⟨-, hnone⟩ | hown
      · obtain ⟨i, hij, hread⟩ := hstarted j hj hsource
        rw [hnone i hij] at hread
        exact absurd hread Bool.false_ne_true
      · exact .inr hown
    · rw [hstored e v j hj, if_neg hsource]
      exact .inl rfl

end Itertk.Base.Carry
