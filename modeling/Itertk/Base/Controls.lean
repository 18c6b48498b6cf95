import Mathlib.Data.List.Nodup

/-!
# The controls of a form

A page is a list of controls, each with a name and with what it shows.  When a button is
pressed, the browser sends a pair for every control that has something to say, in the order
of the page; whoever receives the pairs looks a control up by its name.

## Main results

* `find_submission` — a control is found with its own value, and only if it has one.
* `shown_marked` — a drop-down list shows an option that is marked, if there is one.
-/

namespace Itertk.Base.Controls

variable {τ : Type}

/-- A control, as it is shown; `choice` is the index of the chosen option. -/
inductive Control (τ : Type) where
  | select (name : τ) (options : List τ) (choice : Nat)
  | text (name value : τ)
  | checkbox (name value : τ) (ticked : Bool)
  | submit (name value : τ)

namespace Control

def name : Control τ → τ
  | select name _ _ | text name _ | checkbox name _ _ | submit name _ => name

/-- What the control sends when a button is pressed. -/
def value [DecidableEq τ] (button : τ) : Control τ → Option τ
  | select _ options choice => options[choice]?
  | text _ value => some value
  | checkbox _ value ticked => if ticked then some value else none
  | submit name value => if name = button then some value else none

end Control

/-- The pairs that are sent. -/
def submission [DecidableEq τ] (button : τ) (page : List (Control τ)) : List (τ × τ) :=
  page.filterMap fun c => (c.value button).map (c.name, ·)

/-! ## Looking a control up -/

section Lookup

variable [DecidableEq τ] (button : τ) {page : List (Control τ)}

/-- Only the names of the page are sent. -/
theorem mem_submission {button : τ} {e : τ × τ} (h : e ∈ submission button page) :
    ∃ c ∈ page, c.name = e.1 ∧ c.value button = some e.2 := by
  obtain ⟨c, hc, heq⟩ := List.mem_filterMap.mp h
  obtain ⟨v, hv, rfl⟩ := Option.map_eq_some_iff.mp heq
  exact ⟨c, hc, rfl, hv⟩

/-- A name that is not on the page is not found. -/
theorem find_submission_none {name : τ} (h : name ∉ page.map Control.name) :
    ((submission button page).find? fun e => e.1 = name) = none := by
  apply List.find?_eq_none.mpr
  intro e he
  obtain ⟨c, hc, hname, -⟩ := mem_submission he
  intro heq
  rw [decide_eq_true_eq] at heq
  exact h (List.mem_map.mpr ⟨c, hc, hname.trans heq⟩)

/-- A control is found with what it sends. -/
theorem find_submission (hnames : (page.map Control.name).Nodup) {c : Control τ} (hc : c ∈ page) :
    ((submission button page).find? fun e => e.1 = c.name) =
      (c.value button).map (c.name, ·) := by
  induction page with
  | nil => cases hc
  | cons d page ih =>
      rw [List.map_cons, List.nodup_cons] at hnames
      rcases List.mem_cons.mp hc with rfl | hc
      · cases hv : c.value button with
        | none =>
            have hrest := find_submission_none button hnames.1
            simpa [submission, hv] using hrest
        | some v => simp [submission, hv]
      · have hne : ¬d.name = c.name := fun heq =>
          hnames.1 (List.mem_map.mpr ⟨c, hc, heq.symm⟩)
        have hrest := ih hnames.2 hc
        cases hv : d.value button with
        | none => simpa [submission, hv] using hrest
        | some v => simpa [submission, hv, hne] using hrest

end Lookup

/-! ## Marked options -/

/-- The option that a list of `n` options shows: the last one that is marked, or the first. -/
def shown (marked : Nat → Bool) : Nat → Nat
  | 0 => 0
  | n + 1 => if marked n then n else shown marked n

variable {marked : Nat → Bool} {n : Nat}

theorem shown_lt (h : 0 < n) : shown marked n < n := by
  induction n with
  | zero => omega
  | succ n ih =>
      rw [shown]
      split
      · omega
      · cases n with
        | zero => simp [shown]
        | succ n => exact Nat.lt_succ_of_lt (ih (Nat.succ_pos n))

theorem shown_marked {i : Nat} (hi : i < n) (h : marked i = true) :
    marked (shown marked n) = true := by
  induction n with
  | zero => omega
  | succ n ih =>
      rw [shown]
      split
      · assumption
      · rename_i hn
        refine ih (Nat.lt_of_le_of_ne (Nat.le_of_lt_succ hi) ?_)
        rintro rfl
        exact hn h

end Itertk.Base.Controls
