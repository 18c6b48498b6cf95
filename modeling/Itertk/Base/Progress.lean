import Itertk.Base.Run

/-!
# Runs that reach a goal

Some inputs of a run make progress and some do not.  If no step raises a measure and every
step with an input that makes progress lowers it, a run with more such inputs than the measure
has reached its goal.

## Main results

* `exec_reaches` — enough inputs that make progress lead to the goal.
-/

namespace Itertk.Base.Progress

open Itertk.Base.Run

variable {σ ι : Type} {step : σ → ι → σ}

/-- A goal that is kept once it is reached is reached by enough progress. -/
theorem exec_reaches {I D : σ → Prop} {A : σ → ι → Prop} {μ : σ → Nat} {p : ι → Bool}
    (hkeep : ∀ s x, D s → D (step s x))
    (hstep : ∀ s x, I s → A s x →
      D (step s x) ∨ I (step s x) ∧ μ (step s x) ≤ μ s ∧ (p x = true → μ (step s x) < μ s))
    {s : σ} (hs : I s) {xs : List ι} (hA : StepsSatisfy step A s xs) (hlen : μ s < xs.countP p) :
    D (exec step s xs) := by
  induction xs generalizing s with
  | nil => exact absurd hlen (Nat.not_lt_zero _)
  | cons x xs ih =>
      obtain ⟨hx, hxs⟩ := hA
      rcases hstep s x hs hx with hdone | ⟨hnext, hle, hlt⟩
      · have hall : ∀ (ys : List ι) (t : σ), D t → D (exec step t ys) := by
          intro ys
          induction ys with
          | nil => exact fun _ ht => ht
          | cons y ys ihy => exact fun t ht => ihy _ (hkeep t y ht)
        exact hall xs _ hdone
      · refine ih hnext hxs ?_
        cases hp : p x with
        | true =>
            have hlow := hlt hp
            rw [List.countP_cons_of_pos hp] at hlen
            omega
        | false =>
            rw [List.countP_cons_of_neg (by rw [hp]; exact Bool.false_ne_true)] at hlen
            omega

end Itertk.Base.Progress
