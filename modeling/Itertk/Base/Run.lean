/-!
# Runs of a deterministic step

A system is a step `σ → ι → σ` over states and inputs; a run is a list of
inputs.  `StepsSatisfy P` says that every step of a run, taken in the state it
is taken in, satisfies `P`.  A safety property of all reachable states is then an
equivalence between two such predicates, and `stepsSatisfy_iff` reduces it to
one step taken in a state where the invariant holds.
-/

namespace Itertk.Base.Run

variable {σ ι : Type} (step : σ → ι → σ)

/-- The state after a run. -/
def exec (s : σ) : List ι → σ
  | [] => s
  | x :: xs => exec (step s x) xs

/-- Every step of the run satisfies `P` in the state it is taken in. -/
def StepsSatisfy (P : σ → ι → Prop) (s : σ) : List ι → Prop
  | [] => True
  | x :: xs => P s x ∧ StepsSatisfy P (step s x) xs

instance decidableStepsSatisfy {P : σ → ι → Prop} [∀ s x, Decidable (P s x)] :
    ∀ (s : σ) (xs : List ι), Decidable (StepsSatisfy step P s xs)
  | _, [] => inferInstanceAs (Decidable True)
  | s, x :: xs =>
      have : Decidable (StepsSatisfy step P (step s x) xs) := decidableStepsSatisfy (step s x) xs
      inferInstanceAs (Decidable (P s x ∧ StepsSatisfy step P (step s x) xs))

theorem exec_append (s : σ) (xs ys : List ι) :
    exec step s (xs ++ ys) = exec step (exec step s xs) ys := by
  induction xs generalizing s with
  | nil => rfl
  | cons x xs ih => exact ih (step s x)

/-- Predicates that say the same of every step say the same of every run. -/
theorem stepsSatisfy_congr {P Q : σ → ι → Prop} (h : ∀ s x, P s x ↔ Q s x) (s : σ)
    (xs : List ι) : StepsSatisfy step P s xs ↔ StepsSatisfy step Q s xs := by
  induction xs generalizing s with
  | nil => exact Iff.rfl
  | cons x xs ih => exact and_congr (h s x) (ih (step s x))

variable {step}

/-- If in every state of the invariant a step satisfies `P` exactly when it
satisfies `Q` and restores the invariant, the two predicates hold of the same
runs. -/
theorem stepsSatisfy_iff {I : σ → Prop} {P Q : σ → ι → Prop}
    (h : ∀ s x, I s → (P s x ↔ I (step s x) ∧ Q s x)) {s : σ} (hs : I s)
    (xs : List ι) :
    StepsSatisfy step P s xs ↔ StepsSatisfy step (fun s x => I (step s x) ∧ Q s x) s xs := by
  induction xs generalizing s with
  | nil => exact Iff.rfl
  | cons x xs ih =>
      constructor
      · rintro ⟨hP, hrest⟩
        have hQ := (h s x hs).mp hP
        exact ⟨hQ, (ih hQ.1).mp hrest⟩
      · rintro ⟨hQ, hrest⟩
        exact ⟨(h s x hs).mpr hQ, (ih hQ.1).mpr hrest⟩

/-- In a run whose steps satisfy `A`, and so keep the invariant `I`, the property `G`
holds of every state exactly when every step satisfies `P`, provided that each step
from a state with both leads to one with `G` exactly when it satisfies `P`. -/
theorem reaches_iff_under {I G : σ → Prop} {A P : σ → ι → Prop}
    (hI : ∀ s x, I s → A s x → I (step s x))
    (hG : ∀ s x, I s → G s → A s x → (P s x ↔ G (step s x))) {s : σ} (hs : I s) (hg : G s)
    {xs : List ι} (hA : StepsSatisfy step A s xs) :
    (∀ ys, ys <+: xs → G (exec step s ys)) ↔ StepsSatisfy step P s xs := by
  induction xs generalizing s with
  | nil =>
      constructor
      · exact fun _ => trivial
      · intro _ ys hys
        rw [List.prefix_nil.mp hys]
        exact hg
  | cons x xs ih =>
      obtain ⟨hx, hxs⟩ := hA
      have hnext := hI s x hs hx
      constructor
      · intro hall
        have hgx : G (step s x) := hall [x] ⟨xs, rfl⟩
        have hrest : ∀ ys, ys <+: xs → G (exec step (step s x) ys) := fun ys hys =>
          hall (x :: ys) ((List.prefix_cons_inj x).mpr hys)
        exact ⟨(hG s x hs hg hx).mpr hgx, (ih hnext hgx hxs).mp hrest⟩
      · rintro ⟨hP, hrest⟩ ys hys
        have hgx : G (step s x) := (hG s x hs hg hx).mp hP
        cases ys with
        | nil => exact hg
        | cons y ys =>
            obtain ⟨rfl, htail⟩ := List.cons_prefix_cons.mp hys
            exact (ih hnext hgx hxs).mpr hrest ys htail

/-- What steps that satisfy `A` keep holds after a run of such steps. -/
theorem exec_under {I : σ → Prop} {A : σ → ι → Prop} (hI : ∀ s x, I s → A s x → I (step s x))
    {s : σ} (hs : I s) {xs : List ι} (hA : StepsSatisfy step A s xs) : I (exec step s xs) := by
  induction xs generalizing s with
  | nil => exact hs
  | cons x xs ih => exact ih (hI s x hs hA.1) hA.2

/-- What a step satisfies from a state with `I` if it satisfies `A`, all steps of such a
run do. -/
theorem stepsSatisfy_under {I : σ → Prop} {A P : σ → ι → Prop}
    (hI : ∀ s x, I s → A s x → I (step s x)) (hP : ∀ s x, I s → A s x → P s x) {s : σ} (hs : I s)
    {xs : List ι} (hA : StepsSatisfy step A s xs) : StepsSatisfy step P s xs := by
  induction xs generalizing s with
  | nil => trivial
  | cons x xs ih => exact ⟨hP s x hs hA.1, ih (hI s x hs hA.1) hA.2⟩

/-- Two predicates that agree on the steps that satisfy `A`, in the states of an invariant
that `P` restores, hold of the same runs of such steps. -/
theorem stepsSatisfy_iff_under {I : σ → Prop} {A P Q : σ → ι → Prop}
    (hPQ : ∀ s x, I s → A s x → (P s x ↔ Q s x))
    (hI : ∀ s x, I s → A s x → P s x → I (step s x)) {s : σ} (hs : I s) {xs : List ι}
    (hA : StepsSatisfy step A s xs) : StepsSatisfy step P s xs ↔ StepsSatisfy step Q s xs := by
  induction xs generalizing s with
  | nil => exact Iff.rfl
  | cons x xs ih =>
      have hhead := hPQ s x hs hA.1
      constructor
      · rintro ⟨hP, hrest⟩
        exact ⟨hhead.mp hP, (ih (hI s x hs hA.1 hP) hA.2).mp hrest⟩
      · rintro ⟨hQ, hrest⟩
        have hP := hhead.mpr hQ
        exact ⟨hP, (ih (hI s x hs hA.1 hP) hA.2).mpr hrest⟩

theorem stepsSatisfy_and {P Q : σ → ι → Prop} (s : σ) (xs : List ι) :
    StepsSatisfy step (fun s x => P s x ∧ Q s x) s xs ↔
      StepsSatisfy step P s xs ∧ StepsSatisfy step Q s xs := by
  induction xs generalizing s with
  | nil => exact ⟨fun h => ⟨h, h⟩, And.left⟩
  | cons x xs ih => exact (and_congr_right fun _ => ih (step s x)).trans and_and_and_comm

/-- A run satisfies a predicate exactly when its two parts do. -/
theorem stepsSatisfy_append {P : σ → ι → Prop} (s : σ) (xs ys : List ι) :
    StepsSatisfy step P s (xs ++ ys) ↔
      StepsSatisfy step P s xs ∧ StepsSatisfy step P (exec step s xs) ys := by
  induction xs generalizing s with
  | nil => exact ⟨fun h => ⟨trivial, h⟩, And.right⟩
  | cons x xs ih => exact (and_congr_right fun _ => ih (step s x)).trans and_assoc.symm

/-- Inputs that satisfy a predicate in every state. -/
theorem stepsSatisfy_of_mem {P : σ → ι → Prop} {xs : List ι} (h : ∀ x ∈ xs, ∀ s, P s x) (s : σ) :
    StepsSatisfy step P s xs := by
  induction xs generalizing s with
  | nil => trivial
  | cons x xs ih =>
      exact ⟨h x List.mem_cons_self s, ih (fun y hy => h y (List.mem_cons_of_mem x hy)) (step s x)⟩

/-- A predicate of every step holds of every run. -/
theorem stepsSatisfy_of_forall {P : σ → ι → Prop} (h : ∀ s x, P s x) (s : σ) (xs : List ι) :
    StepsSatisfy step P s xs :=
  stepsSatisfy_of_mem (fun x _ s => h s x) s

/-- A predicate of the image of a state may be read off the run of the images. -/
theorem stepsSatisfy_image {τ : Type} {step' : τ → ι → τ} (f : σ → τ)
    (hf : ∀ s x, f (step s x) = step' (f s) x) (P : τ → ι → Prop) (s : σ) (xs : List ι) :
    StepsSatisfy step (fun s x => P (f s) x) s xs ↔ StepsSatisfy step' P (f s) xs := by
  induction xs generalizing s with
  | nil => exact Iff.rfl
  | cons x xs ih =>
      refine and_congr_right fun _ => ?_
      rw [← hf]
      exact ih (step s x)

/-- If related states meet `P` and `P'` with the same inputs and such steps keep them
related, the predicates hold of the same runs. -/
theorem stepsSatisfy_simulation {τ : Type} {step' : τ → ι → τ} {R : σ → τ → Prop}
    {P : σ → ι → Prop} {P' : τ → ι → Prop} (hP : ∀ s t x, R s t → (P s x ↔ P' t x))
    (hR : ∀ s t x, R s t → P s x → R (step s x) (step' t x)) {s : σ} {t : τ} (h : R s t)
    (xs : List ι) : StepsSatisfy step P s xs ↔ StepsSatisfy step' P' t xs := by
  induction xs generalizing s t with
  | nil => exact Iff.rfl
  | cons x xs ih =>
      constructor
      · intro hall
        exact ⟨(hP s t x h).mp hall.1, (ih (hR s t x h hall.1)).mp hall.2⟩
      · intro hall
        have hx := (hP s t x h).mpr hall.1
        exact ⟨hx, (ih (hR s t x h hx)).mpr hall.2⟩

theorem exec_image {τ : Type} {step' : τ → ι → τ} (f : σ → τ)
    (hf : ∀ s x, f (step s x) = step' (f s) x) (s : σ) (xs : List ι) :
    f (exec step s xs) = exec step' (f s) xs := by
  induction xs generalizing s with
  | nil => rfl
  | cons x xs ih =>
      rw [exec, exec, ← hf]
      exact ih (step s x)

/-- If from a state of the invariant a step leads to one exactly when it satisfies
`P`, every state of a run is in the invariant exactly when every step satisfies
`P`. -/
theorem reaches_iff {I : σ → Prop} {P : σ → ι → Prop}
    (h : ∀ s x, I s → (P s x ↔ I (step s x))) {s : σ} (hs : I s) (xs : List ι) :
    (∀ ys, ys <+: xs → I (exec step s ys)) ↔ StepsSatisfy step P s xs :=
  reaches_iff_under (I := fun _ => True) (A := fun _ _ => True) (fun _ _ _ _ => trivial)
    (fun s x _ hg _ => h s x hg) trivial hs (stepsSatisfy_of_forall (fun _ _ => trivial) s xs)

end Itertk.Base.Run
