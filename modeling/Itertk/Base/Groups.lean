/-!
# Text in groups

Every list is a sequence of groups between separators.  Nothing here mentions a particular
program.
-/

namespace Itertk.Base.Groups

variable {α : Type} {sep : α}

/-- A change of every element changes the groups and the separator. -/
theorem map_intercalate {β : Type} (f : α → β) (gs : List (List α)) :
    ([sep].intercalate gs).map f = [f sep].intercalate (gs.map (List.map f)) := by
  induction gs with
  | nil => rfl
  | cons g gs ih =>
      cases gs with
      | nil => rw [List.intercalate_singleton, List.map_singleton, List.intercalate_singleton]
      | cons g' gs =>
          rw [List.intercalate_cons_cons, List.map_append, List.map_append, ih, List.map_singleton]
          exact List.intercalate_cons_cons.symm

variable [DecidableEq α]

/-- The groups of a list. -/
theorem exists_groups (sep : α) (l : List α) :
    ∃ g gs, (∀ w ∈ g :: gs, sep ∉ w) ∧ l = [sep].intercalate (g :: gs) := by
  induction l with
  | nil =>
      refine ⟨[], [], fun w hw => ?_, rfl⟩
      rw [List.mem_singleton.mp hw]
      exact List.not_mem_nil
  | cons c l ih =>
      obtain ⟨g, gs, hsep, rfl⟩ := ih
      by_cases hc : c = sep
      · refine ⟨[], g :: gs, fun w hw => ?_, ?_⟩
        · rcases List.mem_cons.mp hw with rfl | hw
          · exact List.not_mem_nil
          · exact hsep w hw
        · rw [List.intercalate_cons_cons, hc]
          rfl
      · refine ⟨c :: g, gs, fun w hw => ?_, ?_⟩
        · rcases List.mem_cons.mp hw with rfl | hw
          · intro hmem
            rcases List.mem_cons.mp hmem with heq | hmem
            · exact hc heq.symm
            · exact hsep g List.mem_cons_self hmem
          · exact hsep w (List.mem_cons_of_mem g hw)
        · cases gs with
          | nil => rw [List.intercalate_singleton, List.intercalate_singleton]
          | cons g' gs =>
              rw [List.intercalate_cons_cons, List.intercalate_cons_cons, List.cons_append,
                List.cons_append]

end Itertk.Base.Groups
