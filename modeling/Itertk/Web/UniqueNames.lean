import Itertk.Web.Accounts

/-!
# Whether user names are unique

Login, permission, deletion and modification all take the first slot with a name.
`sys_usr_add` looks for the name first; `set_usr_name` does not look whether
another slot has the new name, so a rename can give two slots the same one.
-/

namespace Itertk.Web.UniqueNames

open Itertk.Base.Memory
open Itertk.Base.Run
open Itertk.Base.Slots
open Itertk.Daemon.Layout
open Itertk.Daemon.Config
open Itertk.Daemon.State
open Itertk.Web.Accounts

/-- No two slots of `con_usr` hold the same non-empty name. -/
def NamesUnique (d : Device) : Prop := Distinct maxUsrNum [] (userNames d.conf)

/-- A request that renames the user in slot `i` brings a name that no other slot has. -/
def RenamesFresh (d : Device) (r : UserRequest) : Prop :=
  ∀ name nname, operation d.conf r = some (.modify name nname) → nname ≠ [] →
    ∀ i, Op.find (userNames d.conf) name = some i →
      ∀ j, j < maxUsrNum → j ≠ i → userNames d.conf j ≠ nname

/-- An operation keeps a table of names distinct unless it is a rename to a name that
another slot has. -/
theorem distinct_apply_iff {t : Names} (h : Distinct maxUsrNum [] t) (o : Op) :
    Distinct maxUsrNum [] (apply t (some o)) ↔
      ∀ name nname, o = .modify name nname → nname ≠ [] → ∀ i, Op.find t name = some i →
        ∀ j, j < maxUsrNum → j ≠ i → t j ≠ nname := by
  show Distinct maxUsrNum [] (write t (o.edit t)) ↔ _
  cases hedit : o.edit t with
  | none =>
      refine iff_of_true h fun name nname hmodify hnew i hslot => ?_
      rw [edit_eq_some_iff.mpr (.inr (.inr ⟨name, hmodify, hnew, hslot⟩))] at hedit
      cases hedit
  | some e =>
      obtain ⟨i, x⟩ := e
      show Distinct maxUsrNum [] (Function.update t i x) ↔ _
      rcases edit_eq_some_iff.mp hedit with ⟨rfl, hnew, hslot⟩ | ⟨name, rfl, -, hslot, rfl⟩ |
        ⟨name, rfl, hnew, hslot⟩
      · refine iff_of_true ?_ fun _ _ hmodify => by cases hmodify
        refine (distinct_update_iff h (find_lt hslot).1 x).mpr (.inr fun j hj _ => ?_)
        exact (find_none hnew j hj).symm
      · refine iff_of_true ?_ fun _ _ hmodify => by cases hmodify
        exact (distinct_update_iff h (find_lt hslot).1 []).mpr (.inl rfl)
      · have hupdate := distinct_update_iff h (find_lt hslot).1 x
        constructor
        · intro hd _ _ hmodify _ k hk
          cases hmodify
          rw [hslot] at hk
          cases hk
          exact (hupdate.mp hd).resolve_left hnew
        · intro hfresh
          exact hupdate.mpr (.inr (hfresh name x rfl hnew i hslot))

/-- A request keeps names unique exactly when it does not rename to a name in use. -/
theorem renamesFresh_iff {d : Device} {r : UserRequest} (htidy : Tidy d.conf)
    (hunique : NamesUnique d) (hterm : Terminated d.conf r) :
    RenamesFresh d r ↔ NamesUnique (handle d r) := by
  rw [NamesUnique, Distinct.congr (handle_edited d htidy hterm).names, RenamesFresh]
  cases hop : operation d.conf r with
  | none => exact iff_of_true (fun _ _ h => by cases h) hunique
  | some o =>
      refine Iff.trans ?_ (distinct_apply_iff hunique o).symm
      constructor
      · exact fun h name nname ho => h name nname (congrArg some ho)
      · exact fun h name nname ho => h name nname (Option.some.inj ho)

/-- From the default table on, names stay unique exactly when no handled `MODIFY`
gives a user the name of another. -/
theorem namesUnique_iff {b : Build} (hcrypt : CryptFits b) {m : Mem} {d : Device}
    (hd : d.conf = configMakedefault b m) {rs : List UserRequest} (hterm : TerminatedRun d rs) :
    (∀ ys, ys <+: rs → NamesUnique (exec handle d ys)) ↔
      StepsSatisfy handle RenamesFresh d rs := by
  have hstart := configMakedefault_holds hcrypt hd
  have hunique : NamesUnique d := by
    rw [NamesUnique, Distinct.congr hstart.names]
    intro i j _ _ hne hsame
    have hzero : ∀ k, defaultNames k ≠ [] → k = 0 := by
      intro k hk
      apply Classical.byContradiction
      intro hk0
      rw [defaultNames, Function.update_of_ne hk0] at hk
      exact hk rfl
    rw [hzero i hne, hzero j (hsame ▸ hne)]
  exact reaches_iff_under (fun d r htidy hr => handle_tidy d htidy hr)
    (fun d r htidy hg hr => renamesFresh_iff htidy hg hr) hstart.tidy hunique hterm

/-! ## Two requests of `root` -/

/-- `ADD "a"`. -/
def addA : UserRequest :=
  requestOf rootName .add (usrRecord (chars ['a']) [] ++ usrRecord [] [])

/-- `MODIFY "a"` to `"root"`. -/
def renameA : UserRequest :=
  requestOf rootName .modify (usrRecord (chars ['a']) [] ++ usrRecord rootName [])

private theorem addA_fits : StringsFit addA := by decide +kernel

private theorem renameA_fits : StringsFit renameA := by decide +kernel

/-- The first of them keeps names unique. -/
theorem namesUnique_addA : NamesUnique (exec handle factoryDevice [addA]) := by
  have hterm : TerminatedRun factoryDevice [addA] := ⟨addA_fits.terminated _, trivial⟩
  refine (namesUnique_iff factoryBuild_fits rfl hterm).mpr ⟨?_, trivial⟩ _ (List.prefix_refl _)
  intro name nname hop
  have hadd : opOf addA.flag addA.extdat = some (.add (chars ['a'])) := by decide +kernel
  rw [operation, hadd] at hop
  split at hop
  · cases hop
  · cases hop

/-- After the second, slots 0 and 1 hold `"root"`. -/
theorem namesUnique_renameA :
    ¬∀ (b : Build) (m : Mem) (d : Device) (rs : List UserRequest), CryptFits b →
      d.conf = configMakedefault b m → TerminatedRun d rs →
        ∀ ys, ys <+: rs → NamesUnique (exec handle d ys) := by
  intro h
  have hterm : TerminatedRun factoryDevice [addA, renameA] :=
    ⟨addA_fits.terminated _, renameA_fits.terminated _, trivial⟩
  have hunique := h factoryBuild zero factoryDevice [addA, renameA] factoryBuild_fits rfl hterm _
    (List.prefix_refl _)
  have hnames := (factoryDevice_holds.run hterm).names
  have hdistinct := (Distinct.congr hnames).mp hunique
  have hsame : exec step defaultNames [addA, renameA] 0 =
      exec step defaultNames [addA, renameA] 1 := by
    decide +kernel
  have hne : exec step defaultNames [addA, renameA] 0 ≠ [] := by decide +kernel
  exact absurd (hdistinct 0 1 (by decide) (by decide) hne hsame) (by decide)

end Itertk.Web.UniqueNames
