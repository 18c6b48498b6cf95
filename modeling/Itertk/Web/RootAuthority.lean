import Itertk.Web.Accounts

/-!
# Where the administrator's authority goes

`usr_auth` belongs to a slot: `sys_usr_del` clears the name and leaves it, and
`sys_usr_add` takes it over.  `sys_usr_set` protects the name `root` from deletion,
but not the slot, whose user may have been renamed.
-/

namespace Itertk.Web.RootAuthority

open Itertk.Base.Memory
open Itertk.Base.Run
open Itertk.Daemon.Layout
open Itertk.Daemon.Config
open Itertk.Daemon.State
open Itertk.Itsip.Header
open Itertk.Web.Users
open Itertk.Web.Accounts

/-! ## Who was added -/

/-- The device, and the slots whose user was put there by `USER_ADD`. -/
structure Ledger where
  dev : Device
  added : Nat → Bool

/-- A request handled, and recorded: a slot is left when its name is emptied, and
taken when `USER_ADD` names it. -/
def record (s : Ledger) (r : UserRequest) : Ledger where
  dev := handle s.dev r
  added i :=
    if userNames (handle s.dev r).conf i = [] then false
    else if userNames s.dev.conf i = [] ∧ UserSet.ofByte r.flag = some .add then true
    else s.added i

/-- No free slot has `USR_ROOT`, and everyone added has `USR_NORMAL`. -/
structure RootKept (s : Ledger) : Prop where
  free : ∀ i, i < maxUsrNum → userNames s.dev.conf i = [] → usrAuth s.dev.conf i ≠ usrRoot
  added : ∀ i, i < maxUsrNum → s.added i = true → usrAuth s.dev.conf i = usrNormal

/-- A request that deletes a user finds that the slot does not have `USR_ROOT`. -/
def DeletesNormal (s : Ledger) (r : UserRequest) : Prop :=
  ∀ name, operation s.dev.conf r = some (.del name) → name ≠ rootName →
    ∀ i, Op.find (userNames s.dev.conf) name = some i → usrAuth s.dev.conf i ≠ usrRoot

/-! ## Slot 0 -/

/-- An operation frees slot 0 only as a deletion under another name than `root`. -/
theorem apply_frees_iff {t : Names} (h : t 0 ≠ []) (o : Op) :
    apply t (some o) 0 = [] ↔
      ∃ name, o = .del name ∧ name ≠ rootName ∧ Op.find t name = some 0 := by
  rw [apply_eq_iff h, edit_eq_some_iff]
  constructor
  · rintro (⟨-, hnew, hslot⟩ | ⟨name, hdel, hroot, hslot, -⟩ | ⟨_, -, hname, -⟩)
    · rw [hslot] at hnew
      cases hnew
    · exact ⟨name, hdel, hroot, hslot⟩
    · exact absurd rfl hname
  · rintro ⟨name, hdel, hroot, hslot⟩
    exact .inr (.inl ⟨name, hdel, hroot, hslot, rfl⟩)

/-- With `USR_ROOT` in slot 0 alone, all depends on that slot. -/
theorem rootKept_iff {s : Ledger} {t : Names} (h : Holds s.dev t) :
    RootKept s ↔ userNames s.dev.conf 0 ≠ [] ∧ s.added 0 = false := by
  have hzero : usrAuth s.dev.conf 0 = usrRoot := h.auth 0 (by decide)
  constructor
  · intro hkept
    refine ⟨fun hfree => hkept.free 0 (by decide) hfree hzero, ?_⟩
    cases hadded : s.added 0 with
    | false => rfl
    | true =>
        have hnormal := hkept.added 0 (by decide) hadded
        rw [hzero] at hnormal
        exact absurd hnormal (by decide)
  · rintro ⟨hname, hadded⟩
    constructor
    · intro i hi hfree
      by_cases hi0 : i = 0
      · rw [hi0] at hfree
        exact absurd hfree hname
      · rw [h.auth i hi, if_neg hi0]
        decide
    · intro i hi hin
      by_cases hi0 : i = 0
      · rw [hi0, hadded] at hin
        cases hin
      · rw [h.auth i hi, if_neg hi0]

/-! ## One request -/

private theorem record_holds {s : Ledger} (h : Holds s.dev (userNames s.dev.conf)) {r : UserRequest}
    (hterm : Terminated s.dev.conf r) :
    Holds (record s r).dev (userNames (record s r).dev.conf) :=
  ⟨fun _ _ => rfl, (h.handle hterm).tidy, (h.handle hterm).auth⟩

/-- A request keeps the authority in place exactly when it deletes no user who has
it. -/
theorem deletesNormal_iff {s : Ledger} (h : Holds s.dev (userNames s.dev.conf))
    (hkept : RootKept s) {r : UserRequest} (hterm : Terminated s.dev.conf r) :
    DeletesNormal s r ↔ RootKept (record s r) := by
  obtain ⟨hname, hadded⟩ := (rootKept_iff h).mp hkept
  have hstays : (record s r).added 0 = false := by
    rw [record]
    dsimp only
    split
    · rfl
    · rw [if_neg fun hnew => hname hnew.1]
      exact hadded
  rw [rootKept_iff (h.handle hterm), and_iff_left hstays]
  have hnames : userNames (record s r).dev.conf 0 =
      apply (userNames s.dev.conf) (operation s.dev.conf r) 0 :=
    (handle_edited s.dev h.tidy hterm).names 0 (by decide)
  rw [hnames, DeletesNormal]
  cases hop : operation s.dev.conf r with
  | none => exact iff_of_true (fun _ hdel => by cases hdel) hname
  | some o =>
      rw [ne_eq, apply_frees_iff hname o]
      constructor
      · rintro hnormal ⟨name, rfl, hroot, hfound⟩
        exact hnormal name rfl hroot 0 hfound (h.auth 0 (by decide))
      · intro hno name hdel hroot i hfound
        have hi0 : i ≠ 0 := by
          rintro rfl
          exact hno ⟨name, Option.some.inj hdel, hroot, hfound⟩
        rw [h.auth i (find_lt hfound).1, if_neg hi0]
        decide

/-! ## Runs -/

/-- The device before anyone was added. -/
def Ledger.start (d : Device) : Ledger := ⟨d, fun _ => false⟩

/-- The record follows the device. -/
theorem exec_record_dev (s : Ledger) (rs : List UserRequest) :
    (exec record s rs).dev = exec handle s.dev rs :=
  exec_image Ledger.dev (fun _ _ => rfl) s rs

/-- From the default table on, the administrator's authority is neither orphaned nor
inherited exactly when no handled `DEL` finds a user who has it. -/
theorem rootKept_runs_iff {b : Build} (hcrypt : CryptFits b) {m : Mem} {d : Device}
    (hd : d.conf = configMakedefault b m) {rs : List UserRequest} (hterm : TerminatedRun d rs) :
    (∀ ys, ys <+: rs → RootKept (exec record (Ledger.start d) ys)) ↔
      StepsSatisfy record DeletesNormal (Ledger.start d) rs := by
  have hstart : Holds (Ledger.start d).dev defaultNames := configMakedefault_holds hcrypt hd
  have hkept : RootKept (Ledger.start d) := by
    refine (rootKept_iff hstart).mpr ⟨?_, rfl⟩
    rw [hstart.names 0 (by decide)]
    decide
  have hterm' : StepsSatisfy record (fun s r => Terminated s.dev.conf r) (Ledger.start d) rs :=
    (stepsSatisfy_image Ledger.dev (fun _ _ => rfl) (fun d r => Terminated d.conf r) _ rs).mpr hterm
  exact reaches_iff_under (I := fun s : Ledger => Holds s.dev (userNames s.dev.conf))
    (fun s r h hr => record_holds h hr) (fun s r h hg hr => deletesNormal_iff h hg hr)
    ⟨fun _ _ => rfl, hstart.tidy, hstart.auth⟩ hkept hterm'

/-! ## The administrator renamed -/

def admin : List UInt8 := chars ['a', 'd', 'm', 'i', 'n']

/-- `MODIFY "root"` to `"admin"`. -/
def renameRoot : UserRequest :=
  requestOf rootName .modify (usrRecord rootName [] ++ usrRecord admin [])

/-- `DEL "admin"`, by the user of that name. -/
def deleteAdmin : UserRequest := requestOf admin .del (usrRecord admin [] ++ usrRecord [] [])

private theorem renameRoot_fits : StringsFit renameRoot := by decide +kernel

private theorem deleteAdmin_fits : StringsFit deleteAdmin := by decide +kernel

/-- The first of them keeps the authority in place. -/
theorem rootKept_renameRoot : RootKept (exec record (Ledger.start factoryDevice) [renameRoot]) := by
  have hterm : TerminatedRun factoryDevice [renameRoot] := ⟨renameRoot_fits.terminated _, trivial⟩
  refine (rootKept_runs_iff factoryBuild_fits rfl hterm).mpr ⟨?_, trivial⟩ _ (List.prefix_refl _)
  intro name hop
  have hmodify : opOf renameRoot.flag renameRoot.extdat = some (.modify rootName admin) := by
    decide +kernel
  rw [operation, hmodify] at hop
  split at hop
  · cases hop
  · cases hop

/-- After the second, slot 0 has no name and `USR_ROOT`. -/
theorem rootKept_deleteAdmin :
    ¬∀ (b : Build) (m : Mem) (d : Device) (rs : List UserRequest), CryptFits b →
      d.conf = configMakedefault b m → TerminatedRun d rs →
        ∀ ys, ys <+: rs → RootKept (exec record (Ledger.start d) ys) := by
  intro h
  have hterm : TerminatedRun factoryDevice [renameRoot, deleteAdmin] :=
    ⟨renameRoot_fits.terminated _, deleteAdmin_fits.terminated _, trivial⟩
  have hkept := h factoryBuild zero factoryDevice [renameRoot, deleteAdmin] factoryBuild_fits rfl
    hterm _ (List.prefix_refl _)
  have hholds := factoryDevice_holds.run hterm
  have hend : Holds (exec record (Ledger.start factoryDevice) [renameRoot, deleteAdmin]).dev
      (exec step defaultNames [renameRoot, deleteAdmin]) := by
    rw [exec_record_dev]
    exact hholds
  have hname := ((rootKept_iff hend).mp hkept).1
  rw [hend.names 0 (by decide)] at hname
  exact hname (by decide +kernel)

end Itertk.Web.RootAuthority
