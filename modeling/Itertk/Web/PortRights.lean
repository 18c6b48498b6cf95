import Itertk.Web.Accounts

/-!
# Whether port rights belong to a user

`con_lim[p].read` and `.modify` are indexed by slots of `con_usr`.  Deleting a user
leaves the bits of its slot, and the next user put there has them.  The history
records when a slot was last taken and when the limits of a port were last set.
-/

namespace Itertk.Web.PortRights

open Itertk.Base.Memory
open Itertk.Base.Run
open Itertk.Base.Slots
open Itertk.Daemon.Layout
open Itertk.Daemon.Config
open Itertk.Daemon.State
open Itertk.Itsip.Socket
open Itertk.Itsip.Header
open Itertk.Web.Users
open Itertk.Web.Handlers
open Itertk.Web.PortRecords
open Itertk.Web.Accounts

/-! ## Requests -/

/-- An `ITS_CONF_SET` header of kind `CONF_LIMIT` and the connection its record comes
from. -/
structure LimitRequest where
  env : Env
  head : Mem
  conn : Conn
  itsip : head 0 = itsHead
  command : itsipCmd head = ItsCmd.confSet.code
  kind : itsipData head 0 = ConfKind.limit.code

/-- The requests that change users or limits. -/
inductive Request where
  | user (r : UserRequest)
  | limit (r : LimitRequest)

/-- The record arrives, and the requester's slot has `USR_ROOT`. -/
def LimitSet (conf : Mem) (r : LimitRequest) : Prop :=
  (webConnRecv r.conn limSize).ok = true ∧
    usrAuth conf (getUsrId conf (requester r.head)) = usrRoot

instance (conf : Mem) (r : LimitRequest) : Decidable (LimitSet conf r) :=
  inferInstanceAs (Decidable (_ ∧ _))

/-- `web_cmd_proc` on the request. -/
def serve (d : Device) : Request → Device
  | .user r => handle d r
  | .limit r => (webCmdProc r.env r.head ⟨d, r.conn, []⟩).dev

private theorem serve_limit_conf (d : Device) (r : LimitRequest) :
    (serve d (.limit r)).conf =
      if LimitSet d.conf r then
        blit d.conf (limOff (port r.head)) (webConnRecv r.conn limSize).bytes
      else d.conf := by
  rw [serve, webCmdProc_eq r.env _ r.itsip r.command]
  by_cases hopen : r.conn.isOpen = false
  · rw [if_pos hopen, if_neg]
    rintro ⟨hok, -⟩
    rw [webConnRecv, hopen] at hok
    exact absurd hok Bool.false_ne_true
  · rw [if_neg hopen]
    show (sysConfSet r.head ⟨d, r.conn, []⟩).1.dev.conf = _
    rw [sysConfSet, r.kind, ConfKind.ofByte_code]
    exact guarded_conf rfl

/-! ## History -/

/-- The device, the number of requests so far, when each slot was last taken, and
when the limits of each port were last set. -/
structure History where
  dev : Device
  now : Nat
  createdAt : Nat → Nat
  limitSetAt : Nat → Nat

/-- The request sets the limits of port `p`. -/
def SetsLimit (conf : Mem) (p : Nat) : Request → Prop
  | .user _ => False
  | .limit r => LimitSet conf r ∧ port r.head = p

instance (conf : Mem) (p : Nat) : DecidablePred (SetsLimit conf p)
  | .user _ => inferInstanceAs (Decidable False)
  | .limit r => inferInstanceAs (Decidable (LimitSet conf r ∧ port r.head = p))

/-- A request handled, and recorded. -/
def record (s : History) (r : Request) : History where
  dev := serve s.dev r
  now := s.now + 1
  createdAt u :=
    if userNames s.dev.conf u = [] ∧ userNames (serve s.dev r).conf u ≠ [] then s.now + 1
    else s.createdAt u
  limitSetAt p := if SetsLimit s.dev.conf p r then s.now + 1 else s.limitSetAt p

private theorem record_dev (s : History) (r : Request) : (record s r).dev = serve s.dev r := rfl

/-- The device before any request. -/
def History.start (d : Device) : History := ⟨d, 0, fun _ => 0, fun _ => 0⟩

/-- User slot `u` may read or modify port `p`. -/
def HasRight (conf : Mem) (p u : Nat) : Prop :=
  limRead conf p u = enabled ∨ limModify conf p u = enabled

/-- Every right of a registered user was set after the user was created. -/
def RightsOwn (s : History) : Prop :=
  ∀ u, u < maxUsrNum → userNames s.dev.conf u ≠ [] → ∀ p, p < maxComPort →
    HasRight s.dev.conf p u → s.createdAt u < s.limitSetAt p

/-! ## The condition -/

/-- The operation gives the first free slot a name: `ADD` of a new name, or `MODIFY`
under the empty name. -/
def Fills (t : Names) : Op → Prop
  | .add name => Op.find t name = none
  | .del _ => False
  | .modify name nname => name = [] ∧ nname ≠ []

/-- A request that fills the first free slot finds no rights there. -/
def FillsBare (s : History) : Request → Prop
  | .user r => ∀ o ∈ operation s.dev.conf r, Fills (userNames s.dev.conf) o →
      ∀ u, Op.find (userNames s.dev.conf) [] = some u →
        ∀ p, p < maxComPort → ¬HasRight s.dev.conf p u
  | .limit _ => True

/-- Strings end inside their fields, and ports exist. -/
def InRange (s : History) : Request → Prop
  | .user r => Terminated s.dev.conf r
  | .limit r => LimitSet s.dev.conf r → port r.head < maxComPort

/-- The slot that an operation takes is the first free one. -/
theorem apply_fills_iff {t : Names} {u : Nat} (o : Op) :
    t u = [] ∧ apply t (some o) u ≠ [] ↔ Fills t o ∧ Op.find t [] = some u := by
  constructor
  · rintro ⟨hfree, hname⟩
    have hne : t u ≠ apply t (some o) u := by
      intro h
      exact hname (h.symm.trans hfree)
    have hedit := (apply_eq_iff hne o).mp rfl
    rcases edit_eq_some_iff.mp hedit with ⟨hadd, hnew, hslot⟩ | ⟨_, -, -, -, hempty⟩ |
      ⟨name, hmodify, hnew, hslot⟩
    · rw [hadd]
      exact ⟨hnew, hslot⟩
    · exact absurd hempty hname
    · have hempty : name = [] := (find_lt hslot).2.1.trans hfree
      rw [hmodify]
      exact ⟨⟨hempty, hnew⟩, hempty ▸ hslot⟩
  · rintro ⟨hfills, hslot⟩
    have hfree : t u = [] := (find_lt hslot).2.1.symm
    have hedits : ∀ {x : List UInt8}, o.edit t = some (u, x) → x ≠ [] →
        apply t (some o) u ≠ [] := by
      intro x hedit hx
      have hne : t u ≠ x := by
        intro h
        exact hx (h.symm.trans hfree)
      rw [(apply_eq_iff hne o).mpr hedit]
      exact hx
    refine ⟨hfree, ?_⟩
    cases o with
    | add name =>
        refine hedits (edit_eq_some_iff.mpr (.inl ⟨rfl, hfills, hslot⟩)) ?_
        rintro rfl
        rw [Fills, hslot] at hfills
        cases hfills
    | del name => exact absurd hfills id
    | modify name nname =>
        obtain ⟨rfl, hnew⟩ := hfills
        exact hedits (edit_eq_some_iff.mpr (.inr (.inr ⟨[], rfl, hnew, hslot⟩))) hnew

/-! ## One request -/

/-- Names end inside their fields, and nothing has happened in the future. -/
structure Recorded (s : History) : Prop where
  tidy : Tidy s.dev.conf
  created : ∀ u, s.createdAt u ≤ s.now
  limitSet : ∀ p, s.limitSetAt p ≤ s.now

/-- The limits lie before the users. -/
theorem hasRight_congr {conf conf' : Mem} (h : ∀ k, k < usrOff 0 → conf' k = conf k) {p u : Nat}
    (hp : p < maxComPort) (hu : u < maxUsrNum) : HasRight conf' p u ↔ HasRight conf p u := by
  simp only [maxComPort, maxUsrNum] at hp hu
  rw [HasRight, HasRight, limRead, limModify, limRead, limModify,
    h _ (by simp only [limOff, usrOff]; omega), h _ (by simp only [limOff, usrOff]; omega)]

/-- Setting the limits of a port leaves everything else. -/
theorem serve_limit_outside (d : Device) {r : LimitRequest} {k : Nat}
    (hk : ¬(LimitSet d.conf r ∧ limOff (port r.head) ≤ k ∧ k < limOff (port r.head) + limSize)) :
    (serve d (.limit r)).conf k = d.conf k := by
  rw [serve_limit_conf]
  by_cases hset : LimitSet d.conf r
  · rw [if_pos hset]
    apply blit_outside
    rw [webConnRecv_ok hset.1]
    have hout : ¬(limOff (port r.head) ≤ k ∧ k < limOff (port r.head) + limSize) :=
      fun hin => hk ⟨hset, hin⟩
    omega
  · rw [if_neg hset]

/-- The limits of an existing port lie before the users. -/
theorem limit_usr (d : Device) {r : LimitRequest}
    (h : LimitSet d.conf r → port r.head < maxComPort) {k : Nat} (hk : usrOff 0 ≤ k) :
    (serve d (.limit r)).conf k = d.conf k := by
  apply serve_limit_outside
  rintro ⟨hset, hin⟩
  have hport := h hset
  simp only [maxComPort, limOff, limSize, usrOff] at hport hin hk
  omega

private theorem limit_userNames {d : Device} (htidy : Tidy d.conf) {r : LimitRequest}
    (h : LimitSet d.conf r → port r.head < maxComPort) {i : Nat} (hi : i < maxUsrNum) :
    userNames (serve d (.limit r)).conf i = userNames d.conf i :=
  userNames_keep (fun k _ => limit_usr d h (by simp only [usrOff]; omega)) (htidy i hi)

private theorem record_recorded {s : History} (h : Recorded s) {r : Request} (hr : InRange s r) :
    Recorded (record s r) where
  tidy := by
    cases r with
    | user r => exact handle_tidy s.dev h.tidy hr
    | limit r =>
        intro i hi
        show (userNames (serve s.dev (.limit r)).conf i).length < 24
        rw [limit_userNames h.tidy hr hi]
        exact h.tidy i hi
  created u := by
    have hbefore := h.created u
    simp only [record]
    split <;> omega
  limitSet p := by
    have hbefore := h.limitSet p
    simp only [record]
    split <;> omega

private theorem start_recorded {d : Device} (h : Tidy d.conf) : Recorded (History.start d) :=
  ⟨h, fun _ => Nat.le_refl 0, fun _ => Nat.le_refl 0⟩

private theorem handle_hasRight (d : Device) (r : UserRequest) {p u : Nat} (hp : p < maxComPort)
    (hu : u < maxUsrNum) : HasRight (handle d r).conf p u ↔ HasRight d.conf p u :=
  hasRight_congr (fun _ hk => handle_below d r hk) hp hu

/-- A free slot is taken by a request exactly when it is the first one and the request
fills that. -/
theorem handle_takes_iff {d : Device} (htidy : Tidy d.conf) {r : UserRequest}
    (hterm : Terminated d.conf r) {u : Nat} (hu : u < maxUsrNum) :
    userNames d.conf u = [] ∧ userNames (handle d r).conf u ≠ [] ↔
      ∃ o ∈ operation d.conf r, Fills (userNames d.conf) o ∧
        Op.find (userNames d.conf) [] = some u := by
  have hnames : userNames (handle d r).conf u = apply (userNames d.conf) (operation d.conf r) u :=
    (handle_edited d htidy hterm).names u hu
  rw [hnames]
  cases operation d.conf r with
  | none =>
      constructor
      · rintro ⟨hfree, hname⟩
        exact absurd hfree hname
      · rintro ⟨o, ho, -⟩
        cases ho
  | some o =>
      rw [apply_fills_iff o]
      constructor
      · intro hfills
        exact ⟨o, rfl, hfills⟩
      · rintro ⟨o', ho, hfills⟩
        cases ho
        exact hfills

private theorem fillsBare_user_iff {s : History} (h : Recorded s) (hown : RightsOwn s)
    {r : UserRequest} (hterm : Terminated s.dev.conf r) :
    FillsBare s (.user r) ↔ RightsOwn (record s (.user r)) := by
  constructor
  · intro hbare u hu hname p hp hhas
    have hhas' := (handle_hasRight s.dev r hp hu).mp hhas
    show (if _ then _ else _) < s.limitSetAt p
    by_cases hnew : userNames s.dev.conf u = [] ∧ userNames (handle s.dev r).conf u ≠ []
    · obtain ⟨o, ho, hfill, hfirst⟩ := (handle_takes_iff h.tidy hterm hu).mp hnew
      exact absurd hhas' (hbare o ho hfill u hfirst p hp)
    · rw [serve, if_neg hnew]
      exact hown u hu (fun hfree => hnew ⟨hfree, hname⟩) p hp hhas'
  · intro hown' o ho hfill u hfirst p hp hhas
    have hu : u < maxUsrNum := (find_lt hfirst).1
    have hnew := (handle_takes_iff h.tidy hterm hu).mpr ⟨o, ho, hfill, hfirst⟩
    have hlate : (if _ then _ else _) < s.limitSetAt p :=
      hown' u hu hnew.2 p hp ((handle_hasRight s.dev r hp hu).mpr hhas)
    rw [serve, if_pos hnew] at hlate
    have := h.limitSet p
    omega

private theorem rightsOwn_limit {s : History} (h : Recorded s) (hown : RightsOwn s)
    {r : LimitRequest} (hr : LimitSet s.dev.conf r → port r.head < maxComPort) :
    RightsOwn (record s (.limit r)) := by
  intro u hu hname p hp hhas
  have hname' : userNames s.dev.conf u ≠ [] := limit_userNames h.tidy hr hu ▸ hname
  show (if _ then _ else _) < (if _ then _ else _)
  rw [if_neg fun hnew => hname' hnew.1]
  by_cases hset : SetsLimit s.dev.conf p (.limit r)
  · rw [if_pos hset]
    have := h.created u
    omega
  · rw [if_neg hset]
    refine hown u hu hname' p hp ?_
    have hbyte : ∀ i, i < limSize →
        (serve s.dev (.limit r)).conf (limOff p + i) = s.dev.conf (limOff p + i) := by
      intro i hi
      apply serve_limit_outside s.dev
      rintro ⟨hdone, hin⟩
      have hne : port r.head ≠ p := fun heq => hset ⟨hdone, heq⟩
      simp only [limOff, limSize] at hi hin
      omega
    simp only [maxUsrNum] at hu
    have hread := hbyte (2 + u) (by simp only [limSize]; omega)
    have hmodify := hbyte (18 + u) (by simp only [limSize]; omega)
    rw [← Nat.add_assoc] at hread hmodify
    have hhas' : HasRight (serve s.dev (.limit r)).conf p u := hhas
    rw [HasRight, limRead, limModify, hread, hmodify] at hhas'
    exact hhas'

private theorem fillsBare_iff {s : History} (h : Recorded s) (hown : RightsOwn s) {r : Request}
    (hr : InRange s r) : FillsBare s r ↔ RightsOwn (record s r) := by
  cases r with
  | user r => exact fillsBare_user_iff h hown hr
  | limit r => exact iff_of_true trivial (rightsOwn_limit h hown hr)

/-! ## Runs -/

/-- The default configuration gives no rights. -/
theorem configMakedefault_noRight {b : Build} {m : Mem} {d : Device}
    (hd : d.conf = configMakedefault b m) {p u : Nat} (hp : p < maxComPort) (hu : u < maxUsrNum) :
    ¬HasRight d.conf p u := by
  obtain ⟨hread, hmodify⟩ := configMakedefault_rights b m hp hu
  rw [HasRight, hd, hread, hmodify]
  rintro (hc | hc)
  · exact absurd hc (by decide)
  · exact absurd hc (by decide)

/-- From the default configuration on, every right of a registered user was set after
the user was created exactly when no slot is taken in which rights are left. -/
theorem rightsOwn_iff {b : Build} (hcrypt : CryptFits b) {m : Mem} {d : Device}
    (hd : d.conf = configMakedefault b m) {rs : List Request}
    (hrange : StepsSatisfy record InRange (History.start d) rs) :
    (∀ ys, ys <+: rs → RightsOwn (exec record (History.start d) ys)) ↔
      StepsSatisfy record FillsBare (History.start d) rs := by
  have hown : RightsOwn (History.start d) := fun u hu _ p hp hhas =>
    absurd hhas (configMakedefault_noRight hd hp hu)
  have hrecorded := start_recorded (configMakedefault_holds hcrypt hd).tidy
  exact reaches_iff_under (I := Recorded) (G := RightsOwn) (A := InRange)
    (fun s r h hr => record_recorded h hr) (fun s r h hg hr => fillsBare_iff h hg hr) hrecorded hown
    hrange

/-! ## A recycled slot -/

/-- The accounts survive the setting of limits. -/
theorem holds_limit {d : Device} {t : Names} (h : Holds d t) {r : LimitRequest}
    (hr : LimitSet d.conf r → port r.head < maxComPort) : Holds (serve d (.limit r)) t where
  names i hi := (limit_userNames h.tidy hr hi).trans (h.names i hi)
  tidy i hi := by
    rw [limit_userNames h.tidy hr hi]
    exact h.tidy i hi
  auth i hi := (limit_usr d hr (by simp only [usrOff]; omega)).trans (h.auth i hi)

private theorem getUsrId_eq (conf : Mem) (name : List UInt8) :
    getUsrId conf name = (Op.find (userNames conf) name).getD maxUsrNum := by
  rw [getUsrId]
  refine congrArg (Option.getD · maxUsrNum) (firstSlot_congr fun i _ => ?_)
  rw [decide_eq_decide]
  exact eq_comm

/-- `ADD name` by `root`. -/
def adds (name : List UInt8) : UserRequest :=
  requestOf rootName .add (usrRecord name [] ++ usrRecord [] [])

/-- `DEL name` by `root`. -/
def deletes (name : List UInt8) : UserRequest :=
  requestOf rootName .del (usrRecord name [] ++ usrRecord [] [])

/-- `CONF_LIMIT` by `root` for port 0: slot 1 may read. -/
def grantsSecond : LimitRequest where
  env := Env.idle
  head := strcpy (store (itsipPack zero ItsCmd.confSet.code 34 0) 32 ConfKind.limit.code) 8 rootName
  conn := ⟨true, [.data ([1, 1, 0, 1] ++ List.replicate 30 0) 0], [], []⟩
  itsip := rfl
  command := rfl
  kind := rfl

/-- `"a"` is added, gets a right, and is deleted; `"b"` is added. -/
def recycled : List Request :=
  [.user (adds (chars ['a'])), .limit grantsSecond, .user (deletes (chars ['a'])),
    .user (adds (chars ['b']))]

private theorem adds_fit : StringsFit (adds (chars ['a'])) ∧ StringsFit (adds (chars ['b'])) := by
  decide +kernel

private theorem deletes_fit : StringsFit (deletes (chars ['a'])) := by decide +kernel

private theorem grantsSecond_port : port grantsSecond.head < maxComPort := by decide

private theorem recycled_inRange (s : History) : StepsSatisfy record InRange s recycled :=
  ⟨adds_fit.1.terminated _, fun _ => grantsSecond_port, deletes_fit.terminated _,
    adds_fit.2.terminated _, trivial⟩

/-- The last request takes a slot with a right. -/
theorem recycled_late {d : Device} (h : Holds d defaultNames) :
    ¬∀ ys, ys <+: recycled → RightsOwn (exec record (History.start d) ys) := by
  intro hall
  obtain ⟨hr1, hr2, hr3, hr4, -⟩ := recycled_inRange (History.start d)
  have hrecorded :=
    record_recorded (record_recorded (record_recorded (start_recorded h.tidy) hr1) hr2)
    hr3
  have hown := hall (recycled.take 3) (List.take_prefix 3 recycled)
  have hlast := (fillsBare_iff hrecorded hown hr4).mpr (hall recycled (List.prefix_refl _))
  -- the devices after one, two and three requests
  have h1 := h.handle (adds_fit.1.terminated _)
  have h2 := holds_limit h1 (r := grantsSecond) fun _ => grantsSecond_port
  have h3 := h2.handle (deletes_fit.terminated _)
  have hset : LimitSet (handle d (adds (chars ['a']))).conf grantsSecond := by
    refine ⟨rfl, ?_⟩
    rw [getUsrId_eq, find_congr h1.names,
      show Op.find _ (requester grantsSecond.head) = some 0 by decide +kernel]
    exact h1.auth 0 (by decide)
  have hright : HasRight (handle (serve (handle d (adds (chars ['a']))) (.limit grantsSecond))
      (deletes (chars ['a']))).conf 0 1 := by
    apply Or.inl
    rw [limRead, handle_below _ _ (by decide), serve_limit_conf, if_pos hset]
    rfl
  have hop : operation (handle (serve (handle d (adds (chars ['a']))) (.limit grantsSecond))
      (deletes (chars ['a']))).conf (adds (chars ['b'])) = some (.add (chars ['b'])) := by
    rw [operation, if_pos ((h3.admitted_iff _).mpr ⟨rfl, by decide +kernel⟩)]
    decide +kernel
  have hdev : (record (record (record (History.start d) (.user (adds (chars ['a']))))
      (.limit grantsSecond)) (.user (deletes (chars ['a'])))).dev =
      handle (serve (handle d (adds (chars ['a']))) (.limit grantsSecond))
        (deletes (chars ['a'])) := by
    rw [record_dev, record_dev, record_dev]
    rfl
  have hnames := find_congr h3.names
  rw [FillsBare, hdev] at hlast
  refine hlast _ hop ?_ 1 ?_ 0 (by decide) hright
  · show Op.find _ (chars ['b']) = none
    rw [hnames]
    decide +kernel
  · rw [hnames]
    decide +kernel

/-- `"a"` is added and gets a right. -/
def granted : List Request := recycled.take 2

/-- A right given to a user who is there is that user's. -/
theorem rightsOwn_granted :
    HasRight (exec record (History.start factoryDevice) granted).dev.conf 0 1 ∧
    ∀ ys, ys <+: granted → RightsOwn (exec record (History.start factoryDevice) ys) := by
  have hrange : StepsSatisfy record InRange (History.start factoryDevice) granted :=
    ⟨adds_fit.1.terminated _, fun _ => grantsSecond_port, trivial⟩
  refine ⟨?_, (rightsOwn_iff factoryBuild_fits rfl hrange).mpr ⟨fun o _ _ u hu p hp => ?_, trivial,
    trivial⟩⟩
  · unfold HasRight
    decide +kernel
  · exact configMakedefault_noRight rfl hp (find_lt hu).1

/-- `"b"` has the right that was set for `"a"`. -/
theorem rightsOwn_recycled :
    ¬∀ (b : Build) (m : Mem) (d : Device) (rs : List Request), CryptFits b →
      d.conf = configMakedefault b m → StepsSatisfy record InRange (History.start d) rs →
        ∀ ys, ys <+: rs → RightsOwn (exec record (History.start d) ys) := by
  intro h
  have hall := h factoryBuild zero factoryDevice recycled factoryBuild_fits rfl (recycled_inRange _)
  exact recycled_late factoryDevice_holds hall

end Itertk.Web.PortRights
