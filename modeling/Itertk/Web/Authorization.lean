import Itertk.Web.PortRecords

/-!
# Who may change a port

`con_lim[q]` says whether port `q` is limited and which users may modify it.
`sys_conf_set` asks about the port that the header names.  Two requests get past
that: a record for all ports also changes the ports that were not asked about,
and a requester without a name is found in the first empty slot of the user
table.  `onlyAuthorized_iff` says that there is no third.
-/

namespace Itertk.Web.Authorization

open Itertk.Base.Memory
open Itertk.Daemon.Layout
open Itertk.Daemon.State
open Itertk.Itsip.Socket
open Itertk.Itsip.Header
open Itertk.Web.Users
open Itertk.Web.Handlers
open Itertk.Web.PortRecords

/-! ## Rights and changes -/

/-- The limit of port `q` is off, or it is on and a registered user with a name asks
who has the right to modify the port. -/
def Authorized (conf : Mem) (q : Nat) (name : List UInt8) : Prop :=
  limEnable conf q = disabled ∨
    (limEnable conf q = enabled ∧ name ≠ [] ∧ getUsrId conf name < maxUsrNum ∧
      limModify conf q (getUsrId conf name) = enabled)

instance (conf : Mem) (q : Nat) (name : List UInt8) : Decidable (Authorized conf q name) :=
  inferInstanceAs (Decidable (_ ∨ _))

/-- `con_com[q]` or `con_mode[q]` differs. -/
def PortChanged (conf conf' : Mem) (q : Nat) : Prop :=
  slice conf' (comOff q) comSize ≠ slice conf (comOff q) comSize ∨
    slice conf' (modeOff q) modeSize ≠ slice conf (modeOff q) modeSize

/-- Every port that the request changes is one its requester may change. -/
def OnlyAuthorized (env : Env) (head : Mem) (s : Session) : Prop :=
  ∀ q, q < maxComPort → PortChanged s.dev.conf (webCmdProc env head s).dev.conf q →
    Authorized s.dev.conf q (requester head)

/-- The condition of the source, less the requester without a name. -/
theorem authorized_iff {conf : Mem} {q : Nat} {name : List UInt8}
    (h : MayAccess conf limModify q name) :
    Authorized conf q name ↔ limEnable conf q = disabled ∨ name ≠ [] := by
  constructor
  · rintro (hoff | ⟨_, hname, _⟩)
    · exact .inl hoff
    · exact .inr hname
  · rintro (hoff | hname)
    · exact .inl hoff
    · rcases h with hoff | ⟨hon, hid, hright⟩
      · exact .inl hoff
      · exact .inr ⟨hon, hname, hid, hright⟩

/-! ## Which records a request changes -/

/-- Record `q` after a permitted `CONF_COM` for port `p`. -/
def comAfter (conf : Mem) (p : Nat) (c : ConfigCom) (q : Nat) : ConfigCom :=
  if c.all = 1 then withLine (ConfigCom.load conf (comOff q)) c
  else if q = p then c else ConfigCom.load conf (comOff q)

private theorem slice_com_eq_iff (m m' : Mem) (off off' : Nat) :
    slice m off comSize = slice m' off' comSize ↔
      ConfigCom.load m off = ConfigCom.load m' off' := by
  constructor
  · intro h
    exact ConfigCom.load_congr ((slice_eq_iff _ _ _ _ _).mp h)
  · intro h
    rw [← ConfigCom.bytes_load, ← ConfigCom.bytes_load, h]

private theorem portChanged_putCom_iff (conf : Mem) {p q : Nat} (hp : p < maxComPort)
    (hq : q < maxComPort) (c : ConfigCom) :
    PortChanged conf (putCom conf p c) q ↔
      comAfter conf p c q ≠ ConfigCom.load conf (comOff q) := by
  have hcom : ConfigCom.load (putCom conf p c) (comOff q) = comAfter conf p c q := by
    rw [comAfter]
    by_cases hall : c.all = 1
    · rw [if_pos hall, putCom_all hall conf p hq]
    · rw [if_neg hall, putCom_one hall]
  have hmode : slice (putCom conf p c) (modeOff q) modeSize = slice conf (modeOff q) modeSize := by
    rw [slice_eq_iff]
    intro i _
    exact putCom_above conf hp c (by simp only [modeOff]; omega)
  rw [PortChanged, hmode, ne_eq, slice_com_eq_iff, hcom]
  exact or_iff_left fun h => h rfl

private theorem portChanged_mode_iff (conf : Mem) {p q : Nat} (hp : p < maxComPort)
    (hq : q < maxComPort) {bytes : List UInt8} (hlen : bytes.length = modeSize) :
    PortChanged conf (blit conf (modeOff p) bytes) q ↔
      q = p ∧ bytes ≠ slice conf (modeOff p) modeSize := by
  simp only [maxComPort] at hp hq
  have hcom : slice (blit conf (modeOff p) bytes) (comOff q) comSize =
      slice conf (comOff q) comSize := by
    apply slice_blit_disjoint
    simp only [comOff, comSize, modeOff]
    omega
  rw [PortChanged, hcom, or_iff_right fun h => h rfl]
  by_cases hqp : q = p
  · rw [hqp, ← hlen, slice_blit_self, hlen]
    exact ⟨fun h => ⟨rfl, h⟩, fun h => h.2⟩
  · have hmiss : slice (blit conf (modeOff p) bytes) (modeOff q) modeSize =
        slice conf (modeOff q) modeSize := by
      apply slice_blit_disjoint
      rw [hlen]
      simp only [modeSize, modeOff]
      omega
    rw [hmiss]
    exact iff_of_false (fun h => h rfl) fun h => hqp h.1

/-! ## Requests within the rights of their requester -/

/-- A permitted `CONF_COM`: the requester has a name, if the named port is limited,
or changes nothing there; and a record for all ports finds the other ports open to
the requester, or with the same six settings. -/
structure ComWithin (conf : Mem) (p : Nat) (name : List UInt8) (c : ConfigCom) : Prop where
  named : (limEnable conf p = disabled ∨ name ≠ []) ∨
    comAfter conf p c p = ConfigCom.load conf (comOff p)
  others : c.all = 1 → ∀ q, q < maxComPort → q ≠ p →
    Authorized conf q name ∨
      withLine (ConfigCom.load conf (comOff q)) c = ConfigCom.load conf (comOff q)

/-- A permitted `CONF_MODE`: the same for the one port it changes. -/
def ModeWithin (conf : Mem) (p : Nat) (name bytes : List UInt8) : Prop :=
  (limEnable conf p = disabled ∨ name ≠ []) ∨ bytes = slice conf (modeOff p) modeSize

/-- The request is refused, or it is within the rights of its requester. -/
def WithinRights (head : Mem) (s : Session) : ConfKind → Prop
  | .com => Performed head s comSize →
      ComWithin s.dev.conf (port head) (requester head) (broughtCom s)
  | .mode => Performed head s modeSize →
      ModeWithin s.dev.conf (port head) (requester head) (webConnRecv s.conn modeSize).bytes
  | _ => True

/-- A request that leaves the configuration alone changes no port. -/
theorem onlyAuthorized_of_eq {env : Env} {head : Mem} {s : Session}
    (h : (webCmdProc env head s).dev.conf = s.dev.conf) : OnlyAuthorized env head s := by
  intro q _ hchanged
  rw [h] at hchanged
  rcases hchanged with hne | hne
  · exact absurd rfl hne
  · exact absurd rfl hne

private theorem onlyAuthorized_com_iff (env : Env) {head : Mem} (s : Session)
    (h : PortRequest .com head) : OnlyAuthorized env head s ↔ WithinRights head s .com := by
  have hconf := webCmdProc_com env s h
  by_cases hperf : Performed head s comSize
  · rw [if_pos hperf] at hconf
    have hchanged : ∀ {q}, q < maxComPort →
        (PortChanged s.dev.conf (webCmdProc env head s).dev.conf q ↔
          comAfter s.dev.conf (port head) (broughtCom s) q ≠
            ConfigCom.load s.dev.conf (comOff q)) := by
      intro q hq
      rw [hconf]
      exact portChanged_putCom_iff _ h.port hq _
    have hown := authorized_iff hperf.2
    constructor
    · intro honly _
      constructor
      · by_cases hsame : comAfter s.dev.conf (port head) (broughtCom s) (port head) =
            ConfigCom.load s.dev.conf (comOff (port head))
        · exact .inr hsame
        · exact .inl (hown.mp (honly _ h.port ((hchanged h.port).mpr hsame)))
      · intro hall q hq _
        by_cases hsame : withLine (ConfigCom.load s.dev.conf (comOff q)) (broughtCom s) =
            ConfigCom.load s.dev.conf (comOff q)
        · exact .inr hsame
        · refine .inl (honly q hq ((hchanged hq).mpr ?_))
          rw [comAfter, if_pos hall]
          exact hsame
    · intro hwithin q hq hq'
      have hdiff := (hchanged hq).mp hq'
      by_cases hqp : q = port head
      · rw [hqp] at hdiff ⊢
        exact hown.mpr ((hwithin hperf).named.resolve_right hdiff)
      · rw [comAfter] at hdiff
        by_cases hall : (broughtCom s).all = 1
        · rw [if_pos hall] at hdiff
          exact ((hwithin hperf).others hall q hq hqp).resolve_right hdiff
        · rw [if_neg hall, if_neg hqp] at hdiff
          exact absurd rfl hdiff
  · rw [if_neg hperf] at hconf
    exact iff_of_true (onlyAuthorized_of_eq hconf) fun hp => absurd hp hperf

private theorem onlyAuthorized_mode_iff (env : Env) {head : Mem} (s : Session)
    (h : PortRequest .mode head) : OnlyAuthorized env head s ↔ WithinRights head s .mode := by
  have hconf := webCmdProc_mode env s h
  by_cases hperf : Performed head s modeSize
  · rw [if_pos hperf] at hconf
    have hchanged : ∀ {q}, q < maxComPort →
        (PortChanged s.dev.conf (webCmdProc env head s).dev.conf q ↔ q = port head ∧
          (webConnRecv s.conn modeSize).bytes ≠ slice s.dev.conf
            (modeOff (port head)) modeSize) := by
      intro q hq
      rw [hconf]
      exact portChanged_mode_iff _ h.port hq (webConnRecv_ok hperf.1)
    have hown := authorized_iff hperf.2
    constructor
    · intro honly _
      by_cases hsame : (webConnRecv s.conn modeSize).bytes =
          slice s.dev.conf (modeOff (port head)) modeSize
      · exact .inr hsame
      · exact .inl (hown.mp (honly _ h.port ((hchanged h.port).mpr ⟨rfl, hsame⟩)))
    · intro hwithin q hq hq'
      obtain ⟨rfl, hdiff⟩ := (hchanged hq).mp hq'
      exact hown.mpr ((hwithin hperf).resolve_right hdiff)
  · rw [if_neg hperf] at hconf
    exact iff_of_true (onlyAuthorized_of_eq hconf) fun hp => absurd hp hperf

/-- A `CONF_COM` or `CONF_MODE` request changes only ports its requester may change
exactly when it is within the rights of its requester. -/
theorem onlyAuthorized_iff (env : Env) {kind : ConfKind} {head : Mem} (s : Session)
    (h : PortRequest kind head) (hkind : kind = .com ∨ kind = .mode) :
    OnlyAuthorized env head s ↔ WithinRights head s kind := by
  rcases hkind with rfl | rfl
  · exact onlyAuthorized_com_iff env s h
  · exact onlyAuthorized_mode_iff env s h

/-! ## A record for all ports -/

/-- `CONF_SET`, `CONF_COM`, port 0, no user name. -/
def setFirstPort : Mem := fun i =>
  if i = 0 then itsHead else if i = 1 then ItsCmd.confSet.code else 0

/-- A record for all ports with rate 1. -/
def spreadRate : List UInt8 :=
  [0, 0, 0, 0, 1, 0, 0, 0, 0, 0, 0, 0, 0, 0, 0, 0, 0, 1, 0, 0, 0, 0, 0, 0, 0, 0, 0, 0]

/-- Port 1 is limited, and nobody has a right to it. -/
def limitedSecond : Mem := store zero (limOff 1 + 1) 1

/-- The request for port 0 on such a device. -/
def spreading : Session :=
  ⟨Device.start limitedSecond, ⟨true, [.data spreadRate 0], [], []⟩, []⟩

private theorem setFirstPort_request : PortRequest .com setFirstPort := ⟨rfl, rfl, rfl, by decide⟩

/-- On a device without limits the same request is within its rights. -/
theorem onlyAuthorized_unlimited :
    OnlyAuthorized Env.idle setFirstPort { spreading with dev := Device.start zero } := by
  refine (onlyAuthorized_iff Env.idle _ setFirstPort_request (.inl rfl)).mpr ?_
  intro _
  exact ⟨.inl (.inl rfl), fun _ q _ _ => .inl (.inl rfl)⟩

/-- It changes the line settings of the limited port. -/
theorem onlyAuthorized_spreading :
    ¬∀ (env : Env) (kind : ConfKind) (head : Mem) (s : Session), PortRequest kind head →
      (kind = .com ∨ kind = .mode) → OnlyAuthorized env head s := by
  intro h
  have honly := h Env.idle .com setFirstPort spreading setFirstPort_request (.inl rfl)
  have hwithin := (onlyAuthorized_com_iff Env.idle spreading setFirstPort_request).mp honly
  have hperf : Performed setFirstPort spreading comSize := ⟨rfl, .inl rfl⟩
  rcases (hwithin hperf).others rfl 1 (by decide) (by decide) with hauth | hsame
  · rcases hauth with hoff | ⟨_, hname, _⟩
    · exact absurd hoff (by decide)
    · exact hname ((cstr_eq_nil_iff _).mpr rfl)
  · exact absurd (congrArg ConfigCom.bps hsame) (by decide)

end Itertk.Web.Authorization
