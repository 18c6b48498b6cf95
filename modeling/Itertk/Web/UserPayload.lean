import Itertk.Web.Accounts

/-!
# The payload of `USER_SET`

`sys_usr_set` receives as many bytes as the header declares into the two records of
`extdat`, does not look at what `web_conn_recv` returns, and lets the sub-code take its
strings from whatever lies there.  A payload of the wrong length, or none at all, is
harmless only if the operation would fail anyhow; and one of more than two records runs
over the stack as far as it arrives.

## Main results

* `applyUserSet_course` — an operation is rejected and changes nothing, or succeeds.
* `payloadHandled_iff` — which payloads are handled as they should be.
-/

namespace Itertk.Web.UserPayload

open Itertk.Base.Memory
open Itertk.Daemon.Layout
open Itertk.Daemon.Config
open Itertk.Daemon.State
open Itertk.Itsip.Socket
open Itertk.Itsip.Header
open Itertk.Web.Users
open Itertk.Web.Handlers
open Itertk.Web.PortRecords
open Itertk.Web.Accounts

/-! ## Payloads -/

/-- The length that a sub-code needs: one record for `USER_ADD` and `USER_DEL`, two for
`USER_MODIFY`. -/
def needed (flag : UInt8) : Option Nat :=
  match UserSet.ofByte flag with
  | some .add | some .del => some usrSize
  | some .modify => some (2 * usrSize)
  | none => none

/-- The declared length is the one that the sub-code needs, and so much is received. -/
def Complete (head : Mem) (conn : Conn) : Prop :=
  needed (itsipData head 0) = some (itsipExtlen head) ∧
    (webConnRecv conn (itsipExtlen head)).ok = true

/-- The local `extdat` after the receive. -/
def extdat (env : Env) (head : Mem) (conn : Conn) : Mem :=
  blit env.stack 0 (webConnRecv conn (itsipExtlen head)).bytes

/-- The bytes of `con_usr`. -/
def conUsr (conf : Mem) : List UInt8 := slice conf (usrOff 0) (maxUsrNum * usrSize)

def successCodes : List CmdCode := [.usrAddOk, .usrDelOk, .usrModifyOk]

def failureCodes : List CmdCode :=
  [.recvFailed, .rcNousr, .rcNoright, .rcUsrexist, .usrAddFailed, .usrDelFailed, .usrModifyFailed]

/-- The payload stays in `extdat`, and an incomplete one has no effect but a code of
failure. -/
structure PayloadHandled (env : Env) (head : Mem) (s : Session) : Prop where
  stored : (webConnRecv s.conn (itsipExtlen head)).bytes.length ≤ 2 * usrSize
  intact : ¬Complete head s.conn →
    conUsr (sysUsrSet env head s).1.dev.conf = conUsr s.dev.conf ∧
      (sysUsrSet env head s).2 ∈ failureCodes

/-- The requester has `USR_ROOT`. -/
def FromRoot (conf head : Mem) : Prop :=
  ∃ u ∈ getUsrInfo conf (requester head), usrAuth conf u = usrRoot

/-! ## Operations -/

/-- The operation fails on the table: `USER_ADD` of a name in use or without a free slot,
`USER_DEL` of nobody or of `root`, and an unknown sub-code. -/
def Rejected (flag : UInt8) (extdat conf : Mem) : Prop :=
  match UserSet.ofByte flag with
  | some .add => getUsrInfo conf (cstr (shift extdat 2)) ≠ none ∨
      (findSlot fun i => usrName conf i 0 = 0) = none
  | some .del => getUsrInfo conf (cstr (shift extdat 2)) = none ∨ cstr (shift extdat 2) = rootName
  | some .modify => False
  | none => True

private theorem sysUsrAdd_course (d : Device) (name psw : List UInt8) :
    (findSlot fun i => usrName d.conf i 0 = 0) = none ∧ sysUsrAdd d name psw = (d, .usrAddFailed) ∨
      (findSlot fun i => usrName d.conf i 0 = 0) ≠ none ∧ (sysUsrAdd d name psw).2 = .usrAddOk := by
  unfold sysUsrAdd
  cases findSlot fun i => usrName d.conf i 0 = 0 with
  | none => exact .inl ⟨rfl, rfl⟩
  | some i => exact .inr ⟨Option.some_ne_none i, rfl⟩

private theorem sysUsrDel_ok {d : Device} {name : List UInt8} (h : getUsrInfo d.conf name ≠ none) :
    (sysUsrDel d name).2 = .usrDelOk := by
  unfold sysUsrDel
  cases hslot : getUsrInfo d.conf name with
  | none => exact absurd hslot h
  | some i => rfl

/-- An operation is rejected and changes nothing, or it succeeds. -/
theorem applyUserSet_course (flag : UInt8) (extdat : Mem) (d : Device) :
    (Rejected flag extdat d.conf ∧ ∃ c ∈ failureCodes, applyUserSet flag extdat d = (d, c)) ∨
      ¬Rejected flag extdat d.conf ∧ ∃ c ∈ successCodes, (applyUserSet flag extdat d).2 = c := by
  unfold Rejected applyUserSet
  cases UserSet.ofByte flag with
  | none => exact .inl ⟨trivial, .rcNousr, by decide, rfl⟩
  | some o =>
      cases o with
      | add =>
          dsimp only
          by_cases hnew : getUsrInfo d.conf (cstr (shift extdat 2)) = none
          · rw [if_pos hnew]
            rcases sysUsrAdd_course d (cstr (shift extdat 2)) (cstr (shift extdat 26)) with
              ⟨hfull, heq⟩ | ⟨hfree, hret⟩
            · exact .inl ⟨.inr hfull, .usrAddFailed, by decide, heq⟩
            · exact .inr ⟨not_or.mpr ⟨not_not_intro hnew, hfree⟩, .usrAddOk, by decide, hret⟩
          · rw [if_neg hnew]
            exact .inl ⟨.inl hnew, .rcUsrexist, by decide, rfl⟩
      | del =>
          dsimp only
          by_cases hnobody : getUsrInfo d.conf (cstr (shift extdat 2)) = none
          · rw [if_pos hnobody]
            exact .inl ⟨.inl hnobody, .rcNousr, by decide, rfl⟩
          · rw [if_neg hnobody]
            by_cases hroot : cstr (shift extdat 2) = rootName
            · rw [if_pos hroot]
              exact .inl ⟨.inr hroot, .usrDelFailed, by decide, rfl⟩
            · rw [if_neg hroot]
              exact .inr ⟨not_or.mpr ⟨hnobody, hroot⟩, .usrDelOk, by decide, sysUsrDel_ok hnobody⟩
      | modify =>
          refine .inr ⟨not_false, .usrModifyOk, by decide, ?_⟩
          dsimp only
          split
          · rfl
          · rfl

private theorem notMem_successCodes {c : CmdCode} (h : c ∈ failureCodes) : c ∉ successCodes := by
  revert h
  cases c <;> decide

/-! ## Requests of `root` -/

theorem sysUsrSet_root (env : Env) {head : Mem} {s : Session} (h : FromRoot s.dev.conf head) :
    (sysUsrSet env head s).1.dev =
        (applyUserSet (itsipData head 0) (extdat env head s.conn) s.dev).1 ∧
      (sysUsrSet env head s).2 =
        (applyUserSet (itsipData head 0) (extdat env head s.conn) s.dev).2 := by
  obtain ⟨u, hu, hroot⟩ := h
  have hfound : getUsrInfo s.dev.conf (cstr (itsipUser head)) = some u := hu
  unfold sysUsrSet
  rw [hfound]
  dsimp only
  rw [if_neg (not_not_intro hroot)]
  exact ⟨rfl, rfl⟩

private theorem needed_pos {flag : UInt8} {n : Nat} (h : needed flag = some n) : 0 < n := by
  unfold needed at h
  split at h
  · rw [← Option.some.inj h]
    decide
  · rw [← Option.some.inj h]
    decide
  · rw [← Option.some.inj h]
    decide
  · exact absurd h (Option.some_ne_none n).symm

private theorem complete_iff (head : Mem) (conn : Conn) :
    Complete head conn ↔
      needed (itsipData head 0) = some (itsipExtlen head) ∧ itsipExtlen head ≤ conn.arriving := by
  apply and_congr_right
  intro hlen
  rw [webConnRecv_ok_iff]
  exact and_iff_right (needed_pos hlen)

/-- A payload is handled as it should be exactly if no more than two records of it arrive
in `extdat`, and it is complete unless the operation is rejected anyhow. -/
theorem payloadHandled_iff (env : Env) {head : Mem} {s : Session}
    (hroot : FromRoot s.dev.conf head) :
    PayloadHandled env head s ↔
      (itsipExtlen head ≤ 2 * usrSize ∨ s.conn.arriving ≤ 2 * usrSize) ∧
        (needed (itsipData head 0) = some (itsipExtlen head) ∧
            itsipExtlen head ≤ s.conn.arriving ∨
          Rejected (itsipData head 0) (extdat env head s.conn) s.dev.conf) := by
  obtain ⟨hdev, hret⟩ := sysUsrSet_root env hroot
  have hstored : (webConnRecv s.conn (itsipExtlen head)).bytes.length ≤ 2 * usrSize ↔
      itsipExtlen head ≤ 2 * usrSize ∨ s.conn.arriving ≤ 2 * usrSize := by
    rw [webConnRecv_length]
    omega
  have hcourse := applyUserSet_course (itsipData head 0) (extdat env head s.conn) s.dev
  rw [← complete_iff, ← hstored]
  constructor
  · intro h
    refine ⟨h.stored, ?_⟩
    by_cases hcomplete : Complete head s.conn
    · exact .inl hcomplete
    · rcases hcourse with ⟨hrejected, -⟩ | ⟨-, c, hok, hc⟩
      · exact .inr hrejected
      · have hfailed := (h.intact hcomplete).2
        rw [hret, hc] at hfailed
        exact absurd hok (notMem_successCodes hfailed)
  · rintro ⟨hlen, hgood⟩
    refine ⟨hlen, fun hincomplete => ?_⟩
    rw [hdev, hret]
    rcases hcourse with ⟨-, c, hfailed, hc⟩ | ⟨hno, -⟩
    · rw [hc]
      exact ⟨rfl, hfailed⟩
    · exact absurd (hgood.resolve_left hincomplete) hno

/-! ## Two `MODIFY` requests of `root` -/

/-- Both records arrive. -/
def bothRecords : UserRequest :=
  requestOf rootName .modify (usrRecord rootName [] ++ usrRecord [] (chars ['p', 'w']))

/-- The connection ends behind the header. -/
def noRecords : UserRequest := requestOf rootName .modify []

/-- The session that serves a request on the default table. -/
def sessionOf (r : UserRequest) : Session := ⟨factoryDevice, r.conn, []⟩

theorem sessionOf_fromRoot {r : UserRequest}
    (h : Op.find defaultNames (requester r.head) = some 0) :
    FromRoot (sessionOf r).dev.conf r.head := by
  refine ⟨0, ?_, factoryDevice_holds.auth 0 (by decide)⟩
  show getUsrInfo factoryDevice.conf (requester r.head) = some 0
  rw [getUsrInfo_eq, find_congr factoryDevice_holds.names]
  exact h

theorem payloadHandled_bothRecords :
    PayloadHandled bothRecords.env bothRecords.head (sessionOf bothRecords) :=
  (payloadHandled_iff _ (sessionOf_fromRoot (by decide))).mpr ⟨by decide, .inl (by decide)⟩

/-- Nothing is received, and `USR_MODIFY_OK` is returned. -/
theorem not_payloadHandled_noRecords :
    FromRoot (sessionOf noRecords).dev.conf noRecords.head ∧
      ¬PayloadHandled noRecords.env noRecords.head (sessionOf noRecords) := by
  have hroot := sessionOf_fromRoot (r := noRecords) (by decide)
  refine ⟨hroot, fun h => ?_⟩
  have hfailed := (h.intact fun hcomplete => absurd hcomplete.2 (by decide)).2
  rw [(sysUsrSet_root _ hroot).2] at hfailed
  rcases applyUserSet_course (itsipData noRecords.head 0)
      (extdat noRecords.env noRecords.head (sessionOf noRecords).conn)
        (sessionOf noRecords).dev with
    ⟨hrejected, -⟩ | ⟨-, c, hok, hc⟩
  · exact hrejected
  · rw [hc] at hfailed
    exact notMem_successCodes hfailed hok

end Itertk.Web.UserPayload
