import Itertk.Daemon.Serial
import Itertk.Web.PortRecords

/-!
# What `CONF_SET` reports

`sys_conf_set` receives a block, looks at the rights of the requester, and writes and saves
the block.  Its result goes back to the operator.  The three kinds have the same course,
and differ in one place: a refused `CONF_COM` returns the code of success.

## Main results

* `sysConfSet_course` — the three ways through a kind, with their results.
* `tellsTruth_iff` — when the result says whether the block was written and saved.
-/

namespace Itertk.Web.ConfStatus

open Itertk.Base.Memory
open Itertk.Daemon.Layout
open Itertk.Daemon.State
open Itertk.Daemon.Serial
open Itertk.Itsip.Socket
open Itertk.Itsip.Header
open Itertk.Web.Users
open Itertk.Web.Handlers
open Itertk.Web.PortRecords

/-! ## Kinds -/

/-- The kinds that `CONF_SET` has a case for. -/
inductive SetKind where
  | com | mode | limit
  deriving DecidableEq

namespace SetKind

def kind : SetKind → ConfKind
  | com => .com
  | mode => .mode
  | limit => .limit

/-- The case of `sys_conf_set`. -/
def arm : SetKind → Nat → List UInt8 → Session → Session × CmdCode
  | com => sysConfSetCom
  | mode => sysConfSetMode
  | limit => sysConfSetLimit

/-- The size of the block. -/
def size : SetKind → Nat
  | com => comSize
  | mode => modeSize
  | limit => limSize

/-- The code that means success. -/
def okCode : SetKind → CmdCode
  | com => .comSetOk
  | mode => .modeSetOk
  | limit => .limitSetOk

/-- What the case returns for a requester without the right. -/
def refusedCode : SetKind → CmdCode
  | com => .comSetOk
  | mode => .modeSetFailed
  | limit => .limitSetFailed

/-- The right that the case asks for. -/
def Permitted (conf : Mem) (port : Nat) (name : List UInt8) : SetKind → Prop
  | com | mode => MayAccess conf limModify port name
  | limit => usrAuth conf (getUsrId conf name) = usrRoot

instance (conf : Mem) (port : Nat) (name : List UInt8) (k : SetKind) :
    Decidable (Permitted conf port name k) :=
  match k with
  | com | mode => inferInstanceAs (Decidable (MayAccess _ _ _ _))
  | limit => inferInstanceAs (Decidable (_ = _))

/-- The configuration with the received block in it. -/
def put (conf : Mem) (port : Nat) (bytes : List UInt8) : SetKind → Mem
  | com => putCom conf port (receivedCom bytes)
  | mode => blit conf (modeOff port) bytes
  | limit => blit conf (limOff port) bytes

end SetKind

/-- The codes that mean failure. -/
def failureCodes : List CmdCode := [.recvFailed, .comSetFailed, .modeSetFailed, .limitSetFailed]

/-! ## What is written -/

/-- A `CONF_SET` header of the kind for one of the two ports. -/
structure SetRequest (k : SetKind) (head : Mem) : Prop where
  kind : itsipData head 0 = k.kind.code
  port : port head < maxComPort

/-- The session with something else in `CONFIG_FILE`. -/
def withFile (s : Session) (file : List UInt8) : Session :=
  { s with dev := { s.dev with saved := file } }

/-- The block is received, `g_conf_info` then holds it, and so does `CONFIG_FILE`, whatever
it held before. -/
def Written (k : SetKind) (head : Mem) (s : Session) : Prop :=
  (webConnRecv s.conn k.size).ok = true ∧
    ∀ file, let d := (sysConfSet head (withFile s file)).1.dev
      d.conf = k.put s.dev.conf (port head) (webConnRecv s.conn k.size).bytes ∧
        d.saved = slice d.conf 0 confSize

/-- The result is the code of success exactly if the block was written; it is a code of
failure otherwise, and `g_conf_info` is as it was. -/
structure TellsTruth (k : SetKind) (head : Mem) (s : Session) : Prop where
  ok_iff : (sysConfSet head s).2 = k.okCode ↔ Written k head s
  failed : (sysConfSet head s).2 ≠ k.okCode →
    (sysConfSet head s).2 ∈ failureCodes ∧ (sysConfSet head s).1.dev.conf = s.dev.conf

/-! ## The course of a case -/

/-- The ways through a case. -/
inductive Course (k : SetKind) (head : Mem) (s : Session) : Prop where
  | notReceived : (webConnRecv s.conn k.size).ok = false → (sysConfSet head s).2 = .recvFailed →
      (sysConfSet head s).1.dev = s.dev → Course k head s
  | refused : (webConnRecv s.conn k.size).ok = true →
      ¬k.Permitted s.dev.conf (port head) (requester head) →
      (sysConfSet head s).2 = k.refusedCode → (sysConfSet head s).1.dev = s.dev → Course k head s
  | set : (webConnRecv s.conn k.size).ok = true →
      k.Permitted s.dev.conf (port head) (requester head) →
      (sysConfSet head s).2 = k.okCode →
      (sysConfSet head s).1.dev.conf =
        k.put s.dev.conf (port head) (webConnRecv s.conn k.size).bytes →
      (sysConfSet head s).1.dev.saved = slice (sysConfSet head s).1.dev.conf 0 confSize →
      Course k head s

private theorem sysConfSet_kind {k : SetKind} {head : Mem} (h : itsipData head 0 = k.kind.code)
    (s : Session) : sysConfSet head s = k.arm (port head) (requester head) s := by
  rw [sysConfSet, h, ConfKind.ofByte_code]
  cases k <;> rfl

/-- Each case receives, then asks for the right, then writes and saves. -/
theorem arm_eq (k : SetKind) (port : Nat) (name : List UInt8) (s : Session) :
    ∃ done : Session,
      (k.arm port name s =
        if (webConnRecv s.conn k.size).ok = false then
          ({ s with conn := (webConnRecv s.conn k.size).conn }, .recvFailed)
        else if k.Permitted s.dev.conf port name then (done, k.okCode)
        else ({ s with conn := (webConnRecv s.conn k.size).conn }, k.refusedCode)) ∧
      done.dev.conf = k.put s.dev.conf port (webConnRecv s.conn k.size).bytes ∧
      done.dev.saved = slice (k.put s.dev.conf port
        (webConnRecv s.conn k.size).bytes) 0 confSize := by
  cases k with
  | com =>
      refine ⟨_, rfl, comSet_conf _ _, ?_⟩
      show (comSet _ _).1.saved = _
      rw [comSet_eq, comParaSet_saved, configSave_saved]
      rfl
  | mode | limit =>
      refine ⟨_, rfl, rfl, ?_⟩
      exact configSave_saved _ _

theorem sysConfSet_course {k : SetKind} {head : Mem} (h : itsipData head 0 = k.kind.code)
    (s : Session) : Course k head s := by
  obtain ⟨done, harm, hconf, hsaved⟩ := arm_eq k (port head) (requester head) s
  rw [← sysConfSet_kind h s] at harm
  cases hok : (webConnRecv s.conn k.size).ok with
  | false =>
      rw [if_pos hok] at harm
      exact .notReceived hok (by rw [harm]) (by rw [harm])
  | true =>
      rw [if_neg (by rw [hok]; decide)] at harm
      by_cases hmay : k.Permitted s.dev.conf (port head) (requester head)
      · rw [if_pos hmay] at harm
        exact .set hok hmay (by rw [harm]) (by rw [harm, hconf])
          (by rw [harm, hsaved, hconf])
      · rw [if_neg hmay] at harm
        exact .refused hok hmay (by rw [harm]) (by rw [harm])

/-- A block is written exactly if it is received and the requester has the right. -/
theorem written_iff {k : SetKind} {head : Mem} (h : itsipData head 0 = k.kind.code) (s : Session) :
    Written k head s ↔ (webConnRecv s.conn k.size).ok = true ∧
      k.Permitted s.dev.conf (port head) (requester head) := by
  apply and_congr_right
  intro hok
  constructor
  · intro hall
    -- an empty file shows that nothing was saved
    cases sysConfSet_course h (withFile s []) with
    | notReceived hno => exact absurd (hno.symm.trans hok) (by decide)
    | set _ hmay => exact hmay
    | refused _ _ _ hdev =>
        obtain ⟨-, hsaved⟩ := hall []
        rw [hdev] at hsaved
        have hlen := congrArg List.length hsaved
        rw [slice_length] at hlen
        exact absurd (show (0 : Nat) = confSize from hlen) (by decide)
  · intro hmay file
    cases sysConfSet_course h (withFile s file) with
    | notReceived hno => exact absurd (hno.symm.trans hok) (by decide)
    | refused _ hno => exact absurd hmay hno
    | set _ _ _ hconf hsaved => exact ⟨hconf, hsaved⟩

private theorem okCode_notMem_failureCodes (k : SetKind) : k.okCode ∉ failureCodes := by
  cases k <;> decide

/-- The result tells the truth exactly if it is not a `CONF_COM` that is received and
refused. -/
theorem tellsTruth_iff {k : SetKind} {head : Mem} (h : SetRequest k head) (s : Session) :
    TellsTruth k head s ↔
      ¬(k = .com ∧ (webConnRecv s.conn comSize).ok = true ∧
        ¬MayAccess s.dev.conf limModify (port head) (requester head)) := by
  have hwritten := written_iff h.kind s
  have hfail : ∀ {c}, c ∈ failureCodes → c ≠ k.okCode := by
    rintro _ hc rfl
    exact okCode_notMem_failureCodes k hc
  cases sysConfSet_course h.kind s with
  | notReceived hno hret hdev =>
      have hne : (sysConfSet head s).2 ≠ k.okCode := by
        rw [hret]
        exact hfail (by decide)
      refine iff_of_true ⟨iff_of_false hne ?_, fun _ => ⟨by rw [hret]; decide, by rw [hdev]⟩⟩ ?_
      · rw [hwritten, hno]
        exact fun hboth => Bool.false_ne_true hboth.1
      · rintro ⟨rfl, hok, -⟩
        exact Bool.false_ne_true (hno.symm.trans hok)
  | set hok hmay hret hconf hsaved =>
      refine iff_of_true ⟨iff_of_true hret (hwritten.mpr ⟨hok, hmay⟩), fun hne =>
        absurd hret hne⟩ ?_
      rintro ⟨rfl, -, hno⟩
      exact hno hmay
  | refused hok hno hret hdev =>
      have hnot : ¬Written k head s := fun hw => hno (hwritten.mp hw).2
      cases k with
      | com =>
          refine iff_of_false (fun htruth => hnot (htruth.ok_iff.mp hret)) fun hgood => ?_
          exact hgood ⟨rfl, hok, hno⟩
      | mode | limit =>
          have hne : (sysConfSet head s).2 ∈ failureCodes := by
            rw [hret]
            decide
          refine iff_of_true ⟨iff_of_false (hfail hne) hnot, fun _ => ⟨hne, by rw [hdev]⟩⟩ ?_
          rintro ⟨hcom, -⟩
          cases hcom

/-- `CONF_COM` for port 0, in the name of nobody. -/
def comHead : Mem := store (itsipPack zero ItsCmd.confSet.code 0 0) 32 ConfKind.com.code

/-- The block has arrived. -/
def sessionOn (conf : Mem) : Session :=
  ⟨Device.start conf, ⟨true, [.data (List.replicate comSize 0) 0], [], []⟩, []⟩

/-- Where port 0 is not limited, the result is right. -/
theorem tellsTruth_unlimited : TellsTruth .com comHead (sessionOn zero) :=
  (tellsTruth_iff ⟨rfl, by decide⟩ _).mpr fun h => h.2.2 (by decide)

/-- Where it is limited, `COM_SET_OK` reports a change that is not made. -/
theorem not_tellsTruth_limited : SetRequest .com comHead ∧
    ¬TellsTruth .com comHead (sessionOn (store zero (limOff 0 + 1) enabled)) := by
  refine ⟨⟨rfl, by decide⟩, fun htruth => ?_⟩
  have hmay := ((written_iff rfl _).mp (htruth.ok_iff.mp (by decide))).2
  exact absurd hmay (by decide)

end Itertk.Web.ConfStatus
