import Itertk.Web.Handlers

/-!
# The answer to a request

Every arm of `web_cmd_proc` ends in `net_conn_send` of a local `its_ack_pak`, and nearly
every arm has packed it before.  `ITS_USER_SET` does not pack it, so that its answer starts
with whatever the stack holds.  `sys_conf_query` has no answer for a kind that it does not
know.

An `ITS_USER_SET` that brings more than the 112 bytes of `extdat` overruns the stack before it is
answered.  `extdat` has no end in the model, and the results about such a request are about the
answer of a run that the overrun does not disturb.

## Main result

* `answered_iff` — when a request is answered by one well-formed header.
-/

namespace Itertk.Web.Answers

open Itertk.Base.Memory
open Itertk.Daemon.State
open Itertk.Itsip.Socket
open Itertk.Itsip.Header
open Itertk.Web.Handlers

/-! ## Headers -/

/-- The header of an answer to the command. -/
structure AckOf (c : ItsCmd) (h : Mem) : Prop where
  head : h 0 = itsHead
  cmd : itsipCmd h = c.code + 0x10
  ver : h 2 = itsipVersion
  thl : h 3 = itsipThlen

private theorem ItsCmd.ack_eq (c : ItsCmd) : c.ack = c.code + 0x10 := by
  cases c <;> rfl

/-- `itsip_pack` makes one of whatever the stack holds. -/
theorem ackOf_ackHead (env : Env) (c : ItsCmd) (extlen : UInt16) : AckOf c (ackHead env c extlen) :=
  ⟨rfl, ItsCmd.ack_eq c, rfl, rfl⟩

/-- The data bytes are not part of it. -/
theorem AckOf.store {c : ItsCmd} {h : Mem} (hack : AckOf c h) (b : UInt8) :
    AckOf c (Itertk.Base.Memory.store h 32 b) :=
  ⟨hack.head, hack.cmd, hack.ver, hack.thl⟩

/-- Only its first bytes count. -/
theorem AckOf.of_slice {c : ItsCmd} {h h' : Mem} (hack : AckOf c h)
    (heq : slice h 0 headSize = slice h' 0 headSize) : AckOf c h' := by
  have hbyte : ∀ i, i < headSize → h' i = h i := by
    intro i hi
    have hi' := (slice_eq_iff h h' 0 0 headSize).mp heq i hi
    rw [Nat.zero_add] at hi'
    exact hi'.symm
  exact ⟨(hbyte 0 (by decide)).trans hack.head, (hbyte 1 (by decide)).trans hack.cmd,
    (hbyte 2 (by decide)).trans hack.ver, (hbyte 3 (by decide)).trans hack.thl⟩

/-! ## Answers -/

/-- The header `h`, and at most a block behind it, have gone to the socket. -/
def SentHeader (h : Mem) (s s' : Session) : Prop :=
  ∃ data len, s'.conn.sent = s.conn.sent ++ slice h 0 headSize ++ behindHead data len

/-- One header has gone to the socket, and it is well formed. -/
def Answered (c : ItsCmd) (s s' : Session) : Prop := ∃ h, AckOf c h ∧ SentHeader h s s'

/-- A reply that leaves the connection open has been sent. -/
theorem reply_sentHeader {s t : Session} {h : Mem} {data : Option Mem} {len : Nat}
    (hup : (t.reply h data len).conn.isOpen = true) (ht : t.conn.sent = s.conn.sent) :
    SentHeader h s (t.reply h data len) := by
  refine ⟨data, len, ?_⟩
  rw [← ht]
  exact netConnSend_sent (netConnSend_open hup)

theorem readAsked_sent (conn : Conn) (n : Option Nat) : (readAsked conn n).sent = conn.sent := by
  cases n with
  | none => rfl
  | some n =>
      show (webConnRecv conn n).conn.sent = conn.sent
      rw [webConnRecv]
      split <;> rfl

/-- The header is the only one of its length. -/
theorem SentHeader.unique {h h' : Mem} {s s' : Session} (hsent : SentHeader h s s')
    (hsent' : SentHeader h' s s') : slice h 0 headSize = slice h' 0 headSize := by
  obtain ⟨data, len, heq⟩ := hsent
  obtain ⟨data', len', heq'⟩ := hsent'
  rw [heq, List.append_assoc, List.append_assoc, List.append_cancel_left_eq] at heq'
  refine (List.append_inj heq' ?_).1
  rw [slice_length, slice_length]

/-- Nothing sent is no answer. -/
theorem not_answered_of_sent_eq {c : ItsCmd} {s s' : Session} (h : s'.conn.sent = s.conn.sent) :
    ¬Answered c s s' := by
  rintro ⟨m, -, data, len, hsent⟩
  have hlen := congrArg List.length hsent
  rw [h, List.length_append, List.length_append, slice_length] at hlen
  simp only [headSize] at hlen
  omega

private theorem answer_answered {env : Env} {c : ItsCmd} {s t : Session} {ret : CmdCode}
    (hup : (t.answer env c ret).conn.isOpen = true) (ht : t.conn.sent = s.conn.sent) :
    Answered c s (t.answer env c ret) :=
  ⟨_, (ackOf_ackHead env c 0).store ret.code, reply_sentHeader hup ht⟩

private theorem answerBlock_answered {env : Env} {c : ItsCmd} {s t : Session} {data : Mem}
    {len : Nat}
    (hup : (t.answerBlock env c data len).conn.isOpen = true) (ht : t.conn.sent = s.conn.sent) :
    Answered c s (t.answerBlock env c data len) :=
  ⟨_, ackOf_ackHead env c _, reply_sentHeader hup ht⟩

/-! ## Arms -/

theorem sysSet_sent (off size : Nat) (ok failed : CmdCode) (s : Session) :
    (sysSet off size ok failed s).1.conn.sent = s.conn.sent := by
  rw [sysSet_conn]
  exact readAsked_sent s.conn (some size)

theorem sysConfSet_sent (head : Mem) (s : Session) :
    (sysConfSet head s).1.conn.sent = s.conn.sent := by
  rw [sysConfSet_conn]
  exact readAsked_sent _ _

/-- Each kind of `sys_conf_query` has its answer, granted or refused. -/
theorem sysConfQuery_answered {env : Env} {head : Mem} {s : Session} {k : ConfKind}
    (hk : itsipData head 0 = k.code) (hup : (sysConfQuery env head s).conn.isOpen = true) :
    Answered .confQuery s (sysConfQuery env head s) := by
  have refused : (s.refuse env).conn.isOpen = true → Answered .confQuery s (s.refuse env) :=
    fun hup => ⟨_, (ackOf_ackHead env .confQuery 0).store 1, reply_sentHeader hup rfl⟩
  have granted : ∀ (data : Mem) (len : Nat),
      (s.reply (store (ackHead env .confQuery (UInt16.ofNat len)) 32 0) (some data) len).conn.isOpen
        = true → Answered .confQuery s
          (s.reply (store (ackHead env .confQuery (UInt16.ofNat len)) 32 0) (some data) len) :=
    fun _ _ hup => ⟨_, (ackOf_ackHead env .confQuery _).store 0, reply_sentHeader hup rfl⟩
  revert hup
  unfold sysConfQuery
  rw [hk, ConfKind.ofByte_code]
  cases k with
  | gpio | server => exact granted _ _
  | com | mode =>
      dsimp only
      split
      · exact granted _ _
      · exact refused
  | limit =>
      dsimp only
      split
      · exact fun hup => answerBlock_answered hup rfl
      · exact refused

/-- A kind without a case is not answered. -/
theorem sysConfQuery_unknown (env : Env) {head : Mem} (s : Session)
    (hk : ∀ k : ConfKind, itsipData head 0 ≠ k.code) : sysConfQuery env head s = s := by
  have hnone : ConfKind.ofByte (itsipData head 0) = none := by
    rw [ConfKind.ofByte, List.find?_eq_none]
    intro k _
    rw [decide_eq_true_iff]
    exact (hk k).symm
  unfold sysConfQuery
  rw [hnone]

/-- The arms that pack their answer. -/
theorem webArm_answered {env : Env} {head : Mem} {s : Session} {c : ItsCmd} (hc : c ≠ .userSet)
    (hkind : c = .confQuery → ∃ k : ConfKind, itsipData head 0 = k.code)
    (hup : (webArm env head s c).conn.isOpen = true) : Answered c s (webArm env head s c) := by
  cases c with
  | userSet => exact absurd rfl hc
  | confQuery =>
      obtain ⟨k, hk⟩ := hkind rfl
      exact sysConfQuery_answered hk hup
  | login | factorySet => exact answer_answered hup rfl
  | userQuery | sysinfoQuery | netinfoQuery | vlanQuery | serverQuery | gpioQuery =>
      exact answerBlock_answered hup rfl
  | sysinfoSet | vlanSet => exact answer_answered hup (sysSet_sent _ _ _ _ s)
  | confSet => exact answer_answered hup (sysConfSet_sent head s)
  | netinfoSet =>
      refine answer_answered hup ?_
      rw [sysNetinfoSet]
      split
      · exact sysSet_sent _ _ _ _ s
      · exact sysSet_sent _ _ _ _ s
  | gpioSet =>
      refine answer_answered hup ?_
      simp only [sysGpioSet]
      split
      · exact sysSet_sent _ _ _ _ s
      · exact sysSet_sent _ _ _ _ s
  | serverSet =>
      revert hup
      simp only [webArm]
      split
      · exact fun hup => answer_answered hup (sysSet_sent _ _ _ _ s)
      · exact fun hup => answer_answered hup (sysSet_sent _ _ _ _ s)

/-- `ITS_USER_SET` sends the packet as it lay on the stack. -/
theorem webArm_userSet {env : Env} {head : Mem} {s : Session}
    (hup : (webArm env head s .userSet).conn.isOpen = true) :
    SentHeader (store env.stack 32 (sysUsrSet env head s).2.code) s
      (webArm env head s .userSet) := by
  refine reply_sentHeader hup ?_
  rw [sysUsrSet_conn]
  exact readAsked_sent _ _

/-- A request is answered by one well-formed header, except that the answer of
`ITS_USER_SET` has to lie on the stack already, and that an unknown kind of
`ITS_CONF_QUERY` has none. -/
theorem answered_iff (env : Env) {c : ItsCmd} {head : Mem} (s : Session) (hhead : head 0 = itsHead)
    (hcmd : itsipCmd head = c.code) (hup : (webCmdProc env head s).conn.isOpen = true) :
    Answered c s (webCmdProc env head s) ↔
      (c = .userSet → AckOf .userSet env.stack) ∧
        (c = .confQuery → ∃ k : ConfKind, itsipData head 0 = k.code) := by
  have hopen : s.conn.isOpen ≠ false := by
    intro hclosed
    rw [webCmdProc, if_pos hclosed, hclosed] at hup
    exact Bool.false_ne_true hup
  rw [webCmdProc_eq env s hhead hcmd, if_neg hopen] at hup ⊢
  by_cases hset : c = .userSet
  · subst hset
    constructor
    · rintro ⟨h, hack, hsent⟩
      refine ⟨fun _ => ?_, fun hquery => nomatch hquery⟩
      have hstack := hack.of_slice (hsent.unique (webArm_userSet hup))
      exact ⟨hstack.head, hstack.cmd, hstack.ver, hstack.thl⟩
    · rintro ⟨hstack, -⟩
      exact ⟨_, (hstack rfl).store _, webArm_userSet hup⟩
  · constructor
    · intro hans
      refine ⟨fun h => absurd h hset, ?_⟩
      rintro rfl
      by_cases hk : ∃ k : ConfKind, itsipData head 0 = k.code
      · exact hk
      · have hsame := sysConfQuery_unknown env s fun k heq => hk ⟨k, heq⟩
        exact absurd hans (not_answered_of_sent_eq (congrArg (fun t => t.conn.sent) hsame))
    · rintro ⟨-, hkind⟩
      exact webArm_answered hset hkind hup

/-- A connection of an idle daemon. -/
def idleSession : Session := ⟨Device.start zero, ⟨true, [], [], []⟩, []⟩

/-- A login is answered. -/
theorem answered_login :
    Answered .login idleSession
      (webCmdProc Env.idle (itsipPack zero ItsCmd.login.code 0 0) idleSession) :=
  (answered_iff Env.idle idleSession rfl rfl rfl).mpr ⟨nofun, nofun⟩

/-- The answer of `ITS_USER_SET` starts with the zeros that the stack holds. -/
theorem not_answered_userSet :
    (webCmdProc Env.idle (itsipPack zero ItsCmd.userSet.code 0 0) idleSession).conn.isOpen = true ∧
      ¬Answered .userSet idleSession
        (webCmdProc Env.idle (itsipPack zero ItsCmd.userSet.code 0 0) idleSession) := by
  refine ⟨rfl, ?_⟩
  rintro ⟨h, hack, hsent⟩
  have hstack := hack.of_slice (hsent.unique (webArm_userSet rfl))
  exact absurd hstack.head (by decide)

end Itertk.Web.Answers
