import Itertk.Base.Run
import Itertk.Threads.ModeProc

/-!
# Sockets and the sessions they were opened for

A session thread looks at its session three times before it serves: for the protocol,
for the arguments of the call that opens the socket, and for the copy that every later
test compares with.  A `CONF_MODE` that comes between the first and the last is copied
as if the socket had been opened for it.

## Main results

* `Consistent.step` — what each step of a thread keeps.
* `matches_reached` — without such requests every test that finds nothing changed
  finds the socket of the session.
* `disturbed_mismatch` — after such a request, two steps of the thread are enough.
-/

namespace Itertk.Threads.SessionMatch

open Itertk.Base.Memory
open Itertk.Base.Run
open Itertk.Daemon.Layout
open Itertk.Daemon.State
open Itertk.Threads.ModeProc

/-! ## The property and the condition -/

/-- The socket was opened with the protocol, and the address and port or the port, that
the session has. -/
def OpenedWith (fd : Sock) (s : Mem) : Prop :=
  match fd with
  | .client ip' port => protocol s = Protocol.tcpCli.code ∧ ip s = ip' ∧ dport s = port
  | .listening port _ => protocol s = Protocol.tcpSrv.code ∧ lport s = port
  | .udp port => protocol s = Protocol.tcpUdp.code ∧ lport s = port
  | .zero | .minusOne | .accepted => False

/-- A loop test that finds nothing changed, if it comes now, finds the socket of the
session. -/
def Matches (s : System) : Prop :=
  ∀ k j, k < maxComPort → j < maxSession → (s.mode k j).pc = .looping →
    Unchanged s.dev.conf k j (s.mode k j).tmp →
      OpenedWith (s.mode k j).fd (session s.dev.conf k j)

/-- The two sessions have the protocol, and what `openSocket` looks at, in common. -/
def SameSocket (p : Protocol) (s s' : Mem) : Prop :=
  protocol s' = protocol s ∧
    match p with
    | .tcpCli => ip s' = ip s ∧ dport s' = dport s
    | .tcpSrv | .tcpUdp => lport s' = lport s

/-- A session that is replaced by `s'` while its thread stands there: the protocol stays
when it has been read, and the arguments when the socket is open. -/
def Undisturbed (s s' : Mem) : Pc → Prop
  | .opening _ => protocol s' = protocol s
  | .copying p => SameSocket p s s'
  | .again | .looping | .serving | .closing => True

/-- A request disturbs no thread of its port. -/
def Quiet (s : System) : Turn → Prop
  | .thread _ _ _ => True
  | .confMode r =>
      r.Performed s.dev → ∀ j, j < maxSession →
        Undisturbed (session s.dev.conf r.port j) (r.session j) (s.mode r.port j).pc

/-! ## One thread -/

theorem OpenedWith.congr {fd : Sock} {s s' : Mem} (h : AgreeBelow sessionSize s s') :
    OpenedWith fd s ↔ OpenedWith fd s' := by
  obtain ⟨hprotocol, hip, hlport, hdport⟩ := session_congr h
  cases fd with
  | client => simp only [OpenedWith, hprotocol, hip, hdport]
  | listening => simp only [OpenedWith, hprotocol, hlport]
  | udp => simp only [OpenedWith, hprotocol, hlport]
  | zero => exact Iff.rfl
  | minusOne => exact Iff.rfl
  | accepted => exact Iff.rfl

/-- A call that succeeds opens the socket of the session. -/
theorem openedWith_openSocket {p : Protocol} {s : Mem} (hp : protocol s = p.code) {x : Opening}
    (h : (openSocket p s x).positive = true) : OpenedWith (openSocket p s x) s := by
  cases x with
  | descriptor =>
      cases p with
      | tcpCli => exact ⟨hp, rfl, rfl⟩
      | tcpSrv => exact ⟨hp, rfl⟩
      | tcpUdp => exact ⟨hp, rfl⟩
  | zero => cases p <;> exact absurd h Bool.false_ne_true
  | failed => cases p <;> exact absurd h Bool.false_ne_true

/-- The socket of one session is the socket of another that has the same of all that it
was opened with, and of no other. -/
theorem openedWith_iff_same {fd : Sock} {p : Protocol} {s s' : Mem} (h : OpenedWith fd s)
    (hp : protocol s = p.code) : OpenedWith fd s' ↔ SameSocket p s s' := by
  cases fd with
  | client ip' port =>
      obtain ⟨hprotocol, rfl, rfl⟩ := h
      cases p with
      | tcpCli => rw [OpenedWith, SameSocket, hprotocol]
      | tcpSrv => exact absurd (hprotocol.symm.trans hp) (by decide)
      | tcpUdp => exact absurd (hprotocol.symm.trans hp) (by decide)
  | listening port maxConn =>
      obtain ⟨hprotocol, rfl⟩ := h
      cases p with
      | tcpCli => exact absurd (hprotocol.symm.trans hp) (by decide)
      | tcpSrv => rw [OpenedWith, SameSocket, hprotocol]
      | tcpUdp => exact absurd (hprotocol.symm.trans hp) (by decide)
  | udp port =>
      obtain ⟨hprotocol, rfl⟩ := h
      cases p with
      | tcpCli => exact absurd (hprotocol.symm.trans hp) (by decide)
      | tcpSrv => exact absurd (hprotocol.symm.trans hp) (by decide)
      | tcpUdp => rw [OpenedWith, SameSocket, hprotocol]
  | zero => exact h.elim
  | minusOne => exact h.elim
  | accepted => exact h.elim

/-- What a thread that has not been disturbed knows of its session: the protocol that it
has read, that its socket is the one of the session, or that it is the one of the copy. -/
def Consistent (s : Mem) (md : ModeConfig) : Prop :=
  match md.pc with
  | .again | .closing => True
  | .opening p => protocol s = p.code
  | .copying p => protocol s = p.code ∧ OpenedWith md.fd s
  | .looping | .serving => ∀ m, slice m 0 sessionSize = md.tmp → OpenedWith md.fd m

/-- The bytes of two sessions are the same exactly when they agree. -/
theorem agree_of_slice {m m' : Mem} (h : slice m 0 sessionSize = slice m' 0 sessionSize) :
    AgreeBelow sessionSize m m' := by
  intro i hi
  have hbyte := (slice_eq_iff m m' 0 0 sessionSize).mp h i hi
  rwa [Nat.zero_add] at hbyte

private theorem serve_consistent {s s' : Mem} (x : Calls) {md : ModeConfig}
    (h : ∀ m, slice m 0 sessionSize = md.tmp → OpenedWith md.fd m) :
    Consistent s (serve s' x md) := by
  unfold serve
  split
  · split
    · trivial
    · exact h
  · exact h
  · exact h
  · exact h

/-- A step of a thread keeps what it knows. -/
theorem Consistent.step {conf : Mem} {k j : Nat} {md : ModeConfig}
    (h : Consistent (session conf k j) md) (x : Calls) :
    Consistent (session conf k j) (modeProc conf k j x md) := by
  unfold modeProc
  cases hpc : md.pc with
  | again =>
      dsimp only
      by_cases hmode : workMode conf k = workNo
      · rw [if_pos hmode]
        exact h
      · rw [if_neg hmode]
        cases hp : Protocol.ofWord (protocol (session conf k j)) with
        | some p => exact Protocol.ofWord_eq_some hp
        | none => exact h
  | opening p =>
      rw [Consistent, hpc] at h
      dsimp only
      by_cases hopen : (openSocket p (session conf k j) x.opening).positive = true
      · rw [if_pos hopen]
        exact ⟨h, openedWith_openSocket h hopen⟩
      · rw [if_neg hopen]
        trivial
  | copying p =>
      rw [Consistent, hpc] at h
      intro m hm
      exact (OpenedWith.congr (agree_of_slice hm)).mpr h.2
  | looping =>
      rw [Consistent, hpc] at h
      dsimp only
      by_cases hsame : Unchanged conf k j md.tmp
      · rw [if_pos hsame]
        exact h
      · rw [if_neg hsame]
        trivial
  | serving =>
      rw [Consistent, hpc] at h
      exact serve_consistent x h
  | closing => trivial

/-- A replacement of the session that does not disturb the thread keeps it, too. -/
theorem Consistent.replace {s s' : Mem} {md : ModeConfig} (h : Consistent s md)
    (hquiet : Undisturbed s s' md.pc) : Consistent s' md := by
  rw [Consistent] at h ⊢
  cases hpc : md.pc with
  | again => trivial
  | opening p =>
      rw [hpc] at h hquiet
      exact Eq.trans hquiet h
  | copying p =>
      rw [hpc] at h hquiet
      exact ⟨hquiet.1.trans h.1, (openedWith_iff_same h.2 h.1).mpr hquiet⟩
  | looping =>
      rw [hpc] at h
      exact h
  | serving =>
      rw [hpc] at h
      exact h
  | closing => trivial

theorem Undisturbed.congr {s s' s'' : Mem} (h : AgreeBelow sessionSize s' s'') {pc : Pc}
    (hquiet : Undisturbed s s'' pc) : Undisturbed s s' pc := by
  obtain ⟨hprotocol, hip, hlport, hdport⟩ := session_congr h
  cases pc with
  | opening p => exact hprotocol.trans hquiet
  | copying p =>
      obtain ⟨hsame, hargs⟩ := hquiet
      refine ⟨hprotocol.trans hsame, ?_⟩
      cases p with
      | tcpCli => exact ⟨hip.trans hargs.1, hdport.trans hargs.2⟩
      | tcpSrv => exact hlport.trans hargs
      | tcpUdp => exact hlport.trans hargs
  | again => trivial
  | looping => trivial
  | serving => trivial
  | closing => trivial

private theorem undisturbed_refl (s : Mem) (pc : Pc) : Undisturbed s s pc := by
  cases pc with
  | opening p => exact rfl
  | copying p =>
      refine ⟨rfl, ?_⟩
      cases p with
      | tcpCli => exact ⟨rfl, rfl⟩
      | tcpSrv => exact rfl
      | tcpUdp => exact rfl
  | again => trivial
  | looping => trivial
  | serving => trivial
  | closing => trivial

/-! ## All threads -/

/-- Every thread is consistent with its session. -/
def AllConsistent (s : System) : Prop :=
  ∀ k j, j < maxSession → Consistent (session s.dev.conf k j) (s.mode k j)

theorem AllConsistent.next {s : System} (h : AllConsistent s) {t : Turn} (hquiet : Quiet s t) :
    AllConsistent (next s t) := by
  intro k j hj
  cases t with
  | thread k' j' x =>
      rw [next_mode]
      by_cases heq : k = k' ∧ j = j'
      · obtain ⟨rfl, rfl⟩ := heq
        rw [if_pos ⟨rfl, rfl⟩]
        exact (h k j hj).step x
      · rw [if_neg heq]
        exact h k j hj
  | confMode r =>
      have hsession := confMode_session r s.dev k hj
      refine (h k j hj).replace (Undisturbed.congr hsession ?_)
      by_cases hperf : r.Performed s.dev ∧ k = r.port
      · obtain ⟨hdone, rfl⟩ := hperf
        rw [if_pos ⟨hdone, rfl⟩]
        exact hquiet hdone j hj
      · rw [if_neg hperf]
        exact undisturbed_refl _ _

private theorem AllConsistent.matches {s : System} (h : AllConsistent s) : Matches s := by
  intro k j _ hj hpc hsame
  have hthread := h k j hj
  rw [Consistent, hpc] at hthread
  exact hthread _ hsame.2

/-- In every run in which no request disturbs a thread, a test that finds nothing changed
finds the socket of the session. -/
theorem matches_reached (dev : Device) (turns : List Turn)
    (hquiet : StepsSatisfy next Quiet (modeInit dev) turns) :
    ∀ ys, ys <+: turns → Matches (exec next (modeInit dev) ys) := by
  intro ys hys
  obtain ⟨zs, rfl⟩ := hys
  have hrun := ((stepsSatisfy_append (modeInit dev) ys zs).mp hquiet).1
  have hstart : AllConsistent (modeInit dev) := fun _ _ _ => trivial
  exact (exec_under (fun _ _ hs hx => hs.next hx) hstart hrun).matches

/-- A request that comes while the thread is at `AGAIN`. -/
theorem matches_reached_toClient :
    Matches (exec next (modeInit (Device.start serverConf))
      [.confMode toClient, .thread 0 0 opens, .thread 0 0 opens, .thread 0 0 opens]) := by
  refine matches_reached (Device.start serverConf) _ ?_ _ (List.prefix_refl _)
  exact ⟨fun _ _ _ => trivial, trivial, trivial, trivial, trivial⟩

/-! ## A thread that is disturbed -/

/-- Whatever is copied then passes for the session that the socket was opened for. -/
theorem mismatch_of_copying {s : System} {k j : Nat} (hk : k < maxComPort) (hj : j < maxSession)
    {p : Protocol} (hpc : (s.mode k j).pc = .copying p) (hmode : workMode s.dev.conf k ≠ workNo)
    (hfd : ¬OpenedWith (s.mode k j).fd (session s.dev.conf k j)) (x : Calls) :
    ¬Matches (next s (.thread k j x)) := by
  intro hmatch
  have hthread : (next s (.thread k j x)).mode k j =
      { s.mode k j with tmp := slice (session s.dev.conf k j) 0 sessionSize, pc := .looping } := by
    rw [next_mode, if_pos ⟨rfl, rfl⟩, modeProc, hpc]
  have hfound := hmatch k j hk hj (by rw [hthread]) (by rw [hthread]; exact ⟨hmode, rfl⟩)
  rw [hthread] at hfound
  exact hfd hfound

/-- The call for a protocol opens no socket of another. -/
theorem protocol_of_openedWith {p : Protocol} {s s' : Mem}
    (h : OpenedWith (openSocket p s .descriptor) s') : protocol s' = p.code := by
  cases p with
  | tcpCli => exact h.1
  | tcpSrv => exact h.1
  | tcpUdp => exact h.1

/-- When a request disturbs a thread and leaves the port a work mode, the thread may go on
to a test that finds nothing changed and the wrong socket. -/
theorem disturbed_mismatch {s : System} (hall : AllConsistent s) {r : ModeRequest}
    (hperf : r.Performed s.dev) (hmode : r.record 4 ≠ workNo) {j : Nat} (hj : j < maxSession)
    (hdisturbed :
      ¬Undisturbed (session s.dev.conf r.port j) (r.session j) (s.mode r.port j).pc) :
    ∃ xs : List Calls, ¬Matches (exec next s (.confMode r :: xs.map (.thread r.port j))) := by
  have hthread := hall r.port j hj
  have hport : r.port < maxComPort := r.valid.port
  have hsession := confMode_session r s.dev r.port hj
  rw [if_pos ⟨hperf, rfl⟩] at hsession
  have hmode' : workMode (r.serve s.dev).conf r.port ≠ workNo := by
    rw [workMode, ModeRequest.serve_hit hperf (by decide)]
    exact hmode
  have hprotocol := (session_congr hsession).1
  rw [Consistent] at hthread
  cases hpc : (s.mode r.port j).pc with
  | again => rw [hpc] at hdisturbed; exact absurd trivial hdisturbed
  | looping => rw [hpc] at hdisturbed; exact absurd trivial hdisturbed
  | serving => rw [hpc] at hdisturbed; exact absurd trivial hdisturbed
  | closing => rw [hpc] at hdisturbed; exact absurd trivial hdisturbed
  | copying p =>
      rw [hpc] at hthread hdisturbed
      refine ⟨[opens], mismatch_of_copying (s := next s (.confMode r)) hport hj hpc hmode' ?_ opens⟩
      intro hopened
      exact hdisturbed ((openedWith_iff_same hthread.2 hthread.1).mp
        ((OpenedWith.congr hsession).mp hopened))
  | opening p =>
      rw [hpc] at hthread hdisturbed
      -- The socket is still opened for the protocol that was read.
      have hopening : (next (next s (.confMode r)) (.thread r.port j opens)).mode r.port j =
          { s.mode r.port j with
              fd := openSocket p (session (r.serve s.dev).conf r.port j) .descriptor
              pc := .copying p } := by
        rw [next_mode, if_pos ⟨rfl, rfl⟩]
        refine (modeProc_opening hpc).trans ?_
        exact congrArg _ (if_pos (openSocket_positive p _))
      refine ⟨[opens, opens],
        mismatch_of_copying (s := next (next s (.confMode r)) (.thread r.port j opens)) hport hj
          (p := p) (by rw [hopening]) hmode' ?_ opens⟩
      intro hopened
      rw [hopening] at hopened
      exact hdisturbed ((hprotocol.symm.trans (protocol_of_openedWith hopened)).trans hthread.symm)

/-! ## The server that is made a client -/

/-- The request comes between the opening of the listening socket and the copy. -/
theorem toClient_mismatch :
    ¬Matches (exec next (modeInit (Device.start serverConf))
      (switchTurns ++ [.thread 0 0 opens])) := by
  rw [exec_append, exec, exec]
  refine mismatch_of_copying (p := .tcpSrv) (by decide) (by decide) (by rw [switchTurns_mode]) ?_ ?_
    opens
  · have hmode := ModeRequest.serve_hit toClient_performed (i := 4) (by decide)
    rw [toClient_port, toClient_record] at hmode
    rw [switchTurns_dev, workMode, hmode]
    decide
  · rw [switchTurns_mode, switchTurns_dev, OpenedWith.congr toClient_session]
    rintro ⟨hprotocol, -⟩
    exact absurd hprotocol (by decide)

end Itertk.Threads.SessionMatch
