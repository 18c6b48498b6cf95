import Itertk.Base.Run
import Itertk.Threads.ModeProc

/-!
# The sockets that serial data are sent to

`SendComDataToNet` chooses what to do by the protocol that the session has now, and
takes the socket that was opened for the protocol it had when its thread last looked.
With `TCP_CLI` it sends to any descriptor but 0: to -1, which is what a failed call
leaves in `fd`, and to a listening socket until the thread finds the session changed.

## Main results

* `modeProc_fd`, `modeProc_sfd` — what a step of a thread leaves in its descriptors.
* `sendsOnData_iff` — the runs in which data are sent to data sockets only.
-/

namespace Itertk.Threads.DataSockets

open Itertk.Base.Memory
open Itertk.Base.Run
open Itertk.Base.Slots
open Itertk.Daemon.Layout
open Itertk.Daemon.State
open Itertk.Threads.ModeProc

/-! ## The property and the condition -/

/-- `socket_cli_init` has opened the socket. -/
def IsClient : Sock → Prop
  | .client _ _ => True
  | _ => False

def IsListening : Sock → Prop
  | .listening _ _ => True
  | _ => False

/-- While the protocol is `TCP_CLI` the descriptor is 0 or a client socket. -/
def OnData (fd : Sock) (s : Mem) : Prop :=
  protocol s = Protocol.tcpCli.code → fd = .zero ∨ IsClient fd

def AllOnData (s : System) : Prop :=
  ∀ k j, k < maxComPort → j < maxSession → OnData (s.mode k j).fd (session s.dev.conf k j)

/-- A call of `SendComDataToNet` that comes now finds 0 or a client socket wherever it
takes the branch for `TCP_CLI`, and sends nothing to a listening socket. -/
def SendsOnData (s : System) : Prop :=
  AllOnData s ∧
    ∀ k data fd bytes, k < maxComPort → NetCall.send fd bytes ∈ sendComDataToNet s k data →
      ¬IsListening fd

/-- The opening call leaves 0 or a client socket. -/
def Connects (p : Protocol) (x : Opening) : Prop :=
  p = .tcpCli ∧ x ≠ .failed ∨ p = .tcpUdp ∧ x = .zero

/-- A thread whose session has `TCP_CLI` opens a client socket, or gets 0; a request gives
`TCP_CLI` only to a session whose descriptor is that. -/
def ToData (s : System) : Turn → Prop
  | .thread k j x =>
      k < maxComPort → j < maxSession → ∀ p, (s.mode k j).pc = .opening p →
        protocol (session s.dev.conf k j) = Protocol.tcpCli.code → Connects p x.opening
  | .confMode r =>
      r.Performed s.dev → ∀ j, j < maxSession → OnData (s.mode r.port j).fd (r.session j)

/-! ## Descriptors -/

private theorem connects_iff (p : Protocol) (s : Mem) (x : Opening) :
    Connects p x ↔ openSocket p s x = .zero ∨ IsClient (openSocket p s x) := by
  unfold Connects
  cases p with
  | tcpCli => cases x <;> simp [openSocket, socketCliInit, IsClient]
  | tcpSrv => cases x <;> simp [openSocket, socketInit, IsClient]
  | tcpUdp => cases x <;> simp [openSocket, initUdpSocket, IsClient]

private theorem serve_fd (s : Mem) (x : Calls) (md : ModeConfig) :
    (serve s x md).fd = .zero ∨ (serve s x md).fd = md.fd := by
  unfold serve
  split
  · split
    · exact .inl rfl
    · exact .inr rfl
  · exact .inr rfl
  · exact .inr rfl
  · exact .inr rfl

/-- But for the opening call, a step leaves the descriptor or sets it to 0. -/
theorem modeProc_fd (conf : Mem) (k j : Nat) (x : Calls) {md : ModeConfig}
    (h : ∀ p, md.pc ≠ .opening p) :
    (modeProc conf k j x md).fd = .zero ∨ (modeProc conf k j x md).fd = md.fd := by
  unfold modeProc
  cases hpc : md.pc with
  | opening p => exact absurd hpc (h p)
  | again =>
      dsimp only
      split
      · exact .inr rfl
      · split
        · exact .inr rfl
        · exact .inr rfl
  | copying p => exact .inr rfl
  | looping =>
      dsimp only
      split
      · exact .inr rfl
      · exact .inr rfl
  | serving => exact serve_fd _ x md
  | closing => exact .inl rfl

/-- A connection that is accepted is no listening socket. -/
theorem acceptSession_notListening {sfd : Nat → Sock} (h : ∀ i, ¬IsListening (sfd i))
    (x : Option Opening) (i : Nat) : ¬IsListening (acceptSession sfd x i) := by
  unfold acceptSession
  cases x with
  | none => exact h i
  | some x =>
      dsimp only
      cases firstSlot maxSession fun i => decide (sfd i = .zero) with
      | some slot =>
          dsimp only
          by_cases hi : i = slot
          · rw [hi, Function.update_self]
            cases x <;> exact not_false
          · rw [Function.update_of_ne hi]
            exact h i
      | none => exact h i

/-- No step puts a listening socket among the accepted ones. -/
theorem modeProc_sfd (conf : Mem) (k j : Nat) (x : Calls) {md : ModeConfig}
    (h : ∀ i, ¬IsListening (md.sfd i)) (i : Nat) :
    ¬IsListening ((modeProc conf k j x md).sfd i) := by
  unfold modeProc
  cases md.pc with
  | again =>
      dsimp only
      split
      · exact h i
      · split
        · exact h i
        · exact h i
  | opening p => exact h i
  | copying p => exact h i
  | closing => exact not_false
  | looping =>
      dsimp only
      split
      · exact h i
      · exact h i
  | serving =>
      dsimp only
      unfold serve
      split
      · split
        · exact h i
        · exact h i
      · dsimp only
        split
        · exact not_false
        · exact acceptSession_notListening h x.connection i
      · exact h i
      · exact h i

/-- No accepted socket of the system listens. -/
def AcceptedOnly (s : System) : Prop := ∀ k j i, ¬IsListening ((s.mode k j).sfd i)

theorem AcceptedOnly.next {s : System} (h : AcceptedOnly s) (t : Turn) :
    AcceptedOnly (next s t) := by
  intro k j i
  cases t with
  | thread k' j' x =>
      rw [next_mode]
      split
      · exact modeProc_sfd _ _ _ x (h k' j') i
      · exact h k j i
  | confMode r => exact h k j i

/-! ## What is sent -/

/-- What goes out by `send` goes to the descriptor of a client session, or to an accepted
socket. -/
theorem mem_sendComDataToNet {s : System} {k : Nat} {data bytes : List UInt8} {fd : Sock}
    (h : NetCall.send fd bytes ∈ sendComDataToNet s k data) :
    ∃ j, j < maxSession ∧
      (protocol (session s.dev.conf k j) = Protocol.tcpCli.code ∧ fd = (s.mode k j).fd ∨
        ∃ i, fd = (s.mode k j).sfd i) := by
  obtain ⟨j, hj, hcall⟩ := List.mem_flatMap.mp h
  refine ⟨j, List.mem_range.mp hj, ?_⟩
  unfold sessionCalls at hcall
  split at hcall
  · rename_i hp
    split at hcall
    · cases List.mem_singleton.mp hcall
      exact .inl ⟨Protocol.ofWord_eq_some hp, rfl⟩
    · cases hcall
  · obtain ⟨fd', hfd, heq⟩ := List.mem_map.mp hcall
    obtain ⟨i, _, hi⟩ := List.mem_map.mp (List.mem_filter.mp hfd).1
    cases heq
    exact .inr ⟨i, hi.symm⟩
  · split at hcall
    · cases List.mem_singleton.mp hcall
    · cases hcall
  · cases hcall

/-- With `TCP_CLI`, data go to any descriptor but 0. -/
theorem client_sends {s : System} {k j : Nat} (hj : j < maxSession)
    (hp : protocol (session s.dev.conf k j) = Protocol.tcpCli.code) (hfd : (s.mode k j).fd ≠ .zero)
    (data : List UInt8) : NetCall.send (s.mode k j).fd data ∈ sendComDataToNet s k data := by
  refine List.mem_flatMap.mpr ⟨j, List.mem_range.mpr hj, ?_⟩
  have hword : Protocol.ofWord (protocol (session s.dev.conf k j)) = some .tcpCli := by
    rw [hp]
    rfl
  rw [sessionCalls, hword]
  simp only [if_pos hfd]
  exact List.mem_cons_self

private theorem sendsOnData_iff_all {s : System} (h : AcceptedOnly s) :
    SendsOnData s ↔ AllOnData s := by
  refine ⟨And.left, fun hall => ⟨hall, fun k data fd bytes hk hcall => ?_⟩⟩
  obtain ⟨j, hj, ⟨hp, rfl⟩ | ⟨i, rfl⟩⟩ := mem_sendComDataToNet hcall
  · rcases hall k j hk hj hp with hzero | hclient
    · rw [hzero]
      exact not_false
    · intro hlisten
      cases hfd : (s.mode k j).fd with
      | client => rw [hfd] at hlisten; exact hlisten
      | _ => rw [hfd] at hclient; exact hclient
  · exact h k j i

/-! ## One step -/

theorem OnData.congr {fd : Sock} {s s' : Mem} (h : AgreeBelow sessionSize s s') :
    OnData fd s ↔ OnData fd s' := by
  rw [OnData, OnData, (session_congr h).1]

/-- A step leads to descriptors that are data sockets exactly when it is one to data. -/
theorem toData_iff {s : System} (hall : AllOnData s) (t : Turn) :
    ToData s t ↔ AllOnData (next s t) := by
  cases t with
  | thread k j x =>
      constructor
      · intro hdata k' j' hk' hj'
        rw [next_mode]
        by_cases heq : k' = k ∧ j' = j
        · obtain ⟨rfl, rfl⟩ := heq
          rw [if_pos ⟨rfl, rfl⟩]
          intro hp
          by_cases hopening : ∃ p, (s.mode k' j').pc = .opening p
          · obtain ⟨p, hpc⟩ := hopening
            rw [modeProc_opening hpc]
            exact (connects_iff p _ _).mp (hdata hk' hj' p hpc hp)
          · rcases modeProc_fd s.dev.conf k' j' x (fun p hpc => hopening ⟨p, hpc⟩) with
              hzero | hsame
            · exact .inl hzero
            · rw [hsame]
              exact hall k' j' hk' hj' hp
        · rw [if_neg heq]
          exact hall k' j' hk' hj'
      · intro hnext hk hj p hpc hp
        have hfd := hnext k j hk hj
        rw [next_mode, if_pos ⟨rfl, rfl⟩, modeProc_opening hpc] at hfd
        exact (connects_iff p _ _).mpr (hfd hp)
  | confMode r =>
      constructor
      · intro hdata k j hk hj
        refine (OnData.congr (confMode_session r s.dev k hj)).mpr ?_
        by_cases hperf : r.Performed s.dev ∧ k = r.port
        · obtain ⟨hdone, rfl⟩ := hperf
          rw [if_pos ⟨hdone, rfl⟩]
          exact hdata hdone j hj
        · rw [if_neg hperf]
          exact hall k j hk hj
      · intro hnext hperf j hj
        have hsession := (OnData.congr (confMode_session r s.dev r.port hj)).mp
          (hnext r.port j r.valid.port hj)
        rwa [if_pos ⟨hperf, rfl⟩] at hsession

/-! ## Runs -/

/-- In a run of the threads and of requests, `SendComDataToNet` would send to data sockets
only in every state exactly when no request gives `TCP_CLI` to a session with another
descriptor, and no thread opens another while its session has `TCP_CLI`. -/
theorem sendsOnData_iff (dev : Device) (turns : List Turn) :
    (∀ ys, ys <+: turns → SendsOnData (exec next (modeInit dev) ys)) ↔
      StepsSatisfy next ToData (modeInit dev) turns := by
  have hstart : AcceptedOnly (modeInit dev) := fun _ _ _ => not_false
  refine reaches_iff_under (I := AcceptedOnly) (A := fun _ _ => True) (G := SendsOnData)
    (fun s t h _ => h.next t) (fun s t h hg _ => ?_) hstart ?_
    (stepsSatisfy_of_forall (fun _ _ => trivial) _ turns)
  · rw [sendsOnData_iff_all (h.next t)]
    exact toData_iff hg.1 t
  · exact (sendsOnData_iff_all hstart).mpr fun _ _ _ _ _ => .inl rfl

/-- Until its thread looks, the data of the new client are sent to the socket that
listens. -/
theorem toClient_sendsToListening :
    ¬SendsOnData (exec next (modeInit (Device.start serverConf)) switchTurns) := by
  rintro ⟨-, hsends⟩
  have hcall := client_sends (j := 0) (by decide)
    (by rw [switchTurns_dev, (session_congr toClient_session).1]; decide)
    (by rw [switchTurns_mode]; decide) [0x41]
  rw [switchTurns_mode] at hcall
  exact hsends 0 [0x41] _ [0x41] (by decide) hcall trivial

end Itertk.Threads.DataSockets
