import Itertk.Threads.ServerSlots

/-!
# Slots with and without numbers

`ModeProc` follows the descriptors of a session thread by what was called to get them, and
`ServerSlots` by their numbers and a table.  Forgetting the numbers of a thread whose
descriptors are what it takes them for gives the thread of `ModeProc`, step by step.

## Main results

* `next_abs` — a step with numbers, forgotten, is a step without.
-/

namespace Itertk.Threads.SlotAbstraction

open Itertk.Base.Descriptors
open Itertk.Base.Memory
open Itertk.Base.Slots
open Itertk.Daemon.Layout
open Itertk.Threads.ModeProc
open Itertk.Threads.ServerSlots

/-! ## Forgetting the numbers -/

/-- A descriptor by what it stands for. -/
def forget (t : Table Kind) (d : Int) : Sock :=
  if d = 0 then .zero
  else if d < 0 then .minusOne
  else
    match t d with
    | some (.own s) => s
    | _ => .accepted

/-- The thread without numbers. -/
def abs (md : Server) : ModeConfig where
  fd := forget md.table md.fd
  sfd i := forget md.table (md.sfd i)
  tmp := md.tmp
  pc := md.pc

/-- The result of a call that opens something. -/
def outcome (r : Int) : Opening :=
  if r = 0 then .zero else if r < 0 then .failed else .descriptor

/-- The results of a step, as `ModeProc` is told of them. -/
def calls (md : Server) (x : Results) : Calls where
  opening := outcome x.opening
  hungUp := x.readable md.fd && x.recv md.fd == 0
  connection := if isSet x md md.fd = true then some (outcome x.accept) else none
  gone i := isSet x md (md.sfd i) && x.recv (md.sfd i) == 0

variable {md : Server} {x : Results} {t t' : Table Kind} {d : Int} {k j : Nat}

@[simp] theorem forget_zero (t : Table Kind) : forget t 0 = .zero := if_pos rfl

private theorem forget_negative (t : Table Kind) (h : d < 0) : forget t d = .minusOne := by
  rw [forget, if_neg (by omega), if_pos h]

private theorem forget_own {s : Sock} (hpos : 0 < d) (h : t d = some (.own s)) :
    forget t d = s := by
  rw [forget, if_neg (by omega), if_neg (by omega), h]

private theorem forget_accepted (hpos : 0 < d) (h : Accepted t d) : forget t d = .accepted := by
  rw [forget, if_neg (by omega), if_neg (by omega)]
  rcases h with h | h
  · rw [h]
  · rw [h]

/-- Only the entry of a positive descriptor matters. -/
theorem forget_congr (h : 0 < d → t' d = t d) : forget t' d = forget t d := by
  unfold forget
  by_cases h0 : d = 0
  · rw [if_pos h0, if_pos h0]
  · rw [if_neg h0, if_neg h0]
    by_cases hneg : d < 0
    · rw [if_pos hneg, if_pos hneg]
    · rw [if_neg hneg, if_neg hneg, h (by omega)]

/-- What an accepted descriptor stands for: the result of `accept`. -/
theorem forget_outcome (h : 0 < d → Accepted t d) : forget t d = acceptSocket (outcome d) := by
  unfold outcome
  by_cases h0 : d = 0
  · rw [if_pos h0, h0, forget_zero]
    rfl
  · rw [if_neg h0]
    by_cases hneg : d < 0
    · rw [if_pos hneg, forget_negative t hneg]
      rfl
    · rw [if_neg hneg, forget_accepted (by omega) (h (by omega))]
      rfl

/-! ## Slots -/

/-- A slot is free in both. -/
theorem slot_free (h : Wired md) (i : Nat) : (abs md).sfd i = .zero ↔ md.sfd i = 0 := by
  show forget md.table (md.sfd i) = .zero ↔ _
  constructor
  · intro hz
    by_contra h0
    by_cases hneg : md.sfd i < 0
    · rw [forget_negative _ hneg] at hz
      cases hz
    · rw [forget_accepted (by omega) (h.slot i (by omega))] at hz
      cases hz
  · intro h0
    rw [h0, forget_zero]

private theorem slot_positive (h : Wired md) (i : Nat) :
    ((abs md).sfd i).positive = true ↔ 0 < md.sfd i := by
  show (forget md.table (md.sfd i)).positive = true ↔ _
  rcases Int.lt_trichotomy (md.sfd i) 0 with hneg | h0 | hpos
  · rw [forget_negative _ hneg]
    exact iff_of_false nofun (by omega)
  · rw [h0, forget_zero]
    exact iff_of_false nofun (by omega)
  · rw [forget_accepted hpos (h.slot i hpos)]
    exact iff_of_true rfl hpos

/-- The two look up the same slot. -/
theorem firstSlot_abs (h : Wired md) : (firstSlot maxSession fun i => (abs md).sfd i = .zero) =
    firstSlot maxSession fun i => md.sfd i = 0 :=
  firstSlot_congr fun i _ => decide_eq_decide.mpr (slot_free h i)

/-- The slots behind `accept`. -/
theorem accepted_sfd (h : Wired md) (hserves : Serves k j md x) (hkernel : Promised k j md x)
    (i : Nat) : forget (accepted x md).table ((accepted x md).sfd i) =
      acceptSession (abs md).sfd (calls md x).connection i := by
  unfold accepted calls
  by_cases hset : isSet x md md.fd = true
  · rw [if_pos hset]
    have hfresh := hkernel.2 ⟨hserves, hset⟩
    have hwired : Wired (acceptClient x md) := h.acceptClient hfresh
    simp only [hset, if_true, acceptSession, firstSlot_abs h]
    cases hslot : firstSlot maxSession fun i => md.sfd i = 0 with
    | none =>
        rw [acceptClient_full h hfresh hslot]
        rfl
    | some i' =>
        rw [acceptClient_free hslot] at hwired ⊢
        by_cases hii : i = i'
        · have hslot' := hwired.slot i'
          dsimp only at hslot' ⊢
          rw [Function.update_self] at hslot'
          rw [hii, Function.update_self, Function.update_self]
          exact forget_outcome hslot'
        · dsimp only
          rw [Function.update_of_ne hii, Function.update_of_ne hii]
          refine forget_congr fun hpos => ?_
          rcases h.slot i hpos with hs | hs
          · exact result_other hfresh hs
          · exact result_other hfresh hs
  · rw [if_neg hset]
    simp only [hset, acceptSession]
    rfl

/-- The descriptor of the session behind `accept`. -/
theorem accepted_own (h : Wired md) (hserves : Serves k j md x) (hkernel : Promised k j md x)
    (hfd : 0 < md.fd) : (accepted x md).table md.fd = md.table md.fd := by
  unfold accepted
  by_cases hset : isSet x md md.fd = true
  · rw [if_pos hset]
    have hfresh := hkernel.2 ⟨hserves, hset⟩
    obtain ⟨s, -, hown⟩ := h.own hfd
    cases hslot : firstSlot maxSession fun i => md.sfd i = 0 with
    | none => rw [acceptClient_full h hfresh hslot]
    | some i =>
        rw [acceptClient_free hslot]
        exact result_other hfresh hown
  · rw [if_neg hset]

private theorem accepted_fd (x : Results) (md : Server) : (accepted x md).fd = md.fd := by
  unfold accepted acceptClient
  split
  · split <;> rfl
  · rfl

/-- `recv` returns 0 on the same slots. -/
theorem freed_iff (h : Wired md) (hserves : Serves k j md x) (hkernel : Promised k j md x)
    (i : Nat) :
    (i < maxSession ∧ 0 < (accepted x md).sfd i ∧ isSet x md ((accepted x md).sfd i) = true ∧
        x.recv ((accepted x md).sfd i) = 0) ↔
      ((abs md).sfd i).positive = true ∧ (calls md x).gone i = true := by
  rw [slot_positive h]
  simp only [calls, Bool.and_eq_true, beq_iff_eq]
  constructor
  · rintro ⟨-, hpos, hset, h0⟩
    have hold := accepted_called h hserves hkernel hpos hset
    rw [hold] at hpos hset h0
    exact ⟨hpos, hset, h0⟩
  · rintro ⟨hpos, hset, h0⟩
    have hused : md.sfd i ≠ 0 := by omega
    rw [accepted_kept hused]
    exact ⟨h.slot_lt hused, hpos, hset, h0⟩

/-- A round of `TCP_SRV`. -/
theorem round_abs (h : Wired md) (hserves : Serves k j md x) (hkernel : Promised k j md x) :
    abs (ServerSlots.next k j md x) = serve (session x.conf k j) (calls md x) (abs md) := by
  have hr := receiveAll_spec x (isSet x md) (accepted x md)
  have hmid := h.accepted hserves hkernel
  have hout := hr.wired hmid
  rw [next_server hserves, serve, hserves.2]
  simp only [abs, ModeConfig.mk.injEq, and_true]
  refine ⟨?_, ?_, ?_⟩
  · rw [hr.fd, accepted_fd]
    refine forget_congr fun hfd => ?_
    have hfd' : 0 < (accepted x md).fd := by
      rw [accepted_fd]
      exact hfd
    have hown := hr.own hmid hfd'
    rw [accepted_fd] at hown
    exact hown.trans (accepted_own h hserves hkernel hfd)
  · funext i
    have hslot := hr.sfd i
    by_cases hfreed : ((abs md).sfd i).positive = true ∧ (calls md x).gone i = true
    · rw [if_pos ((freed_iff h hserves hkernel i).mpr hfreed)] at hslot
      rw [hslot, forget_zero]
      exact (if_pos hfreed).symm
    · rw [if_neg fun hc => hfreed ((freed_iff h hserves hkernel i).mp hc)] at hslot
      refine Eq.trans ?_ (if_neg hfreed).symm
      refine Eq.trans ?_ (accepted_sfd h hserves hkernel i)
      rw [hslot]
      by_cases hpos : 0 < (accepted x md).sfd i
      · have haccepted := hout.slot i (by rw [hslot]; exact hpos)
        rw [hslot] at haccepted
        rw [forget_accepted hpos haccepted, forget_accepted hpos (hmid.slot i hpos)]
      · exact forget_congr fun hp => absurd hp hpos
  · rw [hr.tmp]
    unfold accepted acceptClient
    split
    · split <;> rfl
    · rfl

/-! ## Opening -/

/-- What a routine that opens something has returned. -/
theorem forget_result (t : Table Kind) (r : Int) (s : Sock) :
    forget (result t r (.own s)) r =
      if r = 0 then .zero else if r < 0 then .minusOne else s := by
  by_cases h0 : r = 0
  · rw [if_pos h0, h0, forget_zero]
  · rw [if_neg h0]
    by_cases hneg : r < 0
    · rw [if_pos hneg, forget_negative _ hneg]
    · rw [if_neg hneg]
      refine forget_own (by omega) ?_
      rw [result_opened _ _ (Int.not_lt.mp hneg), opened_self]

/-- The opening routines, by what they return. -/
theorem openSocket_outcome (p : Protocol) (s : Mem) (r : Int) :
    openSocket p s (outcome r) =
      if openingResult p r = 0 then .zero
      else if openingResult p r < 0 then .minusOne
      else openSocket p s .descriptor := by
  unfold outcome
  rcases Int.lt_trichotomy r 0 with hneg | h0 | hpos
  · have hne : r ≠ 0 := by omega
    have hle : r ≤ 0 := by omega
    cases p <;> simp [openingResult, hne, hle, hneg, openSocket, socketCliInit, socketInit,
      initUdpSocket]
  · subst h0
    cases p <;> simp [openingResult, openSocket, socketCliInit, socketInit, initUdpSocket]
  · have hne : r ≠ 0 := by omega
    have hle : ¬r ≤ 0 := by omega
    have hneg : ¬r < 0 := by omega
    cases p <;> simp [openingResult, hne, hle, hneg]

private theorem openSocket_positive_iff (p : Protocol) (s : Mem) (r : Int) :
    (openSocket p s (outcome r)).positive = true ↔ openingResult p r > 0 := by
  rw [openSocket_outcome]
  by_cases h0 : openingResult p r = 0
  · rw [if_pos h0]
    exact iff_of_false nofun (by omega)
  · rw [if_neg h0]
    by_cases hneg : openingResult p r < 0
    · rw [if_pos hneg]
      exact iff_of_false nofun (by omega)
    · rw [if_neg hneg]
      exact iff_of_true (openSocket_positive p s) (by omega)

/-- The step that opens the socket. -/
theorem openFd_abs (h : Wired md) (p : Protocol) (s : Mem)
    (hfresh : Fresh md.table (openingResult p x.opening)) :
    abs (openFd p s x.opening md) =
      { abs md with
          fd := openSocket p s (outcome x.opening)
          pc := if (openSocket p s (outcome x.opening)).positive = true then .copying p
            else .again } := by
  simp only [abs, ModeConfig.mk.injEq, openFd, true_and]
  refine ⟨?_, ?_, ?_⟩
  · rw [forget_result, openSocket_outcome]
  · funext i
    refine forget_congr fun hpos => ?_
    rcases h.slot i hpos with hs | hs
    · exact result_other hfresh hs
    · exact result_other hfresh hs
  · exact (if_congr (openSocket_positive_iff p s x.opening) rfl rfl).symm

/-! ## One step -/

/-- The client socket is closed. -/
theorem hangUp_abs (h : Wired md) (pc : Pc) :
    abs { md with table := closed md.table md.fd, fd := 0, pc := pc } =
      { abs md with fd := .zero, pc := pc } := by
  simp only [abs, ModeConfig.mk.injEq, forget_zero, true_and, and_true]
  funext i
  exact forget_congr fun hpos => closed_ne md.table (h.slot_ne_fd hpos)

/-- A step with numbers, forgotten, is a step without. -/
theorem next_abs (h : Wired md) (hkernel : Promised k j md x) :
    abs (ServerSlots.next k j md x) = modeProc x.conf k j (calls md x) (abs md) := by
  by_cases hserves : Serves k j md x
  · rw [round_abs h hserves hkernel, modeProc]
    have hpc : (abs md).pc = .serving := hserves.1
    rw [hpc]
  unfold ServerSlots.next modeProc
  have hpcAbs : (abs md).pc = md.pc := rfl
  rw [hpcAbs]
  cases hpc : md.pc with
  | again =>
      dsimp only
      by_cases hmode : workMode x.conf k = workNo
      · rw [if_pos hmode, if_pos hmode]
      · rw [if_neg hmode, if_neg hmode]
        cases Protocol.ofWord (protocol (session x.conf k j)) <;> rfl
  | opening p => exact openFd_abs h p _ (hkernel.1 p hpc)
  | copying p => rfl
  | looping =>
      dsimp only
      by_cases hsame : Unchanged x.conf k j md.tmp
      · rw [if_pos hsame]
        exact (if_pos hsame).symm
      · rw [if_neg hsame]
        exact (if_neg hsame).symm
  | serving =>
      dsimp only
      cases hp : Protocol.ofWord (protocol (session x.conf k j)) with
      | none =>
          rw [ServerSlots.round, serve, hp]
          rfl
      | some p =>
          cases p with
          | tcpCli =>
              rw [ServerSlots.round, serve, hp]
              dsimp only
              by_cases hgone : x.readable md.fd = true ∧ x.recv md.fd = 0
              · have hcalls : (calls md x).hungUp = true := by simp [calls, hgone]
                rw [if_pos hgone, if_pos hcalls]
                exact hangUp_abs h .again
              · have hcalls : ¬(calls md x).hungUp = true := by
                  simpa [calls] using hgone
                rw [if_neg hgone, if_neg hcalls]
                rfl
          | tcpSrv => exact absurd ⟨hpc, hp⟩ hserves
          | tcpUdp =>
              rw [ServerSlots.round, serve, hp]
              rfl
  | closing =>
      simp only [abs, forget_zero]

end Itertk.Threads.SlotAbstraction
