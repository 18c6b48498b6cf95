import Itertk.Base.Descriptors
import Itertk.Threads.ModeProc

/-!
# The slots of a server session

With `TCP_SRV` a session thread keeps the connections that it has accepted in the six
elements of `sfd`.  0 is a free slot; `accept` looks for one with `== 0`, `select` and `recv`
take those that are `> 0`, and everything that is not 0 is closed when the session changes
and sent to by `SendComDataToNet`.

A call that fails falls between these tests.  The -1 of `accept` is put into the free slot,
where nothing looks at it and nothing frees it; the -1 of `recv` is taken for a length, and
the slot is kept.  Such a slot counts as used when the next connection comes.

The descriptors are numbers here, with the table of what they stand for.

## Main results

* `receiveAll_spec` — what the loop over the slots leaves.
* `next_course` — what a step can do.
* `next_wired` — every positive slot is an accepted connection of its own.
* `keepsSlots_iff` — the runs in which the slots are what they should be.
-/

namespace Itertk.Threads.ServerSlots

open Itertk.Base.Descriptors
open Itertk.Base.Memory
open Itertk.Base.Run
open Itertk.Base.Slots
open Itertk.Daemon.Layout
open Itertk.Threads.ModeProc

/-! ## The thread -/

/-- What a descriptor stands for. -/
inductive Kind where
  /-- A socket that an opening routine has returned. -/
  | own (s : Sock)
  /-- A connection that was accepted. -/
  | connected
  /-- One on which `recv` has returned 0 or -1. -/
  | ended
  | other
  deriving DecidableEq

/-- `MODECONFIG` with the local copy of the session, and the descriptors of the process. -/
structure Server where
  table : Table Kind
  fd : Int
  sfd : Nat → Int
  tmp : List UInt8
  pc : Pc

/-- What the calls of a step return. -/
structure Results where
  /-- The configuration that the step reads. -/
  conf : Mem
  /-- The descriptor that an opening routine gets, or what its failing call returns. -/
  opening : Int
  /-- The descriptors on which `select` finds something. -/
  readable : Int → Bool
  accept : Int
  recv : Int → Int

/-- `FD_SET`: the descriptors that `select` is asked about. -/
def asked (md : Server) (d : Int) : Bool :=
  d == md.fd || (List.range maxSession).any fun i => decide (0 < md.sfd i) && md.sfd i == d

/-- `FD_ISSET(d, &m_readfds)` after `select`. -/
def isSet (x : Results) (md : Server) (d : Int) : Bool := asked md d && x.readable d

/-- What the opening routine returns; `socket_init` returns -1 for 0. -/
def openingResult (p : Protocol) (r : Int) : Int :=
  match p with
  | .tcpSrv => if r ≤ 0 then -1 else r
  | .tcpCli | .tcpUdp => r

/-- The opening routine for a protocol, with the session `s`. -/
def openFd (p : Protocol) (s : Mem) (r : Int) (md : Server) : Server :=
  let r := openingResult p r
  { md with
      table := result md.table r (.own (openSocket p s .descriptor))
      fd := r
      pc := if r > 0 then .copying p else .again }

/-- `accept`, and the search for a slot. -/
def acceptClient (x : Results) (md : Server) : Server :=
  let table := result md.table x.accept .connected
  match firstSlot maxSession fun i => md.sfd i = 0 with
  | some i => { md with table := table, sfd := Function.update md.sfd i x.accept }
  | none => { md with table := closed table x.accept }

/-- One turn of the loop over the slots; `ready` is what `select` has left of the set. -/
def receive (x : Results) (ready : Int → Bool) (i : Nat) (md : Server) : Server :=
  let d := md.sfd i
  if 0 < d ∧ ready d = true then
    if x.recv d = 0 then
      { md with table := closed md.table d, sfd := Function.update md.sfd i 0 }
    else if x.recv d < 0 then { md with table := opened md.table d .ended }
    else md
  else md

/-- The loop. -/
def receiveAll (x : Results) (ready : Int → Bool) (md : Server) : Server :=
  forUpTo maxSession (receive x ready) md

/-- One round of serving. -/
def round (s : Mem) (x : Results) (md : Server) : Server :=
  match Protocol.ofWord (protocol s) with
  | some .tcpCli =>
      if x.readable md.fd = true ∧ x.recv md.fd = 0 then
        { md with table := closed md.table md.fd, fd := 0, pc := .again }
      else { md with pc := .looping }
  | some .tcpSrv =>
      let ready := isSet x md
      let md := if ready md.fd = true then acceptClient x md else md
      { receiveAll x ready md with pc := .looping }
  | some .tcpUdp => { md with pc := .looping }
  | none => { md with pc := .looping }

/-- `close` on every slot that is not 0. -/
def closeSlots (md : Server) (t : Table Kind) : Table Kind :=
  forUpTo maxSession (fun i t => if md.sfd i ≠ 0 then closed t (md.sfd i) else t) t

/-- One step of `mode_proc` for session `j` of port `k`. -/
def next (k j : Nat) (md : Server) (x : Results) : Server :=
  let s := session x.conf k j
  match md.pc with
  | .again =>
      if workMode x.conf k = workNo then md
      else
        match Protocol.ofWord (protocol s) with
        | some p => { md with pc := .opening p }
        | none => md
  | .opening p => openFd p s x.opening md
  | .copying _ => { md with tmp := slice s 0 sessionSize, pc := .looping }
  | .looping =>
      if Unchanged x.conf k j md.tmp then { md with pc := .serving } else { md with pc := .closing }
  | .serving => round s x md
  | .closing =>
      { md with
          table := closeSlots md (closed md.table md.fd)
          fd := 0
          sfd := fun _ => 0
          pc := .again }

/-- The thread when it starts; the rest of the process has the descriptors `others` open. -/
def start (others : Int → Bool) : Server where
  table := fun d => if 0 ≤ d ∧ others d = true then some .other else none
  fd := 0
  sfd := fun _ => 0
  tmp := []
  pc := .again

/-! ## The loop over the slots -/

/-- `recv` is called on `d` for one of the first `n` slots. -/
def Called (md : Server) (ready : Int → Bool) (n : Nat) (d : Int) : Prop :=
  0 < d ∧ ready d = true ∧ ∃ i, i < n ∧ md.sfd i = d

/-- What the loop has left after `n` turns: the slots on which `recv` returned 0 are free and
closed, the descriptors on which it failed have ended, and the rest is as it was. -/
structure Received (x : Results) (ready : Int → Bool) (md : Server) (n : Nat) (out : Server) :
    Prop where
  fd : out.fd = md.fd
  tmp : out.tmp = md.tmp
  pc : out.pc = md.pc
  sfd : ∀ i, out.sfd i =
    if i < n ∧ 0 < md.sfd i ∧ ready (md.sfd i) = true ∧ x.recv (md.sfd i) = 0 then 0 else md.sfd i
  untouched : ∀ d, ¬Called md ready n d → out.table d = md.table d
  talking : ∀ d, 0 < x.recv d → out.table d = md.table d
  failed : ∀ d, Called md ready n d → x.recv d < 0 → out.table d = some .ended
  gone : ∀ d, Called md ready n d → x.recv d = 0 → out.table d = none

variable {x : Results} {ready : Int → Bool} {md out : Server} {n : Nat}

theorem Received.zero : Received x ready md 0 md where
  fd := rfl
  tmp := rfl
  pc := rfl
  sfd _ := (if_neg fun h => absurd h.1 (Nat.not_lt_zero _)).symm
  untouched _ _ := rfl
  talking _ _ := rfl
  failed _ h := absurd h.2.2.choose_spec.1 (Nat.not_lt_zero _)
  gone _ h := absurd h.2.2.choose_spec.1 (Nat.not_lt_zero _)

/-- A descriptor is called for the slots before `n`, or for slot `n`. -/
theorem called_succ {d : Int} : Called md ready (n + 1) d ↔
    Called md ready n d ∨ (0 < d ∧ ready d = true ∧ md.sfd n = d) := by
  constructor
  · rintro ⟨hpos, hready, i, hi, rfl⟩
    by_cases hn : i = n
    · exact .inr ⟨hpos, hready, by rw [hn]⟩
    · exact .inl ⟨hpos, hready, i, by omega, rfl⟩
  · rintro (⟨hpos, hready, i, hi, heq⟩ | ⟨hpos, hready, heq⟩)
    · exact ⟨hpos, hready, i, by omega, heq⟩
    · exact ⟨hpos, hready, n, by omega, heq⟩

/-- The slot of the next turn has not been touched. -/
theorem Received.next_slot (h : Received x ready md n out) : out.sfd n = md.sfd n := by
  rw [h.sfd, if_neg fun hc => absurd hc.1 (Nat.lt_irrefl n)]

/-- A turn that leaves everything but the table at its own descriptor, and frees its slot if
`recv` has returned 0. -/
theorem Received.turn (h : Received x ready md n out) {table : Table Kind} {sfd : Nat → Int}
    (hcalled : 0 < md.sfd n ∧ ready (md.sfd n) = true)
    (hslot : sfd n = if x.recv (md.sfd n) = 0 then 0 else md.sfd n)
    (hslots : ∀ i, i ≠ n → sfd i = out.sfd i)
    (hothers : ∀ d, d ≠ md.sfd n → table d = out.table d)
    (htalking : 0 < x.recv (md.sfd n) → table (md.sfd n) = out.table (md.sfd n))
    (hfailed : x.recv (md.sfd n) < 0 → table (md.sfd n) = some .ended)
    (hgone : x.recv (md.sfd n) = 0 → table (md.sfd n) = none) :
    Received x ready md (n + 1) { out with table := table, sfd := sfd } where
  fd := h.fd
  tmp := h.tmp
  pc := h.pc
  sfd i := by
    by_cases hi : i = n
    · rw [hi]
      show sfd n = _
      rw [hslot]
      refine if_congr ?_ rfl rfl
      exact ⟨fun h0 => ⟨Nat.lt_succ_self n, hcalled.1, hcalled.2, h0⟩, fun hc => hc.2.2.2⟩
    · show sfd i = _
      rw [hslots i hi, h.sfd]
      refine if_congr (and_congr_left fun _ => ?_) rfl rfl
      omega
  untouched d hd := by
    have hne : d ≠ md.sfd n := by
      rintro rfl
      exact hd (called_succ.mpr (.inr ⟨hcalled.1, hcalled.2, rfl⟩))
    exact (hothers d hne).trans (h.untouched d fun hc => hd (called_succ.mpr (.inl hc)))
  talking d hd := by
    by_cases heq : d = md.sfd n
    · subst heq
      exact (htalking hd).trans (h.talking _ hd)
    · exact (hothers d heq).trans (h.talking d hd)
  failed d hd hneg := by
    by_cases heq : d = md.sfd n
    · subst heq
      exact hfailed hneg
    · rcases called_succ.mp hd with hc | ⟨-, -, hc⟩
      · exact (hothers d heq).trans (h.failed d hc hneg)
      · exact absurd hc.symm heq
  gone d hd h0 := by
    by_cases heq : d = md.sfd n
    · subst heq
      exact hgone h0
    · rcases called_succ.mp hd with hc | ⟨-, -, hc⟩
      · exact (hothers d heq).trans (h.gone d hc h0)
      · exact absurd hc.symm heq

/-- A turn for a slot on which `recv` is not called. -/
theorem Received.skip (h : Received x ready md n out)
    (hskip : ¬(0 < md.sfd n ∧ ready (md.sfd n) = true)) : Received x ready md (n + 1) out := by
  have hcalled : ∀ d, Called md ready (n + 1) d ↔ Called md ready n d := by
    intro d
    rw [called_succ]
    refine or_iff_left ?_
    rintro ⟨hpos, hready, rfl⟩
    exact hskip ⟨hpos, hready⟩
  refine ⟨h.fd, h.tmp, h.pc, fun i => ?_, fun d hd => h.untouched d fun hc =>
    hd ((hcalled d).mpr hc), h.talking, fun d hd => h.failed d ((hcalled d).mp hd),
    fun d hd => h.gone d ((hcalled d).mp hd)⟩
  rw [h.sfd]
  by_cases hi : i = n
  · rw [hi, if_neg fun hc => Nat.lt_irrefl n hc.1, if_neg fun hc => hskip ⟨hc.2.1, hc.2.2.1⟩]
  · refine if_congr (and_congr_left fun _ => ?_) rfl rfl
    omega

theorem Received.step (h : Received x ready md n out) :
    Received x ready md (n + 1) (receive x ready n out) := by
  unfold receive
  rw [h.next_slot]
  by_cases hcalled : 0 < md.sfd n ∧ ready (md.sfd n) = true
  · rw [if_pos hcalled]
    by_cases h0 : x.recv (md.sfd n) = 0
    · rw [if_pos h0]
      refine h.turn hcalled ?_ (fun i hi => Function.update_of_ne hi _ _)
        (fun d hd => closed_ne _ hd) (fun hpos => ?_) (fun hneg => ?_) fun _ => closed_self _ _
      · rw [Function.update_self, if_pos h0]
      · omega
      · omega
    · rw [if_neg h0]
      by_cases hneg : x.recv (md.sfd n) < 0
      · rw [if_pos hneg]
        refine h.turn hcalled ?_ (fun _ _ => rfl) (fun d hd => opened_ne _ _ hd)
          (fun hpos => ?_) (fun _ => opened_self _ _ _) fun hzero => absurd hzero h0
        · rw [h.next_slot, if_neg h0]
        · omega
      · rw [if_neg hneg]
        refine h.turn hcalled ?_ (fun _ _ => rfl) (fun _ _ => rfl) (fun _ => rfl)
          (fun hlt => absurd hlt hneg) fun hzero => absurd hzero h0
        rw [h.next_slot, if_neg h0]
  · rw [if_neg hcalled]
    exact h.skip hcalled

/-- The whole loop. -/
theorem receiveAll_spec (x : Results) (ready : Int → Bool) (md : Server) :
    Received x ready md maxSession (receiveAll x ready md) :=
  forUpTo_invariant (fun n out => Received x ready md n out) .zero maxSession
    fun _ _ _ h => h.step

/-! ## What the numbers stand for -/

/-- The descriptor is an accepted connection. -/
def Accepted (t : Table Kind) (d : Int) : Prop := t d = some .connected ∨ t d = some .ended

/-- Positive descriptors are what the thread takes them for, and no two slots have the same
one. -/
structure Wired (md : Server) : Prop where
  numbers : ∀ d, d < 0 → md.table d = none
  own : 0 < md.fd → ∃ s : Sock, s.positive = true ∧ md.table md.fd = some (.own s)
  slot : ∀ i, 0 < md.sfd i → Accepted md.table (md.sfd i)
  apart : ∀ i j, 0 < md.sfd i → md.sfd i = md.sfd j → i = j
  bounds : ∀ i, maxSession ≤ i → md.sfd i = 0

/-- The step is a round of `TCP_SRV`. -/
def Serves (k j : Nat) (md : Server) (x : Results) : Prop :=
  md.pc = .serving ∧ Protocol.ofWord (protocol (session x.conf k j)) = some .tcpSrv

/-- It calls `accept`. -/
def Accepts (k j : Nat) (md : Server) (x : Results) : Prop :=
  Serves k j md x ∧ isSet x md md.fd = true

/-- It calls `recv` on slot `i`. -/
def Receives (k j : Nat) (md : Server) (x : Results) (i : Nat) : Prop :=
  Serves k j md x ∧ 0 < md.sfd i ∧ isSet x md (md.sfd i) = true

instance (k j : Nat) (md : Server) (x : Results) : Decidable (Serves k j md x) :=
  inferInstanceAs (Decidable (_ ∧ _))

instance (k j : Nat) (md : Server) (x : Results) : Decidable (Accepts k j md x) :=
  inferInstanceAs (Decidable (_ ∧ _))

instance (k j : Nat) (md : Server) (x : Results) (i : Nat) : Decidable (Receives k j md x i) :=
  inferInstanceAs (Decidable (_ ∧ _))

/-- What the kernel promises: a new descriptor is not in use. -/
def Promised (k j : Nat) (md : Server) (x : Results) : Prop :=
  (∀ p, md.pc = .opening p → Fresh md.table (openingResult p x.opening)) ∧
    (Accepts k j md x → Fresh md.table x.accept)

/-- A number that is not in use is no accepted connection. -/
theorem Accepted.ne {t : Table Kind} {d r : Int} (h : Accepted t d) (hr : t r = none) : d ≠ r := by
  rcases h with h | h
  · exact ne_of_fresh hr h
  · exact ne_of_fresh hr h

theorem Accepted.congr {t t' : Table Kind} {d : Int} (h : Accepted t d) (heq : t' d = t d) :
    Accepted t' d := by
  unfold Accepted
  rw [heq]
  exact h

/-- The premise that the thread is about to open a socket, for a decidable conclusion. -/
instance decidableOpening {F : Protocol → Prop} [DecidablePred F] :
    ∀ pc : Pc, Decidable (∀ p, pc = .opening p → F p)
  | .opening p => decidable_of_iff (F p) ⟨fun h q hq => by cases hq; exact h, fun h => h p rfl⟩
  | .again | .copying _ | .looping | .serving | .closing => isTrue fun _ h => by cases h

instance (k j : Nat) (md : Server) (x : Results) : Decidable (Promised k j md x) :=
  inferInstanceAs (Decidable (_ ∧ (_ → _)))

theorem Wired.slot_ne_fd (h : Wired md) {i : Nat} (hi : 0 < md.sfd i) : md.sfd i ≠ md.fd := by
  intro heq
  obtain ⟨s, -, hown⟩ := h.own (heq ▸ hi)
  rcases h.slot i hi with hslot | hslot
  · rw [heq, hown] at hslot
    cases hslot
  · rw [heq, hown] at hslot
    cases hslot

theorem Wired.slot_lt (h : Wired md) {i : Nat} (hi : md.sfd i ≠ 0) : i < maxSession := by
  by_contra hle
  exact hi (h.bounds i (Nat.not_lt.mp hle))

/-- Without a free slot the new connection is closed, and nothing has changed. -/
theorem acceptClient_full (h : Wired md) (hfresh : Fresh md.table x.accept)
    (hfull : (firstSlot maxSession fun i => md.sfd i = 0) = none) : acceptClient x md = md := by
  have htable : closed (result md.table x.accept .connected) x.accept = md.table := by
    by_cases hneg : x.accept < 0
    · rw [result_failed _ _ hneg, closed_unused (h.numbers _ hneg)]
    · rw [result_opened _ _ (Int.not_lt.mp hneg), closed_opened (hfresh.resolve_left hneg)]
  simp only [acceptClient, hfull, htable]

/-- With a free slot it takes whatever `accept` has returned. -/
theorem acceptClient_free {i : Nat}
    (hfree : (firstSlot maxSession fun i => md.sfd i = 0) = some i) :
    acceptClient x md =
      { md with
          table := result md.table x.accept .connected
          sfd := Function.update md.sfd i x.accept } := by
  simp only [acceptClient, hfree]

/-- A new descriptor changes nothing for the others. -/
theorem result_other {t : Table Kind} {r d : Int} {s : Kind} (hr : Fresh t r) {k : Kind}
    (hd : t d = some s) : result t r k d = t d := by
  by_cases hneg : r < 0
  · rw [result_failed _ _ hneg]
  · rw [result_opened _ _ (Int.not_lt.mp hneg)]
    exact opened_ne _ _ (ne_of_fresh (hr.resolve_left hneg) hd)

private theorem result_negative {t : Table Kind} (h : ∀ d, d < 0 → t d = none) (r : Int) (k : Kind)
    {d : Int}
    (hd : d < 0) : result t r k d = none := by
  by_cases hneg : r < 0
  · rw [result_failed _ _ hneg]
    exact h d hd
  · rw [result_opened _ _ (Int.not_lt.mp hneg), opened_ne _ _ (by omega)]
    exact h d hd

theorem Accepted.result {t : Table Kind} {d r : Int} {k : Kind} (h : Accepted t d)
    (hr : Fresh t r) : Accepted (Base.Descriptors.result t r k) d := by
  rcases h with h | h
  · exact .inl ((result_other hr h).trans h)
  · exact .inr ((result_other hr h).trans h)

/-- Accepting keeps the slots apart: the new descriptor is in none of them. -/
theorem Wired.acceptClient (h : Wired md) (hfresh : Fresh md.table x.accept) :
    Wired (acceptClient x md) := by
  cases hslot : firstSlot maxSession fun i => md.sfd i = 0 with
  | none =>
      rw [acceptClient_full h hfresh hslot]
      exact h
  | some i =>
      obtain ⟨hi, -, -⟩ := firstSlot_eq_some_iff.mp hslot
      rw [acceptClient_free hslot]
      have hnew : 0 < x.accept → md.table x.accept = none := fun hpos =>
        hfresh.resolve_left (by omega)
      refine ⟨fun d hd => result_negative h.numbers _ _ hd, fun hfd => ?_, fun j hj => ?_,
        fun j j' hj heq => ?_, fun j hj => ?_⟩
      · obtain ⟨s, hs, hown⟩ := h.own hfd
        exact ⟨s, hs, (result_other hfresh hown).trans hown⟩
      · dsimp only at hj ⊢
        by_cases hji : j = i
        · rw [hji, Function.update_self] at hj ⊢
          left
          rw [result_opened _ _ (Int.le_of_lt hj), opened_self]
        · rw [Function.update_of_ne hji] at hj ⊢
          exact (h.slot j hj).result hfresh
      · dsimp only at hj heq
        by_cases hji : j = i
        · by_cases hji' : j' = i
          · rw [hji, hji']
          · rw [hji, Function.update_self] at hj heq
            rw [Function.update_of_ne hji'] at heq
            exact absurd heq.symm ((h.slot j' (heq ▸ hj)).ne (hnew hj))
        · rw [Function.update_of_ne hji] at hj heq
          by_cases hji' : j' = i
          · rw [hji', Function.update_self] at heq
            exact absurd heq ((h.slot j hj).ne (hnew (heq ▸ hj)))
          · rw [Function.update_of_ne hji'] at heq
            exact h.apart j j' hj heq
      · dsimp only
        rw [Function.update_of_ne (by omega)]
        exact h.bounds j hj

/-- Receiving leaves the descriptor of the session alone. -/
theorem Received.own (hr : Received x ready md n out) (h : Wired md) (hfd : 0 < md.fd) :
    out.table md.fd = md.table md.fd := by
  refine hr.untouched _ ?_
  rintro ⟨-, -, i, -, heq⟩
  exact h.slot_ne_fd (heq ▸ hfd) heq

/-- Receiving keeps what the slots that are left stand for. -/
theorem Received.wired (hr : Received x ready md n out) (h : Wired md) : Wired out := by
  have hkept : ∀ i, 0 < out.sfd i → out.sfd i = md.sfd i := by
    intro i hi
    rw [hr.sfd] at hi ⊢
    by_cases hc : i < n ∧ 0 < md.sfd i ∧ ready (md.sfd i) = true ∧ x.recv (md.sfd i) = 0
    · rw [if_pos hc] at hi
      exact absurd hi (Int.lt_irrefl 0)
    · rw [if_neg hc]
  refine ⟨fun d hd => ?_, fun hfd => ?_, fun i hi => ?_, fun i j hi heq => ?_, fun i hi => ?_⟩
  · rw [hr.untouched d fun hc => by have := hc.1; omega]
    exact h.numbers d hd
  · rw [hr.fd] at hfd ⊢
    obtain ⟨s, hs, hown⟩ := h.own hfd
    exact ⟨s, hs, (hr.own h hfd).trans hown⟩
  · have heq := hkept i hi
    have hi' : 0 < md.sfd i := heq ▸ hi
    have hslot := h.slot i hi'
    rw [heq]
    by_cases hc : Called md ready n (md.sfd i)
    · rcases Int.lt_trichotomy (x.recv (md.sfd i)) 0 with hneg | h0 | hpos
      · exact .inr (hr.failed _ hc hneg)
      · obtain ⟨-, hready, i', hi'', hsame⟩ := hc
        have hii : i' = i := h.apart i' i (hsame ▸ hi') hsame
        have hzero := hr.sfd i
        rw [if_pos ⟨hii ▸ hi'', hi', hready, h0⟩] at hzero
        omega
      · exact hslot.congr (hr.talking _ hpos)
    · exact hslot.congr (hr.untouched _ hc)
  · have hj : 0 < out.sfd j := heq ▸ hi
    have hi' := hkept i hi
    rw [hi'] at hi heq
    rw [hkept j hj] at heq
    exact h.apart i j hi heq
  · rw [hr.sfd, h.bounds i hi]
    exact ite_self 0

theorem Wired.openFd (h : Wired md) {p : Protocol} {s : Mem} {r : Int}
    (hfresh : Fresh md.table (openingResult p r)) : Wired (openFd p s r md) where
  numbers _ hd := result_negative h.numbers _ _ hd
  own hfd := by
    refine ⟨openSocket p s .descriptor, openSocket_positive p s, ?_⟩
    exact (congrFun (result_opened md.table _ (Int.le_of_lt hfd)) _).trans (opened_self _ _ _)
  slot i hi := (h.slot i hi).result hfresh
  apart := h.apart
  bounds := h.bounds

/-- Only the place of the thread changes, and the copy of the session. -/
theorem Wired.goto (h : Wired md) (tmp : List UInt8) (pc : Pc) :
    Wired { md with tmp := tmp, pc := pc } :=
  ⟨h.numbers, h.own, h.slot, h.apart, h.bounds⟩

/-- The client socket is closed. -/
theorem Wired.hangUp (h : Wired md) (pc : Pc) :
    Wired { md with table := closed md.table md.fd, fd := 0, pc := pc } where
  numbers d hd := by
    by_cases heq : d = md.fd
    · rw [heq]
      exact closed_self md.table md.fd
    · exact (closed_ne md.table heq).trans (h.numbers d hd)
  own hfd := absurd hfd (Int.lt_irrefl 0)
  slot i hi := (h.slot i hi).congr (closed_ne md.table (h.slot_ne_fd hi))
  apart := h.apart
  bounds := h.bounds

/-- Closing the slots opens nothing. -/
theorem closeSlots_none (md : Server) {t : Table Kind} {d : Int} (h : t d = none) :
    closeSlots md t d = none := by
  refine forUpTo_invariant (fun _ (t : Table Kind) => t d = none) h maxSession fun i _ t ht => ?_
  by_cases hi : md.sfd i ≠ 0
  · rw [if_pos hi]
    by_cases heq : d = md.sfd i
    · rw [heq, closed_self]
    · rw [closed_ne _ heq, ht]
  · rw [if_neg hi, ht]

/-- A round of `TCP_SRV`, from the state behind `accept`. -/
def accepted (x : Results) (md : Server) : Server :=
  if isSet x md md.fd = true then acceptClient x md else md

private theorem round_server {s : Mem} (h : Protocol.ofWord (protocol s) = some .tcpSrv) :
    round s x md = { receiveAll x (isSet x md) (accepted x md) with pc := .looping } := by
  rw [round, h]
  rfl

variable {k j : Nat}

theorem Wired.accepted (h : Wired md) (hserves : Serves k j md x) (hkernel : Promised k j md x) :
    Wired (accepted x md) := by
  unfold ServerSlots.accepted
  by_cases hset : isSet x md md.fd = true
  · rw [if_pos hset]
    exact h.acceptClient (hkernel.2 ⟨hserves, hset⟩)
  · rw [if_neg hset]
    exact h

/-- What a step can do: it goes on to another place, opens the descriptor of the session,
serves a round of `TCP_SRV`, hangs up on the server, or closes all that it has. -/
inductive Course (k j : Nat) (md : Server) (x : Results) : Server → Prop where
  | goesOn (tmp : List UInt8) (pc : Pc) : Course k j md x { md with tmp := tmp, pc := pc }
  | opens {p : Protocol} : md.pc = .opening p →
      Course k j md x (openFd p (session x.conf k j) x.opening md)
  | serves : Serves k j md x →
      Course k j md x { receiveAll x (isSet x md) (accepted x md) with pc := .looping }
  | hangsUp (pc : Pc) :
      Course k j md x { md with table := closed md.table md.fd, fd := 0, pc := pc }
  | closes (pc : Pc) : Course k j md x
      { md with
          table := closeSlots md (closed md.table md.fd), fd := 0, sfd := fun _ => 0, pc := pc }

theorem next_course (k j : Nat) (md : Server) (x : Results) : Course k j md x (next k j md x) := by
  unfold next
  cases hpc : md.pc with
  | again =>
      dsimp only
      by_cases hmode : workMode x.conf k = workNo
      · rw [if_pos hmode]
        exact .goesOn md.tmp md.pc
      · rw [if_neg hmode]
        cases Protocol.ofWord (protocol (session x.conf k j)) with
        | none => exact .goesOn md.tmp md.pc
        | some p => exact .goesOn md.tmp (.opening p)
  | opening p => exact .opens hpc
  | copying p => exact .goesOn _ .looping
  | looping =>
      dsimp only
      split
      · exact .goesOn md.tmp .serving
      · exact .goesOn md.tmp .closing
  | serving =>
      dsimp only
      cases hp : Protocol.ofWord (protocol (session x.conf k j)) with
      | none =>
          rw [round, hp]
          exact .goesOn md.tmp .looping
      | some p =>
          cases p with
          | tcpCli =>
              rw [round, hp]
              dsimp only
              split
              · exact .hangsUp .again
              · exact .goesOn md.tmp .looping
          | tcpSrv =>
              rw [round_server hp]
              exact .serves ⟨hpc, hp⟩
          | tcpUdp =>
              rw [round, hp]
              exact .goesOn md.tmp .looping
  | closing => exact .closes .again

/-- Everything is closed. -/
theorem Wired.closeAll (h : Wired md) (pc : Pc) :
    Wired { md with table := closeSlots md (closed md.table md.fd), fd := 0,
                    sfd := fun _ => 0, pc := pc } where
  numbers d hd := by
    refine closeSlots_none md ?_
    by_cases heq : d = md.fd
    · rw [heq, closed_self]
    · rw [closed_ne _ heq]
      exact h.numbers d hd
  own hfd := absurd hfd (Int.lt_irrefl 0)
  slot i hi := absurd hi (Int.lt_irrefl 0)
  apart i _ hi := absurd hi (Int.lt_irrefl 0)
  bounds _ _ := rfl

/-- Every step keeps the slots apart and what they stand for. -/
theorem next_wired (h : Wired md) (hkernel : Promised k j md x) : Wired (next k j md x) := by
  have hcourse := next_course k j md x
  generalize next k j md x = out at hcourse ⊢
  cases hcourse with
  | goesOn tmp pc => exact h.goto tmp pc
  | opens hpc => exact h.openFd (hkernel.1 _ hpc)
  | serves hserves =>
      have hmid := h.accepted hserves hkernel
      exact ((receiveAll_spec x _ _).wired hmid).goto _ .looping
  | hangsUp pc => exact h.hangUp pc
  | closes pc => exact h.closeAll pc

private theorem start_wired (others : Int → Bool) : Wired (start others) where
  numbers d hd := if_neg fun h => by omega
  own hfd := absurd hfd (Int.lt_irrefl 0)
  slot i hi := absurd hi (Int.lt_irrefl 0)
  apart i _ hi := absurd hi (Int.lt_irrefl 0)
  bounds _ _ := rfl

/-! ## The slots -/

/-- Every slot that is not free is an open, connected socket. -/
def Live (md : Server) : Prop := ∀ i, md.sfd i ≠ 0 → md.table (md.sfd i) = some .connected

/-- All slots are live connections, each another one. -/
def Full (md : Server) : Prop :=
  (∀ i, i < maxSession → md.table (md.sfd i) = some .connected) ∧
    ∀ i i', i < maxSession → i' < maxSession → md.sfd i = md.sfd i' → i = i'

/-- The step closes a connection that has just come. -/
def Refuses (k j : Nat) (md : Server) (x : Results) : Prop :=
  Accepts k j md x ∧ 0 ≤ x.accept ∧ ∀ i, i < maxSession → md.sfd i ≠ 0

/-- The step leaves live connections in the slots, frees the slot of a peer that has closed or
failed, and refuses nobody while there is room. -/
structure KeepsSlots (k j : Nat) (md : Server) (x : Results) : Prop where
  live : Live (next k j md x)
  freed : ∀ i, Receives k j md x i → x.recv (md.sfd i) ≤ 0 → (next k j md x).sfd i = 0
  refused : Refuses k j md x → Full md

/-- `accept` does not fail while there is a free slot, and `recv` does not fail. -/
def Calm (k j : Nat) (md : Server) (x : Results) : Prop :=
  (Accepts k j md x → 0 ≤ x.accept ∨ ∀ i, i < maxSession → md.sfd i ≠ 0) ∧
    ∀ i, Receives k j md x i → 0 ≤ x.recv (md.sfd i)

/-- `select` is not asked about a descriptor that `accept` has just returned. -/
theorem asked_fresh (h : Wired md) {r : Int} (hpos : 0 < r) (hr : md.table r = none) :
    asked md r = false := by
  rw [asked, Bool.or_eq_false_iff]
  constructor
  · rw [beq_eq_false_iff_ne]
    rintro rfl
    obtain ⟨s, -, hown⟩ := h.own hpos
    rw [hr] at hown
    cases hown
  · rw [List.any_eq_false]
    intro i _ hi
    rw [Bool.and_eq_true, beq_iff_eq, decide_eq_true_iff] at hi
    exact (h.slot i hi.1).ne hr hi.2

/-- `accept` looks for a free slot only. -/
theorem accepted_kept {i : Nat} (hi : md.sfd i ≠ 0) : (accepted x md).sfd i = md.sfd i := by
  unfold accepted
  by_cases hset : isSet x md md.fd = true
  · rw [if_pos hset]
    cases hslot : firstSlot maxSession fun i => md.sfd i = 0 with
    | none => simp only [acceptClient, hslot]
    | some i' =>
        obtain ⟨-, hfree, -⟩ := firstSlot_eq_some_iff.mp hslot
        have hne : i ≠ i' := by
          rintro rfl
          exact hi (of_decide_eq_true hfree)
        rw [acceptClient_free hslot]
        exact Function.update_of_ne hne _ _
  · rw [if_neg hset]

/-- `recv` is called for slots that were in use before the round. -/
theorem accepted_called (h : Wired md) (hserves : Serves k j md x) (hkernel : Promised k j md x)
    {i : Nat} (hpos : 0 < (accepted x md).sfd i)
    (hset : isSet x md ((accepted x md).sfd i) = true) : (accepted x md).sfd i = md.sfd i := by
  by_cases hi : md.sfd i = 0
  · exfalso
    unfold accepted at hpos hset
    by_cases haccept : isSet x md md.fd = true
    · rw [if_pos haccept] at hpos hset
      have hfresh := hkernel.2 ⟨hserves, haccept⟩
      cases hslot : firstSlot maxSession fun i => md.sfd i = 0 with
      | none =>
          rw [acceptClient_full h hfresh hslot, hi] at hpos
          exact absurd hpos (Int.lt_irrefl 0)
      | some i' =>
          rw [acceptClient_free hslot] at hpos hset
          dsimp only at hpos hset
          by_cases hii : i = i'
          · rw [hii, Function.update_self] at hpos hset
            have hnew : md.table x.accept = none := hfresh.resolve_left (by omega)
            rw [isSet, asked_fresh h hpos hnew, Bool.false_and] at hset
            cases hset
          · rw [Function.update_of_ne hii, hi] at hpos
            exact absurd hpos (Int.lt_irrefl 0)
    · rw [if_neg haccept, hi] at hpos
      exact absurd hpos (Int.lt_irrefl 0)
  · exact accepted_kept hi

theorem next_server (hserves : Serves k j md x) : next k j md x =
    { receiveAll x (isSet x md) (accepted x md) with pc := .looping } := by
  rw [next, hserves.1]
  exact round_server hserves.2

/-- What the round leaves in a slot that was in use. -/
theorem next_slot (h : Wired md) (hserves : Serves k j md x) {i : Nat} (hi : md.sfd i ≠ 0) :
    (next k j md x).sfd i =
      if Receives k j md x i ∧ x.recv (md.sfd i) = 0 then 0 else md.sfd i := by
  have hr := receiveAll_spec x (isSet x md) (accepted x md)
  rw [next_server hserves]
  show (receiveAll x (isSet x md) (accepted x md)).sfd i = _
  rw [hr.sfd, accepted_kept hi]
  refine if_congr ?_ rfl rfl
  constructor
  · rintro ⟨-, hpos, hset, h0⟩
    exact ⟨⟨hserves, hpos, hset⟩, h0⟩
  · rintro ⟨⟨-, hpos, hset⟩, h0⟩
    exact ⟨h.slot_lt hi, hpos, hset, h0⟩

/-- A calm `accept` puts a live connection into the slot. -/
theorem Live.accepted (h : Wired md) (hlive : Live md) (hserves : Serves k j md x)
    (hkernel : Promised k j md x) (hcalm : Calm k j md x) : Live (accepted x md) := by
  unfold ServerSlots.accepted
  by_cases haccept : isSet x md md.fd = true
  · rw [if_pos haccept]
    have hfresh := hkernel.2 ⟨hserves, haccept⟩
    cases hslot : firstSlot maxSession fun i => md.sfd i = 0 with
    | none =>
        rw [acceptClient_full h hfresh hslot]
        exact hlive
    | some i' =>
        obtain ⟨hi', hfree, -⟩ := firstSlot_eq_some_iff.mp hslot
        have hok : 0 ≤ x.accept := (hcalm.1 ⟨hserves, haccept⟩).resolve_right fun hused =>
          hused i' hi' (of_decide_eq_true hfree)
        rw [acceptClient_free hslot]
        intro i hi
        dsimp only at hi ⊢
        by_cases hii : i = i'
        · rw [hii, Function.update_self, result_opened _ _ hok, opened_self]
        · rw [Function.update_of_ne hii] at hi ⊢
          exact (result_other hfresh (hlive i hi)).trans (hlive i hi)
  · rw [if_neg haccept]
    exact hlive

/-- A calm round leaves live connections. -/
theorem live_round (h : Wired md) (hlive : Live md) (hserves : Serves k j md x)
    (hkernel : Promised k j md x) (hcalm : Calm k j md x) :
    Live { receiveAll x (isSet x md) (accepted x md) with pc := .looping } := by
  have hr := receiveAll_spec x (isSet x md) (accepted x md)
  have hmid := h.accepted hserves hkernel
  have hmidLive := Live.accepted h hlive hserves hkernel hcalm
  intro i hi
  dsimp only at hi ⊢
  have hslot := hr.sfd i
  by_cases hc : i < maxSession ∧ 0 < (accepted x md).sfd i ∧
      isSet x md ((accepted x md).sfd i) = true ∧ x.recv ((accepted x md).sfd i) = 0
  · rw [if_pos hc] at hslot
    exact absurd hslot hi
  · rw [if_neg hc] at hslot
    rw [hslot] at hi ⊢
    have hconnected := hmidLive i hi
    by_cases hcalled : Called (accepted x md) (isSet x md) maxSession ((accepted x md).sfd i)
    · obtain ⟨hpos, hset, -⟩ := hcalled
      have hold := accepted_called h hserves hkernel hpos hset
      have hrecv := hcalm.2 i ⟨hserves, hold ▸ hpos, hold ▸ hset⟩
      rw [← hold] at hrecv
      have hne : x.recv ((accepted x md).sfd i) ≠ 0 := fun h0 =>
        hc ⟨hmid.slot_lt hi, hpos, hset, h0⟩
      rw [hr.talking _ (by omega)]
      exact hconnected
    · rw [hr.untouched _ hcalled]
      exact hconnected

/-- Live slots hold positive descriptors. -/
theorem Live.pos (hlive : Live md) (h : Wired md) {i : Nat} (hi : md.sfd i ≠ 0) :
    0 < md.sfd i := by
  by_contra hle
  have hnone := h.numbers (md.sfd i) (by omega)
  rw [hlive i hi] at hnone
  cases hnone

/-- A calm step leaves live connections. -/
theorem live_next (h : Wired md) (hlive : Live md) (hkernel : Promised k j md x)
    (hcalm : Calm k j md x) : Live (next k j md x) := by
  have hcourse := next_course k j md x
  generalize next k j md x = out at hcourse ⊢
  cases hcourse with
  | goesOn _ _ => exact hlive
  | opens hpc =>
      intro i hi
      exact (result_other (hkernel.1 _ hpc) (hlive i hi)).trans (hlive i hi)
  | serves hserves => exact live_round h hlive hserves hkernel hcalm
  | hangsUp _ =>
      intro i hi
      have hne := h.slot_ne_fd (hlive.pos h hi)
      exact (closed_ne md.table hne).trans (hlive i hi)
  | closes _ => exact fun i hi => absurd rfl hi

/-- Refusing means that all slots are taken. -/
theorem Live.full (hlive : Live md) (h : Wired md)
    (hused : ∀ i, i < maxSession → md.sfd i ≠ 0) : Full md :=
  ⟨fun i hi => hlive i (hused i hi),
    fun i i' hi _ heq => h.apart i i' (hlive.pos h (hused i hi)) heq⟩

/-- A failed `accept` leaves its result in the first free slot, and nothing is open there. -/
theorem not_live_of_failedAccept (h : Wired md) (hkernel : Promised k j md x)
    (haccepts : Accepts k j md x) (hneg : x.accept < 0) {i : Nat}
    (hfirst : (firstSlot maxSession fun i => md.sfd i = 0) = some i) : ¬Live (next k j md x) := by
  intro hlive
  have hmid : (accepted x md).sfd i = x.accept := by
    rw [accepted, if_pos haccepts.2, acceptClient_free hfirst]
    exact Function.update_self _ _ _
  have hr := receiveAll_spec x (isSet x md) (accepted x md)
  have hleft : (next k j md x).sfd i = x.accept := by
    rw [next_server haccepts.1]
    show (receiveAll x (isSet x md) (accepted x md)).sfd i = _
    rw [hr.sfd, if_neg fun hc => by rw [hmid] at hc; omega, hmid]
  have hlost := hlive i (by rw [hleft]; omega)
  rw [hleft, (next_wired h hkernel).numbers x.accept (by omega)] at hlost
  cases hlost

/-- A failed `recv` leaves the slot as it is. -/
theorem used_of_failedRecv (h : Wired md) {i : Nat} (hreceives : Receives k j md x i)
    (hneg : x.recv (md.sfd i) < 0) : (next k j md x).sfd i ≠ 0 := by
  have hused : md.sfd i ≠ 0 := by
    have hpos := hreceives.2.1
    omega
  rw [next_slot h hreceives.1 hused, if_neg fun hc => by omega]
  exact hused

/-- In a state whose slots are live, a step keeps them exactly when it is calm. -/
theorem step_iff (h : Wired md) (hlive : Live md) (hkernel : Promised k j md x) :
    KeepsSlots k j md x ↔ Calm k j md x := by
  constructor
  · intro hkeeps
    constructor
    · intro haccepts
      by_contra hbad
      obtain ⟨hneg, hroom⟩ := not_or.mp hbad
      cases hfirst : firstSlot maxSession fun i => md.sfd i = 0 with
      | some i =>
          exact not_live_of_failedAccept h hkernel haccepts (Int.not_le.mp hneg) hfirst hkeeps.live
      | none =>
          refine hroom fun i hi => ?_
          exact of_decide_eq_false (firstSlot_eq_none_iff.mp hfirst i hi)
    · intro i hreceives
      by_contra hneg
      have hlt := Int.not_le.mp hneg
      exact used_of_failedRecv h hreceives hlt (hkeeps.freed i hreceives (Int.le_of_lt hlt))
  · intro hcalm
    refine ⟨?_, fun i hreceives hle => ?_, fun hrefuses => hlive.full h hrefuses.2.2⟩
    · exact live_next h hlive hkernel hcalm
    · have h0 : x.recv (md.sfd i) = 0 := Int.le_antisymm hle (hcalm.2 i hreceives)
      have hused : md.sfd i ≠ 0 := by
        have hpos := hreceives.2.1
        omega
      rw [next_slot h hreceives.1 hused, if_pos ⟨hreceives, h0⟩]

/-! ## Runs -/

/-- The slots are what they should be throughout a run exactly when every step of it is
calm. -/
theorem keepsSlots_iff (k j : Nat) (others : Int → Bool) {xs : List Results}
    (hkernel : StepsSatisfy (next k j) (Promised k j) (start others) xs) :
    StepsSatisfy (next k j) (KeepsSlots k j) (start others) xs ↔
      StepsSatisfy (next k j) (Calm k j) (start others) xs := by
  have hstart : Wired (start others) ∧ Live (start others) :=
    ⟨start_wired others, fun i hi => absurd rfl hi⟩
  refine stepsSatisfy_iff_under (I := fun md => Wired md ∧ Live md) ?_ ?_ hstart hkernel
  · intro md x hI hA
    exact step_iff hI.1 hI.2 hA
  · intro md x hI hA hkeeps
    exact ⟨next_wired hI.1 hA, hkeeps.live⟩

/-- The states of such a run have live slots. -/
theorem keepsSlots_live {xs : List Results} (hlive : Live md)
    (h : StepsSatisfy (next k j) (KeepsSlots k j) md xs) : Live (exec (next k j) md xs) := by
  induction xs generalizing md with
  | nil => exact hlive
  | cons x xs ih => exact ih h.1.live h.2

/-- The sockets that `SendComDataToNet` sends to for a `TCP_SRV` session. -/
def sentTo (md : Server) : List Int := ((List.range maxSession).map md.sfd).filter (· ≠ 0)

/-- With live slots it sends to connected sockets only. -/
theorem sentTo_live (hlive : Live md) : ∀ d ∈ sentTo md, md.table d = some .connected := by
  intro d hd
  obtain ⟨hmem, hne⟩ := List.mem_filter.mp hd
  obtain ⟨i, -, rfl⟩ := List.mem_map.mp hmem
  exact hlive i (of_decide_eq_true hne)

/-! ## Two runs -/

/-- Port 1 works, and its first session has `TCP_SRV`. -/
def serverConf : Mem := fun i =>
  if i = modeOff 0 + 4 then 1 else if i = modeOff 0 + 20 then 2 else 0

/-- The listening socket is 3; `select` finds `ready`, and the calls on it have these
results. -/
def someResults (ready accept len : Int) : Results where
  conf := serverConf
  opening := 3
  readable := fun d => d == ready
  accept := accept
  recv := fun _ => len

/-- A step without failures is calm. -/
theorem calm_of_nonneg (haccept : 0 ≤ x.accept) (hrecv : ∀ d, 0 ≤ x.recv d) : Calm k j md x :=
  ⟨fun _ => .inl haccept, fun i _ => hrecv (md.sfd i)⟩

/-- The socket is opened, a connection comes and goes. -/
def calmRun : List Results :=
  List.replicate 5 (someResults 3 5 0) ++ [someResults 5 6 0, someResults 5 6 0]

/-- The socket is opened, and `accept` fails. -/
def failedAccept : List Results := List.replicate 5 (someResults 3 (-1) 0)

theorem keepsSlots_iff_calmRun :
    (exec (next 0 0) (start fun _ => false) (calmRun.take 5)).sfd 0 = 5 ∧
      (exec (next 0 0) (start fun _ => false) calmRun).sfd 0 = 0 ∧
      StepsSatisfy (next 0 0) (KeepsSlots 0 0) (start fun _ => false) calmRun := by
  have hkernel : StepsSatisfy (next 0 0) (Promised 0 0) (start fun _ => false) calmRun := by
    decide
  have hnonneg : ∀ x ∈ calmRun, 0 ≤ x.accept ∧ ∀ d, 0 ≤ x.recv d := by
    intro x hx
    rcases List.mem_append.mp hx with hx | hx
    · rw [List.eq_of_mem_replicate hx]
      exact ⟨by decide, fun _ => Int.le_refl 0⟩
    · rw [List.eq_of_mem_replicate (n := 2) hx]
      exact ⟨by decide, fun _ => Int.le_refl 0⟩
  exact ⟨by decide, by decide, (keepsSlots_iff 0 0 _ hkernel).mpr (stepsSatisfy_of_mem
    (fun x hx _ => calm_of_nonneg (hnonneg x hx).1 (hnonneg x hx).2) _)⟩

/-- The failed `accept` leaves -1 in a slot. -/
theorem failedAccept_fills :
    StepsSatisfy (next 0 0) (Promised 0 0) (start fun _ => false) failedAccept ∧
      (exec (next 0 0) (start fun _ => false) failedAccept).sfd 0 = -1 ∧
      ¬StepsSatisfy (next 0 0) (KeepsSlots 0 0) (start fun _ => false) failedAccept := by
  have hslot : (exec (next 0 0) (start fun _ => false) failedAccept).sfd 0 = -1 := by decide
  refine ⟨by decide, hslot, fun h => ?_⟩
  have hlive := keepsSlots_live (fun i hi => absurd rfl hi) h 0 (by rw [hslot]; decide)
  rw [hslot] at hlive
  have hnone : (exec (next 0 0) (start fun _ => false) failedAccept).table (-1) = none := by decide
  rw [hnone] at hlive
  cases hlive

end Itertk.Threads.ServerSlots
