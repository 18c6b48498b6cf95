import Itertk.Base.Run
import Itertk.Base.Slots
import Itertk.Web.Handlers

/-!
# The connections of the ITSIP server

The main loop calls `web_process` over and over.  A call collects the descriptors of
the listening socket and of the connections, waits in `select`, puts a new connection
into the first free slot of `g_client_conn`, and serves every connection that is
readable.  `m_max_i` and `m_max_sock` bound the slots that it looks at and the
descriptors that `select` does; neither ever falls.

A slot is freed where the handler of its connection fails to receive or send: by
`net_conn_close`, deep below `web_svr_proc`.

## Main results

* `Sound.next` — what every call keeps.
* `connections_sound` — no connection is lost or overwritten in any run.
-/

namespace Itertk.Web.Connections

open Itertk.Base.Memory
open Itertk.Base.Run
open Itertk.Base.Slots
open Itertk.Daemon.State
open Itertk.Itsip.Socket
open Itertk.Web.Handlers

/-! ## State -/

/-- `MAX_TCP_CONN`. -/
def maxTcpConn : Nat := 9

/-- The globals of `web_net.c`, and what its handlers work on. -/
structure Server where
  dev : Device
  /-- `g_listen_conn`. -/
  listenConn : Int
  /-- `m_max_sock`. -/
  maxSock : Int
  /-- `m_max_i`. -/
  maxI : Nat
  /-- `g_client_conn[i].client_conn`. -/
  clientConn : Nat → Int

/-- What `socket` returns in `web_svr_start`, and whether that gets to its end. -/
structure Start where
  fd : Int
  result : -1 ≤ fd
  listens : Bool

/-- `web_init`. -/
def webInit (dev : Device) (start : Start) : Server where
  dev := dev
  listenConn := start.fd
  maxSock := if start.listens then start.fd else -1
  maxI := 0
  clientConn := fun _ => -1

/-- What a connection brings while it is served. -/
structure Service where
  env : Env
  incoming : List RecvPoll
  outgoing : List SendPoll

/-- What a successful `select` reports, and what follows from it. -/
structure Ready where
  ready : Int → Bool
  /-- What `accept` returns, if it is called. -/
  accepted : Int
  service : Nat → Service

/-- What one call of `web_process` finds. -/
inductive Turn where
  /-- `select` returns 0. -/
  | quiet
  /-- `select` fails with `EINTR`. -/
  | interrupted
  | selectFailed
  | ready (r : Ready)

/-- What a call does with connections. -/
inductive Action where
  /-- A new connection is put into a slot. -/
  | placed (i : Nat) (fd : Int)
  /-- A new connection is closed. -/
  | refused (fd : Int)
  | served (i : Nat) (fd : Int) (effects : List Effect)

/-! ## One call -/

/-- The descriptors that are put into `m_readfds`. -/
def fdSet (s : Server) (fd : Int) : Bool :=
  decide (s.listenConn > 0 ∧ fd = s.listenConn) ||
    (List.range maxTcpConn).any fun i => decide (¬s.clientConn i < 0 ∧ fd = s.clientConn i)

/-- `FD_ISSET` after `select(m_max_sock + 1, &m_readfds, ..)`. -/
def fdIsset (s : Server) (r : Ready) (fd : Int) : Bool :=
  fdSet s fd && decide (fd < s.maxSock + 1) && r.ready fd

/-- `if (client_sock > m_max_sock)`. -/
def raiseMaxSock (s : Server) (clientSock : Int) : Server :=
  if clientSock > s.maxSock then { s with maxSock := clientSock } else s

/-- The new connection. -/
def acceptConn (s : Server) (clientSock : Int) : Server × List Action :=
  if clientSock > 0 then
    match firstSlot maxTcpConn fun i => s.clientConn i < 0 with
    | some i =>
        let s := { s with clientConn := Function.update s.clientConn i clientSock
                          maxI := if i > s.maxI then i else s.maxI }
        (raiseMaxSock s clientSock, [.placed i clientSock])
    | none => (raiseMaxSock s (-1), [.refused clientSock])
  else (raiseMaxSock s clientSock, [])

/-- The session in which a connection is served. -/
def session (s : Server) (service : Service) (fd : Int) : Session :=
  ⟨s.dev, ⟨decide (fd > 0), service.incoming, service.outgoing, []⟩, []⟩

/-- One round of the loop that serves. -/
def serveSlot (isset : Int → Bool) (service : Nat → Service) (i : Nat) (p : Server × List Action) :
    Server × List Action :=
  let fd := p.1.clientConn i
  if fd < 0 then p
  else if isset fd then
    let t := webSvrProc (service i).env (session p.1 (service i) fd)
    ({ p.1 with
        dev := t.dev
        clientConn :=
          Function.update p.1.clientConn i (if fd > 0 ∧ t.conn.isOpen = false then -1 else fd) },
      p.2 ++ [.served i fd t.effects])
  else p

/-- `net_conn_close` on every connection. -/
def closeAll (s : Server) : Server :=
  { s with clientConn := fun i => if s.clientConn i > 0 then -1 else s.clientConn i }

/-- `web_process`. -/
def webProcess (s : Server) : Turn → Server × List Action
  | .quiet => (s, [])
  | .interrupted => (s, [])
  | .selectFailed => (closeAll s, [])
  | .ready r =>
      let isset := fdIsset s r
      let p := if isset s.listenConn then acceptConn s r.accepted else (s, [])
      forUpTo (p.1.maxI + 1) (serveSlot isset r.service) p

/-- The server after a call. -/
def next (s : Server) (t : Turn) : Server := (webProcess s t).1

/-- `accept` returns no descriptor that is open. -/
def AcceptFresh (s : Server) : Turn → Prop
  | .ready r =>
      fdIsset s r s.listenConn = true → 0 < r.accepted →
        r.accepted ≠ s.listenConn ∧ ∀ i, i < maxTcpConn → s.clientConn i ≠ r.accepted
  | _ => True

/-! ## What a call keeps -/

/-- Slot `i` holds a connection. -/
def Open (s : Server) (i : Nat) : Prop := i < maxTcpConn ∧ 0 < s.clientConn i

/-- The connections have descriptors of their own, and all lie below the two bounds. -/
structure Sound (s : Server) : Prop where
  slots : ∀ i, i < maxTcpConn → s.clientConn i = -1 ∨ 0 < s.clientConn i
  distinct : Distinct maxTcpConn (-1) s.clientConn
  index : ∀ i, Open s i → i ≤ s.maxI
  sock : ∀ i, Open s i → s.clientConn i ≤ s.maxSock
  maxSock : -1 ≤ s.maxSock
  inTable : s.maxI < maxTcpConn

/-- Connections may have been closed, and nothing else. -/
structure Closes (s s' : Server) : Prop where
  listenConn : s'.listenConn = s.listenConn
  maxSock : s'.maxSock = s.maxSock
  maxI : s'.maxI = s.maxI
  slots : ∀ i, s'.clientConn i = s.clientConn i ∨ s'.clientConn i = -1

theorem Closes.refl (s : Server) : Closes s s := ⟨rfl, rfl, rfl, fun _ => .inl rfl⟩

/-- A connection that is open was open before, with its descriptor. -/
theorem Closes.open {s s' : Server} (h : Closes s s') {i : Nat} (hi : Open s' i) :
    Open s i ∧ s'.clientConn i = s.clientConn i := by
  rcases h.slots i with heq | heq
  · exact ⟨⟨hi.1, heq ▸ hi.2⟩, heq⟩
  · have hpos := hi.2
    rw [heq] at hpos
    exact absurd hpos (by decide)

theorem Sound.closes {s s' : Server} (h : Sound s) (hc : Closes s s') : Sound s' where
  slots i hi := by
    rcases hc.slots i with heq | heq
    · rw [heq]
      exact h.slots i hi
    · exact .inl heq
  distinct i j hi hj hne hsame := by
    have hopen : ∀ k, k < maxTcpConn → s'.clientConn k ≠ -1 → s'.clientConn k = s.clientConn k :=
      fun k _ hk => (hc.slots k).resolve_right hk
    have hi' := hopen i hi hne
    have hj' := hopen j hj (hsame ▸ hne)
    exact h.distinct i j hi hj (hi' ▸ hne) (by rw [← hi', ← hj', hsame])
  index i hi := by
    rw [hc.maxI]
    exact h.index i (hc.open hi).1
  sock i hi := by
    obtain ⟨hopen, heq⟩ := hc.open hi
    rw [hc.maxSock, heq]
    exact h.sock i hopen
  maxSock := by
    rw [hc.maxSock]
    exact h.maxSock
  inTable := by
    rw [hc.maxI]
    exact h.inTable

private theorem closeAll_closes (s : Server) : Closes s (closeAll s) := by
  refine ⟨rfl, rfl, rfl, fun i => ?_⟩
  by_cases h : s.clientConn i > 0
  · exact .inr (if_pos h)
  · exact .inl (if_neg h)

/-! ## The new connection -/

@[simp] theorem raiseMaxSock_clientConn (s : Server) (fd : Int) :
    (raiseMaxSock s fd).clientConn = s.clientConn := by
  unfold raiseMaxSock
  split <;> rfl

/-- `m_max_sock` is at least what it was and what it is raised to. -/
theorem raiseMaxSock_sound {s : Server} {fd : Int} (hslots : ∀ i, i < maxTcpConn →
      s.clientConn i = -1 ∨ 0 < s.clientConn i)
    (hdistinct : Distinct maxTcpConn (-1) s.clientConn) (hindex : ∀ i, Open s i → i ≤ s.maxI)
    (hsock : ∀ i, Open s i → s.clientConn i ≤ s.maxSock ∨ s.clientConn i = fd)
    (hmaxSock : -1 ≤ s.maxSock) (hmaxI : s.maxI < maxTcpConn) :
    Sound (raiseMaxSock s fd) := by
  unfold raiseMaxSock
  by_cases h : fd > s.maxSock
  · rw [if_pos h]
    refine ⟨hslots, hdistinct, hindex, fun i hi => ?_, ?_, hmaxI⟩
    · show s.clientConn i ≤ fd
      rcases hsock i hi with hle | heq
      · omega
      · omega
    · show -1 ≤ fd
      omega
  · rw [if_neg h]
    refine ⟨hslots, hdistinct, hindex, fun i hi => ?_, hmaxSock, hmaxI⟩
    rcases hsock i hi with hle | heq
    · exact hle
    · omega

/-- With a free slot the new connection is put there; else it is closed. -/
theorem acceptConn_cases {s : Server} (h : Sound s) {fd : Int} (hfd : 0 < fd) :
    (∃ i, i < maxTcpConn ∧ s.clientConn i = -1 ∧
        acceptConn s fd =
          (raiseMaxSock { s with clientConn := Function.update s.clientConn i fd
                                 maxI := if i > s.maxI then i else s.maxI } fd,
            [.placed i fd])) ∨
      ((∀ i, i < maxTcpConn → 0 < s.clientConn i) ∧ acceptConn s fd = (s, [.refused fd])) := by
  unfold acceptConn
  rw [if_pos hfd]
  cases hslot : firstSlot maxTcpConn fun i => s.clientConn i < 0 with
  | some i =>
      obtain ⟨hi, hfree, -⟩ := firstSlot_eq_some_iff.mp hslot
      have hneg : s.clientConn i < 0 := of_decide_eq_true hfree
      have hvacant : s.clientConn i = -1 := by
        rcases h.slots i hi with heq | hpos
        · exact heq
        · omega
      exact .inl ⟨i, hi, hvacant, rfl⟩
  | none =>
      refine .inr ⟨fun i hi => ?_, ?_⟩
      · have hopen := of_decide_eq_false (firstSlot_eq_none_iff.mp hslot i hi)
        rcases h.slots i hi with heq | hpos
        · omega
        · exact hpos
      · have hmax : ¬(-1 : Int) > s.maxSock := by
          have hbound := h.maxSock
          omega
        simp only [raiseMaxSock, if_neg hmax]

private theorem acceptConn_failed (s : Server) {fd : Int} (hfd : ¬0 < fd) :
    acceptConn s fd = (raiseMaxSock s fd, []) := by
  unfold acceptConn
  rw [if_neg hfd]

/-- A descriptor that is not open may be put into a free slot. -/
theorem placed_sound {s : Server} (h : Sound s) {i : Nat} (hi : i < maxTcpConn) {fd : Int}
    (hfd : 0 < fd) (hfresh : ∀ j, j < maxTcpConn → s.clientConn j ≠ fd) :
    Sound (raiseMaxSock { s with clientConn := Function.update s.clientConn i fd
                                 maxI := if i > s.maxI then i else s.maxI } fd) := by
  have hother : ∀ j, j ≠ i → Function.update s.clientConn i fd j = s.clientConn j :=
    fun j hj => Function.update_of_ne hj _ _
  have hopen : ∀ j, j ≠ i → j < maxTcpConn → 0 < Function.update s.clientConn i fd j → Open s j :=
    fun j hj hlt hpos => ⟨hlt, hother j hj ▸ hpos⟩
  refine raiseMaxSock_sound ?_ ?_ ?_ ?_ h.maxSock ?_
  · intro j hj
    by_cases hji : j = i
    · rw [hji]
      exact .inr (by simpa using hfd)
    · show Function.update s.clientConn i fd j = -1 ∨ 0 < Function.update s.clientConn i fd j
      rw [hother j hji]
      exact h.slots j hj
  · exact (distinct_update_iff h.distinct hi fd).mpr (.inr fun j hj _ => hfresh j hj)
  · intro j hj
    show j ≤ if i > s.maxI then i else s.maxI
    by_cases hji : j = i
    · split <;> omega
    · have hle := h.index j (hopen j hji hj.1 hj.2)
      split <;> omega
  · intro j hj
    by_cases hji : j = i
    · rw [hji]
      exact .inr (Function.update_self _ _ _)
    · left
      show Function.update s.clientConn i fd j ≤ s.maxSock
      rw [hother j hji]
      exact h.sock j (hopen j hji hj.1 hj.2)
  · show (if i > s.maxI then i else s.maxI) < maxTcpConn
    have hmax := h.inTable
    split
    · exact hi
    · exact hmax

private theorem acceptConn_sound {s : Server} (h : Sound s) {fd : Int}
    (hfresh : 0 < fd → ∀ i, i < maxTcpConn → s.clientConn i ≠ fd) : Sound (acceptConn s fd).1 := by
  by_cases hfd : 0 < fd
  · rcases acceptConn_cases h hfd with ⟨i, hi, _, heq⟩ | ⟨_, heq⟩
    · rw [heq]
      exact placed_sound h hi hfd (hfresh hfd)
    · rw [heq]
      exact h
  · rw [acceptConn_failed s hfd]
    exact raiseMaxSock_sound h.slots h.distinct h.index (fun i hi => .inl (h.sock i hi)) h.maxSock
      h.inTable

/-- A connection that is open stays in its slot. -/
theorem acceptConn_keeps {s : Server} (h : Sound s) (fd : Int) {i : Nat} (hi : Open s i) :
    (acceptConn s fd).1.clientConn i = s.clientConn i := by
  by_cases hfd : 0 < fd
  · rcases acceptConn_cases h hfd with ⟨j, _, hvacant, heq⟩ | ⟨_, heq⟩
    · have hij : i ≠ j := by
        rintro rfl
        have hpos := hi.2
        rw [hvacant] at hpos
        exact absurd hpos (by decide)
      rw [heq, raiseMaxSock_clientConn]
      exact Function.update_of_ne hij _ _
    · rw [heq]
  · rw [acceptConn_failed s hfd, raiseMaxSock_clientConn]

/-! ## The loop that serves -/

/-- A round closes the connection of its slot, or none. -/
theorem serveSlot_closes (isset : Int → Bool) (service : Nat → Service) (i : Nat)
    (p : Server × List Action) : Closes p.1 (serveSlot isset service i p).1 := by
  unfold serveSlot
  by_cases hneg : p.1.clientConn i < 0
  · simp only [if_pos hneg]
    exact .refl p.1
  · simp only [if_neg hneg]
    by_cases hset : isset (p.1.clientConn i) = true
    · simp only [if_pos hset]
      refine ⟨rfl, rfl, rfl, fun j => ?_⟩
      by_cases hji : j = i
      · subst hji
        simp only [Function.update_self]
        split
        · exact .inr rfl
        · exact .inl rfl
      · exact .inl (Function.update_of_ne hji _ _)
    · simp only [if_neg hset]
      exact .refl p.1

private theorem serveSlot_other (isset : Int → Bool) (service : Nat → Service) {i j : Nat}
    (h : j ≠ i) (p : Server × List Action) :
    (serveSlot isset service i p).1.clientConn j = p.1.clientConn j := by
  unfold serveSlot
  dsimp only
  split
  · rfl
  · split
    · exact Function.update_of_ne h _ _
    · rfl

/-- A round serves its slot, or does nothing. -/
theorem serveSlot_actions (isset : Int → Bool) (service : Nat → Service) (i : Nat)
    (p : Server × List Action) :
    (serveSlot isset service i p).2 = p.2 ∨
      ∃ fd effects, (serveSlot isset service i p).2 = p.2 ++ [.served i fd effects] := by
  unfold serveSlot
  dsimp only
  split
  · exact .inl rfl
  · split
    · exact .inr ⟨_, _, rfl⟩
    · exact .inl rfl

private theorem mem_serveSlot (isset : Int → Bool) (service : Nat → Service) (i : Nat)
    {p : Server × List Action} {a : Action} (ha : a ∈ p.2) :
    a ∈ (serveSlot isset service i p).2 := by
  rcases serveSlot_actions isset service i p with heq | ⟨fd, effects, heq⟩
  · rw [heq]
    exact ha
  · rw [heq]
    exact List.mem_append_left _ ha

private theorem serveSlot_serves (isset : Int → Bool) (service : Nat → Service) {i : Nat}
    {p : Server × List Action} (hopen : ¬p.1.clientConn i < 0)
    (hset : isset (p.1.clientConn i) = true) :
    ∃ effects, Action.served i (p.1.clientConn i) effects ∈ (serveSlot isset service i p).2 := by
  unfold serveSlot
  simp only [if_neg hopen, if_pos hset]
  exact ⟨_, List.mem_append_right _ List.mem_cons_self⟩

theorem Closes.trans {s s' s'' : Server} (h : Closes s s') (h' : Closes s' s'') : Closes s s'' := by
  refine ⟨h'.listenConn.trans h.listenConn, h'.maxSock.trans h.maxSock, h'.maxI.trans h.maxI,
    fun i => ?_⟩
  rcases h'.slots i with heq | heq
  · rw [heq]
    exact h.slots i
  · exact .inr heq

variable (isset : Int → Bool) (service : Nat → Service) (p : Server × List Action)

private theorem serveLoop_closes (n : Nat) : Closes p.1 (forUpTo n (serveSlot isset service) p).1 :=
  forUpTo_invariant (fun _ q => Closes p.1 q.1) (.refl p.1) n
    fun j _ q hq => hq.trans (serveSlot_closes isset service j q)

/-- The rounds before a slot leave it alone. -/
theorem serveLoop_later {n j : Nat} (h : n ≤ j) :
    (forUpTo n (serveSlot isset service) p).1.clientConn j = p.1.clientConn j :=
  forUpTo_keeps (fun q : Server × List Action => q.1.clientConn j) p n
    fun k hk q => serveSlot_other isset service (by omega) q

/-- The loop adds only services to what was done before. -/
theorem serveLoop_actions (n : Nat) (a : Action) :
    a ∈ (forUpTo n (serveSlot isset service) p).2 →
      a ∈ p.2 ∨ ∃ i fd effects, a = .served i fd effects := by
  induction n with
  | zero => exact .inl
  | succ n ih =>
      intro ha
      rw [forUpTo_succ] at ha
      rcases serveSlot_actions isset service n (forUpTo n (serveSlot isset service) p) with
        heq | ⟨fd, effects, heq⟩
      · rw [heq] at ha
        exact ih ha
      · rw [heq] at ha
        cases List.mem_append.mp ha with
        | inl h => exact ih h
        | inr h => exact .inr ⟨n, fd, effects, List.mem_singleton.mp h⟩

/-- Every readable connection below the bound of the loop is served. -/
theorem serveLoop_serves {n j : Nat} (hj : j < n) (hopen : ¬p.1.clientConn j < 0)
    (hset : isset (p.1.clientConn j) = true) :
    ∃ effects, Action.served j (p.1.clientConn j) effects ∈
      (forUpTo n (serveSlot isset service) p).2 := by
  induction n with
  | zero => exact absurd hj (Nat.not_lt_zero j)
  | succ n ih =>
      rw [forUpTo_succ]
      by_cases hjn : j = n
      · subst hjn
        have hsame := serveLoop_later isset service p (Nat.le_refl j)
        have hserved := serveSlot_serves isset service
          (p := forUpTo j (serveSlot isset service) p) (by rw [hsame]; exact hopen)
          (by rw [hsame]; exact hset)
        rwa [hsame] at hserved
      · obtain ⟨effects, hmem⟩ := ih (by omega)
        exact ⟨effects, mem_serveSlot isset service n hmem⟩

private theorem mem_serveLoop (n : Nat) {a : Action} (ha : a ∈ p.2) :
    a ∈ (forUpTo n (serveSlot isset service) p).2 :=
  forUpTo_invariant (fun (_ : Nat) (q : Server × List Action) => a ∈ q.2) ha n
    fun j _ _ hq => mem_serveSlot isset service j hq

/-! ## The whole call -/

/-- The server after the listening socket has been looked at. -/
def afterAccept (s : Server) (r : Ready) : Server × List Action :=
  if fdIsset s r s.listenConn then acceptConn s r.accepted else (s, [])

private theorem webProcess_ready (s : Server) (r : Ready) :
    webProcess s (.ready r) =
      forUpTo ((afterAccept s r).1.maxI + 1) (serveSlot (fdIsset s r) r.service)
        (afterAccept s r) := rfl

private theorem afterAccept_sound {s : Server} (h : Sound s) {r : Ready}
    (hfresh : AcceptFresh s (.ready r)) :
    Sound (afterAccept s r).1 := by
  unfold afterAccept
  by_cases hset : fdIsset s r s.listenConn = true
  · rw [if_pos hset]
    exact acceptConn_sound h fun hpos => (hfresh hset hpos).2
  · rw [if_neg hset]
    exact h

private theorem afterAccept_keeps {s : Server} (h : Sound s) (r : Ready) {i : Nat} (hi : Open s i) :
    (afterAccept s r).1.clientConn i = s.clientConn i := by
  unfold afterAccept
  split
  · exact acceptConn_keeps h _ hi
  · rfl

/-- Every call keeps the table sound. -/
theorem Sound.next {s : Server} (h : Sound s) {t : Turn} (hfresh : AcceptFresh s t) :
    Sound (next s t) := by
  cases t with
  | quiet => exact h
  | interrupted => exact h
  | selectFailed => exact h.closes (closeAll_closes s)
  | ready r =>
      rw [Connections.next, webProcess_ready]
      exact (afterAccept_sound h hfresh).closes (serveLoop_closes _ _ _ _)

/-- No slot that is open gets another descriptor. -/
def KeepsOpen (s : Server) (t : Turn) : Prop :=
  ∀ i, Open s i → (next s t).clientConn i = s.clientConn i ∨ (next s t).clientConn i = -1

private theorem Sound.keepsOpen {s : Server} (h : Sound s) (t : Turn) : KeepsOpen s t := by
  intro i hi
  cases t with
  | quiet => exact .inl rfl
  | interrupted => exact .inl rfl
  | selectFailed => exact (closeAll_closes s).slots i
  | ready r =>
      rw [Connections.next, webProcess_ready, ← afterAccept_keeps h r hi]
      exact (serveLoop_closes _ _ _ _).slots i

/-- Every open slot is in the set that `select` looks at. -/
def InSelectSet (s : Server) : Prop :=
  ∀ i, Open s i → fdSet s (s.clientConn i) = true ∧ s.clientConn i < s.maxSock + 1

private theorem Sound.inSelectSet {s : Server} (h : Sound s) : InSelectSet s := by
  intro i hi
  refine ⟨?_, by have hsock := h.sock i hi; omega⟩
  have hpos := hi.2
  refine Bool.or_eq_true_iff.mpr (.inr (List.any_eq_true.mpr ⟨i, List.mem_range.mpr hi.1, ?_⟩))
  exact decide_eq_true ⟨by omega, rfl⟩

/-- Every open slot that is readable is served. -/
def ServesReadable (s : Server) : Turn → Prop
  | .ready r =>
      ∀ i, Open s i → r.ready (s.clientConn i) = true →
        ∃ effects, Action.served i (s.clientConn i) effects ∈ (webProcess s (.ready r)).2
  | _ => True

private theorem Sound.servesReadable {s : Server} (h : Sound s) {t : Turn}
    (hfresh : AcceptFresh s t) :
    ServesReadable s t := by
  cases t with
  | quiet => trivial
  | interrupted => trivial
  | selectFailed => trivial
  | ready r =>
      intro i hi hready
      have hkeep := afterAccept_keeps h r hi
      have hpos := hi.2
      obtain ⟨hset, hsock⟩ := h.inSelectSet i hi
      have hisset : fdIsset s r (s.clientConn i) = true := by
        simp [fdIsset, hset, hsock, hready]
      have hindex := (afterAccept_sound h hfresh).index i ⟨hi.1, by rw [hkeep]; exact hpos⟩
      rw [webProcess_ready, ← hkeep]
      exact serveLoop_serves _ _ _ (by omega) (by rw [hkeep]; omega) (by rw [hkeep]; exact hisset)

/-- A new connection is closed at once exactly when all slots are open. -/
def RefusesWhenFull (s : Server) : Turn → Prop
  | .ready r =>
      fdIsset s r s.listenConn = true → 0 < r.accepted →
        (Action.refused r.accepted ∈ (webProcess s (.ready r)).2 ↔ ∀ i, i < maxTcpConn → Open s i)
  | _ => True

private theorem Sound.refusesWhenFull {s : Server} (h : Sound s) (t : Turn) :
    RefusesWhenFull s t := by
  cases t with
  | quiet => trivial
  | interrupted => trivial
  | selectFailed => trivial
  | ready r =>
      intro hset hpos
      have hafter : afterAccept s r = acceptConn s r.accepted := if_pos hset
      rw [webProcess_ready]
      rcases acceptConn_cases h hpos with ⟨i, hi, hvacant, heq⟩ | ⟨hfull, heq⟩
      · refine iff_of_false (fun hmem => ?_) fun hall => ?_
        · rcases serveLoop_actions _ _ _ _ _ hmem with hold | ⟨_, _, _, hnew⟩
          · rw [hafter, heq] at hold
            cases List.mem_singleton.mp hold
          · cases hnew
        · have hopen := (hall i hi).2
          rw [hvacant] at hopen
          exact absurd hopen (by decide)
      · refine iff_of_true (mem_serveLoop _ _ _ _ ?_) fun i hi => ⟨hi, hfull i hi⟩
        rw [hafter, heq]
        exact List.mem_cons_self

/-! ## Runs -/

private theorem webInit_sound (dev : Device) (start : Start) : Sound (webInit dev start) where
  slots _ _ := .inl rfl
  distinct _ _ _ _ hne _ := absurd rfl hne
  index _ hi := absurd hi.2 (by show ¬(0 : Int) < -1; decide)
  sock _ hi := absurd hi.2 (by show ¬(0 : Int) < -1; decide)
  maxSock := by
    show -1 ≤ if start.listens then start.fd else -1
    split
    · exact start.result
    · exact Int.le_refl _
  inTable := by show 0 < 9; decide

/-- While `accept` returns descriptors that are not open, the table is sound after every
run of calls, and the call after it overwrites no open slot, serves each that is readable,
and closes a new connection exactly when all slots are open. -/
theorem connections_sound (dev : Device) (start : Start) (turns : List Turn)
    (hfresh : StepsSatisfy next AcceptFresh (webInit dev start) turns) :
    let s := exec next (webInit dev start) turns
    Sound s ∧ InSelectSet s ∧
      ∀ t, AcceptFresh s t → KeepsOpen s t ∧ ServesReadable s t ∧ RefusesWhenFull s t := by
  intro s
  have h : Sound s :=
    exec_under (fun _ _ hs hx => hs.next hx) (webInit_sound dev start) hfresh
  exact ⟨h, h.inSelectSet, fun t ht => ⟨h.keepsOpen t, h.servesReadable ht, h.refusesWhenFull t⟩⟩

instance (s : Server) (t : Turn) : Decidable (AcceptFresh s t) := by
  cases t with
  | ready r => exact inferInstanceAs (Decidable (_ → _ → _ ∧ ∀ i, i < maxTcpConn → _ ≠ _))
  | _ => exact inferInstanceAs (Decidable True)

/-- A connection on a descriptor. -/
def arrives (fd : Int) : Turn := .ready ⟨fun ready => ready == 3, fd, fun _ => ⟨Env.idle, [], []⟩⟩

/-- The client on descriptor 6 has reset its connection. -/
def hangsUp : Turn :=
  .ready ⟨fun ready => ready == 6, -1, fun _ => ⟨Env.idle, [.recvFailed true], []⟩⟩

/-- Nine connections, one of which ends and makes room for another. -/
def crowd : List Turn :=
  [arrives 5, arrives 6, hangsUp, arrives 6, arrives 7, arrives 8, arrives 9, arrives 10,
    arrives 11, arrives 12, arrives 13]

/-- The tenth is refused. -/
theorem connections_sound_crowd :
    let s := exec next (webInit (Device.start zero) ⟨3, by decide, true⟩) crowd
    ((List.range maxTcpConn).map s.clientConn = [5, 6, 7, 8, 9, 10, 11, 12, 13] ∧
      .refused 14 ∈ (webProcess s (arrives 14)).2) ∧
    Sound s ∧ InSelectSet s ∧
      ∀ t, AcceptFresh s t → KeepsOpen s t ∧ ServesReadable s t ∧ RefusesWhenFull s t := by
  have hrun := connections_sound (Device.start zero) ⟨3, by decide, true⟩ crowd (by decide +kernel)
  have hrefuses := (hrun.2.2 (arrives 14) (by decide +kernel)).2.2
  refine ⟨⟨by decide +kernel, (hrefuses (by decide +kernel) (by decide)).mpr ?_⟩, hrun⟩
  unfold Open
  decide +kernel

end Itertk.Web.Connections
