import Itertk.Base.Run
import Itertk.Daemon.Serial

/-!
# The line mode of a port

`con_com[p].type` says whether port `p` is an RS232 or an RS485 line, but what
`com_para_set` keeps of it is `rs_type`, which the ports share: a port is driven as
the port that was set up last.

The ghost `applied` is the type that was last applied to each port; a port that could
not be opened has none.
-/

namespace Itertk.Daemon.LineMode

open Itertk.Base.Run
open Itertk.Base.Memory
open Itertk.Daemon.Layout
open Itertk.Daemon.State
open Itertk.Daemon.Serial

/-! ## Calls -/

/-- The type of a line is `RS232` or `RS485`. -/
def Typed (type : UInt8) : Prop := type = rs232 ∨ type = rs485

/-- The daemon, and the type last applied to each port. -/
structure Ports where
  dev : Device
  applied : UInt32 → Option UInt8

/-- A call that applies records. -/
inductive Call where
  /-- `com_init`, on the configuration of that moment. -/
  | comInit (opened : Nat → Int) (conf : Mem)
      (typed : ∀ i, i < maxComPort → Typed (ConfigCom.load conf (comOff i)).type)
  | comSet (c : ConfigCom) (typed : Typed c.type)

/-- `com_para_set(fd, con_com)` applies the type to port `p` if it is open. -/
def noteApplied (fd : Int) (p : UInt32) (c : ConfigCom) (applied : UInt32 → Option UInt8) :
    UInt32 → Option UInt8 :=
  fun q => if fd > 0 ∧ q = p then some c.type else applied q

/-- One call. -/
def serve (s : Ports) : Call → Ports
  | .comInit opened conf _ =>
      { dev := (comInit { s.dev with conf := conf } opened).1
        applied := noteApplied (opened 1) 1 (ConfigCom.load conf (comOff 1))
          (noteApplied (opened 0) 0 (ConfigCom.load conf (comOff 0)) s.applied) }
  | .comSet c _ =>
      { dev := (comSet s.dev c).1
        applied := noteApplied (s.dev.gcomfd (c.id - 1)) (c.id - 1) c s.applied }

/-- The daemon before any record is applied. -/
def Ports.start (d : Device) : Ports := ⟨d, fun _ => none⟩

/-- Every send and every read of a port takes the half-duplex path exactly when the type
last applied to it is `RS485`. -/
def OwnMode (s : Ports) : Prop :=
  ∀ p t, s.applied p = some t →
    (∀ env data, HalfDuplex (sendNetDataToComCalls env s.dev p data) ↔ t = rs485) ∧
      ∀ data, HalfDuplex (comProcCalls s.dev p data) ↔ t = rs485

/-- The types last applied to the ports are all the same. -/
def OneType (s : Ports) : Prop :=
  ∀ p q t u, s.applied p = some t → s.applied q = some u → t = u

/-! ## The shared mode is that of the last port -/

/-- Every applied type is a type of line, and `rs_type` is one of them. -/
structure Follows (d : Device) (applied : UInt32 → Option UInt8) : Prop where
  typed : ∀ p t, applied p = some t → Typed t
  last : ∀ p t, applied p = some t → ∃ q, applied q = some d.rsType

private theorem noteApplied_open {fd : Int} (h : fd > 0) (p : UInt32) (c : ConfigCom)
    (applied : UInt32 → Option UInt8) (q : UInt32) :
    noteApplied fd p c applied q = if q = p then some c.type else applied q := by
  simp [noteApplied, h]

private theorem noteApplied_closed {fd : Int} (h : ¬fd > 0) (p : UInt32) (c : ConfigCom)
    (applied : UInt32 → Option UInt8) : noteApplied fd p c applied = applied := by
  funext q
  exact if_neg fun hboth => h hboth.1

theorem Follows.apply {d : Device} {applied : UInt32 → Option UInt8} (h : Follows d applied)
    (fd : Int) (p : UInt32) {c : ConfigCom} (hc : Typed c.type) :
    Follows (comParaSet d fd c).1 (noteApplied fd p c applied) := by
  by_cases hfd : fd > 0
  · constructor
    · intro q t hq
      rw [noteApplied_open hfd] at hq
      by_cases hqp : q = p
      · rw [if_pos hqp, Option.some.injEq] at hq
        exact hq ▸ hc
      · rw [if_neg hqp] at hq
        exact h.typed q t hq
    · intro _ _ _
      exact ⟨p, by rw [noteApplied_open hfd, if_pos rfl, comParaSet_open hfd]⟩
  · rw [noteApplied_closed hfd, comParaSet_closed hfd]
    exact h

theorem Follows.serve {s : Ports} (h : Follows s.dev s.applied) (x : Call) :
    Follows (serve s x).dev (serve s x).applied := by
  cases x with
  | comSet c typed => exact h.apply _ _ typed
  | comInit opened conf typed =>
      have hopen : Follows (comDevOpen { s.dev with conf := conf } opened) s.applied :=
        ⟨h.typed, h.last⟩
      have h0 := hopen.apply (opened 0) 0 (typed 0 (by decide))
      have h1 := h0.apply (opened 1) 1 (typed 1 (by decide))
      show Follows (comInit { s.dev with conf := conf } opened).1 _
      rw [comInit_eq]
      exact h1

private theorem follows_exec (d : Device) (calls : List Call) :
    Follows (exec serve (Ports.start d) calls).dev (exec serve (Ports.start d) calls).applied := by
  have hstart : Follows (Ports.start d).dev (Ports.start d).applied :=
    ⟨fun _ _ h => absurd h (Option.some_ne_none _).symm,
      fun _ _ h => absurd h (Option.some_ne_none _).symm⟩
  exact exec_under (I := fun s : Ports => Follows s.dev s.applied) (A := fun _ _ => True)
    (fun s x h _ => h.serve x) hstart (stepsSatisfy_of_forall (fun _ _ => trivial) _ calls)

/-- A type of line is known by whether it is `RS485`. -/
theorem Typed.eq_of_iff {t u : UInt8} (ht : Typed t) (hu : Typed u) (h : t = rs485 ↔ u = rs485) :
    t = u := by
  rcases ht with rfl | rfl
  · rcases hu with rfl | rfl
    · rfl
    · exact h.mpr rfl
  · exact (h.mp rfl).symm

/-- Each port is driven in its own mode exactly while the ports have all been set up with
one type. -/
theorem ownMode_iff (d : Device) (calls : List Call) :
    OwnMode (exec serve (Ports.start d) calls) ↔ OneType (exec serve (Ports.start d) calls) := by
  have hfollows := follows_exec d calls
  generalize exec serve (Ports.start d) calls = s at hfollows ⊢
  constructor
  · intro hown p q t u hp hq
    have hpath := (hown p t hp).2 []
    have hpath' := (hown q u hq).2 []
    rw [comProc_halfDuplex_iff] at hpath hpath'
    exact (hfollows.typed p t hp).eq_of_iff (hfollows.typed q u hq) (hpath.symm.trans hpath')
  · intro hone p t hp
    obtain ⟨q, hq⟩ := hfollows.last p t hp
    rw [hone p q t _ hp hq]
    exact ⟨fun env data => sendNetDataToCom_halfDuplex_iff env s.dev p data,
      fun data => comProc_halfDuplex_iff s.dev p data⟩

/-! ## Two lines of different types -/

/-- A configuration whose port 0 is an RS485 line and port 1 an RS232 line. -/
def mixedConf : Mem := store zero (comOff 0 + 18) rs485

/-- `com_init` on it, with both ports open. -/
def mixedInit : Call :=
  .comInit (fun i => 5 + i) mixedConf (by unfold Typed; decide)

/-- After `com_init` on it port 0 is driven as an RS232 line. -/
theorem mixed_not_ownMode :
    ¬OwnMode (exec serve (Ports.start (Device.start mixedConf)) [mixedInit]) := by
  intro h
  have happlied : (exec serve (Ports.start (Device.start mixedConf)) [mixedInit]).applied 0 =
      some rs485 := by decide
  have hpath := ((h 0 rs485 happlied).2 []).mpr rfl
  rw [comProc_halfDuplex_iff] at hpath
  exact absurd hpath (by decide)

end Itertk.Daemon.LineMode
