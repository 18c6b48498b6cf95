import Mathlib.Data.List.Induction
import Mathlib.Data.List.Nodup

/-!
# Registers that events act on

Independent registers `κ`, each with a value, and events that act on every register by
itself.  `replay` is what a list of events, oldest first, makes of one register: the
sequential meaning of a log.

## Main results

* `sublist_split` — where an event stands in the schedule and in the log.
* `replay_last` — behind an event that only events follow which leave the register alone, the
  register holds what that event made of it.
-/

namespace Itertk.Base.Registers

variable {κ ν ε : Type} (effect : ε → κ → ν → ν)

/-- The value of register `k` after the events of a log. -/
def replay (log : List ε) (k : κ) (v : ν) : ν := log.foldl (fun v e => effect e k v) v

@[simp] theorem replay_nil (k : κ) (v : ν) : replay effect [] k v = v := rfl

@[simp] theorem replay_cons (e : ε) (log : List ε) (k : κ) (v : ν) :
    replay effect (e :: log) k v = replay effect log k (effect e k v) := rfl

theorem replay_append (log log' : List ε) (k : κ) (v : ν) :
    replay effect (log ++ log') k v = replay effect log' k (replay effect log k v) :=
  List.foldl_append

theorem replay_concat (log : List ε) (e : ε) (k : κ) (v : ν) :
    replay effect (log ++ [e]) k v = effect e k (replay effect log k v) :=
  replay_append effect log [e] k v

variable {effect}

/-- Events that leave the register alone do so one after the other. -/
theorem replay_idle {log : List ε} {k : κ} (h : ∀ e ∈ log, ∀ v, effect e k v = v) (v : ν) :
    replay effect log k v = v := by
  induction log generalizing v with
  | nil => rfl
  | cons e log ih =>
      rw [replay_cons, h e List.mem_cons_self]
      exact ih (fun e' he' => h e' (List.mem_cons_of_mem e he')) v

/-- The last event that does not leave the register alone decides. -/
theorem replay_last {log : List ε} {k : κ} (h : ∀ e ∈ log, ∀ v, effect e k v = v) (e : ε)
    (before : List ε) (v : ν) :
    replay effect (before ++ e :: log) k v = effect e k (replay effect before k v) := by
  rw [replay_append, replay_cons, replay_idle h]

/-! ## Orders

A log that lists events in the order of a schedule, and leaves some out.
-/

variable {ι : Type}

/-- Each once, in the order of the first occurrences. -/
def firsts [DecidableEq ι] (xs : List ι) : List ι :=
  xs.foldl (fun seen i => if i ∈ seen then seen else seen ++ [i]) []

theorem firsts_concat [DecidableEq ι] (xs : List ι) (i : ι) :
    firsts (xs ++ [i]) = if i ∈ firsts xs then firsts xs else firsts xs ++ [i] := by
  rw [firsts, List.foldl_append]
  rfl

theorem firsts_nodup [DecidableEq ι] (xs : List ι) : (firsts xs).Nodup := by
  induction xs using List.reverseRecOn with
  | nil => exact List.nodup_nil
  | append_singleton xs i ih =>
      rw [firsts_concat]
      split
      · exact ih
      · rename_i hi
        exact List.nodup_append.mpr ⟨ih, List.nodup_singleton i, fun a ha b hb hab =>
          hi (List.mem_singleton.mp hb ▸ hab ▸ ha)⟩

/-- An event of a schedule without repetitions splits a log of it as it splits the schedule. -/
theorem sublist_split {front rest before behind : List ι} {i : ι}
    (h : (front ++ i :: rest).Sublist (before ++ i :: behind))
    (hnodup : (before ++ i :: behind).Nodup) : front.Sublist before ∧ rest.Sublist behind := by
  obtain ⟨front', tail, heq, hfront, htail⟩ := List.sublist_append_iff.mp h
  obtain ⟨-, hbehind, hapart⟩ := List.nodup_append.mp hnodup
  have hbefore : i ∉ front' := fun hmem =>
    hapart i (hfront.subset hmem) i List.mem_cons_self rfl
  rcases List.sublist_cons_iff.mp htail with hskip | ⟨rest', rfl, hrest⟩
  · have hmem : i ∈ front' ++ tail := by
      rw [← heq]
      exact List.mem_append_right _ List.mem_cons_self
    exact absurd (hskip.subset ((List.mem_append.mp hmem).resolve_left hbefore))
      (List.nodup_cons.mp hbehind).1
  · have hrest' : i ∉ rest' := fun hmem => (List.nodup_cons.mp hbehind).1 (hrest.subset hmem)
    obtain ⟨rfl, -, rfl⟩ := (List.append_cons_inj_of_notMem hbefore hrest').mp heq.symm
    exact ⟨hfront, hrest⟩

end Itertk.Base.Registers
