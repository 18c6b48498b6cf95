/-!
# Readers that take one element at a time

A reader takes the elements of a stream one by one and may stop at any of them.  It keeps
its state between two pieces of the stream, so that what it does with the stream does not
depend on where the stream was cut.

## Main results

* `scan_append_none`, `scan_append_some` — a reader goes on with the next piece, or has
  stopped in the one before.
-/

namespace Itertk.Base.Feed

variable {σ ρ α : Type} {feed : σ → α → σ × Option ρ}

/-- The state of the reader after a piece, what it stopped with, and what it left unread. -/
def scan (feed : σ → α → σ × Option ρ) (s : σ) : List α → σ × Option ρ × List α
  | [] => (s, none, [])
  | c :: cs =>
      match feed s c with
      | (s, none) => scan feed s cs
      | (s, some r) => (s, some r, cs)

theorem scan_cons_none {s s' : σ} {c : α} (h : feed s c = (s', none)) (cs : List α) :
    scan feed s (c :: cs) = scan feed s' cs := by
  rw [scan, h]

theorem scan_cons_some {s s' : σ} {c : α} {r : ρ} (h : feed s c = (s', some r)) (cs : List α) :
    scan feed s (c :: cs) = (s', some r, cs) := by
  rw [scan, h]

/-- A reader that does not stop reads everything. -/
theorem scan_rest {s s' : σ} {l rest : List α} (h : scan feed s l = (s', none, rest)) :
    rest = [] := by
  induction l generalizing s with
  | nil =>
      cases h
      rfl
  | cons c cs ih =>
      rcases hstep : feed s c with ⟨t, o⟩
      cases o with
      | none => exact ih ((scan_cons_none hstep cs).symm.trans h)
      | some r =>
          rw [scan_cons_some hstep] at h
          cases h

theorem scan_append_none {s s' : σ} {l rest : List α} (h : scan feed s l = (s', none, rest))
    (more : List α) : scan feed s (l ++ more) = scan feed s' more := by
  induction l generalizing s with
  | nil =>
      cases h
      rfl
  | cons c cs ih =>
      rcases hstep : feed s c with ⟨t, o⟩
      cases o with
      | none =>
          rw [scan_cons_none hstep] at h
          rw [List.cons_append, scan_cons_none hstep, ih h]
      | some r =>
          rw [scan_cons_some hstep] at h
          cases h

theorem scan_append_some {s s' : σ} {r : ρ} {l rest : List α}
    (h : scan feed s l = (s', some r, rest)) (more : List α) :
    scan feed s (l ++ more) = (s', some r, rest ++ more) := by
  induction l generalizing s with
  | nil => cases h
  | cons c cs ih =>
      rcases hstep : feed s c with ⟨t, o⟩
      cases o with
      | none =>
          rw [scan_cons_none hstep] at h
          rw [List.cons_append, scan_cons_none hstep, ih h]
      | some r' =>
          rw [scan_cons_some hstep] at h
          cases h
          rw [List.cons_append, scan_cons_some hstep]

end Itertk.Base.Feed
