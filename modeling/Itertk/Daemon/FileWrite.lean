import Mathlib.Algebra.GroupWithZero.Nat
import Mathlib.Tactic.ByContra
import Itertk.Daemon.State

/-!
# `sys_file_write`

`sys_file_write` repeats `fwrite` on what is left of the block until one call takes all of
it.  It looks at nothing but the count that `fwrite` returns, and a count of 0 leaves the
pointer and the rest as they are.  So on a full disk, or on a stream with an error, it
repeats the same call for ever: `FAILURE` is returned for missing arguments only, and
`config_save`, which would report it, does not return either.

`fwrite` takes no more than it is given, which is what makes a sequence of its results a
`Stream`.  A list of results is a run up to some moment: `none` is a routine that has not
returned by then.

## Main results

* `sysFileWrite_stream` — what the file holds after each call, and when `SUCCESS` comes.
* `sysFileWrite_returns_iff` — it returns exactly on a stream that does not die.
* `endsOnDeadStream_iff` — so a dead stream is never reported.
-/

namespace Itertk.Daemon.FileWrite

open Itertk.Base.Memory
open Itertk.Daemon.Layout

/-! ## The routine -/

/-- `SUCCESS` and `FAILURE`. -/
def success : Int := 1
def failure : Int := 0

/-- `while (1)`, with the results of `fwrite`; `file` is what the stream has accepted. -/
def loop (data : Mem) : List Nat → (file : List UInt8) → (pData count : Nat) →
    Option Int × List UInt8
  | [], file, _, _ => (none, file)
  | writeCnt :: rs, file, pData, count =>
      let file := file ++ slice data pData writeCnt
      if writeCnt = count then (some success, file)
      else loop data rs file (pData + writeCnt) (count - writeCnt)

/-- `sys_file_write(file_hd, data, count)`; `none` is a null pointer. -/
def sysFileWrite (results : List Nat) (fileHd : Option (List UInt8)) (data : Option Mem)
    (count : Nat) : Option Int × List UInt8 :=
  match fileHd, data with
  | some file, some m =>
      if count = 0 then (some failure, file) else loop m results file 0 count
  | fileHd, _ => (some failure, fileHd.getD [])

/-- The lines that `config_save` writes to the log. -/
inductive Line where
  /-- `open %s failed`. -/
  | openFailed
  /-- `write %s failed`. -/
  | writeFailed
  /-- `save configuration : %s`. -/
  | saveConfiguration
  deriving DecidableEq

/-- `config_save(pConf)`: the log it leaves when it returns, and the file.  Opening for
writing empties the file. -/
def configSave (opens : Bool) (results : List Nat) (pConf : Mem) :
    Option (List Line) × List UInt8 :=
  if opens then
    let r := sysFileWrite results (some []) (some pConf) confSize
    (r.1.map fun ret =>
      (if ret ≠ success then [.writeFailed] else []) ++ [.saveConfiguration], r.2)
  else (some [.openFailed], [])

/-! ## Streams -/

/-- The results of the first `k` calls. -/
def first (result : Nat → Nat) (k : Nat) : List Nat := (List.range k).map result

/-- The results of `fwrite` on a stream, while a block of `count` bytes is written: each
call takes at most what the earlier ones have left. -/
structure Stream (count : Nat) where
  result : Nat → Nat
  within : ∀ k, result k ≤ count - (first result k).sum

namespace Stream

variable {count : Nat}

/-- The bytes taken by the first `k` calls. -/
def taken (s : Stream count) (k : Nat) : Nat := (first s.result k).sum

/-- From some call on nothing more is accepted, and there are bytes left. -/
def Dies (s : Stream count) : Prop :=
  ∃ k, (∀ j, k ≤ j → s.result j = 0) ∧ s.taken k < count

private theorem taken_succ (s : Stream count) (k : Nat) :
    s.taken (k + 1) = s.taken k + s.result k := by
  simp [taken, first, List.range_succ]

private theorem taken_le (s : Stream count) (k : Nat) : s.taken k ≤ count := by
  induction k with
  | zero => exact Nat.zero_le _
  | succ k ih =>
      have hk : s.result k ≤ count - s.taken k := s.within k
      rw [taken_succ]
      omega

private theorem taken_mono (s : Stream count) {j k : Nat} (h : j ≤ k) : s.taken j ≤ s.taken k := by
  induction h with
  | refl => exact Nat.le_refl _
  | step _ ih =>
      rw [taken_succ]
      omega

/-- A stream that accepts nothing from call `k` on stays where it is. -/
theorem taken_dead (s : Stream count) {k : Nat} (hdead : ∀ j, k ≤ j → s.result j = 0)
    {n : Nat} (h : k ≤ n) : s.taken n = s.taken k := by
  induction h with
  | refl => rfl
  | step hle ih => rw [taken_succ, ih, hdead _ hle, Nat.add_zero]

/-- As long as a stream does not die it takes one more byte after finitely many calls, so
it takes any number of them up to the whole block. -/
theorem reaches (s : Stream count) (halive : ¬s.Dies) {n : Nat} (hn : n ≤ count) :
    ∃ k, n ≤ s.taken k := by
  induction n with
  | zero => exact ⟨0, Nat.zero_le _⟩
  | succ n ih =>
      obtain ⟨k, hk⟩ := ih (by omega)
      by_cases hmore : n + 1 ≤ s.taken k
      · exact ⟨k, hmore⟩
      · have hwake : ∃ j, k ≤ j ∧ s.result j ≠ 0 := by
          by_contra hnone
          refine halive ⟨k, fun j hj => ?_, by omega⟩
          by_contra hj0
          exact hnone ⟨j, hj, hj0⟩
        obtain ⟨j, hj, hj0⟩ := hwake
        have hmono := s.taken_mono hj
        refine ⟨j + 1, ?_⟩
        rw [taken_succ]
        omega

/-- A stream dies, or the whole block is taken. -/
theorem dies_iff (s : Stream count) : s.Dies ↔ ∀ k, s.taken k < count := by
  constructor
  · rintro ⟨k, hdead, hlt⟩ n
    rcases Nat.le_total k n with hkn | hnk
    · rw [s.taken_dead hdead hkn]
      exact hlt
    · exact Nat.lt_of_le_of_lt (s.taken_mono hnk) hlt
  · intro hall
    by_contra halive
    obtain ⟨k, hk⟩ := s.reaches halive (Nat.le_refl count)
    exact absurd (hall k) (Nat.not_lt.mpr hk)

end Stream

/-! ## Runs of the routine -/

variable {count : Nat}

/-- The loop on results that take no more than the rest.  The induction is on the results;
what one call takes and what the later ones take are one piece of the block. -/
theorem loop_eq (data : Mem) {rs : List Nat} (file : List UInt8) (pData : Nat)
    (hpos : 0 < count) (hle : rs.sum ≤ count) : loop data rs file pData count =
      (if rs.sum = count then some success else none, file ++ slice data pData rs.sum) := by
  induction rs generalizing file pData count with
  | nil =>
      have hne : ([] : List Nat).sum ≠ count := by
        rw [List.sum_nil]
        omega
      rw [loop, if_neg hne, List.sum_nil, slice_zero, List.append_nil]
  | cons r rs ih =>
      rw [List.sum_cons] at hle ⊢
      rw [loop]
      by_cases hr : r = count
      · have hrest : rs.sum = 0 := by omega
        rw [if_pos hr, hrest, Nat.add_zero, if_pos hr]
      · rw [if_neg hr, ih _ _ (by omega) (by omega), List.append_assoc, ← slice_add]
        have hiff : rs.sum = count - r ↔ r + rs.sum = count := by omega
        rw [if_congr hiff rfl rfl]

/-- After `k` calls the file holds what they have taken, in order; `SUCCESS` comes with the
last byte. -/
theorem sysFileWrite_stream (s : Stream count) (hpos : 0 < count) (file : List UInt8)
    (data : Mem) (k : Nat) :
    sysFileWrite (first s.result k) (some file) (some data) count =
      (if s.taken k = count then some success else none, file ++ slice data 0 (s.taken k)) := by
  rw [sysFileWrite, if_neg (by omega)]
  exact loop_eq data file 0 hpos (s.taken_le k)

/-- The routine returns after some call. -/
def Returns (s : Stream count) (file : List UInt8) (data : Mem) : Prop :=
  ∃ k ret, (sysFileWrite (first s.result k) (some file) (some data) count).1 = some ret

/-- It returns exactly on the streams that do not die. -/
theorem sysFileWrite_returns_iff (s : Stream count) (hpos : 0 < count) (file : List UInt8)
    (data : Mem) : Returns s file data ↔ ¬s.Dies := by
  rw [s.dies_iff]
  constructor
  · rintro ⟨k, ret, hret⟩ hall
    rw [sysFileWrite_stream s hpos, if_neg (Nat.ne_of_lt (hall k))] at hret
    cases hret
  · intro hsome
    obtain ⟨k, hk⟩ := not_forall.mp hsome
    have hfull : s.taken k = count := Nat.le_antisymm (s.taken_le k) (Nat.not_lt.mp hk)
    exact ⟨k, success, by rw [sysFileWrite_stream s hpos, if_pos hfull]⟩

/-- On a stream that does not die, `config_save` leaves the file that a save on a writable
file leaves, and logs no failure. -/
theorem configSave_saves (s : Stream confSize) (halive : ¬s.Dies) (d : State.Device)
    (conf : Mem) : ∃ k, configSave true (first s.result k) conf =
      (some [.saveConfiguration], (State.configSave d conf).saved) := by
  rw [s.dies_iff] at halive
  obtain ⟨k, hk⟩ := not_forall.mp halive
  have hfull : s.taken k = confSize := Nat.le_antisymm (s.taken_le k) (Nat.not_lt.mp hk)
  refine ⟨k, ?_⟩
  have hpos : 0 < confSize := by decide
  rw [configSave, if_pos rfl, sysFileWrite_stream s hpos, if_pos hfull, hfull,
    State.configSave_saved]
  simp

/-! ## Dead streams -/

/-- `SUCCESS` means that the whole block has been accepted, in order and once; on a stream
that dies the routine returns `FAILURE`, and a `config_save` on it logs the failure. -/
structure EndsOnDeadStream (s : Stream count) (file : List UInt8) (data : Mem) : Prop where
  all : ∀ k file', sysFileWrite (first s.result k) (some file) (some data) count =
    (some success, file') → file' = file ++ slice data 0 count
  dead : s.Dies → ∃ k file', sysFileWrite (first s.result k) (some file) (some data) count =
    (some failure, file')
  reported : s.Dies → count = confSize → ∃ k log, .writeFailed ∈ log ∧
    (configSave true (first s.result k) data).1 = some log

/-- Whatever the stream does, `SUCCESS` is the truth. -/
theorem sysFileWrite_all (s : Stream count) (hpos : 0 < count) {file file' : List UInt8}
    {data : Mem} {k : Nat} (h : sysFileWrite (first s.result k) (some file) (some data) count =
      (some success, file')) : file' = file ++ slice data 0 count := by
  rw [sysFileWrite_stream s hpos] at h
  by_cases hk : s.taken k = count
  · rw [hk] at h
    exact (congrArg Prod.snd h).symm
  · rw [if_neg hk] at h
    cases h

/-- The routine never returns on a stream that dies. -/
theorem dead_never_returns (s : Stream count) (hpos : 0 < count) (hdead : s.Dies)
    (file : List UInt8) (data : Mem) : ¬Returns s file data := fun h =>
  (sysFileWrite_returns_iff s hpos file data).mp h hdead

/-- The failure is reported exactly where there is none to report: when the stream does not
die. -/
theorem endsOnDeadStream_iff (s : Stream count) (hpos : 0 < count) (file : List UInt8)
    (data : Mem) : EndsOnDeadStream s file data ↔ ¬s.Dies := by
  constructor
  · intro h hdead
    obtain ⟨k, file', hret⟩ := h.dead hdead
    exact dead_never_returns s hpos hdead file data ⟨k, failure, by rw [hret]⟩
  · intro halive
    exact ⟨fun _ _ h => sysFileWrite_all s hpos h, fun h => absurd h halive,
      fun h => absurd h halive⟩

/-- The stream of a full disk: it accepts nothing. -/
def fullDisk (count : Nat) : Stream count := ⟨fun _ => 0, fun _ => Nat.zero_le _⟩

private theorem fullDisk_dies (hpos : 0 < count) : (fullDisk count).Dies :=
  ⟨0, fun _ _ => rfl, hpos⟩

/-- A stream that takes the block at once. -/
def healthy (count : Nat) : Stream count where
  result k := if k = 0 then count else 0
  within k := by
    by_cases hk : k = 0
    · subst hk
      exact Nat.le_refl _
    · rw [if_neg hk]
      exact Nat.zero_le _

private theorem healthy_alive (count : Nat) : ¬(healthy count).Dies := by
  rw [Stream.dies_iff]
  intro hall
  have h := hall 1
  simp [Stream.taken, first, healthy] at h

/-- One block on a healthy disk and one on a full disk. -/
theorem endsOnDeadStream_iff_disks :
    EndsOnDeadStream (healthy confSize) [] zero ∧
      ¬EndsOnDeadStream (fullDisk confSize) [] zero :=
  ⟨(endsOnDeadStream_iff _ (by decide) [] zero).mpr (healthy_alive confSize),
    fun h => (endsOnDeadStream_iff _ (by decide) [] zero).mp h (fullDisk_dies (by decide))⟩

/-- The configuration, on a full disk: there is no end to the save. -/
theorem configSave_fullDisk :
    (fullDisk confSize).Dies ∧ ¬Returns (fullDisk confSize) [] zero ∧
      ¬EndsOnDeadStream (fullDisk confSize) [] zero := by
  have hpos : 0 < confSize := by decide
  have hdead := fullDisk_dies hpos
  have hstuck := dead_never_returns (fullDisk confSize) hpos hdead [] zero
  refine ⟨hdead, hstuck, fun h => ?_⟩
  obtain ⟨k, file', hret⟩ := h.dead hdead
  exact hstuck ⟨k, failure, by rw [hret]⟩

end Itertk.Daemon.FileWrite
