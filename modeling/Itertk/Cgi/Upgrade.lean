import Mathlib.Tactic.ByContra
import Itertk.Cgi.NetForm

/-!
# The firmware upload

`upgrade.cgi` copies an uploaded archive to the flash and installs what it finds there.  The
copy reads blocks until the end of the file, but takes the length of each write from a
counter that starts as the size of the upload.  The two agree because every block but the
last is full.

Neither `open` nor `write` is looked at, and `writeFile` returns 0 behind the loop whatever
came of it.  So on a full flash the archive is extracted as far as it was written, and when
the target cannot be opened the archive of an earlier upload is.

## Main results

* `copy_eq_iff` — the copy is the upload exactly when every write takes all that it is
  given.
* `writeFile_exact` — an upload whose writes succeed is copied exactly.
* `failsClosed_iff` — when a failed copy is not installed.
-/

namespace Itertk.Cgi.Upgrade

open Itertk.Base.Memory
open Itertk.Daemon.Config
open Itertk.Cgi.Session
open Itertk.Cgi.NetForm (cgiFormEntryFindFirst)

/-! ## The upload, as the CGI library hands it out -/

/-- A field of the form.  The bytes of an uploaded file are in a temporary file. -/
structure Entry where
  attr : List UInt8
  fileName : List UInt8
  valueLength : Nat
  tfileName : List UInt8

/-- The results of the library that matter here. -/
inductive FormResult where
  | success
  | notFound
  | noFileName
  | truncated
  | notAFile
  | memory
  | openFailed
  deriving DecidableEq

/-- `cgiFormFileName(name, result, resultSpace)`. -/
def cgiFormFileName (form : List Entry) (name : List UInt8) (resultSpace : Nat) :
    FormResult × List UInt8 :=
  match cgiFormEntryFindFirst Entry.attr form name with
  | none => (.notFound, [])
  | some e =>
      (if e.fileName = [] then .noFileName
        else if resultSpace - 1 < e.fileName.length then .truncated
        else .success, e.fileName.take (resultSpace - 1))

/-- `cgiFormFileSize(name, sizeP)`: the size that it stores. -/
def cgiFormFileSize (form : List Entry) (name : List UInt8) : Nat :=
  match cgiFormEntryFindFirst Entry.attr form name with
  | none => 0
  | some e => if e.tfileName = [] then 0 else e.valueLength

/-- `cgiFormFileOpen(name, cfpp)`: the bytes still to read.  `malloc` is whether there is
memory for the handle. -/
def cgiFormFileOpen (files : Files) (malloc : Bool) (form : List Entry) (name : List UInt8) :
    Except FormResult (List UInt8) :=
  match cgiFormEntryFindFirst Entry.attr form name with
  | none => .error .notFound
  | some e =>
      if e.tfileName = [] then .error .notAFile
      else if malloc = false then .error .memory
      else
        match files e.tfileName with
        | none => .error .openFailed
        | some bytes => .ok bytes

/-- `cgiFormFileRead(cfp, buffer, bufferSize, gotP)`: what `fread` gets and what it leaves;
`none` is `cgiFormEOF`. -/
def cgiFormFileRead (stream : List UInt8) (bufferSize : Nat) :
    Option (List UInt8 × List UInt8) :=
  if stream.take bufferSize = [] then none
  else some (stream.take bufferSize, stream.drop bufferSize)

/-! ## The program -/

/-- `UPDATE_FILE_LEN_MAX`. -/
def updateFileLenMax : Nat := 8 * 1024 * 1024

/-- `sizeof(buffer)`. -/
def bufferSize : Nat := 1024

/-- `"upfile"`. -/
def upfile : List UInt8 := chars ['u', 'p', 'f', 'i', 'l', 'e']

/-- `"nand1-2.tar.gz"`. -/
def archiveName : List UInt8 :=
  chars ['n', 'a', 'n', 'd', '1', '-', '2', '.', 't', 'a', 'r', '.', 'g', 'z']

/-- What the program finds when it runs. -/
structure World where
  /-- The files of the session and the temporary files. -/
  files : Files
  addr : RemoteAddr
  form : List Entry
  malloc : Bool
  /-- `open(file, O_WRONLY | O_CREAT | O_TRUNC)` succeeds. -/
  opens : Bool
  /-- The result of each `write` to the target: -1, or how many bytes it takes. -/
  writes : Nat → Int
  /-- The target file before. -/
  target : Option (List UInt8)

/-- `write(fd, block, n)`: what the `k`-th call adds to the file. -/
def accepts (writes : Nat → Int) (k : Nat) (block : List UInt8) : List UInt8 :=
  block.take (writes k).toNat

/-- A read takes something from the stream. -/
theorem cgiFormFileRead_drop {stream got rest : List UInt8}
    (h : cgiFormFileRead stream bufferSize = some (got, rest)) : rest.length < stream.length := by
  unfold cgiFormFileRead at h
  by_cases hnil : stream.take bufferSize = []
  · rw [if_pos hnil] at h
    cases h
  · rw [if_neg hnil] at h
    cases h
    have hpos := List.length_pos_iff.mpr hnil
    rw [List.length_take] at hpos
    rw [List.length_drop]
    unfold bufferSize at *
    omega

/-- `while (cgiFormFileRead(...) == cgiFormSuccess)`: what the writes from the `k`-th on add
to the file. -/
def copy (writes : Nat → Int) (k : Nat) (stream : List UInt8) (buffer : Mem) (size : Nat) :
    List UInt8 :=
  match _h : cgiFormFileRead stream bufferSize with
  | none => []
  | some (got, rest) =>
      let buffer := blit buffer 0 got
      if size < bufferSize then accepts writes k (slice buffer 0 size)
      else accepts writes k (slice buffer 0 bufferSize) ++
        copy writes (k + 1) rest buffer (size - bufferSize)
termination_by stream.length
decreasing_by exact cgiFormFileRead_drop _h

/-- `writeFile(file)`: the value it returns and the target file it leaves. -/
def writeFile (x : World) : Int × Option (List UInt8) :=
  let name := cgiFormFileName x.form upfile 128
  if name.1 ≠ .success then (-1, x.target)
  else if name.2 ≠ archiveName then (-1, x.target)
  else
    let size := cgiFormFileSize x.form upfile
    if size > updateFileLenMax then (-1, x.target)
    else
      match cgiFormFileOpen x.files x.malloc x.form upfile with
      | .error _ => (-1, x.target)
      | .ok stream =>
          -- A descriptor of -1 takes no byte of any write.
          (0, if x.opens then some (copy x.writes 0 stream zero size) else x.target)

/-- What the program has the system do. -/
inductive Call where
  /-- `system("/sbin/reboot -d 30 &")`. -/
  | scheduleReboot
  /-- `system("/bin/tar -xzf ...")`. -/
  | extract
  /-- `reboot(LINUX_REBOOT_CMD_RESTART)`. -/
  | reboot
  deriving DecidableEq

/-- `cgiFormSubmitClicked(name) == cgiFormSuccess`. -/
def clicked (form : List Entry) (name : List UInt8) : Bool :=
  (cgiFormEntryFindFirst Entry.attr form name).isSome

/-- `cgiMain`. -/
def cgiMain (x : World) : List Call × Option (List UInt8) :=
  match sessionUser x.files x.addr with
  | none => ([], x.target)
  | some _ =>
      if clicked x.form (chars ['u', 'p', 'g', 'r', 'a', 'd', 'e']) then
        let ret := writeFile x
        (if ret.1 = 0 then [.scheduleReboot, .extract] else [], ret.2)
      else if clicked x.form (chars ['r', 'e', 'b', 'o', 'o', 't']) then ([.reboot], x.target)
      else ([], x.target)

/-! ## The copy -/

/-- Every write takes all that it is given, from the `k`-th on, when `n` bytes are to be
copied. -/
def Complete (writes : Nat → Int) (k n : Nat) : Prop :=
  ∀ j, bufferSize * j < n → min bufferSize (n - bufferSize * j) ≤ (writes (k + j)).toNat

private theorem accepts_length (writes : Nat → Int) (k : Nat) (block : List UInt8) :
    (accepts writes k block).length ≤ block.length := by
  rw [accepts, List.length_take]
  exact Nat.min_le_right _ _

/-- A write takes its whole block exactly when its result is large enough. -/
theorem accepts_eq_iff (writes : Nat → Int) (k : Nat) (block : List UInt8) :
    accepts writes k block = block ↔ block.length ≤ (writes k).toNat := by
  constructor
  · intro h
    have hlen := congrArg List.length h
    rw [accepts, List.length_take] at hlen
    omega
  · exact List.take_of_length_le

/-- One read of a stream that has not ended. -/
theorem cgiFormFileRead_some {stream : List UInt8} (h : stream ≠ []) :
    cgiFormFileRead stream bufferSize =
      some (stream.take bufferSize, stream.drop bufferSize) := by
  have hne : stream.take bufferSize ≠ [] := by
    intro hnil
    rcases List.take_eq_nil_iff.mp hnil with h0 | hs
    · exact absurd h0 (by decide)
    · exact h hs
  rw [cgiFormFileRead, if_neg hne]

private theorem copy_nil (writes : Nat → Int) (k : Nat) (buffer : Mem) (size : Nat) :
    copy writes k [] buffer size = [] := by
  rw [copy]
  rfl

/-- The last block: the size is what is left of the stream. -/
theorem copy_last (writes : Nat → Int) (k : Nat) {stream : List UInt8} (hne : stream ≠ [])
    (hlt : stream.length < bufferSize) (buffer : Mem) :
    copy writes k stream buffer stream.length = accepts writes k stream := by
  have hread := cgiFormFileRead_some hne
  rw [List.take_of_length_le (Nat.le_of_lt hlt)] at hread
  rw [copy]
  split
  · next hnone => rw [hread] at hnone; cases hnone
  · next got rest hsome =>
      rw [hread] at hsome
      cases hsome
      rw [if_pos hlt, slice_blit_self]

/-- A full block: the buffer holds just the block, and size and stream go down together. -/
theorem copy_block (writes : Nat → Int) (k : Nat) {stream : List UInt8}
    (hle : bufferSize ≤ stream.length) (buffer : Mem) :
    copy writes k stream buffer stream.length =
      accepts writes k (stream.take bufferSize) ++
        copy writes (k + 1) (stream.drop bufferSize) (blit buffer 0 (stream.take bufferSize))
          (stream.drop bufferSize).length := by
  have hne : stream ≠ [] := by
    rintro rfl
    exact absurd hle (by decide)
  have hblock : (stream.take bufferSize).length = bufferSize := by
    rw [List.length_take]
    omega
  have hread := cgiFormFileRead_some hne
  rw [copy]
  split
  · next hnone => rw [hread] at hnone; cases hnone
  · next got rest hsome =>
      rw [hread] at hsome
      cases hsome
      have hbuffer : slice (blit buffer 0 (stream.take bufferSize)) 0 bufferSize =
          stream.take bufferSize := by
        have h := slice_blit_self buffer 0 (stream.take bufferSize)
        rw [hblock] at h
        exact h
      rw [if_neg (Nat.not_lt.mpr hle), hbuffer, List.length_drop]

/-- Nothing is copied that was not uploaded.  The induction is on the number of blocks. -/
theorem copy_length (writes : Nat → Int) (k : Nat) (stream : List UInt8) (buffer : Mem) :
    (copy writes k stream buffer stream.length).length ≤ stream.length := by
  induction hn : stream.length using Nat.strongRecOn generalizing k stream buffer with
  | ind n ih =>
      subst hn
      by_cases hne : stream = []
      · exact Nat.le_of_eq (by rw [hne, copy_nil])
      by_cases hlt : stream.length < bufferSize
      · rw [copy_last writes k hne hlt]
        exact accepts_length writes k stream
      · have hle := Nat.not_lt.mp hlt
        have hdrop : (stream.drop bufferSize).length = stream.length - bufferSize :=
          List.length_drop
        have hpos : 0 < bufferSize := by decide
        have hrest := ih _ (by omega) (k + 1) (stream.drop bufferSize)
          (blit buffer 0 (stream.take bufferSize)) rfl
        have hblock := accepts_length writes k (stream.take bufferSize)
        rw [copy_block writes k hle, List.length_append]
        rw [List.length_take] at hblock
        omega

private theorem complete_zero (writes : Nat → Int) (k : Nat) : Complete writes k 0 :=
  fun _ h => absurd h (Nat.not_lt_zero _)

private theorem complete_last (writes : Nat → Int) (k : Nat) {n : Nat} (hpos : 0 < n)
    (hlt : n < bufferSize) : Complete writes k n ↔ n ≤ (writes k).toNat := by
  unfold Complete bufferSize at *
  constructor
  · intro h
    have h0 := h 0 (by omega)
    rw [Nat.add_zero] at h0
    omega
  · intro h j hj
    obtain rfl : j = 0 := by omega
    rw [Nat.add_zero]
    omega

private theorem complete_block (writes : Nat → Int) (k : Nat) {n : Nat} (hle : bufferSize ≤ n) :
    Complete writes k n ↔
      bufferSize ≤ (writes k).toNat ∧ Complete writes (k + 1) (n - bufferSize) := by
  unfold Complete bufferSize at *
  constructor
  · intro h
    refine ⟨?_, fun j hj => ?_⟩
    · have h0 := h 0 (by omega)
      rw [Nat.add_zero] at h0
      omega
    · have hj' := h (j + 1) (by omega)
      rw [show k + 1 + j = k + (j + 1) by omega]
      omega
  · rintro ⟨h0, hrest⟩ j hj
    cases j with
    | zero =>
        rw [Nat.add_zero]
        omega
    | succ j =>
        have hj' := hrest j (by omega)
        rw [show k + (j + 1) = k + 1 + j by omega]
        omega

/-- The copy is the upload exactly when no write is short.  A short write loses bytes, and
no later one makes up for them. -/
theorem copy_eq_iff (writes : Nat → Int) (k : Nat) (stream : List UInt8) (buffer : Mem) :
    copy writes k stream buffer stream.length = stream ↔ Complete writes k stream.length := by
  induction hn : stream.length using Nat.strongRecOn generalizing k stream buffer with
  | ind n ih =>
      subst hn
      by_cases hne : stream = []
      · subst hne
        exact iff_of_true (copy_nil writes k buffer _) (complete_zero writes k)
      by_cases hlt : stream.length < bufferSize
      · rw [copy_last writes k hne hlt, accepts_eq_iff,
          complete_last writes k (List.length_pos_iff.mpr hne) hlt]
      · have hle := Nat.not_lt.mp hlt
        have hdrop : (stream.drop bufferSize).length = stream.length - bufferSize :=
          List.length_drop
        have hblock : (stream.take bufferSize).length = bufferSize := by
          rw [List.length_take]
          omega
        have hpos : 0 < bufferSize := by decide
        have hrest := ih _ (by omega) (k + 1) (stream.drop bufferSize)
          (blit buffer 0 (stream.take bufferSize)) rfl
        have hfirst := accepts_eq_iff writes k (stream.take bufferSize)
        rw [hblock] at hfirst
        rw [copy_block writes k hle, complete_block writes k hle, ← hdrop, ← hrest, ← hfirst]
        constructor
        · intro h
          have hcut := h.trans (List.take_append_drop bufferSize stream).symm
          have hshort := accepts_length writes k (stream.take bufferSize)
          have hcopied := copy_length writes (k + 1) (stream.drop bufferSize)
            (blit buffer 0 (stream.take bufferSize))
          have hlen := congrArg List.length hcut
          rw [List.length_append, List.length_append] at hlen
          exact List.append_inj hcut (by omega)
        · rintro ⟨hthis, hthen⟩
          rw [hthis, hthen, List.take_append_drop]

/-! ## The result -/

/-- The form carries a file `content` that the library hands out: its entry is the first of
that name, and the parser has counted its bytes. -/
structure Uploaded (x : World) (e : Entry) (content : List UInt8) : Prop where
  entry : cgiFormEntryFindFirst Entry.attr x.form upfile = some e
  isFile : e.tfileName ≠ []
  temporary : x.files e.tfileName = some content
  counted : e.valueLength = content.length

/-- The checks before the target is opened. -/
def Admitted (x : World) (e : Entry) (content : List UInt8) : Prop :=
  e.fileName = archiveName ∧ content.length ≤ updateFileLenMax ∧ x.malloc = true

variable {x : World} {e : Entry} {content : List UInt8}

private theorem cgiFormFileSize_uploaded (h : Uploaded x e content) :
    cgiFormFileSize x.form upfile = content.length := by
  rw [cgiFormFileSize, h.entry]
  dsimp only
  rw [if_neg h.isFile, h.counted]

/-- The file is opened unless there is no memory for the stream. -/
theorem cgiFormFileOpen_uploaded (h : Uploaded x e content) :
    cgiFormFileOpen x.files x.malloc x.form upfile =
      if x.malloc = false then .error .memory else .ok content := by
  rw [cgiFormFileOpen, h.entry]
  dsimp only
  rw [if_neg h.isFile, h.temporary]

theorem writeFile_admitted (h : Uploaded x e content) (hadmitted : Admitted x e content) :
    writeFile x = (0, if x.opens then some (copy x.writes 0 content zero content.length)
      else x.target) := by
  obtain ⟨hname, hsize, hmalloc⟩ := hadmitted
  have hfileName : cgiFormFileName x.form upfile 128 = (.success, archiveName) := by
    rw [cgiFormFileName, h.entry]
    dsimp only
    rw [hname]
    decide
  have hopen := cgiFormFileOpen_uploaded h
  rw [if_neg (by rw [hmalloc]; decide)] at hopen
  unfold writeFile
  simp only [hfileName, cgiFormFileSize_uploaded h, hopen]
  rw [if_neg (by decide), if_neg (by decide), if_neg (Nat.not_lt.mpr hsize)]

/-- A name that fits is handed out as it is. -/
theorem cgiFormFileName_success (h : Uploaded x e content) {space : Nat}
    (hok : (cgiFormFileName x.form upfile space).1 = .success) :
    (cgiFormFileName x.form upfile space).2 = e.fileName := by
  rw [cgiFormFileName, h.entry] at hok ⊢
  dsimp only at hok ⊢
  by_cases hnone : e.fileName = []
  · rw [if_pos hnone] at hok
    cases hok
  · rw [if_neg hnone] at hok
    by_cases hlong : space - 1 < e.fileName.length
    · rw [if_pos hlong] at hok
      cases hok
    · exact List.take_of_length_le (Nat.not_lt.mp hlong)

/-- Everything else is refused before the target is touched. -/
theorem writeFile_refused (h : Uploaded x e content) (hrefused : ¬Admitted x e content) :
    writeFile x = (-1, x.target) := by
  unfold writeFile
  simp only [cgiFormFileSize_uploaded h]
  by_cases hok : (cgiFormFileName x.form upfile 128).1 = .success
  · rw [if_neg (not_not_intro hok)]
    by_cases hname : (cgiFormFileName x.form upfile 128).2 = archiveName
    · rw [if_neg (not_not_intro hname)]
      by_cases hsize : content.length > updateFileLenMax
      · rw [if_pos hsize]
      · rw [if_neg hsize]
        have hfile := (cgiFormFileName_success h hok).symm.trans hname
        have hmalloc : x.malloc = false := by
          cases hm : x.malloc with
          | false => rfl
          | true => exact absurd ⟨hfile, Nat.not_lt.mp hsize, hm⟩ hrefused
        rw [cgiFormFileOpen_uploaded h, if_pos hmalloc]
    · rw [if_pos hname]
  · rw [if_pos hok]

/-- The firmware upload is copied exactly, whatever its length. -/
theorem writeFile_exact (h : Uploaded x e content) (hadmitted : Admitted x e content)
    (hopens : x.opens = true) (hwrites : Complete x.writes 0 content.length) :
    writeFile x = (0, some content) := by
  rw [writeFile_admitted h hadmitted, hopens, if_pos rfl,
    (copy_eq_iff x.writes 0 content zero).mpr hwrites]

/-- `"/tmp/cgic"`, as the name of a temporary file. -/
def someTemporary : List UInt8 := chars ['/', 't', 'm', 'p', '/', 'c', 'g', 'i', 'c']

/-- An upload of three bytes. -/
def someArchive : List UInt8 := [0x1f, 0x8b, 0x08]

/-- Its entry in the form. -/
def someEntry : Entry := ⟨upfile, archiveName, 3, someTemporary⟩

/-- The upload of `someArchive`, when each write to the target has the result `r`. -/
def someUpload (opens : Bool) (r : Int) (target : Option (List UInt8)) : World where
  files path :=
    if path = someTemporary then some someArchive else login boot ⟨localhost, operator⟩ path
  addr := localhost
  form := [someEntry, ⟨chars ['u', 'p', 'g', 'r', 'a', 'd', 'e'], [], 0, []⟩]
  malloc := true
  opens := opens
  writes := fun _ => r
  target := target

private theorem uploaded_someUpload (opens : Bool) (r : Int) (target : Option (List UInt8)) :
    Uploaded (someUpload opens r target) someEntry someArchive where
  entry := by
    show List.find? _ _ = _
    rw [someUpload, List.find?_cons_of_pos (by decide)]
  isFile := by decide
  temporary := by simp [someUpload, someEntry]
  counted := rfl

private theorem admitted_someUpload (opens : Bool) (r : Int) (target : Option (List UInt8)) :
    Admitted (someUpload opens r target) someEntry someArchive :=
  ⟨rfl, by decide, rfl⟩

private theorem complete_someUpload {r : Int} :
    Complete (fun _ => r) 0 someArchive.length ↔ 3 ≤ r.toNat :=
  complete_last (fun _ => r) 0 (by decide) (by decide)

/-- An archive of two blocks and a part of a third. -/
def manyBlocks : List UInt8 :=
  List.replicate 1024 1 ++ (List.replicate 1024 2 ++ List.replicate 452 3)

private theorem manyBlocks_length : manyBlocks.length = 2500 := by
  simp only [manyBlocks, List.length_append, List.length_replicate]

/-- Its upload, to a target that takes each block. -/
def blocksUpload : World where
  files path := if path = someTemporary then some manyBlocks else none
  addr := localhost
  form := [⟨chars ['u', 'p', 'g', 'r', 'a', 'd', 'e'], [], 0, []⟩,
    ⟨upfile, archiveName, 2500, someTemporary⟩]
  malloc := true
  opens := true
  writes k := if k < 2 then 1024 else 452
  target := some [0]

theorem writeFile_exact_blocksUpload :
    Complete blocksUpload.writes 0 manyBlocks.length ∧
      writeFile blocksUpload = (0, some manyBlocks) := by
  have hwrites : Complete blocksUpload.writes 0 manyBlocks.length := by
    rw [manyBlocks_length]
    intro j hj
    simp only [bufferSize] at hj
    have hthree : j = 0 ∨ j = 1 ∨ j = 2 := by omega
    rcases hthree with rfl | rfl | rfl
    · decide
    · decide
    · decide
  have huploaded : Uploaded blocksUpload ⟨upfile, archiveName, 2500, someTemporary⟩ manyBlocks := by
    refine ⟨?_, by decide, by simp [blocksUpload], manyBlocks_length.symm⟩
    show List.find? _ _ = _
    rw [blocksUpload, List.find?_cons_of_neg (by decide), List.find?_cons_of_pos (by decide)]
  have hsize : manyBlocks.length ≤ updateFileLenMax := by
    rw [manyBlocks_length]
    decide
  exact ⟨hwrites, writeFile_exact huploaded ⟨rfl, hsize, rfl⟩ rfl hwrites⟩

/-! ## Failed copies -/

/-- A copy that is not the upload is reported, and nothing is installed. -/
structure FailsClosed (x : World) (content : List UInt8) : Prop where
  reported : (writeFile x).2 ≠ some content → (writeFile x).1 ≠ 0
  notInstalled : (writeFile x).2 ≠ some content →
    clicked x.form (chars ['u', 'p', 'g', 'r', 'a', 'd', 'e']) = true →
    .extract ∉ (cgiMain x).1 ∧ .scheduleReboot ∉ (cgiMain x).1

/-- The upload is refused before the target is opened; or the target is opened and takes
all of every write; or it is not opened and holds the very same bytes already. -/
def Survives (x : World) (e : Entry) (content : List UInt8) : Prop :=
  Admitted x e content →
    if x.opens then Complete x.writes 0 content.length else x.target = some content

/-- An upload that `writeFile` reports is not installed. -/
theorem cgiMain_reported (hret : (writeFile x).1 ≠ 0)
    (hclicked : clicked x.form (chars ['u', 'p', 'g', 'r', 'a', 'd', 'e']) = true) :
    (cgiMain x).1 = [] := by
  unfold cgiMain
  cases sessionUser x.files x.addr with
  | none => rfl
  | some user =>
      dsimp only
      rw [if_pos hclicked]
      exact if_neg hret

/-- What the target holds in the end, against the upload. -/
theorem target_eq_iff (h : Uploaded x e content) (hadmitted : Admitted x e content) :
    (writeFile x).2 = some content ↔
      if x.opens then Complete x.writes 0 content.length else x.target = some content := by
  rw [writeFile_admitted h hadmitted]
  cases x.opens with
  | true =>
      simp only [if_true]
      rw [Option.some.injEq]
      exact copy_eq_iff x.writes 0 content zero
  | false => simp

/-- A failed copy stays without consequences only where the copy cannot fail. -/
theorem failsClosed_iff (h : Uploaded x e content) :
    FailsClosed x content ↔ Survives x e content := by
  constructor
  · intro hclosed hadmitted
    by_contra hfailed
    have hret := hclosed.reported fun htarget => hfailed ((target_eq_iff h hadmitted).mp htarget)
    rw [writeFile_admitted h hadmitted] at hret
    exact hret rfl
  · intro hsurvives
    have hreported : (writeFile x).2 ≠ some content → (writeFile x).1 ≠ 0 := by
      intro hne
      by_cases hadmitted : Admitted x e content
      · exact absurd ((target_eq_iff h hadmitted).mpr (hsurvives hadmitted)) hne
      · rw [writeFile_refused h hadmitted]
        show (-1 : Int) ≠ 0
        decide
    refine ⟨hreported, fun hne hclicked => ?_⟩
    rw [cgiMain_reported (hreported hne) hclicked]
    exact ⟨List.not_mem_nil, List.not_mem_nil⟩

theorem failsClosed_iff_someUpload :
    FailsClosed (someUpload true 3 none) someArchive ∧
      ¬FailsClosed (someUpload false (-1) none) someArchive := by
  refine ⟨(failsClosed_iff (uploaded_someUpload true 3 none)).mpr fun _ => ?_, fun h => ?_⟩
  · exact complete_someUpload.mpr (by decide)
  · have htarget := (failsClosed_iff (uploaded_someUpload false (-1) none)).mp h
      (admitted_someUpload false (-1) none)
    cases htarget

/-- The flash is full: an empty archive is left, and it is installed. -/
theorem cgiMain_fullFlash :
    cgiMain (someUpload true (-1) none) = ([.scheduleReboot, .extract], some []) ∧
      ¬FailsClosed (someUpload true (-1) none) someArchive := by
  have hwrite : writeFile (someUpload true (-1) none) = (0, some []) := by
    rw [writeFile_admitted (uploaded_someUpload true (-1) none)
      (admitted_someUpload true (-1) none)]
    show (0, some (copy (fun _ => -1) 0 someArchive zero someArchive.length)) = _
    rw [copy_last _ _ (by decide) (by decide)]
    rfl
  have huser : sessionUser (someUpload true (-1) none).files (someUpload true (-1) none).addr =
      some operator.bytes := by decide
  refine ⟨?_, fun h => ?_⟩
  · rw [cgiMain, huser]
    dsimp only
    rw [if_pos (by decide), hwrite, if_pos rfl]
  have hret := h.reported (by rw [hwrite]; decide)
  rw [hwrite] at hret
  exact hret rfl

end Itertk.Cgi.Upgrade
