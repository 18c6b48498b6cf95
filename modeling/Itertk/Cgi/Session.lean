import Itertk.Base.Run
import Itertk.Web.Users

/-!
# The session of the web interface

The CGI programs share no memory.  After a login `mainFrame.cgi` writes the name of
the user to a file under the address of the browser (`session_save`), and every
other page reads it back from there (`session_read`) and acts for that user.

`session_save` opens the file without `O_TRUNC`: what a longer name left beyond the
end of a shorter one stays in the file.
-/

namespace Itertk.Cgi.Session

open Itertk.Base.Run
open Itertk.Base.Memory
open Itertk.Daemon.Config
open Itertk.Web.Users

/-! ## Files -/

/-- The contents of the files that exist, by path. -/
abbrev Files := List UInt8 → Option (List UInt8)

/-- `open(path, O_WRONLY | O_CREAT)`: a new file is empty, an old one stays as it is. -/
def openCreate (fs : Files) (path : List UInt8) : Files :=
  fun p => if p = path then some ((fs path).getD []) else fs p

/-- The first `write` to an open file: the bytes replace those at its start. -/
def write (fs : Files) (path bytes : List UInt8) : Files :=
  fun p => if p = path then (fs path).map (fun old => bytes ++ old.drop bytes.length) else fs p

/-- `read(fd, buf, n)` from the start of the file; `none` when it cannot be opened. -/
def read (fs : Files) (path : List UInt8) (n : Nat) : Option (List UInt8) :=
  (fs path).map (·.take n)

/-! ## The two programs -/

/-- `cgiRemoteAddr`: its path fits into the 32 bytes that `session_read` prints it to. -/
structure RemoteAddr where
  text : List UInt8
  short : text.length ≤ 23

/-- A name that was typed into the login form, as the C string in `name[32]`. -/
structure LoginName where
  bytes : List UInt8
  nonempty : bytes ≠ []
  short : bytes.length ≤ 31
  nonzero : (0 : UInt8) ∉ bytes

/-- `sprintf(lsbuf, "/tmp/nc_%s", cgiRemoteAddr)`. -/
def sessionPath (addr : RemoteAddr) : List UInt8 :=
  chars ['/', 't', 'm', 'p', '/', 'n', 'c', '_'] ++ addr.text

/-- `session_save(name)`, run for the browser at `addr`. -/
def sessionSave (fs : Files) (addr : RemoteAddr) (name : LoginName) : Files :=
  write (openCreate fs (sessionPath addr)) (sessionPath addr) name.bytes

/-- `session_read(name)`: the value it returns and the buffer it leaves. -/
def sessionRead (fs : Files) (addr : RemoteAddr) (name : Mem) : Nat × Mem :=
  match read fs (sessionPath addr) 32 with
  | none => (0, name)
  | some bytes => (if 0 < bytes.length then 1 else 0, blit name 0 bytes)

/-- The user for whom a page acts, whose `name` starts as 32 zeros; none when it asks
for a new login. -/
def sessionUser (fs : Files) (addr : RemoteAddr) : Option (List UInt8) :=
  if (sessionRead fs addr zero).1 = 1 then some (cstr (sessionRead fs addr zero).2) else none

/-- A successful login: who, and from where. -/
structure Login where
  addr : RemoteAddr
  name : LoginName

/-- What a login does to the files. -/
def login (fs : Files) (l : Login) : Files := sessionSave fs l.addr l.name

/-- `/tmp` lies in memory and is empty after the start. -/
def boot : Files := fun _ => none

/-! ## One login -/

private theorem sessionPath_inj {a b : RemoteAddr} (h : sessionPath a = sessionPath b) :
    a.text = b.text :=
  List.append_cancel_left h

/-- The contents after a login are the name and what stood beyond it. -/
theorem sessionSave_self (fs : Files) (addr : RemoteAddr) (name : LoginName) :
    sessionSave fs addr name (sessionPath addr) =
      some (name.bytes ++ ((fs (sessionPath addr)).getD []).drop name.bytes.length) := by
  simp [sessionSave, write, openCreate]

/-- A login from another address leaves the session alone. -/
theorem sessionSave_other (fs : Files) {addr other : RemoteAddr} (name : LoginName)
    (h : addr.text ≠ other.text) :
    sessionSave fs addr name (sessionPath other) = fs (sessionPath other) := by
  have hne : sessionPath other ≠ sessionPath addr := fun he => h (sessionPath_inj he).symm
  simp [sessionSave, write, openCreate, hne]

/-! ## A run of logins -/

/-- The contents of a session file and the logins from its address: none has a longer
name than the file, one has a name as long, no byte is a terminator. -/
structure Written (contents : Option (List UInt8)) (names : List LoginName) : Prop where
  bound : ∀ n ∈ names, n.bytes.length ≤ (contents.getD []).length
  attained : contents.getD [] = [] ∨ ∃ n ∈ names, n.bytes.length = (contents.getD []).length
  nonzero : (0 : UInt8) ∉ contents.getD []

/-- The names of the logins from an address, in order. -/
def namesFrom (addr : RemoteAddr) (logins : List Login) : List LoginName :=
  (logins.filter fun l => l.addr.text = addr.text).map Login.name

private theorem written_boot (addr : RemoteAddr) : Written (boot (sessionPath addr)) [] where
  bound _ h := absurd h List.not_mem_nil
  attained := Or.inl rfl
  nonzero := List.not_mem_nil

/-- The length after a write is the larger of the two. -/
theorem length_overwrite (name old : List UInt8) :
    (name ++ old.drop name.length).length = max name.length old.length := by
  rw [List.length_append, List.length_drop]
  omega

/-- A login from the address adds its name to the list. -/
theorem Written.save {fs : Files} {addr : RemoteAddr} {names : List LoginName}
    (h : Written (fs (sessionPath addr)) names) (name : LoginName) :
    Written (sessionSave fs addr name (sessionPath addr)) (names ++ [name]) := by
  have hlen : (name.bytes ++ ((fs (sessionPath addr)).getD []).drop name.bytes.length).length =
      max name.bytes.length ((fs (sessionPath addr)).getD []).length := length_overwrite _ _
  rw [sessionSave_self]
  constructor
  · intro n hn
    rw [Option.getD_some, hlen]
    cases List.mem_append.mp hn with
    | inl hold => exact Nat.le_trans (h.bound n hold) (Nat.le_max_right _ _)
    | inr hnew =>
        obtain rfl := List.mem_singleton.mp hnew
        exact Nat.le_max_left _ _
  · refine Or.inr ?_
    rw [Option.getD_some, hlen]
    rcases Nat.le_total ((fs (sessionPath addr)).getD []).length name.bytes.length with hle | hle
    · exact ⟨name, List.mem_append_right _ (List.mem_singleton.mpr rfl), (Nat.max_eq_left hle).symm⟩
    · obtain hempty | ⟨n, hn, hmax⟩ := h.attained
      · have hpos := List.length_pos_iff.mpr name.nonempty
        rw [hempty, List.length_nil] at hle
        omega
      · exact ⟨n, List.mem_append_left _ hn, by rw [hmax, Nat.max_eq_right hle]⟩
  · intro hzero
    rw [Option.getD_some] at hzero
    cases List.mem_append.mp hzero with
    | inl hname => exact name.nonzero hname
    | inr hold => exact h.nonzero (List.mem_of_mem_drop hold)

private theorem namesFrom_cons (addr : RemoteAddr) (l : Login) (ls : List Login) :
    namesFrom addr (l :: ls) =
      if l.addr.text = addr.text then l.name :: namesFrom addr ls else namesFrom addr ls := by
  by_cases h : l.addr.text = addr.text <;> simp [namesFrom, h]

private theorem sessionPath_congr {a b : RemoteAddr} (h : a.text = b.text) :
    sessionPath a = sessionPath b := by
  rw [sessionPath, sessionPath, h]

/-- What a run of logins leaves in the session of an address. -/
theorem written_exec (addr : RemoteAddr) (logins : List Login) (fs : Files)
    (names : List LoginName) (h : Written (fs (sessionPath addr)) names) :
    Written (exec login fs logins (sessionPath addr)) (names ++ namesFrom addr logins) := by
  induction logins generalizing fs names with
  | nil => simpa [namesFrom, exec] using h
  | cons l ls ih =>
      rw [namesFrom_cons, exec]
      by_cases hl : l.addr.text = addr.text
      · have hpath := sessionPath_congr hl
        rw [if_pos hl, ← List.singleton_append, ← List.append_assoc]
        refine ih (login fs l) (names ++ [l.name]) ?_
        rw [← hpath] at h ⊢
        exact h.save l.name
      · rw [if_neg hl]
        refine ih (login fs l) names ?_
        rw [login, sessionSave_other fs l.name hl]
        exact h

/-! ## The reader -/

/-- A session file of a name or more that fits into the buffer is read as a string. -/
theorem sessionUser_of_contents {fs : Files} {addr : RemoteAddr} {contents : List UInt8}
    (hfile : fs (sessionPath addr) = some contents) (hne : contents ≠ [])
    (hshort : contents.length ≤ 31) (hzero : (0 : UInt8) ∉ contents) :
    sessionUser fs addr = some contents := by
  have hread : sessionRead fs addr zero = (1, blit zero 0 contents) := by
    have htake : contents.take 32 = contents := List.take_of_length_le (by omega)
    have hpos := List.length_pos_iff.mpr hne
    simp [sessionRead, read, hfile, htake, hpos]
  have hslice : slice (blit zero 0 contents) 0 (contents.length + 1) = contents ++ [0] := by
    have hend : blit zero 0 contents (0 + contents.length) = 0 :=
      blit_after zero contents (Nat.le_refl _)
    rw [slice_add, slice_blit_self, slice_succ, slice_zero, hend]
  rw [sessionUser, hread, if_pos rfl]
  exact congrArg some (cstr_of_slice hslice hzero (by unfold strLimit; omega))

/-- After a login a page reads the name and what an earlier one left beyond it. -/
theorem sessionUser_save {fs : Files} {addr : RemoteAddr} {names : List LoginName}
    (h : Written (fs (sessionPath addr)) names) (name : LoginName) :
    sessionUser (sessionSave fs addr name) addr =
      some (name.bytes ++ ((fs (sessionPath addr)).getD []).drop name.bytes.length) := by
  have hafter := h.save name
  have hfile := sessionSave_self fs addr name
  rw [hfile] at hafter
  have hne : name.bytes ++ ((fs (sessionPath addr)).getD []).drop name.bytes.length ≠ [] :=
    List.append_ne_nil_of_left_ne_nil name.nonempty _
  refine sessionUser_of_contents hfile hne ?_ hafter.nonzero
  obtain hempty | ⟨n, _, hlen⟩ := hafter.attained
  · exact absurd hempty hne
  · have hshort := n.short
    rwa [hlen] at hshort

/-- A page acts for the user of the last login from its address exactly when no login
from there, by whomever, had a longer name. -/
theorem sessionUser_last_iff (logins : List Login) (l : Login) :
    sessionUser (exec login boot (logins ++ [l])) l.addr = some l.name.bytes ↔
      ∀ n ∈ namesFrom l.addr logins, n.bytes.length ≤ l.name.bytes.length := by
  have h := written_exec l.addr logins boot [] (written_boot l.addr)
  rw [List.nil_append] at h
  rw [exec_append, exec, exec, login, sessionUser_save h, Option.some.injEq,
    List.append_right_eq_self, List.drop_eq_nil_iff]
  constructor
  · intro hle n hn
    exact Nat.le_trans (h.bound n hn) hle
  · intro hall
    obtain hempty | ⟨n, hn, hlen⟩ := h.attained
    · rw [hempty]
      exact Nat.zero_le _
    · rw [← hlen]
      exact hall n hn

/-! ## A shorter name after a longer one -/

/-- `127.0.0.1` -/
def localhost : RemoteAddr where
  text := chars ['1', '2', '7', '.', '0', '.', '0', '.', '1']
  short := by decide

def operator : LoginName where
  bytes := chars ['o', 'p', 'e', 'r', 'a', 't', 'o', 'r']
  nonempty := by decide
  short := by decide
  nonzero := by decide

def root : LoginName where
  bytes := chars ['r', 'o', 'o', 't']
  nonempty := by decide
  short := by decide
  nonzero := by decide

/-- After `operator` and then `root` logged in from one address, the session names
`rootator`. -/
theorem session_of_root_after_operator :
    sessionUser (exec login boot [⟨localhost, operator⟩, ⟨localhost, root⟩]) localhost =
        some (chars ['r', 'o', 'o', 't', 'a', 't', 'o', 'r']) ∧
      sessionUser (exec login boot [⟨localhost, operator⟩, ⟨localhost, root⟩]) localhost ≠
        some root.bytes := by
  decide

end Itertk.Cgi.Session
