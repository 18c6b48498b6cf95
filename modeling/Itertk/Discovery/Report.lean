import Itertk.Daemon.State
import Itertk.Web.Users

/-!
# The discovery protocol

`report_proc` answers `"hello"` with the device's settings, and takes any other
message for new ones: fields between bars, of which the first says whom the message
is for.  Every field that is missing keeps its value, `dev_mac` excepted.

A message with `"update"` in it goes to `update`, which reads and writes through an
uninitialised pointer; it has no result here.
-/

namespace Itertk.Discovery.Report

open Itertk.Base.Memory
open Itertk.Daemon.Layout
open Itertk.Daemon.Config
open Itertk.Daemon.State
open Itertk.Web.Users

/-! ## Strings -/

/-- The character codes that the messages are taken apart by. -/
def bar : UInt8 := 0x7c
def colon : UInt8 := 0x3a
def dot : UInt8 := 0x2e

/-- The results of `strtok(s, delim)` and the calls after it, until the first null
pointer; `cur` is what the current token has so far. -/
def strtok (delim : UInt8) (cur : List UInt8) : List UInt8 → List (List UInt8)
  | [] => if cur = [] then [] else [cur]
  | c :: s =>
      if c = delim then if cur = [] then strtok delim [] s else cur :: strtok delim [] s
      else strtok delim (cur ++ [c]) s

/-- Characters that are no delimiter are added to the current token. -/
theorem strtok_append {delim : UInt8} (cur : List UInt8) {w : List UInt8} (hw : delim ∉ w)
    (s : List UInt8) : strtok delim cur (w ++ s) = strtok delim (cur ++ w) s := by
  induction w generalizing cur with
  | nil => rw [List.append_nil, List.nil_append]
  | cons c w ih =>
      have hc : c ≠ delim := fun h => hw (h ▸ List.mem_cons_self)
      rw [List.cons_append, strtok, if_neg hc, ih _ fun h => hw (List.mem_cons_of_mem c h),
        List.append_assoc, List.singleton_append]

/-- A delimiter ends a token that is not empty. -/
theorem strtok_delim {delim : UInt8} {cur : List UInt8} (h : cur ≠ []) (s : List UInt8) :
    strtok delim cur (delim :: s) = cur :: strtok delim [] s := by
  rw [strtok, if_pos rfl, if_neg h]

/-- `strstr(s, pat) != NULL`. -/
def strstr (pat : List UInt8) : List UInt8 → Bool
  | [] => pat.isEmpty
  | c :: s => pat.isPrefixOf (c :: s) || strstr pat s

/-- `isspace`. -/
def isSpace (c : UInt8) : Bool := c = 0x20 ∨ 0x09 ≤ c ∧ c ≤ 0x0d

/-- The value of a decimal digit. -/
def digit (c : UInt8) : Option Nat := if 0x30 ≤ c ∧ c ≤ 0x39 then some (c.toNat - 0x30) else none

/-- The digits at the start of a string, added to `n`. -/
def digits (n : Nat) : List UInt8 → Nat
  | [] => n
  | c :: s =>
      match digit c with
      | some t => digits (10 * n + t) s
      | none => n

/-- `atoi`. -/
def atoi (s : List UInt8) : Int :=
  match s.dropWhile isSpace with
  | 0x2d :: s => -(digits 0 s : Int)
  | 0x2b :: s => digits 0 s
  | s => digits 0 s

/-- `(DWORD)(BYTE)atoi(p) << (j * 8)`; what is shifted out of the word is lost. -/
def ipPart (j : Nat) (p : List UInt8) : UInt32 :=
  UInt32.ofNat ((UInt8.ofInt (atoi p)).toNat <<< (j * 8))

/-- The loop of `sys_str2ip`: `j` parts have been added to `ip`. -/
def ipParts (j : Nat) (ip : UInt32) : List UInt8 → UInt32
  | [] => ip
  | c :: s => if c = dot then ipParts (j + 1) (ip + ipPart j s) s else ipParts j ip s

/-- `sys_str2ip`. -/
def sysStr2ip (s : List UInt8) : UInt32 := ipParts 1 (ipPart 0 s) s

/-- `sprintf("%d", n)` of a number that is not negative. -/
def decimal (n : Nat) : List UInt8 := chars (Nat.toDigits 10 n)

/-- `sys_ip2str_static`. -/
def sysIp2str (ip : UInt32) : List UInt8 :=
  [dot].intercalate ((le32 ip).map fun b => decimal b.toNat)

/-- The value of a hexadecimal digit. -/
def hexDigit (c : UInt8) : Option Nat :=
  if 0x30 ≤ c ∧ c ≤ 0x39 then some (c.toNat - 0x30)
  else if 0x41 ≤ c ∧ c ≤ 0x46 then some (c.toNat - 0x41 + 10)
  else if 0x61 ≤ c ∧ c ≤ 0x66 then some (c.toNat - 0x61 + 10)
  else none

/-- The loop of `str2hex`. -/
def hexDigits (result : Int) : List UInt8 → Int
  | [] => result
  | c :: s =>
      match hexDigit c with
      | some tmp => hexDigits (result * 16 + tmp) s
      | none => -1

/-- `str2hex`; the argument may be a null pointer. -/
def str2hex : Option (List UInt8) → Int
  | some s => hexDigits 0 s
  | none => -1

/-- `sprintf("%02x", b)`. -/
def hexByte (b : UInt8) : List UInt8 :=
  chars [Nat.digitChar (b.toNat / 16), Nat.digitChar (b.toNat % 16)]

/-! ## Settings from a message -/

/-- What `pc_set_dev_info` takes from outside. -/
structure ReportEnv where
  /-- What the locals hold after a string has run over them. -/
  overrun : Mem
  /-- The address that `gethostbyname` or `its_dns` finds for a name. -/
  resolve : List UInt8 → Option UInt32

/-- `dns_resolution`.  A name that is a dotted quad is also copied to `dns_str`, where
every caller has it from. -/
def dnsResolution (env : ReportEnv) (dnsStr : List UInt8) (conf : Mem) : Mem :=
  match env.resolve dnsStr with
  | some ip => store32 conf serverOff ip
  | none => conf

/-- The locals of `pc_set_dev_info` that it copies back. -/
structure Locals where
  net : Mem
  server : Mem
  sys : Mem

/-- An assignment from the `k`-th token, if there is one. -/
def put (tok : List (List UInt8)) (k : Nat) (f : List UInt8 → Mem → Mem) (m : Mem) : Mem :=
  match tok[k]? with
  | some p => f p m
  | none => m

/-- The bytes for `dev_mac`; without any part it is `str2hex(NULL)`. -/
def macBytes (mac : List UInt8) : List UInt8 :=
  match strtok colon [] mac with
  | [] => [UInt8.ofInt (str2hex none)]
  | parts => parts.map fun q => UInt8.ofInt (str2hex (some q))

/-- `conf_net` after the assignments. -/
def setNet (tok : List (List UInt8)) (m : Mem) : Mem :=
  let m := put tok 1 (fun p m => store32 m 0 (sysStr2ip p)) m
  let m := put tok 2 (fun p m => store32 m 4 (sysStr2ip p)) m
  let m := put tok 3 (fun p m => store32 m 8 (sysStr2ip p)) m
  let m := put tok 4 (fun p m => store32 m 20 (sysStr2ip p)) m
  let m := put tok 5 (fun p m => store32 m 24 (sysStr2ip p)) m
  blit m 28 (macBytes (tok[8]?.getD []))

/-- `con_server` after the assignments. -/
def setServer (tok : List (List UInt8)) (m : Mem) : Mem :=
  let m := put tok 6 (fun p m => strcpy m 6 p) m
  put tok 7 (fun p m => store16 m 4 (UInt16.ofInt (atoi p))) m

/-- `con_sys` after the assignments. -/
def setSys (tok : List (List UInt8)) (m : Mem) : Mem := put tok 9 (fun p m => strcpy m 64 p) m

/-- A string is too long for the local that it is copied to: `dns_str` and `mac` with
their terminators, `host_sn` and what follows it in `con_sys`. -/
def Overruns (tok : List (List UInt8)) : Prop :=
  50 ≤ (tok[6]?.getD []).length ∨ 20 ≤ (tok[8]?.getD []).length ∨ 192 ≤ (tok[9]?.getD []).length

instance (tok : List (List UInt8)) : Decidable (Overruns tok) :=
  inferInstanceAs (Decidable (_ ∨ _))

/-- The locals before they are copied back. -/
def filled (env : ReportEnv) (tok : List (List UInt8)) (conf : Mem) : Locals :=
  if Overruns tok then
    ⟨env.overrun, shift env.overrun netSize, shift env.overrun (netSize + serverSize)⟩
  else
    ⟨setNet tok (shift conf netOff), setServer tok (shift conf serverOff),
      setSys tok (shift conf sysOff)⟩

/-- What the discovery thread does outside the daemon's memory. -/
inductive ReportAction where
  /-- `sendto`. -/
  | sendto (bytes : List UInt8)
  /-- `config_net_set`, over `con_net`. -/
  | netSet (net : List UInt8)
  | reboot

/-- The message names another device. -/
def NotMe (tok : List (List UInt8)) (conf : Mem) : Prop :=
  ∃ p ∈ tok[0]?, load32 conf netOff ≠ sysStr2ip p

instance (tok : List (List UInt8)) (conf : Mem) : Decidable (NotMe tok conf) :=
  match h : tok[0]? with
  | none => isFalse (by rintro ⟨p, hp, -⟩; rw [h] at hp; cases hp)
  | some p => decidable_of_iff (load32 conf netOff ≠ sysStr2ip p) (by simp [NotMe, h])

/-- `pc_set_dev_info`. -/
def pcSetDevInfo (env : ReportEnv) (recvStr : List UInt8) (d : Device) :
    Device × List ReportAction :=
  let tok := strtok bar [] recvStr
  if NotMe tok d.conf then (d, [])
  else
    let l := filled env tok d.conf
    let conf := blit d.conf netOff (slice l.net 0 netSize)
    let conf := blit conf serverOff (slice l.server 0 serverSize)
    let net := slice conf netOff netSize
    let conf := dnsResolution env (cstr (shift l.server 6)) conf
    let conf := blit conf sysOff (slice l.sys 0 sysSize)
    (configSave d conf, [.netSet net, .reboot])

/-- `pc_get_dev_info`. -/
def pcGetDevInfo (conf : Mem) : List UInt8 :=
  [bar].intercalate
    [sysIp2str (load32 conf netOff), sysIp2str (load32 conf (netOff + 4)),
      sysIp2str (load32 conf (netOff + 8)), sysIp2str (load32 conf (netOff + 20)),
      sysIp2str (load32 conf (netOff + 24)), cstr (shift conf (serverOff + 6)),
      decimal ((conf (serverOff + 4)).toNat + 256 * (conf (serverOff + 5)).toNat),
      [colon].intercalate ((slice conf (netOff + 28) 6).map hexByte),
      chars ['v', '4', '.', '0', '0'], cstr (shift conf (sysOff + 64))]

/-- `PC_TOOL_MSG1`. -/
def pcToolMsg1 : List UInt8 := chars ['h', 'e', 'l', 'l', 'o']

/-- One round of `report_proc`: `none` when `recvfrom` fails, which the unsigned `n`
hides, so that an empty message is handled.  There is no result when `update` is
called. -/
def reportProc (env : ReportEnv) (received : Option (List UInt8)) (d : Device) :
    Option (Device × List ReportAction) :=
  if received = some [] then some (d, [])
  else
    let recmsg := (received.getD []).takeWhile (· ≠ 0)
    if recmsg = pcToolMsg1 then some (d, [.sendto (pcGetDevInfo d.conf)])
    else if strstr (chars ['u', 'p', 'd', 'a', 't', 'e']) recmsg then none
    else some (pcSetDevInfo env recmsg d)

/-- A message changes nothing, or ends with a save. -/
theorem pcSetDevInfo_cases (env : ReportEnv) (recvStr : List UInt8) (d : Device) :
    pcSetDevInfo env recvStr d = (d, []) ∨
      ∃ conf actions, pcSetDevInfo env recvStr d = (configSave d conf, actions) := by
  unfold pcSetDevInfo
  dsimp only
  split
  · exact .inl rfl
  · exact .inr ⟨_, _, rfl⟩

end Itertk.Discovery.Report
