import Itertk.Base.Run
import Itertk.Discovery.Report

/-!
# Messages for other devices

The first field of a message with settings is the address of the device that it is
for.  `pc_set_dev_info` looks at the first token instead, which is another field when
the message starts with a bar, and at nothing when there is no token.  `report_proc`
keeps the result of `recvfrom` in an unsigned variable, so that a failure counts as a
message, an empty one.
-/

namespace Itertk.Discovery.Addressed

open Itertk.Base.Memory
open Itertk.Base.Run
open Itertk.Daemon.Layout
open Itertk.Daemon.Config
open Itertk.Daemon.State
open Itertk.Discovery.Report

/-! ## Rounds -/

/-- The string in `recmsg`. -/
def recmsg (received : Option (List UInt8)) : List UInt8 :=
  (received.getD []).takeWhile (· ≠ 0)

/-- What `recvfrom` does, in a round that does not go to `update`. -/
structure Round where
  env : ReportEnv
  /-- The datagram, or a failure. -/
  received : Option (List UInt8)
  plain : strstr (chars ['u', 'p', 'd', 'a', 't', 'e']) (recmsg received) = false

/-- The text before the first bar. -/
def firstField (text : List UInt8) : List UInt8 := text.takeWhile (· ≠ bar)

/-- `con_net.dev_ip`. -/
def devIp (conf : Mem) : UInt32 := load32 conf netOff

/-- One round of `report_proc`, and what it does outside. -/
def handle (d : Device) (x : Round) : Device × List ReportAction :=
  (reportProc x.env x.received d).getD (d, [])

/-- The device after it. -/
def next (d : Device) (x : Round) : Device := (handle d x).1

/-- A datagram has been received whose first field is the address of this device. -/
def NamesDevice (d : Device) (x : Round) : Prop :=
  ∃ msg, x.received = some msg ∧ sysStr2ip (firstField (recmsg (some msg))) = devIp d.conf

/-- The configuration changes or a reboot is requested only for a message to this
device. -/
def OnlyAddressed (d : Device) (x : Round) : Prop :=
  (next d x).conf ≠ d.conf ∨ ReportAction.reboot ∈ (handle d x).2 → NamesDevice d x

/-- The datagram has a first field, or is not taken, or the device has the address 0,
which an empty field converts to. -/
def NotMistaken (d : Device) (x : Round) : Prop :=
  ∃ msg, x.received = some msg ∧
    (msg = [] ∨ firstField (recmsg (some msg)) ≠ [] ∨
      NotMe (strtok bar [] (recmsg (some msg))) d.conf ∨ devIp d.conf = 0)

/-! ## The first token -/

/-- A first field that is not empty is the first token. -/
theorem strtok_head {text : List UInt8} (h : firstField text ≠ []) :
    (strtok bar [] text)[0]? = some (firstField text) := by
  have hbar : bar ∉ firstField text := by
    intro hmem
    exact absurd (List.all_eq_true.mp List.all_takeWhile bar hmem) (by decide)
  have hsplit : text = firstField text ++ text.dropWhile (· ≠ bar) :=
    List.takeWhile_append_dropWhile.symm
  rw [hsplit, strtok_append [] hbar, ← hsplit, List.nil_append]
  cases hrest : text.dropWhile (· ≠ bar) with
  | nil => rw [strtok, if_neg h]; rfl
  | cons c rest =>
      have hc : c = bar := by
        have hnot := List.head?_dropWhile_not (· ≠ bar) text
        rw [hrest] at hnot
        simpa using hnot
      rw [hc, strtok_delim h]
      rfl

/-- Then a message is for another device exactly when that field says so. -/
theorem notMe_iff {text : List UInt8} (h : firstField text ≠ []) (conf : Mem) :
    NotMe (strtok bar [] text) conf ↔ devIp conf ≠ sysStr2ip (firstField text) := by
  rw [NotMe, strtok_head h]
  constructor
  · rintro ⟨p, hp, hne⟩
    rw [Option.mem_some_iff.mp hp]
    exact hne
  · intro hne
    exact ⟨_, rfl, hne⟩

/-! ## One round -/

/-- A message for another device does nothing. -/
theorem pcSetDevInfo_notMe (env : ReportEnv) {text : List UInt8} {d : Device}
    (h : NotMe (strtok bar [] text) d.conf) : pcSetDevInfo env text d = (d, []) := by
  rw [pcSetDevInfo]
  exact if_pos h

/-- Any other message ends with a reboot. -/
theorem pcSetDevInfo_reboots (env : ReportEnv) {text : List UInt8} {d : Device}
    (h : ¬NotMe (strtok bar [] text) d.conf) :
    ReportAction.reboot ∈ (pcSetDevInfo env text d).2 := by
  rw [pcSetDevInfo]
  simp only [if_neg h]
  exact List.mem_cons_of_mem _ List.mem_cons_self

/-- The three things that a round does with a message. -/
theorem handle_eq (d : Device) (x : Round) :
    handle d x =
      if x.received = some [] then (d, [])
      else if recmsg x.received = pcToolMsg1 then (d, [.sendto (pcGetDevInfo d.conf)])
      else pcSetDevInfo x.env (recmsg x.received) d := by
  unfold handle reportProc
  by_cases h0 : x.received = some []
  · rw [if_pos h0, if_pos h0]
    rfl
  · rw [if_neg h0, if_neg h0]
    show (if recmsg x.received = pcToolMsg1 then some (d, [.sendto (pcGetDevInfo d.conf)])
      else if strstr _ (recmsg x.received) then none
      else some (pcSetDevInfo x.env (recmsg x.received) d)).getD (d, []) = _
    by_cases h1 : recmsg x.received = pcToolMsg1
    · rw [if_pos h1, if_pos h1]
      rfl
    · rw [if_neg h1, if_neg h1, x.plain]
      rfl

/-- A round that changes nothing and does not reboot is harmless. -/
theorem onlyAddressed_of_same {d : Device} {x : Round} {actions : List ReportAction}
    (h : handle d x = (d, actions)) (hactions : ReportAction.reboot ∉ actions) :
    OnlyAddressed d x := by
  rintro (hconf | hreboot)
  · rw [next, h] at hconf
    exact absurd rfl hconf
  · rw [h] at hreboot
    exact absurd hreboot hactions

/-- A round that reboots has to name the device. -/
theorem onlyAddressed_of_reboot {d : Device} {x : Round}
    (h : ReportAction.reboot ∈ (handle d x).2) :
    OnlyAddressed d x ↔ NamesDevice d x :=
  ⟨fun honly => honly (.inr h), fun hnames _ => hnames⟩

/-- A message that is taken names the device exactly when it has a first field, or an
empty one converts to the address. -/
theorem namesDevice_iff {d : Device} {x : Round} {msg : List UInt8} (hrec : x.received = some msg)
    (h0 : msg ≠ []) (hme : ¬NotMe (strtok bar [] (recmsg (some msg))) d.conf) :
    NamesDevice d x ↔ NotMistaken d x := by
  constructor
  · rintro ⟨msg', hmsg', hip⟩
    obtain rfl := Option.some.inj (hrec.symm.trans hmsg')
    refine ⟨msg, hrec, .inr ?_⟩
    by_cases hfield : firstField (recmsg (some msg)) = []
    · rw [hfield] at hip
      exact .inr (.inr hip.symm)
    · exact .inl hfield
  · rintro ⟨msg', hmsg', hcase⟩
    obtain rfl := Option.some.inj (hrec.symm.trans hmsg')
    refine ⟨msg, hrec, ?_⟩
    by_cases hfield : firstField (recmsg (some msg)) = []
    · rcases hcase with h | h | h | h
      · exact absurd h h0
      · exact absurd hfield h
      · exact absurd h hme
      · rw [hfield, h]
        rfl
    · exact (Decidable.not_not.mp fun hne => hme ((notMe_iff hfield d.conf).mpr hne)).symm

/-- A round changes the settings for its own device only exactly when it is not
mistaken about the address. -/
theorem onlyAddressed_iff (d : Device) (x : Round) : OnlyAddressed d x ↔ NotMistaken d x := by
  have heq := handle_eq d x
  cases hrec : x.received with
  | none =>
      -- an empty message has no token to compare
      rw [hrec, if_neg (by simp), if_neg (by decide)] at heq
      have hnot : ¬NotMe (strtok bar [] (recmsg none)) d.conf := by
        rintro ⟨p, hp, -⟩
        cases hp
      have hreboot := pcSetDevInfo_reboots x.env hnot
      rw [← heq] at hreboot
      rw [onlyAddressed_of_reboot hreboot]
      refine iff_of_false ?_ ?_
      · rintro ⟨msg, hmsg, -⟩
        cases hrec.symm.trans hmsg
      · rintro ⟨msg, hmsg, -⟩
        cases hrec.symm.trans hmsg
  | some msg =>
      rw [hrec] at heq
      by_cases h0 : msg = []
      · rw [if_pos (by rw [h0])] at heq
        exact iff_of_true (onlyAddressed_of_same heq List.not_mem_nil) ⟨msg, hrec, .inl h0⟩
      · rw [if_neg (fun h => h0 (Option.some.inj h))] at heq
        by_cases h1 : recmsg (some msg) = pcToolMsg1
        · rw [if_pos h1] at heq
          refine iff_of_true (onlyAddressed_of_same heq ?_) ⟨msg, hrec, .inr (.inl ?_)⟩
          · simp
          · rw [h1]
            decide
        · rw [if_neg h1] at heq
          by_cases hme : NotMe (strtok bar [] (recmsg (some msg))) d.conf
          · rw [pcSetDevInfo_notMe x.env hme] at heq
            exact iff_of_true (onlyAddressed_of_same heq List.not_mem_nil)
              ⟨msg, hrec, .inr (.inr (.inl hme))⟩
          · have hreboot := pcSetDevInfo_reboots x.env hme
            rw [← heq] at hreboot
            rw [onlyAddressed_of_reboot hreboot, namesDevice_iff hrec h0 hme]

/-! ## Runs -/

/-- In a run of rounds the settings are changed for this device only, all the time,
exactly when every round is not mistaken about the address. -/
theorem onlyAddressed_runs (d : Device) (xs : List Round) :
    StepsSatisfy next OnlyAddressed d xs ↔ StepsSatisfy next NotMistaken d xs :=
  stepsSatisfy_congr next onlyAddressed_iff d xs

/-- A round in which `recvfrom` fails. -/
def recvFailed : Round where
  env := ⟨zero, fun _ => none⟩
  received := none
  plain := by decide

/-- It sets the first byte of the MAC to 255 and reboots. -/
theorem recvFailed_not_onlyAddressed :
    ¬∀ (d : Device) (xs : List Round), StepsSatisfy next OnlyAddressed d xs := by
  intro h
  have hstep := (h (Device.start zero) [recvFailed]).1
  have hreboot : ReportAction.reboot ∈ (handle (Device.start zero) recvFailed).2 := by
    rw [handle_eq, if_neg (by decide), if_neg (by decide)]
    exact pcSetDevInfo_reboots _ (by decide)
  obtain ⟨msg, hmsg, -⟩ := hstep (.inr hreboot)
  cases hmsg

end Itertk.Discovery.Addressed
