import Itertk.Client.DeviceAttr

/-!
# The alarm report

`GET_ALARM_STATUS` is answered with a pair for each sensor of the `IO_IN` entry: its number
and an alarm.  The list is what `SET_DEVICE_ATTR` has installed, in any order; the alarms
are taken from `g_alarm_in` by their position in the list.

## Main result

* `reportsInputs_iff` — when each number comes with the alarm of its own input.
-/

namespace Itertk.Client.AlarmReport

open Itertk.Base.Memory
open Itertk.Daemon.Layout
open Itertk.Daemon.State
open Itertk.Client.Checks
open Itertk.Client.Replies
open Itertk.Client.Dispatch
open Itertk.Client.DeviceAttr

/-- Number `j` of the `IO_IN` entry. -/
def ioInSeq (conf : Mem) (j : Nat) : UInt8 := sensorSeqNum conf sensorTypeIoIn j

/-- The `IO_IN` entry lists at most eight of the inputs 1 to 8. -/
structure InputList (conf : Mem) : Prop where
  num : (sensorNum conf sensorTypeIoIn).toNat ≤ singleSensorMaxNum
  seq : ∀ j, j < (sensorNum conf sensorTypeIoIn).toNat → 1 ≤ ioInSeq conf j ∧ ioInSeq conf j ≤ 8

/-- The pairs of the reply. -/
def alarmPairs (d : Device) : List (UInt8 × UInt8) :=
  (List.range (sensorNum d.conf sensorTypeIoIn).toNat).map fun j => (ioInSeq d.conf j, d.alarmIn j)

/-- The reply of `GET_ALARM_STATUS`, as bytes. -/
def alarmStatusBytes (d : Device) : List UInt8 :=
  [protocolHead1, protocolHead2, protocolAckGetAlarmStatus, alarmDeviceId,
    sensorNum d.conf sensorTypeIoIn] ++ (alarmPairs d).flatMap pairBytes ++ [0]

private theorem getAlarmStatus_replies {d : Device}
    (h : (sensorNum d.conf sensorTypeIoIn).toNat ≤ singleSensorMaxNum) :
    replies (getAlarmStatus d).2 = [alarmStatusBytes d] := by
  have hpairs := putPairs_slice (ioInSeq d.conf) d.alarmIn
    (store (makeAckHead d.bufSend protocolAckGetAlarmStatus) 4 (sensorNum d.conf sensorTypeIoIn)) 3
    (sensorNum d.conf sensorTypeIoIn).toNat h
  rw [Nat.mul_comm, slice_ackHead] at hpairs
  have hsend : (send d (makeAckGetAlarmStatus d.conf d.alarmIn d.bufSend)).2 =
      [.reply (alarmStatusBytes d)] := by
    rw [send, makeAckGetAlarmStatus]
    simp only [slice_finish]
    exact congrArg (fun r => [Event.reply (r ++ [0])]) hpairs
  unfold getAlarmStatus
  simp only [Outcome.andThen, sensorReads, replies_sensorIndices_append, hsend]
  rfl

/-- The pairs are at bytes `5 + 2 * j` and `6 + 2 * j`. -/
theorem alarmStatus_pair (d : Device) {j : Nat}
    (hj : j < (sensorNum d.conf sensorTypeIoIn).toNat) :
    (alarmStatusBytes d)[5 + 2 * j]? = some (ioInSeq d.conf j) ∧
      (alarmStatusBytes d)[6 + 2 * j]? = some (d.alarmIn j) := by
  have hlen : j < (alarmPairs d).length := by
    rw [alarmPairs, List.length_map, List.length_range]
    exact hj
  have hget : (alarmPairs d)[j] = (ioInSeq d.conf j, d.alarmIn j) := by
    simp only [alarmPairs, List.getElem_map, List.getElem_range]
  obtain ⟨hseq, hstatus⟩ := pairs_getElem? (alarmPairs d) [0] hlen
  rw [hget] at hseq hstatus
  have hskip : ∀ i, (alarmStatusBytes d)[5 + i]? =
      ((alarmPairs d).flatMap pairBytes ++ [0])[i]? := by
    intro i
    rw [alarmStatusBytes, List.append_assoc, List.getElem?_append_right (by simp)]
    simp
  rw [show 6 + 2 * j = 5 + (2 * j + 1) by omega, hskip, hskip]
  exact ⟨hseq, hstatus⟩

/-- One reply is sent, and each of its pairs is a number of the list and the alarm of the
input with that number. -/
def ReportsInputs (d : Device) : Prop :=
  ∃ r, replies (getAlarmStatus d).2 = [r] ∧ r[4]? = some (sensorNum d.conf sensorTypeIoIn) ∧
    ∀ j, j < (sensorNum d.conf sensorTypeIoIn).toNat →
      r[5 + 2 * j]? = some (ioInSeq d.conf j) ∧
        r[6 + 2 * j]? = some (d.alarmIn ((ioInSeq d.conf j).toNat - 1))

/-- The report is right exactly when each input of the list has the same alarm as the input
whose number is the position in the list. -/
theorem reportsInputs_iff {d : Device} (h : InputList d.conf) :
    ReportsInputs d ↔ ∀ j, j < (sensorNum d.conf sensorTypeIoIn).toNat →
      d.alarmIn j = d.alarmIn ((ioInSeq d.conf j).toNat - 1) := by
  have hreply := getAlarmStatus_replies h.num
  constructor
  · intro hreports j hj
    obtain ⟨r, hr, -, hpairs⟩ := hreports
    rw [hreply, List.singleton_inj] at hr
    subst hr
    have hstatus := (hpairs j hj).2
    rw [(alarmStatus_pair d hj).2] at hstatus
    exact Option.some.inj hstatus
  · intro hsame
    refine ⟨_, hreply, rfl, fun j hj => ?_⟩
    obtain ⟨hseq, hstatus⟩ := alarmStatus_pair d hj
    rw [hstatus, hsame j hj]
    exact ⟨hseq, rfl⟩

/-- A device with the inputs `a` and `b` listed in this order. -/
def listing (a b : UInt8) (alarmIn : Mem) : Device :=
  { Device.start (store (store (store zero (sensorOff sensorTypeIoIn + 1) 2)
      (sensorOff sensorTypeIoIn + 2) a) (sensorOff sensorTypeIoIn + 3) b) with alarmIn := alarmIn }

private theorem listing_seq (a b : UInt8) (alarmIn : Mem) {j : Nat} (hj : j < 2) :
    ioInSeq (listing a b alarmIn).conf j = if j = 0 then a else b := by
  match j, hj with
  | 0, _ => rfl
  | 1, _ => rfl

private theorem listing_inputs {a b : UInt8} (ha : 1 ≤ a ∧ a ≤ 8) (hb : 1 ≤ b ∧ b ≤ 8)
    (alarmIn : Mem) :
    InputList (listing a b alarmIn).conf where
  num := show (2 : UInt8).toNat ≤ 8 by decide
  seq j hj := by
    rw [listing_seq a b alarmIn hj]
    split
    · exact ha
    · exact hb

/-- Inputs 1 and 2 in their order are reported right. -/
theorem reportsInputs_ordered : ReportsInputs (listing 1 2 (store zero 0 1)) := by
  refine (reportsInputs_iff (listing_inputs (by decide) (by decide) _)).mpr fun j hj => ?_
  rw [listing_seq 1 2 _ hj]
  match j, hj with
  | 0, _ => rfl
  | 1, _ => rfl

/-- With inputs 2 and 1 listed the alarm of input 1 is reported for input 2. -/
theorem not_reportsInputs : ¬∀ d : Device, InputList d.conf → ReportsInputs d := by
  intro h
  have hlist : InputList (listing 2 1 (store zero 0 1)).conf :=
    listing_inputs (by decide) (by decide) _
  obtain ⟨r, hr, -, hpairs⟩ := h _ hlist
  rw [getAlarmStatus_replies hlist.num, List.singleton_inj] at hr
  subst hr
  have hj : 0 < (sensorNum (listing 2 1 (store zero 0 1)).conf sensorTypeIoIn).toNat := Nat.two_pos
  have hstatus := (hpairs 0 hj).2
  rw [(alarmStatus_pair _ hj).2, listing_seq 2 1 _ (by decide)] at hstatus
  exact absurd (Option.some.inj hstatus) (by decide)

end Itertk.Client.AlarmReport
