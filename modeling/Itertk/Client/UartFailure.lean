import Itertk.Client.Dispatch
import Itertk.Daemon.Serial

/-!
# A failed `SET_UART_ATTR`

`make_ack_set_uart_attr` tests, stores and applies one record after the other, and
gives up at the first that it refuses.  With two records the first may be stored by
then, while the reply says that the command failed.
-/

namespace Itertk.Client.UartFailure

open Itertk.Base.Memory
open Itertk.Daemon.Layout
open Itertk.Daemon.Uart
open Itertk.Daemon.State
open Itertk.Daemon.Serial
open Itertk.Client.Replies
open Itertk.Client.Dispatch

/-! ## Failure -/

/-- The reply from the `error:` label: port byte 0 and `SET_UART_ATTR_FAIL` before the
checksum. -/
def FailureReply (r : List UInt8) : Prop :=
  r[r.length - 2]? = some setUartAttrFail ∧ r[r.length - 3]? = some 0

instance (r : List UInt8) : Decidable (FailureReply r) := inferInstanceAs (Decidable (_ ∧ _))

/-- The command replies with a failure. -/
def Failed (o : Outcome) : Prop := ∃ r, Event.reply r ∈ o.2 ∧ FailureReply r

/-- The configuration, the saved file and the terminals are as before. -/
structure Unchanged (d : Device) (t : Terminals) (o : Outcome) : Prop where
  conf : o.1.conf = d.conf
  saved : o.1.saved = d.saved
  terminals : t.afterAll o.2 = t

/-- Record `j` of the command is refused: by its id, or by `is_good_uart`. -/
def Refused (d : Device) (cmd : Mem) (j : Nat) : Prop :=
  (uartRecord d.conf cmd j).id > 2 ∨ ¬GoodLine (uartRecord d.conf cmd j)

/-- What the first record would store is there already: its `CONFIG_COM`, its entry in
the UART sensor, the file, and the line of its port if that is open. -/
structure AlreadyThere (d : Device) (t : Terminals) (cmd : Mem) : Prop where
  record : ConfigCom.load d.conf (comIndexOff ((uartRecord d.conf cmd 0).id - 1)) =
    uartRecord d.conf cmd 0
  num : sensorNum d.conf sensorTypeUart = cmd 4
  seqNum : sensorSeqNum d.conf sensorTypeUart 0 = cmd 5
  attr : sensorAttr d.conf sensorTypeUart 0 = cmd 6
  saved : d.saved = slice d.conf 0 confSize
  programmed : d.gcomfd ((uartRecord d.conf cmd 0).id - 1) > 0 →
    t (d.gcomfd ((uartRecord d.conf cmd 0).id - 1)) = some (line (uartRecord d.conf cmd 0))

/-! ## Storing what is there -/

private theorem blit_eq_iff_load (m : Mem) (off : Nat) (c : ConfigCom) :
    blit m off c.bytes = m ↔ ConfigCom.load m off = c := by
  constructor
  · intro h
    rw [← ConfigCom.load_bytes m off c, h]
  · rintro rfl
    funext k
    by_cases hk : k < off ∨ off + comSize ≤ k
    · exact blit_outside m _ (by rw [ConfigCom.bytes_length]; exact hk)
    · obtain ⟨i, rfl⟩ : ∃ i, k = off + i := ⟨k - off, by omega⟩
      have hi : i < (ConfigCom.load m off).bytes.length := by
        rw [ConfigCom.bytes_length]
        omega
      rw [blit_hit m off i _ hi]
      simp only [ConfigCom.bytes_load, getElem_slice]

/-- The configuration that the first record makes. -/
def firstConf (env : Env) (d : Device) (cmd : Mem) : Mem :=
  storeSensor
    (blit d.conf (comIndexOff ((uartRecord d.conf cmd 0).id - 1)) (uartRecord d.conf cmd 0).bytes)
    sensorTypeUart (uartEntry cmd 0 (uartStart env cmd d).configUart)

/-- Storing and applying the first record. -/
def firstCommit (env : Env) (d : Device) (cmd : Mem) : Outcome :=
  comSet (configSave d (firstConf env d cmd)) (uartRecord d.conf cmd 0)

/-- The entry that the first record makes of the stored one. -/
theorem firstEntry_apply (env : Env) (d : Device) (cmd : Mem) {i : Nat} (hi : i < sensorSize) :
    uartEntry cmd 0 (uartStart env cmd d).configUart i =
      if i = 10 then cmd 6 else if i = 2 then cmd 5 else if i = 1 then cmd 4
      else d.conf (sensorOff sensorTypeUart + i) := by
  simp only [uartEntry, uartStart, store_apply]
  rw [loadSensor_hit _ _ _ _ hi]

/-- The first record is stored where its id says. -/
theorem firstConf_load (env : Env) {d : Device} {cmd : Mem}
    (hid : (uartRecord d.conf cmd 0).id ≤ 2) :
    ConfigCom.load (firstConf env d cmd) (comIndexOff ((uartRecord d.conf cmd 0).id - 1)) =
      uartRecord d.conf cmd 0 := by
  have hoff : comIndexOff ((uartRecord d.conf cmd 0).id - 1) + comSize ≤
      sensorOff sensorTypeUart := by
    rcases comIndexOff_of_le hid with ⟨_, ho⟩ | ⟨_, ho⟩ | ⟨_, ho⟩
    · rw [ho]; decide
    · rw [ho]; decide
    · rw [ho]; decide
  rw [firstConf, storeSensor, ConfigCom.load_blit_disjoint _ _ (.inl hoff), ConfigCom.load_bytes]

/-- Storing the first record changes nothing exactly when it is there. -/
theorem firstConf_eq_iff (env : Env) {d : Device} {cmd : Mem}
    (hid : (uartRecord d.conf cmd 0).id ≤ 2) :
    firstConf env d cmd = d.conf ↔
      ConfigCom.load d.conf (comIndexOff ((uartRecord d.conf cmd 0).id - 1)) =
          uartRecord d.conf cmd 0 ∧
        sensorNum d.conf sensorTypeUart = cmd 4 ∧ sensorSeqNum d.conf sensorTypeUart 0 = cmd 5 ∧
        sensorAttr d.conf sensorTypeUart 0 = cmd 6 := by
  have hentry : ∀ i, i < sensorSize → uartEntry cmd 0 (uartStart env cmd d).configUart i =
      if i = 10 then cmd 6 else if i = 2 then cmd 5 else if i = 1 then cmd 4
      else d.conf (sensorOff sensorTypeUart + i) := fun i hi => firstEntry_apply env d cmd hi
  have hsensor : ∀ i, i < sensorSize → firstConf env d cmd (sensorOff sensorTypeUart + i) =
      if i = 10 then cmd 6 else if i = 2 then cmd 5 else if i = 1 then cmd 4
      else d.conf (sensorOff sensorTypeUart + i) := by
    intro i hi
    rw [firstConf, storeSensor_hit _ _ _ _ hi, hentry i hi]
  constructor
  · intro h
    rw [h] at hsensor
    refine ⟨?_, ?_, ?_, ?_⟩
    · have hload := firstConf_load env hid
      rwa [h] at hload
    · have h1 := hsensor 1 (by decide)
      rwa [if_neg (by decide), if_neg (by decide), if_pos rfl] at h1
    · have h2 := hsensor 2 (by decide)
      rwa [if_neg (by decide), if_pos rfl] at h2
    · have h10 := hsensor 10 (by decide)
      rwa [if_pos rfl] at h10
  · rintro ⟨hrecord, hnum, hseq, hattr⟩
    rw [firstConf, (blit_eq_iff_load _ _ _).mpr hrecord, storeSensor_eq_iff]
    intro i hi
    rw [hentry i hi]
    by_cases h10 : i = 10
    · rw [if_pos h10, h10]
      exact hattr.symm
    · by_cases h2 : i = 2
      · rw [if_neg h10, if_pos h2, h2]
        exact hseq.symm
      · by_cases h1 : i = 1
        · rw [if_neg h10, if_neg h2, if_pos h1, h1]
          exact hnum.symm
        · rw [if_neg h10, if_neg h2, if_neg h1]

/-- So for the terminals. -/
theorem comSet_terminals_eq_iff (d : Device) (c : ConfigCom) (t : Terminals) :
    t.afterAll (comSet d c).2 = t ↔
      (d.gcomfd (c.id - 1) > 0 → t (d.gcomfd (c.id - 1)) = some (line c)) := by
  rw [comSet_eq]
  constructor
  · intro h hopen
    rw [← congrFun h, comParaSet_terminals]
    exact if_pos ⟨hopen, rfl⟩
  · intro h
    funext k
    rw [comParaSet_terminals]
    by_cases hk : d.gcomfd (c.id - 1) > 0 ∧ k = d.gcomfd (c.id - 1)
    · rw [if_pos hk, hk.2]
      exact (h hk.1).symm
    · exact if_neg hk

/-- Storing and applying the first record leaves everything as it is exactly when it is
there already. -/
theorem firstCommit_unchanged_iff (env : Env) {d : Device} {cmd : Mem}
    (hid : (uartRecord d.conf cmd 0).id ≤ 2) (t : Terminals) :
    Unchanged d t (firstCommit env d cmd) ↔ AlreadyThere d t cmd := by
  have hconf : (firstCommit env d cmd).1.conf = firstConf env d cmd := by
    rw [firstCommit, comSet_conf, configSave_conf]
  have hsaved : (firstCommit env d cmd).1.saved = slice (firstConf env d cmd) 0 confSize := by
    rw [firstCommit, comSet_eq, comParaSet_saved, configSave_saved]
  have hterm : t.afterAll (firstCommit env d cmd).2 = t ↔ _ := comSet_terminals_eq_iff _ _ t
  constructor
  · intro h
    have hsame := hconf.symm.trans h.conf
    obtain ⟨hrecord, hnum, hseq, hattr⟩ := (firstConf_eq_iff env hid).mp hsame
    refine ⟨hrecord, hnum, hseq, hattr, ?_, hterm.mp h.terminals⟩
    rw [← h.saved, hsaved, hsame]
  · intro h
    have hsame := (firstConf_eq_iff env hid).mpr ⟨h.record, h.num, h.seqNum, h.attr⟩
    exact ⟨hconf.trans hsame, by rw [hsaved, hsame, h.saved], hterm.mpr h.programmed⟩

/-! ## The ways through the command -/

private theorem comSet_replies (d : Device) (c : ConfigCom) (b : List UInt8) :
    Event.reply b ∉ (comSet d c).2 := by
  rcases comSet_cases d c with h | h <;> rw [h] <;> simp

/-- What a round leaves behind: no reply yet, and if it went through, its result before
the checksum. -/
theorem setUartRound_ack (old cmd : Mem) (j : Nat) {s : UartRun}
    (hs : ∀ b, Event.reply b ∉ s.events) :
    (∀ b, Event.reply b ∉ (UartRun.atExit (setUartRound old cmd j s)).events) ∧
      ∀ s', setUartRound old cmd j s = .ok s' → s'.ack (6 + 2 * j) = setUartAttrPass := by
  rcases setUartRound_cases old cmd j s with ⟨_, hr⟩ | ⟨_, _, hr⟩ | ⟨_, _, hr⟩
  · rw [hr]
    exact ⟨hs, fun s' h => by cases h⟩
  · rw [hr]
    exact ⟨hs, fun s' h => by cases h⟩
  · rw [hr]
    constructor
    · intro b hb
      cases List.mem_append.mp hb with
      | inl h => exact hs b h
      | inr h => exact comSet_replies _ _ b h
    · intro s' h
      obtain rfl := Except.ok.inj h
      exact store_self _ _ _

/-- The reply of the `error:` label is a failure reply. -/
theorem failureReply_setUartError (cmd ack : Mem) :
    FailureReply (slice (setUartError cmd ack).1 0 (setUartError cmd ack).2) := by
  rw [setUartError, slice_finish]
  constructor
  · rfl
  · rfl

/-- The reply of a success is not. -/
theorem not_failureReply_finish {ack : Mem} {n : Nat} (h : ack (4 + 2 * n) = setUartAttrPass) :
    ¬FailureReply (slice (finish ack (5 + 2 * n)).1 0 (finish ack (5 + 2 * n)).2) := by
  rw [slice_finish]
  rintro ⟨hlast, -⟩
  have hlen : (slice ack 0 (5 + 2 * n) ++ [0]).length - 2 = 4 + 2 * n := by
    rw [List.length_append, slice_length]
    show 5 + 2 * n + 1 - 2 = 4 + 2 * n
    omega
  rw [hlen, List.getElem?_append_left (by rw [slice_length]; omega), getElem?_slice,
    if_pos (by omega), Nat.zero_add, h] at hlast
  exact absurd hlast (by decide)

private theorem failed_error (cmd : Mem) (s : UartRun) : Failed (setUartReply cmd (.error s)) :=
  ⟨_, List.mem_append_right _ List.mem_cons_self, failureReply_setUartError cmd s.ack⟩

private theorem not_failed_ok (cmd : Mem) {s : UartRun} (hs : ∀ b, Event.reply b ∉ s.events)
    (hack : s.ack (4 + 2 * (cmd 4).toNat) = setUartAttrPass) :
    ¬Failed (setUartReply cmd (.ok s)) := by
  rintro ⟨r, hr, hfail⟩
  cases List.mem_append.mp hr with
  | inl h => exact hs r h
  | inr h =>
      obtain rfl := Event.reply.inj (List.mem_singleton.mp h)
      exact not_failureReply_finish hack hfail

/-- A round stops at a refused record with everything as it was. -/
theorem setUartRound_stops {d : Device} {cmd : Mem} {j : Nat} (h : Refused d cmd j)
    (s : UartRun) :
    ∃ s', setUartRound d.conf cmd j s = .error s' ∧ s'.dev = s.dev ∧ s'.events = s.events := by
  rcases setUartRound_cases d.conf cmd j s with ⟨_, hr⟩ | ⟨_, _, hr⟩ | ⟨hid, hgood, _⟩
  · exact ⟨_, hr, rfl, rfl⟩
  · exact ⟨_, hr, rfl, rfl⟩
  · cases h with
    | inl hbad => exact absurd hid (UInt32.not_le.mpr hbad)
    | inr hbad => exact absurd hgood hbad

/-- A round goes through a record that is not refused. -/
theorem setUartRound_passes {d : Device} {cmd : Mem} {j : Nat} (h : ¬Refused d cmd j)
    (s : UartRun) :
    ∃ s', setUartRound d.conf cmd j s = .ok s' ∧
      let conf := storeSensor
        (blit s.dev.conf (comIndexOff ((uartRecord d.conf cmd j).id - 1))
          (uartRecord d.conf cmd j).bytes) sensorTypeUart (uartEntry cmd j s.configUart)
      let o := comSet (configSave s.dev conf) (uartRecord d.conf cmd j)
      s'.dev = o.1 ∧ s'.events = s.events ++ o.2 := by
  rcases setUartRound_cases d.conf cmd j s with ⟨hbad, _⟩ | ⟨_, hbad, _⟩ | ⟨_, _, hr⟩
  · exact absurd (.inl hbad) h
  · exact absurd (.inr hbad) h
  · exact ⟨_, hr, rfl, rfl⟩

private theorem setUartRounds_error {old cmd : Mem} {j : Nat} {s s' : UartRun}
    (h : setUartRound old cmd j s = .error s') (n : Nat) :
    setUartRounds old cmd (n + 1) j s = .error s' := by
  rw [setUartRounds, h]

private theorem setUartRounds_ok {old cmd : Mem} {j : Nat} {s s' : UartRun}
    (h : setUartRound old cmd j s = .ok s') (n : Nat) :
    setUartRounds old cmd (n + 1) j s = setUartRounds old cmd n (j + 1) s' := by
  rw [setUartRounds, h]

/-- No record is refused: the loop runs to its end. -/
theorem setUartRounds_stores {d : Device} {cmd : Mem} {n j : Nat}
    (h : ∀ i, j ≤ i → i < j + n → ¬Refused d cmd i) (s : UartRun) :
    ∃ s', setUartRounds d.conf cmd n j s = .ok s' := by
  induction n generalizing j s with
  | zero => exact ⟨s, rfl⟩
  | succ n ih =>
      obtain ⟨s', hr, -⟩ := setUartRound_passes (h j (Nat.le_refl j) (by omega)) s
      rw [setUartRounds_ok hr]
      exact ih (fun i hlo hhi => h i (by omega) (by omega)) s'

/-- A record is refused: it leaves by `goto error`. -/
theorem setUartRounds_refuses {d : Device} {cmd : Mem} {n j i : Nat} (hlo : j ≤ i)
    (hhi : i < j + n) (h : Refused d cmd i) (s : UartRun) :
    ∃ s', setUartRounds d.conf cmd n j s = .error s' := by
  induction n generalizing j s with
  | zero => exact absurd hhi (by omega)
  | succ n ih =>
      by_cases hj : Refused d cmd j
      · obtain ⟨s', hr, -⟩ := setUartRound_stops hj s
        exact ⟨s', setUartRounds_error hr n⟩
      · obtain ⟨s', hr, -⟩ := setUartRound_passes hj s
        rw [setUartRounds_ok hr]
        have hne : j ≠ i := fun heq => hj (heq ▸ h)
        exact ih (by omega) (by omega) s'

/-- A loop that stops at record `j` fails with the state of that moment. -/
theorem unchanged_error {d : Device} {t : Terminals} {cmd : Mem} {s : UartRun} :
    Unchanged d t (setUartReply cmd (.error s)) ↔ Unchanged d t (s.dev, s.events) := by
  have hterm : t.afterAll (setUartReply cmd (.error s)).2 = t.afterAll s.events := by
    show t.afterAll (s.events ++ [.reply _]) = _
    rw [afterAll_append, afterAll_reply]
  constructor
  · intro h
    exact ⟨h.conf, h.saved, hterm.symm.trans h.terminals⟩
  · intro h
    exact ⟨h.conf, h.saved, hterm.trans h.terminals⟩

/-! ## One and two records -/

private theorem uartStart_noReply (env : Env) (cmd : Mem) (d : Device) (b : List UInt8) :
    Event.reply b ∉ (uartStart env cmd d).events :=
  List.not_mem_nil

private theorem setUartAttr_loop (env : Env) {cmd : Mem} (d : Device) (h : cmd 4 ≥ 1 ∧ cmd 4 ≤ 2)
    {n : Nat} (hn : (cmd 4).toNat = n + 1) :
    setUartAttr env cmd d =
      setUartReply cmd (setUartRounds d.conf cmd (n + 1) 0 (uartStart env cmd d)) := by
  rw [setUartAttr, ← hn]
  exact if_pos h

/-- A first record that is refused: nothing has been stored. -/
theorem unchanged_firstRefused (env : Env) {cmd : Mem} {d : Device} (t : Terminals)
    (hcount : cmd 4 ≥ 1 ∧ cmd 4 ≤ 2) {n : Nat} (hn : (cmd 4).toNat = n + 1)
    (h0 : Refused d cmd 0) : Unchanged d t (setUartAttr env cmd d) := by
  obtain ⟨s, hr, hdev, hevents⟩ := setUartRound_stops h0 (uartStart env cmd d)
  rw [setUartAttr_loop env d hcount hn, setUartRounds_error hr, unchanged_error, hdev, hevents]
  exact ⟨rfl, rfl, rfl⟩

/-- One record that passes: the command succeeds. -/
theorem not_failed_one (env : Env) {cmd : Mem} {d : Device} (h1 : cmd 4 = 1)
    (h0 : ¬Refused d cmd 0) : ¬Failed (setUartAttr env cmd d) := by
  have hn : (cmd 4).toNat = 0 + 1 := by
    rw [h1]
    rfl
  obtain ⟨s, hr, -⟩ := setUartRound_passes h0 (uartStart env cmd d)
  have hack := setUartRound_ack d.conf cmd 0 (uartStart_noReply env cmd d)
  rw [hr] at hack
  rw [setUartAttr_loop env d (by rw [h1]; decide) hn, setUartRounds_ok hr]
  exact not_failed_ok cmd hack.1 (by rw [hn]; exact hack.2 s rfl)

/-- Two records of which the first passes: the command fails exactly when the second is
refused, and has then stored and applied the first. -/
theorem failed_unchanged_two (env : Env) {cmd : Mem} {d : Device} (t : Terminals)
    (h2 : cmd 4 = 2) (h0 : ¬Refused d cmd 0) :
    (Failed (setUartAttr env cmd d) → Unchanged d t (setUartAttr env cmd d)) ↔
      (Refused d cmd 1 → AlreadyThere d t cmd) := by
  have hn : (cmd 4).toNat = 1 + 1 := by
    rw [h2]
    rfl
  obtain ⟨s, hr, hdev, hevents⟩ := setUartRound_passes h0 (uartStart env cmd d)
  have hack := setUartRound_ack d.conf cmd 0 (uartStart_noReply env cmd d)
  rw [hr] at hack
  rw [setUartAttr_loop env d (by rw [h2]; decide) hn, setUartRounds_ok hr]
  by_cases h1 : Refused d cmd 1
  · obtain ⟨s', hr', hdev', hevents'⟩ := setUartRound_stops h1 s
    have hid : (uartRecord d.conf cmd 0).id ≤ 2 := UInt32.not_lt.mp fun hbad => h0 (.inl hbad)
    have hcommit : (s'.dev, s'.events) = firstCommit env d cmd := by
      rw [hdev', hevents', hdev, hevents]
      rfl
    rw [setUartRounds_error hr', unchanged_error, hcommit, firstCommit_unchanged_iff env hid]
    exact ⟨fun h _ => h (failed_error cmd s'), fun h _ => h h1⟩
  · obtain ⟨s', hr', -⟩ := setUartRound_passes h1 s
    have hack' := setUartRound_ack d.conf cmd 1 (s := s) hack.1
    rw [hr'] at hack'
    rw [setUartRounds_ok hr']
    have hok := not_failed_ok cmd hack'.1 (by rw [hn]; exact hack'.2 s' rfl)
    exact iff_of_true (fun hfailed => absurd hfailed hok) fun hbad => absurd hbad h1

/-- A command that failed has changed nothing exactly when it did not get past a first
record whose settings were new: it has two records, the first passes, the second is
refused, and something that the first stores was not there. -/
theorem failed_unchanged_iff (env : Env) (cmd : Mem) (d : Device) (t : Terminals) :
    (Failed (setUartAttr env cmd d) → Unchanged d t (setUartAttr env cmd d)) ↔
      (cmd 4 = 2 → ¬Refused d cmd 0 → Refused d cmd 1 → AlreadyThere d t cmd) := by
  by_cases hcount : cmd 4 ≥ 1 ∧ cmd 4 ≤ 2
  · cases count_cases hcount with
    | inl h1 =>
        refine iff_of_true ?_ fun h2 => absurd (h1.symm.trans h2) (by decide)
        by_cases h0 : Refused d cmd 0
        · exact fun _ => unchanged_firstRefused env t hcount (n := 0) (by rw [h1]; rfl) h0
        · exact fun hfailed => absurd hfailed (not_failed_one env h1 h0)
    | inr h2 =>
        by_cases h0 : Refused d cmd 0
        · refine iff_of_true (fun _ => ?_) fun _ hpass => absurd h0 hpass
          exact unchanged_firstRefused env t hcount (n := 1) (by rw [h2]; rfl) h0
        · rw [failed_unchanged_two env t h2 h0]
          exact ⟨fun h _ _ => h, fun h => h h2 h0⟩
  · have hattr : setUartAttr env cmd d =
        send d (setUartError cmd (makeAckHead d.bufSend protocolAckSetUartAttr)) := by
      rw [setUartAttr]
      exact if_neg hcount
    refine iff_of_true (fun _ => ?_) fun h2 => absurd (by rw [h2]; decide) hcount
    rw [hattr]
    exact ⟨rfl, rfl, rfl⟩

/-! ## A second record that is refused -/

/-- Port 1 at 9600 8N1, then a record for a port 3. -/
def secondRefused : Mem :=
  blit zero 0 [0x55, 0xaa, 0x0f, 0x01, 2, 1, 7, 0x00, 0x25, 0x80, 8, 1, 0,
    3, 9, 0x00, 0x25, 0x80, 8, 1, 0, 0]

/-- The command fails, and port 1 is at 9600 baud. -/
theorem secondRefused_changes :
    ¬∀ (env : Env) (cmd : Mem) (d : Device) (t : Terminals),
      Failed (setUartAttr env cmd d) → Unchanged d t (setUartAttr env cmd d) := by
  intro h
  have hreply : (setUartAttr Env.idle secondRefused (Device.start zero)).2 =
      [.reply [0x55, 0xaa, 0x10, 0x01, 2, 0, 0, 0]] := rfl
  have hfailed : Failed (setUartAttr Env.idle secondRefused (Device.start zero)) :=
    ⟨_, by rw [hreply]; exact List.mem_cons_self, by decide⟩
  have hconf := (h Env.idle secondRefused (Device.start zero) (fun _ => none) hfailed).conf
  exact absurd (congrFun hconf 336) (by decide)

end Itertk.Client.UartFailure
