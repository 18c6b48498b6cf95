import Itertk.Base.Codec
import Itertk.Client.SensorTable

/-!
# Device attributes

`GET_DEVICE_ATTR` lists the four entries of `con_sensor` one after the other, each as
long as its number says, and one without pairs padded with two zeros.
`SET_DEVICE_ATTR` replaces the list of the `IO_IN` entry and echoes it.

`SensorEntry` is what an entry means; `decodeDeviceAttr` reads four of them back from
a reply.
-/

namespace Itertk.Client.DeviceAttr

open Itertk.Base.Memory
open Itertk.Base.Codec
open Itertk.Daemon.Layout
open Itertk.Daemon.State
open Itertk.Client.Checks
open Itertk.Client.Replies
open Itertk.Client.Dispatch
open Itertk.Client.SensorTable

/-! ## Entries -/

/-- A `CONFIG_SENSOR`: its type, its number, and so many pairs of `seq_num` and `attr`. -/
structure SensorEntry where
  type : UInt8
  num : UInt8
  pairs : List (UInt8 × UInt8)
  deriving DecidableEq

/-- Pair `j` of entry `k`. -/
def storedPair (conf : Mem) (k j : Nat) : UInt8 × UInt8 :=
  (sensorSeqNum conf k j, sensorAttr conf k j)

/-- Entry `k` of the configuration. -/
def storedEntry (conf : Mem) (k : Nat) : SensorEntry :=
  ⟨sensorType conf k, sensorNum conf k, (List.range (sensorNum conf k).toNat).map
    (storedPair conf k)⟩

/-- `con_sensor`, in the order of the reply. -/
def storedEntries (conf : Mem) : List SensorEntry :=
  [sensorTypeUart, sensorTypeIoIn, sensorTypeIoOut, sensorTypeSingleBus].map (storedEntry conf)

/-- The numbers of all entries are in range. -/
def SmallTable (conf : Mem) : Prop := ∀ k, k < 4 → (sensorNum conf k).toNat ≤ singleSensorMaxNum

/-! ## On the wire -/

def pairBytes (p : UInt8 × UInt8) : List UInt8 := [p.1, p.2]

/-- The list of an entry: its number and the pairs, or two zeros. -/
def listBytes (num : UInt8) (pairs : List (UInt8 × UInt8)) : List UInt8 :=
  num :: if num = 0 then [0, 0] else pairs.flatMap pairBytes

def entryBytes (e : SensorEntry) : List UInt8 := e.type :: listBytes e.num e.pairs

def readPair : Reader UInt8 (UInt8 × UInt8)
  | a :: b :: bs => some ((a, b), bs)
  | _ => none

/-- The pairs of an entry with the given number. -/
def readPairs (num : UInt8) : Reader UInt8 (List (UInt8 × UInt8)) := fun bs =>
  if num = 0 then (readPair bs).map fun r => ([], r.2) else readMany readPair num.toNat bs

def readEntry : Reader UInt8 SensorEntry
  | type :: num :: bs => (readPairs num bs).map fun r => (⟨type, num, r.1⟩, r.2)
  | _ => none

/-- What was read, if one byte is left. -/
def beforeChecksum : Option (List SensorEntry × List UInt8) → Option (List SensorEntry)
  | some (es, [_]) => some es
  | _ => none

/-- The head of the reply, four entries, and the checksum. -/
def decodeDeviceAttr (reply : List UInt8) : Option (List SensorEntry) :=
  if reply.take 5 = [protocolHead1, protocolHead2, protocolAckGetDeviceAttr, alarmDeviceId,
      sensorTypeNum] then
    beforeChecksum (readMany readEntry sensorTypeNum.toNat (reply.drop 5))
  else none

private theorem inverts_readPair (p : UInt8 × UInt8) : Inverts readPair pairBytes p := fun _ => rfl

/-- An entry that has as many pairs as its number says is read back. -/
theorem inverts_readEntry {e : SensorEntry} (h : e.pairs.length = e.num.toNat) :
    Inverts readEntry entryBytes e := by
  intro rest
  obtain ⟨type, num, pairs⟩ := e
  show (readPairs num ((if num = 0 then [0, 0] else pairs.flatMap pairBytes) ++ rest)).map _ = _
  by_cases hnum : num = 0
  · subst hnum
    obtain rfl : pairs = [] := List.eq_nil_of_length_eq_zero h
    rfl
  · have hpairs := inverts_many pairs (fun p _ => inverts_readPair p) rest
    rw [if_neg hnum, readPairs, if_neg hnum, ← h, hpairs]
    rfl

private theorem storedEntry_length (conf : Mem) (k : Nat) :
    (storedEntry conf k).pairs.length = (storedEntry conf k).num.toNat := by
  simp [storedEntry]

/-- The reply of `GET_DEVICE_ATTR`, as bytes. -/
def deviceAttrBytes (conf : Mem) : List UInt8 :=
  [protocolHead1, protocolHead2, protocolAckGetDeviceAttr, alarmDeviceId, sensorTypeNum] ++
    (storedEntries conf).flatMap entryBytes ++ [0]

private theorem decodeDeviceAttr_bytes (conf : Mem) :
    decodeDeviceAttr (deviceAttrBytes conf) = some (storedEntries conf) := by
  have hread : Inverts (readMany readEntry 4) (List.flatMap entryBytes) (storedEntries conf) := by
    refine inverts_many (storedEntries conf) fun e he => ?_
    obtain ⟨k, -, rfl⟩ := List.mem_map.mp he
    exact inverts_readEntry (storedEntry_length conf k)
  have hhead : (deviceAttrBytes conf).take 5 =
      [protocolHead1, protocolHead2, protocolAckGetDeviceAttr, alarmDeviceId, sensorTypeNum] := rfl
  have hbody : (deviceAttrBytes conf).drop 5 = (storedEntries conf).flatMap entryBytes ++ [0] := rfl
  rw [decodeDeviceAttr, if_pos hhead, hbody]
  exact congrArg beforeChecksum (hread [0])

/-! ## The reply of `GET_DEVICE_ATTR` -/

/-- The bytes that a loop over pairs writes; its index is a `u8`. -/
theorem putPairs_slice (a b : Nat → UInt8) (m : Mem) (off n : Nat) (hn : n ≤ 8) :
    slice (forUpTo n (fun j m =>
        let i := 2 * j % 256
        store (store m (off + 2 + i) (a j)) (off + 3 + i) (b j)) m) 0 (off + 2 + 2 * n) =
      slice m 0 (off + 2) ++ ((List.range n).map fun j => (a j, b j)).flatMap pairBytes := by
  induction n with
  | zero => exact (List.append_nil _).symm
  | succ n ih =>
      have hmod : 2 * n % 256 = 2 * n := Nat.mod_eq_of_lt (by omega)
      rw [forUpTo_succ, Nat.mul_succ, ← Nat.add_assoc, slice_add, Nat.zero_add, List.range_succ,
        List.map_append, List.flatMap_append, ← List.append_assoc, ← ih (by omega)]
      dsimp only
      rw [hmod]
      congr 1
      · rw [slice_eq_iff]
        intro i hi
        rw [store_ne _ _ (by omega), store_ne _ _ (by omega)]
      · rw [slice_succ, slice_succ, slice_zero, store_ne _ _ (by omega), store_self,
          show off + 2 + 2 * n + 1 = off + 3 + 2 * n by omega, store_self]
        rfl

/-- Its head. -/
theorem putHead_slice (m : Mem) (off : Nat) (type num : UInt8) :
    slice (store (store m off type) (off + 1) num) 0 (off + 2) = slice m 0 off ++ [type, num] := by
  rw [slice_add, Nat.zero_add]
  congr 1
  · rw [slice_eq_iff]
    intro i hi
    rw [store_ne _ _ (by omega), store_ne _ _ (by omega)]
  · rw [slice_succ, slice_succ, slice_zero, store_ne _ _ (by omega), store_self, store_self]

/-- `get_one_sensor_buf` appends an entry. -/
theorem getOneSensorBuf_slice {conf : Mem} {k : Nat}
    (h : (sensorNum conf k).toNat ≤ singleSensorMaxNum) (m : Mem) (off : Nat) :
    (getOneSensorBuf conf k m off).2 = (entryBytes (storedEntry conf k)).length ∧
      slice (getOneSensorBuf conf k m off).1 0 (off + (getOneSensorBuf conf k m off).2) =
        slice m 0 off ++ entryBytes (storedEntry conf k) := by
  have hhead := putHead_slice m off (sensorType conf k) (sensorNum conf k)
  by_cases h0 : (sensorNum conf k).toNat = 0
  · have hnum : sensorNum conf k = 0 := UInt8.toNat_inj.mp h0
    have hbytes : entryBytes (storedEntry conf k) =
        [sensorType conf k, sensorNum conf k, 0, 0] := by
      show sensorType conf k :: sensorNum conf k :: (if sensorNum conf k = 0 then [0, 0] else _) = _
      rw [if_pos hnum]
    unfold getOneSensorBuf
    simp only [if_pos h0]
    rw [hbytes]
    refine ⟨rfl, ?_⟩
    show slice _ 0 (off + 2 + 2) = _
    rw [show off + 3 = off + 2 + 1 from rfl, putHead_slice, hhead, List.append_assoc]
    rfl
  · have hnum : sensorNum conf k ≠ 0 := fun h => h0 (by rw [h]; rfl)
    have hbytes : entryBytes (storedEntry conf k) =
        [sensorType conf k, sensorNum conf k] ++
          ((List.range (sensorNum conf k).toNat).map (storedPair conf k)).flatMap pairBytes := by
      show sensorType conf k :: sensorNum conf k :: (if sensorNum conf k = 0 then [0, 0] else _) = _
      rw [if_neg hnum]
      rfl
    have hpairs : slice _ 0 _ = _ ++ ((List.range _).map (storedPair conf k)).flatMap pairBytes :=
      putPairs_slice (sensorSeqNum conf k) (sensorAttr conf k)
        (store (store m off (sensorType conf k)) (off + 1) (sensorNum conf k)) off
        (sensorNum conf k).toNat h
    rw [hhead, List.append_assoc, ← hbytes] at hpairs
    have hlen : (getOneSensorBuf conf k m off).2 = 2 + 2 * (sensorNum conf k).toNat := by
      unfold getOneSensorBuf
      simp only [if_neg h0]
    have hbuf : slice (getOneSensorBuf conf k m off).1 0 (off + 2 + 2 * (sensorNum conf k).toNat) =
        slice m 0 off ++ entryBytes (storedEntry conf k) := by
      rw [← hpairs]
      unfold getOneSensorBuf
      simp only [if_neg h0]
    have hsize := congrArg List.length hbuf
    rw [slice_length, List.length_append, slice_length] at hsize
    rw [hlen, ← Nat.add_assoc]
    exact ⟨by omega, hbuf⟩

/-- `get_all_sensor_buf` appends the four entries. -/
theorem getAllSensorBuf_slice {conf : Mem} (h : SmallTable conf) (m : Mem) (off : Nat) :
    slice (getAllSensorBuf conf m off).1 0 (off + (getAllSensorBuf conf m off).2) =
      slice m 0 off ++ (storedEntries conf).flatMap entryBytes := by
  simp only [getAllSensorBuf]
  have h0 := fun m off => (getOneSensorBuf_slice (h sensorTypeUart (by decide)) m off).2
  have h1 := fun m off => (getOneSensorBuf_slice (h sensorTypeIoIn (by decide)) m off).2
  have h2 := fun m off => (getOneSensorBuf_slice (h sensorTypeIoOut (by decide)) m off).2
  have h3 := fun m off => (getOneSensorBuf_slice (h sensorTypeSingleBus (by decide)) m off).2
  simp only [← Nat.add_assoc]
  rw [h3, h2, h1, h0]
  simp only [storedEntries, List.map_cons, List.map_nil, List.flatMap_cons, List.flatMap_nil,
    List.append_nil, List.append_assoc]

/-- The bytes of an event that is a reply. -/
def replyOf : Event → Option (List UInt8)
  | .reply r => some r
  | _ => none

/-- The replies among the events. -/
def replies (es : List Event) : List (List UInt8) := es.filterMap replyOf

/-- The ghost record has no replies. -/
theorem replies_sensorIndices_append (n : Nat) (es : List Event) :
    replies (sensorIndices n ++ es) = replies es := by
  have hnone : replies (sensorIndices n) = [] := by
    refine List.filterMap_eq_nil_iff.mpr fun e he => ?_
    obtain ⟨j, -, rfl⟩ := List.mem_map.mp he
    rfl
  rw [replies, List.filterMap_append]
  exact (congrArg (· ++ replies es) hnone).trans (List.nil_append _)

/-- `GET_DEVICE_ATTR` is answered with the entries of the configuration. -/
theorem getDeviceAttr_replies {d : Device} (h : SmallTable d.conf) :
    replies (getDeviceAttr d).2 = [deviceAttrBytes d.conf] := by
  have hbuf := getAllSensorBuf_slice h
    (store (makeAckHead d.bufSend protocolAckGetDeviceAttr) 4 sensorTypeNum) 5
  have hsend : (send d (makeAckGetDeviceAttr d.conf d.bufSend)).2 =
      [.reply (deviceAttrBytes d.conf)] := by
    rw [send, makeAckGetDeviceAttr]
    simp only [slice_finish]
    rw [slice_ackHead] at hbuf
    rw [deviceAttrBytes, ← hbuf]
    congr 3
    rw [slice_eq_iff]
    intro i hi
    exact store_ne _ _ (by omega)
  unfold getDeviceAttr
  simp only [Outcome.andThen, List.append_assoc, sensorReads, replies_sensorIndices_append, hsend]
  rfl

/-! ## `SET_DEVICE_ATTR` -/

/-- A complete `SET_DEVICE_ATTR` packet: a number of at most 8, so many pairs, and what
follows, the checksum at least.  `accepted` is the length test of `check_for_set_device_attr`,
which asks a packet without pairs for one byte more. -/
structure SetDeviceAttr where
  pairs : List (UInt8 × UInt8)
  few : pairs.length ≤ singleSensorMaxNum
  tail : List UInt8
  checksum : tail ≠ []
  accepted : 7 ≤ 5 + 2 * pairs.length + tail.length
  short : 5 + 2 * pairs.length + tail.length ≤ 100

/-- The number in the packet. -/
def SetDeviceAttr.num (c : SetDeviceAttr) : UInt8 := UInt8.ofNat c.pairs.length

def SetDeviceAttr.bytes (c : SetDeviceAttr) : List UInt8 :=
  [protocolHead1, protocolHead2, Command.setDeviceAttr.code, alarmDeviceId, c.num] ++
    c.pairs.flatMap pairBytes ++ c.tail

private theorem pairs_length (ps : List (UInt8 × UInt8)) :
    (ps.flatMap pairBytes).length = 2 * ps.length := by
  induction ps with
  | nil => rfl
  | cons p ps ih =>
      rw [List.flatMap_cons, List.length_append, ih, List.length_cons]
      show 2 + 2 * ps.length = _
      omega

theorem SetDeviceAttr.bytes_length (c : SetDeviceAttr) :
    c.bytes.length = 5 + 2 * c.pairs.length + c.tail.length := by
  rw [SetDeviceAttr.bytes, List.length_append, List.length_append, pairs_length]
  rfl

def SetDeviceAttr.packet (c : SetDeviceAttr) : Packet where
  bytes := c.bytes
  nonempty := by
    rw [c.bytes_length]
    omega
  short := by
    rw [c.bytes_length]
    exact c.short

/-- The reply that echoes the packet's list. -/
def SetDeviceAttr.echo (c : SetDeviceAttr) : List UInt8 :=
  [protocolHead1, protocolHead2, protocolAckSetDeviceAttr, alarmDeviceId] ++
    listBytes c.num c.pairs ++ [0]

private theorem SetDeviceAttr.num_toNat (c : SetDeviceAttr) : c.num.toNat = c.pairs.length := by
  have hfew := c.few
  simp only [singleSensorMaxNum] at hfew
  rw [SetDeviceAttr.num, UInt8.toNat_ofNat']
  omega

/-- Pair `j` of the packet is at bytes `5 + 2 * j` and `6 + 2 * j`. -/
theorem pairs_getElem? (ps : List (UInt8 × UInt8)) (rest : List UInt8) {j : Nat}
    (hj : j < ps.length) :
    (ps.flatMap pairBytes ++ rest)[2 * j]? = some ps[j].1 ∧
      (ps.flatMap pairBytes ++ rest)[2 * j + 1]? = some ps[j].2 := by
  induction ps generalizing j with
  | nil => exact absurd hj (Nat.not_lt_zero j)
  | cons p ps ih =>
      cases j with
      | zero => exact ⟨rfl, rfl⟩
      | succ j => exact ih (Nat.lt_of_succ_lt_succ hj)

/-- The packet in the buffer. -/
structure InBuffer (c : SetDeviceAttr) (cmd : Mem) : Prop where
  accepted : Accepted 7 Command.setDeviceAttr.code cmd c.bytes.length
  num : cmd 4 = c.num
  pairs : ∀ j (hj : j < c.pairs.length), (cmd (5 + 2 * j), cmd (6 + 2 * j)) = c.pairs[j]

theorem inBuffer (buf : Mem) (c : SetDeviceAttr) : InBuffer c (received buf c.packet) where
  accepted := ⟨by rw [c.bytes_length]; exact c.accepted, rfl, rfl, rfl, rfl⟩
  num := rfl
  pairs j hj := by
    obtain ⟨h1, h2⟩ := pairs_getElem? c.pairs c.tail hj
    have hbyte : ∀ {i v}, (c.pairs.flatMap pairBytes ++ c.tail)[i]? = some v →
        received buf c.packet (5 + i) = v := by
      intro i v h
      have hget : c.bytes[5 + i]? = some v := by
        rw [SetDeviceAttr.bytes, List.append_assoc, List.getElem?_append_right (by simp)]
        simpa using h
      have hhit := blit_of_getElem? buf 0 hget
      rwa [Nat.zero_add] at hhit
    rw [show 6 + 2 * j = 5 + (2 * j + 1) by omega, hbyte h1, hbyte h2]

/-- The pairs that `set_one_sensor_buf` stores. -/
theorem setOneSensorBuf_pairs (buf sensor : Mem) (hnum : (buf 0).toNat ≤ singleSensorMaxNum)
    (j : Nat) (hj : j < (buf 0).toNat) :
    (setOneSensorBuf buf sensor).1 (2 + j) = buf (1 + 2 * j) ∧
      (setOneSensorBuf buf sensor).1 (10 + j) = buf (2 + 2 * j) := by
  have hloop : ∀ n, n ≤ 8 → ∀ i, i < n →
      let m := forUpTo n (fun j sensor =>
        store (store sensor (2 + j) (buf (1 + 2 * j))) (10 + j) (buf (2 + 2 * j)))
        (store sensor 1 (buf 0))
      m (2 + i) = buf (1 + 2 * i) ∧ m (10 + i) = buf (2 + 2 * i) := by
    intro n
    induction n with
    | zero => exact fun _ i hi => absurd hi (Nat.not_lt_zero i)
    | succ n ih =>
        intro hn i hi
        simp only [forUpTo_succ]
        by_cases hin : i = n
        · subst hin
          rw [store_ne _ _ (by omega), store_self, store_self]
          exact ⟨rfl, rfl⟩
        · rw [store_ne _ _ (by omega), store_ne _ _ (by omega), store_ne _ _ (by omega),
            store_ne _ _ (by omega)]
          exact ih (by omega) i (by omega)
  unfold setOneSensorBuf
  rw [if_neg (by omega), if_neg (by omega)]
  exact hloop _ hnum j hj

theorem setOneSensorBuf_events (buf sensor : Mem) :
    ∃ n, (setOneSensorBuf buf sensor).2 = sensorIndices n := by
  unfold setOneSensorBuf
  dsimp only
  split
  · exact ⟨1, rfl⟩
  · split
    · exact ⟨0, rfl⟩
    · exact ⟨_, rfl⟩

/-- The entry depends on its 18 bytes. -/
theorem storedEntry_congr {conf conf' : Mem} {k : Nat}
    (h : ∀ i, i < sensorSize → conf' (sensorOff k + i) = conf (sensorOff k + i))
    (hnum : (sensorNum conf k).toNat ≤ singleSensorMaxNum) :
    storedEntry conf' k = storedEntry conf k := by
  have htype : sensorType conf' k = sensorType conf k := h 0 (by decide)
  have hsame : sensorNum conf' k = sensorNum conf k := h 1 (by decide)
  simp only [singleSensorMaxNum] at hnum
  rw [storedEntry, storedEntry, htype, hsame]
  congr 1
  apply List.map_congr_left
  intro j hj
  have hj := List.mem_range.mp hj
  rw [storedPair, storedPair, Prod.mk.injEq]
  simp only [sensorSeqNum, sensorAttr, Nat.add_assoc]
  exact ⟨h (2 + j) (by simp only [sensorSize]; omega),
    h (10 + j) (by simp only [sensorSize]; omega)⟩

/-- The `IO_IN` entry after the command. -/
def SetDeviceAttr.entry (c : SetDeviceAttr) (conf : Mem) : SensorEntry :=
  ⟨sensorType conf sensorTypeIoIn, c.num, c.pairs⟩

/-- The configuration after the command. -/
def setConf (env : Env) (cmd : Mem) (d : Device) : Mem :=
  storeSensor d.conf sensorTypeIoIn
    (setOneSensorBuf (shift cmd 4) (loadSensor env.stack d.conf sensorTypeIoIn)).1

/-- The `IO_IN` entry gets the packet's list and keeps its type. -/
theorem setConf_ioIn (env : Env) {c : SetDeviceAttr} {cmd : Mem} (h : InBuffer c cmd) (d : Device) :
    storedEntry (setConf env cmd d) sensorTypeIoIn = c.entry d.conf := by
  have hbyte : ∀ i, i < sensorSize → setConf env cmd d (sensorOff sensorTypeIoIn + i) =
      (setOneSensorBuf (shift cmd 4) (loadSensor env.stack d.conf sensorTypeIoIn)).1 i :=
    fun i hi => storeSensor_hit _ _ _ _ hi
  obtain ⟨htype, hnum, -⟩ := setOneSensorBuf_spec (shift cmd 4)
    (loadSensor env.stack d.conf sensorTypeIoIn)
  have htype : sensorType (setConf env cmd d) sensorTypeIoIn =
      sensorType d.conf sensorTypeIoIn := by
    rw [sensorType, ← Nat.add_zero (sensorOff _), hbyte 0 (by decide), htype,
      loadSensor_hit _ _ _ _ (by decide)]
    rfl
  have hnum : sensorNum (setConf env cmd d) sensorTypeIoIn = c.num := by
    rw [sensorNum, hbyte 1 (by decide), hnum, shift_apply]
    exact h.num
  have hlen : (shift cmd 4 0).toNat = c.pairs.length := by
    rw [shift_apply, Nat.add_zero, h.num, c.num_toNat]
  have hfew := c.few
  have hpairs := setOneSensorBuf_pairs (shift cmd 4)
    (loadSensor env.stack d.conf sensorTypeIoIn) (by rw [hlen]; exact hfew)
  rw [hlen] at hpairs
  simp only [singleSensorMaxNum] at hfew
  rw [storedEntry, htype, hnum, c.num_toNat, SetDeviceAttr.entry]
  congr 1
  apply List.ext_getElem
  · simp
  · intro j _ hj
    obtain ⟨hseq, hattr⟩ := hpairs j hj
    rw [List.getElem_map, List.getElem_range, ← h.pairs j hj, storedPair, sensorSeqNum, sensorAttr,
      Nat.add_assoc, Nat.add_assoc, hbyte (2 + j) (by simp only [sensorSize]; omega),
      hbyte (10 + j) (by simp only [sensorSize]; omega), hseq, hattr, shift_apply, shift_apply,
      show 4 + (1 + 2 * j) = 5 + 2 * j by omega, show 4 + (2 + 2 * j) = 6 + 2 * j by omega]

/-- The other entries stay. -/
theorem setConf_other (env : Env) (cmd : Mem) {d : Device} (hsmall : SmallTable d.conf) {k : Nat}
    (hk : k < 4) (hne : k ≠ sensorTypeIoIn) :
    storedEntry (setConf env cmd d) k = storedEntry d.conf k := by
  refine storedEntry_congr (fun i hi => ?_) (hsmall k hk)
  simp only [sensorTypeIoIn] at hne
  apply storeSensor_outside
  simp only [sensorOff, sensorSize, sensorTypeIoIn] at hi ⊢
  omega

private theorem setConf_entries (env : Env) {c : SetDeviceAttr} {cmd : Mem} (h : InBuffer c cmd)
    {d : Device}
    (hsmall : SmallTable d.conf) :
    storedEntries (setConf env cmd d) = (storedEntries d.conf).set sensorTypeIoIn
      (c.entry d.conf) := by
  simp only [storedEntries, List.map_cons, List.map_nil]
  rw [setConf_ioIn env h, setConf_other env cmd hsmall (by decide) (by decide),
    setConf_other env cmd hsmall (by decide) (by decide),
    setConf_other env cmd hsmall (by decide) (by decide)]
  rfl

private theorem setConf_small (env : Env) {c : SetDeviceAttr} {cmd : Mem} (h : InBuffer c cmd)
    {d : Device} (hsmall : SmallTable d.conf) : SmallTable (setConf env cmd d) := by
  intro k hk
  by_cases hk1 : k = sensorTypeIoIn
  · have hnum := congrArg SensorEntry.num (setConf_ioIn env h d)
    rw [hk1]
    show (storedEntry (setConf env cmd d) sensorTypeIoIn).num.toNat ≤ _
    rw [hnum]
    show c.num.toNat ≤ _
    rw [c.num_toNat]
    exact c.few
  · have hnum := congrArg SensorEntry.num (setConf_other env cmd hsmall hk hk1)
    show (storedEntry (setConf env cmd d) k).num.toNat ≤ _
    rw [hnum]
    exact hsmall k hk

/-- A list in range has between 1 and 17 bytes. -/
theorem listBytes_length {conf : Mem} {k : Nat}
    (h : (sensorNum conf k).toNat ≤ singleSensorMaxNum) :
    (listBytes (storedEntry conf k).num (storedEntry conf k).pairs).length ≤ 17 := by
  have hpairs := storedEntry_length conf k
  have hnum : (storedEntry conf k).num.toNat ≤ 8 := h
  rw [listBytes]
  split
  · simp
  · rw [List.length_cons, pairs_length]
    omega

/-- The length of the record goes through a `u8`, and less one to `memcpy`. -/
theorem cnt_toNat {n : Nat} (hn : n % 256 ≠ 0) :
    (UInt8.ofNat n).toNat = n % 256 ∧ ((UInt8.ofNat n).toUInt32 - 1).toNat = n % 256 - 1 := by
  have hcnt : (UInt8.ofNat n).toNat = n % 256 := UInt8.toNat_ofNat'
  have hle : (1 : UInt32) ≤ (UInt8.ofNat n).toUInt32 := by
    rw [UInt32.le_iff_toNat_le, UInt8.toNat_toUInt32, hcnt]
    exact Nat.pos_of_ne_zero hn
  refine ⟨hcnt, ?_⟩
  rw [UInt32.toNat_sub_of_le _ _ hle, UInt8.toNat_toUInt32, hcnt]
  rfl

/-- The reply is the entry without its type. -/
theorem makeAckSetDeviceAttr_slice (stack : Mem) {conf : Mem}
    (h : (sensorNum conf sensorTypeIoIn).toNat ≤ singleSensorMaxNum) (m : Mem) :
    slice (makeAckSetDeviceAttr stack conf m).1 0 (makeAckSetDeviceAttr stack conf m).2 =
      [protocolHead1, protocolHead2, protocolAckSetDeviceAttr, alarmDeviceId] ++
        listBytes (storedEntry conf sensorTypeIoIn).num (storedEntry conf sensorTypeIoIn).pairs ++
        [0] := by
  obtain ⟨hlen, hbuf⟩ := getOneSensorBuf_slice h (fill stack 0 100 0) 0
  have hsize := listBytes_length h
  unfold makeAckSetDeviceAttr
  simp only
  generalize getOneSensorBuf conf sensorTypeIoIn (fill stack 0 100 0) 0 = r at hlen hbuf ⊢
  rw [entryBytes] at hlen hbuf
  generalize listBytes (storedEntry conf sensorTypeIoIn).num (storedEntry conf sensorTypeIoIn).pairs
    = bytes at hlen hbuf hsize ⊢
  rw [List.length_cons] at hlen
  have hmod : (bytes.length + 1) % 256 = bytes.length + 1 := Nat.mod_eq_of_lt (by omega)
  obtain ⟨hcnt, hcopy⟩ := cnt_toNat (n := bytes.length + 1) (by omega)
  rw [hmod] at hcnt hcopy
  rw [Nat.add_sub_cancel] at hcopy
  have hbytes : slice r.1 1 bytes.length = bytes := by
    rw [hlen, Nat.zero_add, slice_succ, slice_zero] at hbuf
    exact (List.cons.inj hbuf).2
  rw [hlen, hcnt, hcopy, hbytes]
  rw [show 4 + (bytes.length + 1) - 1 = 4 + bytes.length by omega,
    show 4 + (bytes.length + 1) = 4 + bytes.length + 1 by omega]
  have hframe : ∀ v, slice (store (blit (makeAckHead m protocolAckSetDeviceAttr) 4 bytes)
      (4 + bytes.length) v) 0 (4 + bytes.length) =
      slice (blit (makeAckHead m protocolAckSetDeviceAttr) 4 bytes) 0 (4 + bytes.length) := by
    intro v
    rw [slice_eq_iff]
    intro i hi
    exact store_ne _ _ (by omega)
  have hhead : slice (blit (makeAckHead m protocolAckSetDeviceAttr) 4 bytes) 0 4 =
      [protocolHead1, protocolHead2, protocolAckSetDeviceAttr, alarmDeviceId] := by
    rw [slice_blit_disjoint _ _ (.inl (Nat.le_refl 4))]
    rfl
  rw [slice_add, hframe, slice_add, hhead, Nat.zero_add, slice_blit_self, slice_succ, slice_zero,
    Nat.zero_add, store_self]
  rfl

/-- The reply of `SET_DEVICE_ATTR` echoes the list of the packet. -/
theorem setDeviceAttr_replies (env : Env) {c : SetDeviceAttr} {cmd : Mem} (h : InBuffer c cmd)
    {d : Device} (hsmall : SmallTable d.conf) :
    replies (setDeviceAttr env cmd d).2 = [c.echo] ∧
      (setDeviceAttr env cmd d).1.conf = setConf env cmd d := by
  have hnew := setConf_small env h hsmall
  have hio := setConf_ioIn env h d
  have hconf : (setAlarminDeviceAttr env cmd d).1.conf = setConf env cmd d := by
    rw [setAlarminDeviceAttr, configSave_conf, setConf]
  have hevents : ∀ es, replies ((setAlarminDeviceAttr env cmd d).2 ++ es) = replies es := by
    intro es
    obtain ⟨n, hn⟩ := setOneSensorBuf_events (shift cmd 4)
      (loadSensor env.stack d.conf sensorTypeIoIn)
    rw [setAlarminDeviceAttr, hn, replies_sensorIndices_append]
  refine ⟨?_, hconf⟩
  unfold setDeviceAttr
  simp only [Outcome.andThen, hevents, sensorReads, replies_sensorIndices_append]
  rw [send, hconf, makeAckSetDeviceAttr_slice env.stack (hnew sensorTypeIoIn (by decide)), hio]
  rfl

/-! ## Set, then get -/

/-- A `GET_DEVICE_ATTR` reply is decoded to the four entries; a complete
`SET_DEVICE_ATTR` is answered with its own list, and the next `GET_DEVICE_ATTR` reply is
decoded to the entries before it with that list in the `IO_IN` entry. -/
theorem deviceAttr_decodes (s : Receiver) (h : SmallTable s.dev.conf) :
    (∃ r, replies (getDeviceAttr s.dev).2 = [r] ∧
        decodeDeviceAttr r = some (storedEntries s.dev.conf)) ∧
      ∀ (env : Env) (c : SetDeviceAttr),
        replies (clientStep env s c.packet).2 = [c.echo] ∧
          ∃ r, replies (getDeviceAttr (clientStep env s c.packet).1.dev).2 = [r] ∧
            decodeDeviceAttr r =
              some ((storedEntries s.dev.conf).set sensorTypeIoIn (c.entry s.dev.conf)) := by
  refine ⟨⟨_, getDeviceAttr_replies h, decodeDeviceAttr_bytes _⟩, fun env c => ?_⟩
  have hin := inBuffer s.buf c
  have hreach : Reaches (received s.buf c.packet) c.packet.bytes.length .setDeviceAttr :=
    Accepted.reaches hin.accepted
  have hstep := clientStep_reaches env s hreach
  obtain ⟨hecho, hconf⟩ := setDeviceAttr_replies env hin h
  rw [hstep]
  refine ⟨hecho, _, getDeviceAttr_replies ?_, ?_⟩
  · show SmallTable (setDeviceAttr env _ s.dev).1.conf
    rw [hconf]
    exact setConf_small env hin h
  · rw [decodeDeviceAttr_bytes]
    show some (storedEntries (setDeviceAttr env _ s.dev).1.conf) = _
    rw [hconf, setConf_entries env hin h]

/-- One alarm input is configured, and the other entries are empty. -/
def oneInput : Mem :=
  blit zero (sensorOff sensorTypeIoIn) [1, 1, 7, 0, 0, 0, 0, 0, 0, 0, 3]

/-- Two alarm inputs. -/
def twoInputs : SetDeviceAttr where
  pairs := [(1, 5), (2, 6)]
  few := by decide
  tail := [0]
  checksum := by decide
  accepted := by decide
  short := by decide

theorem deviceAttr_decodes_twoInputs :
    (∃ r, replies (getDeviceAttr (Device.start oneInput)).2 = [r] ∧
        decodeDeviceAttr r = some [⟨0, 0, []⟩, ⟨1, 1, [(7, 3)]⟩, ⟨0, 0, []⟩, ⟨0, 0, []⟩]) ∧
      replies (clientStep Env.idle ⟨zero, Device.start oneInput⟩ twoInputs.packet).2 =
          [[0x55, 0xaa, 0x04, 0x01, 2, 1, 5, 2, 6, 0]] ∧
        ∃ r, replies (getDeviceAttr
            (clientStep Env.idle ⟨zero, Device.start oneInput⟩ twoInputs.packet).1.dev).2 = [r] ∧
          decodeDeviceAttr r =
            some [⟨0, 0, []⟩, ⟨1, 2, [(1, 5), (2, 6)]⟩, ⟨0, 0, []⟩, ⟨0, 0, []⟩] := by
  have h := deviceAttr_decodes ⟨zero, Device.start oneInput⟩ (by unfold SmallTable; decide)
  exact ⟨h.1, h.2 Env.idle twoInputs⟩

end Itertk.Client.DeviceAttr
