import Itertk.Daemon.Uart

/-!
# The daemon's state and its outputs

`Device` collects the globals that the alarm-server handlers read and write,
`Env` what one round of a handler takes from outside (uninitialised stack bytes,
pin reads, the sensor file, the results of `write`), and `Event` what it does to
the outside: pins, terminal settings, serial data and replies on the socket.

Two conventions keep the memory behaviour of the C code visible.  An access past
the end of an array inside `g_conf_info` goes where the layout says.  A local
record is a `Mem` that starts as stack garbage; writes past its end stay in it,
and every use of a sensor index is recorded by the ghost event `sensorIndex`.
-/

namespace Itertk.Daemon.State

open Itertk.Base.Memory
open Itertk.Daemon.Layout

/-! ## State -/

/-- The globals of `client.c`, `com.c` and `gpio.c` that the handlers use. -/
structure Device where
  /-- `g_conf_info` and what lies behind it. -/
  conf : Mem
  /-- The image in `CONFIG_FILE`. -/
  saved : List UInt8
  /-- `buf_send`. -/
  bufSend : Mem
  /-- `get_com_attr.id`. -/
  getComAttrId : UInt32
  /-- `get_com_attr_max` and what lies behind it. -/
  getComAttrMax : Mem
  /-- `g_uart_send_cnt`. -/
  uartSendCnt : UInt16
  heartbeatS : UInt8
  heartbeatTimeout : UInt16
  /-- `g_reconnect_flag`. -/
  reconnectFlag : Nat
  /-- `rs_type`. -/
  rsType : UInt8
  gcomfd : UInt32 → Int
  uart1Cnt : UInt16
  uart2Cnt : UInt16
  uart1RecvBuf : Mem
  uart2RecvBuf : Mem
  /-- `g_alarm_in` and what lies behind it. -/
  alarmIn : Mem

/-- What one handled packet takes from outside the program. -/
structure Env where
  /-- Uninitialised stack bytes. -/
  stack : Mem
  /-- The byte `fread` gets from a pin at its `i`-th call, if it succeeds. -/
  gpioRead : Nat → Nat → Option UInt8
  /-- What `read` gets from `/proc/am2301`; empty when it fails. -/
  am2301 : List UInt8
  /-- The results of the successive `write` or `ioctl` calls on the port; when
  they run out the last call is still blocked. -/
  writes : List Int

/-- The globals at program start, before a port is opened. -/
def Device.start (conf : Mem) : Device where
  conf := conf
  saved := slice conf 0 confSize
  bufSend := zero
  getComAttrId := 0
  getComAttrMax := zero
  uartSendCnt := 0
  heartbeatS := 10
  heartbeatTimeout := 0
  reconnectFlag := 0
  rsType := 0
  gcomfd := fun _ => 0
  uart1Cnt := 0
  uart2Cnt := 0
  uart1RecvBuf := zero
  uart2RecvBuf := zero
  alarmIn := zero

/-- A round in which nothing comes from outside. -/
def Env.idle : Env where
  stack := zero
  gpioRead := fun _ _ => none
  am2301 := []
  writes := []

/-- What the outside sees, and the ghost record of sensor indices. -/
inductive Event where
  /-- `set_gpio(pin, GD_OUT, level)`. -/
  | gpio (pin : Nat) (level : UInt8)
  /-- `setTTY` on an open descriptor. -/
  | tty (fd : Int) (bps : UInt32) (dbit chk : UInt8) (sbit : UInt32)
  /-- One `write` or `ioctl` call on a port with the data still to send. -/
  | serial (fd : Int) (data : List UInt8)
  /-- `write(g_sockfd_client, buf_send, n)`. -/
  | reply (bytes : List UInt8)
  /-- The same with a length no statement has assigned. -/
  | replyUndefined (buf : Mem)
  /-- Ghost: an index used into `seq_num` and `attr`. -/
  | sensorIndex (j : Nat)

/-- Everything but the ghost record is visible outside. -/
def Event.visible : Event → Bool
  | .sensorIndex _ => false
  | _ => true

/-- The ghost record of a loop over `n` sensor entries. -/
def sensorIndices (n : Nat) : List Event := (List.range n).map Event.sensorIndex

/-- A handler's new state and what it did, in order. -/
abbrev Outcome := Device × List Event

/-- `h` after `o`. -/
def Outcome.andThen (o : Outcome) (h : Device → Outcome) : Outcome :=
  ((h o.1).1, o.2 ++ (h o.1).2)

/-! ## `config_save` and local copies of a sensor record -/

/-- An assignment to `g_conf_info` and `config_save(&g_conf_info)`, on a writable
file. -/
def configSave (d : Device) (conf : Mem) : Device :=
  { d with conf := conf, saved := slice conf 0 confSize }

@[simp] theorem configSave_conf (d : Device) (conf : Mem) : (configSave d conf).conf = conf := by
  rw [configSave]

@[simp] theorem configSave_saved (d : Device) (conf : Mem) :
    (configSave d conf).saved = slice conf 0 confSize := by
  rw [configSave]

/-- `sizeof(CONFIG_SENSOR)`. -/
def sensorSize : Nat := 18

/-- `memcpy(&local, &g_conf_info.con_sensor[k], sizeof(CONFIG_SENSOR))`. -/
def loadSensor (stack conf : Mem) (k : Nat) : Mem :=
  blit stack 0 (slice conf (sensorOff k) sensorSize)

/-- `memcpy(&g_conf_info.con_sensor[k], &local, sizeof(CONFIG_SENSOR))`. -/
def storeSensor (conf : Mem) (k : Nat) (sensor : Mem) : Mem :=
  blit conf (sensorOff k) (slice sensor 0 sensorSize)

theorem storeSensor_hit (conf sensor : Mem) (k i : Nat) (hi : i < sensorSize) :
    storeSensor conf k sensor (sensorOff k + i) = sensor i := by
  have hlen : i < (slice sensor 0 sensorSize).length := by rw [slice_length]; exact hi
  rw [storeSensor, blit_hit _ _ _ _ hlen, getElem_slice, Nat.zero_add]

theorem storeSensor_outside (conf sensor : Mem) (k i : Nat)
    (hi : i < sensorOff k ∨ sensorOff k + sensorSize ≤ i) :
    storeSensor conf k sensor i = conf i :=
  blit_outside _ _ (by rw [slice_length]; exact hi)

theorem loadSensor_hit (stack conf : Mem) (k i : Nat) (hi : i < sensorSize) :
    loadSensor stack conf k i = conf (sensorOff k + i) := by
  have hlen : i < (slice conf (sensorOff k) sensorSize).length := by rw [slice_length]; exact hi
  have h := blit_hit stack 0 i _ hlen
  rw [Nat.zero_add] at h
  rw [loadSensor, h, getElem_slice]

theorem storeSensor_congr (conf : Mem) (k : Nat) {sensor sensor' : Mem}
    (h : AgreeBelow sensorSize sensor sensor') :
    storeSensor conf k sensor = storeSensor conf k sensor' := by
  rw [storeSensor, storeSensor, h.slice (by omega)]

/-- Storing a record changes nothing exactly when it is the stored one. -/
theorem storeSensor_eq_iff (conf sensor : Mem) (k : Nat) :
    storeSensor conf k sensor = conf ↔ ∀ i, i < sensorSize → sensor i = conf (sensorOff k + i) := by
  constructor
  · intro h i hi
    rw [← storeSensor_hit conf sensor k i hi, h]
  · intro h
    funext a
    by_cases ha : a < sensorOff k ∨ sensorOff k + sensorSize ≤ a
    · exact storeSensor_outside conf sensor k a ha
    · obtain ⟨i, rfl⟩ : ∃ i, a = sensorOff k + i := ⟨a - sensorOff k, by omega⟩
      have hi : i < sensorSize := by omega
      rw [storeSensor_hit conf sensor k i hi, h i hi]

/-! ## Serial ports -/

/-- `com_set`: `com_para_set` acts on an open descriptor only. -/
def comSet (d : Device) (c : ConfigCom) : Outcome :=
  let fd := d.gcomfd (c.id - 1)
  if fd > 0 then
    ({ d with rsType := c.type }, [.tty fd c.bps c.dbit c.chk c.sbit])
  else (d, [])

/-- `com_set` does nothing to a closed port, or sets the type and programs it. -/
theorem comSet_cases (d : Device) (c : ConfigCom) :
    comSet d c = (d, []) ∨
      comSet d c = ({ d with rsType := c.type },
        [.tty (d.gcomfd (c.id - 1)) c.bps c.dbit c.chk c.sbit]) := by
  unfold comSet
  by_cases h : d.gcomfd (c.id - 1) > 0
  · exact .inr (if_pos h)
  · exact .inl (if_neg h)

theorem comSet_conf (d : Device) (c : ConfigCom) : (comSet d c).1.conf = d.conf := by
  rcases comSet_cases d c with h | h <;> rw [h]

theorem comSet_visible (d : Device) (c : ConfigCom) : ∀ e ∈ (comSet d c).2, e.visible = true := by
  rcases comSet_cases d c with h | h <;> rw [h] <;> simp [Event.visible]

/-- The loop of `writen` and `writen_rs485`: repeat the call on what is left
until nothing is left or a call fails.  `none` is a call that has not returned. -/
def writenLoop (fd : Int) (nbytes : Nat) :
    List Int → (data : List UInt8) → Option Int × List Event
  | [], data =>
      if data = [] then (some nbytes, []) else (none, [.serial fd data])
  | r :: rs, data =>
      if data = [] then (some nbytes, [])
      else if r < 0 then (some r, [.serial fd data])
      else
        let rest := writenLoop fd nbytes rs (data.drop r.toNat)
        (rest.1, .serial fd data :: rest.2)

/-- `writen(fd, data, nbytes)`, by `write`. -/
def writen (env : Env) (fd : Int) (data : List UInt8) : Option Int × List Event :=
  writenLoop fd data.length env.writes data

/-- `writen_rs485(fd, data, nbytes)`: the same loop, by `ioctl` under the lock. -/
def writenRs485 (env : Env) (fd : Int) (data : List UInt8) : Option Int × List Event :=
  writenLoop fd data.length env.writes data

/-- `SendNetDataToCom`. -/
def sendNetDataToCom (env : Env) (d : Device) (id : UInt32) (data : List UInt8) :
    Option Int × List Event :=
  if d.rsType = 0 then writen env (d.gcomfd id) data
  else if d.rsType = 1 then writenRs485 env (d.gcomfd id) data
  else (some (-1), [])

/-- Every event of the write loop is a call on the port. -/
theorem writenLoop_events (fd : Int) (nbytes : Nat) (rs : List Int) (data : List UInt8) :
    ∀ e ∈ (writenLoop fd nbytes rs data).2, ∃ rest, e = Event.serial fd rest := by
  induction rs generalizing data with
  | nil =>
      intro e he
      unfold writenLoop at he
      split at he
      · simp at he
      · exact ⟨data, by simpa using he⟩
  | cons r rs ih =>
      intro e he
      unfold writenLoop at he
      split at he
      · simp at he
      · split at he
        · exact ⟨data, by simpa using he⟩
        · rcases List.mem_cons.mp he with rfl | he
          · exact ⟨data, rfl⟩
          · exact ih _ e he

/-- A non-empty block starts with a call on the whole block. -/
theorem writenLoop_head (fd : Int) (nbytes : Nat) (rs : List Int) {data : List UInt8}
    (h : data ≠ []) : ∃ es, (writenLoop fd nbytes rs data).2 = .serial fd data :: es := by
  cases rs with
  | nil => exact ⟨[], by rw [writenLoop, if_neg h]⟩
  | cons r rs =>
      rw [writenLoop, if_neg h]
      by_cases hr : r < 0
      · exact ⟨[], by rw [if_pos hr]⟩
      · exact ⟨_, by rw [if_neg hr]⟩

/-- A call that has not returned was made on some data. -/
theorem writenLoop_blocked {fd : Int} {nbytes : Nat} {rs : List Int} {data : List UInt8}
    (h : (writenLoop fd nbytes rs data).1 = none) : data ≠ [] := by
  intro hnil
  cases rs with
  | nil => rw [writenLoop, if_pos hnil] at h; cases h
  | cons r rs => rw [writenLoop, if_pos hnil] at h; cases h

/-! ## Heartbeat -/

def reconnectOff : Nat := 0
def reconnectOn : Nat := 1
def heartbeatOffline : Nat := 2
def heartbeatOnline : Nat := 3

/-- `set_heartbeat`. -/
def setHeartbeat (d : Device) (status : Nat) (time : UInt8) : Device :=
  if status = heartbeatOnline ∨ status = heartbeatOffline then
    { d with reconnectFlag := status, heartbeatS := time, heartbeatTimeout := 0 }
  else d

theorem setHeartbeat_conf (d : Device) (status : Nat) (time : UInt8) :
    (setHeartbeat d status time).conf = d.conf := by
  unfold setHeartbeat
  split <;> rfl

end Itertk.Daemon.State
