import Itertk.Client.Checks

/-!
# Reply builders

Each `make_ack_*` function writes into `buf_send` and returns the number of
bytes to send.  They are kept as writers of memory: what a builder leaves behind
in the buffer, the `u8` loop counters that wrap, and the reads past the end of a
sensor record are part of the result.

A builder's value is the new buffer and the length; `MAX_COM_PORT`,
`IO_OUT_NUM` and `TEMP_NUM` are the constants the fixed replies carry.
-/

namespace Itertk.Client.Replies

open Itertk.Base.Memory
open Itertk.Daemon.Layout
open Itertk.Daemon.Uart
open Itertk.Daemon.State
open Itertk.Client.Checks

/-! ## Acknowledge codes -/

def protocolAckGetDeviceAttr : UInt8 := 0x02
def protocolAckSetDeviceAttr : UInt8 := 0x04
def protocolAckGetAlarmStatus : UInt8 := 0x06
def protocolAckSetHeartbeat : UInt8 := 0x0a
def protocolAckUartQty : UInt8 := 0x0c
def protocolAckGetUartAttr : UInt8 := 0x0e
def protocolAckSetUartAttr : UInt8 := 0x10
def protocolAckQueryUartSendbuf : UInt8 := 0x12
def protocolAckUartSendData : UInt8 := 0x14
def protocolAckQueryUartRecvData : UInt8 := 0x17
def protocolAckGetIoNum : UInt8 := 0x19
def protocolAckGetIoStatus : UInt8 := 0x1c
def protocolAckGetTempNum : UInt8 := 0x21
def protocolAckGetTempStatus : UInt8 := 0x24

def ioOutNum : UInt8 := 4
def tempNum : UInt8 := 1
def sensorTypeNum : UInt8 := 4

/-- `con_sensor` entries. -/
def sensorTypeUart : Nat := 0
def sensorTypeIoIn : Nat := 1
def sensorTypeIoOut : Nat := 2
def sensorTypeSingleBus : Nat := 3

/-- `make_ack_head`. -/
def makeAckHead (m : Mem) (protocolId : UInt8) : Mem :=
  store (store (store (store m 0 protocolHead1) 1 protocolHead2) 2 protocolId) 3 alarmDeviceId

/-- The last byte of every reply: `m[n] = make_crc_num(m, n)`, and the length. -/
def finish (m : Mem) (n : Nat) : Mem × Nat := (store m n (makeCrcNum m n), n + 1)

/-- What is sent ends with the checksum. -/
theorem slice_finish (m : Mem) (n : Nat) :
    slice (finish m n).1 0 (finish m n).2 = slice m 0 n ++ [0] := by
  show slice (store m n (makeCrcNum m n)) 0 (n + 1) = _
  rw [slice_add, slice_succ, slice_zero, Nat.zero_add, store_self]
  congr 1
  rw [slice_eq_iff]
  intro i hi
  exact store_ne m _ (by omega)

/-- The head of the reply and the byte it echoes. -/
theorem slice_ackHead (m : Mem) (id v : UInt8) :
    slice (store (makeAckHead m id) 4 v) 0 5 =
      [protocolHead1, protocolHead2, id, alarmDeviceId, v] := rfl

/-! ## Sensor records -/

/-- `get_one_sensor_buf(&con_sensor[k], m + off)`: type, number, then the pairs.
The write index `i` is a `u8`. -/
def getOneSensorBuf (conf : Mem) (k : Nat) (m : Mem) (off : Nat) : Mem × Nat :=
  let num := (sensorNum conf k).toNat
  let m := store m off (sensorType conf k)
  let m := store m (off + 1) (sensorNum conf k)
  if num = 0 then (store (store m (off + 2) 0) (off + 3) 0, 4)
  else
    (forUpTo num (fun j m =>
      let i := 2 * j % 256
      store (store m (off + 2 + i) (sensorSeqNum conf k j)) (off + 3 + i) (sensorAttr conf k j)) m,
      2 + 2 * num)

/-- `get_all_sensor_buf`. -/
def getAllSensorBuf (conf : Mem) (m : Mem) (off : Nat) : Mem × Nat :=
  let r0 := getOneSensorBuf conf sensorTypeUart m off
  let r1 := getOneSensorBuf conf sensorTypeIoIn r0.1 (off + r0.2)
  let r2 := getOneSensorBuf conf sensorTypeIoOut r1.1 (off + r0.2 + r1.2)
  let r3 := getOneSensorBuf conf sensorTypeSingleBus r2.1 (off + r0.2 + r1.2 + r2.2)
  (r3.1, r0.2 + r1.2 + r2.2 + r3.2)

/-- `make_ack_get_device_attr`. -/
def makeAckGetDeviceAttr (conf : Mem) (m : Mem) : Mem × Nat :=
  let m := makeAckHead m protocolAckGetDeviceAttr
  let m := store m 4 sensorTypeNum
  let r := getAllSensorBuf conf m 5
  finish (store r.1 (5 + r.2) 0) (5 + r.2)

/-- `make_ack_set_device_attr`.  The record goes through `tmp[100]`, its length
through a `u8`, and `memcpy` takes `cnt - 1` as a `size_t`. -/
def makeAckSetDeviceAttr (stack conf : Mem) (m : Mem) : Mem × Nat :=
  let m := makeAckHead m protocolAckSetDeviceAttr
  let r := getOneSensorBuf conf sensorTypeIoIn (fill stack 0 100 0) 0
  let cnt := UInt8.ofNat r.2
  let m := blit m 4 (slice r.1 1 (cnt.toUInt32 - 1).toNat)
  (store m (4 + cnt.toNat - 1) (makeCrcNum m (4 + cnt.toNat - 1)), 4 + cnt.toNat)

/-- `make_ack_get_alarm_status`. -/
def makeAckGetAlarmStatus (conf alarmIn : Mem) (m : Mem) : Mem × Nat :=
  let m := makeAckHead m protocolAckGetAlarmStatus
  let num := sensorNum conf sensorTypeIoIn
  let m := store m 4 num
  let m := forUpTo num.toNat (fun j m =>
    let i := 2 * j % 256
    store (store m (5 + i) (sensorSeqNum conf sensorTypeIoIn j)) (6 + i) (alarmIn j)) m
  finish m (5 + num.toNat * 2)

/-! ## Fixed replies -/

/-- `make_ack_set_time` echoes the request's code. -/
def makeAckSetTime (m : Mem) : Mem × Nat := finish (makeAckHead m Command.setTime.code) 4

/-- `make_ack_set_heartbeat`. -/
def makeAckSetHeartbeat (m : Mem) (heartbeatS : UInt8) : Mem × Nat :=
  finish (store (makeAckHead m protocolAckSetHeartbeat) 4 heartbeatS) 5

/-- `make_ack_get_uart_qty`. -/
def makeAckGetUartQty (m : Mem) : Mem × Nat :=
  finish (store (makeAckHead m protocolAckUartQty) 4 2) 5

/-- `make_ack_get_io_num`. -/
def makeAckGetIoNum (m : Mem) : Mem × Nat :=
  finish (store (makeAckHead m protocolAckGetIoNum) 4 ioOutNum) 5

/-- `make_ack_get_temp_num`. -/
def makeAckGetTempNum (m : Mem) : Mem × Nat :=
  finish (store (makeAckHead m protocolAckGetTempNum) 4 tempNum) 5

/-- `make_ack_query_uart_sendbuf` reports a buffer of `0x800` bytes. -/
def makeAckQueryUartSendbuf (getComAttrId : UInt32) (m : Mem) : Mem × Nat :=
  let m := makeAckHead m protocolAckQueryUartSendbuf
  let m := store m 4 (getComAttrId + 1).toUInt8
  finish (store (store m 5 0x08) 6 0x00) 7

/-! ## Serial ports -/

/-- `RESET_MSB`. -/
def resetMsb (b : UInt8) : UInt8 := b % 128

/-- The eight bytes `make_ack_get_uart_attr` writes for the port that entry `j`
of the copied sensor record names, at `m + 5 + i`. -/
def putUartAttr (configUart comMax : Mem) (j i : Nat) (m : Mem) : Mem :=
  let id := resetMsb (configUart (2 + j))
  let com := ConfigCom.load comMax (28 * (id - 1).toNat)
  let m := store m (5 + i) id
  let m := store m (6 + i) (configUart (10 + j))
  let m := store m (7 + i) (calcHighByte com.bps)
  let m := store m (8 + i) (calcMidByte com.bps)
  let m := store m (9 + i) (calcLowByte com.bps)
  let m := store m (10 + i) com.dbit
  let m := store m (11 + i) com.sbit.toUInt8
  store m (12 + i) (returnRemoteOddEven com.chk)

/-- `make_ack_get_uart_attr(ackbuf, cmdbuf)`, over the two local copies. -/
def makeAckGetUartAttr (configUart comMax cmdbuf : Mem) (m : Mem) : Mem × Nat :=
  let m := makeAckHead m protocolAckGetUartAttr
  let num := configUart 1
  if num = 1 then
    finish (putUartAttr configUart comMax 0 0 (store m 4 (cmdbuf 4))) 13
  else if num = 2 then
    let m := forUpTo num.toNat (fun j m => putUartAttr configUart comMax j (8 * j) m)
      (store m 4 (cmdbuf 4))
    finish m (5 + 8 * num.toNat)
  else
    finish (fill (store m 4 (cmdbuf 4)) 5 8 0) 13

/-- `make_ack_query_uart_recv_data(_buf)`.  The port byte is taken from the
global command buffer, and port 2's data are copied with port 1's length. -/
def makeAckQueryUartRecvData (d : Device) (buf : Mem) (m : Mem) : Mem × Nat :=
  let m := makeAckHead m protocolAckQueryUartRecvData
  let id := (buf 4).toUInt32 - 1
  let m := store m 4 (id + 1).toUInt8
  if id = 0 then
    let m := store m 5 (d.uart1Cnt / 0x100).toUInt8
    let m := store m 6 (d.uart1Cnt % 0x100).toUInt8
    let m := blit m 7 (slice d.uart1RecvBuf 0 d.uart1Cnt.toNat)
    finish m (d.uart1Cnt.toNat + 7)
  else if id = 1 then
    let m := store m 5 (d.uart2Cnt / 0x100).toUInt8
    let m := store m 6 (d.uart2Cnt % 0x100).toUInt8
    let m := blit m 7 (slice d.uart2RecvBuf 0 d.uart1Cnt.toNat)
    finish m (d.uart2Cnt.toNat + 7)
  else
    finish (store (store m 5 0) 6 0) 7

/-! ## Outputs and temperature -/

/-- The pin behind an output number, as the switches of `set_io_out` and
`make_ack_get_io_status` list them. -/
def outputPin (seq : UInt8) : Option Nat :=
  if seq = 1 then some 96
  else if seq = 2 then some 42
  else if seq = 3 then some 43
  else if seq = 4 then some 44
  else none

/-- `get_gpio(pin, &gs)`: the pin's character less `'0'`; the old value stays
when the file cannot be read. -/
def getGpio (env : Env) (call pin : Nat) (gs : UInt8) : UInt8 :=
  match env.gpioRead call pin with
  | some c => c - 0x30
  | none => gs

/-- One round of the loop of `make_ack_get_io_status`; the carried values are the
buffer and `gs`. -/
def putIoStatus (env : Env) (cmdbuf : Mem) (j : Nat) (s : Mem × UInt8) : Mem × UInt8 :=
  let seq := cmdbuf (5 + j)
  let m := store s.1 (5 + 2 * j) seq
  match outputPin seq with
  | some pin =>
      let gs := getGpio env j pin s.2
      (store m (6 + 2 * j) gs, gs)
  | none => (store m (6 + 2 * j) 0xff, s.2)

/-- `make_ack_get_io_status(ackbuf, cmdbuf)`; an illegal count leaves by a bare
`return`, without a length. -/
def makeAckGetIoStatus (env : Env) (cmdbuf : Mem) (m : Mem) : Mem × Option Nat :=
  let m := makeAckHead m protocolAckGetIoStatus
  let num := cmdbuf 4
  let m := store m 4 num
  if num = 0 ∨ num > ioOutNum then (m, none)
  else
    let m := (forUpTo num.toNat (putIoStatus env cmdbuf) (m, 0)).1
    let r := finish m (5 + 2 * num.toNat)
    (r.1, some r.2)

/-- Three decimal digits, in the `u16` they are assigned to. -/
def digits3 (a b c : UInt8) : UInt16 :=
  (a.toUInt16 - 0x30) * 100 + (b.toUInt16 - 0x30) * 10 + (c.toUInt16 - 0x30)

/-- `make_ack_get_temp_status`, over what `get_sensor` leaves in the local
`am2301_buf`. -/
def makeAckGetTempStatus (env : Env) (m : Mem) : Mem × Nat :=
  let am := blit env.stack 0 (env.am2301.take 30)
  let hum := digits3 (am 7) (am 8) (am 10)
  let temp := digits3 (am 0) (am 1) (am 3)
  let m := makeAckHead m protocolAckGetTempStatus
  let m := store m 4 tempNum
  let m := store m 5 tempNum
  let m := store m 6 (hum / 0x100).toUInt8
  let m := store m 7 (hum % 0x100).toUInt8
  let m := store m 8 (temp / 0x100).toUInt8
  let m := store m 9 (temp % 0x100).toUInt8
  finish m 10

end Itertk.Client.Replies
