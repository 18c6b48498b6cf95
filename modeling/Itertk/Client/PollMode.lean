import Itertk.Base.Run
import Itertk.Base.Slots
import Itertk.Client.Dispatch
import Itertk.Client.SendBuffer

/-!
# Serial data in poll mode

`Protocol_SendComDataToNet_PollMode` collects what a port receives, and
`QUERY_UART_RECV_DATA` sends what was collected.  Nothing is ever taken out: the
counters only grow.  For port 2 each chunk is put at the start of the buffer, and its
data are copied with the count of port 1.  And the reply is built in `buf_send[1024]`, where
more than 1016 bytes have no room.

The ghost state keeps the chunks that came since the last query of each port.

## Main results

* `Collected.step` — what the buffers hold, in every run.
* `delivered_runs` — which queries get the data they should.
-/

namespace Itertk.Client.PollMode

open Itertk.Base.Memory
open Itertk.Base.Run
open Itertk.Daemon.State
open Itertk.Client.Checks
open Itertk.Client.Replies
open Itertk.Client.Dispatch
open Itertk.Client.SendBuffer

/-! ## Collecting -/

/-- `UART_RECV_BUF_SIZE`. -/
def uartRecvBufSize : UInt16 := 0x800

/-- `Protocol_SendComDataToNet_PollMode`.  The offset `cnt2` into port 2's buffer is
never set. -/
def sendComDataToNetPollMode (id : Nat) (data : List UInt8) (d : Device) : Device :=
  if id = 0 then
    let cnt1 := d.uart1Cnt
    let d := { d with uart1Cnt := d.uart1Cnt + UInt16.ofNat data.length }
    if d.uart1Cnt < uartRecvBufSize then
      { d with uart1RecvBuf := blit d.uart1RecvBuf cnt1.toNat data }
    else d
  else if id = 1 then
    let cnt2 := 0
    let d := { d with uart2Cnt := d.uart2Cnt + UInt16.ofNat data.length }
    if d.uart2Cnt < uartRecvBufSize then
      { d with uart2RecvBuf := blit d.uart2RecvBuf cnt2 data }
    else d
  else d

/-- A packet that carries the code of `QUERY_UART_RECV_DATA`. -/
structure QueryPacket extends Packet where
  command : bytes[2]? = some Command.queryUartRecvData.code

/-- What the daemon sees of the ports and the queries. -/
inductive Input where
  /-- A port's thread has read something. -/
  | chunk (id : Nat) (data : List UInt8) (nonempty : data ≠ [])
  | query (env : Env) (packet : QueryPacket)

/-- The port that a query is answered for, if it is accepted. -/
def queried (s : Receiver) (packet : QueryPacket) : Option Nat :=
  let cmd := received s.buf packet.toPacket
  if Accepted 6 Command.queryUartRecvData.code cmd packet.bytes.length then
    if cmd 4 = 1 then some 0 else if cmd 4 = 2 then some 1 else none
  else none

/-- The daemon, and per port what it received: the chunks since the last query, and the
number of bytes before that query. -/
structure Ports where
  recv : Receiver
  chunks : Nat → List (List UInt8)
  before : Nat → Nat

/-- What a port received since its last query. -/
def Ports.undelivered (s : Ports) (id : Nat) : List UInt8 := (s.chunks id).flatten

/-- The daemon before a port has received anything. -/
def Ports.start (r : Receiver) : Ports where
  recv := { r with dev := { r.dev with uart1Cnt := 0, uart2Cnt := 0 } }
  chunks := fun _ => []
  before := fun _ => 0

/-- The record after a query of port `id`. -/
def Ports.reset (s : Ports) (id : Nat) : Ports :=
  { s with
    chunks := Function.update s.chunks id []
    before := Function.update s.before id (s.before id + (s.undelivered id).length) }

/-- One chunk, or one query. -/
def serve (s : Ports) : Input → Ports
  | .chunk id data _ =>
      { s with
        recv := { s.recv with dev := sendComDataToNetPollMode id data s.recv.dev }
        chunks := Function.update s.chunks id (s.chunks id ++ [data]) }
  | .query env packet =>
      let s' := { s with recv := (clientStep env s.recv packet.toPacket).1 }
      match queried s.recv packet with
      | some id => s'.reset id
      | none => s'

/-- The reply has the data and, in bytes 5 and 6, their count; the checksum follows. -/
def Carries (reply data : List UInt8) : Prop :=
  ∃ crc, reply.drop 5 =
    UInt8.ofNat (data.length / 256) :: UInt8.ofNat (data.length % 256) :: (data ++ [crc])

/-- A query is answered, inside the send buffer, with what its port received since the last
one. -/
def Delivers (s : Ports) : Input → Prop
  | .chunk _ _ _ => True
  | .query env packet =>
      ∀ id ∈ queried s.recv packet,
        InBuffer (makeAckQueryUartRecvData s.recv.dev (received s.recv.buf packet.toPacket)) ∧
          ∃ r, (clientStep env s.recv packet.toPacket).2 = [.reply r] ∧
            Carries r (s.undelivered id)

/-- After the step the undelivered bytes of each port fit into its buffer. -/
def Fits (s : Ports) (x : Input) : Prop :=
  ∀ id, id < 2 → ((serve s x).undelivered id).length < 0x800

/-- What a port has received, as far as a 16-bit counter can tell. -/
def Ports.total (s : Ports) (id : Nat) : Nat := (s.before id + (s.undelivered id).length) % 65536

/-- The reply for port `id` has room in the send buffer; for port 2 as much is copied as port
1 has received. -/
def Ports.HasRoom (s : Ports) (id : Nat) : Prop :=
  (s.undelivered id).length ≤ 1016 ∧ (id = 1 → s.total 0 ≤ 1017)

/-- A queried port had received nothing before its last query, as far as its counter can
tell, and its reply has room. -/
def NothingBefore (s : Ports) : Input → Prop
  | .chunk _ _ _ => True
  | .query _ packet => ∀ id ∈ queried s.recv packet, s.before id % 65536 = 0 ∧ s.HasRoom id

/-- So it is, and port 2 has received nothing but one chunk since, which is no longer than
what port 1 has received. -/
def FirstQuery (s : Ports) : Input → Prop
  | .chunk _ _ _ => True
  | .query _ packet =>
      ∀ id ∈ queried s.recv packet, (s.before id % 65536 = 0 ∧ s.HasRoom id) ∧
        (id = 1 → (s.chunks 1).length ≤ 1 ∧ (s.undelivered 1).length ≤ s.total 0)

/-! ## What the buffers hold -/

/-- The counters count all that was received, and a port that had received nothing
before its last query has what came since at the start of its buffer; port 2 only when
that is one chunk. -/
structure Collected (s : Ports) : Prop where
  cnt1 : s.recv.dev.uart1Cnt.toNat = s.total 0
  cnt2 : s.recv.dev.uart2Cnt.toNat = s.total 1
  fits : ∀ id, id < 2 → (s.undelivered id).length < 0x800
  buf1 : s.before 0 % 65536 = 0 →
    slice s.recv.dev.uart1RecvBuf 0 (s.undelivered 0).length = s.undelivered 0
  buf2 : s.before 1 % 65536 = 0 → (s.chunks 1).length ≤ 1 →
    slice s.recv.dev.uart2RecvBuf 0 (s.undelivered 1).length = s.undelivered 1

theorem Collected.start (r : Receiver) : Collected (Ports.start r) where
  cnt1 := rfl
  cnt2 := rfl
  fits := fun _ _ => Nat.succ_pos _
  buf1 := fun _ => rfl
  buf2 := fun _ _ => rfl

private theorem chunk_undelivered (s : Ports) (id : Nat) (data : List UInt8) (h : data ≠ [])
    (q : Nat) :
    (serve s (.chunk id data h)).undelivered q =
      if q = id then s.undelivered id ++ data else s.undelivered q := by
  simp only [serve, Ports.undelivered, Function.update_apply]
  by_cases hq : q = id
  · rw [if_pos hq, if_pos hq, List.flatten_append, List.flatten_singleton]
  · rw [if_neg hq, if_neg hq]

/-- A counter after a chunk. -/
theorem cnt_add {cnt : UInt16} {b u : Nat} (h : cnt.toNat = (b + u) % 65536) (len : Nat) :
    (cnt + UInt16.ofNat len).toNat = (b + (u + len)) % 65536 := by
  rw [UInt16.toNat_add, UInt16.toNat_ofNat', h]
  omega

/-- A counter below the size of the buffer says how much is in it. -/
theorem cnt_fits {cnt : UInt16} {b u : Nat} (h : cnt.toNat = (b + u) % 65536) (hb : b % 65536 = 0)
    (hu : u < 0x800) : cnt.toNat = u ∧ cnt < uartRecvBufSize := by
  have hcnt : cnt.toNat = u := by omega
  refine ⟨hcnt, ?_⟩
  rw [UInt16.lt_iff_toNat_lt, hcnt]
  exact hu

/-- A chunk of port 1 is appended. -/
theorem pollMode_port1 (data : List UInt8) (d : Device) :
    let d' := sendComDataToNetPollMode 0 data d
    d'.uart1Cnt = d.uart1Cnt + UInt16.ofNat data.length ∧ d'.uart2Cnt = d.uart2Cnt ∧
      d'.uart2RecvBuf = d.uart2RecvBuf ∧
      (d'.uart1Cnt < uartRecvBufSize →
        d'.uart1RecvBuf = blit d.uart1RecvBuf d.uart1Cnt.toNat data) := by
  simp only [sendComDataToNetPollMode]
  by_cases h : d.uart1Cnt + UInt16.ofNat data.length < uartRecvBufSize
  · simp only [if_pos h]
    exact ⟨rfl, rfl, rfl, fun _ => rfl⟩
  · simp only [if_neg h]
    exact ⟨rfl, rfl, rfl, fun h' => absurd h' h⟩

/-- A chunk of port 2 replaces the start of the buffer. -/
theorem pollMode_port2 (data : List UInt8) (d : Device) :
    let d' := sendComDataToNetPollMode 1 data d
    d'.uart2Cnt = d.uart2Cnt + UInt16.ofNat data.length ∧ d'.uart1Cnt = d.uart1Cnt ∧
      d'.uart1RecvBuf = d.uart1RecvBuf ∧
      (d'.uart2Cnt < uartRecvBufSize → d'.uart2RecvBuf = blit d.uart2RecvBuf 0 data) := by
  simp only [sendComDataToNetPollMode]
  by_cases h : d.uart2Cnt + UInt16.ofNat data.length < uartRecvBufSize
  · simp only [if_pos h]
    exact ⟨rfl, rfl, rfl, fun _ => rfl⟩
  · simp only [if_neg h]
    exact ⟨rfl, rfl, rfl, fun h' => absurd h' h⟩

private theorem Collected.chunk1 {s : Ports} (h : Collected s) {data : List UInt8} (hne : data ≠ [])
    (hfits : Fits s (.chunk 0 data hne)) : Collected (serve s (.chunk 0 data hne)) := by
  obtain ⟨hcnt1, hcnt2, hfit, hbuf1, hbuf2⟩ := h
  have hund1 := chunk_undelivered s 0 data hne 0
  have hund2 := chunk_undelivered s 0 data hne 1
  rw [if_pos rfl] at hund1
  rw [if_neg (by decide)] at hund2
  obtain ⟨hc1, hc2, hb2, hb1⟩ := pollMode_port1 data s.recv.dev
  have hnext := cnt_add hcnt1 data.length
  rw [← List.length_append, ← hund1, ← hc1] at hnext
  refine ⟨hnext, ?_, hfits, fun hb => ?_, fun hb hone => ?_⟩
  · rw [Ports.total, hund2]
    exact (congrArg UInt16.toNat hc2).trans hcnt2
  · have hold := (cnt_fits hcnt1 hb (hfit 0 (by decide))).1
    have hnew := (cnt_fits hnext hb (hfits 0 (by decide))).2
    show slice (sendComDataToNetPollMode 0 data s.recv.dev).uart1RecvBuf 0 _ = _
    rw [hund1, hb1 hnew, hold, List.length_append, slice_add, Nat.zero_add, slice_blit_self,
      slice_blit_disjoint _ _ (by omega), hbuf1 hb]
  · rw [hund2]
    exact (congrArg (slice · 0 (s.undelivered 1).length) hb2).trans (hbuf2 hb hone)

private theorem Collected.chunk2 {s : Ports} (h : Collected s) {data : List UInt8} (hne : data ≠ [])
    (hfits : Fits s (.chunk 1 data hne)) : Collected (serve s (.chunk 1 data hne)) := by
  obtain ⟨hcnt1, hcnt2, hfit, hbuf1, hbuf2⟩ := h
  have hund1 := chunk_undelivered s 1 data hne 0
  have hund2 := chunk_undelivered s 1 data hne 1
  rw [if_neg (by decide)] at hund1
  rw [if_pos rfl] at hund2
  obtain ⟨hc2, hc1, hb1, hb2⟩ := pollMode_port2 data s.recv.dev
  have hnext := cnt_add hcnt2 data.length
  rw [← List.length_append, ← hund2, ← hc2] at hnext
  refine ⟨?_, hnext, hfits, fun hb => ?_, fun hb hone => ?_⟩
  · rw [Ports.total, hund1]
    exact (congrArg UInt16.toNat hc1).trans hcnt1
  · rw [hund1]
    exact (congrArg (slice · 0 (s.undelivered 0).length) hb1).trans (hbuf1 hb)
  · -- the only chunk since the query is this one
    have hnone : s.undelivered 1 = [] := by
      have hchunks : (Function.update s.chunks 1 (s.chunks 1 ++ [data]) 1).length ≤ 1 := hone
      rw [Function.update_self, List.length_append, List.length_singleton] at hchunks
      have hempty : s.chunks 1 = [] := List.eq_nil_of_length_eq_zero (by omega)
      rw [Ports.undelivered, hempty, List.flatten_nil]
    have hnew := (cnt_fits hnext hb (hfits 1 (by decide))).2
    show slice (sendComDataToNetPollMode 1 data s.recv.dev).uart2RecvBuf 0 _ = _
    rw [hund2, hb2 hnew, hnone, List.nil_append, slice_blit_self]

/-- A port that there is not is ignored. -/
theorem Collected.chunkElse {s : Ports} (h : Collected s) (id : Nat) {data : List UInt8}
    (hne : data ≠ []) (hfits : Fits s (.chunk (id + 2) data hne)) :
    Collected (serve s (.chunk (id + 2) data hne)) := by
  obtain ⟨hcnt1, hcnt2, -, hbuf1, hbuf2⟩ := h
  have hund1 := chunk_undelivered s (id + 2) data hne 0
  have hund2 := chunk_undelivered s (id + 2) data hne 1
  rw [if_neg (by omega)] at hund1 hund2
  refine ⟨?_, ?_, hfits, ?_, ?_⟩
  · rw [Ports.total, hund1]
    exact hcnt1
  · rw [Ports.total, hund2]
    exact hcnt2
  · rw [hund1]
    exact hbuf1
  · rw [hund2]
    intro hb hone
    have hchunks : (Function.update s.chunks (id + 2) (s.chunks (id + 2) ++ [data]) 1).length ≤ 1 :=
      hone
    rw [Function.update_of_ne (by omega)] at hchunks
    exact hbuf2 hb hchunks

theorem Collected.chunk {s : Ports} (h : Collected s) (id : Nat) (data : List UInt8)
    (hne : data ≠ [])
    (hfits : Fits s (.chunk id data hne)) : Collected (serve s (.chunk id data hne)) := by
  match id with
  | 0 => exact h.chunk1 hne hfits
  | 1 => exact h.chunk2 hne hfits
  | id + 2 => exact h.chunkElse id hne hfits

/-! ## Queries -/

/-- The globals that the queries are answered from. -/
structure SameUart (d d' : Device) : Prop where
  cnt1 : d'.uart1Cnt = d.uart1Cnt
  cnt2 : d'.uart2Cnt = d.uart2Cnt
  buf1 : d'.uart1RecvBuf = d.uart1RecvBuf
  buf2 : d'.uart2RecvBuf = d.uart2RecvBuf

private theorem clientStep_sameUart (env : Env) (s : Receiver) (packet : QueryPacket) :
    SameUart s.dev (clientStep env s packet.toPacket).1.dev := by
  by_cases h : Reaches (received s.buf packet.toPacket) packet.bytes.length .queryUartRecvData
  · rw [clientStep_reaches env s h]
    exact ⟨rfl, rfl, rfl, rfl⟩
  · rw [clientStep_refused env s packet.command h]
    exact ⟨rfl, rfl, rfl, rfl⟩

private theorem reset_undelivered (s : Ports) (id q : Nat) :
    (s.reset id).undelivered q = if q = id then [] else s.undelivered q := by
  simp only [Ports.reset, Ports.undelivered, Function.update_apply]
  by_cases hq : q = id
  · rw [if_pos hq, if_pos hq, List.flatten_nil]
  · rw [if_neg hq, if_neg hq]

private theorem reset_count (s : Ports) (id q : Nat) :
    (s.reset id).before q + ((s.reset id).undelivered q).length =
      s.before q + (s.undelivered q).length := by
  rw [reset_undelivered]
  by_cases hq : q = id
  · subst hq
    rw [if_pos rfl]
    exact congrArg (· + 0) (Function.update_self q _ _)
  · rw [if_neg hq]
    exact congrArg (· + _) (Function.update_of_ne hq _ _)

theorem Collected.reset {s : Ports} (h : Collected s) (id : Nat) : Collected (s.reset id) where
  cnt1 := by rw [Ports.total, reset_count]; exact h.cnt1
  cnt2 := by rw [Ports.total, reset_count]; exact h.cnt2
  fits q hq := by
    rw [reset_undelivered]
    split
    · exact Nat.succ_pos _
    · exact h.fits q hq
  buf1 hb := by
    rw [reset_undelivered]
    by_cases hid : 0 = id
    · rw [if_pos hid]
      rfl
    · rw [if_neg hid]
      simp only [Ports.reset, Function.update_of_ne hid] at hb
      exact h.buf1 hb
  buf2 hb hone := by
    rw [reset_undelivered]
    by_cases hid : 1 = id
    · rw [if_pos hid]
      rfl
    · rw [if_neg hid]
      simp only [Ports.reset, Function.update_of_ne hid] at hb hone
      exact h.buf2 hb hone

/-- Nothing depends on the rest of the daemon. -/
theorem Collected.congr {s : Ports} (h : Collected s) {r : Receiver}
    (hsame : SameUart s.recv.dev r.dev) : Collected { s with recv := r } where
  cnt1 := (congrArg UInt16.toNat hsame.cnt1).trans h.cnt1
  cnt2 := (congrArg UInt16.toNat hsame.cnt2).trans h.cnt2
  fits := h.fits
  buf1 hb := (congrArg (slice · 0 _) hsame.buf1).trans (h.buf1 hb)
  buf2 hb hone := (congrArg (slice · 0 _) hsame.buf2).trans (h.buf2 hb hone)

theorem Collected.query {s : Ports} (h : Collected s) (env : Env) (packet : QueryPacket) :
    Collected (serve s (.query env packet)) := by
  have hcongr := h.congr (clientStep_sameUart env s.recv packet)
  simp only [serve]
  cases queried s.recv packet with
  | none => exact hcongr
  | some id => exact hcongr.reset id

theorem Collected.step {s : Ports} (h : Collected s) (x : Input) (hfits : Fits s x) :
    Collected (serve s x) := by
  cases x with
  | chunk id data hne => exact h.chunk id data hne hfits
  | query env packet => exact h.query env packet

/-! ## Replies -/

/-- The reply of a port with `n` bytes, of which `k` are copied. -/
theorem reply_drop (m b : Mem) (hi lo : UInt8) {n k : Nat} (h : n ≤ k) :
    let r := finish (blit (store (store m 5 hi) 6 lo) 7 (slice b 0 k)) (n + 7)
    (slice r.1 0 r.2).drop 5 = hi :: lo :: (slice b 0 n ++ [0]) := by
  intro r
  have hdata : slice (blit (store (store m 5 hi) 6 lo) 7 (slice b 0 k)) 7 n = slice b 0 n := by
    have hcopy := slice_blit_self (store (store m 5 hi) 6 lo) 7 (slice b 0 k)
    rw [slice_length, slice_eq_iff] at hcopy
    rw [slice_eq_iff]
    intro i hi
    exact hcopy i (by omega)
  have hhead : slice (blit (store (store m 5 hi) 6 lo) 7 (slice b 0 k)) 5 2 = [hi, lo] := by
    rw [slice_blit_disjoint _ _ (.inl (Nat.le_refl 7))]
    rfl
  have hsplit : n + 7 = 5 + (2 + n) := by omega
  show (slice (finish _ (n + 7)).1 0 (finish _ (n + 7)).2).drop 5 = _
  rw [slice_finish, hsplit, slice_add, slice_add, List.append_assoc, List.append_assoc, hhead,
    List.drop_left' (slice_length _ _ _), hdata]
  rfl

/-- The count bytes of a counter. -/
theorem count_bytes {cnt : UInt16} {n : Nat} (h : cnt.toNat = n) :
    (cnt / 0x100).toUInt8 = UInt8.ofNat (n / 256) ∧
      (cnt % 0x100).toUInt8 = UInt8.ofNat (n % 256) := by
  subst h
  constructor <;> apply UInt8.toNat_inj.mp <;> simp

private theorem queried_eq_some {s : Receiver} {packet : QueryPacket} {id : Nat}
    (h : queried s packet = some id) :
    Reaches (received s.buf packet.toPacket) packet.bytes.length .queryUartRecvData ∧
      (received s.buf packet.toPacket 4 = 1 ∧ id = 0 ∨
        received s.buf packet.toPacket 4 = 2 ∧ id = 1) := by
  unfold queried at h
  dsimp only at h
  split at h
  · next hacc =>
    refine ⟨Accepted.reaches (c := .queryUartRecvData) hacc, ?_⟩
    split at h
    · next h1 => exact .inl ⟨h1, (Option.some.inj h).symm⟩
    · split at h
      · next h2 => exact .inr ⟨h2, (Option.some.inj h).symm⟩
      · cases h
  · cases h

/-- Port 1 is answered with as many bytes as its counter says. -/
theorem reply_port1 (env : Env) (s : Receiver) {packet : Packet}
    (h : Reaches (received s.buf packet) packet.bytes.length .queryUartRecvData)
    (hid : received s.buf packet 4 = 1) :
    ∃ r, (clientStep env s packet).2 = [.reply r] ∧ r.length = s.dev.uart1Cnt.toNat + 8 ∧
      r.drop 5 = (s.dev.uart1Cnt / 0x100).toUInt8 :: (s.dev.uart1Cnt % 0x100).toUInt8 ::
        (slice s.dev.uart1RecvBuf 0 s.dev.uart1Cnt.toNat ++ [0]) := by
  have hreply : makeAckQueryUartRecvData s.dev (received s.buf packet) s.dev.bufSend =
      finish (blit (store (store (store (makeAckHead s.dev.bufSend protocolAckQueryUartRecvData) 4
        (0 + 1 : UInt32).toUInt8) 5 (s.dev.uart1Cnt / 0x100).toUInt8) 6
        (s.dev.uart1Cnt % 0x100).toUInt8) 7 (slice s.dev.uart1RecvBuf 0 s.dev.uart1Cnt.toNat))
        (s.dev.uart1Cnt.toNat + 7) := by
    simp only [makeAckQueryUartRecvData, hid]
    rfl
  rw [clientStep_reaches env s h, perform, hreply]
  exact ⟨_, rfl, slice_length _ _ _, reply_drop _ _ _ _ (Nat.le_refl _)⟩

/-- Port 2 is answered with as many bytes as its counter says, of which no more than
port 1's counter says are its own. -/
theorem reply_port2 (env : Env) (s : Receiver) {packet : Packet}
    (h : Reaches (received s.buf packet) packet.bytes.length .queryUartRecvData)
    (hid : received s.buf packet 4 = 2) :
    ∃ r, (clientStep env s packet).2 = [.reply r] ∧ r.length = s.dev.uart2Cnt.toNat + 8 ∧
      (s.dev.uart2Cnt.toNat ≤ s.dev.uart1Cnt.toNat →
        r.drop 5 = (s.dev.uart2Cnt / 0x100).toUInt8 :: (s.dev.uart2Cnt % 0x100).toUInt8 ::
          (slice s.dev.uart2RecvBuf 0 s.dev.uart2Cnt.toNat ++ [0])) := by
  have hreply : makeAckQueryUartRecvData s.dev (received s.buf packet) s.dev.bufSend =
      finish (blit (store (store (store (makeAckHead s.dev.bufSend protocolAckQueryUartRecvData) 4
        (1 + 1 : UInt32).toUInt8) 5 (s.dev.uart2Cnt / 0x100).toUInt8) 6
        (s.dev.uart2Cnt % 0x100).toUInt8) 7 (slice s.dev.uart2RecvBuf 0 s.dev.uart1Cnt.toNat))
        (s.dev.uart2Cnt.toNat + 7) := by
    simp only [makeAckQueryUartRecvData, hid]
    rfl
  rw [clientStep_reaches env s h, perform, hreply]
  exact ⟨_, rfl, slice_length _ _ _, fun hle => reply_drop _ _ _ _ hle⟩

/-- A query of a port that had received nothing before is answered inside the send buffer
exactly when it has room. -/
theorem Collected.inBuffer_iff {s : Ports} (h : Collected s) {packet : QueryPacket} {id : Nat}
    (hid : queried s.recv packet = some id) (hbefore : s.before id % 65536 = 0) :
    InBuffer (makeAckQueryUartRecvData s.recv.dev (received s.recv.buf packet.toPacket)) ↔
      s.HasRoom id := by
  rw [query_inBuffer_iff, QueryFits, UInt16.le_iff_toNat_le, UInt16.le_iff_toNat_le,
    UInt16.le_iff_toNat_le, Ports.HasRoom, h.cnt1]
  obtain ⟨-, ⟨hport, rfl⟩ | ⟨hport, rfl⟩⟩ := queried_eq_some hid
  · obtain ⟨hcnt, -⟩ := cnt_fits h.cnt1 hbefore (h.fits 0 (by decide))
    rw [hport, ← h.cnt1, hcnt]
    exact ⟨fun hle => ⟨hle.1 rfl, fun hne => absurd hne (by decide)⟩,
      fun hle => ⟨fun _ => hle.1, fun hne => absurd hne (by decide)⟩⟩
  · obtain ⟨hcnt, -⟩ := cnt_fits h.cnt2 hbefore (h.fits 1 (by decide))
    rw [hport, hcnt]
    exact ⟨fun hle => ⟨(hle.2 rfl).1, fun _ => (hle.2 rfl).2⟩,
      fun hle => ⟨fun hne => absurd hne (by decide), fun _ => ⟨hle.1, hle.2 rfl⟩⟩⟩

theorem Collected.delivers {s : Ports} (h : Collected s) (x : Input) (hfirst : FirstQuery s x) :
    Delivers s x := by
  cases x with
  | chunk => trivial
  | query env packet =>
      intro id hid
      obtain ⟨⟨hbefore, hroom⟩, hone⟩ := hfirst id hid
      refine ⟨(h.inBuffer_iff hid hbefore).mpr hroom, ?_⟩
      rcases queried_eq_some hid with ⟨hreach, ⟨hport, rfl⟩ | ⟨hport, rfl⟩⟩
      · obtain ⟨hcnt, -⟩ := cnt_fits h.cnt1 hbefore (h.fits 0 (by decide))
        obtain ⟨hhi, hlo⟩ := count_bytes hcnt
        obtain ⟨r, hr, -, hdrop⟩ := reply_port1 env s.recv hreach hport
        refine ⟨r, hr, 0, ?_⟩
        rw [hdrop, hhi, hlo, hcnt, h.buf1 hbefore]
      · obtain ⟨hchunks, hle⟩ := hone rfl
        obtain ⟨hcnt, -⟩ := cnt_fits h.cnt2 hbefore (h.fits 1 (by decide))
        obtain ⟨hhi, hlo⟩ := count_bytes hcnt
        obtain ⟨r, hr, -, hdrop⟩ := reply_port2 env s.recv hreach hport
        refine ⟨r, hr, 0, ?_⟩
        rw [hdrop (by rw [hcnt, h.cnt1]; exact hle), hhi, hlo, hcnt, h.buf2 hbefore hchunks]

/-- A reply that is as long as it should be tells that nothing came before. -/
theorem Collected.before_of_carries {s : Ports} (h : Collected s) {env : Env}
    {packet : QueryPacket} {id : Nat} {r : List UInt8} (hid : queried s.recv packet = some id)
    (hr : (clientStep env s.recv packet.toPacket).2 = [.reply r])
    (hcarries : Carries r (s.undelivered id)) : s.before id % 65536 = 0 := by
  obtain ⟨crc, hcarries⟩ := hcarries
  have hlength := congrArg List.length hcarries
  rw [List.length_drop, List.length_cons, List.length_cons, List.length_append,
    List.length_singleton] at hlength
  rcases queried_eq_some hid with ⟨hreach, ⟨hport, rfl⟩ | ⟨hport, rfl⟩⟩
  · obtain ⟨r', hr', hr'length, -⟩ := reply_port1 env s.recv hreach hport
    rw [hr, List.singleton_inj] at hr'
    obtain rfl := Event.reply.inj hr'
    have hcnt : _ = (_ + _) % 65536 := h.cnt1
    have hfits := h.fits 0 (by decide)
    omega
  · obtain ⟨r', hr', hr'length, -⟩ := reply_port2 env s.recv hreach hport
    rw [hr, List.singleton_inj] at hr'
    obtain rfl := Event.reply.inj hr'
    have hcnt : _ = (_ + _) % 65536 := h.cnt2
    have hfits := h.fits 1 (by decide)
    omega

private theorem Collected.nothingBefore {s : Ports} (h : Collected s) (x : Input)
    (hdelivers : Delivers s x) :
    NothingBefore s x := by
  cases x with
  | chunk => trivial
  | query env packet =>
      intro id hid
      obtain ⟨hbuffer, r, hr, hcarries⟩ := hdelivers id hid
      have hbefore := h.before_of_carries hid hr hcarries
      exact ⟨hbefore, (h.inBuffer_iff hid hbefore).mp hbuffer⟩

/-! ## Runs -/

private theorem delivers_of_firstQuery {s : Ports} (h : Collected s) {xs : List Input}
    (hfits : StepsSatisfy serve Fits s xs) (hfirst : StepsSatisfy serve FirstQuery s xs) :
    StepsSatisfy serve Delivers s xs :=
  stepsSatisfy_under (I := Collected) (fun _ x h hx => h.step x hx.1)
    (fun _ x h hx => h.delivers x hx.2) h ((stepsSatisfy_and s xs).mpr ⟨hfits, hfirst⟩)

private theorem nothingBefore_of_delivers {s : Ports} (h : Collected s) {xs : List Input}
    (hfits : StepsSatisfy serve Fits s xs) (hdelivers : StepsSatisfy serve Delivers s xs) :
    StepsSatisfy serve NothingBefore s xs :=
  stepsSatisfy_under (I := Collected) (fun _ x h hx => h.step x hx.1)
    (fun _ x h hx => h.nothingBefore x hx.2) h ((stepsSatisfy_and s xs).mpr ⟨hfits, hdelivers⟩)

/-- While the undelivered bytes fit, a run of first queries delivers everything; and in
a run that does, no queried port had received anything before its last query, or more than
the send buffer takes. -/
theorem delivered_runs (r : Receiver) (xs : List Input)
    (hfits : StepsSatisfy serve Fits (Ports.start r) xs) :
    (StepsSatisfy serve FirstQuery (Ports.start r) xs →
      StepsSatisfy serve Delivers (Ports.start r) xs) ∧
    (StepsSatisfy serve Delivers (Ports.start r) xs →
      StepsSatisfy serve NothingBefore (Ports.start r) xs) :=
  ⟨delivers_of_firstQuery (Collected.start r) hfits,
    nothingBefore_of_delivers (Collected.start r) hfits⟩

instance (s : Ports) (x : Input) : Decidable (Fits s x) :=
  inferInstanceAs (Decidable (∀ id, id < 2 → _))

instance (s : Ports) (id : Nat) : Decidable (s.HasRoom id) :=
  inferInstanceAs (Decidable (_ ∧ (_ → _)))

instance (s : Ports) : ∀ x, Decidable (NothingBefore s x)
  | .chunk _ _ _ => inferInstanceAs (Decidable True)
  | .query _ _ => inferInstanceAs (Decidable (∀ id ∈ _, _ ∧ _))

instance (s : Ports) : ∀ x, Decidable (FirstQuery s x)
  | .chunk _ _ _ => inferInstanceAs (Decidable True)
  | .query _ _ => inferInstanceAs (Decidable (∀ id ∈ _, (_ ∧ _) ∧ (_ → _)))

/-- A receiver at program start. -/
def factory : Receiver := ⟨zero, Device.start zero⟩

/-- One byte for port 1. -/
def oneByte : Input := .chunk 0 [0x41] (List.cons_ne_nil _ _)

/-- One byte for port 2. -/
def otherByte : Input := .chunk 1 [0x42] (List.cons_ne_nil _ _)

/-- The query for the port byte `b`. -/
def queryFor (b : UInt8) : Input :=
  .query Env.idle
    { bytes := [0x55, 0xaa, 0x16, 0x01, b, 0]
      nonempty := List.length_pos_iff.mpr (List.cons_ne_nil _ _)
      short := Nat.le_of_ble_eq_true rfl, command := rfl }

/-- The first query of each port gets its bytes. -/
theorem delivered_first :
    StepsSatisfy serve Delivers (Ports.start factory)
      [oneByte, otherByte, oneByte, queryFor 2, queryFor 1] :=
  (delivered_runs factory _ (by decide +kernel)).1 (by decide +kernel)

/-- The second query gets it again. -/
theorem delivered_twice :
    ¬∀ (r : Receiver) (xs : List Input), StepsSatisfy serve Fits (Ports.start r) xs →
      StepsSatisfy serve Delivers (Ports.start r) xs := by
  intro h
  have hfits : StepsSatisfy serve Fits (Ports.start factory) [oneByte, queryFor 1, queryFor 1] := by
    decide +kernel
  have hnothing := nothingBefore_of_delivers (Collected.start factory) hfits (h factory _ hfits)
  exact absurd hnothing (by decide +kernel)

end Itertk.Client.PollMode
