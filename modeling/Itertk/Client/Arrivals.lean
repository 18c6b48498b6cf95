import Itertk.Client.PollMode

/-!
# Serial data and the alarm server

A port's thread hands what it has read to `Protocol_SendComDataToNet_PollMode`, or in
interrupt mode to `Protocol_SendComDataToNet_IntMode`, which collects the data in the same
way and then sends the reply that a query gets.  That reply is built for the port that byte
4 of the last packet from the server names.

Both collecting functions are one operation on the counter and the buffer of a port, but
for the offset at which the data are put.

## Main results

* `pollMode_port` — the two branches as one operation.
* `query_reply` — the whole reply to a query.
* `arrive_port` — what a port holds after any run depends on its own chunks only.
* `push_iff` — when a push carries its data.
-/

namespace Itertk.Client.Arrivals

open Itertk.Base.Memory
open Itertk.Base.Run
open Itertk.Daemon.State
open Itertk.Client.Checks
open Itertk.Client.Replies
open Itertk.Client.Dispatch
open Itertk.Client.SendBuffer
open Itertk.Client.PollMode

/-! ## One port -/

/-- The counter and the receive buffer of a port. -/
structure Port where
  cnt : UInt16
  buf : Mem

/-- `uart1_cnt` and `uart1_recv_buf`, or those of port 2. -/
def port (d : Device) (id : Nat) : Port :=
  if id = 0 then ⟨d.uart1Cnt, d.uart1RecvBuf⟩ else ⟨d.uart2Cnt, d.uart2RecvBuf⟩

/-- The offset at which a chunk is put: `cnt1` in the branch of port 1, and `cnt2`, which is
never set, in that of port 2. -/
def Port.offset (id : Nat) (p : Port) : Nat := if id = 0 then p.cnt.toNat else 0

/-- The destination of the `memcpy` of `Protocol_SendComDataToNet_PollMode`, as offset and
length, unless the new count is out of range. -/
def Port.copyIn (id : Nat) (data : List UInt8) (p : Port) : Option (Nat × Nat) :=
  if p.cnt + UInt16.ofNat data.length < uartRecvBufSize then some (p.offset id, data.length)
  else none

/-- The port after a chunk. -/
def Port.collect (id : Nat) (p : Port) (data : List UInt8) : Port where
  cnt := p.cnt + UInt16.ofNat data.length
  buf :=
    match p.copyIn id data with
    | some (off, _) => blit p.buf off data
    | none => p.buf

/-- A chunk goes into its own port and leaves the other alone. -/
theorem pollMode_port {id q : Nat} (hid : id < 2) (hq : q < 2) (data : List UInt8) (d : Device) :
    port (sendComDataToNetPollMode id data d) q =
      if q = id then (port d q).collect q data else port d q := by
  match id, hid, q, hq with
  | 0, _, 0, _ =>
      simp only [sendComDataToNetPollMode, port, Port.collect, Port.copyIn, Port.offset]
      by_cases h : d.uart1Cnt + UInt16.ofNat data.length < uartRecvBufSize
      · simp only [if_pos h, if_true]
      · simp only [if_neg h, if_true]
  | 0, _, 1, _ =>
      obtain ⟨-, hcnt, hbuf, -⟩ := pollMode_port1 data d
      exact congrArg₂ Port.mk hcnt hbuf
  | 1, _, 0, _ =>
      obtain ⟨-, hcnt, hbuf, -⟩ := pollMode_port2 data d
      exact congrArg₂ Port.mk hcnt hbuf
  | 1, _, 1, _ =>
      simp only [sendComDataToNetPollMode, port, Port.collect, Port.copyIn, Port.offset,
        Nat.one_ne_zero, if_false, if_true]
      by_cases h : d.uart2Cnt + UInt16.ofNat data.length < uartRecvBufSize
      · simp only [if_pos h]
      · simp only [if_neg h]

/-! ## The reply to a query -/

/-- What a query for the port byte `b` is answered with, after the port byte; `m` is the send
buffer. -/
def queryAnswer (d : Device) (m : Mem) (b : UInt8) : List UInt8 :=
  if b = 1 then
    (d.uart1Cnt / 0x100).toUInt8 :: (d.uart1Cnt % 0x100).toUInt8 ::
      slice d.uart1RecvBuf 0 d.uart1Cnt.toNat
  else if b = 2 then
    (d.uart2Cnt / 0x100).toUInt8 :: (d.uart2Cnt % 0x100).toUInt8 ::
      slice (blit m 7 (slice d.uart2RecvBuf 0 d.uart1Cnt.toNat)) 7 d.uart2Cnt.toNat
  else [0, 0]

/-- The seven bytes before the data, the data and the checksum. -/
theorem slice_data (m : Mem) (id v hi lo : UInt8) (bytes : List UInt8) (n : Nat) :
    let r := finish (blit (store (store (store (makeAckHead m id) 4 v) 5 hi) 6 lo) 7 bytes) (n + 7)
    slice r.1 0 r.2 = [protocolHead1, protocolHead2, id, alarmDeviceId, v, hi, lo] ++
      slice (blit m 7 bytes) 7 n ++ [0] := by
  intro r
  have hhead : slice (blit (store (store (store (makeAckHead m id) 4 v) 5 hi) 6 lo) 7 bytes) 0 7 =
      [protocolHead1, protocolHead2, id, alarmDeviceId, v, hi, lo] := by
    rw [slice_blit_disjoint _ _ (.inl (Nat.le_refl 7))]
    rfl
  have hdata : slice (blit (store (store (store (makeAckHead m id) 4 v) 5 hi) 6 lo) 7 bytes) 7 n =
      slice (blit m 7 bytes) 7 n := by
    rw [slice_eq_iff]
    intro i _
    simp only [blit, Nat.le_add_right, if_true]
    rw [store_ne _ _ (by omega), store_ne _ _ (by omega), store_ne _ _ (by omega), makeAckHead,
      store_ne _ _ (by omega), store_ne _ _ (by omega), store_ne _ _ (by omega),
      store_ne _ _ (by omega)]
  show slice (finish _ (n + 7)).1 0 (finish _ (n + 7)).2 = _
  rw [slice_finish, Nat.add_comm n 7, slice_add, Nat.zero_add, hhead, hdata]

theorem query_reply (d : Device) (buf m : Mem) :
    let r := makeAckQueryUartRecvData d buf m
    slice r.1 0 r.2 =
      [protocolHead1, protocolHead2, protocolAckQueryUartRecvData, alarmDeviceId, buf 4] ++
        queryAnswer d m (buf 4) ++ [0] := by
  intro r
  have hport : ((buf 4).toUInt32 - 1 + 1).toUInt8 = buf 4 := by
    rw [UInt32.sub_add_cancel, UInt8.toUInt8_toUInt32]
  have h0 : (buf 4).toUInt32 - 1 = 0 ↔ buf 4 = 1 := portIndex_eq_iff (buf 4) 1
  have h1 : (buf 4).toUInt32 - 1 = 1 ↔ buf 4 = 2 := portIndex_eq_iff (buf 4) 2
  simp only [r, makeAckQueryUartRecvData, hport, h0, h1, queryAnswer]
  by_cases hb1 : buf 4 = 1
  · rw [if_pos hb1, if_pos hb1, slice_data]
    have hcopy := slice_blit_self m 7 (slice d.uart1RecvBuf 0 d.uart1Cnt.toNat)
    rw [slice_length] at hcopy
    rw [hcopy]
    rfl
  · rw [if_neg hb1, if_neg hb1]
    by_cases hb2 : buf 4 = 2
    · rw [if_pos hb2, if_pos hb2, slice_data]
      rfl
    · rw [if_neg hb2, if_neg hb2, slice_finish]
      rfl

/-! ## Interrupt mode -/

/-- `Protocol_SendComDataToNet_IntMode`; `buf` is the global command buffer. -/
def sendComDataToNetIntMode (buf : Mem) (id : Nat) (data : List UInt8) (d : Device) : Outcome :=
  let d := sendComDataToNetPollMode id data d
  send d (makeAckQueryUartRecvData d buf d.bufSend)

/-- The packet written to the server has the port byte of `id`, the count of `data` and
`data`. -/
def Pushes (buf : Mem) (id : Nat) (data : List UInt8) (d : Device) : Prop :=
  ∃ r, (sendComDataToNetIntMode buf id data d).2 = [.reply r] ∧
    r[4]? = some (UInt8.ofNat (id + 1)) ∧ Carries r data

/-- A reply to a query carries the data of a port exactly when it is for that port and its
answer is the data with their count. -/
theorem carries_iff (d : Device) (buf m : Mem) {v : UInt8} {data r : List UInt8}
    (h : r = slice (makeAckQueryUartRecvData d buf m).1 0 (makeAckQueryUartRecvData d buf m).2) :
    (r[4]? = some v ∧ Carries r data) ↔ buf 4 = v ∧ queryAnswer d m (buf 4) =
      UInt8.ofNat (data.length / 256) :: UInt8.ofNat (data.length % 256) :: data := by
  have hr : r = [protocolHead1, protocolHead2, protocolAckQueryUartRecvData, alarmDeviceId,
      buf 4] ++ (queryAnswer d m (buf 4) ++ [0]) := by
    rw [← List.append_assoc, h]
    exact query_reply d buf m
  have hdrop : r.drop 5 = queryAnswer d m (buf 4) ++ [0] := by
    rw [hr]
    rfl
  rw [Carries, hdrop, hr]
  apply and_congr
  · exact Option.some_inj
  · constructor
    · intro h
      obtain ⟨crc, hcrc⟩ := h
      rw [← List.cons_append, ← List.cons_append] at hcrc
      exact (List.append_inj' hcrc rfl).1
    · intro h
      exact ⟨0, by rw [h]; rfl⟩

theorem queryAnswer_one (d : Device) (m : Mem) :
    queryAnswer d m 1 = ((port d 0).cnt / 0x100).toUInt8 :: ((port d 0).cnt % 0x100).toUInt8 ::
      slice (port d 0).buf 0 (port d 0).cnt.toNat :=
  if_pos rfl

theorem queryAnswer_two (d : Device) (m : Mem) :
    queryAnswer d m 2 = ((port d 1).cnt / 0x100).toUInt8 :: ((port d 1).cnt % 0x100).toUInt8 ::
      slice (blit m 7 (slice (port d 1).buf 0 (port d 0).cnt.toNat)) 7 (port d 1).cnt.toNat := by
  rw [queryAnswer, if_neg (by decide), if_pos rfl]
  rfl

/-- Collecting changes the two ports only. -/
theorem pollMode_changes (id : Nat) (data : List UInt8) (d : Device) :
    sendComDataToNetPollMode id data d =
      { d with
        uart1Cnt := (sendComDataToNetPollMode id data d).uart1Cnt
        uart2Cnt := (sendComDataToNetPollMode id data d).uart2Cnt
        uart1RecvBuf := (sendComDataToNetPollMode id data d).uart1RecvBuf
        uart2RecvBuf := (sendComDataToNetPollMode id data d).uart2RecvBuf } := by
  simp only [sendComDataToNetPollMode]
  split
  · split <;> rfl
  · split
    · split <;> rfl
    · rfl

theorem pollMode_bufSend (id : Nat) (data : List UInt8) (d : Device) :
    (sendComDataToNetPollMode id data d).bufSend = d.bufSend := by
  rw [pollMode_changes]

/-- The first chunk of a port is put at the start of its buffer. -/
theorem collect_first (id : Nat) {p : Port} {data : List UInt8} (hcnt : p.cnt = 0)
    (hlen : data.length < 0x800) :
    (p.collect id data).cnt.toNat = data.length ∧ (p.collect id data).buf = blit p.buf 0 data := by
  have hnat : (0 + UInt16.ofNat data.length).toNat = data.length := by
    rw [UInt16.zero_add, UInt16.toNat_ofNat']
    omega
  have hfits : 0 + UInt16.ofNat data.length < uartRecvBufSize := by
    rw [UInt16.lt_iff_toNat_lt, hnat]
    exact hlen
  have hoff : p.offset id = 0 := by
    rw [Port.offset, hcnt]
    split <;> rfl
  simp only [Port.collect, Port.copyIn, hcnt, if_pos hfits, hoff]
  exact ⟨hnat, trivial⟩

/-- A push carries its data exactly when byte 4 of the command buffer is for its port and
the answer there is the data with their count. -/
theorem pushes_iff (buf : Mem) (id : Nat) (data : List UInt8) (d : Device) :
    Pushes buf id data d ↔ buf 4 = UInt8.ofNat (id + 1) ∧
      queryAnswer (sendComDataToNetPollMode id data d) d.bufSend (buf 4) =
        UInt8.ofNat (data.length / 256) :: UInt8.ofNat (data.length % 256) :: data := by
  rw [← pollMode_bufSend id data d]
  constructor
  · intro h
    obtain ⟨r, hr, hport⟩ := h
    exact (carries_iff _ buf _ (Event.reply.inj (List.singleton_inj.mp hr)).symm).mp hport
  · exact fun h => ⟨_, rfl, (carries_iff _ buf _ rfl).mpr h⟩

/-- A first chunk of port 1 is answered as it is. -/
theorem pushAnswer_one {data : List UInt8} {d : Device} (h1 : d.uart1Cnt = 0)
    (hlen : data.length < 0x800) (m : Mem) :
    queryAnswer (sendComDataToNetPollMode 0 data d) m 1 =
      UInt8.ofNat (data.length / 256) :: UInt8.ofNat (data.length % 256) :: data := by
  have hport := pollMode_port Nat.two_pos Nat.two_pos data d
  obtain ⟨hcnt, hbuf⟩ := collect_first 0 (p := port d 0) h1 hlen
  rw [if_pos rfl] at hport
  rw [← hport] at hcnt hbuf
  obtain ⟨hhi, hlo⟩ := count_bytes hcnt
  rw [queryAnswer_one, hhi, hlo, hcnt, hbuf, slice_blit_self]

/-- A first chunk of port 2 is copied with the count of port 1, which is zero. -/
theorem pushAnswer_two {data : List UInt8} {d : Device} (h1 : d.uart1Cnt = 0)
    (h2 : d.uart2Cnt = 0) (hlen : data.length < 0x800) (m : Mem) :
    queryAnswer (sendComDataToNetPollMode 1 data d) m 2 =
      UInt8.ofNat (data.length / 256) :: UInt8.ofNat (data.length % 256) ::
        slice m 7 data.length := by
  have hport := pollMode_port Nat.one_lt_two Nat.one_lt_two data d
  have hother := pollMode_port Nat.one_lt_two Nat.two_pos data d
  obtain ⟨hcnt, -⟩ := collect_first 1 (p := port d 1) h2 hlen
  rw [if_pos rfl] at hport
  rw [if_neg (by decide)] at hother
  rw [← hport] at hcnt
  obtain ⟨hhi, hlo⟩ := count_bytes hcnt
  have hzero : (port (sendComDataToNetPollMode 1 data d) 0).cnt = 0 :=
    (congrArg Port.cnt hother).trans h1
  rw [queryAnswer_two, hhi, hlo, hcnt, hzero, UInt16.toNat_zero, slice_zero, blit_nil]

/-- With empty buffers a push carries its data exactly when the last packet from the server
named the same port and, for port 2, when the data stand in the send buffer already. -/
theorem push_iff (buf : Mem) {id : Nat} (hid : id < 2) {data : List UInt8} {d : Device}
    (h1 : d.uart1Cnt = 0) (h2 : d.uart2Cnt = 0) (hlen : data.length ≤ 1016) :
    Pushes buf id data d ↔
      (id = 0 ∧ buf 4 = 1) ∨ (id = 1 ∧ buf 4 = 2 ∧ slice d.bufSend 7 data.length = data) := by
  have hlt : data.length < 0x800 := by omega
  rw [pushes_iff]
  match id, hid with
  | 0, _ =>
      constructor
      · exact fun h => .inl ⟨rfl, h.1⟩
      · intro h
        rcases h with ⟨-, h⟩ | ⟨h, -⟩
        · exact ⟨h, by rw [h]; exact pushAnswer_one h1 hlt d.bufSend⟩
        · cases h
  | 1, _ =>
      constructor
      · intro h
        obtain ⟨hb, hdata⟩ := h
        have h4 : buf 4 = 2 := hb
        rw [h4, pushAnswer_two h1 h2 hlt, List.cons.injEq, List.cons.injEq] at hdata
        exact .inr ⟨rfl, h4, hdata.2.2⟩
      · intro h
        rcases h with ⟨h, -⟩ | ⟨-, hb, hdata⟩
        · cases h
        · exact ⟨hb, by rw [hb, pushAnswer_two h1 h2 hlt, hdata]⟩

/-- The push of one byte for port 1 after a query of port 1. -/
theorem push_named : Pushes (store zero 4 1) 0 [0x41] (Device.start zero) :=
  (push_iff (store zero 4 1) (by decide) rfl rfl (by decide)).mpr (.inl ⟨rfl, rfl⟩)

/-- Before any packet from the server the push of a byte of port 1 has port byte 0. -/
theorem push_unnamed :
    ¬∀ (buf : Mem) (id : Nat) (data : List UInt8) (d : Device), id < 2 → d.uart1Cnt = 0 →
      d.uart2Cnt = 0 → data.length ≤ 1016 → Pushes buf id data d := by
  intro h
  obtain ⟨r, hr, hport⟩ := h zero 0 [0x41] (Device.start zero) (by decide) rfl rfl (by decide)
  have hbyte := (carries_iff _ zero _ (Event.reply.inj (List.singleton_inj.mp hr)).symm).mp hport
  exact absurd hbyte.1 (by decide)

/-! ## Runs -/

/-- `COM_RECV_BUF_MAX`. -/
def comRecvBufMax : Nat := 131072

/-- What one `read` of a port's thread delivers. -/
structure Arrival where
  id : Nat
  data : List UInt8
  isPort : id < 2
  nonempty : 0 < data.length
  short : data.length ≤ comRecvBufMax

/-- What happens to the client: `com_proc` calls one of the two functions, or a packet of
the server is read. -/
inductive Traffic where
  | poll (a : Arrival)
  | push (a : Arrival)
  | packet (env : Env) (p : Packet)

/-- What the client does then. -/
def respond (s : Receiver) : Traffic → Receiver × List Event
  | .poll a => (⟨s.buf, sendComDataToNetPollMode a.id a.data s.dev⟩, [])
  | .push a =>
      let r := sendComDataToNetIntMode s.buf a.id a.data s.dev
      (⟨s.buf, r.1⟩, r.2)
  | .packet env p => clientStep env s p

def arrive (s : Receiver) (x : Traffic) : Receiver := (respond s x).1

/-- The chunk that an input brings to port `q`. -/
def Traffic.chunk (q : Nat) : Traffic → Option (List UInt8)
  | .poll a => if a.id = q then some a.data else none
  | .push a => if a.id = q then some a.data else none
  | .packet _ _ => none

/-- The chunks that port `q` gets in a run. -/
def chunksOf (q : Nat) (xs : List Traffic) : List (List UInt8) := xs.filterMap (Traffic.chunk q)

private theorem works_port {d d' : Device} (h : Works d d') : port d' = port d := by
  induction h with
  | scratch h =>
      funext q
      rw [port, port, h.cnt1, h.cnt2, h.buf1, h.buf2]
  | save d conf => rfl
  | trans _ _ ih ih' => exact ih'.trans ih

private theorem setHeartbeat_port (d : Device) (status : Nat) (time : UInt8) :
    port (setHeartbeat d status time) = port d := by
  unfold setHeartbeat
  split <;> rfl

/-- No packet of the server changes what the ports hold. -/
theorem packet_port (env : Env) (s : Receiver) (p : Packet) :
    port (clientStep env s p).1.dev = port s.dev := by
  show port (clientDispatch env (received s.buf p) p.bytes.length s.dev).1 = _
  rcases clientDispatch_cases env (received s.buf p) p.bytes.length s.dev with ⟨c, -, h⟩ | ⟨-, h⟩
  · rw [h]
    by_cases hc : c = .setHeartbeat
    · subst hc
      exact setHeartbeat_port _ _ _
    · exact works_port (perform_works env _ s.dev hc)
  · rw [h]

private theorem arrive_port_step (s : Receiver) (x : Traffic) {q : Nat} (hq : q < 2) :
    port (arrive s x).dev q =
      match x.chunk q with
      | some data => (port s.dev q).collect q data
      | none => port s.dev q := by
  have hchunk : ∀ a : Arrival, port (sendComDataToNetPollMode a.id a.data s.dev) q =
      match if a.id = q then some a.data else none with
      | some data => (port s.dev q).collect q data
      | none => port s.dev q := by
    intro a
    rw [pollMode_port a.isPort hq]
    by_cases h : a.id = q
    · rw [if_pos h, if_pos h.symm]
    · rw [if_neg h, if_neg (Ne.symm h)]
  cases x with
  | poll a => exact hchunk a
  | push a => exact hchunk a
  | packet env p => exact congrFun (packet_port env s p) q

/-- What port `q` holds after a run is what collecting its chunks makes of it, whatever the
other port and the server sent. -/
theorem arrive_port (s : Receiver) (xs : List Traffic) {q : Nat} (hq : q < 2) :
    port (exec arrive s xs).dev q = exec (Port.collect q) (port s.dev q) (chunksOf q xs) := by
  induction xs generalizing s with
  | nil => rfl
  | cons x xs ih =>
      rw [exec, ih, arrive_port_step s x hq]
      simp only [chunksOf, List.filterMap_cons]
      cases x.chunk q with
      | none => rfl
      | some data => rfl

/-- A counter counts modulo `65536`. -/
theorem collect_count (q : Nat) (p : Port) (cs : List (List UInt8)) :
    (exec (Port.collect q) p cs).cnt.toNat = (p.cnt.toNat + cs.flatten.length) % 65536 := by
  induction cs generalizing p with
  | nil =>
      have := p.cnt.toNat_lt
      rw [exec, List.flatten_nil, List.length_nil]
      omega
  | cons data cs ih =>
      rw [exec, ih, List.flatten_cons, List.length_append]
      show ((p.cnt + UInt16.ofNat data.length).toNat + _) % 65536 = _
      rw [UInt16.toNat_add, UInt16.toNat_ofNat']
      omega

end Itertk.Client.Arrivals
