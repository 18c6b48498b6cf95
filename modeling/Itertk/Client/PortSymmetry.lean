import Itertk.Client.Arrivals

/-!
# The two ports compared

The code for port 2 was copied from that for port 1 and differs in two places: the writer
puts each chunk at the start of the buffer, and the reader copies as many bytes as port 1
has received.  So what a query of port 2 gets is made up of three things: the last chunk
that is long enough, the buffer before, and the send buffer.  The reply is built in
`buf_send[1024]`, which takes 1016 bytes of a port.

## Main result

* `alike_iff` — when the replies of the two ports for the same chunks are the same.
-/

namespace Itertk.Client.PortSymmetry

open Itertk.Base.Memory
open Itertk.Base.Run
open Itertk.Daemon.State
open Itertk.Client.Checks
open Itertk.Client.Replies
open Itertk.Client.Dispatch
open Itertk.Client.SendBuffer
open Itertk.Client.PollMode
open Itertk.Client.Arrivals

/-! ## Feeding and asking a port -/

/-- A run from a state in which port `q` is empty and in which it gets the chunks `cs`; what
happens to the other port, and what the server sends, is arbitrary. -/
structure Fed (q : Nat) (cs : List (List UInt8)) where
  start : Receiver
  inputs : List Traffic
  empty : (port start.dev q).cnt = 0
  chunks : chunksOf q inputs = cs

/-- The state after the run. -/
def Fed.state {q : Nat} {cs : List (List UInt8)} (f : Fed q cs) : Receiver :=
  exec arrive f.start f.inputs

/-- A query of port `q` that is accepted in state `s`. -/
structure Asks (q : Nat) (s : Receiver) where
  env : Env
  packet : Packet
  reaches : Reaches (received s.buf packet) packet.bytes.length .queryUartRecvData
  byte : received s.buf packet 4 = UInt8.ofNat (q + 1)

/-- What is sent for the query. -/
def Asks.sent {q : Nat} {s : Receiver} (a : Asks q s) : List Event :=
  (clientStep a.env s a.packet).2

/-- The reply is built inside the send buffer. -/
def Asks.Built {q : Nat} {s : Receiver} (a : Asks q s) : Prop :=
  InBuffer (makeAckQueryUartRecvData s.dev (received s.buf a.packet))

/-- The two queries get replies, built inside the send buffer, that are equal except for the
port byte. -/
def Alike {q q' : Nat} {s s' : Receiver} (a : Asks q s) (a' : Asks q' s') : Prop :=
  a.Built ∧ a'.Built ∧ ∃ r r', a.sent = [.reply r] ∧ a'.sent = [.reply r'] ∧
    r.take 4 = r'.take 4 ∧ r.drop 5 = r'.drop 5

/-- Byte `i` of the last chunk that is longer than `i`, or `v`. -/
def overlay (cs : List (List UInt8)) (v : UInt8) (i : Nat) : UInt8 :=
  cs.foldl (fun v data => (data[i]?).getD v) v

/-- How many bytes port 1 has received at the end of the run, modulo `65536`. -/
def Fed.others {cs : List (List UInt8)} (f : Fed 1 cs) : Nat :=
  ((port f.start.dev 0).cnt.toNat + (chunksOf 0 f.inputs).flatten.length) % 65536

/-- Byte `i` of the data is the one that the last long enough chunk has there, as far as
port 1 has received as many bytes; beyond, it is the one in the send buffer. -/
def Reported {cs : List (List UInt8)} (f : Fed 1 cs) : Prop :=
  ∀ i v, cs.flatten[i]? = some v →
    (if i < f.others then overlay cs (f.start.dev.uart2RecvBuf i) i
      else f.state.dev.bufSend (7 + i)) = v

/-- The send buffer takes the data and as many bytes as port 1 has received, and the bytes of
port 2 are its data. -/
structure Coincides {cs : List (List UInt8)} (f : Fed 1 cs) : Prop where
  data : cs.flatten.length ≤ 1016
  others : f.others ≤ 1017
  bytes : Reported f

/-! ## What the buffers hold -/

/-- A chunk that keeps the count in range is copied. -/
theorem collect_buf (q : Nat) (p : Port) (data : List UInt8)
    (h : p.cnt.toNat + data.length < 0x800) :
    (p.collect q data).cnt.toNat = p.cnt.toNat + data.length ∧
      (p.collect q data).buf = blit p.buf (p.offset q) data := by
  have hnat : (p.cnt + UInt16.ofNat data.length).toNat = p.cnt.toNat + data.length := by
    rw [UInt16.toNat_add, UInt16.toNat_ofNat']
    omega
  have hfits : p.cnt + UInt16.ofNat data.length < uartRecvBufSize := by
    rw [UInt16.lt_iff_toNat_lt, hnat]
    exact h
  simp only [Port.collect, Port.copyIn, if_pos hfits]
  exact ⟨hnat, trivial⟩

/-- Port 1 holds its chunks one after the other. -/
theorem collect_port1 (p : Port) (cs : List (List UInt8))
    (h : p.cnt.toNat + cs.flatten.length < 0x800) :
    slice (exec (Port.collect 0) p cs).buf 0 (p.cnt.toNat + cs.flatten.length) =
      slice p.buf 0 p.cnt.toNat ++ cs.flatten := by
  induction cs generalizing p with
  | nil => rw [exec, List.flatten_nil, List.append_nil, List.length_nil, Nat.add_zero]
  | cons data cs ih =>
      rw [List.flatten_cons, List.length_append] at h ⊢
      obtain ⟨hcnt, hbuf⟩ := collect_buf 0 p data (by omega)
      have hoff : p.offset 0 = p.cnt.toNat := if_pos rfl
      have hrest := ih (p.collect 0 data) (by omega)
      have hdata : slice (blit p.buf p.cnt.toNat data) 0 (p.cnt.toNat + data.length) =
          slice p.buf 0 p.cnt.toNat ++ data := by
        rw [slice_add, Nat.zero_add, slice_blit_self, slice_blit_disjoint _ _ (.inl (by omega))]
      rw [hcnt, hbuf, hoff, hdata, Nat.add_assoc, List.append_assoc] at hrest
      exact hrest

/-- Port 2 holds its chunks one over the other. -/
theorem collect_port2 (p : Port) (cs : List (List UInt8))
    (h : p.cnt.toNat + cs.flatten.length < 0x800) (i : Nat) :
    (exec (Port.collect 1) p cs).buf i = overlay cs (p.buf i) i := by
  induction cs generalizing p with
  | nil => rfl
  | cons data cs ih =>
      rw [List.flatten_cons, List.length_append] at h
      obtain ⟨hcnt, hbuf⟩ := collect_buf 1 p data (by omega)
      rw [exec, ih _ (by omega), hbuf]
      rfl

/-! ## The replies -/

private theorem Asks.sent_eq {q : Nat} {s : Receiver} (a : Asks q s) :
    ∃ r, a.sent = [.reply r] ∧
      r = [protocolHead1, protocolHead2, protocolAckQueryUartRecvData, alarmDeviceId,
        UInt8.ofNat (q + 1)] ++ queryAnswer s.dev s.dev.bufSend (UInt8.ofNat (q + 1)) ++ [0] := by
  refine ⟨_, ?_, rfl⟩
  rw [Asks.sent, clientStep_reaches a.env s a.reaches, perform]
  have hreply := query_reply s.dev (received s.buf a.packet) s.dev.bufSend
  rw [a.byte] at hreply
  exact congrArg (fun r => [Event.reply r]) hreply

/-- Two replies to queries are alike exactly when both fit and their answers are equal. -/
theorem alike_answers {q q' : Nat} {s s' : Receiver} (a : Asks q s) (a' : Asks q' s') :
    Alike a a' ↔ a.Built ∧ a'.Built ∧ queryAnswer s.dev s.dev.bufSend (UInt8.ofNat (q + 1)) =
      queryAnswer s'.dev s'.dev.bufSend (UInt8.ofNat (q' + 1)) := by
  obtain ⟨r, hr, hrbytes⟩ := a.sent_eq
  obtain ⟨r', hr', hr'bytes⟩ := a'.sent_eq
  have hdrop : r.drop 5 = queryAnswer s.dev s.dev.bufSend (UInt8.ofNat (q + 1)) ++ [0] := by
    rw [hrbytes, List.append_assoc]
    rfl
  have hdrop' : r'.drop 5 = queryAnswer s'.dev s'.dev.bufSend (UInt8.ofNat (q' + 1)) ++ [0] := by
    rw [hr'bytes, List.append_assoc]
    rfl
  refine and_congr_right fun _ => and_congr_right fun _ => ?_
  constructor
  · intro h
    obtain ⟨t, t', ht, ht', -, heq⟩ := h
    rw [hr, List.singleton_inj] at ht
    rw [hr', List.singleton_inj] at ht'
    obtain rfl := Event.reply.inj ht
    obtain rfl := Event.reply.inj ht'
    rw [hdrop, hdrop'] at heq
    exact (List.append_inj' heq rfl).1
  · intro h
    refine ⟨r, r', hr, hr', ?_, by rw [hdrop, hdrop', h]⟩
    rw [hrbytes, hr'bytes, List.append_assoc, List.append_assoc]
    rfl

/-- What the port holds at the end of the run. -/
theorem Fed.port_eq {q : Nat} {cs : List (List UInt8)} (f : Fed q cs) (hq : q < 2) :
    port f.state.dev q = exec (Port.collect q) (port f.start.dev q) cs := by
  rw [Fed.state, arrive_port f.start f.inputs hq, f.chunks]

theorem Fed.count {q : Nat} {cs : List (List UInt8)} (f : Fed q cs) (hq : q < 2)
    (hlen : cs.flatten.length < 0x800) : (port f.state.dev q).cnt.toNat = cs.flatten.length := by
  rw [f.port_eq hq, collect_count, f.empty, UInt16.toNat_zero]
  omega

private theorem Fed.others_count {cs : List (List UInt8)} (f : Fed 1 cs) :
    (port f.state.dev 0).cnt.toNat = f.others := by
  rw [Fed.state, arrive_port f.start f.inputs (by decide), collect_count, Fed.others]

/-- The reply of port 1 fits if its data do. -/
theorem Fed.built1 {cs : List (List UInt8)} (f : Fed 0 cs) (hlen : cs.flatten.length < 0x800)
    (a : Asks 0 f.state) : a.Built ↔ cs.flatten.length ≤ 1016 := by
  have hbyte : received f.state.buf a.packet 4 = 1 := a.byte
  have hcnt := f.count (by decide) hlen
  rw [Asks.Built, query_inBuffer_iff, hbyte, ← hcnt]
  constructor
  · exact fun h => UInt16.le_iff_toNat_le.mp (h.1 rfl)
  · exact fun h => ⟨fun _ => UInt16.le_iff_toNat_le.mpr h, fun h2 => absurd h2 (by decide)⟩

/-- That of port 2 fits if, besides, those of port 1 do. -/
theorem Fed.built2 {cs : List (List UInt8)} (f : Fed 1 cs) (hlen : cs.flatten.length < 0x800)
    (a : Asks 1 f.state) : a.Built ↔ cs.flatten.length ≤ 1016 ∧ f.others ≤ 1017 := by
  have hbyte : received f.state.buf a.packet 4 = 2 := a.byte
  have hcnt := f.count (by decide) hlen
  rw [Asks.Built, query_inBuffer_iff, hbyte, ← hcnt, ← f.others_count]
  constructor
  · exact fun h => (h.2 rfl).imp UInt16.le_iff_toNat_le.mp UInt16.le_iff_toNat_le.mp
  · exact fun h => ⟨fun h1 => absurd h1 (by decide),
      fun _ => h.imp UInt16.le_iff_toNat_le.mpr UInt16.le_iff_toNat_le.mpr⟩

/-- Port 1 answers with its chunks. -/
theorem Fed.answer1 {cs : List (List UInt8)} (f : Fed 0 cs) (hlen : cs.flatten.length < 0x800)
    (m : Mem) : queryAnswer f.state.dev m 1 =
      UInt8.ofNat (cs.flatten.length / 256) :: UInt8.ofNat (cs.flatten.length % 256) ::
        cs.flatten := by
  have hcnt := f.count (by decide) hlen
  obtain ⟨hhi, hlo⟩ := count_bytes hcnt
  have hzero : (port f.start.dev 0).cnt.toNat = 0 := congrArg UInt16.toNat f.empty
  have hbuf := collect_port1 (port f.start.dev 0) cs (by omega)
  rw [hzero, Nat.zero_add, slice_zero, List.nil_append, ← f.port_eq (by decide)] at hbuf
  rw [queryAnswer_one, hhi, hlo, hcnt, hbuf]

/-- Port 2 answers with as many bytes, each from its buffer or from the send buffer. -/
theorem Fed.answer2 {cs : List (List UInt8)} (f : Fed 1 cs) (hlen : cs.flatten.length < 0x800) :
    queryAnswer f.state.dev f.state.dev.bufSend 2 =
      UInt8.ofNat (cs.flatten.length / 256) :: UInt8.ofNat (cs.flatten.length % 256) ::
        cs.flatten ↔ Reported f := by
  have hcnt := f.count (by decide) hlen
  obtain ⟨hhi, hlo⟩ := count_bytes hcnt
  have hzero : (port f.start.dev 1).cnt.toNat = 0 := congrArg UInt16.toNat f.empty
  have hbuf : ∀ i, (port f.state.dev 1).buf i = overlay cs (f.start.dev.uart2RecvBuf i) i := by
    intro i
    rw [f.port_eq (by decide)]
    exact collect_port2 (port f.start.dev 1) cs (by omega) i
  -- what is sent as byte `i` of the data
  have hbyte : ∀ i, blit f.state.dev.bufSend 7 (slice (port f.state.dev 1).buf 0 f.others) (7 + i) =
      if i < f.others then overlay cs (f.start.dev.uart2RecvBuf i) i
      else f.state.dev.bufSend (7 + i) := by
    intro i
    by_cases hi : i < f.others
    · have hlength : i < (slice (port f.state.dev 1).buf 0 f.others).length := by
        rw [slice_length]
        exact hi
      rw [if_pos hi, blit_hit _ _ _ _ hlength, getElem_slice, Nat.zero_add, hbuf]
    · rw [if_neg hi]
      exact blit_outside _ _ (.inr (by rw [slice_length]; omega))
  rw [queryAnswer_two, hhi, hlo, hcnt, f.others_count, List.cons.injEq, List.cons.injEq,
    slice_eq_iff_getElem?, Reported]
  simp only [true_and, hbyte]

/-- The two ports answer alike exactly when the replies fit and the bytes of port 2 coincide
with its data. -/
theorem alike_iff {cs : List (List UInt8)} (hlen : cs.flatten.length < 0x800) (f : Fed 0 cs)
    (f' : Fed 1 cs) (a : Asks 0 f.state) (a' : Asks 1 f'.state) :
    Alike a a' ↔ Coincides f' := by
  have hbytes : queryAnswer f.state.dev f.state.dev.bufSend 1 =
      queryAnswer f'.state.dev f'.state.dev.bufSend 2 ↔ Reported f' := by
    rw [f.answer1 hlen, eq_comm]
    exact f'.answer2 hlen
  rw [alike_answers, f.built1 hlen, f'.built2 hlen]
  constructor
  · intro h
    obtain ⟨hdata, ⟨-, hothers⟩, hanswers⟩ := h
    exact ⟨hdata, hothers, hbytes.mp hanswers⟩
  · intro h
    exact ⟨h.data, ⟨h.data, h.others⟩, hbytes.mpr h.bytes⟩

/-- One chunk coincides if port 1 has received at least as many bytes, and no more than the
send buffer takes. -/
theorem coincides_single {data : List UInt8} (f : Fed 1 [data]) (h : data.length ≤ f.others)
    (hdata : data.length ≤ 1016) (hothers : f.others ≤ 1017) : Coincides f := by
  refine ⟨by rwa [List.flatten_singleton], hothers, fun i v hv => ?_⟩
  rw [List.flatten_singleton] at hv
  obtain ⟨hi, -⟩ := List.getElem?_eq_some_iff.mp hv
  rw [if_pos (by omega)]
  show (data[i]?).getD _ = v
  rw [hv]
  rfl

/-- One byte from port `id`. -/
def byteFrom (id : Nat) (h : id < 2) (b : UInt8) : Arrival where
  id := id
  data := [b]
  isPort := h
  nonempty := Nat.one_pos
  short := by show 1 ≤ comRecvBufMax; decide

/-- Port 1 gets one byte after program start. -/
def fedPort1 : Fed 0 [[0x41]] :=
  ⟨factory, [.poll (byteFrom 0 (by decide) 0x41)], rfl, rfl⟩

/-- Port 2 gets one byte after program start, after `xs`. -/
def fedPort2 (xs : List Traffic) (h : chunksOf 1 xs = []) : Fed 1 [[0x41]] where
  start := factory
  inputs := xs ++ [.poll (byteFrom 1 (by decide) 0x41)]
  empty := rfl
  chunks := by rw [chunksOf, List.filterMap_append, ← chunksOf, h]; rfl

/-- The query of port `q + 1`. -/
def asks (q : Nat) (s : Receiver) : Asks q s where
  env := .idle
  packet :=
    { bytes := [0x55, 0xaa, 0x16, 0x01, UInt8.ofNat (q + 1), 0]
      nonempty := Nat.succ_pos 5
      short := by show 6 ≤ readMax; decide }
  reaches := ⟨rfl, rfl, fun _ => ⟨Nat.le_refl 6, rfl, rfl, rfl, rfl⟩⟩
  byte := rfl

/-- After a byte of port 1 a byte of port 2 is reported. -/
theorem alike_after :
    let f' := fedPort2 [.poll (byteFrom 0 (by decide) 0x42)] rfl
    Alike (asks 0 fedPort1.state) (asks 1 f'.state) := by
  intro f'
  exact (alike_iff (by decide) fedPort1 f' _ _).mpr
    (coincides_single f' (by decide) (by decide) (by decide))

/-- Without one, what the send buffer held is reported. -/
theorem not_alike :
    ¬∀ (cs : List (List UInt8)) (f : Fed 0 cs) (f' : Fed 1 cs) (a : Asks 0 f.state)
      (a' : Asks 1 f'.state), cs.flatten.length < 0x800 → Alike a a' := by
  intro h
  have hlen : [([0x41] : List UInt8)].flatten.length < 0x800 := by decide
  obtain ⟨-, -, halike⟩ := (alike_answers _ _).mp
    (h _ fedPort1 (fedPort2 [] rfl) (asks 0 _) (asks 1 _) hlen)
  have hbytes := ((fedPort2 [] rfl).answer2 hlen).mp (halike.symm.trans (fedPort1.answer1 hlen _))
  have hbyte := hbytes 0 0x41 rfl
  rw [if_neg (by decide)] at hbyte
  have hstale : (fedPort2 [] rfl).state.dev.bufSend = zero :=
    pollMode_bufSend 1 [0x41] factory.dev
  rw [hstale] at hbyte
  exact absurd hbyte (by decide)

end Itertk.Client.PortSymmetry
