import Itertk.Base.Run
import Itertk.Client.ReadRange

/-!
# Frames and reads

The alarm server writes frames to a TCP stream and `client_process` handles
whatever one `read` returns as one packet.  There is no reassembly, so the cut of
the stream into reads matters.  `Segmented` is the condition on a run under which
it does not: every frame begins a read that holds the bytes its command decides
by and nothing behind the frame, and the reads that bring the rest of the frame
are refused.  `segmented_same` is the resulting equivalence with the run in which
each frame is handled whole.

The record that `set_io_out` fills has no end in the model: of a `SET_IO` whose count is above 8,
which overruns it on the target, the equivalence is about what is stored.  So it is with a
`SET_DEVICE_ATTR` whose count is above 49, which overruns `tmp[100]`, and with a query of more bytes
than `buf_send` takes.
-/

namespace Itertk.Client.Segmentation

open Itertk.Base.Memory
open Itertk.Base.Run
open Itertk.Daemon.Layout
open Itertk.Daemon.State
open Itertk.Client.Checks
open Itertk.Client.Dispatch
open Itertk.Client.ReadRange

/-! ## Frames -/

/-- The length of a request: head, count, the entries it announces, checksum. -/
def frameLength (cmd : Mem) : Command → Nat
  | .setDeviceAttr => 6 + 2 * (cmd 4).toNat
  | .setUartAttr => 6 + 8 * (cmd 4).toNat
  | .setIo => 6 + 3 * (cmd 4).toNat
  | .getUartAttr | .getIoStatus | .getTempStatus => 6 + (cmd 4).toNat
  | .uartSendData => 8 + (declaredCount cmd).toNat
  | .setTemp => 8
  | .getTime => 5
  | c => c.minLength

/-- A well-formed request frame: head, command, device, announced length, and at
least the bytes its check asks for. -/
structure Frame where
  bytes : List UInt8
  command : Command
  head : bytes.take 4 = [protocolHead1, protocolHead2, command.code, alarmDeviceId]
  length : bytes.length = frameLength (blit zero 0 bytes) command
  minimum : command.minLength ≤ bytes.length

/-! ## What a run does -/

/-- The command whose arm handles the packet. -/
def reached (cmd : Mem) (num : Nat) : Option Command :=
  if checkHead cmd ≠ 0 then none
  else
    match Command.ofByte (cmd 2) with
    | some c => if c.hasCheck = true ∧ ¬Accepted c.minLength c.code cmd num then none else some c
    | none => none

private theorem reached_of_reaches {cmd : Mem} {num : Nat} {c : Command} (h : Reaches cmd num c) :
    reached cmd num = some c := by
  rw [reached, if_neg (by rw [h.head]; decide), h.command, Command.ofByte_code]
  exact if_neg fun ⟨hc, hno⟩ => hno (h.accepted hc)

private theorem reached_of_refused {cmd : Mem} {num : Nat} (h : ∀ c, ¬Reaches cmd num c) :
    reached cmd num = none := by
  cases hr : reached cmd num with
  | none => rfl
  | some c =>
      rw [reached] at hr
      by_cases hhead : checkHead cmd = 0
      · rw [if_neg (by rw [hhead]; decide)] at hr
        cases hcmd : Command.ofByte (cmd 2) with
        | none => rw [hcmd] at hr; cases hr
        | some c' =>
            rw [hcmd] at hr
            refine absurd ⟨hhead, Command.ofByte_eq_some hcmd, fun hc => ?_⟩ (h c')
            apply Classical.byContradiction
            intro hno
            simp only [if_pos (And.intro hc hno)] at hr
            cases hr
      · rw [if_pos hhead] at hr; cases hr

/-- The commands handled, in order, each with what it visibly did. -/
def handled (env : Env) (s : Receiver) (bytes : List UInt8) : List (Command × List Event) :=
  match reached (blit s.buf 0 bytes) bytes.length with
  | some c => [(c, (handleBytes env s bytes).2.filter Event.visible)]
  | none => []

/-- One element of a run: what comes from outside, and the bytes handled. -/
abbrev Input := Env × List UInt8

def next (s : Receiver) (x : Input) : Receiver := (handleBytes x.1 s x.2).1

def trace (s : Receiver) : List Input → List (Command × List Event)
  | [] => []
  | x :: xs => handled x.1 s x.2 ++ trace (next s x) xs

/-- The reads of a run, and the frames of the reference run. -/
def readsOf (cs : List (Env × Packet)) : List Input := cs.map fun c => (c.1, c.2.bytes)
def framesOf (fs : List (Env × Frame)) : List Input := fs.map fun f => (f.1, f.2.bytes)

/-- The run over the reads handles what the run over whole frames handles: the
same commands in the same order, each once, with the same replies and outputs,
and it ends in the same configuration. -/
def SameAsFrames (s : Receiver) (fs : List (Env × Frame)) (cs : List (Env × Packet)) : Prop :=
  trace s (readsOf cs) = trace s (framesOf fs) ∧
    (exec next s (readsOf cs)).dev.conf = (exec next s (framesOf fs)).dev.conf

/-! ## The condition -/

/-- The read holds the bytes by which the command decides. -/
structure Sufficient (d : Device) (p : Packet) (c : Command) : Prop where
  header : 3 ≤ p.bytes.length
  minimum : c.minLength ≤ p.bytes.length
  reads : readsReceived d (received zero p) p.bytes.length c

/-- The reads cut the stream of the frames well: the second argument is what is
still to come of the current frame. -/
inductive Segmented :
    Receiver → List UInt8 → List (Env × Frame) → List (Env × Packet) → Prop where
  | done (s : Receiver) : Segmented s [] [] []
  /-- A read at the start of a frame. -/
  | first {s : Receiver} {env : Env} {f : Frame} {p : Packet} {pending : List UInt8}
      {fs : List (Env × Frame)} {cs : List (Env × Packet)}
      (hframe : f.bytes = p.bytes ++ pending) (hsuff : Sufficient s.dev p f.command)
      (hrest : Segmented (clientStep env s p).1 pending fs cs) :
      Segmented s [] ((env, f) :: fs) ((env, p) :: cs)
  /-- A read of more bytes of the same frame, which no arm handles. -/
  | further {s : Receiver} {env : Env} {p : Packet} {pending : List UInt8}
      {fs : List (Env × Frame)} {cs : List (Env × Packet)}
      (hrefused : ∀ c, ¬Reaches (received s.buf p) p.bytes.length c)
      (hrest : Segmented (clientStep env s p).1 pending fs cs) :
      Segmented s (p.bytes ++ pending) fs ((env, p) :: cs)

/-- The reads are a segmentation of the stream. -/
theorem Segmented.stream {s : Receiver} {pending : List UInt8} {fs : List (Env × Frame)}
    {cs : List (Env × Packet)} (h : Segmented s pending fs cs) :
    (cs.map fun c => c.2.bytes).flatten = pending ++ (fs.map fun f => f.2.bytes).flatten := by
  induction h with
  | done s => rfl
  | first hframe hsuff hrest ih =>
      rw [List.map_cons, List.flatten_cons, ih, List.map_cons, List.flatten_cons, hframe,
        List.nil_append, List.append_assoc]
  | further hrefused hrest ih =>
      rw [List.map_cons, List.flatten_cons, ih, List.append_assoc]

/-! ## One frame -/

/-- A piece of a frame that holds its header and its check's minimum reaches the
frame's command. -/
theorem frame_reaches (f : Frame) (buf : Mem) {bytes rest : List UInt8}
    (hf : f.bytes = bytes ++ rest) (h3 : 3 ≤ bytes.length)
    (hmin : f.command.minLength ≤ bytes.length) :
    Reaches (blit buf 0 bytes) bytes.length f.command := by
  have hbyte : ∀ {i v}, i < bytes.length →
      [protocolHead1, protocolHead2, f.command.code, alarmDeviceId][i]? = some v →
      blit buf 0 bytes i = v := by
    intro i v hi hv
    rw [← f.head, List.getElem?_take] at hv
    split at hv
    · rw [hf, List.getElem?_append_left hi] at hv
      have := blit_of_getElem? buf 0 hv
      rwa [Nat.zero_add] at this
    · cases hv
  refine ⟨(checkHead_eq_zero_iff _).mpr ⟨hbyte (by omega) rfl, hbyte (by omega) rfl⟩,
    hbyte (by omega) rfl, fun hc => ?_⟩
  have hfive := Command.five_le_minLength hc
  exact ⟨hmin, hbyte (by omega) rfl, hbyte (by omega) rfl, hbyte (by omega) rfl,
    hbyte (by omega) rfl⟩

/-- The whole frame reaches its command. -/
theorem frame_reaches_self (f : Frame) (buf : Mem) :
    Reaches (blit buf 0 f.bytes) f.bytes.length f.command := by
  have h4 : 4 ≤ f.bytes.length := by
    have := congrArg List.length f.head
    rw [List.length_take] at this
    simp only [List.length_cons, List.length_nil] at this
    omega
  exact frame_reaches f buf (List.append_nil _).symm (by omega) f.minimum

/-- A sufficient first read does what the whole frame does, whatever the two
buffers held before. -/
theorem first_same (env : Env) {d : Device} {f : Frame} {p : Packet} {pending : List UInt8}
    (hframe : f.bytes = p.bytes ++ pending) (hsuff : Sufficient d p f.command) (buf buf' : Mem) :
    clientDispatch env (blit buf 0 p.bytes) p.bytes.length d =
      clientDispatch env (blit buf' 0 f.bytes) f.bytes.length d := by
  have hread := frame_reaches f buf hframe hsuff.header hsuff.minimum
  rw [clientDispatch_reaches env d hread, clientDispatch_reaches env d (frame_reaches_self f buf')]
  have hzero : AgreeBelow p.bytes.length (received zero p) (blit buf 0 p.bytes) :=
    AgreeBelow.blit zero buf p.bytes
  have hwhole : AgreeBelow p.bytes.length (received zero p) (blit buf' 0 f.bytes) := by
    intro i hi
    have hget : p.bytes[i]? = some p.bytes[i] := List.getElem?_eq_getElem hi
    have hin := blit_of_getElem? zero 0 hget
    have hget' : f.bytes[i]? = some p.bytes[i] := by
      rw [hframe, List.getElem?_append_left hi, hget]
    have hin' := blit_of_getElem? buf' 0 hget'
    rw [Nat.zero_add] at hin hin'
    rw [received, hin, hin']
  rw [← perform_congr env d hzero (fun _ => hsuff.minimum) hsuff.reads,
    ← perform_congr env d hwhole (fun _ => hsuff.minimum) hsuff.reads]

/-! ## Whole runs -/

/-- Over a well-cut stream, from one device state and any two buffers, the run
over the reads and the run over whole frames handle the same and end in the same
device state. -/
theorem segmented_run {s s' : Receiver} {pending : List UInt8} {fs : List (Env × Frame)}
    {cs : List (Env × Packet)} (h : Segmented s pending fs cs) (hdev : s.dev = s'.dev) :
    trace s (readsOf cs) = trace s' (framesOf fs) ∧
      (exec next s (readsOf cs)).dev = (exec next s' (framesOf fs)).dev := by
  induction h generalizing s' with
  | done s => exact ⟨rfl, hdev⟩
  | @first s env f p pending fs cs hframe hsuff hrest ih =>
      have hsame := first_same env hframe hsuff s.buf s'.buf
      rw [hdev] at hsame
      have hnext : (clientStep env s p).1.dev = (next s' (env, f.bytes)).dev := by
        show (clientDispatch env _ _ s.dev).1 = (clientDispatch env _ _ s'.dev).1
        rw [hdev, hsame]
      obtain ⟨htrace, hexec⟩ := ih hnext
      refine ⟨?_, hexec⟩
      show handled env s p.bytes ++ _ = handled env s' f.bytes ++ _
      have hread := frame_reaches f s.buf hframe hsuff.header hsuff.minimum
      have hone : handled env s p.bytes = handled env s' f.bytes := by
        rw [handled, handled, reached_of_reaches hread,
          reached_of_reaches (frame_reaches_self f s'.buf)]
        show [(_, (clientDispatch env _ _ s.dev).2.filter _)] =
          [(_, (clientDispatch env _ _ s'.dev).2.filter _)]
        rw [hdev, hsame]
      rw [hone]
      exact congrArg _ htrace
  | @further s env p pending fs cs hrefused hrest ih =>
      have hnext : (clientStep env s p).1.dev = s'.dev := by
        show (clientDispatch env (received s.buf p) _ s.dev).1 = _
        rw [clientDispatch_refused env s.dev hrefused]
        exact hdev
      obtain ⟨htrace, hexec⟩ := ih hnext
      refine ⟨?_, hexec⟩
      have hreached : reached (blit s.buf 0 p.bytes) p.bytes.length = none :=
        reached_of_refused hrefused
      have hnone : handled env s p.bytes = [] := by rw [handled, hreached]
      show handled env s p.bytes ++ _ = _
      rw [hnone]
      exact htrace

/-- In every run whose reads cut the stream well, the reads are handled like the
frames. -/
theorem segmented_same (s : Receiver) (fs : List (Env × Frame)) (cs : List (Env × Packet))
    (h : Segmented s [] fs cs) : SameAsFrames s fs cs := by
  obtain ⟨htrace, hexec⟩ := segmented_run h rfl
  exact ⟨htrace, congrArg Device.conf hexec⟩

/-! ## Merged frames -/

private theorem handled_length_le (env : Env) (s : Receiver) (bytes : List UInt8) :
    (handled env s bytes).length ≤ 1 := by
  unfold handled
  split
  · exact Nat.le_refl 1
  · exact Nat.zero_le 1

/-- A read handles one command at most. -/
theorem trace_length_le (s : Receiver) (xs : List Input) : (trace s xs).length ≤ xs.length := by
  induction xs generalizing s with
  | nil => exact Nat.le_refl 0
  | cons x xs ih =>
      have hone := handled_length_le x.1 s x.2
      have hrest := ih (next s x)
      rw [trace, List.length_append, List.length_cons]
      omega

/-- Handled whole, every frame is handled. -/
theorem trace_frames_length (s : Receiver) (fs : List (Env × Frame)) :
    (trace s (framesOf fs)).length = fs.length := by
  induction fs generalizing s with
  | nil => rfl
  | cons f fs ih =>
      have hone : (handled f.1 s f.2.bytes).length = 1 := by
        rw [handled, reached_of_reaches (frame_reaches_self f.2 s.buf)]
        rfl
      show (handled f.1 s f.2.bytes ++ trace _ (framesOf fs)).length = _
      rw [List.length_append, hone, ih, List.length_cons, Nat.add_comm]

/-- When the stream arrives in fewer reads than it has frames, a frame is lost. -/
theorem merged_not_same (s : Receiver) {fs : List (Env × Frame)} {cs : List (Env × Packet)}
    (h : cs.length < fs.length) : ¬SameAsFrames s fs cs := by
  rintro ⟨htrace, _⟩
  have hlen := trace_length_le s (readsOf cs)
  rw [htrace, trace_frames_length, readsOf, List.length_map] at hlen
  omega

/-! ## Two streams -/

/-- `SET_DEVICE_ATTR` for one alarm input. -/
def oneInput : Frame where
  bytes := [0x55, 0xaa, 0x03, 0x01, 1, 1, 0, 0]
  command := .setDeviceAttr
  head := by decide
  length := by decide
  minimum := by decide

/-- The frame without its checksum, and the checksum. -/
def oneInputBody : Packet := ⟨[0x55, 0xaa, 0x03, 0x01, 1, 1, 0], by decide, by decide⟩
def oneInputCrc : Packet := ⟨[0], by decide, by decide⟩

theorem segmented_same_oneInput :
    SameAsFrames ⟨zero, Device.start zero⟩ [(Env.idle, oneInput)]
      [(Env.idle, oneInputBody), (Env.idle, oneInputCrc)] := by
  apply segmented_same
  have hsuff : Sufficient (Device.start zero) oneInputBody .setDeviceAttr :=
    ⟨by decide, by decide, fun _ => by decide⟩
  have hframe : oneInput.bytes = oneInputBody.bytes ++ [0] := rfl
  refine .first hframe hsuff ?_
  show Segmented _ (oneInputCrc.bytes ++ []) [] [(Env.idle, oneInputCrc)]
  refine .further (fun c hc => ?_) (.done _)
  exact absurd ((checkHead_eq_zero_iff _).mp hc.head).1 (by decide)

/-- `GET_UART_QTY`, and two of them in one read. -/
def qtyFrame : Frame where
  bytes := [0x55, 0xaa, 0x0b, 0x01, 0]
  command := .getUartQty
  head := by decide
  length := by decide
  minimum := by decide

def twoQtyFrames : Packet :=
  ⟨[0x55, 0xaa, 0x0b, 0x01, 0, 0x55, 0xaa, 0x0b, 0x01, 0], by decide, by decide⟩

theorem segmented_same_twoQtyFrames :
    ¬(∀ (env : Env) (s : Receiver) (fs : List Frame) (cs : List Packet),
      (cs.map Packet.bytes).flatten = (fs.map Frame.bytes).flatten →
        SameAsFrames s (fs.map fun f => (env, f)) (cs.map fun p => (env, p))) := by
  intro h
  have hsame := h Env.idle ⟨zero, Device.start zero⟩ [qtyFrame, qtyFrame] [twoQtyFrames] rfl
  exact merged_not_same _ (by decide) hsame

end Itertk.Client.Segmentation
