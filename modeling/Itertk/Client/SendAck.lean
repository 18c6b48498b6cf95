import Itertk.Client.Dispatch

/-!
# What `UART_SEND_DATA` acknowledges

The reply to `UART_SEND_DATA` carries a count.  `writen` adds up what the port accepts
until everything is sent or a call fails; on a failure it returns the result of that call,
and what was accepted before is forgotten.  `uart_send_data` turns -1 into a count of 0.

`acceptedBy` says what the port has got, from the blocks that the calls were made on and
their results; `firstError` finds the call that fails, from the results alone.

## Main results

* `writenLoop_accepted` — the bytes accepted are a prefix of the block, as long as the
  results up to the first error say.
* `acknowledges_iff` — when the count in the reply is the number of bytes accepted.
-/

namespace Itertk.Client.SendAck

open Itertk.Base.Memory
open Itertk.Daemon.State
open Itertk.Client.Checks
open Itertk.Client.Replies
open Itertk.Client.Dispatch

/-! ## What a port accepts -/

/-- The blocks that the calls on the port were made on. -/
def portCalls (es : List Event) : List (List UInt8) :=
  es.filterMap fun
    | .serial _ data => some data
    | _ => none

/-- The bytes that the calls with these results accepted. -/
def acceptedBy : List Int → List (List UInt8) → List UInt8
  | r :: rs, data :: calls => (if r < 0 then [] else data.take r.toNat) ++ acceptedBy rs calls
  | _, _ => []

/-- The first call that fails while there is something left to send: the bytes accepted
before it, and its result. -/
def firstError : (left : Nat) → List Int → Option (Nat × Int)
  | _, [] => none
  | left, r :: rs =>
      if left = 0 then none
      else if r < 0 then some (0, r)
      else (firstError (left - r.toNat) rs).map fun e => (r.toNat + e.1, e.2)

private theorem firstError_zero (rs : List Int) : firstError 0 rs = none := by
  cases rs with
  | nil => rfl
  | cons r rs => exact if_pos rfl

/-- A failing call comes before the end of the block. -/
theorem firstError_lt {left a : Nat} {rs : List Int} {r : Int}
    (h : firstError left rs = some (a, r)) : a < left ∧ r < 0 := by
  induction rs generalizing left a with
  | nil => cases h
  | cons x rs ih =>
      rw [firstError] at h
      by_cases hleft : left = 0
      · rw [if_pos hleft] at h
        cases h
      · rw [if_neg hleft] at h
        by_cases hx : x < 0
        · rw [if_pos hx] at h
          cases h
          exact ⟨by omega, hx⟩
        · rw [if_neg hx] at h
          obtain ⟨⟨b, r'⟩, he, heq⟩ := Option.map_eq_some_iff.mp h
          cases heq
          obtain ⟨hb, hr⟩ := ih he
          exact ⟨by omega, hr⟩

/-- How the write loop ends, and what the port has accepted by then. -/
inductive Ended (nbytes : Nat) (data : List UInt8) (rs : List Int) (o : Option Int × List Event) :
    Prop where
  /-- A call has not returned. -/
  | waiting : firstError data.length rs = none → o.1 = none →
      acceptedBy rs (portCalls o.2) <+: data → Ended nbytes data rs o
  | sent : firstError data.length rs = none → o.1 = some (nbytes : Int) →
      acceptedBy rs (portCalls o.2) = data → Ended nbytes data rs o
  | failed (a : Nat) (r : Int) : firstError data.length rs = some (a, r) → o.1 = some r →
      acceptedBy rs (portCalls o.2) = data.take a → Ended nbytes data rs o

theorem acceptedBy_nil (rs : List Int) : acceptedBy rs [] = [] := by
  cases rs <;> rfl

/-- A call that accepts some of the block. -/
theorem acceptedBy_took {r : Int} (hr : ¬r < 0) (rs : List Int) (fd : Int) (data : List UInt8)
    (es : List Event) : acceptedBy (r :: rs) (portCalls (.serial fd data :: es)) =
      data.take r.toNat ++ acceptedBy rs (portCalls es) := by
  show (if r < 0 then [] else data.take r.toNat) ++ acceptedBy rs (portCalls es) = _
  rw [if_neg hr]

/-- A call that fails, and no call behind it. -/
theorem acceptedBy_failed {r : Int} (hr : r < 0) (rs : List Int) (fd : Int)
    (data : List UInt8) : acceptedBy (r :: rs) (portCalls [.serial fd data]) = [] := by
  show (if r < 0 then [] else data.take r.toNat) ++ acceptedBy rs [] = []
  rw [if_pos hr, acceptedBy_nil]
  rfl

/-- The loop ends in one of the three ways.  Each call is made on what the earlier ones
left, so the induction goes over the results with the rest of the block. -/
theorem writenLoop_accepted (fd : Int) (nbytes : Nat) (rs : List Int) (data : List UInt8) :
    Ended nbytes data rs (writenLoop fd nbytes rs data) := by
  induction rs generalizing data with
  | nil =>
      rw [writenLoop]
      by_cases hdata : data = []
      · rw [if_pos hdata]
        exact .sent rfl rfl hdata.symm
      · rw [if_neg hdata]
        exact .waiting rfl rfl List.nil_prefix
  | cons r rs ih =>
      rw [writenLoop]
      by_cases hdata : data = []
      · rw [if_pos hdata]
        subst hdata
        exact .sent (firstError_zero _) rfl rfl
      · have hleft : data.length ≠ 0 := fun h => hdata (List.length_eq_zero_iff.mp h)
        rw [if_neg hdata]
        by_cases hr : r < 0
        · rw [if_pos hr]
          have herror : firstError data.length (r :: rs) = some (0, r) := by
            rw [firstError, if_neg hleft, if_pos hr]
          exact .failed 0 r herror rfl (acceptedBy_failed hr rs fd data)
        · rw [if_neg hr]
          have herror : firstError data.length (r :: rs) =
              (firstError (data.drop r.toNat).length rs).map fun e => (r.toNat + e.1, e.2) := by
            rw [firstError, if_neg hleft, if_neg hr, List.length_drop]
          have haccepted := acceptedBy_took hr rs fd data
          cases ih (data.drop r.toNat) with
          | waiting hnone hret hpre =>
              refine .waiting (by rw [herror, hnone]; rfl) hret ?_
              rw [haccepted]
              calc data.take r.toNat ++ acceptedBy rs _
                  <+: data.take r.toNat ++ data.drop r.toNat :=
                    (List.prefix_append_right_inj _).mpr hpre
                _ = data := List.take_append_drop _ _
          | sent hnone hret hall =>
              refine .sent (by rw [herror, hnone]; rfl) hret ?_
              rw [haccepted, hall, List.take_append_drop]
          | failed a r' hsome hret hall =>
              refine .failed (r.toNat + a) r' (by rw [herror, hsome]; rfl) hret ?_
              rw [haccepted, hall, List.take_add]

/-! ## Requests -/

/-- Every call returns an error or a count up to what it was asked to write. -/
def Within : (left : Nat) → List Int → Prop
  | _, [] => True
  | left, r :: rs => left = 0 ∨ (r ≤ left ∧ (0 ≤ r → Within (left - r.toNat) rs))

/-- A complete `UART_SEND_DATA` for one of the two ports, and the results of the calls on
the port. -/
structure SendRequest where
  env : Env
  /-- The receive buffer before the read. -/
  buf : Mem
  /-- What is read; a `read` brings at most 100 bytes, which plays no role here. -/
  bytes : List UInt8
  accepted : Accepted 8 Command.uartSendData.code (blit buf 0 bytes) bytes.length
  port : blit buf 0 bytes 4 = 1 ∨ blit buf 0 bytes 4 = 2
  nonempty : 1 ≤ (declaredCount (blit buf 0 bytes)).toNat
  short : (declaredCount (blit buf 0 bytes)).toNat ≤ 0x800
  complete : 8 + (declaredCount (blit buf 0 bytes)).toNat ≤ bytes.length
  results : Within (declaredCount (blit buf 0 bytes)).toNat env.writes

namespace SendRequest

/-- The declared count. -/
def count (r : SendRequest) : Nat := (declaredCount (blit r.buf 0 r.bytes)).toNat

/-- The data behind the count. -/
def payload (r : SendRequest) : List UInt8 := (r.bytes.drop 7).take r.count

/-- What the program does with the packet. -/
def events (r : SendRequest) (d : Device) : List Event := (handleBytes r.env ⟨r.buf, d⟩ r.bytes).2

/-- The bytes that the port accepts. -/
def acceptedBytes (r : SendRequest) (d : Device) : List UInt8 :=
  acceptedBy r.env.writes (portCalls (r.events d))

end SendRequest

/-- `_buf[5]*0x100+_buf[6]` of a reply. -/
def replyCount (reply : List UInt8) : Nat := 256 * (reply.getD 5 0).toNat + (reply.getD 6 0).toNat

/-- The port accepts a prefix of the payload, and the reply counts its bytes. -/
structure Acknowledges (d : Device) (r : SendRequest) : Prop where
  isPrefix : r.acceptedBytes d <+: r.payload
  counted : ∀ reply, Event.reply reply ∈ r.events d → replyCount reply = (r.acceptedBytes d).length

/-- The count that `uart_send_data` makes of an error. -/
def reported (ret : Int) : Nat := if ret = -1 then 0 else (UInt16.ofInt ret).toNat

/-- If a call fails, its result stands for the bytes accepted before it. -/
def ErrorsTell (d : Device) (r : SendRequest) : Prop :=
  d.rsType = 0 ∨ d.rsType = 1 →
    ∀ a ret, firstError r.count r.env.writes = some (a, ret) → reported ret = a

private theorem replyCount_finish (m : Mem) (cnt : UInt16) :
    replyCount (slice (finish (store (store m 5 (cnt / 0x100).toUInt8) 6 (cnt % 0x100).toUInt8)
      7).1 0 8) = cnt.toNat := by
  have hcnt := cnt.toNat_lt
  show 256 * ((cnt / 0x100).toUInt8).toNat + ((cnt % 0x100).toUInt8).toNat = cnt.toNat
  simp only [UInt16.toNat_toUInt8, UInt16.toNat_div, UInt16.toNat_mod, UInt16.reduceToNat]
  omega

private theorem slice_payload (r : SendRequest) :
    slice (blit r.buf 0 r.bytes) 7 r.count = r.payload := by
  have hfits : 8 + r.count ≤ r.bytes.length := r.complete
  apply List.ext_getElem
  · rw [slice_length, SendRequest.payload, List.length_take, List.length_drop]
    omega
  · intro i hi _
    rw [slice_length] at hi
    have hhit := blit_hit r.buf 0 (7 + i) r.bytes (by omega)
    rw [Nat.zero_add] at hhit
    rw [getElem_slice, hhit]
    simp only [SendRequest.payload, List.getElem_take, List.getElem_drop]

/-! ## The reply -/

/-- `uart_send_data` does not refuse the port or the count. -/
theorem not_refused (d : Device) (r : SendRequest) :
    ¬((selectPort d (blit r.buf 0 r.bytes)).getComAttrId ≥ 2 ∨
      (selectPort d (blit r.buf 0 r.bytes)).uartSendCnt = 0 ∨
      (selectPort d (blit r.buf 0 r.bytes)).uartSendCnt > 0x800) := by
  have hcount : (selectPort d (blit r.buf 0 r.bytes)).uartSendCnt.toNat = r.count := rfl
  have hpos : 1 ≤ r.count := r.nonempty
  have hshort : r.count ≤ 0x800 := r.short
  rintro (hid | hzero | hlong)
  · simp only [selectPort] at hid
    rcases r.port with h | h <;> rw [h] at hid <;> exact absurd hid (by decide)
  · rw [hzero] at hcount
    rw [← hcount] at hpos
    exact absurd hpos (by decide)
  · have hlt := UInt16.lt_iff_toNat_lt.mp hlong
    rw [hcount] at hlt
    exact absurd hlt (Nat.not_lt.mpr hshort)

/-- How a request goes on after the calls on the port, whose outcome is `o`. -/
inductive Replied (d : Device) (r : SendRequest) (o : Option Int × List Event) : Prop where
  /-- They have not come to an end. -/
  | waiting : o.1 = none → r.events d = o.2 → Replied d r o
  | replied (ret : Int) (reply : List UInt8) : o.1 = some ret →
      r.events d = o.2 ++ [.reply reply] → replyCount reply = reported ret → Replied d r o

/-- The reply counts what is reported of the result. -/
theorem events_replied (d : Device) (r : SendRequest) :
    ∃ id, Replied d r
      (sendNetDataToCom r.env (selectPort d (blit r.buf 0 r.bytes)) id r.payload) := by
  have hevents : r.events d =
      (makeAckUartSendData r.env (blit r.buf 0 r.bytes) (selectPort d (blit r.buf 0 r.bytes))).2 :=
    congrArg Prod.snd (clientDispatch_reaches r.env d
      (Accepted.reaches (c := .uartSendData) r.accepted))
  have hcount : (selectPort d (blit r.buf 0 r.bytes)).uartSendCnt.toNat = r.count := rfl
  refine ⟨(selectPort d (blit r.buf 0 r.bytes)).getComAttrId, ?_⟩
  have ho : uartSendData r.env (selectPort d (blit r.buf 0 r.bytes)) (blit r.buf 0 r.bytes) =
      let o := sendNetDataToCom r.env (selectPort d (blit r.buf 0 r.bytes))
        (selectPort d (blit r.buf 0 r.bytes)).getComAttrId r.payload
      (o.1.map fun ret => if ret = -1 then 0 else ret, o.2) := by
    unfold uartSendData
    rw [hcount, slice_payload]
  rw [makeAckUartSendData, if_neg (not_refused d r), ho] at hevents
  generalize sendNetDataToCom r.env (selectPort d (blit r.buf 0 r.bytes))
    (selectPort d (blit r.buf 0 r.bytes)).getComAttrId r.payload = o at hevents ⊢
  obtain ⟨ret, es⟩ := o
  cases ret with
  | none => exact .waiting rfl hevents
  | some ret =>
      refine .replied ret _ rfl hevents ?_
      rw [show (finish _ 7).2 = 8 from rfl, replyCount_finish, reported]
      by_cases hminus : ret = -1
      · simp only [if_pos hminus]
        rfl
      · simp only [if_neg hminus]

/-- The events on the port tell the block, the reply does not. -/
theorem portCalls_reply (es : List Event) (reply : List UInt8) :
    portCalls (es ++ [.reply reply]) = portCalls es := by
  rw [portCalls, List.filterMap_append]
  exact List.append_nil _

/-- The calls on the port write no reply. -/
theorem reply_notMem_sendNetDataToCom (env : Env) (d : Device) (id : UInt32) (data : List UInt8)
    (reply : List UInt8) : Event.reply reply ∉ (sendNetDataToCom env d id data).2 := by
  intro h
  unfold sendNetDataToCom writen writenRs485 at h
  split at h
  · obtain ⟨rest, heq⟩ := writenLoop_events _ _ _ _ _ h
    cases heq
  · split at h
    · obtain ⟨rest, heq⟩ := writenLoop_events _ _ _ _ _ h
      cases heq
    · exact List.not_mem_nil h

/-- In both line modes the block goes through the write loop. -/
theorem sendNetDataToCom_ended (env : Env) {d : Device} (hmode : d.rsType = 0 ∨ d.rsType = 1)
    (id : UInt32) (data : List UInt8) :
    Ended data.length data env.writes (sendNetDataToCom env d id data) := by
  unfold sendNetDataToCom
  rcases hmode with h | h
  · rw [if_pos h]
    exact writenLoop_accepted _ _ _ _
  · rw [if_neg (by rw [h]; decide), if_pos h]
    exact writenLoop_accepted _ _ _ _

private theorem sendNetDataToCom_other (env : Env) {d : Device}
    (hmode : ¬(d.rsType = 0 ∨ d.rsType = 1))
    (id : UInt32) (data : List UInt8) : sendNetDataToCom env d id data = (some (-1), []) := by
  rw [not_or] at hmode
  rw [sendNetDataToCom, if_neg hmode.1, if_neg hmode.2]

private theorem payload_length (r : SendRequest) : r.payload.length = r.count := by
  rw [← slice_payload, slice_length]

/-- A reply behind the calls on the port counts what the port accepted. -/
theorem acknowledges_reply {d : Device} {r : SendRequest} {es : List Event} {reply : List UInt8}
    (hevents : r.events d = es ++ [.reply reply]) (hnone : ∀ x, Event.reply x ∉ es)
    (hpre : acceptedBy r.env.writes (portCalls es) <+: r.payload) :
    Acknowledges d r ↔
      replyCount reply = (acceptedBy r.env.writes (portCalls es)).length := by
  have hbytes : r.acceptedBytes d = acceptedBy r.env.writes (portCalls es) := by
    rw [SendRequest.acceptedBytes, hevents, portCalls_reply]
  constructor
  · intro h
    rw [← hbytes]
    exact h.counted reply (by rw [hevents]; exact List.mem_append_right _ List.mem_cons_self)
  · intro h
    refine ⟨by rw [hbytes]; exact hpre, fun x hx => ?_⟩
    rw [hevents] at hx
    rcases List.mem_append.mp hx with hx | hx
    · exact absurd hx (hnone x)
    · cases List.mem_singleton.mp hx
      rw [hbytes]
      exact h

/-- A count is reported as it is. -/
theorem reported_count {n : Nat} (h : n ≤ 0x800) : reported (n : Int) = n := by
  have hmod : ((n : Int) % 2 ^ 16).toNat = n := by omega
  rw [reported, if_neg (by omega), UInt16.ofInt, hmod]
  exact UInt16.toNat_ofNat_of_lt' (Nat.lt_of_le_of_lt h (by decide))

/-- Where the block goes through the write loop, the first error decides. -/
theorem acknowledges_ended {d : Device} {r : SendRequest} {o : Option Int × List Event}
    (hreplied : Replied d r o) (hsilent : ∀ x, Event.reply x ∉ o.2)
    (hended : Ended r.count r.payload r.env.writes o) :
    Acknowledges d r ↔
      ∀ a ret, firstError r.count r.env.writes = some (a, ret) → reported ret = a := by
  rw [← payload_length]
  cases hreplied with
  | waiting hwaits hevents =>
      cases hended with
      | waiting hnone _ hpre =>
          refine iff_of_true ⟨?_, fun reply h => ?_⟩ fun a ret h => ?_
          · rw [SendRequest.acceptedBytes, hevents]
            exact hpre
          · rw [hevents] at h
            exact absurd h (hsilent reply)
          · rw [hnone] at h
            cases h
      | sent _ hret _ | failed _ _ _ hret _ =>
          rw [hwaits] at hret
          cases hret
  | replied ret reply hret hevents hreply =>
      cases hended with
      | waiting _ hwaits _ =>
          rw [hwaits] at hret
          cases hret
      | sent hnone hsent hall =>
          rw [hsent] at hret
          cases hret
          have hcount : reported (r.count : Int) = r.count := reported_count r.short
          refine iff_of_true ?_ fun a ret h => ?_
          · rw [acknowledges_reply hevents hsilent ⟨[], by rw [List.append_nil, hall]⟩, hall,
              hreply,
              payload_length, hcount]
          · rw [hnone] at h
            cases h
      | failed a ret' hfirst hfailed hall =>
          rw [hfailed] at hret
          cases hret
          have hlen : (r.payload.take a).length = a :=
            List.length_take_of_le (Nat.le_of_lt (firstError_lt hfirst).1)
          rw [acknowledges_reply hevents hsilent (by rw [hall]; exact List.take_prefix a _), hall,
            hlen, hreply]
          constructor
          · intro h b ret' hb
            rw [hfirst] at hb
            cases hb
            exact h
          · exact fun h => h a ret hfirst

/-- In the other line modes nothing is written, and 0 is reported. -/
theorem acknowledges_other {d : Device} {r : SendRequest} (hreplied : Replied d r (some (-1), [])) :
    Acknowledges d r := by
  cases hreplied with
  | waiting hwaits => cases hwaits
  | replied ret reply hret hevents hreply =>
      cases hret
      have hnone : acceptedBy r.env.writes (portCalls []) = [] := acceptedBy_nil _
      rw [acknowledges_reply hevents (fun _ h => List.not_mem_nil h)
        (by rw [hnone]; exact List.nil_prefix), hnone, hreply]
      rfl

/-- The acknowledgement is right exactly when no call fails, or the failing call happens to
return what stands for the bytes accepted before it. -/
theorem acknowledges_iff (d : Device) (r : SendRequest) : Acknowledges d r ↔ ErrorsTell d r := by
  obtain ⟨id, hreplied⟩ := events_replied d r
  by_cases hmode : d.rsType = 0 ∨ d.rsType = 1
  · have hended := sendNetDataToCom_ended r.env (d := selectPort d (blit r.buf 0 r.bytes)) hmode id
      r.payload
    rw [payload_length] at hended
    have hsilent := reply_notMem_sendNetDataToCom r.env (selectPort d (blit r.buf 0 r.bytes)) id
      r.payload
    rw [acknowledges_ended hreplied hsilent hended, ErrorsTell, forall_prop_of_true hmode]
  · have hother := sendNetDataToCom_other r.env (d := selectPort d (blit r.buf 0 r.bytes)) hmode id
      r.payload
    rw [hother] at hreplied
    exact iff_of_true (acknowledges_other hreplied) fun h => absurd h hmode

/-- Three bytes for port 1; the port takes two of them, and the second `write` fails. -/
def twoOfThree : SendRequest where
  env := { Env.idle with writes := [2, -1] }
  buf := zero
  bytes := [0x55, 0xaa, 0x13, 0x01, 1, 0, 3, 10, 11, 12, 0]
  accepted := by decide
  port := .inl rfl
  nonempty := by decide
  short := by decide
  complete := by decide
  results := .inr ⟨by decide, fun _ => .inr ⟨by decide, fun h => absurd h (by decide)⟩⟩

/-- The reply counts none of the two bytes. -/
theorem not_acknowledges_twoOfThree : ¬Acknowledges (Device.start zero) twoOfThree := by
  intro h
  have hcount := h.counted [0x55, 0xaa, 0x14, 0x01, 1, 0, 0, 0] (by
    show _ ∈ [Event.serial 0 [10, 11, 12], Event.serial 0 [12],
      Event.reply [0x55, 0xaa, 0x14, 0x01, 1, 0, 0, 0]]
    simp)
  exact absurd hcount (by decide)

end Itertk.Client.SendAck
