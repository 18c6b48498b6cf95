import Itertk.Dns.Resolve

/-!
# Records that are cut off

The walk goes on while a record starts inside the datagram, and then reads twelve bytes of
it, or sixteen.  Where the datagram ends earlier, these come from what the stack held, or
from behind the buffer.

## Main results

* `readsReceived_iff` — nothing else is read exactly when every record that the walk gets
  to is there, as far as it is looked at.
* `itsDns_stack` — on such answers `its_dns` does not depend on the stack.
-/

namespace Itertk.Dns.ReadBounds

open Itertk.Base.Memory
open Itertk.Dns.Query
open Itertk.Dns.Resolve

/-- Only bytes of the datagram are read, and the result does not depend on the others. -/
structure ReadsReceived (recvMsg : Mem) (len : Nat) (lenRecvMsg : Int) : Prop where
  received : ∀ i ∈ (resolve recvMsg len lenRecvMsg).reads, (i : Int) < lenRecvMsg
  determined : ∀ recvMsg' : Mem, (∀ i : Nat, (i : Int) < lenRecvMsg → recvMsg' i = recvMsg i) →
    (resolve recvMsg' len lenRecvMsg).ip = (resolve recvMsg len lenRecvMsg).ip

/-- From `pos` on the datagram consists of records that are complete, as far as they are
looked at: the first twelve bytes of each, and the address of the one that is the answer.
What follows that one, and the data of the last one, may be cut off. -/
inductive Complete (recvMsg : Mem) (lenRecvMsg : Int) : (pos cnt : Nat) → Prop
  | ended {pos cnt : Nat} : lenRecvMsg ≤ pos → Complete recvMsg lenRecvMsg pos cnt
  | answer {pos cnt : Nat} : IsAnswer recvMsg pos cnt → pos + 16 ≤ lenRecvMsg →
      Complete recvMsg lenRecvMsg pos cnt
  | next {pos cnt : Nat} : ¬IsAnswer recvMsg pos cnt → pos + 12 ≤ lenRecvMsg →
      Complete recvMsg lenRecvMsg (nextPos recvMsg pos) (nextCnt recvMsg pos cnt) →
      Complete recvMsg lenRecvMsg pos cnt

variable {recvMsg : Mem} {n : Int} {pos cnt : Nat}

/-- Along complete records the reads stay inside. -/
theorem reads_of_complete (h : Complete recvMsg n pos cnt) :
    ∀ i ∈ (resolveLoop recvMsg n pos cnt).reads, (i : Int) < n := by
  induction h with
  | ended hend =>
      rw [resolveLoop_end hend]
      exact fun i hi => absurd hi List.not_mem_nil
  | answer ha hle =>
      rw [resolveLoop_answer (by omega) ha]
      intro i hi
      simp only [headReads, addrReads, List.mem_append, List.mem_cons, List.not_mem_nil,
        or_false] at hi
      omega
  | next ha hle _ ih =>
      rw [resolveLoop_next (by omega) ha]
      intro i hi
      rcases List.mem_append.mp hi with hhead | hrest
      · simp only [headReads, List.mem_cons, List.not_mem_nil, or_false] at hhead
        omega
      · exact ih i hrest

/-- The reads stay inside along complete records only.  The induction follows the walk. -/
theorem complete_of_reads
    (h : ∀ i ∈ (resolveLoop recvMsg n pos cnt).reads, (i : Int) < n) :
    Complete recvMsg n pos cnt := by
  induction pos, cnt using resolveLoop.induct recvMsg n with
  | case1 pos cnt hpos ha =>
      refine .answer ha ?_
      have hlast := h (pos + 15) (by
        rw [resolveLoop_answer hpos ha]
        exact List.mem_append_right _ (by simp [addrReads]))
      omega
  | case2 pos cnt hpos ha ih =>
      have hlast := h (pos + 11) (headReads_subset hpos (by simp [headReads]))
      refine .next ha (by omega) (ih fun i hi => h i ?_)
      rw [resolveLoop_next hpos ha]
      exact List.mem_append_right _ hi
  | case3 pos cnt hpos => exact .ended (by omega)

/-- `resolve` reads received bytes only exactly when the records are complete. -/
theorem readsReceived_iff (recvMsg : Mem) (len : Nat) (lenRecvMsg : Int) :
    ReadsReceived recvMsg len lenRecvMsg ↔ Complete recvMsg lenRecvMsg len 12 := by
  constructor
  · intro h
    exact complete_of_reads h.received
  · intro h
    have hreads := reads_of_complete h
    refine ⟨hreads, fun recvMsg' hsame => ?_⟩
    rw [resolve_congr fun i hi => hsame i (hreads i hi)]

/-- A response that ends after the twelfth byte behind the question: the type of what
follows is read from the stack. -/
theorem not_readsReceived_oneByte :
    ¬∀ (recvMsg : Mem) (len lenRecvMsg : Nat), lenRecvMsg ≤ maxSizeDns →
      ReadsReceived recvMsg len lenRecvMsg := by
  intro h
  have hcomplete := (readsReceived_iff zero 33 34).mp (h zero 33 34 (by decide))
  have hno : ¬IsAnswer zero 33 12 := by decide
  cases hcomplete with
  | ended hend => omega
  | answer ha => exact hno ha
  | next _ hle => omega

/-- A complete answer to a query makes `its_dns` independent of what its buffers held. -/
theorem itsDns_stack {www bytes : List UInt8} {server : List UInt8 → Reply}
    (stack stack' : Stack) (hquery : dnsQuery www stack'.name stack'.buf =
      dnsQuery www stack.name stack.buf)
    (hreply : server (dnsQuery www stack.name stack.buf).2 = .datagram bytes)
    (hcomplete : Complete (blit stack.recvMsg 0 (bytes.take maxSizeDns))
      (bytes.take maxSizeDns).length (dnsQuery www stack.name stack.buf).1 12) :
    itsDns stack' server www = itsDns stack server www := by
  have hdetermined := ((readsReceived_iff _ _ _).mpr hcomplete).determined
    (blit stack'.recvMsg 0 (bytes.take maxSizeDns)) fun i hi =>
      AgreeBelow.blit _ _ _ i (by omega)
  simp only [itsDns, hquery, hreply, sendDNSPacket]
  exact hdetermined

end Itertk.Dns.ReadBounds
