import Itertk.Itsip.Socket

/-!
# The two receive routines

`web_conn_recv` goes on until it has `len` bytes; `net_conn_recv` reads once and
takes a short read for a failure.  On data that arrive without timeout or error
the first is `readFull`, the second `readOnce`, and the two agree on the
segmentations whose first chunk is long enough.
-/

namespace Itertk.Itsip.Receivers

open Itertk.Base.Chunks
open Itertk.Itsip.Socket

/-- Each `select` of three seconds finds the next chunk. -/
def Prompt (ps : List RecvPoll) (cs : List (List UInt8)) : Prop := ps.map RecvPoll.brings = cs

/-- Both routines return `SUCCESS` with the first `len` bytes of the stream that
arrives in the chunks `cs`. -/
def ReceiversAgree (cs : List (List UInt8)) (len : UInt32) : Prop :=
  ∀ web lib : Conn, web.isOpen = true → Delivers web.incoming cs → Prompt lib.incoming cs →
    ((webConnRecv web len.toNat).ok = true ∧
      (webConnRecv web len.toNat).bytes = cs.flatten.take len.toNat) ∧
    ((netConnRecv lib len).ok = true ∧
      (netConnRecv lib len).bytes = cs.flatten.take len.toNat)

/-- `net_conn_recv` reads once, and succeeds when the first chunk is long enough. -/
theorem netConnRecv_prompt {lib : Conn} {c : List UInt8} {cs : List (List UInt8)}
    (hne : c ≠ []) (h : Prompt lib.incoming (c :: cs)) (len : UInt32) :
    (netConnRecv lib len).bytes = readOnce len.toNat (c :: cs) ∧
      ((netConnRecv lib len).ok = true ↔ len.toNat ≤ c.length) := by
  obtain ⟨p, ps, hps, hp, _⟩ := List.map_eq_cons_iff.mp h
  unfold netConnRecv
  rw [hps]
  cases p with
  | interrupted | selectFailed | quiet _ | recvFailed _ => exact absurd hp.symm hne
  | data bytes elapsed =>
      obtain rfl : bytes = c := hp
      refine ⟨rfl, ?_⟩
      show decide (UInt32.ofNat (bytes.take len.toNat).length = len) = true ↔ _
      have hlt := len.toNat_lt
      rw [decide_eq_true_iff, ← UInt32.toNat_inj, UInt32.toNat_ofNat', List.length_take]
      omega

/-- The routines agree exactly when the first chunk holds all that is asked for. -/
theorem receiversAgree_iff {cs : List (List UInt8)} (hsolid : Solid cs) {len : UInt32}
    (hpos : 0 < len) (hlen : len.toNat ≤ cs.flatten.length) :
    ReceiversAgree cs len ↔ len.toNat ≤ (cs.headD []).length := by
  have hpos' : 0 < len.toNat := UInt32.lt_iff_toNat_lt.mp hpos
  cases cs with
  | nil =>
      rw [List.flatten_nil, List.length_nil] at hlen
      omega
  | cons c cs =>
      show _ ↔ len.toNat ≤ c.length
      constructor
      · intro h
        have hscript : Prompt ((c :: cs).map fun c => .data c 0) (c :: cs) := by
          rw [Prompt, List.map_map]
          exact List.map_id _
        have hboth := h ⟨true, _, [], []⟩ ⟨true, _, [], []⟩ rfl (delivers_chunks hsolid) hscript
        exact (netConnRecv_prompt hsolid.head hscript len).2.mp hboth.2.1
      · intro hle web lib hopen hweb hlib
        obtain ⟨ps, rest, hrecv, _⟩ := webConnRecv_delivers hopen hweb hpos' hlen
        obtain ⟨hbytes, hok⟩ := netConnRecv_prompt hsolid.head hlib len
        refine ⟨by rw [hrecv]; exact ⟨rfl, rfl⟩, hok.mpr hle, ?_⟩
        rw [hbytes]
        exact (readOnce_eq_take_iff hlen).mpr hle

/-- Two bytes in one segment. -/
theorem receiversAgree_oneSegment : ReceiversAgree [[1, 2]] 2 :=
  (receiversAgree_iff (by simp [Solid]) (by decide) (by decide)).mpr (by decide)

/-- Two bytes in two segments: the daemon's routine waits for the second, the
library's fails. -/
theorem receiversAgree_twoSegments :
    ¬∀ (cs : List (List UInt8)) (len : UInt32), Solid cs → 0 < len →
      len.toNat ≤ cs.flatten.length → ReceiversAgree cs len := by
  intro h
  have hsolid : Solid [[(1 : UInt8)], [2]] := by simp [Solid]
  have hagree := h [[1], [2]] 2 hsolid (by decide) (by decide)
  exact absurd ((receiversAgree_iff hsolid (by decide) (by decide)).mp hagree) (by decide)

end Itertk.Itsip.Receivers
