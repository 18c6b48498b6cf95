import Itertk.Dns.Resolve
import Itertk.Discovery.Text

/-!
# Chains of aliases

A response answers with CNAME records, each of which names another place in the message,
and with A records.  The owner of a record is a compression pointer, an offset of fourteen
bits.  `resolve` compares its lower byte with the offset of the last CNAME's data.  Offsets
from 256 on are never found so; and an A record whose owner differs in the upper bits only
is taken for the answer.

## Main results

* `resolveLoop_cnames`, `resolveLoop_addrs` — the walk over the two parts of an answer.
* `resolves_iff` — which responses are resolved to the address that they give.
-/

namespace Itertk.Dns.Answers

open Itertk.Base.Memory
open Itertk.Base.Labels
open Itertk.Daemon.Config
open Itertk.Discovery.Report
open Itertk.Discovery.Text
open Itertk.Dns.Resolve

/-! ## Responses -/

/-- A compression pointer. -/
structure Pointer where
  offset : Nat
  lt : offset < 16384

/-- The lower byte of a pointer. -/
def Pointer.low (p : Pointer) : UInt8 := UInt8.ofNat p.offset

/-- A record of class IN, with less than 256 bytes of data. -/
def record (owner : Pointer) (type : UInt8) (ttl : Fin 4 → UInt8) (data : List UInt8) :
    List UInt8 :=
  UInt8.ofNat (0xc0 + owner.offset / 256) :: owner.low :: 0 :: type :: 0 :: 1 ::
    (List.ofFn ttl ++ 0 :: UInt8.ofNat data.length :: data)

/-- A CNAME record. -/
structure Cname where
  owner : Pointer
  ttl : Fin 4 → UInt8
  data : List UInt8
  short : data.length ≤ 255

/-- An A record. -/
structure Addr where
  owner : Pointer
  ttl : Fin 4 → UInt8
  addr : Fin 4 → UInt8

def Cname.bytes (c : Cname) : List UInt8 := record c.owner 5 c.ttl c.data
def Addr.bytes (a : Addr) : List UInt8 := record a.owner 1 a.ttl (List.ofFn a.addr)

/-- The offset of the name that the addresses belong to: `cnt`, or that of the data of the
last CNAME of the records from `pos` on. -/
def chainEnd (pos cnt : Nat) : List Cname → Nat
  | [] => cnt
  | c :: cs => chainEnd (pos + c.bytes.length) (pos + 12) cs

/-- Header and question, aliases and addresses, and nothing behind them. -/
def message (question : List UInt8) (cnames : List Cname) (addrs : List Addr) : List UInt8 :=
  question ++ (cnames.flatMap Cname.bytes ++ addrs.flatMap Addr.bytes)

/-- A response that gives an address for the name at the end of its chain. -/
structure Response where
  question : List UInt8
  cnames : List Cname
  addrs : List Addr
  owned : ∃ a ∈ addrs, a.owner.offset = chainEnd question.length 12 cnames
  short : (message question cnames addrs).length ≤ maxSizeDns

namespace Response

variable (r : Response)

def bytes : List UInt8 := message r.question r.cnames r.addrs

/-- The end of the chain. -/
def target : Nat := chainEnd r.question.length 12 r.cnames

/-- The first address of the name at the end of the chain. -/
def answer? : Option Addr := r.addrs.find? fun a => a.owner.offset = r.target

/-- The first A record whose owner has the lower byte that `resolve` looks for. -/
def taken? : Option Addr := r.addrs.find? fun a => a.owner.low.toNat = r.target

end Response

/-- `resolve` returns `DNS_OK` with the address that the response gives, whatever sections
come behind the answers and whatever the buffer holds behind the message. -/
def Resolves (r : Response) : Prop :=
  ∀ (recvMsg : Mem) (more : List UInt8), (r.bytes ++ more).length ≤ maxSizeDns →
    slice recvMsg 0 (r.bytes ++ more).length = r.bytes ++ more →
    ∀ a, r.answer? = some a →
      (resolve recvMsg r.question.length (r.bytes ++ more).length).ip =
        some (dotted (List.ofFn a.addr))

/-- The end of the chain is at an offset that fits into a byte, and no address of another
name, at the same offset up to a multiple of 256, stands before the one that is given. -/
def Distinguished (r : Response) : Prop :=
  r.target < 256 ∧ ∀ a b, r.answer? = some a → r.taken? = some b → b.addr = a.addr

/-! ## One record -/

variable {recvMsg : Mem} {n pos : Nat}

private theorem length_record (owner : Pointer) (type : UInt8) (ttl : Fin 4 → UInt8)
    (data : List UInt8) :
    (record owner type ttl data).length = 12 + data.length := by
  simp only [record, List.length_cons, List.length_append, List.length_ofFn]
  omega

/-- What `resolve` finds in a record. -/
structure Found (recvMsg : Mem) (pos : Nat) (owner : Pointer) (type : UInt8)
    (data : List UInt8) : Prop where
  owner : recvMsg (pos + 1) = owner.low
  type : recvMsg (pos + 3) = type
  class_ : recvMsg (pos + 5) = 1
  next : nextPos recvMsg pos = pos + (12 + data.length)
  data : slice recvMsg (pos + 12) data.length = data

private theorem found_record {owner : Pointer} {type : UInt8} {ttl : Fin 4 → UInt8}
    {data : List UInt8} (hshort : data.length ≤ 255)
    (h : slice recvMsg pos (12 + data.length) = record owner type ttl data) :
    Found recvMsg pos owner type data := by
  rw [← length_record owner type ttl data] at h
  have hbyte := (slice_eq_iff_getElem? recvMsg pos (record owner type ttl data)).mp h
  have hlen : (recvMsg (pos + 11)).toNat = data.length := by
    rw [hbyte 11 _ rfl, UInt8.toNat_ofNat']
    omega
  constructor
  · exact hbyte 1 _ rfl
  · exact hbyte 3 _ rfl
  · exact hbyte 5 _ rfl
  · rw [nextPos, hlen, Nat.add_assoc]
  · rw [slice_eq_iff_getElem?]
    intro i v hv
    have hin : (record owner type ttl data)[12 + i]? = some v := by
      rw [Nat.add_comm]
      exact hv
    rw [Nat.add_assoc]
    exact hbyte (12 + i) v hin

/-- A block and what follows it. -/
theorem slice_append {m : Mem} {off : Nat} {a b : List UInt8}
    (h : slice m off (a ++ b).length = a ++ b) :
    slice m off a.length = a ∧ slice m (off + a.length) b.length = b := by
  rw [List.length_append, slice_add] at h
  exact List.append_inj h (slice_length _ _ _)

/-! ## The walk over the answer -/

/-- The walk passes the aliases and keeps the end of the chain. -/
theorem resolveLoop_cnames {cs : List Cname} (cnt : Nat)
    (h : slice recvMsg pos (cs.flatMap Cname.bytes).length = cs.flatMap Cname.bytes)
    (hn : pos + (cs.flatMap Cname.bytes).length ≤ n) :
    (resolveLoop recvMsg n pos cnt).ip =
      (resolveLoop recvMsg n (pos + (cs.flatMap Cname.bytes).length) (chainEnd pos cnt cs)).ip := by
  induction cs generalizing pos cnt with
  | nil => rfl
  | cons c cs ih =>
      rw [List.flatMap_cons] at h hn ⊢
      have hlen : c.bytes.length = 12 + c.data.length := length_record _ _ _ _
      obtain ⟨hrec, hrest⟩ := slice_append h
      rw [List.length_append] at hn ⊢
      have hfound : Found recvMsg pos c.owner 5 c.data :=
        found_record c.short (by rw [← hlen]; exact hrec)
      have hnot : ¬IsAnswer recvMsg pos cnt := by
        rintro ⟨htype, -⟩
        rw [hfound.type] at htype
        exact absurd htype (by decide)
      have hcnt : nextCnt recvMsg pos cnt = pos + 12 := by rw [nextCnt, hfound.type, if_pos rfl]
      rw [resolveLoop_next (by omega) hnot, hcnt, hfound.next, ← hlen, chainEnd, ← Nat.add_assoc]
      exact ih _ hrest (by omega)

/-- The walk stops at the first address whose owner has the lower byte, and passes the
others. -/
theorem resolveLoop_addrs {as : List Addr} (cnt : Nat)
    (h : slice recvMsg pos (as.flatMap Addr.bytes).length = as.flatMap Addr.bytes)
    (hn : pos + (as.flatMap Addr.bytes).length ≤ n) :
    (resolveLoop recvMsg n pos cnt).ip =
      match as.find? fun a => a.owner.low.toNat = cnt with
      | some a => some (dotted (List.ofFn a.addr))
      | none => (resolveLoop recvMsg n (pos + (as.flatMap Addr.bytes).length) cnt).ip := by
  induction as generalizing pos with
  | nil => rfl
  | cons a as ih =>
      rw [List.flatMap_cons] at h hn ⊢
      have hlen : a.bytes.length = 12 + (List.ofFn a.addr).length := length_record _ _ _ _
      have hfour : (List.ofFn a.addr).length = 4 := List.length_ofFn
      obtain ⟨hrec, hrest⟩ := slice_append h
      rw [List.length_append] at hn ⊢
      have hfound : Found recvMsg pos a.owner 1 (List.ofFn a.addr) :=
        found_record (by omega) (by rw [← hlen]; exact hrec)
      have hanswer : IsAnswer recvMsg pos cnt ↔ a.owner.low.toNat = cnt := by
        rw [IsAnswer, hfound.owner, hfound.type, hfound.class_]
        exact ⟨fun h => h.2.1, fun h => ⟨rfl, h, rfl⟩⟩
      by_cases hlow : a.owner.low.toNat = cnt
      · have hdata := hfound.data
        rw [hfour] at hdata
        rw [resolveLoop_answer (by omega) (hanswer.mpr hlow), hdata,
          List.find?_cons_of_pos (by rw [decide_eq_true_iff]; exact hlow)]
      · have hcnt : nextCnt recvMsg pos cnt = cnt := by
          rw [nextCnt, hfound.type]
          exact if_neg (by decide)
        rw [resolveLoop_next (by omega) (fun h => hlow (hanswer.mp h)), hcnt, hfound.next, ← hlen,
          List.find?_cons_of_neg (by rw [decide_eq_true_iff]; exact hlow), ← Nat.add_assoc]
        exact ih hrest (by omega)

/-- Header and question are not looked at. -/
theorem resolve_message (r : Response) {more : List UInt8}
    (h : slice recvMsg 0 (r.bytes ++ more).length = r.bytes ++ more) :
    (resolve recvMsg r.question.length (r.bytes ++ more).length).ip =
      match r.taken? with
      | some a => some (dotted (List.ofFn a.addr))
      | none => (resolveLoop recvMsg (r.bytes ++ more).length r.bytes.length r.target).ip := by
  obtain ⟨hbytes, -⟩ := slice_append h
  obtain ⟨-, hanswers⟩ := slice_append hbytes
  obtain ⟨hcnames, haddrs⟩ := slice_append hanswers
  have hlen : r.bytes.length = r.question.length + ((r.cnames.flatMap Cname.bytes).length +
      (r.addrs.flatMap Addr.bytes).length) := by
    rw [Response.bytes, message, List.length_append, List.length_append]
  have hall : (r.bytes ++ more).length = r.bytes.length + more.length := List.length_append
  rw [Nat.zero_add] at hcnames haddrs
  have hfirst := resolveLoop_cnames (n := (r.bytes ++ more).length) 12 hcnames (by omega)
  have hsecond := resolveLoop_addrs (n := (r.bytes ++ more).length) r.target haddrs (by omega)
  rw [Nat.add_assoc, ← hlen] at hsecond
  rw [resolve, hfirst]
  exact hsecond

/-! ## Which responses are resolved -/

/-- An address is known by its text. -/
theorem dotted_inj {a b : Fin 4 → UInt8}
    (h : dotted (List.ofFn a) = dotted (List.ofFn b)) : a = b := by
  have hprint : ∀ f : Fin 4 → UInt8,
      dotted (List.ofFn f) = sysIp2str (word32 (f 0) (f 1) (f 2) (f 3)) := by
    intro f
    rw [sysIp2str, le32_word32, dotted]
    rfl
  rw [hprint a, hprint b] at h
  have hword := congrArg sysStr2ip h
  rw [sysStr2ip_sysIp2str, sysStr2ip_sysIp2str] at hword
  have hbytes := congrArg le32 hword
  rw [le32_word32, le32_word32] at hbytes
  simp only [List.cons.injEq, and_true] at hbytes
  obtain ⟨h0, h1, h2, h3⟩ := hbytes
  funext i
  obtain ⟨i, hi⟩ := i
  rcases (by omega : i = 0 ∨ i = 1 ∨ i = 2 ∨ i = 3) with rfl | rfl | rfl | rfl
  · exact h0
  · exact h1
  · exact h2
  · exact h3

/-- A response has the answer that it is built with. -/
theorem Response.exists_answer (r : Response) : ∃ a, r.answer? = some a := by
  obtain ⟨a, ha, howner⟩ := r.owned
  refine Option.isSome_iff_exists.mp (List.find?_isSome.mpr ⟨a, ha, ?_⟩)
  rw [decide_eq_true_iff]
  exact howner

/-- An offset below 256 is its lower byte. -/
theorem Response.exists_taken {r : Response} (h : r.target < 256) : ∃ b, r.taken? = some b := by
  obtain ⟨a, ha, howner⟩ := r.owned
  refine Option.isSome_iff_exists.mp (List.find?_isSome.mpr ⟨a, ha, ?_⟩)
  have hlow : a.owner.offset = r.target := howner
  rw [decide_eq_true_iff, Pointer.low, UInt8.toNat_ofNat']
  omega

/-- Nothing is taken for the end of a chain that does not fit into a byte. -/
theorem Response.taken_eq_none {r : Response} (h : 256 ≤ r.target) : r.taken? = none := by
  refine List.find?_eq_none.mpr fun a _ => ?_
  have hlt := a.owner.low.toNat_lt
  rw [decide_eq_true_iff]
  omega

/-- A response is resolved to the address that it gives exactly when a byte is enough to
tell the owner of that address. -/
theorem resolves_iff (r : Response) : Resolves r ↔ Distinguished r := by
  obtain ⟨a, ha⟩ := r.exists_answer
  constructor
  · intro h
    have hself := slice_blit_self zero 0 (r.bytes ++ [])
    have hip := h _ [] (by rw [List.append_nil]; exact r.short) hself a ha
    rw [resolve_message r hself] at hip
    by_cases hfits : r.target < 256
    · refine ⟨hfits, fun a' b ha' hb => ?_⟩
      rw [hb] at hip
      obtain rfl := Option.some.inj (ha.symm.trans ha')
      exact dotted_inj (Option.some.inj hip)
    · rw [Response.taken_eq_none (by omega)] at hip
      dsimp only at hip
      rw [List.append_nil, resolveLoop_end (by omega)] at hip
      cases hip
  · rintro ⟨hfits, hsame⟩ recvMsg more - hmsg a' ha'
    obtain ⟨b, hb⟩ := Response.exists_taken hfits
    rw [resolve_message r hmsg, hb]
    exact congrArg (fun addr => some (dotted (List.ofFn addr))) (hsame a' b ha' hb)

/-! ## An alias with a long name -/

/-- A name of four labels of 50 characters. -/
def longName : List UInt8 := putName (List.replicate 4 (List.replicate 50 0x61))

/-- The answer for `www.example.com`: an alias with the long name, an alias `b` of that
one, and the address of `b`, whose name stands at offset 262. -/
def longAlias : Response where
  question :=
    [0, 0, 0x81, 0x80, 0, 1, 0, 3, 0, 0, 0, 0] ++
      (putName [chars ['w', 'w', 'w'], chars ['e', 'x', 'a', 'm', 'p', 'l', 'e'],
        chars ['c', 'o', 'm']] ++ [0, 1, 0, 1])
  cnames :=
    [⟨⟨12, by decide⟩, fun _ => 0, longName, by decide +kernel⟩,
      ⟨⟨45, by decide⟩, fun _ => 0, putName [chars ['b']], by decide⟩]
  addrs := [⟨⟨262, by decide⟩, fun _ => 0, fun _ => 1⟩]
  owned := ⟨_, List.mem_cons_self, by decide +kernel⟩
  short := by decide +kernel

/-- It is not resolved: 262 is compared with the lower byte 6. -/
theorem not_resolves_longAlias : ¬∀ r : Response, Resolves r := by
  intro h
  have hfits := ((resolves_iff longAlias).mp (h longAlias)).1
  exact absurd hfits (by decide +kernel)

end Itertk.Dns.Answers
