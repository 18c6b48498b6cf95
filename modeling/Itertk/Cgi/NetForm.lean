import Itertk.Address.IpText
import Itertk.Address.MacText
import Itertk.Cgi.Session
import Itertk.Itsip.Library

/-!
# The network form

`net.cgi` reads the network settings from the daemon, overwrites them with the fields of
the form and sends them back.  Five addresses and the MAC address are checked on the way;
a field that is refused ends the run with a new query.

An address is refused when `ip_check` returns `FALSE`, and `ip_check` also returns -1.

The page that is printed is left out.

## Main results

* `submitsValid_iff` — valid settings are sent and no others, but for forms with two dots
  in a row.
-/

namespace Itertk.Cgi.NetForm

open Itertk.Base.Memory
open Itertk.Daemon.Config
open Itertk.Web.Users
open Itertk.Discovery.Report
open Itertk.Discovery.Text
open Itertk.Address.IpCheck
open Itertk.Address.IpText
open Itertk.Address.MacText
open Itertk.Itsip.Library
open Itertk.Cgi.Session

/-! ## The fields of a form -/

/-- A name and a value, as C strings. -/
structure Entry where
  attr : List UInt8
  value : List UInt8

/-- `cgiFormEntryFindFirst`, whatever is kept of an entry beside its name. -/
def cgiFormEntryFindFirst {α : Type} (attr : α → List UInt8) (form : List α) (name : List UInt8) :
    Option α :=
  form.find? fun e => attr e = name

/-- `cgiFormEntryString` with `newlines` 0: the bursts of CR and LF are dropped.  The
characters `dp` have been written. -/
def cgiFormEntryString (avail : Nat) (dp : List UInt8) : List UInt8 → List UInt8
  | [] => dp
  | ch :: sp =>
      if ch = 13 ∨ ch = 10 then cgiFormEntryString avail dp sp
      else if avail ≤ dp.length then dp
      else cgiFormEntryString avail (dp ++ [ch]) sp

/-- `cgiFormStringNoNewlines`. -/
def cgiFormStringNoNewlines (form : List Entry) (name : List UInt8) (max : Nat) : List UInt8 :=
  match cgiFormEntryFindFirst Entry.attr form name with
  | none => []
  | some e => cgiFormEntryString (max - 1) [] e.value

/-- `cgiFormSelectSingle`. -/
def cgiFormSelectSingle (form : List Entry) (name : List UInt8) (choicesText : List (List UInt8))
    (defaultV : Nat) : Nat :=
  match cgiFormEntryFindFirst Entry.attr form name with
  | none => defaultV
  | some e => (choicesText.findIdx? fun t => t = e.value).getD defaultV

/-! ## The program -/

/-- The text fields that are read. -/
inductive Input where
  | hostIp
  | hostNetmask
  | hostDevGw
  | hostDns0
  | hostDns1
  | devMac
deriving DecidableEq

def Input.attr : Input → List UInt8
  | hostIp => chars ['h', 'o', 's', 't', '_', 'i', 'p']
  | hostNetmask => chars ['h', 'o', 's', 't', '_', 'n', 'e', 't', 'm', 'a', 's', 'k']
  | hostDevGw => chars ['h', 'o', 's', 't', '_', 'd', 'e', 'v', '_', 'g', 'w']
  | hostDns0 => chars ['h', 'o', 's', 't', '_', 'd', 'n', 's', '0']
  | hostDns1 => chars ['h', 'o', 's', 't', '_', 'd', 'n', 's', '1']
  | devMac => chars ['d', 'e', 'v', '_', 'm', 'a', 'c']

/-- `get_host`. -/
def getHost (form : List Entry) (i : Input) : List UInt8 := cgiFormStringNoNewlines form i.attr 30

/-- The addresses in the order in which they are read, with their offsets in `con_net`. -/
def addresses : List (Input × Nat) :=
  [(.hostIp, 0), (.hostNetmask, 4), (.hostDevGw, 8), (.hostDns0, 20), (.hostDns1, 24)]

/-- The block for one address.  The error is the field whose alert is shown. -/
def setAddress (form : List Entry) (con : Mem) (a : Input × Nat) : Except Input Mem :=
  let str := getHost form a.1
  if ipCheck str = 0 then .error a.1 else .ok (store32 con a.2 (sysStr2ip str))

/-- The choices for `dev_dhcp`, in the encoding of the page. -/
def dhcpChoices : List (List UInt8) := [[0xb7, 0xf1], [0xca, 0xc7]]

/-- `con_net.dev_dhcp = i`. -/
def setDhcp (form : List Entry) (con : Mem) : Mem :=
  store32 con 12
    (UInt32.ofNat (cgiFormSelectSingle form (chars ['d', 'e', 'v', '_', 'd', 'h', 'c', 'p'])
      dhcpChoices 0))

/-- The block for the MAC address. -/
def setMac (form : List Entry) (con : Mem) : Except Input Mem :=
  let str := getHost form .devMac
  if macStrCheck str < 0 ∨ (getMac str con).1 < 0 then .error .devMac else .ok (getMac str con).2

/-- `con_net` when `its_netinfo_set` is called, or the field that is refused. -/
def netForm (form : List Entry) (con : Mem) : Except Input Mem := do
  let con ← addresses.foldlM (setAddress form) con
  setMac form (setDhcp form con)

/-- What the program finds. -/
structure Page where
  files : Files
  addr : RemoteAddr
  form : List Entry
  /-- The first `its_netinfo_query` returns `QUERY_OK`. -/
  queried : Bool
  /-- `con_net` after it. -/
  conNet : Mem
  /-- `its_netinfo_set` returns `NET_SET_OK`. -/
  stored : Bool

/-- `cgiFormSubmitClicked("net") == cgiFormSuccess`. -/
def netClicked (form : List Entry) : Bool :=
  (cgiFormEntryFindFirst Entry.attr form (chars ['n', 'e', 't'])).isSome

/-- `cgiMain`: the calls of the library. -/
def cgiMain (x : Page) : List Call :=
  match sessionUser x.files x.addr with
  | none => []
  | some name =>
      .netinfoQuery name ::
        if x.queried = false then []
        else if netClicked x.form = false then []
        else
          match netForm x.form x.conNet with
          | .error _ => [.netinfoQuery name]
          | .ok con => .netinfoSet con :: if x.stored then [] else [.netinfoQuery name]

/-! ## What the form says -/

/-- The text of a field; that of a missing one is empty.  Line ends do not belong to it. -/
def text (form : List Entry) (i : Input) : List UInt8 :=
  (((form.find? fun e => e.attr = i.attr).map Entry.value).getD []).filter fun c =>
    ¬(c = 13 ∨ c = 10)

/-- The five addresses and the MAC address are well formed. -/
def Valid (form : List Entry) : Prop :=
  (∀ a ∈ addresses, DottedQuad (text form a.1)) ∧ MacForm (text form .devMac)

/-- The address that a text denotes. -/
def AddressOf (s : List UInt8) (ip : UInt32) : Prop :=
  ∃ gs : List (List UInt8), gs.length = 4 ∧ (∀ g ∈ gs, Octet g) ∧ s = [dot].intercalate gs ∧
    (le32 ip).map UInt8.toNat = gs.map (digits 0)

/-- The MAC address that a text denotes. -/
def MacOf (s mac : List UInt8) : Prop :=
  ∃ gs : List (List UInt8), gs.length = 6 ∧ (∀ g ∈ gs, HexPair g) ∧ s = [colon].intercalate gs ∧
    mac = gs.map pairByte

/-- The settings are those of the form. -/
def Carries (form : List Entry) (con : Mem) : Prop :=
  (∀ a ∈ addresses, AddressOf (text form a.1) (load32 con a.2)) ∧
    MacOf (text form .devMac) (slice con 28 6)

/-- A logged-in user has sent the form, and the daemon has answered the query. -/
structure Submitted (x : Page) : Prop where
  user : sessionUser x.files x.addr ≠ none
  queried : x.queried = true
  clicked : netClicked x.form = true

/-- The settings are sent exactly when they are valid, and as they are in the form. -/
def SubmitsValid (x : Page) : Prop :=
  ((∃ con, .netinfoSet con ∈ cgiMain x) ↔ Valid x.form) ∧
    ∀ con, .netinfoSet con ∈ cgiMain x → Carries x.form con

/-- The fields are valid but for two dots in a row in at least one address. -/
def Slips (form : List Entry) : Prop :=
  (∀ a ∈ addresses, DottedQuad (text form a.1) ∨ DoubleDot (text form a.1)) ∧
    (∃ a ∈ addresses, DoubleDot (text form a.1)) ∧ MacForm (text form .devMac)

/-! ## What is read -/

variable {form : List Entry} {x : Page}

/-- A text that fits is read without its line ends. -/
theorem cgiFormEntryString_eq (avail : Nat) (dp sp : List UInt8)
    (h : dp.length + (sp.filter fun c => ¬(c = 13 ∨ c = 10)).length ≤ avail) :
    cgiFormEntryString avail dp sp = dp ++ sp.filter fun c => ¬(c = 13 ∨ c = 10) := by
  induction sp generalizing dp with
  | nil => rw [cgiFormEntryString, List.filter_nil, List.append_nil]
  | cons ch sp ih =>
      rw [cgiFormEntryString]
      by_cases hnl : ch = 13 ∨ ch = 10
      · rw [List.filter_cons_of_neg (by simp [hnl])] at h ⊢
        rw [if_pos hnl, ih dp h]
      · rw [List.filter_cons_of_pos (by simp [hnl])] at h ⊢
        rw [List.length_cons] at h
        rw [if_neg hnl, if_neg (by omega), ih (dp ++ [ch]) (by
          rw [List.length_append, List.length_singleton]
          omega), List.append_assoc, List.singleton_append]

/-- `get_host` reads a text of at most 29 bytes. -/
theorem getHost_eq {i : Input} (h : (text form i).length ≤ 29) : getHost form i = text form i := by
  rw [getHost, cgiFormStringNoNewlines, cgiFormEntryFindFirst]
  rw [text] at h ⊢
  cases hfind : form.find? fun e => e.attr = i.attr with
  | none => rfl
  | some e =>
      rw [hfind] at h
      have hread := cgiFormEntryString_eq 29 [] e.value (by simpa using h)
      rw [List.nil_append] at hread
      exact hread

/-! ## The blocks of the form -/

/-- `con_net` after the addresses. -/
def storeAddresses (form : List Entry) (as : List (Input × Nat)) (con : Mem) : Mem :=
  as.foldl (fun con a => store32 con a.2 (sysStr2ip (getHost form a.1))) con

/-- Addresses that are not refused are stored one after the other. -/
theorem setAddresses_ok {as : List (Input × Nat)} (h : ∀ a ∈ as, ipCheck (getHost form a.1) ≠ 0)
    (con : Mem) : as.foldlM (setAddress form) con = .ok (storeAddresses form as con) := by
  induction as generalizing con with
  | nil => rfl
  | cons a as ih =>
      rw [List.foldlM_cons, setAddress, if_neg (h a List.mem_cons_self)]
      exact ih (fun b hb => h b (List.mem_cons_of_mem a hb)) _

/-- One address that is refused ends the run. -/
theorem setAddresses_error {as : List (Input × Nat)} {a : Input × Nat} (ha : a ∈ as)
    (h : ipCheck (getHost form a.1) = 0) (con : Mem) :
    ∃ i, as.foldlM (setAddress form) con = .error i := by
  induction as generalizing con with
  | nil => cases ha
  | cons b as ih =>
      rw [List.foldlM_cons, setAddress]
      by_cases hb : ipCheck (getHost form b.1) = 0
      · rw [if_pos hb]
        exact ⟨b.1, rfl⟩
      · rw [if_neg hb]
        rcases List.mem_cons.mp ha with rfl | ha
        · exact absurd h hb
        · exact ih ha _

/-- The MAC address is stored when it is well formed, and else refused. -/
theorem setMac_ok (h : MacForm (getHost form .devMac)) (con : Mem) :
    ∃ mac, mac.length = 6 ∧ MacOf (getHost form .devMac) mac ∧
      setMac form con = .ok (blit con 28 mac) := by
  obtain ⟨gs, hlen, hgs, heq⟩ := h
  refine ⟨gs.map pairByte, by rw [List.length_map, hlen], ⟨gs, hlen, hgs, heq, rfl⟩, ?_⟩
  have hcheck : ¬macStrCheck (getHost form .devMac) < 0 := by
    rw [macStrCheck_neg_iff]
    exact not_not_intro ⟨gs, hlen, hgs, heq⟩
  have hget := getMac_pairs hlen hgs con
  rw [← heq] at hget
  rw [setMac, hget]
  refine if_neg ?_
  rintro (hneg | hneg)
  · exact hcheck hneg
  · exact Int.lt_irrefl 0 hneg

private theorem setMac_error (h : ¬MacForm (getHost form .devMac)) (con : Mem) :
    setMac form con = .error .devMac := by
  rw [setMac]
  exact if_pos (Or.inl ((macStrCheck_neg_iff _).mpr h))

/-- A form whose fields pass the checks. -/
def Passes (form : List Entry) : Prop :=
  (∀ a ∈ addresses, ipCheck (getHost form a.1) ≠ 0) ∧ MacForm (getHost form .devMac)

private theorem netForm_ok (h : Passes form) (con : Mem) :
    ∃ mac, mac.length = 6 ∧ MacOf (getHost form .devMac) mac ∧
      netForm form con = .ok (blit (setDhcp form (storeAddresses form addresses con)) 28 mac) := by
  obtain ⟨mac, hlen, hof, hset⟩ := setMac_ok h.2 (setDhcp form (storeAddresses form addresses con))
  refine ⟨mac, hlen, hof, ?_⟩
  rw [netForm, setAddresses_ok h.1]
  exact hset

private theorem netForm_error (h : ¬Passes form) (con : Mem) :
    ∃ i, netForm form con = .error i := by
  rw [netForm]
  by_cases hall : ∀ a ∈ addresses, ipCheck (getHost form a.1) ≠ 0
  · rw [setAddresses_ok hall]
    exact ⟨.devMac, setMac_error (fun hmac => h ⟨hall, hmac⟩) _⟩
  · obtain ⟨a, ha, hzero⟩ : ∃ a ∈ addresses, ipCheck (getHost form a.1) = 0 := by
      refine Decidable.byContradiction fun hno => hall fun a ha hzero => hno ⟨a, ha, hzero⟩
    obtain ⟨i, hi⟩ := setAddresses_error ha hzero con
    rw [hi]
    exact ⟨i, rfl⟩

/-! ## What is sent -/

private theorem load32_storeAddresses_ne {as : List (Input × Nat)} {k : Nat}
    (h : ∀ a ∈ as, k + 4 ≤ a.2 ∨ a.2 + 4 ≤ k) (con : Mem) :
    load32 (storeAddresses form as con) k = load32 con k := by
  induction as generalizing con with
  | nil => rfl
  | cons a as ih =>
      rw [storeAddresses, List.foldl_cons]
      exact (ih (fun b hb => h b (List.mem_cons_of_mem a hb)) _).trans
        (load32_store32_ne con _ (h a List.mem_cons_self))

/-- Addresses that do not overlap are all there at the end. -/
theorem load32_storeAddresses {as : List (Input × Nat)}
    (hapart : as.Pairwise fun a b => a.2 + 4 ≤ b.2 ∨ b.2 + 4 ≤ a.2) {a : Input × Nat}
    (ha : a ∈ as) (con : Mem) :
    load32 (storeAddresses form as con) a.2 = sysStr2ip (getHost form a.1) := by
  induction as generalizing con with
  | nil => cases ha
  | cons b as ih =>
      obtain ⟨hb, has⟩ := List.pairwise_cons.mp hapart
      rw [storeAddresses, List.foldl_cons]
      rcases List.mem_cons.mp ha with rfl | ha
      · exact (load32_storeAddresses_ne hb _).trans (load32_store32 con a.2 _)
      · exact ih has ha _

/-- The settings that are sent have each address at its offset. -/
theorem load32_sent {a : Input × Nat} (ha : a ∈ addresses) (con : Mem) (mac : List UInt8) :
    load32 (blit (setDhcp form (storeAddresses form addresses con)) 28 mac) a.2 =
      sysStr2ip (getHost form a.1) := by
  have hoff : ∀ b ∈ addresses, b.2 + 4 ≤ 28 ∧ (b.2 + 4 ≤ 12 ∨ 12 + 4 ≤ b.2) := by decide
  have hapart : addresses.Pairwise fun a b => a.2 + 4 ≤ b.2 ∨ b.2 + 4 ≤ a.2 := by decide
  rw [load32_blit_before _ mac (hoff a ha).1, setDhcp, load32_store32_ne _ _ (hoff a ha).2,
    load32_storeAddresses hapart ha]

private theorem addressOf_sysStr2ip {s : List UInt8} (h : DottedQuad s) :
    AddressOf s (sysStr2ip s) := by
  obtain ⟨gs, hlen, hgs, rfl⟩ := h
  exact ⟨gs, hlen, hgs, rfl, (sysStr2ip_quad hlen hgs).1⟩

/-- The library is called with what the form makes of the settings. -/
theorem netinfoSet_iff (h : Submitted x) (con : Mem) :
    .netinfoSet con ∈ cgiMain x ↔ netForm x.form x.conNet = .ok con := by
  obtain ⟨name, hname⟩ := Option.ne_none_iff_exists'.mp h.user
  have hqueried : ¬x.queried = false := by rw [h.queried]; decide
  have hclicked : ¬netClicked x.form = false := by rw [h.clicked]; decide
  rw [cgiMain, hname]
  dsimp only
  rw [if_neg hqueried, if_neg hclicked]
  cases netForm x.form x.conNet with
  | error i => simp
  | ok con' =>
      cases x.stored with
      | false => simp [eq_comm]
      | true => simp [eq_comm]

private theorem sends_iff (h : Submitted x) :
    (∃ con, .netinfoSet con ∈ cgiMain x) ↔ Passes x.form := by
  constructor
  · rintro ⟨con, hcon⟩
    refine Classical.byContradiction fun hno => ?_
    obtain ⟨i, hi⟩ := netForm_error hno x.conNet
    rw [netinfoSet_iff h, hi] at hcon
    cases hcon
  · intro hpass
    obtain ⟨mac, -, -, hok⟩ := netForm_ok hpass x.conNet
    exact ⟨_, (netinfoSet_iff h _).mpr hok⟩

/-- Every field has at most 29 bytes. -/
def Short (form : List Entry) : Prop := ∀ i, (text form i).length ≤ 29

private theorem passes_iff (hshort : Short form) :
    Passes form ↔ (∀ a ∈ addresses, DottedQuad (text form a.1) ∨ DoubleDot (text form a.1)) ∧
      MacForm (text form .devMac) := by
  rw [Passes, getHost_eq (hshort _)]
  refine and_congr_left fun _ => forall₂_congr fun a _ => ?_
  rw [getHost_eq (hshort a.1), ipCheck_ne_zero_iff]

/-- Valid settings are sent as they are in the form. -/
theorem carries_of_valid (h : Submitted x) (hshort : Short x.form) (hvalid : Valid x.form)
    {con : Mem} (hcon : .netinfoSet con ∈ cgiMain x) : Carries x.form con := by
  have hpass : Passes x.form :=
    (passes_iff hshort).mpr ⟨fun a ha => Or.inl (hvalid.1 a ha), hvalid.2⟩
  obtain ⟨mac, hlen, hof, hok⟩ := netForm_ok hpass x.conNet
  rw [netinfoSet_iff h, hok] at hcon
  obtain rfl := Except.ok.inj hcon
  constructor
  · intro a ha
    rw [load32_sent ha, getHost_eq (hshort a.1)]
    exact addressOf_sysStr2ip (hvalid.1 a ha)
  · have hmac := slice_blit_self (setDhcp x.form (storeAddresses x.form addresses x.conNet)) 28 mac
    rw [hlen] at hmac
    rw [hmac, ← getHost_eq (hshort .devMac)]
    exact hof

/-- Whoever is not logged in, gets no answer from the daemon or has not sent the form sets
nothing. -/
theorem netinfoSet_notMem (h : ¬Submitted x) (con : Mem) : .netinfoSet con ∉ cgiMain x := by
  rw [cgiMain]
  cases huser : sessionUser x.files x.addr with
  | none => exact List.not_mem_nil
  | some name =>
      dsimp only
      by_cases hqueried : x.queried = false
      · rw [if_pos hqueried]
        simp
      · rw [if_neg hqueried]
        by_cases hclicked : netClicked x.form = false
        · rw [if_pos hclicked]
          simp
        · have hsome : sessionUser x.files x.addr ≠ none := by
            rw [huser]
            exact Option.some_ne_none name
          exact absurd ⟨hsome, by simpa using hqueried, by simpa using hclicked⟩ h

/-- A submitted form is handled as it should be exactly when it does not slip through with
two dots in a row. -/
theorem submitsValid_iff (h : Submitted x) (hshort : Short x.form) :
    SubmitsValid x ↔ ¬Slips x.form := by
  rw [SubmitsValid, sends_iff h, passes_iff hshort]
  constructor
  · rintro ⟨hiff, -⟩ ⟨hall, ⟨a, ha, hslip⟩, hmac⟩
    exact hslip.not_dottedQuad ((hiff.mp ⟨hall, hmac⟩).1 a ha)
  · intro hno
    have hvalid : ∀ {form}, ¬Slips form →
        (∀ a ∈ addresses, DottedQuad (text form a.1) ∨ DoubleDot (text form a.1)) →
          MacForm (text form .devMac) → Valid form := by
      intro form hno hall hmac
      refine ⟨fun a ha => ?_, hmac⟩
      rcases hall a ha with hquad | hslip
      · exact hquad
      · exact absurd ⟨hall, ⟨a, ha, hslip⟩, hmac⟩ hno
    refine ⟨⟨fun hpass => hvalid hno hpass.1 hpass.2, fun hv =>
      ⟨fun a ha => Or.inl (hv.1 a ha), hv.2⟩⟩, fun con hcon => ?_⟩
    have hpass := (passes_iff hshort).mp ((sends_iff h).mp ⟨con, hcon⟩)
    exact carries_of_valid h hshort (hvalid hno hpass.1 hpass.2) hcon

/-- A form with these texts, and a button. -/
def filledIn (ip nm gw dns0 dns1 mac : List UInt8) : List Entry :=
  [⟨Input.hostIp.attr, ip⟩, ⟨Input.hostNetmask.attr, nm⟩, ⟨Input.hostDevGw.attr, gw⟩,
    ⟨Input.hostDns0.attr, dns0⟩, ⟨Input.hostDns1.attr, dns1⟩, ⟨Input.devMac.attr, mac⟩,
    ⟨chars ['n', 'e', 't'], []⟩]

/-- The form is sent from this machine by a user who has logged in, and the daemon answers. -/
def page (form : List Entry) : Page where
  files := login boot ⟨localhost, operator⟩
  addr := localhost
  form := form
  queried := true
  conNet := zero
  stored := true

/-- `10.0.0.1` -/
def tenOne : List UInt8 := chars ['1', '0', '.', '0', '.', '0', '.', '1']

/-- `12..3.4` -/
def twoDots : List UInt8 := chars ['1', '2', '.', '.', '3', '.', '4']

/-- `00:1b:21:3c:4D:5E` -/
def someMac : List UInt8 :=
  chars ['0', '0', ':', '1', 'b', ':', '2', '1', ':', '3', 'c', ':', '4', 'D', ':', '5', 'E']

def validForm : List Entry := filledIn tenOne tenOne tenOne tenOne tenOne someMac

private theorem submitted_page {form : List Entry} (h : netClicked form = true) :
    Submitted (page form) where
  user := by
    show sessionUser (login boot ⟨localhost, operator⟩) localhost ≠ none
    decide
  queried := rfl
  clicked := h

theorem submitsValid_validForm : SubmitsValid (page validForm) := by
  have hshort : Short validForm := fun i => by cases i <;> decide
  refine (submitsValid_iff (submitted_page (by decide)) hshort).mpr ?_
  rintro ⟨-, ⟨a, ha, hslip⟩, -⟩
  have haccepted : ∀ a ∈ addresses, ipCheck (text validForm a.1) ≠ -1 := by decide
  exact haccepted a ha ((ipCheck_slips_iff _).mpr hslip)

/-- A form with the address `12..3.4` is sent. -/
theorem not_submitsValid_twoDots :
    ¬SubmitsValid (page (filledIn twoDots tenOne tenOne tenOne tenOne someMac)) := by
  rintro ⟨hiff, -⟩
  have hpass : Passes (filledIn twoDots tenOne tenOne tenOne tenOne someMac) :=
    ⟨by decide, (macStrCheck_iff _).mp (by decide)⟩
  have hvalid := hiff.mp ((sends_iff (submitted_page (by decide))).mpr hpass)
  have hquad := (hvalid.1 (.hostIp, 0) (by decide)).ipCheck_eq
  exact absurd hquad (by decide)

end Itertk.Cgi.NetForm
