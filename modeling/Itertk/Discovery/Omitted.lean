import Itertk.Base.Footprint
import Itertk.Discovery.RoundTrip

/-!
# Fields that are left out

`pc_set_dev_info` assigns a setting when `strtok` finds a field for it.  The MAC address
is converted in any case: when the field is missing the first byte becomes that of
`str2hex(NULL)`, and when it has more than six parts these run over the bytes behind
`dev_mac`.

`server_ip` has no field.  It is looked up again for every message.

## Main results

* `omittedKept_iff` — when a message changes its own settings only.
-/

namespace Itertk.Discovery.Omitted

open Itertk.Base.Footprint
open Itertk.Base.Memory
open Itertk.Daemon.Layout
open Itertk.Daemon.Config
open Itertk.Daemon.State
open Itertk.Web.Users
open Itertk.Discovery.Report
open Itertk.Discovery.Text
open Itertk.Discovery.RoundTrip

/-! ## Messages and settings -/

/-- A message of at most ten fields, none of them empty, whose strings have a legal
length. -/
structure Message where
  fields : List (List UInt8)
  pos : 1 ≤ fields.length
  le : fields.length ≤ 10
  ok : ∀ w ∈ fields, w ≠ [] ∧ bar ∉ w ∧ 0 ∉ w
  dnsStr_le : (fields[6]?.getD []).length ≤ 49
  mac_le : (fields[8]?.getD []).length ≤ 19
  hostSn_le : (fields[9]?.getD []).length ≤ 31

def Message.text (msg : Message) : List UInt8 := [bar].intercalate msg.fields

/-- The first field is the address of the device. -/
def Message.Addresses (msg : Message) (conf : Mem) : Prop :=
  ∃ p, msg.fields[0]? = some p ∧ sysStr2ip p = load32 conf netOff

/-- The number of a field, and where its setting lies. -/
structure Setting where
  field : Nat
  off : Nat
  size : Nat
deriving DecidableEq

/-- `dev_ip`, `dev_nm`, `dev_gw`, `dns[0]`, `dns[1]`, `dns_str`, `server_port`, `dev_mac`
and `host_sn`. -/
def settings : List Setting :=
  [⟨1, netOff, 4⟩, ⟨2, netOff + 4, 4⟩, ⟨3, netOff + 8, 4⟩, ⟨4, netOff + 20, 4⟩,
    ⟨5, netOff + 24, 4⟩, ⟨6, serverOff + 6, 50⟩, ⟨7, serverOff + 4, 2⟩, ⟨8, netOff + 28, 6⟩,
    ⟨9, sysOff + 64, 32⟩]

/-- The byte belongs to a setting that has a field in a message of `n` fields. -/
def Present (n i : Nat) : Prop := ∃ s ∈ settings, s.field < n ∧ s.off ≤ i ∧ i < s.off + s.size

/-- The configuration after the message. -/
def after (env : ReportEnv) (d : Device) (msg : Message) : Mem :=
  (pcSetDevInfo env msg.text d).1.conf

/-- Only the settings that the message has are changed. -/
structure OmittedKept (env : ReportEnv) (d : Device) (msg : Message) : Prop where
  others : ∀ i, ¬Present msg.fields.length i → ¬(serverOff ≤ i ∧ i < serverOff + 4) →
    after env d msg i = d.conf i
  /-- `server_ip` is what it was, or what was found for the name. -/
  serverIp : (∀ k, k < 4 → after env d msg (serverOff + k) = d.conf (serverOff + k)) ∨
    ∃ ip, env.resolve (cstr (shift (setServer msg.fields (shift d.conf serverOff)) 6)) = some ip ∧
      load32 (after env d msg) serverOff = ip
  /-- In `conf_net`, nothing is written behind `dev_mac`. -/
  devMac : ∀ m, AgreeOutside 0 34 m (setNet msg.fields m)

/-- Without a MAC field the first byte of `dev_mac` is the one that it becomes; a MAC field
has at most six parts. -/
def Harmless (d : Device) (msg : Message) : Prop :=
  if msg.fields.length ≤ 8 then d.conf (netOff + 28) = 0xff
  else ∀ p, msg.fields[8]? = some p → (strtok colon [] p).length ≤ 6

/-! ## What the assignments leave alone -/

variable {n i k : Nat} {tok : List (List UInt8)} {m : Mem}

theorem apart (h : ¬Present n i) {s : Setting} (hs : s ∈ settings) (hn : s.field < n) :
    i < s.off ∨ s.off + s.size ≤ i := by
  refine Decidable.byContradiction fun hin => h ⟨s, hs, hn, ?_, ?_⟩
  · omega
  · omega

private theorem put_keeps {f : List UInt8 → Mem → Mem}
    (h : ∀ p, tok[n]? = some p → ∀ m, f p m k = m k) :
    put tok n f m k = m k := by
  rw [put]
  cases hp : tok[n]? with
  | none => rfl
  | some p => exact h p hp m

private theorem length_of_getElem? {p : List UInt8} (h : tok[n]? = some p) : n < tok.length :=
  (List.getElem?_eq_some_iff.mp h).1

/-- The addresses in `conf_net`: field and offset. -/
def netAddresses : List (Nat × Nat) := [(1, 0), (2, 4), (3, 8), (4, 20), (5, 24)]

/-- `conf_net` away from the addresses in the message and from the bytes of the MAC
address. -/
theorem setNet_keeps (hk : ∀ a ∈ netAddresses, a.1 < tok.length → k < a.2 ∨ a.2 + 4 ≤ k)
    (hmac : k < 28 ∨ 28 + (macBytes (tok[8]?.getD [])).length ≤ k) : setNet tok m k = m k := by
  have hput : ∀ a ∈ netAddresses, ∀ m,
      put tok a.1 (fun p m => store32 m a.2 (sysStr2ip p)) m k = m k := fun a ha m =>
    put_keeps fun p hp m => store32_ne m _ (hk a ha (length_of_getElem? hp))
  rw [setNet, blit_outside _ _ hmac]
  exact (hput (5, 24) (by decide) _).trans ((hput (4, 20) (by decide) _).trans
    ((hput (3, 8) (by decide) _).trans ((hput (2, 4) (by decide) _).trans
      (hput (1, 0) (by decide) m))))

/-- The addresses of the message are settings. -/
theorem apart_netAddresses (hk : ¬Present n (netOff + k)) {a : Nat × Nat} (ha : a ∈ netAddresses)
    (hn : a.1 < n) : k < a.2 ∨ a.2 + 4 ≤ k := by
  have hmem : ∀ a ∈ netAddresses, (⟨a.1, netOff + a.2, 4⟩ : Setting) ∈ settings := by decide
  have hapart := apart hk (hmem a ha) hn
  dsimp only at hapart
  omega

private theorem setServer_keeps (hk : ¬Present tok.length (serverOff + k))
    (hstr : (tok[6]?.getD []).length ≤ 49) : setServer tok m k = m k := by
  rw [setServer]
  refine (put_keeps fun p hp m => blit_outside m _ ?_).trans
    (put_keeps fun p hp m => blit_outside m _ ?_)
  · have hapart := apart hk (s := ⟨7, serverOff + 4, 2⟩) (by decide) (length_of_getElem? hp)
    dsimp only at hapart
    show k < 4 ∨ 4 + 2 ≤ k
    omega
  · have hapart := apart hk (s := ⟨6, serverOff + 6, 50⟩) (by decide) (length_of_getElem? hp)
    rw [hp] at hstr
    dsimp only [Option.getD_some] at hapart hstr
    rw [List.length_append, List.length_singleton]
    omega

private theorem setSys_keeps (hk : ¬Present tok.length (sysOff + k))
    (hsn : (tok[9]?.getD []).length ≤ 31) : setSys tok m k = m k := by
  rw [setSys]
  refine put_keeps fun p hp m => blit_outside m _ ?_
  have hapart := apart hk (s := ⟨9, sysOff + 64, 32⟩) (by decide) (length_of_getElem? hp)
  rw [hp] at hsn
  dsimp only [Option.getD_some] at hapart hsn
  rw [List.length_append, List.length_singleton]
  omega

/-! ## The MAC address -/

private theorem macBytes_nil : macBytes [] = [0xff] := by decide

/-- There are as many bytes as parts, but at least one. -/
theorem macBytes_length (mac : List UInt8) :
    (macBytes mac).length = max 1 (strtok colon [] mac).length := by
  rw [macBytes]
  cases strtok colon [] mac with
  | nil => rfl
  | cons q parts =>
      show ((q :: parts).map _).length = _
      rw [List.length_map, List.length_cons]
      omega

/-- The bytes of a MAC address stay in `dev_mac` exactly when they are six at most. -/
theorem agreeOutside_setNet_iff (tok : List (List UInt8)) :
    (∀ m, AgreeOutside 0 34 m (setNet tok m)) ↔ (macBytes (tok[8]?.getD [])).length ≤ 6 := by
  constructor
  · intro h
    refine Decidable.byContradiction fun hlong => ?_
    have hlt : 6 < (macBytes (tok[8]?.getD [])).length := by omega
    have hover : Overwrites (28 + 6) (setNet tok) :=
      ⟨(macBytes (tok[8]?.getD []))[6], fun m => blit_hit _ 28 6 _ hlt⟩
    exact absurd (hover.bounds h).2 (by decide)
  · intro hle m k hk
    have hbehind : 34 ≤ k := by omega
    have hend : ∀ a ∈ netAddresses, a.2 + 4 ≤ 34 := by decide
    exact setNet_keeps (fun a ha _ => Or.inr (Nat.le_trans (hend a ha) hbehind)) (by omega)

/-! ## The whole message -/

variable {env : ReportEnv} {d : Device} {msg : Message}

private theorem Message.strtok_text (msg : Message) : strtok bar [] msg.text = msg.fields :=
  strtok_intercalate _ fun w hw => ⟨(msg.ok w hw).1, (msg.ok w hw).2.1⟩

theorem Message.fits (msg : Message) : ¬Overruns msg.fields := by
  have hstr := msg.dnsStr_le
  have hmac := msg.mac_le
  have hsn := msg.hostSn_le
  rintro (h | h | h) <;> omega

private theorem after_eq (h : msg.Addresses d.conf) :
    after env d msg =
      saved env ⟨setNet msg.fields (shift d.conf netOff),
        setServer msg.fields (shift d.conf serverOff), setSys msg.fields (shift d.conf sysOff)⟩
        d.conf := by
  refine pcSetDevInfo_conf env msg.strtok_text ?_ msg.fits
  obtain ⟨p, hp, hip⟩ := h
  rintro ⟨q, hq, hne⟩
  rw [hp] at hq
  obtain rfl := Option.mem_some_iff.mp hq
  exact hne hip.symm

/-- Everywhere but at `server_ip` and in `con_net` the message keeps to its settings. -/
theorem after_elsewhere (h : msg.Addresses d.conf) (hi : ¬Present msg.fields.length i)
    (hip : ¬(serverOff ≤ i ∧ i < serverOff + 4)) (hnet : i < netOff ∨ netOff + netSize ≤ i) :
    after env d msg i = d.conf i := by
  rw [after_eq h]
  obtain ⟨-, hserver, hsys⟩ := saved_read env ⟨setNet msg.fields (shift d.conf netOff),
    setServer msg.fields (shift d.conf serverOff), setSys msg.fields (shift d.conf sysOff)⟩ d.conf
  by_cases hinSys : i < sysSize
  · have hread := hsys i hinSys
    rw [show sysOff + i = i from Nat.zero_add i] at hread
    rw [hread]
    dsimp only
    rw [setSys_keeps (by rw [show sysOff + i = i from Nat.zero_add i]; exact hi) msg.hostSn_le]
    exact congrArg d.conf (Nat.zero_add i)
  · by_cases hinServer : serverOff ≤ i ∧ i < serverOff + serverSize
    · obtain ⟨k, rfl⟩ : ∃ k, i = serverOff + k := ⟨i - serverOff, by omega⟩
      rw [hserver k (by omega) (by omega)]
      exact setServer_keeps hi msg.dnsStr_le
    · exact saved_outside env _ d.conf hnet (by omega) (by omega)

/-- In `con_net` too, where the MAC address does not reach. -/
theorem after_net (h : msg.Addresses d.conf) (hk : ¬Present msg.fields.length (netOff + k))
    (hlt : k < netSize) (hmac : k < 28 ∨ 28 + (macBytes (msg.fields[8]?.getD [])).length ≤ k) :
    after env d msg (netOff + k) = d.conf (netOff + k) := by
  rw [after_eq h, (saved_read env _ d.conf).1 k hlt]
  exact setNet_keeps (fun a ha hn => apart_netAddresses hk ha hn) hmac

/-- A byte of `dev_mac` is the one of the MAC address. -/
theorem after_devMac (env : ReportEnv) (h : msg.Addresses d.conf)
    (hk : k < (macBytes (msg.fields[8]?.getD [])).length) (hlt : 28 + k < netSize) :
    after env d msg (netOff + (28 + k)) = (macBytes (msg.fields[8]?.getD []))[k] := by
  rw [after_eq h, (saved_read env _ d.conf).1 (28 + k) hlt]
  exact blit_hit _ 28 k _ hk

private theorem serverIp_kept (h : msg.Addresses d.conf) :
    (∀ k, k < 4 → after env d msg (serverOff + k) = d.conf (serverOff + k)) ∨
      ∃ ip, env.resolve (cstr (shift (setServer msg.fields (shift d.conf serverOff)) 6)) = some ip ∧
        load32 (after env d msg) serverOff = ip := by
  rw [after_eq h]
  rcases saved_serverIp env ⟨setNet msg.fields (shift d.conf netOff),
    setServer msg.fields (shift d.conf serverOff), setSys msg.fields (shift d.conf sysOff)⟩
    d.conf with hkept | hfound
  · refine Or.inl fun k hk => (hkept k hk).trans (setServer_keeps ?_ msg.dnsStr_le)
    rintro ⟨s, hs, -, hlow, hhigh⟩
    have hapart : ∀ s ∈ settings, serverOff + 4 ≤ s.off ∨ s.off + s.size ≤ serverOff := by decide
    have := hapart s hs
    omega
  · exact Or.inr hfound

/-! ## When only the message's settings change -/

/-- No MAC field: the byte of the null pointer is stored. -/
theorem macBytes_absent (hshort : msg.fields.length ≤ 8) :
    macBytes (msg.fields[8]?.getD []) = [0xff] := by
  rw [List.getElem?_eq_none hshort, Option.getD_none, macBytes_nil]

/-- A message without a MAC field has no setting at `dev_mac`. -/
theorem devMac_not_present (hshort : n ≤ 8) : ¬Present n (netOff + 28) := by
  have hfield : ∀ s ∈ settings,
      s.off ≤ netOff + 28 → netOff + 28 < s.off + s.size → s.field = 8 := by
    decide
  rintro ⟨s, hs, hn, hlow, hhigh⟩
  have heq := hfield s hs hlow hhigh
  omega

theorem OmittedKept.harmless (hkept : OmittedKept env d msg) (h : msg.Addresses d.conf) :
    Harmless d msg := by
  by_cases hshort : msg.fields.length ≤ 8
  · rw [Harmless, if_pos hshort]
    have hone := macBytes_absent hshort
    have hbyte := after_devMac env (k := 0) h (by rw [hone]; decide) (by decide)
    simp only [hone, List.getElem_cons_zero] at hbyte
    rw [← hkept.others (netOff + 28) (devMac_not_present hshort) (by decide)]
    exact hbyte
  · rw [Harmless, if_neg hshort]
    intro p hp
    have hle := (agreeOutside_setNet_iff msg.fields).mp hkept.devMac
    rw [hp, Option.getD_some, macBytes_length] at hle
    omega

private theorem omittedKept_of_harmless (hharmless : Harmless d msg) (h : msg.Addresses d.conf) :
    OmittedKept env d msg := by
  have hnet : ∀ i, ¬Present msg.fields.length i → ¬(serverOff ≤ i ∧ i < serverOff + 4) →
      (netOff ≤ i → i < netOff + netSize → after env d msg i = d.conf i) →
        after env d msg i = d.conf i := by
    intro i hi hip hin
    by_cases hbounds : netOff ≤ i ∧ i < netOff + netSize
    · exact hin hbounds.1 hbounds.2
    · exact after_elsewhere h hi hip (by omega)
  rw [Harmless] at hharmless
  by_cases hshort : msg.fields.length ≤ 8
  · rw [if_pos hshort] at hharmless
    have hone := macBytes_absent hshort
    refine ⟨fun i hi hip => hnet i hi hip fun hlow hhigh => ?_, serverIp_kept h, ?_⟩
    · obtain ⟨k, rfl⟩ : ∃ k, i = netOff + k := ⟨i - netOff, by omega⟩
      by_cases hmac : k = 28
      · subst hmac
        have hbyte := after_devMac env (k := 0) h (by rw [hone]; decide) (by decide)
        simp only [hone, List.getElem_cons_zero] at hbyte
        exact hbyte.trans hharmless.symm
      · exact after_net h hi (by omega) (by rw [hone, List.length_singleton]; omega)
    · rw [agreeOutside_setNet_iff, hone]
      decide
  · rw [if_neg hshort] at hharmless
    obtain ⟨p, hp⟩ : ∃ p, msg.fields[8]? = some p :=
      ⟨_, List.getElem?_eq_getElem (by omega)⟩
    have hsix : (macBytes (msg.fields[8]?.getD [])).length ≤ 6 := by
      have hparts := hharmless p hp
      rw [hp, Option.getD_some, macBytes_length]
      omega
    refine ⟨fun i hi hip => hnet i hi hip fun hlow hhigh => ?_, serverIp_kept h,
      (agreeOutside_setNet_iff _).mpr hsix⟩
    obtain ⟨k, rfl⟩ : ∃ k, i = netOff + k := ⟨i - netOff, by omega⟩
    have hapart := apart hi (s := ⟨8, netOff + 28, 6⟩) (by decide) (Nat.lt_of_not_le hshort)
    dsimp only at hapart
    exact after_net h hi (by omega) (by omega)

/-- A message for the device changes only the settings that it has exactly when it does no
harm to the MAC address. -/
theorem omittedKept_iff (h : msg.Addresses d.conf) : OmittedKept env d msg ↔ Harmless d msg :=
  ⟨fun hkept => hkept.harmless h, fun hharmless => omittedKept_of_harmless hharmless h⟩

/-- `192.168.1.166` -/
def ownIp : List UInt8 := chars ['1', '9', '2', '.', '1', '6', '8', '.', '1', '.', '1', '6', '6']

/-- A device with this address, and zeros everywhere else. -/
def device : Device := Device.start (store32 zero netOff (sysStr2ip ownIp))

/-- The same, with a MAC address that begins with 255. -/
def deviceFf : Device :=
  Device.start (store (store32 zero netOff (sysStr2ip ownIp)) (netOff + 28) 0xff)

/-- A message without a serial number. -/
def withoutSn : Message where
  fields := [ownIp, ownIp, ownIp, ownIp, ownIp, ownIp, chars ['n', 'c'], chars ['8', '0'],
    chars ['0', '0', ':', '1', 'b', ':', '2', '1', ':', '3', 'c', ':', '4', 'd', ':', '5', 'e']]
  pos := by decide
  le := by decide
  ok := by decide
  dnsStr_le := by decide
  mac_le := by decide
  hostSn_le := by decide

/-- A message that ends after the network mask. -/
def withoutGateway : Message where
  fields := [ownIp, chars ['2', '5', '5', '.', '2', '5', '5', '.', '0', '.', '0']]
  pos := by decide
  le := by decide
  ok := by decide
  dnsStr_le := by decide
  mac_le := by decide
  hostSn_le := by decide

theorem omittedKept_shortMessages :
    OmittedKept ⟨zero, fun _ => none⟩ device withoutSn ∧
      OmittedKept ⟨zero, fun _ => none⟩ deviceFf withoutGateway := by
  have hfirst : withoutSn.Addresses device.conf := ⟨ownIp, rfl, by decide⟩
  have hsecond : withoutGateway.Addresses deviceFf.conf := ⟨ownIp, rfl, by decide⟩
  refine ⟨(omittedKept_iff hfirst).mpr ?_, (omittedKept_iff hsecond).mpr ?_⟩
  · rw [Harmless, if_neg (by decide)]
    intro p hp
    obtain rfl := Option.some.inj hp
    decide
  · rw [Harmless, if_pos (by decide)]
    decide

/-- A message that ends after the address of the device. -/
def addressOnly : Message where
  fields := [ownIp]
  pos := by decide
  le := by decide
  ok := by decide
  dnsStr_le := by decide
  mac_le := by decide
  hostSn_le := by decide

/-- It sets the first byte of the MAC address to 255. -/
theorem not_omittedKept_addressOnly : ¬OmittedKept ⟨zero, fun _ => none⟩ device addressOnly := by
  intro hkept
  have hharmless := hkept.harmless ⟨ownIp, rfl, by decide⟩
  rw [Harmless, if_pos (by decide)] at hharmless
  exact absurd hharmless (by decide)

end Itertk.Discovery.Omitted
