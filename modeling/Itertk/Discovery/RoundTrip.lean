import Itertk.Discovery.Text

/-!
# Set, then get

`pc_set_dev_info` takes the address of the device and nine settings in its own order;
`pc_get_dev_info` prints them in another, with the version between the last two.  The
message is taken apart into three local copies, of the network, server and system
settings, and these are copied back with a look at the name server in between, which
may write `server_ip`.  A dotted quad is taken to resolve: the source does not look
whether `gethostbyname` found it.

## Main results

* `pcGetDevInfo_saved` — what is printed is what the local copies hold.
* `pcGetDevInfo_pcSetDevInfo` — the settings that are sent are printed.
-/

namespace Itertk.Discovery.RoundTrip

open Itertk.Base.Memory
open Itertk.Daemon.Layout
open Itertk.Daemon.Config
open Itertk.Daemon.State
open Itertk.Web.Users
open Itertk.Discovery.Report
open Itertk.Discovery.Text

/-! ## Settings -/

/-- A string of a message: not empty, of at most `n` bytes, neither a bar nor a zero
in it. -/
structure Field (n : Nat) where
  text : List UInt8
  ne_nil : text ≠ []
  length_le : text.length ≤ n
  bar_notMem : bar ∉ text
  zero_notMem : 0 ∉ text

/-- The settings of a message. -/
structure Settings where
  devIp : UInt32
  devNm : UInt32
  devGw : UInt32
  dns : UInt32
  dns' : UInt32
  dnsStr : Field 49
  serverPort : UInt16
  devMac : Fin 6 → UInt8
  hostSn : Field 31

/-- A MAC address as it is printed. -/
def macText (mac : Fin 6 → UInt8) : List UInt8 := [colon].intercalate ((List.ofFn mac).map hexByte)

/-- The fields of a message for the device with the address `own`. -/
def Settings.fields (s : Settings) (own : UInt32) : List (List UInt8) :=
  [sysIp2str own, sysIp2str s.devIp, sysIp2str s.devNm, sysIp2str s.devGw, sysIp2str s.dns,
    sysIp2str s.dns', s.dnsStr.text, decimal s.serverPort.toNat, macText s.devMac, s.hostSn.text]

/-- The message. -/
def Settings.message (s : Settings) (own : UInt32) : List UInt8 :=
  [bar].intercalate (s.fields own)

/-- The text that a device with these settings sends. -/
def Settings.report (s : Settings) : List UInt8 :=
  [bar].intercalate
    [sysIp2str s.devIp, sysIp2str s.devNm, sysIp2str s.devGw, sysIp2str s.dns, sysIp2str s.dns',
      s.dnsStr.text, decimal s.serverPort.toNat, macText s.devMac,
      chars ['v', '4', '.', '0', '0'], s.hostSn.text]

/-! ## The tokens of the message -/

variable (s : Settings) (own : UInt32)

private theorem macText_ne_nil (mac : Fin 6 → UInt8) : macText mac ≠ [] := by
  rw [macText, List.ofFn_succ, List.map_cons, List.ofFn_succ, List.map_cons,
    List.intercalate_cons_cons]
  exact List.cons_ne_nil _ _

private theorem macText_length (mac : Fin 6 → UInt8) : (macText mac).length = 17 := by
  simp [macText, List.ofFn_succ, hexByte, chars, List.intercalate]

private theorem bar_notMem_macText (mac : Fin 6 → UInt8) : bar ∉ macText mac := by
  refine notMem_intercalate (by decide) fun w hw => ?_
  obtain ⟨b, _, rfl⟩ := List.mem_map.mp hw
  exact notMem_hexByte (by decide) b

/-- No field is empty or has a bar in it. -/
theorem Settings.fields_ok (w : List UInt8) (hw : w ∈ s.fields own) : w ≠ [] ∧ bar ∉ w := by
  have hip : ∀ ip, sysIp2str ip ≠ [] ∧ bar ∉ sysIp2str ip := fun ip =>
    ⟨sysIp2str_ne_nil ip, notMem_sysIp2str (by decide) (by decide) ip⟩
  have hport : ∀ n, decimal n ≠ [] ∧ bar ∉ decimal n := fun n =>
    ⟨decimal_ne_nil n, notMem_decimal (by decide) n⟩
  simp only [Settings.fields, List.mem_cons, List.not_mem_nil, or_false] at hw
  rcases hw with rfl | rfl | rfl | rfl | rfl | rfl | rfl | rfl | rfl | rfl
  · exact hip own
  · exact hip s.devIp
  · exact hip s.devNm
  · exact hip s.devGw
  · exact hip s.dns
  · exact hip s.dns'
  · exact ⟨s.dnsStr.ne_nil, s.dnsStr.bar_notMem⟩
  · exact hport _
  · exact ⟨macText_ne_nil _, bar_notMem_macText _⟩
  · exact ⟨s.hostSn.ne_nil, s.hostSn.bar_notMem⟩

private theorem Settings.strtok_message : strtok bar [] (s.message own) = s.fields own :=
  strtok_intercalate _ (s.fields_ok own)

/-- Every string fits into the local that it is copied to. -/
theorem Settings.fits : ¬Overruns (s.fields own) := by
  have hserver := s.dnsStr.length_le
  have hsn := s.hostSn.length_le
  have hmac := macText_length s.devMac
  show ¬(50 ≤ s.dnsStr.text.length ∨ 20 ≤ (macText s.devMac).length ∨ 192 ≤ s.hostSn.text.length)
  omega

/-- The message is for this device. -/
theorem Settings.me (conf : Mem) : ¬NotMe (s.fields (load32 conf netOff)) conf := by
  rintro ⟨p, hp, hne⟩
  rw [← Option.mem_some_iff.mp hp, sysStr2ip_sysIp2str] at hne
  exact hne rfl

/-! ## The local copies -/

/-- `con_net` with the settings. -/
theorem Settings.setNet_eq (m : Mem) :
    setNet (s.fields own) m =
      blit (store32 (store32 (store32 (store32 (store32 m 0 s.devIp) 4 s.devNm) 8 s.devGw) 20 s.dns)
        24 s.dns') 28 (List.ofFn s.devMac) := by
  show blit (store32 (store32 (store32 (store32 (store32 m 0 (sysStr2ip (sysIp2str s.devIp))) 4
    (sysStr2ip (sysIp2str s.devNm))) 8 (sysStr2ip (sysIp2str s.devGw))) 20
    (sysStr2ip (sysIp2str s.dns))) 24 (sysStr2ip (sysIp2str s.dns'))) 28
    (macBytes (macText s.devMac)) = _
  rw [sysStr2ip_sysIp2str, sysStr2ip_sysIp2str, sysStr2ip_sysIp2str, sysStr2ip_sysIp2str,
    sysStr2ip_sysIp2str, macText, macBytes_print
      (by rw [List.ofFn_succ]; exact List.cons_ne_nil _ _)]

/-- `con_server` with the settings. -/
theorem Settings.setServer_eq (m : Mem) :
    setServer (s.fields own) m = store16 (strcpy m 6 s.dnsStr.text) 4 s.serverPort := by
  show store16 (strcpy m 6 s.dnsStr.text) 4 (UInt16.ofInt (atoi (decimal s.serverPort.toNat))) = _
  have hport := atoi_decimal s.serverPort.toNat ends_nil
  rw [List.append_nil] at hport
  rw [hport, uint16_ofInt_toNat]

/-- A string that is copied with its terminator is there. -/
theorem cstr_strcpy (m : Mem) (off : Nat) {n : Nat} (f : Field n) (hn : n < strLimit) :
    cstr (shift (strcpy m off f.text) off) = f.text := by
  have hlen := f.length_le
  refine cstr_of_slice ?_ f.zero_notMem (by omega)
  have hself := slice_blit_self m off (f.text ++ [0])
  rw [List.length_append] at hself
  rw [slice_shift]
  exact hself

/-- `con_net` is read back from the copy. -/
theorem Settings.net_read (m : Mem) :
    let net := setNet (s.fields own) m
    load32 net 0 = s.devIp ∧ load32 net 4 = s.devNm ∧ load32 net 8 = s.devGw ∧
      load32 net 20 = s.dns ∧ load32 net 24 = s.dns' ∧ slice net 28 6 = List.ofFn s.devMac := by
  intro net
  have hnet : net = _ := s.setNet_eq own m
  have hmac := slice_blit_self
    (store32 (store32 (store32 (store32 (store32 m 0 s.devIp) 4 s.devNm) 8 s.devGw) 20 s.dns) 24
      s.dns') 28 (List.ofFn s.devMac)
  rw [List.length_ofFn] at hmac
  rw [hnet]
  refine ⟨?_, ?_, ?_, ?_, ?_, hmac⟩
  · rw [load32_blit_before _ _ (by decide), load32_store32_ne _ _ (by decide),
      load32_store32_ne _ _ (by decide), load32_store32_ne _ _ (by decide),
      load32_store32_ne _ _ (by decide), load32_store32]
  · rw [load32_blit_before _ _ (by decide), load32_store32_ne _ _ (by decide),
      load32_store32_ne _ _ (by decide), load32_store32_ne _ _ (by decide), load32_store32]
  · rw [load32_blit_before _ _ (by decide), load32_store32_ne _ _ (by decide),
      load32_store32_ne _ _ (by decide), load32_store32]
  · rw [load32_blit_before _ _ (by decide), load32_store32_ne _ _ (by decide), load32_store32]
  · rw [load32_blit_before _ _ (by decide), load32_store32]

/-- The two bytes of a port are read back as they are printed. -/
theorem store16_read (m : Mem) (off : Nat) (x : UInt16) :
    (store16 m off x off).toNat + 256 * (store16 m off x (off + 1)).toNat = x.toNat := by
  have hx := x.toNat_lt
  have hlow : store16 m off x (off + 0) = x.toUInt8 := blit_of_getElem? m off rfl
  have hhigh : store16 m off x (off + 1) = (x / 0x100).toUInt8 := blit_of_getElem? m off rfl
  rw [Nat.add_zero] at hlow
  rw [hlow, hhigh]
  simp only [UInt16.toNat_toUInt8, UInt16.toNat_div, UInt16.reduceToNat]
  omega

/-- `con_server` is read back from the copy. -/
theorem Settings.server_read (m : Mem) :
    let server := setServer (s.fields own) m
    cstr (shift server 6) = s.dnsStr.text ∧
      (server 4).toNat + 256 * (server 5).toNat = s.serverPort.toNat := by
  intro server
  have hserver : server = _ := s.setServer_eq own m
  have hstr : shift (store16 (strcpy m 6 s.dnsStr.text) 4 s.serverPort) 6 =
      shift (strcpy m 6 s.dnsStr.text) 6 := by
    funext k
    exact blit_after _ _ (by show 4 + 2 ≤ 6 + k; omega)
  rw [hserver, hstr, cstr_strcpy m 6 s.dnsStr (by decide)]
  exact ⟨rfl, store16_read _ 4 s.serverPort⟩

/-- `con_sys` is read back from the copy. -/
theorem Settings.sys_read (m : Mem) :
    cstr (shift (setSys (s.fields own) m) 64) = s.hostSn.text :=
  cstr_strcpy m 64 s.hostSn (by decide)

/-! ## The copies are back -/

/-- A structure that is copied back is there. -/
theorem blit_slice_hit (m x : Mem) {off n k : Nat} (h : k < n) :
    blit m off (slice x 0 n) (off + k) = x k := by
  rw [blit_hit m off k _ (by rw [slice_length]; exact h), getElem_slice, Nat.zero_add]

private theorem blit_slice_outside (m x : Mem) {off n k : Nat} (h : k < off ∨ off + n ≤ k) :
    blit m off (slice x 0 n) k = m k :=
  blit_outside m _ (by rw [slice_length]; exact h)

/-- The look at the name server writes `server_ip` only. -/
theorem dnsResolution_outside (env : ReportEnv) (name : List UInt8) (conf : Mem) {k : Nat}
    (h : k < serverOff ∨ serverOff + 4 ≤ k) : dnsResolution env name conf k = conf k := by
  unfold dnsResolution
  cases env.resolve name with
  | none => rfl
  | some ip => exact store32_ne conf ip h

/-- The configuration that is saved. -/
def saved (env : ReportEnv) (l : Locals) (conf : Mem) : Mem :=
  let conf := blit conf netOff (slice l.net 0 netSize)
  let conf := blit conf serverOff (slice l.server 0 serverSize)
  blit (dnsResolution env (cstr (shift l.server 6)) conf) sysOff (slice l.sys 0 sysSize)

/-- The three structures are where they belong, `server_ip` apart. -/
theorem saved_read (env : ReportEnv) (l : Locals) (conf : Mem) :
    (∀ k, k < netSize → saved env l conf (netOff + k) = l.net k) ∧
      (∀ k, 4 ≤ k → k < serverSize → saved env l conf (serverOff + k) = l.server k) ∧
      ∀ k, k < sysSize → saved env l conf (sysOff + k) = l.sys k := by
  refine ⟨fun k hk => ?_, fun k hlow hk => ?_, fun k hk => blit_slice_hit _ _ hk⟩
  · have hnet : k < 60 := hk
    rw [saved, blit_slice_outside _ _ (by simp only [sysOff, sysSize, netOff]; omega),
      dnsResolution_outside _ _ _ (by simp only [serverOff, netOff]; omega),
      blit_slice_outside _ _ (by simp only [serverOff, serverSize, netOff]; omega),
      blit_slice_hit _ _ hk]
  · rw [saved, blit_slice_outside _ _ (by simp only [sysOff, sysSize, serverOff]; omega),
      dnsResolution_outside _ _ _ (by omega), blit_slice_hit _ _ hk]

theorem saved_outside (env : ReportEnv) (l : Locals) (conf : Mem) {k : Nat}
    (hnet : k < netOff ∨ netOff + netSize ≤ k)
    (hserver : k < serverOff ∨ serverOff + serverSize ≤ k)
    (hsys : sysSize ≤ k) : saved env l conf k = conf k := by
  have hip : k < serverOff ∨ serverOff + 4 ≤ k := by
    simp only [serverOff, serverSize] at hserver ⊢
    omega
  rw [saved, blit_slice_outside _ _ (Or.inr ((Nat.zero_add sysSize).symm ▸ hsys)),
    dnsResolution_outside _ _ _ hip, blit_slice_outside _ _ hserver, blit_slice_outside _ _ hnet]

/-- `server_ip` is as it was, or what the look at the name server found. -/
theorem saved_serverIp (env : ReportEnv) (l : Locals) (conf : Mem) :
    (∀ k, k < 4 → saved env l conf (serverOff + k) = l.server k) ∨
      ∃ ip, env.resolve (cstr (shift l.server 6)) = some ip ∧
        load32 (saved env l conf) serverOff = ip := by
  have hsys : ∀ (m : Mem) {k}, k < 4 →
      blit m sysOff (slice l.sys 0 sysSize) (serverOff + k) = m (serverOff + k) := fun m k _ =>
    blit_slice_outside _ _ (by simp only [sysOff, sysSize, serverOff]; omega)
  cases hresolve : env.resolve (cstr (shift l.server 6)) with
  | none =>
      refine Or.inl fun k hk => ?_
      rw [saved, hsys _ hk, dnsResolution, hresolve]
      exact blit_slice_hit _ _ (by simp only [serverSize]; omega)
  | some ip =>
      refine Or.inr ⟨ip, rfl, ?_⟩
      rw [saved, load32_congr (fun i hi => hsys _ hi), dnsResolution, hresolve]
      exact load32_store32 _ serverOff ip

/-- What is printed after the copies are back is what the copies hold, where the strings
end in them. -/
theorem pcGetDevInfo_saved (env : ReportEnv) (l : Locals) (conf : Mem)
    (hstr : (cstr (shift l.server 6)).length < 50) (hsn : (cstr (shift l.sys 64)).length < 32) :
    pcGetDevInfo (saved env l conf) =
      [bar].intercalate
        [sysIp2str (load32 l.net 0), sysIp2str (load32 l.net 4), sysIp2str (load32 l.net 8),
          sysIp2str (load32 l.net 20), sysIp2str (load32 l.net 24), cstr (shift l.server 6),
          decimal ((l.server 4).toNat + 256 * (l.server 5).toNat),
          [colon].intercalate ((slice l.net 28 6).map hexByte), chars ['v', '4', '.', '0', '0'],
          cstr (shift l.sys 64)] := by
  obtain ⟨hnet, hserver, hsys⟩ := saved_read env l conf
  have hword : ∀ off, off + 4 ≤ netSize →
      load32 (saved env l conf) (netOff + off) = load32 l.net off := by
    intro off hoff
    refine load32_congr fun i hi => ?_
    rw [Nat.add_assoc]
    exact hnet (off + i) (by omega)
  have hmac : slice (saved env l conf) (netOff + 28) 6 = slice l.net 28 6 := by
    rw [slice_eq_iff]
    intro i hi
    rw [Nat.add_assoc]
    exact hnet (28 + i) (by show 28 + i < 60; omega)
  have hdnsStr : cstr (shift (saved env l conf) (serverOff + 6)) = cstr (shift l.server 6) := by
    refine cstr_congr (n := 50) (by decide) (fun i hi => ?_) hstr
    rw [shift_apply, shift_apply, Nat.add_assoc]
    exact (hserver (6 + i) (by omega) (by show 6 + i < 56; omega)).symm
  have hhostSn : cstr (shift (saved env l conf) (sysOff + 64)) = cstr (shift l.sys 64) := by
    refine cstr_congr (n := 32) (by decide) (fun i hi => ?_) hsn
    rw [shift_apply, shift_apply, Nat.add_assoc]
    exact (hsys (64 + i) (by show 64 + i < 256; omega)).symm
  have hip : load32 (saved env l conf) netOff = load32 l.net 0 := hword 0 (by decide)
  rw [pcGetDevInfo, hip, hword 4 (by decide), hword 8 (by decide), hword 20 (by decide),
    hword 24 (by decide), hdnsStr, hserver 4 (by decide) (by decide),
    hserver 5 (by decide) (by decide), hmac, hhostSn]

/-- A message that is taken, and whose strings fit, is saved. -/
theorem pcSetDevInfo_conf (env : ReportEnv) {text : List UInt8} {tok : List (List UInt8)}
    {d : Device}
    (htok : strtok bar [] text = tok) (hme : ¬NotMe tok d.conf) (hfits : ¬Overruns tok) :
    (pcSetDevInfo env text d).1.conf =
      saved env ⟨setNet tok (shift d.conf netOff), setServer tok (shift d.conf serverOff),
        setSys tok (shift d.conf sysOff)⟩ d.conf := by
  rw [pcSetDevInfo, htok]
  simp only [if_neg hme, filled, if_neg hfits, configSave_conf]
  rfl

/-- A message with settings is taken, and what it brings is saved. -/
theorem Settings.pcSetDevInfo_conf (env : ReportEnv) (d : Device) :
    let own := load32 d.conf netOff
    (pcSetDevInfo env (s.message own) d).1.conf =
      saved env ⟨setNet (s.fields own) (shift d.conf netOff),
        setServer (s.fields own) (shift d.conf serverOff),
        setSys (s.fields own) (shift d.conf sysOff)⟩ d.conf :=
  RoundTrip.pcSetDevInfo_conf env (s.strtok_message _) (s.me d.conf) (s.fits _)

/-- After the settings have been sent, the device sends them. -/
theorem pcGetDevInfo_pcSetDevInfo (env : ReportEnv) (d : Device) (s : Settings) :
    pcGetDevInfo (pcSetDevInfo env (s.message (load32 d.conf netOff)) d).1.conf = s.report := by
  obtain ⟨hip, hnm, hgw, hdns, hdns', hmac⟩ :=
    s.net_read (load32 d.conf netOff) (shift d.conf netOff)
  obtain ⟨hstr, hport⟩ := s.server_read (load32 d.conf netOff) (shift d.conf serverOff)
  have hsn := s.sys_read (load32 d.conf netOff) (shift d.conf sysOff)
  have hstrLen := s.dnsStr.length_le
  have hsnLen := s.hostSn.length_le
  rw [s.pcSetDevInfo_conf, pcGetDevInfo_saved _ _ _ (by rw [hstr]; omega) (by rw [hsn]; omega)]
  rw [hip, hnm, hgw, hdns, hdns', hstr, hport, hmac, hsn]
  rfl

end Itertk.Discovery.RoundTrip
