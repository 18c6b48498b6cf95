import Mathlib.Tactic.ByContra
import Itertk.Base.Footprint
import Itertk.Daemon.Persistence
import Itertk.Web.Handlers

/-!
# Factory reset

`reconfig` says that it recovers the configuration except SN and MAC.  It assigns the
addresses of `con_net`, the alarm switches and the server, as `config_makedefault` does,
and saves the record with everything else as it was.

The eight assignments to `con_gpio.alarm_on_off[0..7]` reach over the four outputs and the
first byte of `sensor`.

## Main results

* `reconfig_assigned`, `reconfig_kept` — the two kinds of bytes.
* `restoresDefaults_iff` — the reset restores the defaults exactly for a configuration that
  has them already in every field that is not assigned.
-/

namespace Itertk.Web.FactoryReset

open Itertk.Base.Memory
open Itertk.Base.Footprint
open Itertk.Daemon.Layout
open Itertk.Daemon.Config
open Itertk.Daemon.State
open Itertk.Daemon.Persistence
open Itertk.Web.Handlers

/-! ## Fields -/

/-- The bytes of `con_sys.host_sn`. -/
def IsSn (i : Nat) : Prop := sysOff + 64 ≤ i ∧ i < sysOff + 96

/-- What the compiler puts between fields: before the sessions of a `CONFIG_MODE`, at the
end of each `CONFIG_SESSION`, and at the end of `CONFIG_GPIO`. -/
def IsPadding (i : Nat) : Prop :=
  (∃ k, k < maxComPort ∧ modeOff k + 17 ≤ i ∧ i < modeOff k + 20) ∨
    (∃ k j, k < maxComPort ∧ j < maxSession ∧ i = modeOff k + 20 + 24 * j + 23) ∨
    (gpioOff + 49 ≤ i ∧ i < gpioOff + 52)

/-- The bytes of the fields, SN and MAC aside. -/
def Restorable (i : Nat) : Prop := i < confSize ∧ ¬IsPadding i ∧ ¬IsSn i ∧ ¬IsMac i

/-- The bytes that `reconfig` assigns: `dev_ip` to `dns[1]`, `alarm_on_off[0..7]`, and
`server_ip` to the end of `SERVER_DNS`. -/
def Assigned (i : Nat) : Prop :=
  (netOff ≤ i ∧ i < netOff + 28) ∨ (gpioOff + 12 ≤ i ∧ i < gpioOff + 20) ∨
    (serverOff ≤ i ∧ i < serverOff + 20)

instance (i : Nat) : Decidable (IsSn i) := inferInstanceAs (Decidable (_ ∧ _))

/-! ## The two lists of assignments -/

/-- The addresses of `con_net`, as both functions assign them. -/
def netDefaults : List UInt8 :=
  le32 (ip4 192 168 1 166) ++ le32 (ip4 255 255 255 0) ++ le32 (ip4 192 168 1 1) ++ le32 0 ++
    le32 0 ++ le32 (ip4 192 168 1 1) ++ le32 0

/-- `SERVER_IP`, `SERVER_PORT` and `SERVER_DNS`. -/
def serverDefaults : List UInt8 :=
  le32 0 ++ [(8888 : UInt16).toUInt8, ((8888 : UInt16) / 0x100).toUInt8] ++
    (chars ['1', '9', '2', '.', '1', '6', '8', '.', '1', '.', '1', '0', '8'] ++ [0])

private theorem blit_netDefaults (m : Mem) :
    store32 (store32 (store32 (store32 (store32 (store32 (store32 m netOff
      (ip4 192 168 1 166)) (netOff + 4) (ip4 255 255 255 0)) (netOff + 8) (ip4 192 168 1 1))
      (netOff + 12) 0) (netOff + 16) 0) (netOff + 20) (ip4 192 168 1 1)) (netOff + 24) 0 =
      blit m netOff netDefaults := by
  simp only [store32, netDefaults, ← blit_append, List.length_append, le32_length]

private theorem blit_serverDefaults (m : Mem) :
    strcpy (store16 (store32 m serverOff 0) (serverOff + 4) 8888) (serverOff + 6)
      (chars ['1', '9', '2', '.', '1', '6', '8', '.', '1', '.', '1', '0', '8']) =
      blit m serverOff serverDefaults := by
  simp only [strcpy, store16, store32, serverDefaults, ← blit_append, List.length_append,
    le32_length, List.length_cons, List.length_nil]

theorem reconfig_eq (c : Mem) :
    reconfig c =
      blit (fill (blit c netOff netDefaults) (gpioOff + 12) 8 1) serverOff serverDefaults := by
  rw [← blit_netDefaults, ← blit_serverDefaults]
  rfl

/-- What `reconfig` does not assign it keeps. -/
theorem reconfig_kept (c : Mem) {i : Nat} (h : ¬Assigned i) : reconfig c i = c i := by
  rw [Assigned] at h
  rw [reconfig_eq, blit_outside _ _ (by rw [show serverDefaults.length = 20 from rfl]; omega),
    fill_apply, if_neg (by omega),
    blit_outside _ _ (by rw [show netDefaults.length = 28 from rfl]; omega)]

/-- What is assigned after the addresses of `con_net` lies behind them. -/
theorem configMakedefault_net (b : Build) (m : Mem) :
    ∃ m', ∀ k, k < netOff + 28 → configMakedefault b m k = blit m' netOff netDefaults k := by
  apply Exists.intro
  intro k hk
  have hk' : k < 284 := hk
  rw [configMakedefault, defaultSensor_before _ (by simp only [sensorOff]; omega)]
  simp (disch := simp only [gpioOff, serverOff, usrOff]; omega) only [fill_before, strcpy_before,
    store16_before, store32_ne, store_ne]
  rw [forUpTo_keeps (fun m : Mem => m k) _ _ fun j _ x => defaultUsr_before j x
      (by simp only [usrOff]; omega),
    forUpTo_keeps (fun m : Mem => m k) _ _ fun j _ x => defaultLim_before j x
      (by simp only [modeOff]; omega),
    forUpTo_keeps (fun m : Mem => m k) _ _ fun j _ x => defaultMode_before j x
      (by simp only [modeOff]; omega),
    forUpTo_keeps (fun m : Mem => m k) _ _ fun j _ x => defaultCom_before j x
      (by simp only [comOff]; omega),
    blit_before _ _ hk, blit_netDefaults]

/-- What is assigned after `dns_str` lies behind it. -/
theorem configMakedefault_server (b : Build) (m : Mem) :
    ∃ m', ∀ k, k < gpioOff → configMakedefault b m k = blit m' serverOff serverDefaults k := by
  apply Exists.intro
  intro k hk
  have hk' : k < 1736 := hk
  rw [configMakedefault, defaultSensor_before _ (by simp only [sensorOff]; omega),
    fill_before _ _ _ (by simp only [gpioOff]; omega),
    fill_before _ _ _ (by simp only [gpioOff]; omega), blit_serverDefaults]

/-- What `reconfig` assigns it assigns as `config_makedefault` does. -/
theorem reconfig_assigned (b : Build) (m c : Mem) {i : Nat} (h : Assigned i) :
    reconfig c i = configMakedefault b m i := by
  have hnet : netDefaults.length = 28 := rfl
  have hserver : serverDefaults.length = 20 := rfl
  rw [reconfig_eq]
  rcases h with h | h | h
  · obtain ⟨m', hm⟩ := configMakedefault_net b m
    rw [hm i h.2, blit_before _ _ (by simp only [netOff, serverOff] at h ⊢; omega),
      fill_before _ _ _ (by simp only [netOff, gpioOff] at h ⊢; omega)]
    exact blit_inside c m' (by rw [hnet]; exact h)
  · obtain ⟨k, rfl⟩ : ∃ k, i = gpioOff + 12 + k := ⟨i - (gpioOff + 12), by omega⟩
    rw [blit_after _ _ (by rw [hserver]; simp only [serverOff, gpioOff]; omega), fill_apply,
      if_pos (by omega), configMakedefault_gpio b m (by omega)]
  · obtain ⟨m', hm⟩ := configMakedefault_server b m
    rw [hm i (by simp only [gpioOff, serverOff] at h ⊢; omega)]
    exact blit_inside _ m' (by rw [hserver]; exact h)

/-- The bytes that `reconfig` assigns are those it overwrites. -/
theorem overwrites_reconfig (i : Nat) : Overwrites i reconfig ↔ Assigned i := by
  constructor
  · intro h
    by_contra hout
    exact not_overwrites_of_kept (fun c => reconfig_kept c hout) h
  · intro h
    exact ⟨configMakedefault ⟨[], []⟩ zero i, fun c => reconfig_assigned _ zero c h⟩

/-! ## What the reset restores -/

/-- What `config_save` writes at the end of `reconfig(&c)`. -/
def resetFile (c : Mem) : List UInt8 := slice (reconfig c) 0 confSize

theorem sysFactorySet_saved (s : Session) :
    (sysFactorySet s).1.dev.saved = resetFile s.dev.conf := by
  show (configSave s.dev (reconfig s.dev.conf)).saved = _
  rw [configSave_saved, resetFile]

private theorem resetFile_byte (c : Mem) {i : Nat} (hi : i < confSize) :
    (resetFile c)[i]? = some (reconfig c i) := by
  rw [resetFile, getElem?_slice, if_pos hi, Nat.zero_add]

/-- Every field of the saved configuration is the one that `config_makedefault` produces
from whatever `m` it is given, but SN and MAC are those of `c`. -/
def RestoresDefaults (b : Build) (m c : Mem) : Prop :=
  ∀ i, i < confSize → ¬IsPadding i →
    (resetFile c)[i]? = some (if IsSn i ∨ IsMac i then c i else configMakedefault b m i)

/-- The fields that `reconfig` leaves alone have their defaults already. -/
def DefaultElsewhere (b : Build) (c : Mem) : Prop :=
  ∀ i, Restorable i → ¬Assigned i → c i = configMakedefault b zero i

private theorem Assigned.not_kept {i : Nat} (h : Assigned i) : ¬(IsSn i ∨ IsMac i) := by
  simp only [Assigned, IsSn, IsMac, sysOff, netOff, gpioOff, serverOff] at h ⊢
  omega

/-- The reset restores the defaults exactly where nothing else is to be restored than what
`reconfig` assigns. -/
theorem restoresDefaults_iff (b : Build) (m c : Mem) :
    RestoresDefaults b m c ↔ DefaultElsewhere b c := by
  constructor
  · rintro h i ⟨hi, hpad, hsn, hmac⟩ hout
    have hbyte := h i hi hpad
    rw [resetFile_byte c hi, reconfig_kept c hout, if_neg (not_or.mpr ⟨hsn, hmac⟩),
      configMakedefault_same b m zero hi] at hbyte
    exact Option.some.inj hbyte
  · intro h i hi hpad
    rw [resetFile_byte c hi]
    congr 1
    by_cases hin : Assigned i
    · rw [if_neg hin.not_kept]
      exact reconfig_assigned b m c hin
    · rw [reconfig_kept c hin]
      by_cases hkept : IsSn i ∨ IsMac i
      · rw [if_pos hkept]
      · rw [if_neg hkept]
        rw [not_or] at hkept
        rw [configMakedefault_same b m zero hi]
        exact h i ⟨hi, hpad, hkept.1, hkept.2⟩ hin

/-- The default configuration with the first port set to 115200 baud: the reset keeps the
speed. -/
theorem reconfig_keepsSpeed : ¬∀ (b : Build) (m c : Mem), RestoresDefaults b m c := by
  intro h
  let b : Build := ⟨[], []⟩
  let c : Mem := store32 (configMakedefault b zero) (comOff 0 + 4) 115200
  have hbps : load32 (reconfig c) (comOff 0 + 4) = 115200 := by
    rw [load32_congr fun i hi => reconfig_kept c (by
      simp only [Assigned, comOff, netOff, gpioOff, serverOff]; omega)]
    exact load32_store32 _ _ _
  have hdefault : load32 (configMakedefault b zero) (comOff 0 + 4) = 9600 :=
    (configMakedefault_port b zero (by decide : 0 < maxComPort)).2.1
  have hsame : load32 (reconfig c) (comOff 0 + 4) =
      load32 (configMakedefault b zero) (comOff 0 + 4) := by
    apply load32_congr
    intro i hi
    have hbyte := h b zero c (comOff 0 + 4 + i) (by simp only [comOff, confSize]; omega) (by
      simp only [IsPadding, comOff, modeOff, gpioOff]; omega)
    rw [resetFile_byte c (by simp only [comOff, confSize]; omega), if_neg (by
      simp only [IsSn, IsMac, comOff, sysOff, netOff]; omega)] at hbyte
    exact Option.some.inj hbyte
  rw [hbps, hdefault] at hsame
  exact absurd hsame (by decide)

/-- The accounts outlive the reset and the start that follows it. -/
theorem configInit_reset_accounts (b : Build) (mac : Fin 6 → UInt8) (s : Session) :
    slice (configInit b mac (some (sysFactorySet s).1.dev.saved)) (usrOff 0) (maxUsrNum * usrSize) =
      slice s.dev.conf (usrOff 0) (maxUsrNum * usrSize) := by
  rw [slice_eq_iff]
  intro i hi
  simp only [maxUsrNum, usrSize] at hi
  have hmac : ¬IsMac (usrOff 0 + i) := by
    simp only [IsMac, usrOff, netOff]
    omega
  have hout : ¬Assigned (usrOff 0 + i) := by
    simp only [Assigned, usrOff, netOff, gpioOff, serverOff]
    omega
  have hsaved := configInit_saved b mac s.dev (reconfig s.dev.conf) (usrOff 0 + i)
    (by simp only [usrOff, confSize]; omega) hmac
  rw [reconfig_kept _ hout] at hsaved
  exact hsaved

end Itertk.Web.FactoryReset
