import Itertk.Daemon.Config
import Itertk.Daemon.State

/-!
# The configuration file

`config_save` truncates the file and writes the record; `config_init` makes the
default configuration when there is no file, and reads what there is otherwise.
`config_load` reports a short read and goes on, so the bytes that are missing stay
as they were at program start.

## Main results

* `configInit_saved` — a complete save is read back.
* `configInit_interrupted` — what is read back of an incomplete one.
* `unmixed_iff` — when that is one of the old, the new and the default configuration.
-/

namespace Itertk.Daemon.Persistence

open Itertk.Base.Memory
open Itertk.Daemon.Layout
open Itertk.Daemon.Config
open Itertk.Daemon.State

/-! ## Saving and loading -/

/-- The bytes of `CONFIG_FILE`, if it exists. -/
abbrev ConfigFile := Option (List UInt8)

/-- The file when `config_save(&conf)` has written `cut` bytes: `fopen` with mode `w`
has emptied it before. -/
def interruptedSave (conf : Mem) (cut : Nat) : ConfigFile := some ((slice conf 0 confSize).take cut)

/-- `config_load`: `fread` stores what the file has, up to the size of the record. -/
def configLoad (file : List UInt8) (m : Mem) : Mem := blit m 0 (file.take confSize)

/-- `get_mac_init`: `dev_mac` is what `ioctl` says. -/
def getMacInit (mac : Fin 6 → UInt8) (m : Mem) : Mem := blit m (netOff + 28) (List.ofFn mac)

/-- `config_init`; `g_conf_info` is zero before it. -/
def configInit (b : Build) (mac : Fin 6 → UInt8) : ConfigFile → Mem
  | none => getMacInit mac (configMakedefault b zero)
  | some file => getMacInit mac (configLoad file zero)

/-- The bytes of `con_net.dev_mac`. -/
def IsMac (i : Nat) : Prop := netOff + 28 ≤ i ∧ i < netOff + 34

instance (i : Nat) : Decidable (IsMac i) := inferInstanceAs (Decidable (_ ∧ _))

/-- The two configurations are the same, `dev_mac` aside. -/
def SameConf (m m' : Mem) : Prop := ∀ i, i < confSize → ¬IsMac i → m i = m' i

theorem getMacInit_outside (mac : Fin 6 → UInt8) (m : Mem) {i : Nat} (h : ¬IsMac i) :
    getMacInit mac m i = m i := by
  apply blit_outside
  rw [List.length_ofFn]
  rw [IsMac] at h
  omega

/-- After an interrupted save the new configuration is read up to the cut, and zeros
from there on. -/
theorem configInit_interrupted (b : Build) (mac : Fin 6 → UInt8) (conf : Mem) (cut : Nat) {i : Nat}
    (hi : i < confSize) (hmac : ¬IsMac i) :
    configInit b mac (interruptedSave conf cut) i = if i < cut then conf i else 0 := by
  rw [interruptedSave, configInit, getMacInit_outside mac _ hmac, configLoad, List.take_take]
  by_cases hcut : i < cut
  · rw [if_pos hcut]
    have hbyte : ((slice conf 0 confSize).take (min confSize cut))[i]? = some (conf i) := by
      rw [List.getElem?_take_of_lt (by omega), getElem?_slice, if_pos hi, Nat.zero_add]
    have hblit := blit_of_getElem? zero 0 hbyte
    rw [Nat.zero_add] at hblit
    exact hblit
  · rw [if_neg hcut]
    apply blit_after
    rw [List.length_take]
    omega

/-- A complete save is read back. -/
theorem configInit_saved (b : Build) (mac : Fin 6 → UInt8) (d : Device) (conf : Mem) :
    SameConf (configInit b mac (some (configSave d conf).saved)) conf := by
  intro i hi hmac
  have hall : interruptedSave conf confSize = some (configSave d conf).saved := by
    rw [interruptedSave, List.take_of_length_le (Nat.le_of_eq (slice_length _ _ _)),
      configSave_saved]
  rw [← hall, configInit_interrupted b mac conf confSize hi hmac, if_pos hi]

/-! ## Interruptions -/

/-- A save of `new` over `old` that stops after `cut` bytes is followed by a start with
the old, the new or the default configuration. -/
def Unmixed (b : Build) (mac : Fin 6 → UInt8) (old new : Mem) (cut : Nat) : Prop :=
  let conf := configInit b mac (interruptedSave new cut)
  SameConf conf old ∨ SameConf conf new ∨ SameConf conf (configMakedefault b zero)

/-- `conf` has nothing but zeros from the cut on. -/
def ZeroFrom (cut : Nat) (conf : Mem) : Prop :=
  ∀ i, cut ≤ i → i < confSize → ¬IsMac i → conf i = 0

/-- `new` begins like `conf`. -/
def SameUpTo (cut : Nat) (new conf : Mem) : Prop :=
  ∀ i, i < cut → i < confSize → ¬IsMac i → new i = conf i

private theorem sameConf_iff (b : Build) (mac : Fin 6 → UInt8) (new conf : Mem) (cut : Nat) :
    SameConf (configInit b mac (interruptedSave new cut)) conf ↔
      SameUpTo cut new conf ∧ ZeroFrom cut conf := by
  constructor
  · intro h
    constructor
    · intro i hcut hi hmac
      rw [← h i hi hmac, configInit_interrupted b mac new cut hi hmac, if_pos hcut]
    · intro i hcut hi hmac
      rw [← h i hi hmac, configInit_interrupted b mac new cut hi hmac, if_neg (by omega)]
  · rintro ⟨hsame, hzero⟩ i hi hmac
    rw [configInit_interrupted b mac new cut hi hmac]
    by_cases hcut : i < cut
    · rw [if_pos hcut]
      exact hsame i hcut hi hmac
    · rw [if_neg hcut]
      exact (hzero i (by omega) hi hmac).symm

/-- The daemon starts with one of the three exactly when what was not written is zero:
in the new configuration, or in one of the other two that the new one begins like. -/
theorem unmixed_iff (b : Build) (mac : Fin 6 → UInt8) (old new : Mem) (cut : Nat) :
    Unmixed b mac old new cut ↔
      ZeroFrom cut new ∨ (SameUpTo cut new old ∧ ZeroFrom cut old) ∨
        (SameUpTo cut new (configMakedefault b zero) ∧
          ZeroFrom cut (configMakedefault b zero)) := by
  have hnew : SameUpTo cut new new := fun _ _ _ _ => rfl
  rw [Unmixed, sameConf_iff, sameConf_iff, sameConf_iff, and_iff_right hnew]
  exact or_left_comm

/-- The default configuration saved over itself and interrupted before the first byte:
the alarm switches come up as 0. -/
theorem unmixed_emptied :
    ¬∀ (b : Build) (mac : Fin 6 → UInt8) (old new : Mem) (cut : Nat), cut < confSize →
      Unmixed b mac old new cut := by
  intro h
  let b : Build := ⟨[], []⟩
  have hone : configMakedefault b zero (gpioOff + 12 + 0) = 1 :=
    configMakedefault_gpio b zero (by decide)
  have hsame : ∀ conf, SameConf (configInit b (fun _ => 0) (interruptedSave conf 0))
      (configMakedefault b zero) → False := by
    intro conf hconf
    have hbyte :=
      ((sameConf_iff b _ conf _ 0).mp hconf).2 (gpioOff + 12 + 0) (by decide) (by decide)
      (by decide)
    rw [hone] at hbyte
    exact absurd hbyte (by decide)
  rcases h b (fun _ => 0) (configMakedefault b zero) (configMakedefault b zero) 0 (by decide) with
    hold | hnew | hdefault
  · exact hsame _ hold
  · exact hsame _ hnew
  · exact hsame _ hdefault

end Itertk.Daemon.Persistence
