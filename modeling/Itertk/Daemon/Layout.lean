import Itertk.Base.Memory

/-!
# The byte layout of `g_conf_info`

`CONFI_DATA` (`inc/config.h`) is one global record that the daemon copies whole
structures into and out of, and that several handlers index past the end of an
array.  The model therefore keeps it as the flat memory it is on the 32-bit
little-endian target, and this module says where each field lies.  Offsets are
relative to `&g_conf_info`; what follows the record is the memory behind it.

| field        | offset | element |
|--------------|--------|---------|
| `con_sys`    | 0      | 256     |
| `con_net`    | 256    | 60      |
| `con_vlan`   | 316    | 16      |
| `con_com`    | 332    | 2 × 28  |
| `con_mode`   | 388    | 2 × 164 |
| `con_lim`    | 716    | 2 × 34  |
| `con_usr`    | 784    | 16 × 56 |
| `con_server` | 1680   | 56      |
| `con_gpio`   | 1736   | 52      |
| `con_sensor` | 1788   | 4 × 18  |

`ConfigCom` is the one structure whose fields the code assigns one by one in a
local copy, so it also has a record type with a codec (`load_bytes`).
-/

namespace Itertk.Daemon.Layout

open Itertk.Base.Memory

/-! ## Array extents of `inc/config.h` -/

def maxComPort : Nat := 2
def maxSession : Nat := 6
def maxUsrNum : Nat := 16
def singleSensorMaxNum : Nat := 8

/-! ## Sizes of the structures -/

def sysSize : Nat := 256
def netSize : Nat := 60
def vlanSize : Nat := 16
def modeSize : Nat := 164
def limSize : Nat := 34
def usrSize : Nat := 56
def serverSize : Nat := 56
def gpioSize : Nat := 52

/-! ## Offsets -/

/-- `sizeof(CONFI_DATA)`. -/
@[simp] def confSize : Nat := 1860

@[simp] def sysOff : Nat := 0
@[simp] def netOff : Nat := 256
@[simp] def vlanOff : Nat := 316

/-- `&con_com[k]`. -/
@[simp] def comOff (k : Nat) : Nat := 332 + 28 * k

/-- `&con_mode[k]`. -/
@[simp] def modeOff (k : Nat) : Nat := 388 + 164 * k

/-- `&con_lim[k]`. -/
@[simp] def limOff (k : Nat) : Nat := 716 + 34 * k

/-- `&con_usr[k]`. -/
@[simp] def usrOff (k : Nat) : Nat := 784 + 56 * k

@[simp] def serverOff : Nat := 1680
@[simp] def gpioOff : Nat := 1736

/-- `&con_sensor[k]`. -/
@[simp] def sensorOff (k : Nat) : Nat := 1788 + 18 * k

/-- `&con_com[i]` for an index computed in `DWORD` arithmetic: the address wraps
with the 32-bit address space, so index `0u - 1` is the element before the
table. -/
def comIndexOff (i : UInt32) : Nat := (332 + 28 * i.toNat) % 4294967296

/-! ## `con_sensor` -/

def sensorType (conf : Mem) (k : Nat) : UInt8 := conf (sensorOff k)
def sensorNum (conf : Mem) (k : Nat) : UInt8 := conf (sensorOff k + 1)
def sensorSeqNum (conf : Mem) (k j : Nat) : UInt8 := conf (sensorOff k + 2 + j)
def sensorAttr (conf : Mem) (k j : Nat) : UInt8 := conf (sensorOff k + 10 + j)

/-! ## `con_lim` -/

def limEnable (conf : Mem) (p : Nat) : UInt8 := conf (limOff p + 1)
def limRead (conf : Mem) (p u : Nat) : UInt8 := conf (limOff p + 2 + u)
def limModify (conf : Mem) (p u : Nat) : UInt8 := conf (limOff p + 18 + u)

/-! ## `con_usr` -/

/-- The memory from `con_usr[k].usr_name` on. -/
def usrName (conf : Mem) (k : Nat) : Mem := shift conf (usrOff k + 2)

/-- The memory from `con_usr[k].usr_passwd` on. -/
def usrPasswd (conf : Mem) (k : Nat) : Mem := shift conf (usrOff k + 26)

def usrAuth (conf : Mem) (k : Nat) : UInt8 := conf (usrOff k + 50)

/-! ## `CONFIG_COM` -/

/-- `struct tagCONFIG_COM`. -/
structure ConfigCom where
  id : UInt32
  bps : UInt32
  sbit : UInt32
  dbit : UInt8
  chk : UInt8
  bctrl : UInt8
  rts : UInt8
  dtr : UInt8
  all : UInt8
  type : UInt8
  isloop : UInt8
  rsvd : Fin 4 → UInt8
  alive : UInt32

/-- `sizeof(CONFIG_COM)`. -/
@[simp] def comSize : Nat := 28

namespace ConfigCom

/-- The record stored at `m + off`. -/
def load (m : Mem) (off : Nat) : ConfigCom where
  id := load32 m off
  bps := load32 m (off + 4)
  sbit := load32 m (off + 8)
  dbit := m (off + 12)
  chk := m (off + 13)
  bctrl := m (off + 14)
  rts := m (off + 15)
  dtr := m (off + 16)
  all := m (off + 17)
  type := m (off + 18)
  isloop := m (off + 19)
  rsvd := fun i => m (off + 20 + i)
  alive := load32 m (off + 24)

/-- The 28 bytes of the record in memory. -/
def bytes (c : ConfigCom) : List UInt8 :=
  le32 c.id ++ le32 c.bps ++ le32 c.sbit ++
    [c.dbit, c.chk, c.bctrl, c.rts, c.dtr, c.all, c.type, c.isloop,
      c.rsvd 0, c.rsvd 1, c.rsvd 2, c.rsvd 3] ++ le32 c.alive

@[simp] theorem bytes_length (c : ConfigCom) : c.bytes.length = comSize := by
  simp [bytes]

/-- The record depends on its 28 bytes only. -/
theorem load_congr {m m' : Mem} {off off' : Nat}
    (h : ∀ i, i < comSize → m (off + i) = m' (off' + i)) : load m off = load m' off' := by
  have hword : ∀ k, k ≤ 24 → load32 m (off + k) = load32 m' (off' + k) := by
    intro k hk
    apply load32_congr
    intro i hi
    have := h (k + i) (by simp only [comSize]; omega)
    simpa only [Nat.add_assoc] using this
  have hbyte : ∀ k, k < 28 → m (off + k) = m' (off' + k) := h
  simp only [load, ConfigCom.mk.injEq]
  refine ⟨hword 0 (by omega), hword 4 (by omega), hword 8 (by omega), hbyte 12 (by omega),
    hbyte 13 (by omega), hbyte 14 (by omega), hbyte 15 (by omega), hbyte 16 (by omega),
    hbyte 17 (by omega), hbyte 18 (by omega), hbyte 19 (by omega), ?_, hword 24 (by omega)⟩
  funext i
  have := hbyte (20 + i) (by omega)
  simpa only [Nat.add_assoc] using this

/-- A stored record is read back: `load` inverts the copy of `bytes`. -/
theorem load_bytes (m : Mem) (off : Nat) (c : ConfigCom) :
    load (blit m off c.bytes) off = c := by
  have hit : ∀ {i v}, c.bytes[i]? = some v → blit m off c.bytes (off + i) = v :=
    fun h => blit_of_getElem? m off h
  have hword : ∀ {k : Nat} {x : UInt32},
      c.bytes[k]? = some x.toUInt8 →
      c.bytes[k + 1]? = some (x / 0x100).toUInt8 →
      c.bytes[k + 2]? = some (x / 0x10000).toUInt8 →
      c.bytes[k + 3]? = some (x / 0x1000000).toUInt8 →
      load32 (blit m off c.bytes) (off + k) = x := by
    intro k x h₀ h₁ h₂ h₃
    simp only [load32, Nat.add_assoc]
    rw [hit h₀, hit h₁, hit h₂, hit h₃, word32_le32]
  have hrsvd : (load (blit m off c.bytes) off).rsvd = c.rsvd := by
    funext i
    show blit m off c.bytes (off + 20 + i) = c.rsvd i
    rw [Nat.add_assoc]
    rcases i with ⟨_ | _ | _ | _ | i, hi⟩
    · exact hit rfl
    · exact hit rfl
    · exact hit rfl
    · exact hit rfl
    · omega
  cases hc : c
  subst hc
  simp only [load, ConfigCom.mk.injEq]
  exact ⟨hword (k := 0) rfl rfl rfl rfl, hword rfl rfl rfl rfl, hword rfl rfl rfl rfl,
    hit rfl, hit rfl, hit rfl, hit rfl, hit rfl, hit rfl, hit rfl, hit rfl, hrsvd,
    hword rfl rfl rfl rfl⟩

/-- A record is as many bytes as it was loaded from. -/
theorem bytes_load (m : Mem) (off : Nat) : (load m off).bytes = slice m off comSize := by
  simp only [bytes, load, load32, le32_word32]
  rfl

/-- A copy that misses the record leaves it alone. -/
theorem load_blit_disjoint (m : Mem) (l : List UInt8) {off off' : Nat}
    (h : off' + comSize ≤ off ∨ off + l.length ≤ off') :
    load (blit m off l) off' = load m off' := by
  apply load_congr
  intro i hi
  simp only [comSize] at h hi
  exact blit_outside m l (by omega)

/-- Storing one record of `con_com` replaces it and leaves the other alone. -/
theorem load_blit_com (m : Mem) (p q : Nat) (c : ConfigCom) :
    load (blit m (comOff p) c.bytes) (comOff q) = if q = p then c else load m (comOff q) := by
  by_cases hq : q = p
  · rw [if_pos hq, hq, load_bytes]
  · rw [if_neg hq]
    apply load_blit_disjoint
    rw [bytes_length]
    simp only [comOff, comSize]
    omega

end ConfigCom

end Itertk.Daemon.Layout
