import Itertk.Base.Footprint
import Itertk.Daemon.Uart

/-!
# The default configuration

`config_makedefault` clears the record and fills it field by field.  Two of its
inputs come from outside the source tree: the build stamp that `sprintf` puts
into `sw_ver`, and the password hash computed by `crypt`.  Both are parameters.

The eight assignments to `con_gpio.alarm_on_off[0..7]` run past the array of
three; they land where the layout says.
-/

namespace Itertk.Daemon.Config

open Itertk.Base.Memory
open Itertk.Base.Footprint
open Itertk.Daemon.Layout

/-- The bytes of a C string literal, without its terminator. -/
def chars (s : List Char) : List UInt8 := s.map fun c => c.toNat.toUInt8

/-- `strcpy(m + off, s)`. -/
def strcpy (m : Mem) (off : Nat) (s : List UInt8) : Mem := blit m off (s ++ [0])

/-- `*(DWORD *)(m + off) = x`. -/
def store32 (m : Mem) (off : Nat) (x : UInt32) : Mem := blit m off (le32 x)

/-- `*(WORD *)(m + off) = x`. -/
def store16 (m : Mem) (off : Nat) (x : UInt16) : Mem :=
  blit m off [x.toUInt8, (x / 0x100).toUInt8]

/-- The `DWORD` that `sys_str2ip` makes of a dotted quad. -/
def ip4 (a b c d : UInt8) : UInt32 := word32 a b c d

/-- What the default configuration takes from outside the source: `sw_ver` as
`sprintf` builds it, and `crypt("123456", USR_SALT)`. -/
structure Build where
  swVer : List UInt8
  rootPasswd : List UInt8

/-- The serial port defaults: 9600 8N1. -/
def defaultCom (i : Nat) (m : Mem) : Mem :=
  let m := store32 m (comOff i) (UInt32.ofNat (i + 1))
  let m := store32 m (comOff i + 4) 9600
  let m := store m (comOff i + 13) 3
  let m := store32 m (comOff i + 8) 1
  let m := store m (comOff i + 12) 8
  let m := store m (comOff i + 14) 0
  let m := store m (comOff i + 15) 0
  let m := store m (comOff i + 16) 0
  store m (comOff i + 18) 0

/-- The work mode defaults: `WORK_NO`, `TCP_RAW`, `TO_CR`, `TO_LF`, and six
sessions whose fields `protocol` to `max_num` (20 bytes) are zero. -/
def defaultMode (i : Nat) (m : Mem) : Mem :=
  let m := store32 m (modeOff i) (UInt32.ofNat (i + 1))
  let m := store m (modeOff i + 4) 0
  let m := store m (modeOff i + 5) 0
  let m := store m (modeOff i + 6) 0
  let m := store m (modeOff i + 7) 1
  let m := store m (modeOff i + 9) 0
  let m := store m (modeOff i + 8) 0
  let m := store m (modeOff i + 10) 0
  let m := store m (modeOff i + 11) 0
  forUpTo maxSession (fun j m => fill m (modeOff i + 20 + 24 * j) 20 0) m

/-- The port limits: off, with every right cleared. -/
def defaultLim (i : Nat) (m : Mem) : Mem :=
  let m := store m (limOff i) (UInt8.ofNat (i + 1))
  let m := store m (limOff i + 1) 0
  forUpTo maxUsrNum (fun j m => store (store m (limOff i + 2 + j) 0) (limOff i + 18 + j) 0) m

/-- An empty account slot. -/
def defaultUsr (i : Nat) (m : Mem) : Mem :=
  let m := store16 m (usrOff i) (UInt16.ofNat (i + 1))
  let m := fill m (usrOff i + 2) 24 0
  let m := fill m (usrOff i + 26) 24 0
  store m (usrOff i + 50) 0

/-- The sensor table of `config_makedefault`. -/
def defaultSensor (m : Mem) : Mem :=
  let m := fill m (sensorOff 0) 72 0
  let m := store m (sensorOff 0) 0
  let m := store m (sensorOff 0 + 1) 2
  let m := store m (sensorOff 0 + 2) 1
  let m := store m (sensorOff 0 + 10) 0
  let m := store m (sensorOff 0 + 3) 2
  let m := store m (sensorOff 0 + 11) 1
  let m := store m (sensorOff 1) 1
  let m := store m (sensorOff 1 + 1) 3
  let m := store m (sensorOff 1 + 2) 1
  let m := store m (sensorOff 1 + 10) 0
  let m := store m (sensorOff 1 + 3) 2
  let m := store m (sensorOff 1 + 11) 0
  let m := store m (sensorOff 1 + 4) 3
  let m := store m (sensorOff 1 + 12) 0
  let m := store m (sensorOff 2) 2
  let m := store m (sensorOff 2 + 1) 2
  let m := store m (sensorOff 2 + 2) 1
  let m := store m (sensorOff 2 + 10) 0
  let m := store m (sensorOff 2 + 3) 2
  let m := store m (sensorOff 2 + 11) 0
  let m := store m (sensorOff 3) 3
  let m := store m (sensorOff 3 + 1) 1
  let m := store m (sensorOff 3 + 2) 1
  store m (sensorOff 3 + 10) 0

/-- `config_makedefault`, up to the `config_save` that ends it. -/
def configMakedefault (b : Build) (m : Mem) : Mem :=
  let m := fill m 0 confSize 0
  -- con_sys: host_name, sw_ver, hw_ver, host_sn
  let m := strcpy m sysOff (chars ['R', 'T', 'N', 'S'])
  let m := fill m (sysOff + 32) 32 0
  let m := strcpy m (sysOff + 96) b.swVer
  let m := strcpy m (sysOff + 128) (chars ['v', '1', '.', '5'])
  let m := strcpy m (sysOff + 64)
    (chars ['R', 'T', 'N', 'S', '2', 'D', '1', 'I', '3', 'S', '2', 'K', '-', 'X', 'X', '*', '*',
      '*', '*', 'X'])
  -- con_net
  let m := store32 m netOff (ip4 192 168 1 166)
  let m := store32 m (netOff + 4) (ip4 255 255 255 0)
  let m := store32 m (netOff + 8) (ip4 192 168 1 1)
  let m := store32 m (netOff + 12) 0
  let m := store32 m (netOff + 16) 0
  let m := store32 m (netOff + 20) (ip4 192 168 1 1)
  let m := store32 m (netOff + 24) 0
  let m := blit m (netOff + 28) [0x88, 0x5c, 0x47, 0x00, 0x00, 0x00]
  let m := forUpTo maxComPort defaultCom m
  let m := forUpTo maxComPort defaultMode m
  let m := forUpTo maxComPort defaultLim m
  -- con_usr: slot 0 is root
  let m := forUpTo maxUsrNum defaultUsr m
  let m := strcpy m (usrOff 0 + 2) (chars ['r', 'o', 'o', 't'])
  let m := strcpy m (usrOff 0 + 26) b.rootPasswd
  let m := store m (usrOff 0 + 50) 1
  -- con_server: SERVER_IP is empty, SERVER_PORT 8888, SERVER_DNS
  let m := store32 m serverOff 0
  let m := store16 m (serverOff + 4) 8888
  let m := strcpy m (serverOff + 6)
    (chars ['1', '9', '2', '.', '1', '6', '8', '.', '1', '.', '1', '0', '8'])
  -- con_gpio: alarm_on_off[0..7] over an array of three, output[0..2]
  let m := fill m (gpioOff + 12) 8 1
  let m := fill m (gpioOff + 15) 3 1
  defaultSensor m

/-! ## What the invariants start from -/

/-- Entry `k` of the default sensor table has type `k` and at most three sensors. -/
theorem defaultSensor_typed (m : Mem) (k : Nat) (hk : k < 4) :
    sensorType (defaultSensor m) k = UInt8.ofNat k ∧
      (sensorNum (defaultSensor m) k).toNat ≤ singleSensorMaxNum := by
  match k, hk with
  | 0, _ => exact ⟨rfl, show ((2 : UInt8).toNat ≤ 8) by decide⟩
  | 1, _ => exact ⟨rfl, show ((3 : UInt8).toNat ≤ 8) by decide⟩
  | 2, _ => exact ⟨rfl, show ((2 : UInt8).toNat ≤ 8) by decide⟩
  | 3, _ => exact ⟨rfl, show ((1 : UInt8).toNat ≤ 8) by decide⟩

theorem configMakedefault_sensor (b : Build) (m : Mem) (k : Nat) (hk : k < 4) :
    sensorType (configMakedefault b m) k = UInt8.ofNat k ∧
      (sensorNum (configMakedefault b m) k).toNat ≤ singleSensorMaxNum :=
  defaultSensor_typed _ k hk

/-! ### The serial ports -/

theorem strcpy_before (m : Mem) (s : List UInt8) {off k : Nat} (h : k < off) :
    strcpy m off s k = m k :=
  blit_before m _ h

theorem store16_before (m : Mem) (x : UInt16) {off k : Nat} (h : k < off) :
    store16 m off x k = m k :=
  blit_before m _ h

theorem store32_ne (m : Mem) (x : UInt32) {off k : Nat} (h : k < off ∨ off + 4 ≤ k) :
    store32 m off x k = m k :=
  blit_outside m _ h

theorem load32_store32 (m : Mem) (off : Nat) (x : UInt32) : load32 (store32 m off x) off = x := by
  have hit : ∀ {i v}, (le32 x)[i]? = some v → store32 m off x (off + i) = v :=
    fun h => blit_of_getElem? m off h
  have h0 : store32 m off x off = x.toUInt8 := hit (i := 0) rfl
  rw [load32, h0, hit rfl, hit rfl, hit rfl, word32_le32]

theorem load32_store32_ne (m : Mem) (x : UInt32) {off k : Nat} (h : k + 4 ≤ off ∨ off + 4 ≤ k) :
    load32 (store32 m off x) k = load32 m k :=
  load32_congr fun i hi => store32_ne m x (by omega)

private theorem load32_store_ne (m : Mem) (v : UInt8) {off k : Nat} (h : k + 4 ≤ off ∨ off < k) :
    load32 (store m off v) k = load32 m k :=
  load32_congr fun i hi => store_ne m v (by omega)

/-- Port `i` as `config_makedefault` leaves it: id `i + 1`, 9600 8N1. -/
def DefaultPort (i : Nat) (c : ConfigCom) : Prop :=
  c.id = UInt32.ofNat (i + 1) ∧ c.bps = 9600 ∧ c.dbit = 8 ∧ c.chk = 3 ∧ c.sbit = 1

private theorem defaultCom_self (i : Nat) (m : Mem) :
    DefaultPort i (ConfigCom.load (defaultCom i m) (comOff i)) := by
  simp (disch := omega) only [DefaultPort, ConfigCom.load, defaultCom, comOff, load32_store_ne,
    load32_store32_ne, load32_store32, store_ne, store32_ne, store_self, and_self]

private theorem defaultCom_other {i j : Nat} (h : j ≠ i) (m : Mem) :
    ConfigCom.load (defaultCom i m) (comOff j) = ConfigCom.load m (comOff j) := by
  apply ConfigCom.load_congr
  intro k hk
  simp only [comSize] at hk
  simp (disch := simp only [comOff]; omega) only [defaultCom, store_ne, store32_ne]

private theorem defaultComs_port (m : Mem) {k : Nat} (hk : k < maxComPort) :
    DefaultPort k (ConfigCom.load (forUpTo maxComPort defaultCom m) (comOff k)) := by
  rcases k with _ | _ | k
  · rw [maxComPort, forUpTo_succ, defaultCom_other (by omega)]
    exact defaultCom_self 0 m
  · exact defaultCom_self 1 _
  · simp only [maxComPort] at hk
    omega

theorem defaultCom_before (i : Nat) (m : Mem) {k : Nat} (hk : k < comOff 0) :
    defaultCom i m k = m k := by
  simp only [comOff] at hk
  simp (disch := simp only [comOff]; omega) only [defaultCom, store_ne, store32_ne]

theorem defaultMode_before (i : Nat) (m : Mem) {k : Nat} (hk : k < modeOff 0) :
    defaultMode i m k = m k := by
  simp only [modeOff] at hk
  rw [defaultMode, forUpTo_keeps (fun m : Mem => m k) _ _ fun j _ x =>
    fill_before x 20 0 (by simp only [modeOff]; omega)]
  simp (disch := simp only [modeOff]; omega) only [store_ne, store32_ne]

theorem defaultLim_before (i : Nat) (m : Mem) {k : Nat} (hk : k < modeOff 0) :
    defaultLim i m k = m k := by
  simp only [modeOff] at hk
  rw [defaultLim, forUpTo_keeps (fun m : Mem => m k) _ _ fun j _ x => by
    simp (disch := simp only [limOff]; omega) only [store_ne]]
  simp (disch := simp only [limOff]; omega) only [store_ne]

theorem defaultUsr_before (i : Nat) (m : Mem) {k : Nat} (hk : k < usrOff 0) :
    defaultUsr i m k = m k := by
  simp only [usrOff] at hk
  simp (disch := simp only [usrOff]; omega) only [defaultUsr, store_ne, fill_before,
    store16_before]

theorem defaultSensor_before (m : Mem) {k : Nat} (hk : k < sensorOff 0) :
    defaultSensor m k = m k := by
  simp only [sensorOff] at hk
  simp (disch := simp only [sensorOff]; omega) only [defaultSensor, store_ne, fill_before]

/-- What is assigned after the limits lies behind them. -/
theorem configMakedefault_before_usr (b : Build) (m : Mem) :
    ∃ m', ∀ k, k < usrOff 0 → configMakedefault b m k =
      forUpTo maxComPort defaultLim (forUpTo maxComPort defaultMode
        (forUpTo maxComPort defaultCom m')) k := by
  apply Exists.intro
  intro k hk
  have hk' : k < 784 := hk
  rw [configMakedefault, defaultSensor_before _ (by simp only [sensorOff]; omega)]
  simp (disch := simp only [gpioOff, serverOff, usrOff]; omega) only [fill_before, strcpy_before,
    store16_before, store32_ne, store_ne]
  rw [forUpTo_keeps (fun m : Mem => m k) _ _ fun j _ x => defaultUsr_before j x hk]

/-- What is assigned after the serial ports lies behind them. -/
theorem configMakedefault_before (b : Build) (m : Mem) :
    ∃ m', ∀ k, k < modeOff 0 → configMakedefault b m k = forUpTo maxComPort defaultCom m' k := by
  obtain ⟨m', hm⟩ := configMakedefault_before_usr b m
  refine ⟨m', fun k hk => ?_⟩
  have hk' : k < 388 := hk
  rw [hm k (by simp only [usrOff]; omega),
    forUpTo_keeps (fun m : Mem => m k) _ _ fun j _ x => defaultLim_before j x hk,
    forUpTo_keeps (fun m : Mem => m k) _ _ fun j _ x => defaultMode_before j x hk]

theorem configMakedefault_port (b : Build) (m : Mem) {k : Nat} (hk : k < maxComPort) :
    DefaultPort k (ConfigCom.load (configMakedefault b m) (comOff k)) := by
  obtain ⟨m', hm⟩ := configMakedefault_before b m
  have hload : ConfigCom.load (configMakedefault b m) (comOff k) =
      ConfigCom.load (forUpTo maxComPort defaultCom m') (comOff k) := by
    apply ConfigCom.load_congr
    intro i hi
    simp only [comSize, maxComPort] at hi hk
    exact hm _ (by simp only [comOff, modeOff]; omega)
  rw [hload]
  exact defaultComs_port m' hk

/-! ### Users -/

/-- The loop over the slots empties every name and password and leaves no
authority. -/
theorem defaultUsr_empty (m : Mem) {j k : Nat} (hj : j < maxUsrNum) (hk : 2 ≤ k ∧ k < 51) :
    forUpTo maxUsrNum defaultUsr m (usrOff j + k) = 0 := by
  refine forUpTo_invariant (fun n (m : Mem) => ∀ i, i < n → m (usrOff i + k) = 0)
    (fun i hi => absurd hi (Nat.not_lt_zero i)) maxUsrNum (fun n _ x hx i hi => ?_) j hj
  · by_cases hin : i = n
    · rw [hin, defaultUsr]
      by_cases hauth : k = 50
      · rw [hauth, store_self]
      · rw [store_ne _ _ (by omega), fill_apply]
        by_cases hpsw : 26 ≤ k
        · rw [if_pos (by omega)]
        · rw [if_neg (by omega), fill_apply, if_pos (by omega)]
    · have hbefore := hx i (by omega)
      rw [defaultUsr]
      simp (disch := simp only [usrOff]; omega) only [fill_before, store_ne, store16_before]
      exact hbefore

/-- What is assigned after the users lies behind them. -/
theorem configMakedefault_usr (b : Build) (m : Mem) :
    ∃ m', ∀ k, k < serverOff → configMakedefault b m k =
      store (strcpy (strcpy (forUpTo maxUsrNum defaultUsr m') (usrOff 0 + 2)
        (chars ['r', 'o', 'o', 't'])) (usrOff 0 + 26) b.rootPasswd) (usrOff 0 + 50) 1 k := by
  apply Exists.intro
  intro k hk
  have hk' : k < 1680 := hk
  rw [configMakedefault, defaultSensor_before _ (by simp only [sensorOff]; omega)]
  simp (disch := simp only [gpioOff, serverOff]; omega) only [fill_before, strcpy_before,
    store16_before, store32_ne]
  rfl

/-! ### Limits and outputs -/

private theorem defaultLim_enable (i p : Nat) (m : Mem) :
    limEnable (defaultLim i m) p = if p = i then 0 else limEnable m p := by
  rw [limEnable, defaultLim, maxUsrNum, forUpTo_keeps (fun m : Mem => m (limOff p + 1)) _ _
    fun j hj x => by
      simp (disch := simp only [limOff]; omega) only [store_ne]]
  by_cases hp : p = i
  · rw [if_pos hp, hp, store_self]
  · rw [if_neg hp]
    simp (disch := simp only [limOff]; omega) only [store_ne]
    rfl

/-- The loop over the users clears both rights of each on port `i`. -/
theorem defaultLim_rights (i : Nat) (m : Mem) {k : Nat} (hk : 2 ≤ k ∧ k < 34) :
    defaultLim i m (limOff i + k) = 0 := by
  have hloop : ∀ u, u < maxUsrNum → defaultLim i m (limOff i + 2 + u) = 0 ∧
      defaultLim i m (limOff i + 18 + u) = 0 := by
    unfold defaultLim
    refine forUpTo_invariant
      (fun n (m : Mem) => ∀ u, u < n → m (limOff i + 2 + u) = 0 ∧ m (limOff i + 18 + u) = 0)
      (fun u hu => absurd hu (Nat.not_lt_zero u)) maxUsrNum fun n hn x hx u hu => ?_
    simp only [maxUsrNum] at hn
    by_cases hun : u = n
    · rw [hun, store_self, store_ne _ _ (by omega), store_self]
      exact ⟨rfl, rfl⟩
    · have hbefore := hx u (by omega)
      rw [store_ne _ _ (by omega), store_ne _ _ (by omega), store_ne _ _ (by omega),
        store_ne _ _ (by omega)]
      exact hbefore
  by_cases hmod : 18 ≤ k
  · have hbyte := (hloop (k - 18) (by rw [maxUsrNum]; omega)).2
    rw [show limOff i + 18 + (k - 18) = limOff i + k by omega] at hbyte
    exact hbyte
  · have hbyte := (hloop (k - 2) (by rw [maxUsrNum]; omega)).1
    rw [show limOff i + 2 + (k - 2) = limOff i + k by omega] at hbyte
    exact hbyte

private theorem defaultLim_other (i : Nat) (m : Mem) {q k : Nat} (hq : q ≠ i) (hk : k < 34) :
    defaultLim i m (limOff q + k) = m (limOff q + k) := by
  rw [defaultLim, forUpTo_keeps (fun m : Mem => m (limOff q + k)) _ _ fun j hj x => by
    simp only [maxUsrNum] at hj
    simp (disch := simp only [limOff]; omega) only [store_ne]]
  simp (disch := simp only [limOff]; omega) only [store_ne]

/-- Every port starts with its limits off. -/
theorem configMakedefault_limEnable (b : Build) (m : Mem) {p : Nat} (hp : p < maxComPort) :
    limEnable (configMakedefault b m) p = 0 := by
  obtain ⟨m', hm⟩ := configMakedefault_before_usr b m
  simp only [maxComPort] at hp
  have hbyte := hm (limOff p + 1) (by simp only [limOff, usrOff]; omega)
  rw [limEnable, hbyte]
  show limEnable (forUpTo maxComPort defaultLim _) p = 0
  rw [maxComPort, forUpTo_succ, forUpTo_succ, defaultLim_enable, defaultLim_enable]
  rcases p with _ | _ | p
  · rfl
  · rfl
  · omega

/-- No right is given by default. -/
theorem configMakedefault_rights (b : Build) (m : Mem) {p u : Nat} (hp : p < maxComPort)
    (hu : u < maxUsrNum) :
    limRead (configMakedefault b m) p u = 0 ∧ limModify (configMakedefault b m) p u = 0 := by
  obtain ⟨m', hm⟩ := configMakedefault_before_usr b m
  have hloop : ∀ q, q < maxComPort → ∀ k, 2 ≤ k ∧ k < 34 → forUpTo maxComPort defaultLim
      (forUpTo maxComPort defaultMode (forUpTo maxComPort defaultCom m')) (limOff q + k) = 0 := by
    refine forUpTo_invariant
      (fun n (m : Mem) => ∀ q, q < n → ∀ k, 2 ≤ k ∧ k < 34 → m (limOff q + k) = 0)
      (fun q hq => absurd hq (Nat.not_lt_zero q)) maxComPort fun n _ x hx q hq k hk => ?_
    by_cases hqn : q = n
    · rw [hqn, defaultLim_rights n x hk]
    · rw [defaultLim_other n x hqn (by omega)]
      exact hx q (by omega) k hk
  simp only [maxComPort, maxUsrNum] at hp hu
  constructor
  · rw [limRead, hm _ (by simp only [limOff, usrOff]; omega), Nat.add_assoc]
    exact hloop p hp (2 + u) (by omega)
  · rw [limModify, hm _ (by simp only [limOff, usrOff]; omega), Nat.add_assoc]
    exact hloop p hp (18 + u) (by omega)

/-- The switches and outputs start at 1; the fourth output and the first sensor byte
get theirs from the assignments past the end of `alarm_on_off`. -/
theorem configMakedefault_gpio (b : Build) (m : Mem) {k : Nat} (hk : k < 8) :
    configMakedefault b m (gpioOff + 12 + k) = 1 := by
  rw [configMakedefault, defaultSensor_before _ (by simp only [gpioOff, sensorOff]; omega),
    fill_apply, fill_apply]
  by_cases h : gpioOff + 15 ≤ gpioOff + 12 + k ∧ gpioOff + 12 + k < gpioOff + 15 + 3
  · rw [if_pos h]
  · rw [if_neg h, if_pos (by omega)]

/-! ### One configuration -/

private theorem defaultCom_agree {k : Nat} (i : Nat) (m m' : Mem) (h : m k = m' k) :
    defaultCom i m k = defaultCom i m' k := by
  simp only [defaultCom, store_apply, store32, blit_apply, h]

private theorem defaultMode_agree {k : Nat} (i : Nat) (m m' : Mem) (h : m k = m' k) :
    defaultMode i m k = defaultMode i m' k := by
  unfold defaultMode
  apply forUpTo_agree
  · intro j x x' hx
    exact fill_agree hx _ _ _
  · simp only [store_apply, store32, blit_apply, h]

private theorem defaultLim_agree {k : Nat} (i : Nat) (m m' : Mem) (h : m k = m' k) :
    defaultLim i m k = defaultLim i m' k := by
  unfold defaultLim
  apply forUpTo_agree
  · intro j x x' hx
    exact store_agree (store_agree hx _ _) _ _
  · exact store_agree (store_agree h _ _) _ _

private theorem defaultUsr_agree {k : Nat} (i : Nat) (m m' : Mem) (h : m k = m' k) :
    defaultUsr i m k = defaultUsr i m' k := by
  simp only [defaultUsr, store_apply, fill_apply, store16, blit_apply, h]

private theorem defaultSensor_agree {k : Nat} (m m' : Mem) (h : m k = m' k) :
    defaultSensor m k = defaultSensor m' k := by
  simp only [defaultSensor, store_apply, fill_apply, h]

/-- The default configuration does not depend on what the record held. -/
theorem configMakedefault_same (b : Build) (m m' : Mem) {i : Nat} (hi : i < confSize) :
    configMakedefault b m i = configMakedefault b m' i := by
  unfold configMakedefault
  -- con_sensor, con_gpio, con_server
  apply defaultSensor_agree
  iterate 2 apply fill_agree
  iterate 3 apply blit_agree
  -- con_usr
  apply store_agree
  iterate 2 apply blit_agree
  refine forUpTo_agree defaultUsr_agree ?_ maxUsrNum
  -- con_lim, con_mode, con_com
  refine forUpTo_agree defaultLim_agree ?_ maxComPort
  refine forUpTo_agree defaultMode_agree ?_ maxComPort
  refine forUpTo_agree defaultCom_agree ?_ maxComPort
  -- con_net, con_sys
  iterate 8 apply blit_agree
  iterate 3 apply blit_agree
  apply fill_agree
  apply blit_agree
  -- the record has been cleared
  rw [fill_apply, fill_apply, if_pos (by omega), if_pos (by omega)]

end Itertk.Daemon.Config
