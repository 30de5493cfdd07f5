import WbMge.Cache.Server

/-!
# The gateway's own registers

The model of `mb_device.c`: unit 255 answers reads of the gateway's own register map, the same map
on FC03 and FC04, and of `cache_multimaster_get_stats`, which the statistics block reads.

`DeviceEnv` is what the getters read from the rest of the firmware, after the conversions of
`sscanf`, `atoi` and from `float`. Other tasks run between two registers of one answer, so an answer
is built from an environment for each offset.
-/

namespace WbMge

/-! ## Statistics -/

namespace Cache

/-- The scan of `cache_count_entries_and_devices` from one slot on: the used entries, and the slave
ids among them that the bitmap `seen` does not have yet. -/
def countFrom : List CacheEntry → Bytes → Nat × Nat
  | [], _ => (0, 0)
  | e :: es, seen =>
    if !e.used then countFrom es seen
    else if bitAt seen e.slaveId.toNat then
      let rest := countFrom es seen
      (rest.1 + 1, rest.2)
    else
      let rest := countFrom es (setBit seen e.slaveId.toNat)
      (rest.1 + 1, rest.2 + 1)

/-- `cache_count_entries_and_devices`, with its bitmap of 256 bits. -/
def State.countEntriesAndDevices (s : State) : Nat × Nat :=
  match s.pool with
  | none => (0, 0)
  | some pool => countFrom pool.slots (List.replicate 32 0)

structure Stats where
  packetsProcessed : UInt32
  lastPacketAgeS : UInt32
  mapAgeS : UInt32
  devicesOnBus : UInt16
deriving Repr, DecidableEq

/-- The microseconds since `sinceUs`, and 0 while there is nothing to count from. -/
def ageUs (nowUs sinceUs : Nat) : Nat :=
  if 0 < sinceUs ∧ sinceUs ≤ nowUs then nowUs - sinceUs else 0

def State.getStats (s : State) (nowUs : Nat) : Stats :=
  if !s.mutex || s.pool.isNone then ⟨0, 0, 0, 0⟩
  else
    { packetsProcessed := s.packetsProcessed
      lastPacketAgeS := UInt32.ofNat (ageUs nowUs s.lastPacketUs / 1000000)
      mapAgeS := UInt32.ofNat (ageUs nowUs s.resetUs / 1000000)
      devicesOnBus := UInt16.ofNat s.countEntriesAndDevices.2 }

end Cache

/-! ## The register map -/

namespace Device

/-- `esp_reset_reason_t`, as far as `map_reboot_reason` tells its values apart. -/
inductive ResetReason where
  | poweron | ext | sw | panic | intWdt | taskWdt | wdt | deepsleep | brownout | other
deriving Repr, DecidableEq

/-- `fw_version_t` without the encoded version; `suffix` is `N` for "+wbN", `-N` for "-rcN". -/
structure FwVersion where
  major : UInt32
  minor : UInt32
  patch : UInt32
  suffix : Int32
deriving Repr, DecidableEq

/-- The field `version` of `fw_version_t`, as `parse_fw_version` encodes it. -/
def FwVersion.version (fw : FwVersion) : UInt32 :=
  let enc := if 0 ≤ fw.suffix then (fw.suffix + 128).toUInt32 else (-1 - fw.suffix).toUInt32
  (fw.major &&& 0xFF) <<< 24 ||| (fw.minor &&& 0xFF) <<< 16 ||| (fw.patch &&& 0xFF) <<< 8 |||
    (enc &&& 0xFF)

/-- What the registers of the device are read from. -/
structure DeviceEnv where
  /-- `esp_timer_get_time()`, in microseconds. -/
  nowUs : Nat
  /-- The system voltage in millivolts, as the `uint16_t` it is converted to. -/
  supplyVoltageMv : UInt16
  /-- `sys_info.device_name`, up to its terminating zero; so are the other texts. -/
  deviceName : Bytes
  firmwareGitInfo : Bytes
  firmwareVer : Bytes
  /-- The numbers in `firmwareVer`. -/
  fwVersion : FwVersion
  deviceSerialNum : UInt64
  deviceSignature : Bytes
  cacheValueTimeoutS : UInt16
  cache : Cache.State
  /-- `heap_caps_get_total_size(MALLOC_CAP_INTERNAL)`. -/
  totalInternal : UInt32
  /-- `heap_caps_get_free_size(MALLOC_CAP_INTERNAL)`. -/
  freeInternal : UInt32
  resetReason : ResetReason

/-- A gateway that has just been switched on, without texts or counters, with the given timeout
setting. -/
def DeviceEnv.blank (cacheValueTimeoutS : UInt16) : DeviceEnv where
  nowUs := 0
  supplyVoltageMv := 0
  deviceName := []
  firmwareGitInfo := []
  firmwareVer := []
  fwVersion := ⟨0, 0, 0, 0⟩
  deviceSerialNum := 0
  deviceSignature := []
  cacheValueTimeoutS := cacheValueTimeoutS
  cache := .init true
  totalInternal := 0
  freeInternal := 0
  resetReason := .poweron

def deviceModelLen : Nat := 20

def firmwareGitInfoLen : Nat := 50

def firmwareVersionLen : Nat := 16

def deviceSignatureLen : Nat := 12

/-- `WB_SN_SCHEME_FROM_MAC`. -/
def snSchemeFromMac : UInt32 := 4

def satU16 (v : UInt32) : UInt16 := if 0xFFFF < v then 0xFFFF else v.toUInt16

/-- One character per register, in the low byte. -/
def packStringReg1c (s : Bytes) (maxlen : Nat) (base addr : UInt16) : UInt16 :=
  let i := (addr - base).toNat
  if i < s.length ∧ i < maxlen then (byteAt s i).toUInt16 else 0

/-- Two characters per register, the first in the low byte. -/
def packStringReg2c (s : Bytes) (maxlen : Nat) (base addr : UInt16) : UInt16 :=
  let i := (addr - base).toNat * 2
  let lo := if i < s.length ∧ i < maxlen then byteAt s i else 0
  let hi := if i + 1 < s.length ∧ i + 1 < maxlen then byteAt s (i + 1) else 0
  hi.toUInt16 <<< 8 ||| lo.toUInt16

def mapRebootReason : ResetReason → UInt16
  | .brownout | .deepsleep => 1
  | .intWdt => 2
  | .taskWdt | .wdt => 3
  | .sw | .panic => 4
  | .poweron => 5
  | .ext => 6
  | .other => 0

/-- The polls per minute since the cache was enabled or cleared, capped at `0xFFFF`. -/
def pollFreqPpm (st : Cache.Stats) : UInt16 :=
  if 0 < st.mapAgeS then
    let ppm := st.packetsProcessed.toNat * 60 / st.mapAgeS.toNat
    if 0xFFFF < ppm then 0xFFFF else UInt16.ofNat ppm
  else 0

/-- The register at an address, if it is defined. Values of more than 16 bits stand with their most
significant word first. -/
def deviceGetReg (env : DeviceEnv) (addr : UInt16) : Option UInt16 :=
  let uptimeS := UInt32.ofNat (env.nowUs / 1000000)
  let st := env.cache.getStats env.nowUs
  let fw := env.fwVersion
  let used :=
    if env.freeInternal < env.totalInternal then env.totalInternal - env.freeInternal else 0
  if addr = 104 then some (uptimeS >>> 16).toUInt16
  else if addr = 105 then some (uptimeS &&& 0xFFFF).toUInt16
  else if addr = 121 then some env.supplyVoltageMv
  -- texts: model, git info, version
  else if 200 ≤ addr ∧ addr < 220 then some (packStringReg1c env.deviceName deviceModelLen 200 addr)
  else if 220 ≤ addr ∧ addr < 245 then
    some (packStringReg2c env.firmwareGitInfo firmwareGitInfoLen 220 addr)
  else if 250 ≤ addr ∧ addr < 266 then
    some (packStringReg1c env.firmwareVer firmwareVersionLen 250 addr)
  -- the serial number, its generation scheme first
  else if 266 ≤ addr ∧ addr < 268 then
    some (snSchemeFromMac >>> ((1 - (addr - 266)) * 16).toUInt32 &&& 0xFFFF).toUInt16
  else if 268 ≤ addr ∧ addr < 272 then
    some (env.deviceSerialNum >>> ((3 - (addr - 268)) * 16).toUInt64 &&& 0xFFFF).toUInt16
  else if 290 ≤ addr ∧ addr < 302 then
    some (packStringReg1c env.deviceSignature deviceSignatureLen 290 addr)
  -- the version as numbers, encoded in both word orders
  else if addr = 320 then some fw.major.toUInt16
  else if addr = 321 then some fw.minor.toUInt16
  else if addr = 322 then some fw.patch.toUInt16
  else if addr = 323 then some fw.suffix.toInt16.toUInt16
  else if addr = 324 then some (fw.version &&& 0xFFFF).toUInt16
  else if addr = 325 then some (fw.version >>> 16 &&& 0xFFFF).toUInt16
  else if addr = 326 then some (fw.version >>> 16 &&& 0xFFFF).toUInt16
  else if addr = 327 then some (fw.version &&& 0xFFFF).toUInt16
  -- statistics of the cache
  else if addr = 534 then some env.cacheValueTimeoutS
  else if addr = 528 then some (st.packetsProcessed >>> 16).toUInt16
  else if addr = 529 then some (st.packetsProcessed &&& 0xFFFF).toUInt16
  else if addr = 530 then some (st.lastPacketAgeS >>> 16).toUInt16
  else if addr = 531 then some (st.lastPacketAgeS &&& 0xFFFF).toUInt16
  else if addr = 532 then some st.devicesOnBus
  else if addr = 533 then some (pollFreqPpm st)
  -- internal memory in kilobytes
  else if addr = 65505 then some (satU16 (env.totalInternal / 1024))
  else if addr = 65506 then some (satU16 (used / 1024))
  else if addr = 65507 then some (satU16 (env.freeInternal / 1024))
  else if addr = 65508 then some (mapRebootReason env.resetReason)
  else none

/-! ## Answering -/

def readReg (env : Nat → DeviceEnv) (startAddr : UInt16) (i : Nat) : Except UInt8 UInt16 :=
  match deviceGetReg (env i) (startAddr + UInt16.ofNat i) with
  | none => .error 0x02
  | some value => .ok value

/-- `mb_device_build_read_response`; the exception code is the error. -/
def mbDeviceBuildReadResponse (env : Nat → DeviceEnv) (unitId fc : UInt8) (transactionId : Nat)
    (startAddr count : UInt16) : Except UInt8 Bytes :=
  if !isRegisterRead fc then .error 0x01
  else if 0x10000 < startAddr.toNat + count.toNat then .error 0x02
  else do
    let payload ← Cache.registerLoop (readReg env startAddr) count.toNat 0
    pure (Cache.readReply transactionId unitId fc (UInt8.ofNat (count.toNat * 2)) payload)

/-- The ADU that answers a request to the gateway. -/
def mbDeviceHandleSelfRequest (env : Nat → DeviceEnv) (req : Bytes) : Bytes :=
  let ⟨transactionId, _, _, unitId, fc⟩ := tcpHeader req
  let exception := modbusPduBuildException transactionId unitId fc
  if !isRegisterRead fc then exception 0x01
  else if req.length < tcpHeaderSize + 4 then exception 0x03
  else
    let request := modbusPduParseReadRequest (req.drop tcpHeaderSize)
    let start := UInt16.ofNat request.1
    let count := UInt16.ofNat request.2
    if count < 1 ∨ maxReadRegisters < count then exception 0x03
    else
      match mbDeviceBuildReadResponse env unitId fc transactionId start count with
      | .error exc => exception exc
      | .ok reply => reply

/-! ## The register map -/

/-- `regRows` of the web interface: the first register of each row, and their number. -/
def regRows : List (Nat × Nat) :=
  [(104, 2), (121, 1), (200, 20), (220, 25), (250, 16), (266, 2), (268, 4), (290, 12), (320, 1),
    (321, 1), (322, 1), (323, 1), (324, 2), (326, 2), (528, 2), (530, 2), (532, 1), (533, 1),
    (534, 1), (65505, 1), (65506, 1), (65507, 1), (65508, 1)]

def documented (addr : UInt16) : Bool :=
  regRows.any fun (first, regs) => first ≤ addr.toNat && addr.toNat < first + regs

lemma isSome_deviceGetReg (env : DeviceEnv) (addr : UInt16) :
    (deviceGetReg env addr).isSome = documented addr := by
  have hite (p : Prop) [Decidable p] (value : UInt16) (rest : Option UInt16) :
      (if p then some value else rest).isSome = (decide p || rest.isSome) := by
    split <;> simp [*]
  rw [Bool.eq_iff_iff]
  simp only [deviceGetReg, hite, Option.isSome_none, documented, regRows, List.any_cons,
    List.any_nil, UInt16.le_iff_toNat_le, UInt16.lt_iff_toNat_lt, ← UInt16.toNat_inj,
    Bool.or_eq_true, Bool.and_eq_true, decide_eq_true_eq, Bool.false_eq_true, or_false,
    UInt16.reduceToNat]
  omega

/-- The firmware keeps to the table that the web interface shows: a read is answered with the values
of its registers if all of them are in the table, and with exception 0x02 if one of them is not. -/
theorem mbDeviceBuildReadResponse_documented (env : Nat → DeviceEnv) (unitId fc : UInt8)
    (transactionId : Nat) (startAddr count : UInt16) :
    let addr (i : Nat) := startAddr + UInt16.ofNat i
    mbDeviceBuildReadResponse env unitId fc transactionId startAddr count =
      if !isRegisterRead fc then .error 0x01
      else if startAddr.toNat + count.toNat ≤ 0x10000 ∧ ∀ i < count.toNat, documented (addr i) then
        .ok (Cache.readReply transactionId unitId fc (UInt8.ofNat (count.toNat * 2))
          ((List.range' 0 count.toNat).flatMap fun i =>
            be16 ((deviceGetReg (env i) (addr i)).getD 0).toNat))
      else .error 0x02 := by
  intro addr
  have hread (i : Nat) : readReg env startAddr i = if documented (addr i) then
      .ok ((deviceGetReg (env i) (addr i)).getD 0) else .error 0x02 := by
    rw [← isSome_deviceGetReg (env i), readReg]
    cases deviceGetReg (env i) (addr i) <;> rfl
  rw [mbDeviceBuildReadResponse]
  split
  · rfl
  split
  · rename_i hrange
    rw [if_neg fun h => absurd h.1 (by omega)]
  rename_i hrange
  split
  · rename_i h
    rw [Cache.registerLoop_ok fun j _ hj => (hread j).trans (if_pos (h.2 j (by omega)))]
    rfl
  rename_i h
  have hexc (j : Nat) (exc : UInt8) (he : readReg env startAddr j = .error exc) :
      exc = 0x02 := by
    rw [hread] at he
    split at he <;> cases he
    rfl
  obtain ⟨j, hj, hnot⟩ : ∃ j < count.toNat, ¬ documented (addr j) = true := by
    by_contra! hall
    exact h ⟨by omega, hall⟩
  rw [Cache.registerLoop_error hexc
    ⟨j, Nat.zero_le j, by omega, (hread j).trans (if_neg hnot)⟩]
  rfl

end Device

end WbMge
