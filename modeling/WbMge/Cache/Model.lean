import Mathlib.Algebra.GroupWithZero.Nat
import WbMge.Modbus.Helpers

/-!
# The register cache

The model of `cache_multimaster.c`: a flat pool of cells filled from the read responses seen on a
bus, the read request each port is waiting to see answered, and the lookup the cache server uses.
Every operation takes `s_cache_mutex`, so it is one function on the whole state. The clock,
`esp_timer_get_time()` in microseconds, is an argument, and so is the outcome of the allocation.

The entries keep the packed `type` byte of the source, with the used flag in bit 7 and the function
code in bits 2:0. The two branches of `cache_multimaster_on_response` are one function of the number
of bytes a response must declare and of how a value is read from it.
-/

namespace WbMge.Cache

def maxEntries : Nat := 4096

/-- The number of ports. -/
def bridgesCount : Nat := 2

instance : NeZero bridgesCount := ⟨Nat.succ_ne_zero 1⟩

lemma one_lt_bridgesCount : 1 < bridgesCount := by decide

def typeMask : UInt8 := 0x07

def usedBit : UInt8 := 0x80

structure CacheEntry where
  slaveId : UInt8
  type : UInt8
  address : UInt16
  value : UInt16
  stampS : UInt16
deriving Repr, DecidableEq

/-- What `memset` leaves in a slot. -/
def CacheEntry.zero : CacheEntry := ⟨0, 0, 0, 0, 0⟩

def CacheEntry.used (e : CacheEntry) : Bool := e.type &&& usedBit != 0

/-- The slot is the one of `address` read from `slaveId` with function `typeValue`. -/
def CacheEntry.isFor (e : CacheEntry) (slaveId typeValue : UInt8) (address : UInt16) : Bool :=
  e.slaveId == slaveId && e.type &&& typeMask == typeValue && e.address == address

def nowS16 (nowUs : Nat) : UInt16 := UInt16.ofNat (nowUs / 1000000)

lemma toNat_age {storedUs nowUs : Nat} (h : storedUs / 1000000 ≤ nowUs / 1000000) :
    (nowS16 nowUs - nowS16 storedUs).toNat =
      (nowUs / 1000000 - storedUs / 1000000) % 65536 := by
  rw [UInt16.toNat_sub, nowS16, nowS16, UInt16.toNat_ofNat', UInt16.toNat_ofNat']
  omega

structure PendingReq where
  valid : Bool
  slaveId : UInt8
  function : UInt8
  startReg : UInt16
  count : UInt16
deriving Repr, DecidableEq

/-- What `memset` leaves in a pending request. -/
def PendingReq.zero : PendingReq := ⟨false, 0, 0, 0, 0⟩

/-- The pool, an array of `maxEntries` slots. -/
structure Pool where
  slots : List CacheEntry
  length_slots : slots.length = maxEntries

def Pool.zeroed : Pool := ⟨List.replicate maxEntries .zero, List.length_replicate⟩

/-- The statics of `cache_multimaster.c`. -/
structure State where
  /-- `s_cache_mutex` was created. -/
  mutex : Bool
  /-- `s_pool`, absent while it is not allocated. -/
  pool : Option Pool
  enabled : Bool
  pending : Fin bridgesCount → PendingReq
  packetsProcessed : UInt32
  lastPacketUs : Nat
  resetUs : Nat
  entriesDropped : UInt32
  poolGeneration : UInt32

/-! ## Validation -/

def fcIsCacheable (fc : UInt8) : Bool := 0x01 ≤ fc && fc ≤ 0x04

def fcMaxCount (fc : UInt8) : UInt16 :=
  if isRegisterRead fc then maxReadRegisters else maxReadCoils

/-- One of FC01..FC04, a count within its limit, and a range that stays within the 16-bit address
space. -/
def requestIsCacheable (function : UInt8) (startReg count : UInt16) : Bool :=
  fcIsCacheable function && count != 0 && count ≤ fcMaxCount function &&
    startReg.toNat + count.toNat ≤ 0x10000

/-- The byte count an answer to `count` values declares, as the `uint8_t` it is compared with. -/
def expectedBytes (function : UInt8) (count : UInt16) : UInt8 :=
  if isRegisterRead function then UInt8.ofNat (count.toNat * 2)
  else UInt8.ofNat ((count.toNat + 7) / 8)

/-- The response grammar check: the declared byte count is the expected one, and the frame carries
the bytes it declares. -/
def responseFits (function : UInt8) (count : UInt16) (data : Bytes) : Bool :=
  byteAt data 2 == expectedBytes function count && 3 + (byteAt data 2).toNat ≤ data.length

/-- The value at offset `i` of a read response: the big-endian word, or the bit of a bit-packed
answer, least significant bit first. -/
def responseValue (function : UInt8) (data : Bytes) (i : Nat) : UInt16 :=
  if isRegisterRead function then
    UInt16.ofNat (u16be (byteAt data (3 + i * 2)) (byteAt data (3 + i * 2 + 1)))
  else (byteAt data (3 + i / 8) >>> UInt8.ofNat (i % 8) &&& 1).toUInt16

/-! ## The pool -/

/-- `find_or_alloc_entry` on the slots: the index of the entry, and the slots with that entry
initialised if it is new. `none` when every slot is used by something else. -/
def findOrAllocEntry (nowS : UInt16) (slaveId typeValue : UInt8) (address : UInt16) :
    List CacheEntry → Option (Nat × List CacheEntry)
  | [] => none
  | e :: es =>
    -- first free slot: the search is over, claim it
    if !e.used then
      some (0,
        { slaveId, type := usedBit ||| typeValue, address, value := 0, stampS := nowS } :: es)
    else if e.isFor slaveId typeValue address then some (0, e :: es)
    else (findOrAllocEntry nowS slaveId typeValue address es).map fun r => (r.1 + 1, e :: r.2)

/-- The loop of `cache_multimaster_on_response` over the values from offset `i` on, `n` of them
still to go. Gives the slots and the number of values dropped because the pool was full. -/
def storeFrom (stampS : UInt16) (slaveId typeValue : UInt8) (startAddr : UInt16)
    (value : Nat → UInt16) : Nat → Nat → List CacheEntry → List CacheEntry × Nat
  | 0, _, slots => (slots, 0)
  | n + 1, i, slots =>
    match findOrAllocEntry stampS slaveId typeValue (startAddr + UInt16.ofNat i) slots with
    -- the pool is full: the rest of the response is given up, a later value may be one it holds
    | none => (slots, n + 1)
    | some (k, slots) =>
      storeFrom stampS slaveId typeValue startAddr value n (i + 1)
        (slots.modify k fun e => { e with value := value i, stampS })

lemma length_findOrAllocEntry {nowS : UInt16} {slaveId typeValue : UInt8} {address : UInt16} :
    ∀ {slots : List CacheEntry} {r : Nat × List CacheEntry},
      findOrAllocEntry nowS slaveId typeValue address slots = some r →
        r.2.length = slots.length
  | [], _, h => by cases h
  | e :: es, r, h => by
    rw [findOrAllocEntry] at h
    split at h
    · obtain rfl := Option.some.inj h
      simp
    split at h
    · obtain rfl := Option.some.inj h
      rfl
    · obtain ⟨r', hr', rfl⟩ := Option.map_eq_some_iff.1 h
      simp [length_findOrAllocEntry hr']

lemma length_storeFrom (stampS : UInt16) (slaveId typeValue : UInt8) (startAddr : UInt16)
    (value : Nat → UInt16) (n i : Nat) (slots : List CacheEntry) :
    (storeFrom stampS slaveId typeValue startAddr value n i slots).1.length = slots.length := by
  induction n generalizing i slots with
  | zero => rfl
  | succ n ih =>
    rw [storeFrom]
    split
    · rfl
    · rename_i k slots' h
      rw [ih, List.length_modify]
      exact length_findOrAllocEntry h

/-! ## Operations -/

/-- The state `cache_multimaster_init` leaves, with the mutex created or not. -/
def State.init (mutex : Bool) : State where
  mutex := mutex
  pool := none
  enabled := false
  pending _ := .zero
  packetsProcessed := 0
  lastPacketUs := 0
  resetUs := 0
  entriesDropped := 0
  poolGeneration := 0

/-- The `esp_err_t` values of `cache_multimaster_enable`. -/
inductive EspErr where
  | ok
  | noMem
  | invalidState
deriving Repr, DecidableEq

/-- `cache_multimaster_enable`; `allocOk` is the outcome of the allocation, if there is one. -/
def State.enable (s : State) (nowUs : Nat) (allocOk : Bool) : State × EspErr :=
  if !s.mutex then (s, .invalidState)
  else if s.pool.isNone && !allocOk then (s, .noMem)
  else
    -- an allocated pool is reused and wiped
    ({ s with
      pool := some .zeroed
      poolGeneration := s.poolGeneration + 1
      resetUs := nowUs
      packetsProcessed := 0
      lastPacketUs := 0
      entriesDropped := 0
      pending := fun _ => .zero
      enabled := true }, .ok)

def State.clear (s : State) (nowUs : Nat) : State :=
  if !s.mutex then s
  else
    { s with
      pool := s.pool.map fun _ => .zeroed
      poolGeneration := if s.pool.isSome then s.poolGeneration + 1 else s.poolGeneration
      packetsProcessed := 0
      lastPacketUs := 0
      resetUs := nowUs
      entriesDropped := 0
      pending := fun _ => .zero }

def State.disable (s : State) (nowUs : Nat) : State :=
  let s := { s with enabled := false }.clear nowUs
  if !s.mutex then s else { s with pool := none, poolGeneration := s.poolGeneration + 1 }

def State.setPending (s : State) (port : Fin bridgesCount) (p : PendingReq) : State :=
  { s with pending := Function.update s.pending port p }

/-- `cache_multimaster_on_request`. A request that cannot be cached still takes the place of the
one before it. -/
def State.onRequest (s : State) (port slaveId function : UInt8) (startReg count : UInt16) : State :=
  if h : port.toNat < bridgesCount then
    s.setPending ⟨port.toNat, h⟩
      { valid := requestIsCacheable function startReg count, slaveId, function, startReg, count }
  else s

def State.consume (s : State) (port : Fin bridgesCount) : State :=
  s.setPending port { s.pending port with valid := false }

def State.clearPending (s : State) (port : UInt8) : State :=
  if h : port.toNat < bridgesCount then s.consume ⟨port.toNat, h⟩ else s

/-- A response from `slaveId` with function code `function` answers the pending request. -/
def PendingReq.matchedBy (p : PendingReq) (slaveId function : UInt8) : Bool :=
  p.valid && p.slaveId == slaveId && p.function == function

/-- The part of `cache_multimaster_on_response` after the checks: store the values of a response
and count it. -/
def State.store (s : State) (nowUs : Nat) (slaveId function : UInt8) (startAddr count : UInt16)
    (data : Bytes) (timestampUs : Nat) : State :=
  match s.pool with
  -- no pool to store into, the packet is counted all the same
  | none => { s with packetsProcessed := s.packetsProcessed + 1, lastPacketUs := timestampUs }
  | some pool =>
    let r := storeFrom (nowS16 nowUs) slaveId function startAddr (responseValue function data)
      count.toNat 0 pool.slots
    { s with
      pool := some ⟨r.1, (length_storeFrom ..).trans pool.length_slots⟩
      entriesDropped := s.entriesDropped + UInt32.ofNat r.2
      packetsProcessed := s.packetsProcessed + 1
      lastPacketUs := timestampUs }

def State.accepts (s : State) (port : Fin bridgesCount) (slaveId function : UInt8)
    (data : Bytes) : Option PendingReq :=
  let p := s.pending port
  if 4 ≤ data.length && p.matchedBy slaveId function && s.mutex && fcIsCacheable function &&
    responseFits function p.count data then some p else none

def State.onResponse (s : State) (nowUs : Nat) (port slaveId function : UInt8) (data : Bytes)
    (timestampUs : Nat) : State :=
  if h : port.toNat < bridgesCount then
    if data.length < 4 then s
    else
      match s.accepts ⟨port.toNat, h⟩ slaveId function data with
      -- whatever it was, the request is not pending any more
      | none => s.consume ⟨port.toNat, h⟩
      | some p =>
        (s.consume ⟨port.toNat, h⟩).store nowUs slaveId function p.startReg p.count data timestampUs
  else s

/-! ## Lookup -/

/-- `cache_lookup_result_t` with the value written to `value_out`. -/
inductive LookupResult where
  | notFound
  | found (value : UInt16)
  | stale (value : UInt16)
deriving Repr, DecidableEq

/-- The scan of `cache_multimaster_lookup`: it ends at the first free slot. -/
def findEntry (slaveId typeValue : UInt8) (address : UInt16) : List CacheEntry → Option CacheEntry
  | [] => none
  | e :: es =>
    if !e.used then none
    else if e.isFor slaveId typeValue address then some e
    else findEntry slaveId typeValue address es

/-- `cache_multimaster_lookup`. A timeout of 0 switches the age check off. -/
def State.lookup (s : State) (nowUs : Nat) (slaveId functionCode : UInt8) (address : UInt16)
    (valueTimeoutS : UInt16) : LookupResult :=
  if !s.mutex || !fcIsCacheable functionCode then .notFound
  else
    match s.pool.bind fun pool => findEntry slaveId functionCode address pool.slots with
    | none => .notFound
    | some e =>
      -- the age is a difference of 16-bit second counters
      if 0 < valueTimeoutS ∧ valueTimeoutS ≤ nowS16 nowUs - e.stampS then .stale e.value
      else .found e.value

/-! ## Sequences of calls -/

/-- A call of the cache. -/
inductive Op where
  | enable (nowUs : Nat) (allocOk : Bool)
  | disable (nowUs : Nat)
  | clear (nowUs : Nat)
  | onRequest (port slaveId function : UInt8) (startReg count : UInt16)
  | onResponse (nowUs : Nat) (port slaveId function : UInt8) (data : Bytes) (timestampUs : Nat)
  | clearPending (port : UInt8)

def State.step (s : State) : Op → State
  | .enable nowUs allocOk => (s.enable nowUs allocOk).1
  | .disable nowUs => s.disable nowUs
  | .clear nowUs => s.clear nowUs
  | .onRequest port slaveId function startReg count =>
    s.onRequest port slaveId function startReg count
  | .onResponse nowUs port slaveId function data timestampUs =>
    s.onResponse nowUs port slaveId function data timestampUs
  | .clearPending port => s.clearPending port

end WbMge.Cache
