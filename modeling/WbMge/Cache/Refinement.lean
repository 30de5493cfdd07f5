import WbMge.Cache.Model
import WbMge.ToMathlib.SlotTable

/-!
# The cache pool is a bounded finite map

The pool of `cache_multimaster.c` is searched from the front with an early exit at the first free
slot. `Spec` says what the cache is for without slots: a map from the slave, function code and
address of a value to what is kept of it, bounded to `maxEntries` keys, next to the read request
each port waits to see answered. Every sequence of calls leaves the pool and the map in agreement.

What is kept of a stored value is a function `cell` of the value and its time stamp. A response is
filed only while the pool is allocated; the requests are matched even on a cache that is switched
off.
-/

namespace WbMge.Cache

/-! ## The abstract cache -/

/-- What a value is stored under. -/
structure Key where
  slaveId : UInt8
  function : UInt8
  address : UInt16
deriving Repr, DecidableEq

/-- A read request. -/
structure ReadReq where
  slaveId : UInt8
  function : UInt8
  startReg : UInt16
  count : UInt16
deriving Repr, DecidableEq

def ReadReq.numBytes (r : ReadReq) : Nat :=
  if isRegisterRead r.function then 2 * r.count.toNat else (r.count.toNat + 7) / 8

/-- The key of the value at offset `i`. -/
def ReadReq.key (r : ReadReq) (i : Nat) : Key :=
  ⟨r.slaveId, r.function, r.startReg + UInt16.ofNat i⟩

/-- A frame that comes from the slave and function asked, declares exactly the bytes of the answer
and carries them. -/
def ReadReq.answeredBy (r : ReadReq) (slaveId function : UInt8) (data : Bytes) : Bool :=
  r.slaveId == slaveId && r.function == function && (byteAt data 2).toNat == r.numBytes &&
    3 + r.numBytes ≤ data.length

variable {β : Type*} (cell : UInt16 → UInt16 → β)

def ReadReq.cells (r : ReadReq) (stampS : UInt16) (data : Bytes) : List (Key × β) :=
  (List.range r.count.toNat).map fun i => (r.key i, cell (responseValue r.function data i) stampS)

/-- The cache as a map. -/
structure Spec (β : Type*) where
  allocated : Bool
  pending : Fin bridgesCount → Option ReadReq
  map : Finmap fun _ : Key => β

def Spec.init : Spec β := ⟨false, fun _ => none, ∅⟩

def Spec.setPending (a : Spec β) (port : Fin bridgesCount) (r : Option ReadReq) : Spec β :=
  { a with pending := Function.update a.pending port r }

/-- File the response if it answers the pending request, stopping at the first key that is new
while `maxEntries` are held. -/
def Spec.file (a : Spec β) (port : Fin bridgesCount) (slaveId function : UInt8) (data : Bytes)
    (stampS : UInt16) : Spec β :=
  match a.pending port with
  | none => a
  | some r =>
    if r.answeredBy slaveId function data then
      { a with map := SlotTable.insertWhile maxEntries (r.cells cell stampS data) a.map }
    else a

/-- What a call does to the map. -/
def Spec.step (a : Spec β) : Op → Spec β
  | .enable _ allocOk =>
    -- a failed allocation empties the map too, which is empty then
    if a.allocated || allocOk then ⟨true, fun _ => none, ∅⟩ else { a with map := ∅ }
  | .disable _ => ⟨false, fun _ => none, ∅⟩
  | .clear _ => ⟨a.allocated, fun _ => none, ∅⟩
  | .onRequest port slaveId function startReg count =>
    if h : port.toNat < bridgesCount then
      a.setPending ⟨port.toNat, h⟩ (if requestIsCacheable function startReg count then
        some ⟨slaveId, function, startReg, count⟩ else none)
    else a
  | .onResponse nowUs port slaveId function data _ =>
    if h : port.toNat < bridgesCount then
      if data.length < 4 then a
      else
        -- the response uses the pending request up, whether or not it is filed
        let filed := if a.allocated then
          a.file cell ⟨port.toNat, h⟩ slaveId function data (nowS16 nowUs) else a
        filed.setPending ⟨port.toNat, h⟩ none
    else a
  | .clearPending port =>
    if h : port.toNat < bridgesCount then a.setPending ⟨port.toNat, h⟩ none else a

@[simp] lemma Spec.allocated_onRequest (a : Spec β) (port slaveId function : UInt8)
    (startReg count : UInt16) :
    (a.step cell (.onRequest port slaveId function startReg count)).allocated = a.allocated := by
  rw [Spec.step]
  split <;> rfl

@[simp] lemma Spec.allocated_onResponse (a : Spec β) (nowUs : Nat) (port slaveId function : UInt8)
    (data : Bytes) (timestampUs : Nat) :
    (a.step cell (.onResponse nowUs port slaveId function data timestampUs)).allocated =
      a.allocated := by
  simp only [Spec.step, Spec.file]
  split
  · split
    · rfl
    · rw [Spec.setPending]
      split
      · split
        · rfl
        · split <;> rfl
      · rfl
  · rfl

/-! ## Entries as slots -/

def CacheEntry.key? (e : CacheEntry) : Option Key :=
  if e.used then some ⟨e.slaveId, e.type &&& typeMask, e.address⟩ else none

def CacheEntry.kept (e : CacheEntry) : β := cell e.value e.stampS

variable {cell}

lemma key?_eq_none {e : CacheEntry} : e.key? = none ↔ e.used = false := by
  simp [CacheEntry.key?]

@[simp] lemma key?_zero : CacheEntry.zero.key? = none := by decide

variable {k : Key} {r : ReadReq} {s : State} {a : Spec β} {data : Bytes}

lemma isFor_iff {e : CacheEntry} :
    e.isFor k.slaveId k.function k.address = true ↔
      (⟨e.slaveId, e.type &&& typeMask, e.address⟩ : Key) = k := by
  cases k
  simp [CacheEntry.isFor, and_assoc]

lemma fcIsCacheable_cases {fc : UInt8} (h : fcIsCacheable fc) :
    fc = 1 ∨ fc = 2 ∨ fc = 3 ∨ fc = 4 := by
  simp only [fcIsCacheable, Bool.and_eq_true, decide_eq_true_eq, UInt8.le_iff_toNat_le] at h
  simp only [← UInt8.toNat_inj]
  simp only [UInt8.reduceToNat] at *
  omega

lemma packedType {fc : UInt8} (h : fcIsCacheable fc) :
    (usedBit ||| fc) &&& usedBit ≠ 0 ∧ (usedBit ||| fc) &&& typeMask = fc := by
  rcases fcIsCacheable_cases h with rfl | rfl | rfl | rfl <;> decide

lemma findEntry_eq_find (k : Key) (slots : List CacheEntry) :
    findEntry k.slaveId k.function k.address slots = SlotTable.find CacheEntry.key? k slots := by
  -- both stop at a free slot and at the key
  induction slots with
  | nil => rfl
  | cons e es ih =>
    rw [findEntry, SlotTable.find, CacheEntry.key?]
    by_cases hu : e.used
    · by_cases hk : e.isFor k.slaveId k.function k.address
      · simp [hu, hk, isFor_iff.1 hk]
      · simp [hu, hk, mt isFor_iff.2 hk, ih]
    · simp [hu]

lemma findOrAllocEntry_modify (k : Key) (value stampS : UInt16) (slots : List CacheEntry) :
    ((findOrAllocEntry stampS k.slaveId k.function k.address slots).map fun r =>
        r.2.modify r.1 fun e => { e with value, stampS }) =
      SlotTable.upsert CacheEntry.key? k
        ⟨k.slaveId, usedBit ||| k.function, k.address, value, stampS⟩
        (fun e => { e with value, stampS }) slots := by
  induction slots with
  | nil => rfl
  | cons e es ih =>
    rw [findOrAllocEntry, SlotTable.upsert, CacheEntry.key?]
    by_cases hu : e.used
    · by_cases hk : e.isFor k.slaveId k.function k.address
      · simp [hu, hk, isFor_iff.1 hk]
      · -- the write lands behind `e`, one index further on
        rw [← ih]
        simp [hu, hk, mt isFor_iff.2 hk, Function.comp_def]
    · simp [hu]

lemma findOrAllocEntry_represents {slots : List CacheEntry} {m : Finmap fun _ : Key => β}
    (h : SlotTable.Represents CacheEntry.key? (CacheEntry.kept cell) slots m)
    (hr : fcIsCacheable r.function) (value stampS : UInt16) (i : Nat) :
    let found := findOrAllocEntry stampS r.slaveId r.function (r.startReg + UInt16.ofNat i) slots
    let inserted := SlotTable.insertBounded slots.length (r.key i) (cell value stampS) m
    (found = none ∧ inserted = none) ∨ ∃ res m', found = some res ∧ inserted = some m' ∧
      SlotTable.Represents CacheEntry.key? (CacheEntry.kept cell)
        (res.2.modify res.1 fun e => { e with value, stampS }) m' ∧
      (res.2.modify res.1 fun e => { e with value, stampS }).length = slots.length := by
  intro found inserted
  obtain ⟨hused, hmask⟩ := packedType hr
  have hrel : Option.Rel
      (fun slots' m' => SlotTable.Represents CacheEntry.key? (CacheEntry.kept cell) slots' m' ∧
        slots'.length = slots.length)
      (found.map fun res => res.2.modify res.1 fun e => { e with value, stampS }) inserted := by
    rw [show found.map _ = _ from findOrAllocEntry_modify (r.key i) value stampS slots]
    refine h.upsert ⟨?_, rfl⟩ fun e he => ⟨he, rfl⟩
    simp [CacheEntry.key?, CacheEntry.used, hused, hmask, ReadReq.key]
  generalize found = o, inserted = o' at hrel ⊢
  cases o <;> rcases hrel with hrep | _
  · exact .inl ⟨rfl, rfl⟩
  · exact .inr ⟨_, _, rfl, rfl, hrep⟩

lemma storeFrom_represents (hr : fcIsCacheable r.function) (stampS : UInt16)
    (value : Nat → UInt16) :
    ∀ (n i : Nat) {slots : List CacheEntry} {m : Finmap fun _ : Key => β},
      SlotTable.Represents CacheEntry.key? (CacheEntry.kept cell) slots m →
      SlotTable.Represents CacheEntry.key? (CacheEntry.kept cell)
        (storeFrom stampS r.slaveId r.function r.startReg value n i slots).1
        (SlotTable.insertWhile slots.length
          ((List.range' i n).map fun i => (r.key i, cell (value i) stampS)) m)
  | 0, _, _, _, h => h
  | n + 1, i, slots, m, h => by
    rw [storeFrom, List.range'_succ, List.map_cons, SlotTable.insertWhile]
    -- the loop and the map stop together, or go on together
    obtain ⟨hf, hm⟩ | ⟨res, m', hf, hm, hrep, hlen⟩ :=
      findOrAllocEntry_represents h hr (value i) stampS i
    · rw [hf, hm]
      exact h
    · have hrest := storeFrom_represents hr stampS value n (i + 1) hrep
      rw [hlen] at hrest
      rw [hf, hm]
      exact hrest

/-! ## Refinement -/

def PendingReq.toReq? (p : PendingReq) : Option ReadReq :=
  if p.valid then some ⟨p.slaveId, p.function, p.startReg, p.count⟩ else none

variable (cell)

structure Refines (s : State) (a : Spec β) : Prop where
  mutex : s.mutex = true
  enabled : s.enabled = s.pool.isSome
  allocated : a.allocated = s.pool.isSome
  pending : ∀ port, (s.pending port).toReq? = a.pending port
  cacheable : ∀ port r, a.pending port = some r →
    requestIsCacheable r.function r.startReg r.count
  map_of_none : s.pool = none → a.map = ∅
  represents : ∀ pool, s.pool = some pool →
    SlotTable.Represents CacheEntry.key? (CacheEntry.kept cell) pool.slots a.map
  readKeys : ∀ k ∈ a.map, fcIsCacheable k.function

variable {cell}

lemma refines_init : Refines cell (State.init true) Spec.init where
  mutex := rfl
  enabled := rfl
  allocated := rfl
  pending _ := rfl
  cacheable _ _ h := by cases h
  map_of_none _ := rfl
  represents _ h := by cases h
  readKeys _ h := absurd h Finmap.notMem_empty

lemma refines_wiped (hm : s.mutex = true) (he : s.enabled = s.pool.isSome)
    (hp : s.pending = fun _ => .zero) (hz : ∀ pool, s.pool = some pool → pool = .zeroed) :
    Refines cell s ⟨s.pool.isSome, fun _ => none, ∅⟩ where
  mutex := hm
  enabled := he
  allocated := rfl
  pending _ := by rw [hp]; rfl
  cacheable _ _ h := by cases h
  map_of_none _ := rfl
  represents pool h := by
    refine SlotTable.represents_empty fun e he => ?_
    rw [hz pool h] at he
    rw [List.eq_of_mem_replicate he, key?_zero]
  readKeys _ h := absurd h Finmap.notMem_empty

lemma Refines.setPending (h : Refines cell s a) (port : Fin bridgesCount) {p : PendingReq}
    {r : Option ReadReq} (hp : p.toReq? = r)
    (hr : ∀ r', r = some r' → requestIsCacheable r'.function r'.startReg r'.count) :
    Refines cell (s.setPending port p) (a.setPending port r) :=
  { h with
    pending := fun q => by
      by_cases hq : q = port
      · subst hq
        simpa [State.setPending, Spec.setPending] using hp
      · simpa [State.setPending, Spec.setPending, hq] using h.pending q
    cacheable := fun q r' hr' => by
      by_cases hq : q = port
      · subst hq
        exact hr r' (by simpa [Spec.setPending] using hr')
      · exact h.cacheable q r' (by simpa [Spec.setPending, hq] using hr') }

lemma Refines.consume (h : Refines cell s a) (port : Fin bridgesCount) :
    Refines cell (s.consume port) (a.setPending port none) :=
  h.setPending port (by simp [PendingReq.toReq?]) (by simp)

lemma requestIsCacheable_iff {function : UInt8} {startReg count : UInt16} :
    requestIsCacheable function startReg count = true ↔
      fcIsCacheable function = true ∧ 0 < count.toNat ∧
        count.toNat ≤ (if isRegisterRead function then 125 else 2000) ∧
        startReg.toNat + count.toNat ≤ 65536 := by
  have hpos : count ≠ 0 ↔ 0 < count.toNat := by
    rw [Nat.pos_iff_ne_zero, ne_eq, ne_eq, ← UInt16.toNat_inj]
    rfl
  have hmax : count ≤ fcMaxCount function ↔
      count.toNat ≤ if isRegisterRead function then 125 else 2000 := by
    rw [UInt16.le_iff_toNat_le, fcMaxCount]
    split <;> rfl
  simp only [requestIsCacheable, Bool.and_eq_true, bne_iff_ne, decide_eq_true_eq, hpos, hmax,
    and_assoc]

lemma nodup_keys (hr : requestIsCacheable r.function r.startReg r.count) :
    ((List.range r.count.toNat).map r.key).Nodup := by
  obtain ⟨-, -, -, hrange⟩ := requestIsCacheable_iff.1 hr
  refine List.Nodup.map_on (fun i hi j hj hij => ?_) List.nodup_range
  rw [List.mem_range] at hi hj
  -- the range stays within the address space, so the addresses do not wrap
  have haddr := congrArg (fun k => k.address.toNat) hij
  simp only [ReadReq.key, UInt16.toNat_add, UInt16.toNat_ofNat'] at haddr
  omega

lemma not_count_exceeds (hr : requestIsCacheable r.function r.startReg r.count) :
    ¬ (r.count = 0 ∨ fcMaxCount r.function < r.count) := by
  simp only [requestIsCacheable, Bool.and_eq_true, bne_iff_ne, decide_eq_true_eq] at hr
  exact not_or.2 ⟨hr.1.1.2, UInt16.not_lt.2 hr.1.2⟩

lemma length_of_answeredBy (hr : requestIsCacheable r.function r.startReg r.count)
    (hans : r.answeredBy r.slaveId r.function data) : 4 ≤ data.length := by
  obtain ⟨-, hpos, -, -⟩ := requestIsCacheable_iff.1 hr
  simp only [ReadReq.answeredBy, Bool.and_eq_true, decide_eq_true_eq] at hans
  have hbytes : 0 < r.numBytes := by
    rw [ReadReq.numBytes]
    split <;> omega
  omega

lemma toNat_expectedBytes (h : requestIsCacheable r.function r.startReg r.count) :
    (expectedBytes r.function r.count).toNat = r.numBytes := by
  obtain ⟨-, -, hmax, -⟩ := requestIsCacheable_iff.1 h
  rw [expectedBytes, ReadReq.numBytes]
  split at hmax <;> simp only [*, if_true, if_false, Bool.false_eq_true, UInt8.toNat_ofNat'] <;>
    omega

lemma Refines.accepts_eq (h : Refines cell s a) (port : Fin bridgesCount)
    (slaveId function : UInt8) (hlen : 4 ≤ data.length) :
    s.accepts port slaveId function data =
      if (a.pending port).any (·.answeredBy slaveId function data) then some (s.pending port)
      else none := by
  have hp := h.pending port
  have hc := h.cacheable port
  rw [State.accepts, PendingReq.matchedBy, h.mutex]
  rw [PendingReq.toReq?] at hp
  by_cases hv : (s.pending port).valid
  · -- the byte count of a cacheable request fits a byte, so comparing bytes is comparing numbers
    rw [if_pos hv] at hp
    have hr := hc _ hp.symm
    have hfc := (requestIsCacheable_iff.1 hr).1
    have hbytes := toNat_expectedBytes hr
    rw [← hp]
    congr 1
    simp only [Option.any_some, ReadReq.answeredBy, responseFits, eq_iff_iff, Bool.and_eq_true,
      beq_iff_eq, decide_eq_true_eq, hv, hlen, true_and, and_true]
    constructor
    · rintro ⟨⟨⟨rfl, rfl⟩, -⟩, hb, hfit⟩
      rw [hb, hbytes] at hfit
      exact ⟨⟨⟨rfl, rfl⟩, by rw [hb, hbytes]⟩, hfit⟩
    · rintro ⟨⟨⟨rfl, rfl⟩, hb⟩, hfit⟩
      rw [← hbytes] at hb hfit
      exact ⟨⟨⟨rfl, rfl⟩, hfc⟩, UInt8.toNat_inj.1 hb, by rwa [hb]⟩
  · rw [if_neg hv] at hp
    rw [← hp]
    simp [hv]

lemma Refines.store_of_none (h : Refines cell s a) (hpool : s.pool = none) (nowUs : Nat)
    (slaveId function : UInt8) (startAddr count : UInt16) (data : Bytes) (timestampUs : Nat) :
    Refines cell (s.store nowUs slaveId function startAddr count data timestampUs) a := by
  rw [State.store]
  split
  · exact ⟨h.mutex, h.enabled, h.allocated, h.pending, h.cacheable, h.map_of_none, h.represents,
      h.readKeys⟩
  · rename_i pool hsome
    rw [hpool] at hsome
    cases hsome

lemma Refines.store {s : State} {a : Spec β} (h : Refines cell s a) {pool : Pool}
    (hpool : s.pool = some pool) {r : ReadReq} (hr : fcIsCacheable r.function) (nowUs : Nat)
    (data : Bytes) (timestampUs : Nat) :
    Refines cell (s.store nowUs r.slaveId r.function r.startReg r.count data timestampUs)
      { a with
        map := SlotTable.insertWhile maxEntries (r.cells cell (nowS16 nowUs) data) a.map } := by
  rw [State.store, hpool]
  refine
    { mutex := h.mutex
      enabled := by simpa [hpool] using h.enabled
      allocated := by simpa [hpool] using h.allocated
      pending := h.pending
      cacheable := h.cacheable
      map_of_none := fun hnone => by cases hnone
      represents := fun pool' hpool' => ?_
      readKeys := fun k hk => ?_ }
  · obtain rfl := Option.some.inj hpool'
    have hrep := storeFrom_represents hr (nowS16 nowUs) (responseValue r.function data)
      r.count.toNat 0 (h.represents pool hpool)
    rw [pool.length_slots, ← List.range_eq_range'] at hrep
    exact hrep
  · -- a key held afterwards was held before or is one of the response
    by_cases hmem : k ∈ (r.cells cell (nowS16 nowUs) data).map Prod.fst
    · obtain ⟨kv, hkv, rfl⟩ := List.mem_map.1 hmem
      obtain ⟨i, -, rfl⟩ := List.mem_map.1 hkv
      exact hr
    · obtain ⟨v, hv⟩ := Finmap.mem_iff.1 hk
      rw [SlotTable.lookup_insertWhile_of_notMem hmem] at hv
      exact h.readKeys k (Finmap.mem_iff.2 ⟨v, hv⟩)

lemma Refines.onResponse (h : Refines cell s a) (nowUs : Nat) (port slaveId function : UInt8)
    (data : Bytes) (timestampUs : Nat) :
    Refines cell (s.onResponse nowUs port slaveId function data timestampUs)
      (a.step cell (.onResponse nowUs port slaveId function data timestampUs)) := by
  rw [State.onResponse, Spec.step]
  split
  swap
  · exact h
  rename_i hport
  split
  · exact h
  rename_i hlen
  have hcons := h.consume ⟨port.toNat, hport⟩
  rw [h.accepts_eq _ _ _ (Nat.le_of_not_lt hlen), Spec.file]
  have hp := h.pending ⟨port.toNat, hport⟩
  have hc := h.cacheable ⟨port.toNat, hport⟩
  -- nothing pending, or a pending request that the response answers or not
  cases hr : a.pending ⟨port.toNat, hport⟩ with
  | none => simpa using hcons
  | some r =>
    simp only [Option.any_some]
    by_cases hans : r.answeredBy slaveId function data
    · have hfc := (requestIsCacheable_iff.1 (hc r hr)).1
      rw [hr, PendingReq.toReq?] at hp
      split at hp
      swap
      · cases hp
      obtain rfl := Option.some.inj hp
      simp only [hans, if_true]
      simp only [ReadReq.answeredBy, Bool.and_eq_true, beq_iff_eq] at hans
      obtain ⟨⟨⟨rfl, rfl⟩, -⟩, -⟩ := hans
      cases hpool : s.pool with
      | none =>
        -- accepted on a cache that is off: counted, not filed
        have hoff : a.allocated = false := by rw [h.allocated, hpool]; rfl
        simp only [hoff, Bool.false_eq_true, if_false]
        exact hcons.store_of_none hpool ..
      | some pool =>
        have hon : a.allocated = true := by rw [h.allocated, hpool]; rfl
        rw [if_pos hon]
        exact hcons.store hpool hfc nowUs data timestampUs
    · simpa [hans] using hcons

lemma Refines.step {s : State} {a : Spec β} (h : Refines cell s a) (op : Op) :
    Refines cell (s.step op) (a.step cell op) := by
  cases op with
  | enable nowUs allocOk =>
    rw [State.step, State.enable, h.mutex, Spec.step, h.allocated]
    cases hpool : s.pool with
    | none =>
      cases allocOk with
      | false =>
        -- the allocation failed; there was no pool, so the map was empty already
        have hoff : a.allocated = false := by rw [h.allocated, hpool]; rfl
        have ha : (⟨false, a.pending, ∅⟩ : Spec β) = a := by
          rw [← h.map_of_none hpool, ← hoff]
        simpa [ha] using h
      | true => exact refines_wiped rfl rfl rfl fun pool hp => (Option.some.inj hp).symm
    | some pool => exact refines_wiped rfl rfl rfl fun pool hp => (Option.some.inj hp).symm
  | disable nowUs =>
    rw [State.step, State.disable, State.clear]
    simp only [h.mutex, Bool.not_true, Bool.false_eq_true, if_false]
    exact refines_wiped rfl rfl rfl fun pool hp => by cases hp
  | clear nowUs =>
    rw [State.step, State.clear, Spec.step, h.allocated]
    simp only [h.mutex, Bool.not_true, Bool.false_eq_true, if_false]
    -- the pool stays allocated, if it is
    have hsome : (s.pool.map fun _ => Pool.zeroed).isSome = s.pool.isSome := Option.isSome_map
    rw [← hsome]
    refine refines_wiped rfl (h.enabled.trans hsome.symm) rfl fun pool hp => ?_
    obtain ⟨-, -, rfl⟩ := Option.map_eq_some_iff.1 hp
    rfl
  | onRequest port slaveId function startReg count =>
    rw [State.step, State.onRequest, Spec.step]
    split
    · refine h.setPending _ rfl fun r hr => ?_
      split at hr
      · rename_i hc
        obtain rfl := Option.some.inj hr
        exact hc
      · cases hr
    · exact h
  | onResponse nowUs port slaveId function data timestampUs =>
    rw [State.step, Spec.step]
    exact h.onResponse nowUs port slaveId function data timestampUs
  | clearPending port =>
    rw [State.step, State.clearPending, Spec.step]
    split
    · exact h.consume _
    · exact h

lemma Spec.map_onResponse (cell : UInt16 → UInt16 → β) (hon : a.allocated = true) {port : UInt8}
    (hport : port.toNat < bridgesCount) (hpend : a.pending ⟨port.toNat, hport⟩ = some r)
    (hlen : 4 ≤ data.length) (hans : r.answeredBy r.slaveId r.function data)
    (nowUs timestampUs : Nat) :
    (a.step cell (.onResponse nowUs port r.slaveId r.function data timestampUs)).map =
      SlotTable.insertWhile maxEntries (r.cells cell (nowS16 nowUs) data) a.map := by
  simp [Spec.step, Spec.file, Spec.setPending, hport, hpend, hans, hon, Nat.not_lt.2 hlen]

lemma Spec.onRequest_of_cacheable (cell : UInt16 → UInt16 → β) (a : Spec β) {port : UInt8}
    (hport : port.toNat < bridgesCount) (hr : requestIsCacheable r.function r.startReg r.count) :
    a.step cell (.onRequest port r.slaveId r.function r.startReg r.count) =
      a.setPending ⟨port.toNat, hport⟩ (some r) := by
  simp only [Spec.step, dif_pos hport, if_pos hr]

lemma refines_run (cell : UInt16 → UInt16 → β) (ops : List Op) :
    Refines cell (ops.foldl State.step (State.init true)) (ops.foldl (Spec.step cell) Spec.init) :=
  List.foldl_rel refines_init fun op _ _ _ h => h.step op

/-! ## The pool and the map -/

/-- The used slots are those in front. -/
def Pool.DensePrefix (pool : Pool) : Prop :=
  ∃ n, (∀ e ∈ pool.slots.take n, e.used = true) ∧ ∀ e ∈ pool.slots.drop n, e.used = false

/-- The keys that have a slot. -/
def Pool.keys (pool : Pool) : List Key := pool.slots.filterMap CacheEntry.key?

lemma Refines.findEntry_eq (h : Refines cell s a) (k : Key) :
    (s.pool.bind fun pool => findEntry k.slaveId k.function k.address pool.slots).map
      (CacheEntry.kept cell) = a.map.lookup k := by
  cases hpool : s.pool with
  | none => rw [h.map_of_none hpool]; rfl
  | some pool =>
    rw [Option.bind_some, findEntry_eq_find]
    exact (h.represents pool hpool).find_eq k

lemma Refines.mem_keys (h : Refines cell s a) {pool : Pool} (hpool : s.pool = some pool)
    (hk : k ∈ pool.keys) : k ∈ a.map := by
  rw [← Finmap.mem_keys, (h.represents pool hpool).keys_eq, List.mem_toFinset]
  exact hk

/-- After any sequence of calls the used entries are a dense prefix of the pool with distinct keys
of the four read functions, and a lookup without a timeout finds exactly what the map holds. -/
theorem pool_refines_map (ops : List Op) :
    (∀ pool, (ops.foldl State.step (State.init true)).pool = some pool →
      pool.DensePrefix ∧ pool.keys.Nodup ∧ (∀ k ∈ pool.keys, 1 ≤ k.function ∧ k.function ≤ 4) ∧
        pool.keys.length ≤ maxEntries) ∧
    ∀ nowUs slaveId function address value,
      (ops.foldl State.step (State.init true)).lookup nowUs slaveId function address 0 =
          .found value ↔
        (ops.foldl (Spec.step fun value _ => value) Spec.init).map.lookup
          ⟨slaveId, function, address⟩ = some value := by
  have h := refines_run (fun value _ => value) ops
  refine ⟨fun pool hpool => ⟨?_, ?_, ?_, ?_⟩, fun nowUs slaveId function address value => ?_⟩
  · obtain ⟨n, hused, hfree⟩ := (h.represents pool hpool).wellFormed.exists_take_drop
    refine ⟨n, fun e he => ?_, fun e he => key?_eq_none.1 (hfree e he)⟩
    simpa using mt key?_eq_none.2 (hused e he)
  · exact (h.represents pool hpool).wellFormed.distinct
  · intro k hk
    simpa [fcIsCacheable] using h.readKeys k (h.mem_keys hpool hk)
  · exact (List.length_filterMap_le ..).trans pool.length_slots.le
  · have hfind := h.findEntry_eq ⟨slaveId, function, address⟩
    rw [← hfind, State.lookup, h.mutex]
    by_cases hfc : fcIsCacheable function
    · simp only [hfc, Bool.not_true, Bool.or_self, Bool.false_eq_true, if_false]
      split
      · rename_i hnone
        simp [hnone]
      · rename_i e he
        simp [he, CacheEntry.kept]
    · -- nothing is held under another function code
      have hnone : (ops.foldl (Spec.step fun value _ => value) Spec.init).map.lookup
          ⟨slaveId, function, address⟩ = none := by
        rw [Finmap.lookup_eq_none]
        exact fun hk => hfc (h.readKeys _ hk)
      simp [hfc, hfind, hnone]

/-- On a cache that is off a response is matched with its request and passes the grammar check, so
a map that files it regardless holds its value; the lookup does not find it. -/
theorem lookup_responseWhileOff :
    let s := (State.init true).onRequest 0 1 3 100 1
    let a := (Spec.init (β := UInt16)).step (fun value _ => value) (.onRequest 0 1 3 100 1)
    let frame := [1, 3, 2, 0x12, 0x34, 0xB5, 0x33]
    let port : Fin bridgesCount := ⟨0, by decide⟩
    (s.accepts port 1 3 frame).isSome ∧
      (a.file (fun value _ => value) port 1 3 frame 0).map.lookup ⟨1, 3, 100⟩ = some 0x1234 ∧
      (s.onResponse 0 0 1 3 frame 0).lookup 0 1 3 100 0 = .notFound := by
  decide

end WbMge.Cache
