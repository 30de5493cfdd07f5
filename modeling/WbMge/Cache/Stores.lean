import WbMge.Cache.Refinement

/-!
# What a response stores, and when

`cache_multimaster_on_response` walks over the addresses of the pending request, finds or claims the
entry of each one, and stops at the first address that finds the pool full. `State.stores` is the
list of keys a call stores a value under, and `History` is a state together with the clock of the
last store of each key.

The stamp of an entry is the low 16 bits of the second counter at that store (`Dated`), so a lookup
sees the number of seconds since then modulo `2 ^ 16`.
-/

namespace WbMge.Cache

/-! ## The store loop -/

/-- The offsets at which the loop of `cache_multimaster_on_response` sets an entry, from offset `i`
on, `n` values still to go. The recursion is that of `storeFrom`. -/
def storedFrom (stampS : UInt16) (slaveId typeValue : UInt8) (startAddr : UInt16)
    (value : Nat → UInt16) : Nat → Nat → List CacheEntry → List Nat
  | 0, _, _ => []
  | n + 1, i, slots =>
    match findOrAllocEntry stampS slaveId typeValue (startAddr + UInt16.ofNat i) slots with
    | none => []
    | some (k, slots) =>
      i :: storedFrom stampS slaveId typeValue startAddr value n (i + 1)
        (slots.modify k fun e => { e with value := value i, stampS })

/-- What a free slot becomes when `k` is stored into it. -/
def Key.newEntry (k : Key) (value stampS : UInt16) : CacheEntry :=
  ⟨k.slaveId, usedBit ||| k.function, k.address, value, stampS⟩

def CacheEntry.restamp (value stampS : UInt16) (e : CacheEntry) : CacheEntry :=
  { e with value, stampS }

variable {k : Key} {s : State} {function : UInt8} {h : History} {op : Op} {data : Bytes}

lemma key?_newEntry (hk : fcIsCacheable k.function) (value stampS : UInt16) :
    (k.newEntry value stampS).key? = some k := by
  obtain ⟨hused, hmask⟩ := packedType hk
  simp [Key.newEntry, CacheEntry.key?, CacheEntry.used, hused, hmask]

lemma storeFrom_rule {r : ReadReq} (stampS : UInt16) (value : Nat → UInt16)
    {P : List Nat → List CacheEntry → Prop}
    (hstep : ∀ {done slots i slots'}, P done slots →
      SlotTable.upsert CacheEntry.key? (r.key i) ((r.key i).newEntry (value i) stampS)
        (CacheEntry.restamp (value i) stampS) slots = some slots' → P (done ++ [i]) slots')
    (n i : Nat) {slots : List CacheEntry} (h : P [] slots) :
    P (storedFrom stampS r.slaveId r.function r.startReg value n i slots)
      (storeFrom stampS r.slaveId r.function r.startReg value n i slots).1 := by
  -- the rest of the loop keeps the property with the offset written now put in front
  induction n generalizing i slots P with
  | zero => exact h
  | succ n ih =>
    rw [storedFrom, storeFrom]
    cases hf : findOrAllocEntry stampS r.slaveId r.function (r.startReg + UInt16.ofNat i) slots with
    | none => exact h
    | some res =>
      have hwrite := findOrAllocEntry_modify (r.key i) (value i) stampS slots
      simp only [ReadReq.key, hf] at hwrite
      exact ih (P := fun done slots => P (i :: done) slots) (fun hd hw => hstep hd hw) (i + 1)
        (hstep h hwrite.symm)

lemma storedFrom_eq {β : Type*} {cell : UInt16 → UInt16 → β} {r : ReadReq}
    (hr : fcIsCacheable r.function) (stampS : UInt16) (value : Nat → UInt16) :
    ∀ (n i : Nat) {slots : List CacheEntry} {m : Finmap fun _ : Key => β},
      SlotTable.Represents CacheEntry.key? (CacheEntry.kept cell) slots m →
      let kvs := (List.range' i n).map fun i => (r.key i, cell (value i) stampS)
      storedFrom stampS r.slaveId r.function r.startReg value n i slots =
          List.range' i (SlotTable.accepted slots.length kvs m) ∧
        (storeFrom stampS r.slaveId r.function r.startReg value n i slots).2 +
          SlotTable.accepted slots.length kvs m = n
  | 0, _, _, _, _ => ⟨rfl, rfl⟩
  | n + 1, i, slots, m, h => by
    simp only [storedFrom, storeFrom, List.range'_succ, List.map_cons, SlotTable.accepted]
    obtain ⟨hf, hm⟩ | ⟨res, m', hf, hm, hrep, hlen⟩ :=
      findOrAllocEntry_represents h hr (value i) stampS i
    · rw [hf, hm]
      exact ⟨rfl, rfl⟩
    obtain ⟨hstored, hdropped⟩ := storedFrom_eq hr stampS value n (i + 1) hrep
    rw [hlen] at hstored hdropped
    rw [hf, hm]
    refine ⟨?_, ?_⟩
    · rw [List.range'_succ]
      exact congrArg (i :: ·) hstored
    · exact (Nat.add_assoc ..).symm.trans (congrArg (· + 1) hdropped)

/-! ## What a call stores -/

def Pool.storedKeys (pool : Pool) (nowUs : Nat) (slaveId function : UInt8)
    (startAddr count : UInt16) (data : Bytes) : List Key :=
  (storedFrom (nowS16 nowUs) slaveId function startAddr (responseValue function data) count.toNat 0
    pool.slots).map fun i => ⟨slaveId, function, startAddr + UInt16.ofNat i⟩

/-- The keys that a call stores a value under. -/
def State.stores (s : State) : Op → List Key
  | .onResponse nowUs port slaveId function data _ =>
    if h : port.toNat < bridgesCount then
      match s.accepts ⟨port.toNat, h⟩ slaveId function data, s.pool with
      | some p, some pool => pool.storedKeys nowUs slaveId function p.startReg p.count data
      | _, _ => []
    else []
  | _ => []

/-- Value and stamp stored under a key. -/
def State.entry (s : State) (k : Key) : Option (UInt16 × UInt16) :=
  (s.pool.bind fun pool => findEntry k.slaveId k.function k.address pool.slots).map fun e =>
    (e.value, e.stampS)

lemma Refines.entry_eq {a : Spec (UInt16 × UInt16)} (h : Refines Prod.mk s a) (k : Key) :
    s.entry k = a.map.lookup k :=
  h.findEntry_eq k

/-! ## The time of the last store -/

/-- The clock of the last store of each key, after `ks` were stored at `nowUs`. -/
def recordStores (storedAt : Key → Option Nat) (ks : List Key) (nowUs : Nat) : Key → Option Nat :=
  fun k => if k ∈ ks then some nowUs else storedAt k

@[simp] lemma recordStores_nil (storedAt : Key → Option Nat) (nowUs : Nat) :
    recordStores storedAt [] nowUs = storedAt := by
  funext k
  simp [recordStores]

lemma recordStores_concat (storedAt : Key → Option Nat) (ks : List Key) (k : Key) (nowUs : Nat) :
    recordStores storedAt (ks ++ [k]) nowUs =
      Function.update (recordStores storedAt ks nowUs) k (some nowUs) := by
  funext k'
  by_cases hk : k' = k
  · simp [recordStores, hk]
  · simp [recordStores, hk]

/-- The slots are a well-formed table of values of the four read functions, and the stamp of an
entry is the second counter at the last store of its key. -/
structure Dated (storedAt : Key → Option Nat) (slots : List CacheEntry) : Prop where
  wellFormed : SlotTable.WellFormed CacheEntry.key? slots
  readFunction : ∀ e ∈ slots, ∀ k, e.key? = some k → fcIsCacheable k.function
  stamped : ∀ e ∈ slots, ∀ k, e.key? = some k → ∃ t, storedAt k = some t ∧ e.stampS = nowS16 t

lemma dated_zeroed (storedAt : Key → Option Nat) : Dated storedAt Pool.zeroed.slots := by
  have hfree : ∀ e ∈ Pool.zeroed.slots, e.key? = none := fun e he => by
    rw [List.eq_of_mem_replicate he, key?_zero]
  have hempty : SlotTable.Represents CacheEntry.key? id Pool.zeroed.slots ∅ :=
    SlotTable.represents_empty hfree
  refine ⟨hempty.wellFormed, fun e he k hk => ?_, fun e he k hk => ?_⟩
  all_goals
    rw [hfree e he] at hk
    cases hk

lemma Dated.upsert {storedAt : Key → Option Nat} {slots slots' : List CacheEntry}
    (h : Dated storedAt slots) {k : Key} (hk : fcIsCacheable k.function) (value : UInt16)
    (nowUs : Nat)
    (hwrite : SlotTable.upsert CacheEntry.key? k (k.newEntry value (nowS16 nowUs))
      (CacheEntry.restamp value (nowS16 nowUs)) slots = some slots') :
    Dated (Function.update storedAt k (some nowUs)) slots' := by
  obtain ⟨l₁, e, e', l₂, rfl, rfl, hl₁, he, he', hcase⟩ :=
    SlotTable.upsert_eq_some hwrite (key?_newEntry hk value _) fun _ he => he
  have hstamp : e'.stampS = nowS16 nowUs := by rcases hcase with rfl | rfl <;> rfl
  -- every other slot is an old one that holds another key
  have hother : ∀ x ∈ l₁ ++ e' :: l₂, x = e' ∨ x ∈ l₁ ++ e :: l₂ ∧ x.key? ≠ some k :=
    fun x hx => h.wellFormed.mem_replace hl₁ he hx
  refine ⟨h.wellFormed.replace hl₁ he he', fun x hx k' hk' => ?_, fun x hx k' hk' => ?_⟩
  · rcases hother x hx with rfl | ⟨hx, -⟩
    · exact Option.some.inj (he'.symm.trans hk') ▸ hk
    · exact h.readFunction x hx k' hk'
  · rcases hother x hx with rfl | ⟨hx, hne⟩
    · obtain rfl := Option.some.inj (he'.symm.trans hk')
      exact ⟨nowUs, Function.update_self .., hstamp⟩
    · obtain ⟨t, ht, hst⟩ := h.stamped x hx k' hk'
      refine ⟨t, ?_, hst⟩
      rw [Function.update_of_ne, ht]
      rintro rfl
      exact hne hk'

lemma Dated.store {storedAt : Key → Option Nat} {pool : Pool} (h : Dated storedAt pool.slots)
    (slaveId : UInt8) (hfc : fcIsCacheable function) (startAddr count : UInt16) (data : Bytes)
    (nowUs : Nat) :
    Dated
      (recordStores storedAt (pool.storedKeys nowUs slaveId function startAddr count data) nowUs)
      (storeFrom (nowS16 nowUs) slaveId function startAddr (responseValue function data)
        count.toNat 0 pool.slots).1 := by
  let r : ReadReq := ⟨slaveId, function, startAddr, count⟩
  refine storeFrom_rule (r := r) _ _
    (P := fun done slots => Dated (recordStores storedAt (done.map r.key) nowUs) slots)
    (fun {done _ i _} hd hwrite => ?_) count.toNat 0 (by simpa using h)
  rw [List.map_append, List.map_singleton, recordStores_concat]
  exact hd.upsert hfc _ nowUs hwrite

/-! ## Histories -/

def Op.clock? : Op → Option Nat
  | .enable nowUs _ | .disable nowUs | .clear nowUs => some nowUs
  | .onResponse nowUs _ _ _ _ _ => some nowUs
  | .onRequest .. | .clearPending _ => none

/-- A state and the clock of the last store of each key. -/
structure History where
  state : State
  storedAt : Key → Option Nat

def History.init : History := ⟨State.init true, fun _ => none⟩

def History.step (h : History) (op : Op) : History where
  state := h.state.step op
  storedAt := recordStores h.storedAt (h.state.stores op) (op.clock?.getD 0)

@[simp] lemma History.state_step (h : History) (op : Op) :
    (h.step op).state = h.state.step op := rfl

lemma History.storedAt_step (hop : h.state.stores op = []) :
    (h.step op).storedAt = h.storedAt := by
  simp [History.step, hop]

lemma fcIsCacheable_of_accepts {port : Fin bridgesCount} {slaveId : UInt8} {p : PendingReq}
    (h : s.accepts port slaveId function data = some p) : fcIsCacheable function := by
  simp only [State.accepts] at h
  split at h
  · rename_i hc
    simp only [Bool.and_eq_true] at hc
    exact hc.1.2
  · cases h

@[simp] lemma mutex_store (s : State) (nowUs : Nat) (slaveId function : UInt8)
    (startAddr count : UInt16) (data : Bytes) (timestampUs : Nat) :
    (s.store nowUs slaveId function startAddr count data timestampUs).mutex = s.mutex := by
  simp only [State.store]
  split <;> rfl

lemma pool_store_of_none (h : s.pool = none) (nowUs : Nat) (slaveId function : UInt8)
    (startAddr count : UInt16) (data : Bytes) (timestampUs : Nat) :
    (s.store nowUs slaveId function startAddr count data timestampUs).pool = none := by
  simp [State.store, h]

structure History.Inv (h : History) : Prop where
  mutex : h.state.mutex = true
  dated : ∀ pool, h.state.pool = some pool → Dated h.storedAt pool.slots

lemma History.Inv.init : History.init.Inv := ⟨rfl, fun _ hp => by cases hp⟩

lemma History.Inv.of_stores_nil {h : History} (hi : h.Inv) {op : Op}
    (hop : h.state.stores op = []) (hmutex : (h.state.step op).mutex = h.state.mutex)
    (hpool : (h.state.step op).pool = h.state.pool ∨ (h.state.step op).pool = none ∨
      (h.state.step op).pool = some .zeroed) : (h.step op).Inv := by
  refine ⟨hmutex.trans hi.mutex, fun pool hp => ?_⟩
  rw [History.storedAt_step hop]
  rw [History.state_step] at hp
  rcases hpool with hpool | hpool | hpool
  · exact hi.dated pool (hpool.symm.trans hp)
  · rw [hpool] at hp
    cases hp
  · rw [hpool] at hp
    obtain rfl := Option.some.inj hp
    exact dated_zeroed _

lemma History.Inv.onResponse (hi : h.Inv) (nowUs : Nat) (port slaveId function : UInt8)
    (data : Bytes) (timestampUs : Nat) :
    (h.step (.onResponse nowUs port slaveId function data timestampUs)).Inv := by
  by_cases hport : port.toNat < bridgesCount
  swap
  · exact hi.of_stores_nil (by simp [State.stores, hport]) (by simp [State.step, State.onResponse,
      hport]) (Or.inl (by simp [State.step, State.onResponse, hport]))
  cases hacc : h.state.accepts ⟨port.toNat, hport⟩ slaveId function data with
  | none =>
    -- a short frame is dropped at once, any other one takes the pending request with it
    have hstep : h.state.step (.onResponse nowUs port slaveId function data timestampUs) =
        if data.length < 4 then h.state else h.state.consume ⟨port.toNat, hport⟩ := by
      simp [State.step, State.onResponse, hport, hacc]
    refine hi.of_stores_nil (by simp [State.stores, hport, hacc]) ?_ (Or.inl ?_)
    all_goals
      rw [hstep]
      split <;> rfl
  | some p =>
    have hlen : ¬ data.length < 4 := fun hlt => by
      simp [State.accepts, Nat.not_le.2 hlt] at hacc
    have hstep : h.state.step (.onResponse nowUs port slaveId function data timestampUs) =
        (h.state.consume ⟨port.toNat, hport⟩).store nowUs slaveId function p.startReg p.count data
          timestampUs := by
      simp [State.step, State.onResponse, hport, hacc, hlen]
    have hmutex : (h.state.step (.onResponse nowUs port slaveId function data timestampUs)).mutex =
        h.state.mutex := by
      rw [hstep, mutex_store]
      rfl
    cases hpool : h.state.pool with
    | none =>
      -- the cache was disabled since the request
      refine hi.of_stores_nil (by simp [State.stores, hport, hacc, hpool]) hmutex
        (Or.inr (Or.inl ?_))
      rw [hstep]
      exact pool_store_of_none (s := h.state.consume ⟨port.toNat, hport⟩) hpool ..
    | some pool =>
      have hdated := (hi.dated pool hpool).store slaveId
        (fcIsCacheable_of_accepts hacc) p.startReg p.count data nowUs
      refine ⟨hmutex.trans hi.mutex, fun pool' hp => ?_⟩
      rw [History.state_step, hstep] at hp
      have hpool' : (h.state.consume ⟨port.toNat, hport⟩).pool = some pool := hpool
      simp only [State.store, hpool', Option.some.injEq] at hp
      subst hp
      simpa [History.step, State.stores, hport, hacc, hpool, Op.clock?] using hdated

lemma History.Inv.step {h : History} (hi : h.Inv) (op : Op) : (h.step op).Inv := by
  cases op with
  | enable nowUs allocOk =>
    refine hi.of_stores_nil rfl ?_ ?_
    · simp only [State.step, State.enable]
      split
      · rfl
      · split <;> rfl
    · simp only [State.step, State.enable]
      split
      · exact Or.inl rfl
      split
      · exact Or.inl rfl
      · -- a new pool, all zero
        exact Or.inr (Or.inr rfl)
  | disable nowUs =>
    refine hi.of_stores_nil rfl ?_ (Or.inr (Or.inl ?_))
    all_goals simp [State.step, State.disable, State.clear, hi.mutex]
  | clear nowUs =>
    refine hi.of_stores_nil rfl ?_ ?_
    · simp [State.step, State.clear, hi.mutex]
    · cases hpool : h.state.pool <;> simp [State.step, State.clear, hi.mutex, hpool]
  | onRequest port slaveId function startReg count =>
    refine hi.of_stores_nil rfl ?_ (Or.inl ?_)
    all_goals
      simp only [State.step, State.onRequest]
      split <;> rfl
  | onResponse nowUs port slaveId function data timestampUs => exact hi.onResponse ..
  | clearPending port =>
    refine hi.of_stores_nil rfl ?_ (Or.inl ?_)
    all_goals
      simp only [State.step, State.clearPending]
      split <;> rfl

lemma History.inv_run (ops : List Op) : (ops.foldl History.step .init).Inv :=
  List.foldlRecOn ops History.step History.Inv.init fun _ hi op _ => hi.step op

lemma History.state_run (ops : List Op) (h : History) :
    (ops.foldl History.step h).state = ops.foldl State.step h.state := by
  induction ops generalizing h with
  | nil => rfl
  | cons op ops ih => exact ih (h.step op)

lemma clock?_of_mem_stores (h : k ∈ s.stores op) : ∃ t, op.clock? = some t := by
  cases op with
  | onResponse nowUs => exact ⟨nowUs, rfl⟩
  | _ => exact absurd h List.not_mem_nil

lemma History.storedAt_run {ops : List Op} {t : Nat}
    (ht : (ops.foldl History.step h).storedAt k = some t) :
    h.storedAt k = some t ∨ ∃ op ∈ ops, op.clock? = some t := by
  induction ops generalizing h with
  | nil => exact Or.inl ht
  | cons op ops ih =>
    rcases ih ht with hstep | ⟨op', hop', hclock⟩
    · simp only [History.step, recordStores] at hstep
      split at hstep
      · rename_i hk
        obtain ⟨t', hclock⟩ := clock?_of_mem_stores hk
        rw [hclock, Option.getD_some] at hstep
        exact Or.inr ⟨op, List.mem_cons_self, hclock.trans hstep⟩
      · exact Or.inl hstep
    · exact Or.inr ⟨op', List.mem_cons_of_mem op hop', hclock⟩

/-! ## Freshness -/

lemma History.Inv.stampS_eq {h : History} (hi : h.Inv) {k : Key} {e : CacheEntry}
    (he : (h.state.pool.bind fun pool => findEntry k.slaveId k.function k.address pool.slots) =
      some e) : ∃ t, h.storedAt k = some t ∧ e.stampS = nowS16 t := by
  obtain ⟨pool, hpool, hfind⟩ := Option.bind_eq_some_iff.1 he
  have hdated := hi.dated pool hpool
  rw [findEntry_eq_find] at hfind
  obtain ⟨hmem, hkey⟩ := hdated.wellFormed.find_eq_some_iff.1 hfind
  exact hdated.stamped e hmem k hkey

lemma History.Inv.lookup_eq (hi : h.Inv) (nowUs : Nat) (k : Key) (valueTimeoutS : UInt16) :
    h.state.lookup nowUs k.slaveId k.function k.address valueTimeoutS = .notFound ∨
      ∃ t v, h.storedAt k = some t ∧
        h.state.lookup nowUs k.slaveId k.function k.address valueTimeoutS =
          if 0 < valueTimeoutS ∧ valueTimeoutS ≤ nowS16 nowUs - nowS16 t then .stale v
          else .found v := by
  by_cases hfc : fcIsCacheable k.function
  · cases he : h.state.pool.bind fun pool =>
        findEntry k.slaveId k.function k.address pool.slots with
    | none =>
      left
      simp [State.lookup, he]
    | some e =>
      obtain ⟨t, ht, hstamp⟩ := hi.stampS_eq he
      refine Or.inr ⟨t, e.value, ht, ?_⟩
      simp [State.lookup, hi.mutex, hfc, he, hstamp]
  · left
    simp [State.lookup, hfc]

/-- After any sequence of calls, a lookup with a timeout never returns a value as found when that
many whole seconds, but fewer than `2 ^ 16`, have passed since the last store of its key, and never
as stale when fewer have passed. -/
theorem lookup_freshness (ops : List Op) {nowUs : Nat}
    (hclock : ∀ op ∈ ops, ∀ t, op.clock? = some t → t ≤ nowUs) (slaveId function : UInt8)
    (address : UInt16) {valueTimeoutS : UInt16} (hpos : 1 ≤ valueTimeoutS) :
    let h := ops.foldl History.step .init
    (∀ v, h.state.lookup nowUs slaveId function address valueTimeoutS = .found v →
      ∃ t, h.storedAt ⟨slaveId, function, address⟩ = some t ∧
        ¬ (valueTimeoutS.toNat ≤ nowUs / 1000000 - t / 1000000 ∧
          nowUs / 1000000 - t / 1000000 < 65536)) ∧
    ∀ v, h.state.lookup nowUs slaveId function address valueTimeoutS = .stale v →
      ∃ t, h.storedAt ⟨slaveId, function, address⟩ = some t ∧
        ¬ nowUs / 1000000 - t / 1000000 < valueTimeoutS.toNat := by
  intro h
  have hpos' : 0 < valueTimeoutS := by
    rw [UInt16.lt_iff_toNat_lt]
    exact UInt16.le_iff_toNat_le.1 hpos
  rcases (History.inv_run ops).lookup_eq nowUs ⟨slaveId, function, address⟩ valueTimeoutS with
    hnone | ⟨t, v, ht, hlookup⟩
  · constructor <;> intro v hv <;> exact absurd (hnone.symm.trans hv) (by simp)
  · -- the key was stored by one of the calls, so not after now
    have hle : t ≤ nowUs := by
      rcases History.storedAt_run ht with hinit | ⟨op, hop, hop'⟩
      · cases hinit
      · exact hclock op hop t hop'
    have hage := toNat_age (Nat.div_le_div_right (c := 1000000) hle)
    have hstale : valueTimeoutS ≤ nowS16 nowUs - nowS16 t ↔
        valueTimeoutS.toNat ≤ (nowUs / 1000000 - t / 1000000) % 65536 := by
      rw [UInt16.le_iff_toNat_le, hage]
    refine ⟨fun v' hv' => ⟨t, ht, fun ⟨hreached, hlt⟩ => ?_⟩, fun v' hv' => ⟨t, ht, fun hlt => ?_⟩⟩
    · rw [Nat.mod_eq_of_lt hlt] at hstale
      have := (hlookup.trans (if_pos ⟨hpos', hstale.2 hreached⟩)).symm.trans hv'
      cases this
    · have hT := valueTimeoutS.toNat_lt
      rw [Nat.mod_eq_of_lt (by omega)] at hstale
      have := (hlookup.trans (if_neg fun hc => by have := hstale.1 hc.2; omega)).symm.trans hv'
      cases this

/-- Stored within second 2, asked in second 5 with a timeout of 3 and of 4 seconds. -/
theorem lookup_freshness_threeSeconds :
    let ops : List Op := [.enable 0 true, .onRequest 0 1 3 100 1,
      .onResponse 2900000 0 1 3 [1, 3, 2, 0x12, 0x34] 2800000]
    let h := ops.foldl History.step .init
    h.state.lookup 5000000 1 3 100 3 = .stale 0x1234 ∧
      h.state.lookup 5000000 1 3 100 4 = .found 0x1234 ∧
      (∃ t, h.storedAt ⟨1, 3, 100⟩ = some t ∧ ¬ 5000000 / 1000000 - t / 1000000 < 3) ∧
      ∃ t, h.storedAt ⟨1, 3, 100⟩ = some t ∧
        ¬ (4 ≤ 5000000 / 1000000 - t / 1000000 ∧ 5000000 / 1000000 - t / 1000000 < 65536) := by
  intro ops h
  have hclock : ∀ op ∈ ops, ∀ t, op.clock? = some t → t ≤ 5000000 := by decide
  have hstale : h.state.lookup 5000000 1 3 100 3 = .stale 0x1234 := by decide +kernel
  have hfound : h.state.lookup 5000000 1 3 100 4 = .found 0x1234 := by decide +kernel
  exact ⟨hstale, hfound, (lookup_freshness ops hclock 1 3 100 (by decide)).2 _ hstale,
    (lookup_freshness ops hclock 1 3 100 (by decide)).1 _ hfound⟩

/-- A value stored in second 0 and never again is found in second 65536 with a timeout of one
second: the 16-bit age is back at zero. -/
theorem lookup_afterWrap :
    let ops : List Op := [.enable 0 true, .onRequest 0 1 3 100 1,
      .onResponse 900000 0 1 3 [1, 3, 2, 0x12, 0x34] 900000]
    let h := ops.foldl History.step .init
    h.storedAt ⟨1, 3, 100⟩ = some 900000 ∧ 1 ≤ 65536000000 / 1000000 - 900000 / 1000000 ∧
      h.state.lookup 65536000000 1 3 100 1 = .found 0x1234 := by
  decide +kernel

end WbMge.Cache
