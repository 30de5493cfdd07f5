import WbMge.Cache.Server
import WbMge.Cache.Stores

/-!
# Refreshing a full pool

Once all slots are used, the loop of `cache_multimaster_on_response` ends at the first address that
is new. The addresses behind it keep their old value and stamp, whether or not the pool holds them,
and are counted as dropped.

An address that the pool holds is refreshed exactly when the new addresses in front of it fit into
the free slots. The counter grows by the number of values not stored in every case.
-/

namespace WbMge.Cache

/-! ## The effect of an answer -/

section Answer

variable {β : Type*} {cell : UInt16 → UInt16 → β} {s : State} {a : Spec β} {r : ReadReq}
  {port : UInt8} {data : Bytes}

lemma Refines.accepts_of_pending (h : Refines cell s a) (hport : port.toNat < bridgesCount)
    (hpend : (s.pending ⟨port.toNat, hport⟩).toReq? = some r) (hlen : 4 ≤ data.length)
    (hans : r.answeredBy r.slaveId r.function data) :
    ∃ p, s.accepts ⟨port.toNat, hport⟩ r.slaveId r.function data = some p ∧
      p.startReg = r.startReg ∧ p.count = r.count := by
  refine ⟨s.pending ⟨port.toNat, hport⟩, ?_, ?_⟩
  · rw [h.accepts_eq _ _ _ hlen, ← h.pending, hpend, Option.any_some, if_pos hans]
  · rw [PendingReq.toReq?] at hpend
    split at hpend
    · obtain rfl := Option.some.inj hpend
      exact ⟨rfl, rfl⟩
    · cases hpend

lemma Refines.stores_onResponse (h : Refines cell s a) {pool : Pool} (hpool : s.pool = some pool)
    (hport : port.toNat < bridgesCount)
    (hpend : (s.pending ⟨port.toNat, hport⟩).toReq? = some r)
    (hr : requestIsCacheable r.function r.startReg r.count) (hlen : 4 ≤ data.length)
    (hans : r.answeredBy r.slaveId r.function data) (nowUs timestampUs : Nat) :
    let n := SlotTable.accepted maxEntries (r.cells cell (nowS16 nowUs) data) a.map
    s.stores (.onResponse nowUs port r.slaveId r.function data timestampUs) =
        (List.range n).map r.key ∧
      (s.step (.onResponse nowUs port r.slaveId r.function data timestampUs)).entriesDropped =
        s.entriesDropped + UInt32.ofNat (r.count.toNat - n) := by
  intro n
  obtain ⟨p, hacc, hstart, hcount⟩ := h.accepts_of_pending hport hpend hlen hans
  -- the store loop against the bounded map: what it stored, and how often it found no slot
  have hloop := storedFrom_eq (requestIsCacheable_iff.1 hr).1 (nowS16 nowUs)
    (responseValue r.function data) r.count.toNat 0 (h.represents pool hpool)
  rw [pool.length_slots, ← List.range_eq_range'] at hloop
  obtain ⟨hstored, hdropped⟩ := hloop
  constructor
  · simp only [State.stores, dif_pos hport, hacc, hpool, Pool.storedKeys, hstart, hcount, hstored,
      ← List.range_eq_range']
    rfl
  · have hcons : (s.consume ⟨port.toNat, hport⟩).pool = some pool := hpool
    simp only [State.step, State.onResponse, dif_pos hport, if_neg (Nat.not_lt.2 hlen), hacc,
      State.store, hcons, hstart, hcount]
    rw [Nat.eq_sub_of_add_eq hdropped]
    rfl

end Answer

/-! ## Refreshing -/

section Refresh

variable {s : State} {a : Spec (UInt16 × UInt16)} {r : ReadReq} {port : UInt8} {data : Bytes}

/-- The number of addresses in front of offset `i` of a range that the pool does not hold. -/
def Pool.missing (pool : Pool) (r : ReadReq) (i : Nat) : Nat :=
  (List.range i).countP fun j => r.key j ∉ pool.keys

variable {pool : Pool}

lemma Refines.mem_keys_iff (h : Refines Prod.mk s a) (hpool : s.pool = some pool) {k : Key} :
    k ∈ pool.keys ↔ k ∈ a.map := by
  rw [← Finmap.mem_keys, (h.represents pool hpool).keys_eq, List.mem_toFinset]
  rfl

lemma Refines.entry_onResponse (h : Refines Prod.mk s a) (hpool : s.pool = some pool)
    (hport : port.toNat < bridgesCount) (hpend : (s.pending ⟨port.toNat, hport⟩).toReq? = some r)
    (hr : requestIsCacheable r.function r.startReg r.count) (hlen : 4 ≤ data.length)
    (hans : r.answeredBy r.slaveId r.function data) (nowUs timestampUs : Nat) {i : Nat}
    (hi : i < r.count.toNat) (hheld : r.key i ∈ pool.keys) :
    (s.step (.onResponse nowUs port r.slaveId r.function data timestampUs)).entry (r.key i) =
      if pool.missing r i ≤ maxEntries - pool.keys.length then
        some (responseValue r.function data i, nowS16 nowUs)
      else s.entry (r.key i) := by
  have hon : a.allocated = true := by rw [h.allocated, hpool]; rfl
  have hmap := Spec.map_onResponse Prod.mk hon hport (h.pending _ ▸ hpend) hlen hans nowUs
    timestampUs
  rw [(h.step _).entry_eq, h.entry_eq, hmap]
  -- the cells of the range, and the one at offset `i`
  have hfst : (r.cells Prod.mk (nowS16 nowUs) data).map Prod.fst =
      (List.range r.count.toNat).map r.key := by
    simp [ReadReq.cells, Function.comp_def]
  have hcell : (r.cells Prod.mk (nowS16 nowUs) data)[i]? =
      some (r.key i, responseValue r.function data i, nowS16 nowUs) := by
    simp [ReadReq.cells, hi]
  have hnodup := nodup_keys hr
  rw [← hfst] at hnodup
  -- the number of keys held, and of those missing in front of offset `i`
  have hcard : a.map.keys.card = pool.keys.length := (h.represents pool hpool).card_keys
  have hkeys : pool.keys.length ≤ maxEntries :=
    (List.length_filterMap_le ..).trans pool.length_slots.le
  have hmissing : ((r.cells Prod.mk (nowS16 nowUs) data).take i).countP
      (fun kv => decide (kv.1 ∉ a.map)) = pool.missing r i := by
    rw [ReadReq.cells, ← List.map_take, List.countP_map, List.take_range,
      Nat.min_eq_left hi.le, Pool.missing]
    refine List.countP_congr fun j _ => ?_
    simp [h.mem_keys_iff hpool]
  have hiff := SlotTable.lt_accepted_iff hnodup (hcard.trans_le hkeys) hcell
    ((h.mem_keys_iff hpool).1 hheld)
  rw [hcard, hmissing] at hiff
  split
  · rename_i hfit
    exact SlotTable.lookup_insertWhile_of_lt hnodup hcell (hiff.2 (by omega))
  -- the loop has stopped before this offset
  rename_i hfit
  rw [← SlotTable.insertWhile_take_accepted]
  refine SlotTable.lookup_insertWhile_of_notMem fun hmem => ?_
  rw [List.map_take, hfst, ← List.map_take, List.take_range] at hmem
  obtain ⟨j, hj, hkey⟩ := List.mem_map.1 hmem
  have hji : j = i := List.inj_on_of_nodup_map (hfst ▸ hnodup)
    (List.mem_range.2 ((List.mem_range.1 hj).trans_le (Nat.min_le_right ..)))
    (List.mem_range.2 hi) hkey
  subst hji
  exact hfit (by have := hiff.1 ((List.mem_range.1 hj).trans_le (Nat.min_le_left ..)); omega)

lemma countP_range_le (n m : Nat) :
    (List.range m).countP (fun i => decide (n ≤ i)) = m - n := by
  induction m with
  | zero => simp
  | succ m ih =>
    rw [List.range_succ, List.countP_append, ih, List.countP_singleton]
    split
    · rename_i hle
      have := of_decide_eq_true hle
      omega
    · rename_i hlt
      have : ¬ n ≤ m := fun hle => hlt (decide_eq_true hle)
      omega

lemma Refines.entriesDropped_onResponse (h : Refines Prod.mk s a) (hpool : s.pool = some pool)
    (hport : port.toNat < bridgesCount) (hpend : (s.pending ⟨port.toNat, hport⟩).toReq? = some r)
    (hr : requestIsCacheable r.function r.startReg r.count) (hlen : 4 ≤ data.length)
    (hans : r.answeredBy r.slaveId r.function data) (nowUs timestampUs : Nat) :
    let op := Op.onResponse nowUs port r.slaveId r.function data timestampUs
    (s.step op).entriesDropped = s.entriesDropped +
      UInt32.ofNat ((List.range r.count.toNat).countP fun i => r.key i ∉ s.stores op) := by
  intro op
  obtain ⟨hstores, hdropped⟩ := h.stores_onResponse hpool hport hpend hr hlen hans nowUs timestampUs
  have hn := SlotTable.accepted_le maxEntries (r.cells Prod.mk (nowS16 nowUs) data) a.map
  have hcells : (r.cells Prod.mk (nowS16 nowUs) data).length = r.count.toNat := by
    simp [ReadReq.cells]
  rw [hcells] at hn
  generalize SlotTable.accepted maxEntries (r.cells Prod.mk (nowS16 nowUs) data) a.map = n
    at hstores hdropped hn
  rw [hdropped, hstores]
  congr 2
  -- the offsets stored are those below `n`
  have hmem : ∀ i ∈ List.range r.count.toNat, (r.key i ∉ (List.range n).map r.key ↔ n ≤ i) := by
    intro i hi
    rw [← not_lt, not_iff_not, List.mem_map]
    constructor
    · rintro ⟨j, hj, hkey⟩
      have hjn := List.mem_range.1 hj
      rwa [← List.inj_on_of_nodup_map (nodup_keys hr) (List.mem_range.2 (hjn.trans_le hn)) hi hkey]
    · exact fun hlt => ⟨i, List.mem_range.2 hlt, rfl⟩
  rw [List.countP_congr (q := fun i => decide (n ≤ i)) fun i hi => by simpa using hmem i hi,
    countP_range_le]

end Refresh

/-- A response to the pending request refreshes every address of its range that the pool holds, and
the counter of dropped values grows by the number of values not stored, exactly when for each of
these addresses the new addresses in front of it fit into the free slots, or the pool holds just the
value and the stamp that the response brings. -/
theorem refreshed_iff (ops : List Op) {pool : Pool}
    (hpool : (ops.foldl State.step (State.init true)).pool = some pool) {port : UInt8}
    (hport : port.toNat < bridgesCount) {r : ReadReq}
    (hpend : ((ops.foldl State.step (State.init true)).pending ⟨port.toNat, hport⟩).toReq? = some r)
    {data : Bytes} (hans : r.answeredBy r.slaveId r.function data) (nowUs timestampUs : Nat) :
    let s := ops.foldl State.step (State.init true)
    let op := Op.onResponse nowUs port r.slaveId r.function data timestampUs
    ((∀ i < r.count.toNat, r.key i ∈ pool.keys →
        (s.step op).entry (r.key i) = some (responseValue r.function data i, nowS16 nowUs)) ∧
      (s.step op).entriesDropped = s.entriesDropped +
        UInt32.ofNat ((List.range r.count.toNat).countP fun i => r.key i ∉ s.stores op)) ↔
    ∀ i < r.count.toNat, r.key i ∈ pool.keys →
      pool.missing r i ≤ maxEntries - pool.keys.length ∨
        s.entry (r.key i) = some (responseValue r.function data i, nowS16 nowUs) := by
  intro s op
  have h := refines_run Prod.mk ops
  have hr := h.cacheable _ r (h.pending _ ▸ hpend)
  have hlen := length_of_answeredBy hr hans
  -- the counter is right in any case, so only the entries are left to compare
  rw [and_iff_left (h.entriesDropped_onResponse hpool hport hpend hr hlen hans nowUs timestampUs)]
  refine forall_congr' fun i => forall_congr' fun hi => forall_congr' fun hheld => ?_
  rw [h.entry_onResponse hpool hport hpend hr hlen hans nowUs timestampUs hi hheld]
  split
  · rename_i hfit
    exact iff_of_true rfl (Or.inl hfit)
  · -- the loop stopped in front of this address: the entry is what it was
    rename_i hfit
    rw [or_iff_right hfit]

/-- Register 100 is held and 99 is new; the pool has room, so a read of both refreshes 100. -/
theorem refreshed_iff_oneHeld :
    let ops : List Op := [.enable 0 true, .onRequest 0 1 3 100 1,
      .onResponse 0 0 1 3 [1, 3, 2, 0x12, 0x34] 0, .onRequest 0 1 3 99 2]
    let s := ops.foldl State.step (State.init true)
    let op := Op.onResponse 1000000 0 1 3 [1, 3, 4, 0x00, 0x01, 0x56, 0x78] 1000000
    s.entry ⟨1, 3, 100⟩ = some (0x1234, 0) ∧ (s.step op).entry ⟨1, 3, 100⟩ = some (0x5678, 1) := by
  intro ops s op
  have hsome : s.pool.isSome := by decide +kernel
  obtain ⟨pool, hpool⟩ := Option.isSome_iff_exists.1 hsome
  have hkeys : s.pool.map Pool.keys = some [⟨1, 3, 100⟩] := by decide +kernel
  rw [hpool, Option.map_some, Option.some.injEq] at hkeys
  have hpend : (s.pending ⟨(0 : UInt8).toNat, by decide⟩).toReq? = some ⟨1, 3, 99, 2⟩ := by
    decide +kernel
  have hans : (⟨1, 3, 99, 2⟩ : ReadReq).answeredBy 1 3 [1, 3, 4, 0x00, 0x01, 0x56, 0x78] := by
    decide
  have hrefreshed := (refreshed_iff ops hpool (by decide) hpend hans 1000000 1000000).2
    fun i hi _ => Or.inl (by
      have hle : pool.missing ⟨1, 3, 99, 2⟩ i ≤ i :=
        List.countP_le_length.trans_eq List.length_range
      have hi' : i < 2 := hi
      simp only [hkeys, maxEntries, List.length_singleton]
      omega)
  exact ⟨by decide +kernel, hrefreshed.1 1 (by decide) (by rw [hkeys]; decide)⟩

/-! ## A full pool -/

/-- A read of `r` on the bus, all values zero. -/
def zeroRead (r : ReadReq) : List Op :=
  [.onRequest 0 r.slaveId r.function r.startReg r.count,
    .onResponse 0 0 r.slaveId r.function (r.response (List.replicate r.numBytes 0) []) 0]

def fillOps : List Op :=
  .enable 0 true ::
    (zeroRead ⟨1, 1, 1, 2000⟩ ++ zeroRead ⟨1, 1, 2001, 2000⟩ ++ zeroRead ⟨1, 1, 4001, 96⟩)

/-- Coil `1 + i` of slave 1. -/
def coilKey (i : Nat) : Key := ⟨1, 1, 1 + UInt16.ofNat i⟩

lemma key_eq_coilKey (lo : Nat) (count : UInt16) (i : Nat) :
    ReadReq.key ⟨1, 1, UInt16.ofNat (1 + lo), count⟩ i = coilKey (lo + i) := by
  simp only [ReadReq.key, coilKey, UInt16.ofNat_add, UInt16.add_assoc]
  rfl

lemma nodup_coilKeys {n : Nat} (hn : n < 65536) :
    ((List.range n).map coilKey).Nodup ∧ ⟨1, 1, 0⟩ ∉ (List.range n).map coilKey := by
  constructor
  · refine List.Nodup.map_on (fun i hi j hj hij => ?_) List.nodup_range
    rw [List.mem_range] at hi hj
    have haddr := congrArg (fun k => k.address.toNat) hij
    simp only [coilKey, UInt16.toNat_add, UInt16.toNat_ofNat', UInt16.toNat_one] at haddr
    omega
  · intro hmem
    obtain ⟨i, hi, hkey⟩ := List.mem_map.1 hmem
    rw [List.mem_range] at hi
    have haddr := congrArg (fun k => k.address.toNat) hkey
    simp only [coilKey, UInt16.toNat_add, UInt16.toNat_ofNat', UInt16.toNat_one,
      UInt16.toNat_zero] at haddr
    omega

/-- The cache is on and holds the first `n` coils behind coil 0, all off and stored in second 0. -/
structure HoldsCoils (a : Spec (UInt16 × UInt16)) (n : Nat) : Prop where
  allocated : a.allocated = true
  keys : a.map.keys = ((List.range n).map coilKey).toFinset
  zero : ∀ k v, a.map.lookup k = some v → v = (0, 0)

lemma responseValue_zeros {r : ReadReq} {i : Nat} (hi : i < r.count.toNat) :
    responseValue r.function (r.response (List.replicate r.numBytes 0) []) i = 0 := by
  have hbyte : ∀ j, byteAt (List.replicate r.numBytes 0) j = 0 := fun j => by
    simp [byteAt, List.getElem?_replicate]
    split <;> rfl
  rw [responseValue_response [] List.length_replicate hi, payloadValue]
  simp [bitAt, hbyte, u16be]

lemma HoldsCoils.zeroRead {a : Spec (UInt16 × UInt16)} {lo : Nat} (h : HoldsCoils a lo) {n : Nat}
    (hn : 0 < n ∧ n ≤ 2000) (hle : lo + n ≤ maxEntries) :
    HoldsCoils ((zeroRead ⟨1, 1, UInt16.ofNat (1 + lo), UInt16.ofNat n⟩).foldl
      (Spec.step Prod.mk) a) (lo + n) := by
  let r : ReadReq := ⟨1, 1, UInt16.ofNat (1 + lo), UInt16.ofNat n⟩
  have hmax : maxEntries = 4096 := rfl
  have hcount : r.count.toNat = n := by
    simp only [r, UInt16.toNat_ofNat']
    omega
  have hr : requestIsCacheable r.function r.startReg r.count := by
    refine requestIsCacheable_iff.2 ⟨rfl, by omega, ?_, ?_⟩
    · rw [hcount]
      exact hn.2
    · simp only [hcount, r, UInt16.toNat_ofNat']
      omega
  have hans := answeredBy_response hr []
    (List.length_replicate : (List.replicate r.numBytes (0 : UInt8)).length = r.numBytes)
  have hlen := length_of_answeredBy hr hans
  -- the request is pending when its answer comes
  have hport : (0 : UInt8).toNat < bridgesCount := by decide
  let a' := a.step Prod.mk (.onRequest 0 r.slaveId r.function r.startReg r.count)
  have ha' : a' = a.setPending ⟨(0 : UInt8).toNat, hport⟩ (some r) :=
    Spec.onRequest_of_cacheable Prod.mk a hport hr
  have hpend : a'.pending ⟨(0 : UInt8).toNat, hport⟩ = some r := by
    simp only [ha', Spec.setPending, Function.update_self]
  have hmap : a'.map = a.map := by rw [ha', Spec.setPending]
  have hon : a'.allocated = true := by rw [Spec.allocated_onRequest, h.allocated]
  have hfiled := Spec.map_onResponse Prod.mk hon hport hpend hlen hans 0 0
  rw [hmap] at hfiled
  -- the coils held and those read are an initial stretch of all coils, which fits
  have hfst : (r.cells Prod.mk (nowS16 0) (r.response (List.replicate r.numBytes 0) [])).map
      Prod.fst = (List.range r.count.toNat).map r.key := by
    simp [ReadReq.cells, Function.comp_def]
  have hunion : a.map.keys ∪ ((List.range r.count.toNat).map r.key).toFinset =
      ((List.range (lo + n)).map coilKey).toFinset := by
    rw [h.keys, hcount, List.range_add, List.map_append, List.toFinset_append, List.map_map]
    congr 3
    exact funext fun i => key_eq_coilKey lo _ i
  have hfit : (a.map.keys ∪ ((List.range r.count.toNat).map r.key).toFinset).card ≤ maxEntries := by
    rw [hunion]
    refine (List.toFinset_card_le _).trans ?_
    rwa [List.length_map, List.length_range]
  rw [Cache.zeroRead, List.foldl_cons, List.foldl_cons, List.foldl_nil]
  refine ⟨(Spec.allocated_onResponse ..).trans hon, ?_, fun k v hv => ?_⟩
  · refine (congrArg Finmap.keys hfiled).trans ?_
    rw [SlotTable.keys_insertWhile (hfst ▸ nodup_keys hr) (hfst ▸ hfit), hfst, hunion]
  · rw [hfiled] at hv
    by_cases hk : k ∈ (List.range r.count.toNat).map r.key
    · obtain ⟨i, hi, rfl⟩ := List.mem_map.1 hk
      have hcell := SlotTable.lookup_insertWhile (hfst ▸ nodup_keys hr) (hfst ▸ hfit)
        (r.key i, responseValue r.function (r.response (List.replicate r.numBytes 0) []) i,
          nowS16 0)
        (List.mem_map.2 ⟨i, hi, rfl⟩)
      rw [responseValue_zeros (List.mem_range.1 hi)] at hcell
      exact Option.some.inj (hv.symm.trans hcell)
    · rw [SlotTable.lookup_insertWhile_of_notMem (hfst ▸ hk)] at hv
      exact h.zero k v hv

lemma holdsCoils_fillOps :
    HoldsCoils (fillOps.foldl (Spec.step Prod.mk) Spec.init) maxEntries := by
  have h₀ : HoldsCoils (Spec.init.step Prod.mk (.enable 0 true)) 0 :=
    ⟨rfl, rfl, fun k v hv => by cases hv⟩
  have h₁ := h₀.zeroRead (n := 2000) (by decide) (by decide)
  have h₂ := h₁.zeroRead (n := 2000) (by decide) (by decide)
  have h₃ := h₂.zeroRead (n := 96) (by decide) (by decide)
  rw [fillOps, List.foldl_cons, List.foldl_append, List.foldl_append]
  exact h₃

/-- The pool holds coils 1 to 4096 of slave 1, all off, and is full. A master reads coils 0 and 1,
both on: coil 0 finds no slot, and coil 1 keeps its old value and stamp although it has an entry. -/
theorem refreshed_notBehindNew :
    let s := (fillOps ++ [Op.onRequest 0 1 1 0 2]).foldl State.step (State.init true)
    let r : ReadReq := ⟨1, 1, 0, 2⟩
    let data : Bytes := [1, 1, 1, 0x03, 0x11, 0x89]
    let s' := s.step (.onResponse 1000000 0 1 1 data 1000000)
    (s.pending ⟨0, by decide⟩).toReq? = some r ∧ r.answeredBy 1 1 data ∧
      responseValue 1 data 1 = 1 ∧ s.entry ⟨1, 1, 1⟩ = some (0, 0) ∧
      s'.entry ⟨1, 1, 1⟩ = some (0, 0) := by
  intro s r data s'
  have hcoils := holdsCoils_fillOps
  have h : Refines Prod.mk s _ := refines_run Prod.mk (fillOps ++ [Op.onRequest 0 1 1 0 2])
  rw [List.foldl_append, List.foldl_cons, List.foldl_nil] at h
  generalize fillOps.foldl (Spec.step Prod.mk) Spec.init = a at hcoils h
  have hmap : (a.step Prod.mk (.onRequest 0 1 1 0 2)).map = a.map := rfl
  have hpend : (s.pending ⟨(0 : UInt8).toNat, by decide⟩).toReq? = some r := by
    rw [h.pending]
    rfl
  obtain ⟨pool, hpool⟩ : ∃ pool, s.pool = some pool := by
    rw [← Option.isSome_iff_exists, ← h.allocated]
    exact hcoils.allocated
  obtain ⟨hnodup, hzero⟩ := nodup_coilKeys (n := maxEntries) (by decide)
  have hmem : ∀ k, k ∈ pool.keys ↔ k ∈ (List.range maxEntries).map coilKey := fun k => by
    rw [h.mem_keys_iff hpool, hmap, ← Finmap.mem_keys, hcoils.keys, List.mem_toFinset]
  have hheld : r.key 1 ∈ pool.keys :=
    (hmem _).2 (List.mem_map.2 ⟨0, List.mem_range.2 (by decide), rfl⟩)
  -- the pool is full, and coil 0 stands in front of coil 1
  have hfull : pool.keys.length = maxEntries := by
    rw [← show _ = pool.keys.length from (h.represents pool hpool).card_keys, hmap, hcoils.keys,
      List.toFinset_card_of_nodup hnodup, List.length_map, List.length_range]
  have hmissing : pool.missing r 1 = 1 := by
    have hnot : r.key 0 ∉ pool.keys := fun hk => hzero ((hmem _).1 hk)
    simp [Pool.missing, List.range_succ, hnot]
  have hentry : s.entry (r.key 1) = some (0, 0) := by
    obtain ⟨v, hv⟩ := Finmap.mem_iff.1 ((h.mem_keys_iff hpool).1 hheld)
    rw [h.entry_eq, hv, hcoils.zero _ v hv]
  have hans : r.answeredBy r.slaveId r.function data := by decide
  refine ⟨hpend, hans, by decide, hentry, ?_⟩
  have hafter := h.entry_onResponse hpool (by decide) hpend (by decide) (by decide) hans 1000000
    1000000 (i := 1) (by decide) hheld
  rw [if_neg (by rw [hmissing, hfull]; decide), hentry] at hafter
  exact hafter

end WbMge.Cache
