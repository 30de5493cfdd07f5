import WbMge.Cache.Export

/-!
# The JSON export

`cache_json_handler` against any sequence of sections of the other tasks. The keys of the occupied
slots do not move as long as the pool is not reset, and the generation counts the resets. So the
rows of a stream are the keys of a front part of the pool for as long as the generation is the
captured one (`Streamed`), and the comma in front of a row says whether there was one before it.

The generation is a 32-bit counter: a stream that is held up while the pool is reset `2 ^ 32` times
exactly does not notice.
-/

namespace WbMge.Cache

open Json (Text IsValue)

/-! ## The text -/

/-- The object that a row stands for. -/
def Row.toJson (r : Row) : Json.Value :=
  .obj [(['s'], .num r.entry.slaveId.toNat), (['t'], .str [r.entry.typeCh]),
    (['a'], .num r.entry.address.toNat), (['v'], .num r.entry.value.toNat),
    (['a', 'g', 'e'], .num (r.entry.age r.now16).toNat)]

def Row.text (r : Row) : Text := jsonEntry r.now16 r.entry

lemma unescaped_typeCh (e : CacheEntry) : Json.Unescaped e.typeCh := by
  simp only [CacheEntry.typeCh]
  repeat' split
  all_goals decide

lemma isValue_jsonEntry (r : Row) : IsValue r.text r.toJson := by
  have htag : IsValue (Json.quoted [r.entry.typeCh]) (.str [r.entry.typeCh]) :=
    .str (by simpa using unescaped_typeCh r.entry)
  have hvalues := List.Forall₂.cons (IsValue.num r.entry.slaveId.toNat) <| .cons htag <|
    .cons (.num r.entry.address.toNat) <| .cons (.num r.entry.value.toNat) <|
    .cons (.num (r.entry.age r.now16).toNat) .nil
  have hobj := @IsValue.obj [['s'], ['t'], ['a'], ['v'], ['a', 'g', 'e']] _ _
    (by simp [Json.Unescaped]) (by rfl) hvalues
  simpa [Row.text, Row.toJson, jsonEntry, unsignedDec, Json.bracketed, Json.member, Json.quoted,
    List.intercalate_cons_cons] using hobj

lemma isValue_body (rows : List Row) :
    IsValue (jsonFormat.header ++ List.intercalate [','] (rows.map Row.text) ++ jsonFormat.closing)
      (.obj [(['d'], .arr (rows.map Row.toJson))]) := by
  have helements : List.Forall₂ IsValue (rows.map Row.text) (rows.map Row.toJson) := by
    rw [List.forall₂_map_left_iff, List.forall₂_map_right_iff, List.forall₂_same]
    exact fun r _ => isValue_jsonEntry r
  have hvalues := List.Forall₂.cons (IsValue.arr helements) .nil
  have hobj := @IsValue.obj [['d']] _ _ (by simp [Json.Unescaped]) (by rfl) hvalues
  simpa [jsonFormat, Json.bracketed, Json.member, Json.quoted] using hobj

/-! ## Rows and slots -/

/-- What a row is about. -/
def Row.tag (r : Row) : UInt8 × Char × UInt16 := (r.entry.slaveId, r.entry.typeCh, r.entry.address)

variable {e : CacheEntry} {j nowUs : Nat} {log : List Obs} {s : System} {st : Stream}

lemma typeCh_injective {e' : CacheEntry} (h : fcIsCacheable (e.type &&& typeMask))
    (h' : fcIsCacheable (e'.type &&& typeMask)) (heq : e.typeCh = e'.typeCh) :
    e.type &&& typeMask = e'.type &&& typeMask := by
  rcases fcIsCacheable_cases h with hfc | hfc | hfc | hfc <;>
    rcases fcIsCacheable_cases h' with hfc' | hfc' | hfc' | hfc' <;>
    simp_all [CacheEntry.typeCh]

def CacheEntry.IsCached (e : CacheEntry) : Prop :=
  e.used ∧ fcIsCacheable (e.type &&& typeMask)

lemma CacheEntry.IsCached.key?_eq (h : e.IsCached) :
    e.key? = some ⟨e.slaveId, e.type &&& typeMask, e.address⟩ := if_pos h.1

lemma nodup_tags {rows : List Row} (hcached : ∀ r ∈ rows, r.entry.IsCached)
    (hkeys : (rows.map fun r => r.entry.key?).Nodup) : (rows.map Row.tag).Nodup := by
  rw [List.Nodup, List.pairwise_map] at hkeys ⊢
  refine hkeys.imp_of_mem fun {r r'} hr hr' hne htag => hne ?_
  simp only [Row.tag, Prod.mk.injEq] at htag
  obtain ⟨hslave, htype, haddress⟩ := htag
  have hfc := typeCh_injective (hcached r hr).2 (hcached r' hr').2 htype
  rw [(hcached r hr).key?_eq, (hcached r' hr').key?_eq, hslave, hfc, haddress]

lemma Format.scan_eq_none {f : Format} (first : Bool) (now16 : UInt16) :
    ∀ (i : Nat) {slots : List CacheEntry}, (∀ e ∈ slots, e.key? = none) →
      f.scan first now16 i slots = none
  | _, [], _ => rfl
  | i, e :: es, h => by
    have he := key?_eq_none.1 (h e List.mem_cons_self)
    rw [Format.scan, he]
    exact f.scan_eq_none first now16 (i + 1) fun x hx => h x (List.mem_cons_of_mem e hx)

lemma Format.Fits.eq_cons_of_scan {f : Format} (hf : f.Fits) {first : Bool} {now16 : UInt16}
    {i : Nat} {slots : List CacheEntry} (hwf : SlotTable.WellFormed CacheEntry.key? slots)
    (h : f.scan first now16 i slots = some (j, e)) : j = i ∧ e.used ∧ ∃ es, slots = e :: es := by
  cases slots with
  | nil => cases h
  | cons x xs =>
    rw [hf.scan_cons] at h
    split at h
    · rename_i hx
      cases h
      exact ⟨rfl, hx, xs, rfl⟩
    · rename_i hx
      -- nothing is behind a free slot
      have hfree := hwf.free_of_head (key?_eq_none.2 (Bool.eq_false_iff.2 hx))
      rw [Format.scan_eq_none first now16 (i + 1) hfree] at h
      cases h

lemma map_take_storeFrom {r : ReadReq} (hr : fcIsCacheable r.function) (stampS : UInt16)
    (value : Nat → UInt16) (n : Nat) {slots : List CacheEntry} {m : Nat}
    (hused : ∀ e ∈ slots.take m, e.key? ≠ none) :
    ((storeFrom stampS r.slaveId r.function r.startReg value n 0 slots).1.take m).map
      CacheEntry.key? = (slots.take m).map CacheEntry.key? := by
  refine storeFrom_rule (r := r) _ _
    (P := fun _ l => (l.take m).map CacheEntry.key? = (slots.take m).map CacheEntry.key?)
    (fun {_ l i l'} hl hwrite => ?_) n 0 rfl
  rw [← hl]
  refine SlotTable.map_take_upsert hwrite (key?_newEntry hr _ _) (fun _ he => he) ?_
  intro e he hnone
  -- the keys so far are those of the occupied slots at the start
  have hmem : none ∈ (slots.take m).map CacheEntry.key? := by
    rw [← hl]
    exact hnone ▸ List.mem_map_of_mem he
  obtain ⟨e', he', hkey⟩ := List.mem_map.1 hmem
  exact hused e' he' hkey

/-! ## Streaming -/

/-- The pool is reset fewer than `2 ^ 32` times while a stream is open. -/
def fewResets (_ : List Obs) (s : System) (_ : Event) : Prop :=
  match s.stage with
  | .rows st => s.epoch < st.openedEpoch + 2 ^ 32
  | _ => True

instance (log : List Obs) (s : System) (e : Event) : Decidable (fewResets log s e) := by
  unfold fewResets
  cases s.stage <;> infer_instance

/-- What a stream has sent so far, and that its rows are the front part of the pool it walks
through unless that was reset. -/
structure Streamed (log : List Obs) (s : System) (st : Stream) : Prop where
  body : bodyOf log = jsonFormat.header ++ List.intercalate [','] ((rowsOf log).map Row.text)
  first : st.first = (rowsOf log).isEmpty
  keys : ∀ pool, s.cache.pool = some pool → s.epoch = st.openedEpoch →
    ((rowsOf log).map fun r => r.entry.key?) = (pool.slots.take st.i).map CacheEntry.key?

structure RowsInv (rows : List Row) : Prop where
  cached : ∀ r ∈ rows, r.entry.IsCached
  distinct : (rows.map fun r => r.entry.key?).Nodup
  notReset : ∀ r ∈ rows, r.epoch = r.openedEpoch

structure JsonInv (log : List Obs) (s : System) : Prop where
  rows : RowsInv (rowsOf log)
  idle : s.stage = .idle → log = []
  opened : s.stage = .opened → log = [.chunk jsonFormat.header]
  streamed : ∀ st, s.stage = .rows st → Streamed log s st
  done : s.stage = .done →
    IsValue (bodyOf log) (.obj [(['d'], .arr ((rowsOf log).map Row.toJson))])

lemma eq_of_ofNat_eq {a b : Nat} (hle : b ≤ a) (hlt : a < b + 2 ^ 32)
    (h : UInt32.ofNat a = UInt32.ofNat b) : a = b := by
  have hmod := congrArg UInt32.toNat h
  rw [UInt32.toNat_ofNat', UInt32.toNat_ofNat'] at hmod
  omega

lemma Streamed.afterSection (h : Streamed log s st) (hcap : st.Captured s.nowUs s.epoch)
    (hcached : ∀ r ∈ rowsOf log, r.entry.IsCached) {c : Section} (hc : c.possible s.nowUs) :
    Streamed log (s.afterSection c) st := by
  refine { h with keys := fun pool' hpool' hepoch => ?_ }
  simp only [System.afterSection] at hpool' hepoch
  rcases poolChange s.cache c with ⟨hgen, -, -⟩ | ⟨hgen, -, hsame⟩ |
    ⟨nowUs, slaveId, function, startAddr, count, data, ts, old, new, rfl, hgen, hold, hnew, -,
      hslots⟩
  · -- a reset is counted, so the stream was overtaken by it
    rw [hgen, if_neg (UInt32.add_one_ne _)] at hepoch
    have hle := hcap.openedEpoch_le
    omega
  · rw [if_pos hgen] at hepoch
    exact h.keys pool' (hsame.symm.trans hpool') hepoch
  · rw [if_pos hgen] at hepoch
    have hkeys := h.keys old hold hepoch
    rw [hnew] at hpool'
    obtain rfl := Option.some.inj hpool'
    have hfc : fcIsCacheable function := by
      simp only [Section.possible, Bool.and_eq_true] at hc
      exact hc.2
    rw [hkeys, hslots]
    refine (map_take_storeFrom (r := ⟨slaveId, function, startAddr, count⟩) hfc _ _ _ ?_).symm
    intro e he hnone
    have hmem : none ∈ (rowsOf log).map fun r => r.entry.key? := by
      rw [hkeys]
      exact hnone ▸ List.mem_map_of_mem he
    obtain ⟨r, hr, hkey⟩ := List.mem_map.1 hmem
    rw [(hcached r hr).key?_eq] at hkey
    cases hkey

lemma JsonInv.streamed_stream (h : JsonInv log s) (hst : s.stream nowUs = some st) :
    Streamed log s st := by
  simp only [System.stream] at hst
  split at hst
  · rename_i hstage
    cases hst
    rw [h.opened hstage]
    exact ⟨rfl, rfl, fun pool _ _ => by simp⟩
  · rename_i hstage
    cases hst
    exact h.streamed st hstage
  · cases hst

lemma fewResets_stream {e : Event} (hok : fewResets log s e) (hst : s.stream nowUs = some st) :
    s.epoch < st.openedEpoch + 2 ^ 32 := by
  simp only [System.stream] at hst
  simp only [fewResets] at hok
  split at hst
  · cases hst
    exact Nat.lt_add_of_pos_right (by decide)
  · rename_i st' hstage
    cases hst
    rwa [hstage] at hok
  · cases hst

lemma Streamed.next (h : Streamed log s st) (hinv : s.Inv) (hcap : st.Captured nowUs s.epoch)
    (hfew : s.epoch < st.openedEpoch + 2 ^ 32) (hnext : jsonFormat.next st s.cache = some (j, e)) :
    s.epoch = st.openedEpoch ∧ e.IsCached ∧ ∃ pool, s.cache.pool = some pool ∧
      (((rowsOf log).map fun r => r.entry.key?) ++ [e.key?]) =
        (pool.slots.take (j + 1)).map CacheEntry.key? := by
  obtain ⟨pool, hpool, hgen, hscan⟩ := Format.next_eq_some hnext
  -- equal generations mean equal reset counts, because the counter cannot have come round
  have hepoch : s.epoch = st.openedEpoch := by
    refine eq_of_ofNat_eq hcap.openedEpoch_le hfew ?_
    rw [← hinv.generation, hgen, hcap.gen]
  -- the scan never skips: used slots come first, so the slot at the index is used or none behind is
  have hdated := hinv.dated pool hpool
  obtain ⟨rfl, hused, es, hdrop⟩ := jsonFormat_fits.eq_cons_of_scan
    (hdated.wellFormed.sublist (List.drop_sublist st.i pool.slots)) hscan
  have hmem : e ∈ pool.slots := List.mem_of_mem_drop (hdrop ▸ List.mem_cons_self)
  have htake : pool.slots.take (st.i + 1) = pool.slots.take st.i ++ [e] := by
    rw [List.take_add, hdrop]
    rfl
  refine ⟨hepoch, ⟨hused, ?_⟩, pool, hpool, ?_⟩
  · exact hdated.readFunction e hmem _ (if_pos hused)
  · rw [htake, List.map_append, ← h.keys pool hpool hepoch]
    rfl

lemma Streamed.concat {log : List Obs} {s : System} {st : Stream} (h : Streamed log s st)
    {nowUs : Nat} {e : CacheEntry} :
    bodyOf log ++ jsonFormat.row st.first st.now16 e = jsonFormat.header ++
      List.intercalate [','] ((rowsOf log ++ [s.rowOf st nowUs e]).map Row.text) := by
  have hempty : ((rowsOf log).map Row.text).isEmpty = (rowsOf log).isEmpty := List.isEmpty_map
  rw [h.body, h.first, List.map_append, List.map_singleton, Json.intercalate_concat, hempty]
  simp only [Format.row, List.append_assoc]
  rfl

lemma Streamed.rowsInv (h : Streamed log s st) (hrows : RowsInv (rowsOf log)) (hinv : s.Inv)
    (hcap : st.Captured nowUs s.epoch) (hfew : s.epoch < st.openedEpoch + 2 ^ 32)
    (hnext : jsonFormat.next st s.cache = some (j, e)) :
    RowsInv (rowsOf log ++ [s.rowOf st nowUs e]) := by
  obtain ⟨hepoch, hcached, pool, hpool, hkeys⟩ := h.next hinv hcap hfew hnext
  have hcached' : ∀ r ∈ rowsOf log ++ [s.rowOf st nowUs e], r.entry.IsCached := by
    simpa [or_imp, forall_and] using ⟨hrows.cached, hcached⟩
  have hkeys' : ((rowsOf log ++ [s.rowOf st nowUs e]).map fun r => r.entry.key?) =
      (pool.slots.take (j + 1)).map CacheEntry.key? := by
    rw [← hkeys, List.map_append]
    rfl
  refine ⟨hcached', ?_, ?_⟩
  · -- the rows sent so far are a leading part of the table, whose keys are distinct
    rw [hkeys']
    refine ((hinv.dated pool hpool).wellFormed.sublist (List.take_sublist ..)).nodup_map ?_
    intro x hx hnone
    have hmem : none ∈ (pool.slots.take (j + 1)).map CacheEntry.key? :=
      hnone ▸ List.mem_map_of_mem hx
    rw [← hkeys'] at hmem
    obtain ⟨r, hr, hkey⟩ := List.mem_map.1 hmem
    rw [(hcached' r hr).key?_eq] at hkey
    cases hkey
  · simpa [or_imp, forall_and] using ⟨hrows.notReset, hepoch⟩

lemma JsonInv.init (mutex : Bool) : JsonInv [] (exportMachine jsonFormat mutex).init where
  rows := ⟨by simp, List.nodup_nil, by simp⟩
  idle _ := rfl
  opened h := by cases h
  streamed st h := by cases h
  done h := by cases h

lemma JsonInv.of_over (hrows : RowsInv (rowsOf log))
    (hstage : s.stage = .refused ∨ s.stage = .failed) : JsonInv log s := by
  rcases hstage with hstage | hstage
  all_goals exact ⟨hrows, by simp [hstage], by simp [hstage], by simp [hstage], by simp [hstage]⟩

lemma JsonInv.of_done (hrows : RowsInv (rowsOf log)) (hstage : s.stage = .done)
    (hbody : IsValue (bodyOf log) (.obj [(['d'], .arr ((rowsOf log).map Row.toJson))])) :
    JsonInv log s :=
  ⟨hrows, by simp [hstage], by simp [hstage], by simp [hstage], fun _ => hbody⟩

lemma JsonInv.start (h : JsonInv log s) (hidle : s.stage = .idle) (sent : Bool) :
    JsonInv (log ++ (s.start jsonFormat sent).2) (s.start jsonFormat sent).1 := by
  obtain rfl := h.idle hidle
  have hrows : RowsInv (rowsOf []) := h.rows
  simp only [System.start]
  split
  · exact .of_over hrows (Or.inl rfl)
  split
  · exact .of_over hrows (Or.inr rfl)
  split
  · -- no mutex: the body is sent whole, with no row in it
    exact .of_done hrows rfl (isValue_body [])
  · exact ⟨hrows, by simp, fun _ => rfl, by simp, by simp⟩

lemma JsonInv.turn (h : JsonInv log s) (hinv : s.Inv) (hst : s.stream nowUs = some st)
    (hcap : st.Captured nowUs s.epoch) (hfew : s.epoch < st.openedEpoch + 2 ^ 32) (sent : Bool) :
    JsonInv (log ++ (s.turn jsonFormat st nowUs sent).2) (s.turn jsonFormat st nowUs sent).1 := by
  have hstreamed := h.streamed_stream hst
  simp only [System.turn]
  split
  · split
    · -- the array is closed
      have hbody := isValue_body (rowsOf log)
      rw [← hstreamed.body] at hbody
      exact .of_done (by simpa using h.rows) rfl (by simpa using hbody)
    · exact .of_over (by simpa using h.rows) (Or.inr rfl)
  · rename_i j e hnext
    have hrows := hstreamed.rowsInv h.rows hinv hcap hfew hnext
    split
    · -- the row is sent, and the stream goes on behind it
      refine ⟨by simpa using hrows, by simp, by simp, fun st' hst' => ?_, by simp⟩
      cases hst'
      obtain ⟨-, -, pool, hpool, hkeys⟩ := hstreamed.next hinv hcap hfew hnext
      refine ⟨by simpa using hstreamed.concat, by simp, fun pool' hpool' _ => ?_⟩
      obtain rfl := Option.some.inj (hpool.symm.trans hpool')
      simpa [System.rowOf] using hkeys
    · -- the row was formatted and is lost in sending
      exact .of_over (by simpa using hrows) (Or.inr rfl)

lemma JsonInv.run {mutex : Bool} (hrun : (exportMachine jsonFormat mutex).Run fewResets log s) :
    JsonInv log s := by
  refine hrun.invariant (JsonInv.init mutex) ?_
  intro log s e s' out hrun h hok hstep
  have hinv := System.inv_run hrun
  cases e with
  | cache c =>
    -- another task: nothing is sent, and the rows keep their places
    simp only [exportMachine, System.step, Option.ite_none_right_eq_some] at hstep
    obtain ⟨hc, hs'⟩ := hstep
    cases hs'
    rw [List.append_nil]
    exact { h with
      streamed := fun st hst =>
        (h.streamed st hst).afterSection (hinv.captured st hst) h.rows.cached hc }
  | start sent =>
    simp only [exportMachine, System.step] at hstep
    split at hstep
    · rename_i hidle
      have hstart := h.start hidle sent
      rwa [Option.some.inj hstep] at hstart
    · cases hstep
  | turn nowUs sent =>
    simp only [exportMachine, System.step, Option.ite_none_right_eq_some,
      Option.map_eq_some_iff] at hstep
    obtain ⟨hle, st, hst, hturn⟩ := hstep
    have hjson := h.turn hinv hst (hinv.captured_stream hle hst) (fewResets_stream hok hst) sent
    rwa [hturn] at hjson

/-- Whatever the other tasks do between two chunks, short of resetting the pool `2 ^ 32` times: when
the handler is through and every chunk was sent, the body is a JSON object with the array `d`, its
elements are pairwise distinct, and none of them was read from a pool that had been reset since the
stream captured its generation. -/
theorem json_export_wellFormed {mutex : Bool} {log : List Obs} {s : System}
    (hrun : (exportMachine jsonFormat mutex).Run fewResets log s) (hdone : s.stage = .done) :
    IsValue (bodyOf log) (.obj [(['d'], .arr ((rowsOf log).map Row.toJson))]) ∧
      ((rowsOf log).map Row.tag).Nodup ∧ ∀ r ∈ rowsOf log, r.epoch = r.openedEpoch := by
  have h := JsonInv.run hrun
  exact ⟨h.done hdone, nodup_tags h.rows.cached h.rows.distinct, h.rows.notReset⟩

/-- Two registers are cached; a coil joins them after the first row, and the pool is wiped after the
third. -/
theorem json_export_wellFormed_wiped :
    ∃ log s, (exportMachine jsonFormat true).Run fewResets log s ∧ s.stage = .done ∧
      (rowsOf log).map Row.tag = [(1, 'h', 100), (1, 'h', 101), (2, 'c', 7)] ∧
      IsValue (bodyOf log) (.obj [(['d'], .arr ((rowsOf log).map Row.toJson))]) ∧
      ((rowsOf log).map Row.tag).Nodup ∧ ∀ r ∈ rowsOf log, r.epoch = r.openedEpoch := by
  obtain ⟨log, s, hrun, hdone, htags⟩ := Machine.Run.exists_of_exec (exportMachine jsonFormat true)
    fewResets
    ([.cache (.alloc 0 true)] ++ fills 1200000 100 2 [1, 3, 4, 0, 7, 0, 8] ++
      [.start true, .turn 1500000 true, .cache (.request 0 2 1 7 1), .cache (.consume 0),
        .cache (.store 1600000 2 1 7 1 [2, 1, 1, 1] 1600000), .turn 1700000 true,
        .turn 1800000 true, .cache (.wipe 1900000), .turn 2000000 true])
    (fun log s => s.stage = .done ∧
      (rowsOf log).map Row.tag = [(1, 'h', 100), (1, 'h', 101), (2, 'c', 7)])
    (by decide +kernel)
  exact ⟨log, s, hrun, hdone, htags, json_export_wellFormed hrun hdone⟩

/-! ## A stream that misses a reset -/

/-- The state after `n` wipes at `nowUs`. -/
def System.wiped (s : System) (nowUs n : Nat) : System where
  cache := { s.cache.clear nowUs with
    poolGeneration := s.cache.poolGeneration + UInt32.ofNat n }
  stage := s.stage
  nowUs := nowUs
  storedAt := s.storedAt
  epoch := s.epoch + n

lemma System.afterSection_wipe (hmutex : s.cache.mutex) (hpool : s.cache.pool.isSome)
    (nowUs : Nat) : s.afterSection (.wipe nowUs) = s.wiped nowUs 1 := by
  have hne := UInt32.add_one_ne s.cache.poolGeneration
  simp [System.afterSection, System.wiped, State.perform, State.clear, State.storesIn,
    Section.clock?, hmutex, hpool, hne]

lemma System.wiped_wiped (hmutex : s.cache.mutex) (hpool : s.cache.pool.isSome) (nowUs n : Nat) :
    (s.wiped nowUs n).wiped nowUs 1 = s.wiped nowUs (n + 1) := by
  simp [System.wiped, State.clear, hmutex, hpool, UInt32.ofNat_add, UInt32.add_assoc, Nat.add_assoc,
    Function.comp_def]

lemma run_wiped {mutex : Bool}
    (hrun : (exportMachine jsonFormat mutex).Run Machine.anyStep log s) (hmutex : s.cache.mutex)
    (hpool : s.cache.pool.isSome) (hle : s.nowUs ≤ nowUs) (n : Nat) :
    (exportMachine jsonFormat mutex).Run Machine.anyStep log (s.wiped nowUs (n + 1)) := by
  have hstep : ∀ {t : System}, (exportMachine jsonFormat mutex).Run Machine.anyStep log t →
      t.cache.mutex → t.cache.pool.isSome → t.nowUs ≤ nowUs →
      (exportMachine jsonFormat mutex).Run Machine.anyStep log (t.wiped nowUs 1) := by
    intro t ht hmutex hpool hle
    have hpossible : (Section.wipe nowUs).possible t.nowUs = true := by
      simp [Section.possible, Section.clock?, hle]
    have henabled : (exportMachine jsonFormat mutex).step t (.cache (.wipe nowUs)) =
        some (t.afterSection (.wipe nowUs), []) := if_pos hpossible
    have hwipe := ht.step trivial henabled
    rwa [List.append_nil, System.afterSection_wipe hmutex hpool] at hwipe
  induction n with
  | zero => exact hstep hrun hmutex hpool hle
  | succ n ih =>
    rw [← System.wiped_wiped hmutex hpool]
    refine hstep ih ?_ ?_ (le_refl _)
    · simp [System.wiped, State.clear, hmutex]
    · simp [System.wiped, State.clear, hmutex, hpool]

/-- After the first row the pool is wiped `2 ^ 32` times and filled with two registers, the second
of which is the one that was sent already. -/
theorem json_export_repeated :
    ∃ log s, (exportMachine jsonFormat true).Run Machine.anyStep log s ∧ s.stage = .done ∧
      (rowsOf log).map Row.tag = [(1, 'h', 100), (1, 'h', 100)] ∧
      ∃ r ∈ rowsOf log, r.epoch ≠ r.openedEpoch := by
  let es : List Event :=
    [.cache (.alloc 0 true)] ++ fills 1200000 100 1 [1, 3, 2, 0, 7] ++
      [.start true, .turn 1500000 true]
  have hsome : ((exportMachine jsonFormat true).exec Machine.anyStep es []
    (exportMachine jsonFormat true).init).isSome := by decide +kernel
  have hrun := Machine.Run.of_exec (Option.some_get hsome).symm
  -- so many wipes cannot be evaluated; `run_wiped` takes them in one go
  have hwiped := run_wiped hrun (by decide +kernel) (by decide +kernel)
    (show _ ≤ 1600000 by decide +kernel) (2 ^ 32 - 1)
  refine hwiped.exists_of_extend_exec
    (fills 1700000 99 2 [1, 3, 4, 0, 6, 0, 7] ++ [.turn 1800000 true, .turn 1900000 true])
    (fun log s => s.stage = .done ∧ (rowsOf log).map Row.tag = [(1, 'h', 100), (1, 'h', 100)] ∧
      ∃ r ∈ rowsOf log, r.epoch ≠ r.openedEpoch) ?_
  decide +kernel

end WbMge.Cache
