import Mathlib.Data.Nat.Digits.Defs
import WbMge.Cache.Stores
import WbMge.ToMathlib.Json
import WbMge.ToMathlib.Machine

/-!
# Exporting the cache while it is being filled

`cache_json_handler` and `cache_csv_handler` stream the pool row by row and give `s_cache_mutex`
back around every chunk they send. Both capture the pool generation and the clock when they take the
mutex for the first time, and stop when the generation they find is another one.

The unit of interleaving is one hold of the mutex (`Section`); a call of the cache interface is a
sequence of them (`State.sections`). The handlers are one function of a `Format`, and
`exportMachine` runs one of them against any sequence of sections.

The machine also carries what the code does not keep: the clock of the last store of each key, and
the number of times the pool was wiped, freed or allocated.
-/

namespace WbMge.Cache

open Json (Text)

/-! ## Sections of the cache interface -/

/-- One hold of `s_cache_mutex` in `cache_multimaster.c`, or a write of `s_cache_enabled`, which is
made without it. -/
inductive Section where
  /-- `cache_multimaster_enable` up to where it gives the mutex back. -/
  | alloc (nowUs : Nat) (allocOk : Bool)
  | setEnabled (enabled : Bool)
  /-- `cache_multimaster_clear`, which `cache_multimaster_disable` starts with. -/
  | wipe (nowUs : Nat)
  /-- The second half of `cache_multimaster_disable`. -/
  | free
  | request (port slaveId function : UInt8) (startReg count : UInt16)
  /-- `cache_multimaster_clear_pending`, and the first half of `cache_multimaster_on_response`. -/
  | consume (port : UInt8)
  /-- The second half of `cache_multimaster_on_response`. -/
  | store (nowUs : Nat) (slaveId function : UInt8) (startAddr count : UInt16) (data : Bytes)
      (timestampUs : Nat)

def State.perform (s : State) : Section → State
  | .alloc nowUs allocOk => { (s.enable nowUs allocOk).1 with enabled := s.enabled }
  | .setEnabled enabled => { s with enabled }
  | .wipe nowUs => s.clear nowUs
  | .free => if !s.mutex then s else { s with pool := none, poolGeneration := s.poolGeneration + 1 }
  | .request port slaveId function startReg count =>
    s.onRequest port slaveId function startReg count
  | .consume port => s.clearPending port
  | .store nowUs slaveId function startAddr count data timestampUs =>
    s.store nowUs slaveId function startAddr count data timestampUs

def State.sections (s : State) : Op → List Section
  | .enable nowUs allocOk =>
    if (s.enable nowUs allocOk).2 = .ok then [.alloc nowUs allocOk, .setEnabled true]
    else [.alloc nowUs allocOk]
  | .disable nowUs => [.setEnabled false, .wipe nowUs, .free]
  | .clear nowUs => [.wipe nowUs]
  | .onRequest port slaveId function startReg count =>
    [.request port slaveId function startReg count]
  | .onResponse nowUs port slaveId function data timestampUs =>
    if h : port.toNat < bridgesCount then
      if data.length < 4 then []
      else
        match s.accepts ⟨port.toNat, h⟩ slaveId function data with
        | none => [.consume port]
        | some p =>
          [.consume port, .store nowUs slaveId function p.startReg p.count data timestampUs]
    else []
  | .clearPending port => [.consume port]

lemma foldl_sections (s : State) (op : Op) :
    (s.sections op).foldl State.perform s = s.step op := by
  cases op with
  | enable nowUs allocOk =>
    simp only [State.sections, State.step, State.enable]
    -- not initialised, out of memory, and enabled
    split
    · simp [State.perform, State.enable, *]
    · split <;> simp [State.perform, State.enable, *]
  | disable nowUs =>
    simp only [State.sections, State.step, State.disable, List.foldl_cons, List.foldl_nil,
      State.perform]
  | onResponse nowUs port slaveId function data timestampUs =>
    simp only [State.sections, State.step, State.onResponse]
    split
    · rename_i hport
      split
      · rfl
      · cases s.accepts ⟨port.toNat, hport⟩ slaveId function data <;>
          simp [State.perform, State.clearPending, hport]
    · rfl
  | clear | onRequest | clearPending => rfl

def Section.clock? : Section → Option Nat
  | .alloc nowUs _ | .wipe nowUs => some nowUs
  | .store nowUs _ _ _ _ _ _ => some nowUs
  | .setEnabled _ | .free | .request .. | .consume _ => none

/-- A section can come at `nowUs` or later: the clock does not go back, and a response is stored
under one of the four read functions only. -/
def Section.possible (nowUs : Nat) (c : Section) : Bool :=
  c.clock?.all (nowUs ≤ ·) &&
    match c with
    | .store _ _ function _ _ _ _ => fcIsCacheable function
    | _ => true

def State.storesIn (s : State) : Section → List Key
  | .store nowUs slaveId function startAddr count data _ =>
    match s.pool with
    | none => []
    | some pool => pool.storedKeys nowUs slaveId function startAddr count data
  | _ => []

inductive PoolChange (s s' : State) (stores : List Key) (c : Section) : Prop
  | reset (hgen : s'.poolGeneration = s.poolGeneration + 1) (hstores : stores = [])
      (hpool : s'.pool = none ∨ s'.pool = some .zeroed)
  | same (hgen : s'.poolGeneration = s.poolGeneration) (hstores : stores = [])
      (hpool : s'.pool = s.pool)
  | stored (nowUs : Nat) (slaveId function : UInt8) (startAddr count : UInt16) (data : Bytes)
      (timestampUs : Nat) (pool pool' : Pool)
      (hc : c = .store nowUs slaveId function startAddr count data timestampUs)
      (hgen : s'.poolGeneration = s.poolGeneration) (hpool : s.pool = some pool)
      (hpool' : s'.pool = some pool')
      (hstores : stores = pool.storedKeys nowUs slaveId function startAddr count data)
      (hslots : pool'.slots = (storeFrom (nowS16 nowUs) slaveId function startAddr
        (responseValue function data) count.toNat 0 pool.slots).1)

lemma poolChange (s : State) (c : Section) : PoolChange s (s.perform c) (s.storesIn c) c := by
  cases c with
  | alloc nowUs allocOk =>
    simp only [State.perform, State.enable]
    split
    · exact .same rfl rfl rfl
    · split
      · exact .same rfl rfl rfl
      · exact .reset rfl rfl (Or.inr rfl)
  | setEnabled enabled => exact .same rfl rfl rfl
  | wipe nowUs =>
    simp only [State.perform, State.clear]
    split
    · exact .same rfl rfl rfl
    -- the generation moves only when there is a pool to wipe
    cases hpool : s.pool with
    | none => exact .same (by simp) rfl (by simp [hpool])
    | some pool => exact .reset (by simp) rfl (Or.inr (by simp))
  | free =>
    simp only [State.perform]
    split
    · exact .same rfl rfl rfl
    · exact .reset rfl rfl (Or.inl rfl)
  | request port slaveId function startReg count =>
    simp only [State.perform, State.onRequest]
    split <;> exact .same rfl rfl rfl
  | consume port =>
    simp only [State.perform, State.clearPending]
    split <;> exact .same rfl rfl rfl
  | store nowUs slaveId function startAddr count data timestampUs =>
    simp only [State.perform, State.store, State.storesIn]
    cases hpool : s.pool with
    | none => exact .same rfl rfl hpool.symm
    | some pool =>
      exact .stored nowUs slaveId function startAddr count data timestampUs pool _ rfl rfl hpool rfl
        rfl rfl

/-! ## Rows -/

/-- `%u`. -/
def unsignedDec (n : Nat) : Text := Nat.toDigits 10 n

def CacheEntry.typeCh (e : CacheEntry) : Char :=
  let fc := e.type &&& typeMask
  if fc = 0x03 then 'h' else if fc = 0x04 then 'i' else if fc = 0x01 then 'c'
  else if fc = 0x02 then 'd' else '?'

def CacheEntry.typeStr (e : CacheEntry) : Text :=
  let fc := e.type &&& typeMask
  if fc = 0x03 then "holding".toList else if fc = 0x04 then "input".toList
  else if fc = 0x01 then "coil".toList else if fc = 0x02 then "discrete".toList
  else "unknown".toList

/-- `(uint16_t)(now16 - e->stamp_s)`. -/
def CacheEntry.age (e : CacheEntry) (now16 : UInt16) : UInt16 := now16 - e.stampS

/-- An entry of the JSON export, without the comma in front of it:
`{"s":%u,"t":"%c","a":%u,"v":%u,"age":%u}`. -/
def jsonEntry (now16 : UInt16) (e : CacheEntry) : Text :=
  ['\x7b', '"', 's', '"', ':'] ++ unsignedDec e.slaveId.toNat ++
    [',', '"', 't', '"', ':', '"', e.typeCh, '"'] ++
    [',', '"', 'a', '"', ':'] ++ unsignedDec e.address.toNat ++
    [',', '"', 'v', '"', ':'] ++ unsignedDec e.value.toNat ++
    [',', '"', 'a', 'g', 'e', '"', ':'] ++ unsignedDec (e.age now16).toNat ++ ['\x7d']

/-- A line of the CSV export: `%u,%s,%u,%u,%u\r\n`. -/
def csvEntry (now16 : UInt16) (e : CacheEntry) : Text :=
  unsignedDec e.slaveId.toNat ++ [','] ++ e.typeStr ++ [','] ++ unsignedDec e.address.toNat ++
    [','] ++ unsignedDec e.value.toNat ++ [','] ++ unsignedDec (e.age now16).toNat ++ ['\r', '\n']

/-- What the two handlers differ in. -/
structure Format where
  needsEnabled : Bool
  header : Text
  emptyBody : Text
  separator : Text
  entry : UInt16 → CacheEntry → Text
  bufSize : Nat
  closing : Text

/-- `cache_json_handler`. -/
def jsonFormat : Format where
  needsEnabled := false
  header := ['\x7b', '"', 'd', '"', ':', '[']
  emptyBody := ['\x7b', '"', 'd', '"', ':', '[', ']', '\x7d']
  separator := [',']
  entry := jsonEntry
  bufSize := 96
  closing := [']', '\x7d']

/-- `cache_csv_handler`. -/
def csvFormat : Format where
  needsEnabled := true
  header := "slave_id,type,address,value,age_s\r\n".toList
  emptyBody := "slave_id,type,address,value,age_s\r\n".toList
  separator := []
  entry := csvEntry
  bufSize := 128
  closing := []

def Format.row (f : Format) (first : Bool) (now16 : UInt16) (e : CacheEntry) : Text :=
  (if first then [] else f.separator) ++ f.entry now16 e

structure Stream where
  gen : UInt32
  now16 : UInt16
  i : Nat
  first : Bool
  /-- The clock when `now16` was captured. -/
  openedUs : Nat
  /-- The number of pool resets when `gen` was captured. -/
  openedEpoch : Nat
deriving DecidableEq

/-- The loop over the slots from `i` on, up to the next row that is sent. -/
def Format.scan (f : Format) (first : Bool) (now16 : UInt16) :
    Nat → List CacheEntry → Option (Nat × CacheEntry)
  | _, [] => none
  | i, e :: es =>
    if !e.used then f.scan first now16 (i + 1) es
    -- a row that does not fit the buffer is skipped
    else if f.bufSize ≤ (f.row first now16 e).length then f.scan first now16 (i + 1) es
    else some (i, e)

/-- The next row of a stream, `none` when it is over: the slots are through, or the pool is gone or
another one. -/
def Format.next (f : Format) (st : Stream) (s : State) : Option (Nat × CacheEntry) :=
  match s.pool with
  | none => none
  | some pool =>
    if s.poolGeneration ≠ st.gen then none
    else f.scan st.first st.now16 st.i (pool.slots.drop st.i)

/-! ## The machine -/

/-- How far the handler is. -/
inductive Stage where
  | idle
  | opened
  | rows (st : Stream)
  | done
  | refused
  | failed
deriving DecidableEq

/-- The cache, the handler and the history. -/
structure System where
  cache : State
  stage : Stage
  nowUs : Nat
  storedAt : Key → Option Nat
  epoch : Nat

/-- A row that was sent, and what the history knows of its entry. -/
structure Row where
  entry : CacheEntry
  now16 : UInt16
  formattedUs : Nat
  storedAt : Option Nat
  openedUs : Nat
  epoch : Nat
  openedEpoch : Nat
deriving DecidableEq

inductive Obs where
  | row (r : Row)
  | chunk (text : Text)
deriving DecidableEq

/-- A step: a section of some other task, the handler's start, or one of its holds of the mutex with
the send that follows. -/
inductive Event where
  | cache (c : Section)
  | start (sent : Bool)
  | turn (nowUs : Nat) (sent : Bool)

def System.afterSection (s : System) (c : Section) : System where
  cache := s.cache.perform c
  stage := s.stage
  nowUs := c.clock?.getD s.nowUs
  storedAt := recordStores s.storedAt (s.cache.storesIn c) (c.clock?.getD s.nowUs)
  epoch := if (s.cache.perform c).poolGeneration = s.cache.poolGeneration then s.epoch
    else s.epoch + 1

def System.start (f : Format) (s : System) (sent : Bool) : System × List Obs :=
  if f.needsEnabled && !s.cache.enabled then ({ s with stage := .refused }, [])
  else if !sent then ({ s with stage := .failed }, [])
  else if !s.cache.mutex then ({ s with stage := .done }, [.chunk f.emptyBody])
  else ({ s with stage := .opened }, [.chunk f.header])

/-- The handler's locals after it has taken the mutex at `nowUs`. -/
def System.stream (s : System) (nowUs : Nat) : Option Stream :=
  match s.stage with
  | .opened => some
    { gen := s.cache.poolGeneration
      now16 := nowS16 nowUs
      i := 0
      first := true
      openedUs := nowUs
      openedEpoch := s.epoch }
  | .rows st => some st
  | _ => none

def System.rowOf (s : System) (st : Stream) (nowUs : Nat) (e : CacheEntry) : Row where
  entry := e
  now16 := st.now16
  formattedUs := nowUs
  storedAt := e.key?.bind s.storedAt
  openedUs := st.openedUs
  epoch := s.epoch
  openedEpoch := st.openedEpoch

def System.turn (f : Format) (s : System) (st : Stream) (nowUs : Nat) (sent : Bool) :
    System × List Obs :=
  match f.next st s.cache with
  | none =>
    -- an empty closing is not sent at all
    if sent || f.closing.isEmpty then
      ({ s with nowUs, stage := .done }, [.chunk f.closing])
    else ({ s with nowUs, stage := .failed }, [])
  | some (i, e) =>
    if sent then
      ({ s with nowUs, stage := .rows { st with i := i + 1, first := false } },
        [.row (s.rowOf st nowUs e), .chunk (f.row st.first st.now16 e)])
    else ({ s with nowUs, stage := .failed }, [.row (s.rowOf st nowUs e)])

/-- A section of another task, the start of the request or one turn of its loop. -/
def System.step (f : Format) (s : System) : Event → Option (System × List Obs)
  | .cache c => if c.possible s.nowUs then some (s.afterSection c, []) else none
  | .start sent =>
    match s.stage with
    | .idle => some (s.start f sent)
    | _ => none
  | .turn nowUs sent =>
    if s.nowUs ≤ nowUs then (s.stream nowUs).map fun st => s.turn f st nowUs sent else none

/-- One handler against any sections of the others. -/
def exportMachine (f : Format) (mutex : Bool) : Machine System Event Obs where
  init :=
    { cache := State.init mutex
      stage := .idle
      nowUs := 0
      storedAt := fun _ => none
      epoch := 0 }
  step := System.step f

/-- The text that was sent. -/
def bodyOf (log : List Obs) : Text :=
  log.flatMap fun
    | .chunk text => text
    | .row _ => []

/-- The rows that were sent. -/
def rowsOf (log : List Obs) : List Row :=
  log.filterMap fun
    | .row r => some r
    | .chunk _ => none

@[simp] lemma bodyOf_nil : bodyOf [] = [] := rfl

@[simp] lemma bodyOf_append (l₁ l₂ : List Obs) : bodyOf (l₁ ++ l₂) = bodyOf l₁ ++ bodyOf l₂ :=
  List.flatMap_append

@[simp] lemma bodyOf_chunk (text : Text) (log : List Obs) :
    bodyOf (.chunk text :: log) = text ++ bodyOf log := rfl

@[simp] lemma bodyOf_row (r : Row) (log : List Obs) : bodyOf (.row r :: log) = bodyOf log := rfl

@[simp] lemma rowsOf_nil : rowsOf [] = [] := rfl

@[simp] lemma rowsOf_append (l₁ l₂ : List Obs) : rowsOf (l₁ ++ l₂) = rowsOf l₁ ++ rowsOf l₂ :=
  List.filterMap_append

@[simp] lemma rowsOf_chunk (text : Text) (log : List Obs) :
    rowsOf (.chunk text :: log) = rowsOf log := rfl

@[simp] lemma rowsOf_row (r : Row) (log : List Obs) : rowsOf (.row r :: log) = r :: rowsOf log :=
  rfl

/-! ## The invariant -/

/-- The locals of a stream are what the clock and the generation were when it was opened. -/
structure Stream.Captured (st : Stream) (nowUs epoch : Nat) : Prop where
  now16 : st.now16 = nowS16 st.openedUs
  gen : st.gen = UInt32.ofNat st.openedEpoch
  openedUs_le : st.openedUs ≤ nowUs
  openedEpoch_le : st.openedEpoch ≤ epoch

/-- The generation counts the resets modulo `2 ^ 32`, the pool is dated, and so is the stream. -/
structure System.Inv (s : System) : Prop where
  generation : s.cache.poolGeneration = UInt32.ofNat s.epoch
  dated : ∀ pool, s.cache.pool = some pool → Dated s.storedAt pool.slots
  storedAt_le : ∀ k t, s.storedAt k = some t → t ≤ s.nowUs
  captured : ∀ st, s.stage = .rows st → st.Captured s.nowUs s.epoch

variable {nowUs j : Nat} {s : System} {st : Stream} {f : Format} {e : CacheEntry}

lemma Section.le_clock {c : Section} (h : c.possible nowUs) : nowUs ≤ c.clock?.getD nowUs := by
  simp only [Section.possible, Bool.and_eq_true] at h
  cases hclock : c.clock? with
  | none => exact le_refl nowUs
  | some t => simpa [hclock] using h.1

lemma UInt32.add_one_ne (n : UInt32) : n + 1 ≠ n := by
  rw [Ne, ← UInt32.toNat_inj, UInt32.toNat_add]
  have := n.toNat_lt
  simp only [UInt32.reduceToNat]
  omega

lemma System.epoch_le_afterSection (s : System) (c : Section) :
    s.epoch ≤ (s.afterSection c).epoch := by
  simp only [System.afterSection]
  split <;> omega

lemma System.Inv.afterSection (h : s.Inv) {c : Section} (hc : c.possible s.nowUs) :
    (s.afterSection c).Inv := by
  have hle := Section.le_clock hc
  refine ⟨?_, ?_, fun k t hk => ?_, fun st hst => ?_⟩
  · -- every reset of the pool moves the generation on by one
    simp only [System.afterSection]
    rcases poolChange s.cache c with ⟨hgen, -, -⟩ | ⟨hgen, -, -⟩ |
      ⟨-, -, -, -, -, -, -, -, -, -, hgen, -, -, -, -⟩
    · rw [if_neg (hgen ▸ UInt32.add_one_ne _), hgen, h.generation, UInt32.ofNat_add]
      rfl
    · rw [if_pos hgen, hgen, h.generation]
    · rw [if_pos hgen, hgen, h.generation]
  · intro pool hpool
    simp only [System.afterSection] at hpool ⊢
    rcases poolChange s.cache c with ⟨-, hstores, hreset⟩ | ⟨-, hstores, hsame⟩ |
      ⟨nowUs, slaveId, function, startAddr, count, data, ts, old, new, rfl, -, hold, hnew, hstores,
        hslots⟩
    · rw [hstores, recordStores_nil]
      rcases hreset with hreset | hreset <;> rw [hreset] at hpool <;> cases hpool
      exact dated_zeroed _
    · rw [hstores, recordStores_nil]
      exact h.dated pool (hsame.symm.trans hpool)
    · rw [hnew] at hpool
      cases hpool
      have hfc : fcIsCacheable function := by
        simp only [Section.possible, Bool.and_eq_true] at hc
        exact hc.2
      rw [hslots, hstores]
      exact (h.dated old hold).store slaveId hfc startAddr count data nowUs
  · simp only [System.afterSection, recordStores] at hk ⊢
    split at hk
    · exact (Option.some.inj hk).ge
    · exact (h.storedAt_le k t hk).trans hle
  · have hcap := h.captured st hst
    exact { hcap with
      openedUs_le := hcap.openedUs_le.trans hle
      openedEpoch_le := hcap.openedEpoch_le.trans (s.epoch_le_afterSection c) }

lemma System.Inv.captured_stream (h : s.Inv) (hle : s.nowUs ≤ nowUs)
    (hst : s.stream nowUs = some st) : st.Captured nowUs s.epoch := by
  simp only [System.stream] at hst
  split at hst
  · cases hst
    exact ⟨rfl, h.generation, le_refl _, le_refl _⟩
  · rename_i hstage
    cases hst
    have hcap := h.captured st hstage
    exact { hcap with openedUs_le := hcap.openedUs_le.trans hle }
  · cases hst

lemma System.Inv.of_stage (h : s.Inv) (hle : s.nowUs ≤ nowUs) {stage : Stage}
    (hcap : ∀ st, stage = .rows st → st.Captured nowUs s.epoch) : { s with nowUs, stage }.Inv :=
  ⟨h.generation, h.dated, fun k t hk => (h.storedAt_le k t hk).trans hle, hcap⟩

lemma System.Inv.step {f : Format} {s s' : System} {e : Event} {out : List Obs} (h : s.Inv)
    (hstep : s.step f e = some (s', out)) : s'.Inv := by
  cases e with
  | cache c =>
    simp only [System.step, Option.ite_none_right_eq_some] at hstep
    obtain ⟨hc, hs'⟩ := hstep
    cases hs'
    exact h.afterSection hc
  | start sent =>
    -- whatever the start leads to, it is not the stream yet
    simp only [System.step, System.start] at hstep
    repeat' split at hstep
    all_goals cases hstep
    all_goals exact h.of_stage (le_refl _) fun st hst => by cases hst
  | turn nowUs sent =>
    simp only [System.step, Option.ite_none_right_eq_some, Option.map_eq_some_iff] at hstep
    obtain ⟨hle, st, hst, hturn⟩ := hstep
    have hcap := h.captured_stream hle hst
    simp only [System.turn] at hturn
    repeat' split at hturn
    all_goals cases hturn
    all_goals refine h.of_stage hle fun st hst => ?_
    all_goals cases hst
    exact ⟨hcap.now16, hcap.gen, hcap.openedUs_le, hcap.openedEpoch_le⟩

lemma System.inv_run {mutex : Bool} {ok : List Obs → System → Event → Prop} {log : List Obs}
    (hrun : (exportMachine f mutex).Run ok log s) : s.Inv := by
  refine hrun.invariant (P := fun _ s => s.Inv) ?_ fun _ h _ hstep => h.step hstep
  exact ⟨rfl, fun pool hpool => (by cases hpool), fun k t hk => (by cases hk),
    fun st hst => (by cases hst)⟩

/-! ## The loop of the handlers -/

/-- Every row fits into the row buffer. -/
def Format.Fits (f : Format) : Prop :=
  ∀ first now16 e, (f.row first now16 e).length < f.bufSize

lemma length_unsignedDec_uint8 (b : UInt8) : (unsignedDec b.toNat).length ≤ 3 :=
  Nat.toDigits_length 10 _ 3 (by decide) (b.toNat_lt.trans (by decide))

lemma length_unsignedDec_uint16 (n : UInt16) : (unsignedDec n.toNat).length ≤ 5 :=
  Nat.toDigits_length 10 _ 5 (by decide) (n.toNat_lt.trans (by decide))

lemma length_typeStr_le (e : CacheEntry) : e.typeStr.length ≤ 8 := by
  simp only [CacheEntry.typeStr]
  repeat' split
  all_goals decide

lemma jsonFormat_fits : jsonFormat.Fits := by
  intro first now16 e
  have hs := length_unsignedDec_uint8 e.slaveId
  have ha := length_unsignedDec_uint16 e.address
  have hv := length_unsignedDec_uint16 e.value
  have hage := length_unsignedDec_uint16 (e.age now16)
  cases first
  all_goals
    simp only [Format.row, jsonFormat, jsonEntry, List.length_append, List.length_cons,
      List.length_nil, Bool.false_eq_true, if_true, if_false]
    omega

lemma csvFormat_fits : csvFormat.Fits := by
  intro first now16 e
  have hs := length_unsignedDec_uint8 e.slaveId
  have ht := length_typeStr_le e
  have ha := length_unsignedDec_uint16 e.address
  have hv := length_unsignedDec_uint16 e.value
  have hage := length_unsignedDec_uint16 (e.age now16)
  simp only [Format.row, csvFormat, csvEntry, ite_self, List.length_append, List.length_cons,
    List.length_nil]
  omega

lemma Format.Fits.scan_cons (hf : f.Fits) (first : Bool) (now16 : UInt16) (i : Nat)
    (e : CacheEntry) (es : List CacheEntry) :
    f.scan first now16 i (e :: es) =
      if e.used then some (i, e) else f.scan first now16 (i + 1) es := by
  rw [Format.scan, if_neg (Nat.not_le.2 (hf first now16 e))]
  cases e.used <;> rfl

lemma Format.Fits.find?_of_scan (hf : f.Fits) {first : Bool} {now16 : UInt16} :
    ∀ {i : Nat} {slots : List CacheEntry},
      f.scan first now16 i slots = some (j, e) → slots.find? CacheEntry.used = some e
  | _, [], h => by cases h
  | i, x :: xs, h => by
    rw [hf.scan_cons] at h
    by_cases hx : x.used
    · rw [if_pos hx] at h
      cases h
      exact List.find?_cons_of_pos hx
    · rw [if_neg hx] at h
      rw [List.find?_cons_of_neg hx]
      exact hf.find?_of_scan h

lemma Format.next_eq_some {s : State} (h : f.next st s = some (j, e)) :
    ∃ pool, s.pool = some pool ∧ s.poolGeneration = st.gen ∧
      f.scan st.first st.now16 st.i (pool.slots.drop st.i) = some (j, e) := by
  simp only [Format.next] at h
  split at h
  · cases h
  rename_i pool hpool
  split at h
  · cases h
  · rename_i hgen
    exact ⟨pool, hpool, not_not.1 hgen, h⟩

/-! ## Ages -/

/-- The next occupied slot from `i` on. -/
def State.nextSlot (s : State) (i : Nat) : Option CacheEntry :=
  s.pool.bind fun pool => (pool.slots.drop i).find? CacheEntry.used

/-- The handler does not come to an entry whose last store is in a later second than the one in
which it captured the clock. In a pool that was reset since, it comes to no entry at all. -/
def notOvertaken (_ : List Obs) (s : System) : Event → Prop
  | .turn nowUs _ => ∀ st ∈ s.stream nowUs, s.cache.poolGeneration = st.gen →
      ∀ e ∈ s.cache.nextSlot st.i, ∀ t ∈ e.key?.bind s.storedAt,
        t / 1000000 ≤ st.openedUs / 1000000
  | _ => True

instance (log : List Obs) (s : System) (e : Event) : Decidable (notOvertaken log s e) := by
  unfold notOvertaken
  cases e <;> infer_instance

/-- The age in the row is at most the age of the value, in seconds. -/
def Row.AgeLe (r : Row) : Prop :=
  ∃ t, r.storedAt = some t ∧
    (r.entry.age r.now16).toNat ≤ r.formattedUs / 1000000 - t / 1000000

lemma System.Inv.storedAt_next (hf : f.Fits) (h : s.Inv)
    (hnext : f.next st s.cache = some (j, e)) :
    s.cache.nextSlot st.i = some e ∧
      ∃ t, e.key?.bind s.storedAt = some t ∧ e.stampS = nowS16 t := by
  obtain ⟨pool, hpool, -, hscan⟩ := f.next_eq_some hnext
  have hfind := hf.find?_of_scan hscan
  have hused : e.used = true := List.find?_some hfind
  have hmem : e ∈ pool.slots := List.mem_of_mem_drop (List.mem_of_find?_eq_some hfind)
  refine ⟨by simp [State.nextSlot, hpool, hfind], ?_⟩
  have hkey : e.key? = some ⟨e.slaveId, e.type &&& typeMask, e.address⟩ := if_pos hused
  obtain ⟨t, ht, hstamp⟩ := (h.dated pool hpool).stamped e hmem _ hkey
  exact ⟨t, by rw [hkey]; exact ht, hstamp⟩

lemma System.Inv.ageLe_rowOf (hf : f.Fits) (h : s.Inv) (hcap : st.Captured nowUs s.epoch)
    (hnext : f.next st s.cache = some (j, e))
    (hok : s.cache.poolGeneration = st.gen → ∀ e ∈ s.cache.nextSlot st.i,
      ∀ t ∈ e.key?.bind s.storedAt, t / 1000000 ≤ st.openedUs / 1000000) :
    (s.rowOf st nowUs e).AgeLe := by
  obtain ⟨-, -, hgen, -⟩ := f.next_eq_some hnext
  obtain ⟨hslot, t, ht, hstamp⟩ := h.storedAt_next hf hnext
  have hopened : st.openedUs / 1000000 ≤ nowUs / 1000000 := Nat.div_le_div_right hcap.openedUs_le
  refine ⟨t, ht, ?_⟩
  have hle := hok hgen e hslot t ht
  simp only [System.rowOf, CacheEntry.age]
  rw [hcap.now16, hstamp, toNat_age hle]
  exact (Nat.mod_le _ _).trans (by omega)

/-- In every run in which no entry has overtaken the stream when the handler comes to it, no age is
larger than the number of whole seconds between the last store of the entry and its formatting. -/
theorem export_age_le {f : Format} (hf : f = jsonFormat ∨ f = csvFormat) {mutex : Bool}
    {log : List Obs} {s : System} (hrun : (exportMachine f mutex).Run notOvertaken log s) :
    ∀ r ∈ rowsOf log, r.AgeLe := by
  have hfits : f.Fits := by
    rcases hf with rfl | rfl
    · exact jsonFormat_fits
    · exact csvFormat_fits
  refine hrun.invariant (P := fun log _ => ∀ r ∈ rowsOf log, r.AgeLe) (by simp) ?_
  intro log s e s' out hrun ih hok hstep
  have hinv := System.inv_run hrun
  suffices hout : ∀ r ∈ rowsOf out, r.AgeLe by
    intro r hr
    rw [rowsOf_append] at hr
    exact (List.mem_append.1 hr).elim (ih r) (hout r)
  -- only a turn of the handler formats a row
  cases e with
  | cache c =>
    simp only [exportMachine, System.step, Option.ite_none_right_eq_some] at hstep
    cases hstep.2
    simp
  | start sent =>
    simp only [exportMachine, System.step, System.start] at hstep
    repeat' split at hstep
    all_goals cases hstep
    all_goals simp
  | turn nowUs sent =>
    simp only [exportMachine, System.step, Option.ite_none_right_eq_some,
      Option.map_eq_some_iff] at hstep
    obtain ⟨hle, st, hst, hturn⟩ := hstep
    simp only [System.turn] at hturn
    split at hturn
    · split at hturn <;> cases hturn <;> simp
    -- sent or not, the row is the one at the scan's next slot
    rename_i j e hnext
    have hrow := hinv.ageLe_rowOf hfits (hinv.captured_stream hle hst) hnext (hok st hst)
    split at hturn <;> cases hturn <;> simpa using hrow

/-- A response of slave 1 to a read of holding registers is stored. -/
def fills (nowUs : Nat) (startAddr count : UInt16) (data : Bytes) : List Event :=
  [.cache (.request 0 1 3 startAddr count), .cache (.consume 0),
    .cache (.store nowUs 1 3 startAddr count data nowUs)]

/-- The second register is read again in the second in which the stream started, after it did. -/
theorem export_age_le_sameSecond :
    let run := (exportMachine jsonFormat true).Run notOvertaken
    ∃ log s, run log s ∧
      ((rowsOf log).map fun r => ((r.entry.age r.now16).toNat, r.storedAt, r.formattedUs)) =
        [(1, some 1900000, 2000000), (0, some 2500000, 3100000)] ∧ ∀ r ∈ rowsOf log, r.AgeLe := by
  intro run
  obtain ⟨log, s, hrun, hrows⟩ := Machine.Run.exists_of_exec (exportMachine jsonFormat true)
    notOvertaken
    (List.flatten [[.cache (.alloc 0 true)], fills 1900000 100 2 [1, 3, 4, 0, 7, 0, 8],
      [.start true, .turn 2000000 true], fills 2500000 101 1 [1, 3, 2, 0, 9],
      [.turn 3100000 true, .turn 3200000 true]])
    (fun log _ => ((rowsOf log).map fun r =>
      ((r.entry.age r.now16).toNat, r.storedAt, r.formattedUs)) =
        [(1, some 1900000, 2000000), (0, some 2500000, 3100000)])
    (by decide +kernel)
  exact ⟨log, s, hrun, hrows, export_age_le (Or.inl rfl) hrun⟩

/-- The stream starts in second 1, the second register is read again in second 2 and formatted 0.4 s
later: its age is given as 65535 seconds. -/
theorem export_age_overtaken :
    ∃ log s, (exportMachine jsonFormat true).Run Machine.anyStep log s ∧ s.stage = .done ∧
      ∃ r ∈ rowsOf log, r.storedAt = some 2100000 ∧ r.formattedUs = 2500000 ∧
        (r.entry.age r.now16).toNat = 65535 ∧ ¬ r.AgeLe := by
  obtain ⟨log, s, hrun, hdone, r, hr, hstored, hformatted, hage⟩ :=
    Machine.Run.exists_of_exec (exportMachine jsonFormat true) Machine.anyStep
    (List.flatten [[.cache (.alloc 0 true)], fills 1200000 100 2 [1, 3, 4, 0, 7, 0, 8],
      [.start true, .turn 1500000 true], fills 2100000 101 1 [1, 3, 2, 0, 9],
      [.turn 2500000 true, .turn 2600000 true]])
    (fun log s => s.stage = .done ∧ ∃ r ∈ rowsOf log, r.storedAt = some 2100000 ∧
      r.formattedUs = 2500000 ∧ (r.entry.age r.now16).toNat = 65535)
    (by decide +kernel)
  refine ⟨log, s, hrun, hdone, r, hr, hstored, hformatted, hage, ?_⟩
  rintro ⟨t, ht, hle⟩
  obtain rfl := Option.some.inj (hstored.symm.trans ht)
  omega

end WbMge.Cache
