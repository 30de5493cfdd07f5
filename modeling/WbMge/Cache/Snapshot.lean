import WbMge.Cache.Server
import WbMge.Cache.Stores

/-!
# Reads next to stores

The sniffer stores a whole response inside one section of the cache mutex, while the cache server
takes the mutex once for every address of a read. `stateAt` is the cache a read meets address by
address when the sniffer's calls fall between its lookups.

A read is answered from the cache as it stands at one of its lookups, as long as nobody stores an
address already looked up before that lookup, or one still to be looked up after it. A response
stored over both kinds mixes the values of two responses in one answer.
-/

namespace WbMge.Cache

/-! ## What a call leaves alone -/

/-- The sniffer makes the call. -/
def Op.isSnifferCall : Op → Bool
  | .onRequest .. | .onResponse .. | .clearPending _ => true
  | .enable .. | .disable _ | .clear _ => false

lemma entry_congr {s s' : State} (h : s'.pool = s.pool) (k : Key) : s'.entry k = s.entry k := by
  rw [State.entry, State.entry, h]

variable {k : Key} {h : History} {read read' : Nat → Except UInt8 UInt16}

lemma findEntry_storeFrom {pool : Pool} {slaveId function : UInt8}
    (hwf : SlotTable.WellFormed CacheEntry.key? pool.slots) (hfc : fcIsCacheable function)
    {nowUs : Nat} {startAddr count : UInt16} {data : Bytes}
    (hk : k ∉ pool.storedKeys nowUs slaveId function startAddr count data) :
    findEntry k.slaveId k.function k.address (storeFrom (nowS16 nowUs) slaveId function startAddr
        (responseValue function data) count.toNat 0 pool.slots).1 =
      findEntry k.slaveId k.function k.address pool.slots := by
  let r : ReadReq := ⟨slaveId, function, startAddr, count⟩
  -- as long as the loop has not written `k`, the search for it finds what it found before
  have hloop := storeFrom_rule (r := r) (nowS16 nowUs) (responseValue function data)
    (P := fun done slots => SlotTable.WellFormed CacheEntry.key? slots ∧
      (k ∉ done.map r.key → SlotTable.find CacheEntry.key? k slots =
        SlotTable.find CacheEntry.key? k pool.slots))
    (fun {done _ i _} hP hwrite => by
      obtain ⟨hwf', hfind⟩ := hP.1.upsert hwrite (key?_newEntry hfc _ _) fun _ he => he
      refine ⟨hwf', fun hnot => ?_⟩
      rw [List.map_append, List.mem_append, not_or, List.map_singleton, List.mem_singleton] at hnot
      rw [hfind k hnot.2, hP.2 hnot.1])
    count.toNat 0 ⟨hwf, fun _ => rfl⟩
  rw [findEntry_eq_find, findEntry_eq_find]
  exact hloop.2 hk

lemma entry_step (hi : h.Inv) {op : Op} (hop : op.isSnifferCall) (hk : k ∉ h.state.stores op) :
    (h.state.step op).entry k = h.state.entry k := by
  cases op with
  -- the first three are not calls of the sniffer
  | enable nowUs allocOk | disable nowUs | clear nowUs => cases hop
  | onRequest port slaveId function startReg count =>
    refine entry_congr ?_ k
    simp only [State.step, State.onRequest]
    split <;> rfl
  | clearPending port =>
    refine entry_congr ?_ k
    simp only [State.step, State.clearPending]
    split <;> rfl
  | onResponse nowUs port slaveId function data timestampUs =>
    simp only [State.step, State.onResponse, State.stores] at hk ⊢
    split
    swap
    · rfl
    rename_i hport
    split
    · rfl
    rw [dif_pos hport] at hk
    cases hacc : h.state.accepts ⟨port.toNat, hport⟩ slaveId function data with
    | none => rfl
    | some p =>
      have hfc := fcIsCacheable_of_accepts hacc
      cases hpool : h.state.pool with
      | none =>
        exact entry_congr ((pool_store_of_none (s := h.state.consume ⟨port.toNat, hport⟩) hpool
          ..).trans hpool.symm) k
      | some pool =>
        -- the store loop writes the keys it stores and no other
        rw [hacc, hpool] at hk
        have hfind := findEntry_storeFrom (hi.dated pool hpool).wellFormed hfc hk
        simp only [State.entry, State.store,
          show (h.state.consume ⟨port.toNat, hport⟩).pool = some pool from hpool, hpool,
          Option.bind_some]
        rw [hfind]

lemma enabled_step (s : State) {op : Op} (hop : op.isSnifferCall) :
    (s.step op).enabled = s.enabled := by
  cases op <;> cases hop
  all_goals
    simp only [State.step, State.onRequest, State.clearPending, State.onResponse, State.store]
    repeat' split
    all_goals rfl

/-! ## A read and the calls between its lookups -/

/-- The cache at the lookup of offset `i`, when `between i` is what the sniffer calls between that
lookup and the next. -/
def stateAt (s : State) (between : Nat → List Op) : Nat → State
  | 0 => s
  | i + 1 => (between i).foldl State.step (stateAt s between i)

/-- None of the calls `ops`, made one after another from `s`, stores the key `k`. -/
def Untouched (k : Key) (s : State) (ops : List Op) : Prop :=
  ∀ l₁ op l₂, ops = l₁ ++ op :: l₂ → k ∉ (l₁.foldl State.step s).stores op

lemma entry_foldl {ops : List Op} (hi : h.Inv) (hops : ∀ op ∈ ops, op.isSnifferCall)
    (hk : Untouched k h.state ops) :
    (ops.foldl State.step h.state).entry k = h.state.entry k := by
  induction ops generalizing h with
  | nil => rfl
  | cons op ops ih =>
    have hrest := ih (hi.step op) (fun op' hop' => hops op' (List.mem_cons_of_mem op hop'))
      fun l₁ op' l₂ heq => hk (op :: l₁) op' l₂ (by rw [heq]; rfl)
    exact hrest.trans (entry_step hi (hops op List.mem_cons_self) (hk [] op ops rfl))

variable {between : Nat → List Op}

lemma exists_history_stateAt (hi : h.Inv) (between : Nat → List Op) (i : Nat) :
    ∃ h' : History, h'.Inv ∧ h'.state = stateAt h.state between i := by
  induction i with
  | zero => exact ⟨h, hi, rfl⟩
  | succ i ih =>
    obtain ⟨h', hi', hstate⟩ := ih
    refine ⟨(between i).foldl History.step h', ?_, ?_⟩
    · exact List.foldlRecOn (between i) History.step hi' fun _ hb op _ => hb.step op
    · rw [History.state_run, hstate]
      rfl

lemma entry_stateAt (hi : h.Inv) (hsniffer : ∀ i, ∀ op ∈ between i, op.isSnifferCall) {a b : Nat}
    (hab : a ≤ b)
    (hk : ∀ i, a ≤ i → i < b → Untouched k (stateAt h.state between i) (between i)) :
    (stateAt h.state between b).entry k = (stateAt h.state between a).entry k := by
  induction b, hab using Nat.le_induction with
  | base => rfl
  | succ b hab ih =>
    have huntouched := hk b hab (Nat.lt_succ_self b)
    rw [stateAt, ← ih fun i ha hb => hk i ha (Nat.lt_succ_of_lt hb)]
    -- a history goes along with the states, for its invariant is what a sniffer call needs
    obtain ⟨h', hi', hstate⟩ := exists_history_stateAt hi between b
    rw [← hstate] at huntouched ⊢
    exact entry_foldl hi' (hsniffer b) huntouched

lemma enabled_stateAt {s : State} (hsniffer : ∀ i, ∀ op ∈ between i, op.isSnifferCall) (i : Nat) :
    (stateAt s between i).enabled = s.enabled := by
  induction i with
  | zero => rfl
  | succ i ih =>
    rw [stateAt, ← ih]
    exact List.foldlRecOn (motive := fun t : State => t.enabled = (stateAt s between i).enabled)
      (between i) State.step rfl fun _ ht op hop =>
        (enabled_step _ (hsniffer i op hop)).trans ht

/-! ## Reads that nobody disturbs -/

lemma readCell_congr {s s' : State} (hmutex : s'.mutex = s.mutex)
    (hentry : s'.entry k = s.entry k) (nowUs : Nat) (valueTimeoutS : UInt16) :
    s'.readCell nowUs k.slaveId k.function k.address valueTimeoutS =
      s.readCell nowUs k.slaveId k.function k.address valueTimeoutS := by
  have hlookup : ∀ t : State, t.lookup nowUs k.slaveId k.function k.address valueTimeoutS =
      if !t.mutex || !fcIsCacheable k.function then .notFound
      else
        match t.entry k with
        | none => .notFound
        | some (v, stampS) =>
          if 0 < valueTimeoutS ∧ valueTimeoutS ≤ nowS16 nowUs - stampS then .stale v
          else .found v := by
    intro t
    rw [State.lookup, State.entry]
    split
    · rfl
    · cases t.pool.bind fun pool => findEntry k.slaveId k.function k.address pool.slots <;> rfl
  rw [State.readCell, State.readCell, hlookup, hlookup, hmutex, hentry]

lemma registerLoop_congr :
    ∀ {n i : Nat}, (∀ j, i ≤ j → j < i + n → read j = read' j) →
      registerLoop read n i = registerLoop read' n i
  | 0, _, _ => rfl
  | n + 1, i, h => by
    rw [registerLoop, registerLoop, h i (le_refl i) (by omega),
      registerLoop_congr fun j h₁ h₂ => h j (by omega) (by omega)]

lemma coilLoop_congr :
    ∀ {n i : Nat} (buf : Bytes), (∀ j, i ≤ j → j < i + n → read j = read' j) →
      coilLoop read n i buf = coilLoop read' n i buf
  | 0, _, _, _ => rfl
  | n + 1, i, buf, h => by
    rw [coilLoop, coilLoop, h i (le_refl i) (by omega)]
    refine bind_congr fun value => ?_
    exact coilLoop_congr _ fun j h₁ h₂ => h j (by omega) (by omega)

lemma build_congr {count : UInt16} (h : ∀ j < count.toNat, read j = read' j) (register : Bool)
    (unitId fc : UInt8) (transactionId : Nat) (startAddr : UInt16) :
    (if register then buildRegisterResponse else buildCoilResponse) read unitId fc transactionId
        startAddr count =
      (if register then buildRegisterResponse else buildCoilResponse) read' unitId fc transactionId
        startAddr count := by
  cases register with
  | true =>
    simp only [if_true, buildRegisterResponse]
    rw [registerLoop_congr fun j _ hj => h j (by omega)]
  | false =>
    simp only [Bool.false_eq_true, if_false, buildCoilResponse]
    rw [coilLoop_congr _ fun j _ hj => h j (by omega)]

/-- A Modbus TCP read is answered from one state of the pool, the one at its lookup `m`, if until
then the sniffer stores no address that is already looked up, and from then on none that is still to
be looked up. -/
theorem processOneFrame_atomic (device : Bytes → Bytes) (ops : List Op) (between : Nat → List Op)
    (hsniffer : ∀ i, ∀ op ∈ between i, op.isSnifferCall) (clock : Nat → Nat)
    (valueTimeoutS : UInt16) (data : Bytes) (m : Nat) :
    let s := ops.foldl State.step (State.init true)
    let q := tcpReadReq data
    m ≤ q.count.toNat - 1 →
    (∀ i < m, ∀ j ≤ i, Untouched (q.key j) (stateAt s between i) (between i)) →
    (∀ i ≥ m, ∀ j > i, j < q.count.toNat →
      Untouched (q.key j) (stateAt s between i) (between i)) →
    processOneFrameDuring device s.enabled (stateAt s between) clock valueTimeoutS data =
      processOneFrame device (stateAt s between m) clock valueTimeoutS data := by
  intro s q hm hbefore hafter
  have hi := History.inv_run ops
  have hs : (ops.foldl History.step .init).state = s := History.state_run ops .init
  rw [← hs] at hbefore hafter ⊢
  generalize (ops.foldl History.step .init) = h at *
  -- every lookup of the range finds what the state at the lookup `m` holds
  have hread : ∀ j < q.count.toNat,
      (stateAt h.state between j).readCell (clock j) q.slaveId q.function
          (q.startReg + UInt16.ofNat j) valueTimeoutS =
        (stateAt h.state between m).readCell (clock j) q.slaveId q.function
          (q.startReg + UInt16.ofNat j) valueTimeoutS := by
    intro j hj
    obtain ⟨h₁, hi₁, hstate₁⟩ := exists_history_stateAt hi between j
    obtain ⟨h₂, hi₂, hstate₂⟩ := exists_history_stateAt hi between m
    refine readCell_congr (k := q.key j) ?_ ?_ (clock j) valueTimeoutS
    · rw [← hstate₁, ← hstate₂, hi₁.mutex, hi₂.mutex]
    rcases le_total j m with hjm | hmj
    · exact (entry_stateAt hi hsniffer hjm fun i hji him => hbefore i him j hji).symm
    · exact entry_stateAt hi hsniffer hmj fun i hmi hij => hafter i hmi j hij hj
  have hbuild := build_congr hread (isRegisterRead (tcpHeader data).function)
    (tcpHeader data).unitId (tcpHeader data).function (tcpHeader data).transactionId q.startReg
  simp only [q, tcpReadReq] at hbuild
  simp only [processOneFrame, processOneFrameDuring, enabled_stateAt hsniffer m]
  rw [hbuild]

/-- Three registers are read. The sniffer stores the third one after the first lookup and the first
one after the second lookup, so the answer is what the second lookup meets. -/
theorem processOneFrame_atomic_secondLookup :
    let ops : List Op := [.enable 0 true, .onRequest 0 1 3 100 3,
      .onResponse 1000 0 1 3 [1, 3, 6, 0, 1, 0, 2, 0, 3] 1000, .onRequest 0 1 3 102 1,
      .onRequest 1 1 3 100 1]
    let stores : List Op := [.onResponse 2000 0 1 3 [1, 3, 2, 0, 9] 2000,
      .onResponse 2500 1 1 3 [1, 3, 2, 0, 7] 2500]
    let between : Nat → List Op := fun i => (stores.drop i).take 1
    let s := ops.foldl State.step (State.init true)
    let data : Bytes := [0, 7, 0, 0, 0, 6, 1, 3, 0, 100, 0, 3]
    processOneFrameDuring id s.enabled (stateAt s between) (fun _ => 3000) 0 data =
        processOneFrame id (stateAt s between 1) (fun _ => 3000) 0 data ∧
      processOneFrame id (stateAt s between 1) (fun _ => 3000) 0 data =
        some [0, 7, 0, 0, 0, 9, 1, 3, 6, 0, 1, 0, 2, 0, 9] := by
  intro ops stores between s data
  have hcount : (tcpReadReq data).count.toNat = 3 := by decide
  -- a gap has one call at most
  have hgap {i : Nat} {k : Key} (hk : ∀ op ∈ between i, k ∉ (stateAt s between i).stores op) :
      Untouched k (stateAt s between i) (between i) := by
    rintro (_ | ⟨x, l₁⟩) op l₂ heq
    · exact hk op (by simp [heq])
    · have hlength : (between i).length ≤ 1 := List.length_take_le ..
      simp [heq] at hlength
  refine ⟨processOneFrame_atomic id ops between (fun i op hop => ?_) (fun _ => 3000) 0 data 1
    (by rw [hcount]; decide) (fun i hi j hj => hgap ?_) (fun i hi j hj hjc => hgap ?_),
    by decide +kernel⟩
  · have hall : ∀ op ∈ stores, op.isSnifferCall := by decide
    exact hall op (List.mem_of_mem_drop (List.mem_of_mem_take hop))
  · obtain rfl : i = 0 := by omega
    obtain rfl : j = 0 := by omega
    decide +kernel
  · obtain rfl : i = 1 := by omega
    obtain rfl : j = 2 := by omega
    decide +kernel

/-- Two registers hold one 32-bit quantity, `0x0000FFFF` and then `0x00010000`. The second response
is stored between the two lookups of a read, and the answer is neither. -/
theorem processOneFrame_torn :
    let ops : List Op := [.enable 0 true, .onRequest 0 1 3 100 2,
      .onResponse 1000 0 1 3 [1, 3, 4, 0x00, 0x00, 0xFF, 0xFF] 1000, .onRequest 0 1 3 100 2]
    let between : Nat → List Op := fun i =>
      if i = 0 then [.onResponse 2000 0 1 3 [1, 3, 4, 0x00, 0x01, 0x00, 0x00] 2000] else []
    let s := ops.foldl State.step (State.init true)
    let data : Bytes := [0, 7, 0, 0, 0, 6, 1, 3, 0, 100, 0, 2]
    processOneFrameDuring id s.enabled (stateAt s between) (fun _ => 3000) 0 data =
        some [0, 7, 0, 0, 0, 7, 1, 3, 4, 0x00, 0x00, 0x00, 0x00] ∧
      processOneFrame id (stateAt s between 0) (fun _ => 3000) 0 data =
        some [0, 7, 0, 0, 0, 7, 1, 3, 4, 0x00, 0x00, 0xFF, 0xFF] ∧
      processOneFrame id (stateAt s between 1) (fun _ => 3000) 0 data =
        some [0, 7, 0, 0, 0, 7, 1, 3, 4, 0x00, 0x01, 0x00, 0x00] := by
  decide +kernel

end WbMge.Cache
