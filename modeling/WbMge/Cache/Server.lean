import WbMge.Cache.Refinement

/-!
# The cache Modbus TCP server

The model of `process_one_frame` and the two response builders of `cache_modbus_server.c`, and the
way of a value from a response on the bus to the answer of the server.

A builder looks the addresses up one by one, each lookup taking the cache mutex and reading the
clock again; `clock i` is the clock at the lookup of offset `i`. The self-addressed requests are
answered by `mb_device_handle_self_request`, a parameter `device` here.
-/

namespace WbMge.Cache

/-! ## Building a response -/

def State.readCell (s : State) (nowUs : Nat) (unitId fc : UInt8) (address valueTimeoutS : UInt16) :
    Except UInt8 UInt16 :=
  match s.lookup nowUs unitId fc address valueTimeoutS with
  | .notFound => .error 0x02
  | .stale _ => .error 0x0B
  | .found value => .ok value

/-- The register loop from offset `i` on, `n` registers still to go. -/
def registerLoop (read : Nat → Except UInt8 UInt16) : Nat → Nat → Except UInt8 Bytes
  | 0, _ => .ok []
  | n + 1, i => do
    let value ← read i
    let rest ← registerLoop read n (i + 1)
    pure (be16 value.toNat ++ rest)

/-- The coil loop from offset `i` on, `n` coils still to go, over the bit buffer. -/
def coilLoop (read : Nat → Except UInt8 UInt16) : Nat → Nat → Bytes → Except UInt8 Bytes
  | 0, _, buf => .ok buf
  | n + 1, i, buf => do
    let value ← read i
    coilLoop read n (i + 1) (if value ≠ 0 then setBit buf i else buf)

/-- The normal answer to a read. -/
def readReply (transactionId : Nat) (unitId fc byteCount : UInt8) (payload : Bytes) : Bytes :=
  tcpAdu { transactionId, protocolId := 0, length := 3 + byteCount.toNat, unitId, function := fc }
    (byteCount :: payload)

/-- `cache_modbus_server_build_register_response`; the exception code is the error. -/
def buildRegisterResponse (read : Nat → Except UInt8 UInt16) (unitId fc : UInt8)
    (transactionId : Nat) (startAddr count : UInt16) : Except UInt8 Bytes :=
  if count = 0 ∨ maxReadRegisters < count then .error 0x03
  else if 0x10000 < startAddr.toNat + count.toNat then .error 0x02
  else do
    let payload ← registerLoop read count.toNat 0
    pure (readReply transactionId unitId fc (UInt8.ofNat (count.toNat * 2)) payload)

/-- `cache_modbus_server_build_coil_response`; the exception code is the error. -/
def buildCoilResponse (read : Nat → Except UInt8 UInt16) (unitId fc : UInt8)
    (transactionId : Nat) (startAddr count : UInt16) : Except UInt8 Bytes :=
  if count = 0 ∨ maxReadCoils < count then .error 0x03
  else if 0x10000 < startAddr.toNat + count.toNat then .error 0x02
  else do
    let coilBytes := UInt8.ofNat ((count.toNat + 7) / 8)
    let payload ← coilLoop read count.toNat 0 (List.replicate coilBytes.toNat 0)
    pure (readReply transactionId unitId fc coilBytes payload)

/-- `process_one_frame`: the ADU sent back, if any. Other tasks run between the lookups: `enabled`
is what `cache_multimaster_is_enabled` returned, and `states i` is the cache at the lookup of offset
`i`. -/
def processOneFrameDuring (device : Bytes → Bytes) (enabled : Bool) (states : Nat → State)
    (clock : Nat → Nat) (valueTimeoutS : UInt16) (data : Bytes) : Option Bytes :=
  if !modbusTcpCheckRequest data then none
  else
    let ⟨transactionId, _, _, unitId, fc⟩ := tcpHeader data
    let exception := modbusPduBuildException transactionId unitId fc
    -- the gateway's own registers are served whether or not the cache is on
    if mbDeviceIsSelf unitId then some (device data)
    else if !enabled then some (exception 0x02)
    else if !fcIsCacheable fc then some (exception 0x01)
    else if data.length < tcpHeaderSize + 4 then some (exception 0x01)
    else
      let request := modbusPduParseReadRequest (data.drop tcpHeaderSize)
      let startAddr := UInt16.ofNat request.1
      let count := UInt16.ofNat request.2
      let read i := (states i).readCell (clock i) unitId fc (startAddr + UInt16.ofNat i)
        valueTimeoutS
      let maxCount := if isRegisterRead fc then maxReadRegisters else maxReadCoils
      -- checked here and once more by the builder
      if count = 0 ∨ maxCount < count then some (exception 0x03)
      else
        let build := if isRegisterRead fc then buildRegisterResponse else buildCoilResponse
        match build read unitId fc transactionId startAddr count with
        | .error code => some (exception code)
        | .ok reply => some reply

/-- `process_one_frame` while no other task touches the cache. -/
def processOneFrame (device : Bytes → Bytes) (s : State) (clock : Nat → Nat)
    (valueTimeoutS : UInt16) (data : Bytes) : Option Bytes :=
  processOneFrameDuring device s.enabled (fun _ => s) clock valueTimeoutS data

/-! ## What the loops build -/

/-- The value at offset `i` of the data bytes of a read answer: the big-endian word, or the bit of
a bit-packed answer, least significant bit first. -/
def payloadValue (function : UInt8) (payload : Bytes) (i : Nat) : UInt16 :=
  if isRegisterRead function then
    UInt16.ofNat (u16be (byteAt payload (2 * i)) (byteAt payload (2 * i + 1)))
  else if bitAt payload i then 1 else 0

variable {read : Nat → Except UInt8 UInt16} {w : Nat → UInt16} {i : Nat} {payload : Bytes}
  {r q : ReadReq} {s : State} {a : Spec (UInt16 × UInt16)}

lemma registerLoop_ok :
    ∀ {n i : Nat}, (∀ j, i ≤ j → j < i + n → read j = .ok (w j)) →
      registerLoop read n i = .ok ((List.range' i n).flatMap fun j => be16 (w j).toNat)
  | 0, _, _ => rfl
  | n + 1, i, h => by
    have hrest := registerLoop_ok (n := n) (i := i + 1) fun j h₁ h₂ => h j (by omega) (by omega)
    rw [registerLoop, h i (le_refl i) (by omega), hrest]
    rfl

lemma registerLoop_error {exc : UInt8} (hexc : ∀ j exc', read j = .error exc' → exc' = exc) :
    ∀ {n i : Nat}, (∃ j, i ≤ j ∧ j < i + n ∧ read j = .error exc) →
      registerLoop read n i = .error exc
  | 0, _, h => absurd h (by omega)
  | n + 1, i, ⟨j, h₁, h₂, hj⟩ => by
    rw [registerLoop]
    cases hread : read i with
    | error exc' =>
      rw [hexc i exc' hread]
      rfl
    | ok value =>
      have hne : i ≠ j := by
        rintro rfl
        cases hread.symm.trans hj
      rw [registerLoop_error hexc ⟨j, by omega, by omega, hj⟩]
      rfl

lemma registerLoop_succ_eq_ok {n : Nat} :
    registerLoop read (n + 1) i = .ok payload ↔ ∃ value words, read i = .ok value ∧
      registerLoop read n (i + 1) = .ok words ∧ payload = be16 value.toNat ++ words := by
  rw [registerLoop]
  cases read i with
  | error e =>
    constructor
    · rintro ⟨⟩
    · rintro ⟨value, words, ⟨⟩, -⟩
  | ok value =>
    cases registerLoop read n (i + 1) with
    | error e =>
      constructor
      · rintro ⟨⟩
      · rintro ⟨value, words, -, ⟨⟩, -⟩
    | ok words =>
      constructor
      · intro h
        exact ⟨value, words, rfl, rfl, (Except.ok.inj h).symm⟩
      · rintro ⟨value, words, ⟨⟩, ⟨⟩, rfl⟩
        rfl

lemma u16be_flatMap (w : Nat → UInt16) :
    ∀ {n i : Nat} (start : Nat), i < n →
      UInt16.ofNat (u16be
        (byteAt ((List.range' start n).flatMap fun j => be16 (w j).toNat) (2 * i))
        (byteAt ((List.range' start n).flatMap fun j => be16 (w j).toNat) (2 * i + 1))) =
      w (start + i)
  | n + 1, 0, start, _ => by
    have hword := u16be_be16 (w start).toNat_lt
    rw [List.range'_succ, List.flatMap_cons]
    exact (congrArg UInt16.ofNat hword).trans (UInt16.ofNat_toNat ..)
  | n + 1, i + 1, start, h => by
    have ih := u16be_flatMap w (n := n) (i := i) (start + 1) (by omega)
    -- two bytes further on stands word `i` of the rest
    rw [List.range'_succ, List.flatMap_cons, ← Nat.add_right_comm, Nat.add_assoc] at *
    exact ih

lemma coilLoop_ok :
    ∀ {n i : Nat} (buf : Bytes), (∀ j, i ≤ j → j < i + n → read j = .ok (w j)) →
      (∀ j, j < i + n → j / 8 < buf.length) →
      ∃ buf', coilLoop read n i buf = .ok buf' ∧ buf'.length = buf.length ∧
        ∀ j, bitAt buf' j = (bitAt buf j || decide (i ≤ j ∧ j < i + n ∧ w j ≠ 0))
  | 0, i, buf, _, _ => ⟨buf, rfl, rfl, fun j => by
      have hnone : ¬ (i ≤ j ∧ j < i + 0 ∧ w j ≠ 0) := by omega
      rw [decide_eq_false hnone, Bool.or_false]⟩
  | n + 1, i, buf, h, hbuf => by
    obtain ⟨buf', hloop, hlen, hbits⟩ :=
      coilLoop_ok (n := n) (i := i + 1) (if w i ≠ 0 then setBit buf i else buf)
        (fun j h₁ h₂ => h j (by omega) (by omega))
        (fun j hj => by
          have hroom := hbuf j (by omega)
          split
          · rwa [length_setBit]
          · exact hroom)
    refine ⟨buf', ?_, ?_, fun j => ?_⟩
    · rw [coilLoop, h i (le_refl i) (by omega)]
      exact hloop
    · rw [hlen]
      split
      · exact length_setBit buf i
      · rfl
    · -- bit `j` is set by this turn, by a later one, or was set before
      rw [hbits]
      by_cases hw : w i = 0
      · by_cases hij : i = j
        · subst hij
          simp [hw]
        · have hiff : i + 1 ≤ j ↔ i ≤ j := by omega
          simp [hw, hiff, Nat.add_right_comm, Nat.add_assoc]
      · rw [if_pos hw, bitAt_setBit (hbuf i (by omega)), Bool.or_assoc]
        congr 1
        by_cases hij : i = j
        · subst hij
          simp [hw]
        · have hiff : i + 1 ≤ j ↔ i ≤ j := by omega
          simp [hij, hiff, Nat.add_right_comm, Nat.add_assoc]

/-! ## From the bus to the answer -/

/-- A response frame of the shape that answers `r`, with its data bytes and whatever follows them,
the CRC on a bus. -/
def ReadReq.response (r : ReadReq) (payload tail : Bytes) : Bytes :=
  r.slaveId :: r.function :: UInt8.ofNat r.numBytes :: (payload ++ tail)

/-- The Modbus TCP request for the range of `r`. -/
def ReadReq.tcpRequest (r : ReadReq) (transactionId : Nat) : Bytes :=
  tcpAdu
    { transactionId, protocolId := 0, length := 6, unitId := r.slaveId, function := r.function }
    (be16 r.startReg.toNat ++ be16 r.count.toNat)

/-- The read request in an ADU. -/
def tcpReadReq (data : Bytes) : ReadReq where
  slaveId := (tcpHeader data).unitId
  function := (tcpHeader data).function
  startReg := UInt16.ofNat (modbusPduParseReadRequest (data.drop tcpHeaderSize)).1
  count := UInt16.ofNat (modbusPduParseReadRequest (data.drop tcpHeaderSize)).2

/-- The request for `m` addresses from `b` on, to the same slave and function. -/
def ReadReq.subRange (r : ReadReq) (b m : UInt16) : ReadReq := { r with startReg := b, count := m }

lemma responseValue_response (tail : Bytes) (hlen : payload.length = r.numBytes)
    (hi : i < r.count.toNat) :
    responseValue r.function (r.response payload tail) i = payloadValue r.function payload i := by
  rw [ReadReq.numBytes] at hlen
  rw [responseValue, payloadValue, ReadReq.response]
  split
  · rename_i hreg
    rw [if_pos hreg] at hlen
    have h₁ : 3 + i * 2 = 2 * i + 1 + 1 + 1 := by omega
    rw [h₁]
    simp only [byteAt_cons_succ]
    rw [byteAt_append_left (by omega), byteAt_append_left (by omega)]
  · -- the source shifts the byte and masks it, which is the bit
    rename_i hreg
    rw [if_neg hreg] at hlen
    have h₁ : 3 + i / 8 = i / 8 + 1 + 1 + 1 := by omega
    rw [h₁]
    simp only [byteAt_cons_succ]
    rw [byteAt_append_left (by omega), ← UInt16.toNat_inj, UInt8.toNat_toUInt16,
      toNat_shiftRight_and_one _ (Nat.mod_lt i (by decide))]
    rw [bitAt]
    split <;> simp [*]

lemma answeredBy_response (hr : requestIsCacheable r.function r.startReg r.count) (tail : Bytes)
    (hlen : payload.length = r.numBytes) :
    r.answeredBy r.slaveId r.function (r.response payload tail) := by
  obtain ⟨-, hpos, hmax, -⟩ := requestIsCacheable_iff.1 hr
  -- the limits of the functions keep the byte count in one byte
  have hbytes : r.numBytes < 256 := by
    rw [ReadReq.numBytes]
    split at hmax <;> simp only [*, if_true, if_false, Bool.false_eq_true] <;> omega
  have hcount : byteAt (r.response payload tail) 2 = UInt8.ofNat r.numBytes := rfl
  have htotal : (r.response payload tail).length = 3 + r.numBytes + tail.length := by
    simp [ReadReq.response, hlen]
    omega
  simp only [ReadReq.answeredBy, hcount, htotal, beq_self_eq_true, Bool.and_eq_true,
    decide_eq_true_eq, beq_iff_eq, true_and, UInt8.toNat_ofNat']
  omega

lemma Refines.lookup_eq (h : Refines Prod.mk s a) {k : Key} (hk : fcIsCacheable k.function)
    {v stampS : UInt16} (hv : a.map.lookup k = some (v, stampS)) (nowUs : Nat)
    (valueTimeoutS : UInt16) :
    s.lookup nowUs k.slaveId k.function k.address valueTimeoutS =
      if 0 < valueTimeoutS ∧ valueTimeoutS ≤ nowS16 nowUs - stampS then .stale v else .found v := by
  obtain ⟨e, he, hkept⟩ := Option.map_eq_some_iff.1 ((h.findEntry_eq k).trans hv)
  obtain ⟨rfl, rfl⟩ := Prod.mk.inj hkept
  rw [State.lookup, h.mutex, hk, he]
  rfl

lemma not_stale {storedUs nowUs : Nat} {valueTimeoutS : UInt16} (hle : storedUs ≤ nowUs)
    (hfresh : valueTimeoutS = 0 ∨ nowUs / 1000000 - storedUs / 1000000 < valueTimeoutS.toNat) :
    ¬ (0 < valueTimeoutS ∧ valueTimeoutS ≤ nowS16 nowUs - nowS16 storedUs) := by
  rintro ⟨hpos, hage⟩
  rcases hfresh with rfl | hfresh
  · exact absurd hpos (by decide)
  have hlt := valueTimeoutS.toNat_lt
  -- the 16-bit difference is the difference of the second counters, which is below 2 ^ 16
  rw [UInt16.le_iff_toNat_le, toNat_age (Nat.div_le_div_right hle)] at hage
  omega

lemma lookup_answered (hon : a.allocated = true)
    (hr : requestIsCacheable r.function r.startReg r.count)
    (hfit : (a.map.keys ∪ ((List.range r.count.toNat).map r.key).toFinset).card ≤ maxEntries)
    {port : UInt8} (hport : port.toNat < bridgesCount) (tail : Bytes)
    (hlen : payload.length = r.numBytes) (nowUs timestampUs : Nat) (hi : i < r.count.toNat) :
    ((a.step Prod.mk (.onRequest port r.slaveId r.function r.startReg r.count)).step Prod.mk
      (.onResponse nowUs port r.slaveId r.function (r.response payload tail)
        timestampUs)).map.lookup
        (r.key i) = some (payloadValue r.function payload i, nowS16 nowUs) := by
  have hans := answeredBy_response hr tail hlen
  -- the request is pending and the response answers it, so the response is filed
  have hpend : (a.setPending ⟨port.toNat, hport⟩ (some r)).pending ⟨port.toNat, hport⟩ = some r :=
    Function.update_self ..
  have hmap := Spec.map_onResponse Prod.mk (a := a.setPending ⟨port.toNat, hport⟩ (some r)) hon
    hport hpend (length_of_answeredBy hr hans) hans nowUs timestampUs
  have hfst : (r.cells Prod.mk (nowS16 nowUs) (r.response payload tail)).map Prod.fst =
      (List.range r.count.toNat).map r.key := by
    simp [ReadReq.cells, Function.comp_def]
  rw [Spec.onRequest_of_cacheable Prod.mk a hport hr, hmap, ← responseValue_response tail hlen hi]
  refine SlotTable.lookup_insertWhile (hfst ▸ nodup_keys hr) (hfst ▸ hfit)
    (r.key i, responseValue r.function (r.response payload tail) i, nowS16 nowUs) ?_
  exact List.mem_map.2 ⟨i, List.mem_range.2 hi, rfl⟩

lemma Refines.readCell_answered (h : Refines Prod.mk s a) (hon : a.allocated = true)
    (hr : requestIsCacheable r.function r.startReg r.count)
    (hfit : (a.map.keys ∪ ((List.range r.count.toNat).map r.key).toFinset).card ≤ maxEntries)
    {port : UInt8} (hport : port.toNat < bridgesCount) (tail : Bytes)
    (hlen : payload.length = r.numBytes) {storedUs nowUs : Nat} (timestampUs : Nat)
    (hi : i < r.count.toNat) (hle : storedUs ≤ nowUs) {valueTimeoutS : UInt16}
    (hfresh : valueTimeoutS = 0 ∨ nowUs / 1000000 - storedUs / 1000000 < valueTimeoutS.toNat) :
    ((s.onRequest port r.slaveId r.function r.startReg r.count).onResponse storedUs port r.slaveId
      r.function (r.response payload tail) timestampUs).readCell nowUs r.slaveId r.function
        (r.startReg + UInt16.ofNat i) valueTimeoutS = .ok (payloadValue r.function payload i) := by
  have h' := (h.step (.onRequest port r.slaveId r.function r.startReg r.count)).step
    (.onResponse storedUs port r.slaveId r.function (r.response payload tail) timestampUs)
  have hv := lookup_answered hon hr hfit hport tail hlen storedUs timestampUs hi
  have hlookup := h'.lookup_eq (requestIsCacheable_iff.1 hr).1 hv nowUs valueTimeoutS
  rw [if_neg (not_stale hle hfresh)] at hlookup
  rw [State.readCell]
  exact hlookup ▸ rfl

lemma buildRegisterResponse_ok (hq : requestIsCacheable q.function q.startReg q.count)
    (hreg : isRegisterRead q.function = true) (hread : ∀ i < q.count.toNat, read i = .ok (w i))
    (transactionId : Nat) :
    ∃ answer : Bytes, answer.length = q.numBytes ∧
      buildRegisterResponse read q.slaveId q.function transactionId q.startReg q.count =
        .ok (readReply transactionId q.slaveId q.function (UInt8.ofNat q.numBytes) answer) ∧
      ∀ i < q.count.toNat, payloadValue q.function answer i = w i := by
  obtain ⟨-, hpos, hmax, hrange⟩ := requestIsCacheable_iff.1 hq
  rw [if_pos hreg] at hmax
  have hnum : q.numBytes = 2 * q.count.toNat := by rw [ReadReq.numBytes, if_pos hreg]
  -- the loop leaves the words one behind the other
  have hloop := registerLoop_ok (n := q.count.toNat) (i := 0) fun j _ hj => hread j (by omega)
  refine ⟨(List.range' 0 q.count.toNat).flatMap fun j => be16 (w j).toNat, ?_, ?_, ?_⟩
  · simp [hnum, Nat.mul_comm]
  · have hcount := not_count_exceeds hq
    rw [fcMaxCount, if_pos hreg] at hcount
    rw [buildRegisterResponse, if_neg hcount, if_neg (by omega), hloop, hnum, Nat.mul_comm]
    rfl
  · intro i hi
    rw [payloadValue, if_pos hreg, u16be_flatMap w 0 hi, Nat.zero_add]

lemma buildCoilResponse_ok (hq : requestIsCacheable q.function q.startReg q.count)
    (hreg : isRegisterRead q.function = false) (hread : ∀ i < q.count.toNat, read i = .ok (w i))
    (transactionId : Nat) :
    ∃ answer : Bytes, answer.length = q.numBytes ∧
      buildCoilResponse read q.slaveId q.function transactionId q.startReg q.count =
        .ok (readReply transactionId q.slaveId q.function (UInt8.ofNat q.numBytes) answer) ∧
      ∀ i, bitAt answer i = decide (i < q.count.toNat ∧ w i ≠ 0) := by
  obtain ⟨-, hpos, hmax, hrange⟩ := requestIsCacheable_iff.1 hq
  have hreg' : ¬ isRegisterRead q.function = true := by simp [hreg]
  rw [if_neg hreg'] at hmax
  have hnum : q.numBytes = (q.count.toNat + 7) / 8 := by rw [ReadReq.numBytes, if_neg hreg']
  have hbytes : (UInt8.ofNat q.numBytes).toNat = q.numBytes := by
    rw [UInt8.toNat_ofNat']
    omega
  -- the bits are set in a zeroed buffer, so a bit that was not set stays zero
  obtain ⟨answer, hloop, hlen, hbits⟩ :=
    coilLoop_ok (n := q.count.toNat) (i := 0) (List.replicate q.numBytes 0)
      (fun j _ hj => hread j (by omega)) (fun j hj => by rw [List.length_replicate]; omega)
  refine ⟨answer, by rw [hlen, List.length_replicate], ?_, fun i => ?_⟩
  · have hcount := not_count_exceeds hq
    rw [fcMaxCount, if_neg hreg'] at hcount
    rw [buildCoilResponse, if_neg hcount, if_neg (by omega), ← hnum]
    simp only [hbytes, hloop]
    rfl
  · rw [hbits, bitAt_replicate_zero, Bool.false_or]
    simp

lemma processOneFrame_tcpRequest (device : Bytes → Bytes) {s : State} (hon : s.enabled = true)
    (clock : Nat → Nat) (valueTimeoutS : UInt16) {q : ReadReq} (hself : q.slaveId ≠ 0xFF)
    (hq : requestIsCacheable q.function q.startReg q.count) {transactionId : Nat}
    (htid : transactionId < 65536) {reply : Bytes}
    (hbuild : (if isRegisterRead q.function then buildRegisterResponse else buildCoilResponse)
      (fun i => s.readCell (clock i) q.slaveId q.function (q.startReg + UInt16.ofNat i)
        valueTimeoutS) q.slaveId q.function transactionId q.startReg q.count = .ok reply) :
    processOneFrame device s clock valueTimeoutS (q.tcpRequest transactionId) = some reply := by
  have hfc := (requestIsCacheable_iff.1 hq).1
  have hheader : tcpHeader (q.tcpRequest transactionId) =
      ⟨transactionId, 0, 6, q.slaveId, q.function⟩ :=
    tcpHeader_tcpAdu _ htid (by simp) (by simp)
  have hlen : (q.tcpRequest transactionId).length = 12 := by
    simp [ReadReq.tcpRequest, tcpHeaderSize]
  have hcheck : modbusTcpCheckRequest (q.tcpRequest transactionId) = true := by
    simp [modbusTcpCheckRequest, hheader, hlen, tcpHeaderSize, unitIdOffset]
  have hparse : modbusPduParseReadRequest ((q.tcpRequest transactionId).drop tcpHeaderSize) =
      (q.startReg.toNat, q.count.toNat) :=
    congrArg₂ Prod.mk (u16be_be16 q.startReg.toNat_lt) (u16be_be16 q.count.toNat_lt)
  have hcount := not_count_exceeds hq
  rw [fcMaxCount] at hcount
  -- none of the checks in front of the builder answers
  simp only [processOneFrame, processOneFrameDuring, hcheck, hheader, mbDeviceIsSelf, hself, hon,
    hfc, hlen, tcpHeaderSize, Bool.not_true, Bool.false_eq_true, if_false, beq_iff_eq,
    Nat.reduceAdd, lt_self_iff_false]
  simp only [tcpHeaderSize] at hparse
  simp only [hparse, UInt16.ofNat_toNat, if_neg hcount, hbuild]

lemma requestIsCacheable_subRange (hr : requestIsCacheable r.function r.startReg r.count)
    {b m : UInt16} (hm : 0 < m.toNat)
    (hsub : b.toNat + m.toNat ≤ r.startReg.toNat + r.count.toNat)
    (hle : r.startReg.toNat ≤ b.toNat) :
    requestIsCacheable (r.subRange b m).function (r.subRange b m).startReg
      (r.subRange b m).count := by
  obtain ⟨hfc, -, hmax, hrange⟩ := requestIsCacheable_iff.1 hr
  refine requestIsCacheable_iff.2 ⟨hfc, hm, ?_, ?_⟩
  · exact (show m.toNat ≤ r.count.toNat by omega).trans hmax
  · exact hsub.trans hrange

/-- What a response on the bus carried is what the cache server answers for any part of its range,
until the second counter has advanced by the value timeout. -/
theorem served_endToEnd (device : Bytes → Bytes) (ops : List Op) (pool : Pool)
    (hpool : (ops.foldl State.step (State.init true)).pool = some pool)
    (port : UInt8) (hport : port.toNat < bridgesCount) {r : ReadReq} (hself : r.slaveId ≠ 0xFF)
    (hr : requestIsCacheable r.function r.startReg r.count)
    (hfit : (pool.keys.toFinset ∪ ((List.range r.count.toNat).map r.key).toFinset).card ≤
      maxEntries)
    (payload tail : Bytes) (hlen : payload.length = r.numBytes)
    (storedUs timestampUs : Nat) {b m : UInt16} (hm : 0 < m.toNat)
    (hle : r.startReg.toNat ≤ b.toNat)
    (hsub : b.toNat + m.toNat ≤ r.startReg.toNat + r.count.toNat)
    {clock : Nat → Nat} (hclock : ∀ i, storedUs ≤ clock i) {valueTimeoutS : UInt16}
    (hfresh : ∀ i < m.toNat, valueTimeoutS = 0 ∨
      clock i / 1000000 - storedUs / 1000000 < valueTimeoutS.toNat)
    {transactionId : Nat} (htid : transactionId < 65536) :
    let s := ((ops.foldl State.step (State.init true)).onRequest port r.slaveId r.function
      r.startReg r.count).onResponse storedUs port r.slaveId r.function
        (r.response payload tail) timestampUs
    ∃ answer : Bytes, answer.length = (r.subRange b m).numBytes ∧
      processOneFrame device s clock valueTimeoutS ((r.subRange b m).tcpRequest transactionId) =
        some (readReply transactionId r.slaveId r.function
          (UInt8.ofNat (r.subRange b m).numBytes) answer) ∧
      (∀ i < m.toNat, payloadValue r.function answer i =
        payloadValue r.function payload (b.toNat - r.startReg.toNat + i)) ∧
      (isRegisterRead r.function = false → ∀ i, m.toNat ≤ i → bitAt answer i = false) := by
  intro s
  have h₀ := refines_run Prod.mk ops
  have h := (h₀.step (.onRequest port r.slaveId r.function r.startReg r.count)).step
    (.onResponse storedUs port r.slaveId r.function (r.response payload tail) timestampUs)
  have hon : (ops.foldl (Spec.step Prod.mk) Spec.init).allocated = true := by
    rw [h₀.allocated, hpool]
    rfl
  have hq := requestIsCacheable_subRange hr hm hsub hle
  have henabled : s.enabled = true := by
    refine (h.enabled.trans h.allocated.symm).trans ?_
    rw [Spec.allocated_onResponse, Spec.allocated_onRequest, hon]
  -- every lookup of the request finds the value stored by the response, and finds it fresh
  have hread : ∀ i < m.toNat, s.readCell (clock i) r.slaveId r.function (b + UInt16.ofNat i)
      valueTimeoutS = .ok (payloadValue r.function payload (b.toNat - r.startReg.toNat + i)) := by
    intro i hi
    have haddr : b + UInt16.ofNat i =
        r.startReg + UInt16.ofNat (b.toNat - r.startReg.toNat + i) := by
      rw [← UInt16.toNat_inj]
      simp only [UInt16.toNat_add, UInt16.toNat_ofNat']
      omega
    have hkeys := (h₀.represents pool hpool).keys_eq
    rw [haddr]
    exact h₀.readCell_answered hon hr (hkeys ▸ hfit) hport tail hlen timestampUs (by omega)
      (hclock i) (hfresh i hi)
  cases hreg : isRegisterRead r.function with
  | true =>
    obtain ⟨answer, hbytes, hbuild, hvalues⟩ := buildRegisterResponse_ok hq hreg hread transactionId
    refine ⟨answer, hbytes, ?_, hvalues, fun hcoil => by cases hcoil⟩
    refine processOneFrame_tcpRequest (q := r.subRange b m) device henabled clock valueTimeoutS
      hself hq htid ?_
    rw [show (r.subRange b m).function = r.function from rfl, if_pos hreg]
    exact hbuild
  | false =>
    obtain ⟨answer, hbytes, hbuild, hbits⟩ := buildCoilResponse_ok hq hreg hread transactionId
    refine ⟨answer, hbytes, ?_, fun i hi => ?_, fun _ i hi => ?_⟩
    · refine processOneFrame_tcpRequest (q := r.subRange b m) device henabled clock valueTimeoutS
        hself hq htid ?_
      rw [show (r.subRange b m).function = r.function from rfl, hreg]
      exact hbuild
    · -- a coil is one bit, so the bit of the answer is the value itself
      have hcount : (r.subRange b m).count = m := rfl
      simp only [payloadValue, hreg, Bool.false_eq_true, if_false, hbits, hcount, hi, true_and]
      split <;> simp
    · have hcount : (r.subRange b m).count = m := rfl
      rw [hbits, hcount, decide_eq_false (fun hlt => absurd hlt.1 (Nat.not_lt.2 hi))]

lemma keys_zeroed : Pool.zeroed.keys = [] := by
  refine List.filterMap_eq_nil_iff.2 fun e he => ?_
  rw [List.eq_of_mem_replicate he, key?_zero]

/-- Twelve coils read from the bus; six of them, across a byte boundary, asked from the server. -/
theorem served_endToEnd_coils :
    let r : ReadReq := ⟨1, 1, 10, 12⟩
    let s := (((State.init true).enable 0 true).1.onRequest 0 1 1 10 12).onResponse 1500000 0 1 1
      (r.response [0xAC, 0x0B] [0x85, 0x3B]) 1400000
    ∃ answer : Bytes, answer.length = 1 ∧
      processOneFrame id s (fun _ => 2400000) 2 ((r.subRange 15 6).tcpRequest 7) =
        some (readReply 7 1 1 1 answer) ∧
      (∀ i < 6, payloadValue 1 answer i = payloadValue 1 [0xAC, 0x0B] (5 + i)) ∧
      (isRegisterRead 1 = false → ∀ i, 6 ≤ i → bitAt answer i = false) :=
  served_endToEnd id [.enable 0 true] .zeroed rfl 0 (by decide) (r := ⟨1, 1, 10, 12⟩) (by decide)
    (by decide) (by rw [keys_zeroed]; decide) [0xAC, 0x0B] [0x85, 0x3B] (by decide) 1500000 1400000
    (b := 15) (m := 6) (by decide) (by decide) (by decide) (fun _ => by decide)
    (fun _ _ => Or.inr (by decide)) (by decide)

/-- The age of a value is a difference of second counters: with a timeout of one second a value
stored 0.2 s ago is refused when a second boundary lies in between. -/
theorem served_acrossSecond :
    let r : ReadReq := ⟨1, 3, 100, 1⟩
    let s := (((State.init true).enable 0 true).1.onRequest 0 1 3 100 1).onResponse 900000 0 1 3
      (r.response [0x12, 0x34] [0xB5, 0x33]) 900000
    1100000 - 900000 < 1 * 1000000 ∧
      processOneFrame id s (fun _ => 1100000) 1 (r.tcpRequest 7) =
        some (modbusPduBuildException 7 1 3 0x0B) := by
  decide +kernel

end WbMge.Cache
