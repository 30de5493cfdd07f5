import WbMge.Device.Model
import WbMge.ToMathlib.Buffer

/-!
# The answers in their buffers

The response builders as the source runs them: stores into a buffer of the caller, header first,
then the byte count and the data, and last the length field. The builders of `cache_modbus_server.c`
and the one of `mb_device.c` share their body, `fillBody`, and differ in what they check before it.
A builder that returns 0 stops with the exception code it has set.

Each program is compared with the function that builds the same ADU as a list (`Buffer.Implements`),
and `processOneFrameInto_eq` carries that over to a whole call of `process_one_frame`: no store is
out of bounds, and what is sent is what the list model says.
-/

namespace WbMge

open Buffer

def maxAduLen : Nat := 260

/-! ## The programs -/

/-- `modbus_pdu_build_exception` in the buffer. -/
def modbusPduBuildExceptionInto (transactionId : Nat) (unitId fc exc : UInt8) :
    Prog UInt8 Empty Nat := do
  store 0 (be16 transactionId)
  store 2 (be16 0)
  store 4 (be16 3)
  store 6 [unitId]
  store 7 [fc ||| 0x80]
  store 8 [exc]
  pure (tcpHeaderSize + 1)

def fillHeader (transactionId : Nat) (unitId fc : UInt8) : Prog UInt8 UInt8 Unit := do
  store 0 (be16 transactionId)
  store 2 (be16 0)
  store 6 [unitId]
  store 7 [fc]

def fillBody (byteCount : UInt8) (fillData : Prog UInt8 UInt8 Unit) : Prog UInt8 UInt8 Nat := do
  store tcpHeaderSize [byteCount]
  fillData
  store 4 (be16 (3 + byteCount.toNat))
  pure (tcpHeaderSize + 1 + byteCount.toNat)

def fillRegisters (read : Nat → Except UInt8 UInt16) (count : Nat) : Prog UInt8 UInt8 Unit :=
  forUpto (fun i => do
    let value ← check (read i)
    store (tcpHeaderSize + 1 + i * 2) [UInt8.ofNat (value.toNat / 256)]
    store (tcpHeaderSize + 1 + i * 2 + 1) [UInt8.ofNat value.toNat]) count 0

def fillCoils (read : Nat → Except UInt8 UInt16) (coilBytes : UInt8) (count : Nat) :
    Prog UInt8 UInt8 Unit := do
  store (tcpHeaderSize + 1) (List.replicate coilBytes.toNat 0)
  forUpto (fun i => do
    let value ← check (read i)
    if value ≠ 0 then update (tcpHeaderSize + 1 + i / 8) (· ||| 1 <<< UInt8.ofNat (i % 8))
    else pure ()) count 0

namespace Cache

/-- `cache_modbus_server_build_register_response` in its buffer. -/
def buildRegisterResponseInto (read : Nat → Except UInt8 UInt16) (unitId fc : UInt8)
    (transactionId : Nat) (startAddr count : UInt16) : Prog UInt8 UInt8 Nat := do
  fillHeader transactionId unitId fc
  if count = 0 ∨ maxReadRegisters < count then throw 0x03
  else if 0x10000 < startAddr.toNat + count.toNat then throw 0x02
  else fillBody (UInt8.ofNat (count.toNat * 2)) (fillRegisters read count.toNat)

/-- `cache_modbus_server_build_coil_response` in its buffer. -/
def buildCoilResponseInto (read : Nat → Except UInt8 UInt16) (unitId fc : UInt8)
    (transactionId : Nat) (startAddr count : UInt16) : Prog UInt8 UInt8 Nat := do
  fillHeader transactionId unitId fc
  if count = 0 ∨ maxReadCoils < count then throw 0x03
  else if 0x10000 < startAddr.toNat + count.toNat then throw 0x02
  else
    let coilBytes := UInt8.ofNat ((count.toNat + 7) / 8)
    fillBody coilBytes (fillCoils read coilBytes count.toNat)

end Cache

namespace Device

/-- `mb_device_build_read_response` in its buffer. Unlike the builders of the cache it leaves the
count to its caller. -/
def mbDeviceBuildReadResponseInto (env : Nat → DeviceEnv) (unitId fc : UInt8) (transactionId : Nat)
    (startAddr count : UInt16) : Prog UInt8 UInt8 Nat :=
  if !isRegisterRead fc then throw 0x01
  else if 0x10000 < startAddr.toNat + count.toNat then throw 0x02
  else do
    fillHeader transactionId unitId fc
    fillBody (UInt8.ofNat (count.toNat * 2)) (fillRegisters (readReg env startAddr) count.toNat)

/-- `mb_device_handle_self_request` in its buffer: an exception overwrites what the builder left
there. -/
def mbDeviceHandleSelfRequestInto (env : Nat → DeviceEnv) (req : Bytes) : Prog UInt8 Empty Nat :=
  let ⟨transactionId, _, _, unitId, fc⟩ := tcpHeader req
  let exception := modbusPduBuildExceptionInto transactionId unitId fc
  if !isRegisterRead fc then exception 0x01
  else if req.length < tcpHeaderSize + 4 then exception 0x03
  else
    let request := modbusPduParseReadRequest (req.drop tcpHeaderSize)
    let start := UInt16.ofNat request.1
    let count := UInt16.ofNat request.2
    if count < 1 ∨ maxReadRegisters < count then exception 0x03
    else
      rescue (mbDeviceBuildReadResponseInto env unitId fc transactionId start count) exception

end Device

namespace Cache

/-- The local arrays of `process_one_frame` and `send_exception`, with the contents they happen to
have. -/
structure Locals where
  respBuf : Bytes
  devResp : Bytes
  exceptionBuf : Bytes
  length_respBuf : respBuf.length = 512
  length_devResp : devResp.length = maxAduLen
  length_exceptionBuf : exceptionBuf.length = tcpHeaderSize + 1

/-- The bytes that go to the client; a length beyond the buffer has no result. -/
def tcpServerSend (buf : Bytes) (len : Nat) : Option (List Bytes) :=
  if len ≤ buf.length then some [buf.take len] else none

/-- Build an ADU in `buf` and send it. -/
def sendFilled (m : Prog UInt8 Empty Nat) (buf : Bytes) : Option (List Bytes) :=
  match m.exec buf with
  | none => none
  | some (.ok len, buf) => tcpServerSend buf len

/-- Build an answer in `buf` and send it, or the exception the builder stopped with. -/
def sendBuilt (m : Prog UInt8 UInt8 Nat) (buf : Bytes)
    (sendException : UInt8 → Option (List Bytes)) : Option (List Bytes) :=
  match m.exec buf with
  | none => none
  | some (.error code, _) => sendException code
  | some (.ok len, buf) => tcpServerSend buf len

/-- `process_one_frame` with its buffers: the ADUs it sends, or `none` if it goes outside a buffer.
`enabled`, `states`, `clock` and `env` are what the calls it makes find. -/
def processOneFrameInto (env : Nat → Device.DeviceEnv) (enabled : Bool) (states : Nat → State)
    (clock : Nat → Nat) (valueTimeoutS : UInt16) (locals : Locals) (data : Bytes) :
    Option (List Bytes) :=
  if !modbusTcpCheckRequest data then some []
  else
    let ⟨transactionId, _, _, unitId, fc⟩ := tcpHeader data
    let sendException exc :=
      sendFilled (modbusPduBuildExceptionInto transactionId unitId fc exc) locals.exceptionBuf
    if mbDeviceIsSelf unitId then
      sendFilled (Device.mbDeviceHandleSelfRequestInto env data) locals.devResp
    else if !enabled then sendException 0x02
    else if !fcIsCacheable fc then sendException 0x01
    else if data.length < tcpHeaderSize + 4 then sendException 0x01
    else
      let request := modbusPduParseReadRequest (data.drop tcpHeaderSize)
      let startAddr := UInt16.ofNat request.1
      let count := UInt16.ofNat request.2
      let read i := (states i).readCell (clock i) unitId fc (startAddr + UInt16.ofNat i)
        valueTimeoutS
      let maxCount := if isRegisterRead fc then maxReadRegisters else maxReadCoils
      if count = 0 ∨ maxCount < count then sendException 0x03
      else
        let build := if isRegisterRead fc then buildRegisterResponseInto else buildCoilResponseInto
        sendBuilt (build read unitId fc transactionId startAddr count) locals.respBuf sendException

end Cache

/-! ## The loops -/

/-- After the data bytes: the buffer is `hdr`, the data and a rest, or the error is that of
`spec`. -/
def Filled (hdr rest : Bytes) (spec : Except UInt8 Bytes) (r : Except UInt8 Unit) (buf : Bytes) :
    Prop :=
  buf.length = hdr.length + rest.length ∧ match spec with
    | .error e => r = .error e
    | .ok payload => r = .ok () ∧ ∃ tail, buf = hdr ++ (payload ++ tail)

variable {read : Nat → Except UInt8 UInt16} {transactionId : Nat} {unitId fc : UInt8}

lemma wp_fillRegisters {hdr rest : Bytes} {count : Nat} (hhdr : hdr.length = tcpHeaderSize + 1)
    (hroom : count * 2 ≤ rest.length) :
    wp (fillRegisters read count) (Filled hdr rest (Cache.registerLoop read count 0))
      (hdr ++ rest) := by
  -- before turn `i` the words before it are in the buffer, and what the loop over lists still
  -- gives from `i` on comes after them
  refine wp_forUpto (fun i buf => ∃ done tail, buf = hdr ++ (done ++ tail) ∧
      done.length = i * 2 ∧ done.length + tail.length = rest.length ∧
      Cache.registerLoop read count 0 = (Cache.registerLoop read (count - i) i).map (done ++ ·))
    ?_ ?_ count 0 (Nat.zero_add _) ⟨[], rest, rfl, rfl, Nat.zero_add _, ?_⟩
  · rintro buf ⟨done, tail, rfl, -, hlen, hspec⟩
    rw [Nat.sub_self] at hspec
    refine ⟨by simp [hlen], ?_⟩
    rw [hspec]
    exact ⟨rfl, tail, by simp⟩
  · rintro i buf hi ⟨done, tail, rfl, hdone, hlen, hspec⟩
    obtain ⟨k, hk⟩ : ∃ k, count - i = k + 1 := ⟨count - i - 1, by omega⟩
    rw [hk, Cache.registerLoop] at hspec
    rw [wp_bind, wp_check]
    cases hread : read i with
    | error e =>
      rw [hread] at hspec
      refine ⟨by simp [hlen], ?_⟩
      rw [hspec]
      rfl
    | ok value =>
      -- the two bytes go where the tail begins
      obtain ⟨t₀, t₁, tail', rfl⟩ : ∃ t₀ t₁ tail', tail = t₀ :: t₁ :: tail' := by
        have htail : 2 ≤ tail.length := by omega
        obtain ⟨t₀, tail, rfl⟩ := List.exists_cons_of_length_pos (by omega : 0 < tail.length)
        rw [List.length_cons] at htail
        obtain ⟨t₁, tail, rfl⟩ := List.exists_cons_of_length_pos (by omega : 0 < tail.length)
        exact ⟨t₀, t₁, tail, rfl⟩
      have hhigh : (hdr ++ done).length = tcpHeaderSize + 1 + i * 2 := by
        rw [List.length_append, hhdr, hdone]
      have hlow : (hdr ++ done ++ [UInt8.ofNat (value.toNat / 256)]).length =
          tcpHeaderSize + 1 + i * 2 + 1 := by
        rw [List.length_append, hhigh, List.length_singleton]
      rw [Then_ok, wp_bind, ← List.append_assoc, wp_store_singleton _ _ _ hhigh, Then_ok,
        List.append_cons (hdr ++ done), wp_store_singleton _ _ _ hlow]
      refine ⟨done ++ be16 value.toNat, tail', by simp [be16], ?_, ?_, ?_⟩
      · rw [List.length_append, hdone, length_be16]
        omega
      · rw [List.length_append, length_be16, ← hlen, List.length_cons, List.length_cons]
        omega
      · obtain rfl : k = count - (i + 1) := by omega
        rw [hspec, hread]
        cases Cache.registerLoop read (count - (i + 1)) (i + 1) with
        | error e => rfl
        | ok words => exact congrArg Except.ok (List.append_assoc ..).symm
  · rw [Nat.sub_zero]
    cases Cache.registerLoop read count 0 <;> rfl

lemma wp_fillCoils {hdr rest : Bytes} {coilBytes : UInt8} {count : Nat}
    (hhdr : hdr.length = tcpHeaderSize + 1) (hcoils : count ≤ coilBytes.toNat * 8)
    (hroom : coilBytes.toNat ≤ rest.length) :
    wp (fillCoils read coilBytes count)
      (Filled hdr rest (Cache.coilLoop read count 0 (List.replicate coilBytes.toNat 0)))
      (hdr ++ rest) := by
  obtain ⟨old, rest, rfl, hold⟩ : ∃ old rest', rest = old ++ rest' ∧ old.length = coilBytes.toNat :=
    ⟨rest.take coilBytes.toNat, rest.drop coilBytes.toNat, (List.take_append_drop ..).symm,
      List.length_take_of_le hroom⟩
  rw [fillCoils, wp_bind, wp_store_append rest hhdr (by rw [hold, List.length_replicate]), Then_ok]
  -- before turn `i` the bit buffer is the one the loop over lists goes on with
  refine wp_forUpto (fun i buf => ∃ bits, buf = hdr ++ (bits ++ rest) ∧
      bits.length = coilBytes.toNat ∧
      Cache.coilLoop read count 0 (List.replicate coilBytes.toNat 0) =
        Cache.coilLoop read (count - i) i bits)
    ?_ ?_ count 0 (Nat.zero_add _) ⟨_, rfl, List.length_replicate, rfl⟩
  · rintro buf ⟨bits, rfl, hbits, hspec⟩
    rw [Nat.sub_self] at hspec
    refine ⟨by simp [hbits, hold], ?_⟩
    rw [hspec]
    exact ⟨rfl, rest, rfl⟩
  · rintro i buf hi ⟨bits, rfl, hbits, hspec⟩
    obtain ⟨k, hk⟩ : ∃ k, count - i = k + 1 := ⟨count - i - 1, by omega⟩
    rw [hk, Cache.coilLoop] at hspec
    obtain rfl : k = count - (i + 1) := by omega
    rw [wp_bind, wp_check]
    cases hread : read i with
    | error e =>
      rw [hread] at hspec
      refine ⟨by simp [hbits, hold], ?_⟩
      rw [hspec]
      rfl
    | ok value =>
      -- a set bit is written into its byte, a clear one writes nothing
      rw [hread] at hspec
      change _ = Cache.coilLoop read (count - (i + 1)) (i + 1)
        (if value ≠ 0 then setBit bits i else bits) at hspec
      rw [Then_ok]
      by_cases hvalue : value ≠ 0
      · rw [if_pos hvalue] at hspec
        rw [if_pos hvalue, ← hhdr, wp_update_append _ _ (by omega)]
        exact ⟨setBit bits i, rfl, (length_setBit ..).trans hbits, hspec⟩
      · rw [if_neg hvalue] at hspec
        rw [if_neg hvalue, wp_pure]
        exact ⟨bits, rfl, hbits, hspec⟩

/-! ## The builders -/

@[simp] lemma length_readReply (transactionId : Nat) (unitId fc byteCount : UInt8)
    (payload : Bytes) : (Cache.readReply transactionId unitId fc byteCount payload).length =
      tcpHeaderSize + 1 + payload.length := by
  rw [Cache.readReply, length_tcpAdu, List.length_cons]
  omega

lemma length_registerLoop :
    ∀ {n i : Nat} {payload : Bytes},
    Cache.registerLoop read n i = .ok payload → payload.length = n * 2
  | 0, _, _, h => by
    obtain rfl := Except.ok.inj h
    rfl
  | n + 1, i, payload, h => by
    obtain ⟨value, words, -, hrest, rfl⟩ := Cache.registerLoop_succ_eq_ok.1 h
    rw [List.length_append, length_be16, length_registerLoop hrest]
    omega

lemma length_coilLoop :
    ∀ {n i : Nat} {buf payload : Bytes},
    Cache.coilLoop read n i buf = .ok payload → payload.length = buf.length
  | 0, _, _, _, h => by
    obtain rfl := Except.ok.inj h
    rfl
  | n + 1, i, buf, payload, h => by
    rw [Cache.coilLoop] at h
    cases hread : read i with
    | error e =>
      rw [hread] at h
      cases h
    | ok value =>
      rw [hread] at h
      have ih := length_coilLoop h
      split at ih
      · rwa [length_setBit] at ih
      · exact ih

def answerHeader (transactionId : Nat) (lengthField : Bytes) (unitId fc byteCount : UInt8) :
    Bytes :=
  be16 transactionId ++ be16 0 ++ lengthField ++ [unitId, fc, byteCount]

lemma length_answerHeader {lengthField : Bytes} (h : lengthField.length = 2) (transactionId : Nat)
    (unitId fc byteCount : UInt8) :
    (answerHeader transactionId lengthField unitId fc byteCount).length = tcpHeaderSize + 1 := by
  simp [answerHeader, h, tcpHeaderSize]

lemma exists_nine {buf : Bytes} (h : 9 ≤ buf.length) :
    ∃ b₀ b₁ b₂ b₃ b₄ b₅ b₆ b₇ b₈ rest,
      buf = b₀ :: b₁ :: b₂ :: b₃ :: b₄ :: b₅ :: b₆ :: b₇ :: b₈ :: rest := by
  match buf, h with
  | b₀ :: b₁ :: b₂ :: b₃ :: b₄ :: b₅ :: b₆ :: b₇ :: b₈ :: rest, _ =>
    exact ⟨b₀, b₁, b₂, b₃, b₄, b₅, b₆, b₇, b₈, rest, rfl⟩

def Headed (transactionId : Nat) (unitId fc : UInt8) (buf : Bytes) : Prop :=
  maxAduLen ≤ buf.length ∧ ∃ lengthField b rest, lengthField.length = 2 ∧
    buf = answerHeader transactionId lengthField unitId fc b ++ rest

lemma implements_fillHeader {m : Prog UInt8 UInt8 Nat} {spec : Except UInt8 Bytes}
    (h : Implements (Headed transactionId unitId fc) m spec) :
    Implements (HasRoom maxAduLen) (do fillHeader transactionId unitId fc; m) spec := by
  intro buf hbuf
  obtain ⟨b₀, b₁, b₂, b₃, b₄, b₅, b₆, b₇, b₈, rest, rfl⟩ := exists_nine (le_trans (by decide) hbuf)
  -- the length field keeps its old bytes for now
  have hlen : (answerHeader transactionId [b₄, b₅] unitId fc b₈ ++ rest).length =
      (b₀ :: b₁ :: b₂ :: b₃ :: b₄ :: b₅ :: b₆ :: b₇ :: b₈ :: rest).length := by
    rw [List.length_append, length_answerHeader rfl, Nat.add_comm]
    rfl
  have hpost := h (answerHeader transactionId [b₄, b₅] unitId fc b₈ ++ rest)
    ⟨le_of_le_of_eq hbuf hlen.symm, [b₄, b₅], b₈, rest, rfl, rfl⟩
  rw [hlen] at hpost
  rw [wp_bind]
  simpa [fillHeader, splice, be16, answerHeader] using hpost

lemma implements_fillBody {transactionId : Nat} {unitId fc byteCount : UInt8}
    {fillData : Prog UInt8 UInt8 Unit} {spec : Except UInt8 Bytes}
    (hdata : ∀ hdr rest, hdr.length = tcpHeaderSize + 1 → maxAduLen ≤ hdr.length + rest.length →
      wp fillData (Filled hdr rest spec) (hdr ++ rest))
    (hspec : ∀ payload, spec = .ok payload → payload.length = byteCount.toNat) :
    Implements (Headed transactionId unitId fc) (fillBody byteCount fillData)
      (spec.map (Cache.readReply transactionId unitId fc byteCount)) := by
  rintro buf ⟨hroom, lengthField, b, rest, hfield, rfl⟩
  have hcount (c : UInt8) (l : Bytes) : answerHeader transactionId lengthField unitId fc c ++ l =
      be16 transactionId ++ be16 0 ++ lengthField ++ [unitId, fc] ++ c :: l := by
    simp [answerHeader]
  have hpos : (be16 transactionId ++ be16 0 ++ lengthField ++ [unitId, fc]).length =
      tcpHeaderSize := by
    simp [hfield, tcpHeaderSize]
  have hhdr (c : UInt8) := length_answerHeader hfield transactionId unitId fc c
  rw [List.length_append, hhdr] at hroom ⊢
  -- the byte count goes right behind the header, the data behind it
  rw [fillBody, wp_bind, hcount, wp_store_singleton _ _ _ hpos, Then_ok, ← hcount, wp_bind]
  refine wp_mono (hdata _ rest (hhdr byteCount) (by rwa [hhdr])) fun r buf hfilled => ?_
  obtain ⟨hlen, hresult⟩ := hfilled
  rw [hhdr] at hlen
  cases spec with
  | error e =>
    subst hresult
    exact ⟨hlen, rfl⟩
  | ok payload =>
    obtain ⟨rfl, tail, rfl⟩ := hresult
    -- only now is the length field overwritten, in the middle of what is there
    have hfields : answerHeader transactionId lengthField unitId fc byteCount ++ (payload ++ tail) =
        be16 transactionId ++ be16 0 ++
          (lengthField ++ ([unitId, fc, byteCount] ++ (payload ++ tail))) := by
      simp [answerHeader]
    have hreply : be16 transactionId ++ be16 0 ++
        (be16 (3 + byteCount.toNat) ++ ([unitId, fc, byteCount] ++ (payload ++ tail))) =
        Cache.readReply transactionId unitId fc byteCount payload ++ tail := by
      simp [Cache.readReply, tcpAdu]
    have hat : (be16 transactionId ++ be16 0).length = 4 := rfl
    have hsame : lengthField.length = (be16 (3 + byteCount.toNat)).length := hfield
    rw [Then_ok, wp_bind, hfields, wp_store_append _ hat hsame, hreply, Then_ok, wp_pure]
    refine leaves_ok ?_ ?_
    · simp only [List.length_append, hhdr] at hlen
      rw [List.length_append, length_readReply]
      omega
    · rw [length_readReply, hspec payload rfl]

lemma implements_registers {count : UInt16} (hcount : ¬ maxReadRegisters < count) :
    Implements (Headed transactionId unitId fc)
      (fillBody (UInt8.ofNat (count.toNat * 2)) (fillRegisters read count.toNat))
      ((Cache.registerLoop read count.toNat 0).map
        (Cache.readReply transactionId unitId fc (UInt8.ofNat (count.toNat * 2)))) := by
  -- at most 250 bytes of data: they fit into the buffer, and the byte count into a byte
  have hmax : count.toNat ≤ 125 := UInt16.le_iff_toNat_le.1 (UInt16.not_lt.1 hcount)
  refine implements_fillBody (fun hdr rest hhdr hroom => wp_fillRegisters hhdr ?_)
    fun payload hpayload => ?_
  · simp only [maxAduLen, hhdr, tcpHeaderSize] at hroom
    omega
  · rw [length_registerLoop hpayload, UInt8.toNat_ofNat']
    omega

lemma implements_coils {count : UInt16} (hcount : ¬ maxReadCoils < count) :
    Implements (Headed transactionId unitId fc)
      (fillBody (UInt8.ofNat ((count.toNat + 7) / 8))
        (fillCoils read (UInt8.ofNat ((count.toNat + 7) / 8)) count.toNat))
      ((Cache.coilLoop read count.toNat 0
          (List.replicate (UInt8.ofNat ((count.toNat + 7) / 8)).toNat 0)).map
        (Cache.readReply transactionId unitId fc (UInt8.ofNat ((count.toNat + 7) / 8)))) := by
  -- 2000 coils take 250 bytes, as many as 125 registers
  have hmax : count.toNat ≤ 2000 := UInt16.le_iff_toNat_le.1 (UInt16.not_lt.1 hcount)
  have hbytes : (UInt8.ofNat ((count.toNat + 7) / 8)).toNat = (count.toNat + 7) / 8 := by
    rw [UInt8.toNat_ofNat']
    omega
  refine implements_fillBody (fun hdr rest hhdr hroom => wp_fillCoils hhdr ?_ ?_)
    fun payload hpayload => ?_
  · omega
  · simp only [maxAduLen, hhdr, tcpHeaderSize] at hroom
    omega
  · rw [length_coilLoop hpayload, List.length_replicate]

namespace Cache

lemma buildRegisterResponseInto_implements (read : Nat → Except UInt8 UInt16) (unitId fc : UInt8)
    (transactionId : Nat) (startAddr count : UInt16) :
    Implements (HasRoom maxAduLen)
      (buildRegisterResponseInto read unitId fc transactionId startAddr count)
      (buildRegisterResponse read unitId fc transactionId startAddr count) := by
  rw [buildRegisterResponse, bind_pure_comp]
  refine implements_fillHeader (.ite (fun _ => implements_throw _) fun hcount =>
    .ite (fun _ => implements_throw _) fun _ => ?_)
  exact implements_registers (not_or.1 hcount).2

lemma buildCoilResponseInto_implements (read : Nat → Except UInt8 UInt16) (unitId fc : UInt8)
    (transactionId : Nat) (startAddr count : UInt16) :
    Implements (HasRoom maxAduLen)
      (buildCoilResponseInto read unitId fc transactionId startAddr count)
      (buildCoilResponse read unitId fc transactionId startAddr count) := by
  rw [buildCoilResponse, bind_pure_comp]
  refine implements_fillHeader (.ite (fun _ => implements_throw _) fun hcount =>
    .ite (fun _ => implements_throw _) fun _ => ?_)
  exact implements_coils (not_or.1 hcount).2

end Cache

lemma modbusPduBuildExceptionInto_implements (transactionId : Nat) (unitId fc exc : UInt8) :
    Implements (HasRoom (tcpHeaderSize + 1))
      (modbusPduBuildExceptionInto transactionId unitId fc exc)
      (.ok (modbusPduBuildException transactionId unitId fc exc)) := by
  intro buf hbuf
  obtain ⟨b₀, b₁, b₂, b₃, b₄, b₅, b₆, b₇, b₈, rest, rfl⟩ := exists_nine hbuf
  have hleaves : Leaves (.ok (modbusPduBuildException transactionId unitId fc exc))
      (b₀ :: b₁ :: b₂ :: b₃ :: b₄ :: b₅ :: b₆ :: b₇ :: b₈ :: rest).length
      (.ok (tcpHeaderSize + 1) : Except Empty Nat)
      (modbusPduBuildException transactionId unitId fc exc ++ rest) :=
    leaves_ok (by rw [List.length_append, Nat.add_comm]; rfl) rfl
  simpa [-bind_pure_comp, modbusPduBuildExceptionInto, splice, be16, modbusPduBuildException,
    tcpAdu] using hleaves

namespace Device

lemma mbDeviceBuildReadResponseInto_implements (env : Nat → DeviceEnv) (unitId fc : UInt8)
    (transactionId : Nat) (startAddr : UInt16) {count : UInt16}
    (hcount : ¬ maxReadRegisters < count) :
    Implements (HasRoom maxAduLen)
      (mbDeviceBuildReadResponseInto env unitId fc transactionId startAddr count)
      (mbDeviceBuildReadResponse env unitId fc transactionId startAddr count) := by
  rw [mbDeviceBuildReadResponse, bind_pure_comp]
  refine .ite (fun _ => implements_throw _) fun _ => .ite (fun _ => implements_throw _) fun _ => ?_
  exact implements_fillHeader (implements_registers hcount)

lemma mbDeviceHandleSelfRequestInto_implements (env : Nat → DeviceEnv) (req : Bytes) :
    Implements (HasRoom maxAduLen) (mbDeviceHandleSelfRequestInto env req)
      (.ok (mbDeviceHandleSelfRequest env req)) := by
  have hexception (exc : UInt8) : Implements (HasRoom maxAduLen) (modbusPduBuildExceptionInto
      (tcpHeader req).transactionId (tcpHeader req).unitId (tcpHeader req).function exc) _ :=
    fun buf hbuf => modbusPduBuildExceptionInto_implements _ _ _ exc buf (le_trans (by decide) hbuf)
  simp only [mbDeviceHandleSelfRequestInto, mbDeviceHandleSelfRequest]
  split
  · exact hexception 0x01
  split
  · exact hexception 0x03
  split
  · exact hexception 0x03
  rename_i hcount
  refine (mbDeviceBuildReadResponseInto_implements env _ _ _ _ (not_or.1 hcount).2).rescue
    (fun l hl => ?_) fun exc hexc => ?_
  · rw [hl]
  · -- the exception is built over what the read response left in the buffer
    rw [hexc]
    exact hexception exc

end Device

namespace Cache

/-! ## The server -/

variable {buf reply req : Bytes} {read : Nat → Except UInt8 UInt16}

lemma tcpServerSend_eq (h : buf.take reply.length = reply) :
    tcpServerSend buf reply.length = some [reply] := by
  have hroom : reply.length ≤ buf.length := by
    rw [← h]
    exact List.length_take_le' ..
  rw [tcpServerSend, if_pos hroom, h]

lemma sendFilled_eq {size : Nat} {m : Prog UInt8 Empty Nat}
    (h : Implements (HasRoom size) m (.ok reply)) (hbuf : size ≤ buf.length) :
    sendFilled m buf = some [reply] := by
  obtain ⟨r, buf', hexec, -, rfl, htake⟩ := h buf hbuf
  rw [sendFilled, hexec]
  exact tcpServerSend_eq htake

lemma sendBuilt_eq {size : Nat} {m : Prog UInt8 UInt8 Nat} {spec : Except UInt8 Bytes}
    (h : Implements (HasRoom size) m spec) (hbuf : size ≤ buf.length) (exception : UInt8 → Bytes) :
    sendBuilt m buf (fun code => some [exception code]) =
      some (match spec with
        | .error code => some (exception code)
        | .ok reply => some reply).toList := by
  obtain ⟨r, buf', hexec, -, hresult⟩ := h buf hbuf
  rw [sendBuilt, hexec]
  cases spec with
  | error code =>
    subst hresult
    rfl
  | ok reply =>
    obtain ⟨rfl, htake⟩ := hresult
    exact tcpServerSend_eq htake

/-- The server with its buffers sends what the list model answers, and goes outside none of
them. -/
lemma processOneFrameInto_eq (env : Nat → Device.DeviceEnv) (enabled : Bool)
    (states : Nat → State) (clock : Nat → Nat) (valueTimeoutS : UInt16) (locals : Locals)
    (data : Bytes) :
    processOneFrameInto env enabled states clock valueTimeoutS locals data =
      some (processOneFrameDuring (Device.mbDeviceHandleSelfRequest env) enabled states clock
        valueTimeoutS data).toList := by
  have hexception (exc : UInt8) := sendFilled_eq (modbusPduBuildExceptionInto_implements
    (tcpHeader data).transactionId (tcpHeader data).unitId (tcpHeader data).function exc)
    locals.length_exceptionBuf.ge
  have hdevice := sendFilled_eq (Device.mbDeviceHandleSelfRequestInto_implements env data)
    locals.length_devResp.ge
  have hroom : maxAduLen ≤ locals.respBuf.length := by
    rw [locals.length_respBuf]
    decide
  simp only [processOneFrameInto, processOneFrameDuring, hexception, hdevice]
  -- not a request, the gateway itself, cache off, function not served, request cut short
  split
  · rfl
  split
  · rfl
  split
  · rfl
  split
  · rfl
  split
  · rfl
  -- the count is checked against the limit of the function, then its builder runs
  split <;> split
  · rfl
  · exact sendBuilt_eq (buildRegisterResponseInto_implements _ _ _ _ _ _) hroom _
  · rfl
  · exact sendBuilt_eq (buildCoilResponseInto_implements _ _ _ _ _ _) hroom _

/-! ## What an answer looks like -/

/-- `reply` is a well formed answer to `req`: it repeats transaction and unit id, its length field
covers the rest of it, and it is either data in the number the request asks for or an exception. -/
structure IsReplyTo (req reply : Bytes) : Prop where
  transactionId : (tcpHeader reply).transactionId = (tcpHeader req).transactionId
  unitId : (tcpHeader reply).unitId = (tcpHeader req).unitId
  protocolId : (tcpHeader reply).protocolId = 0
  length_eq : (tcpHeader reply).length + unitIdOffset = reply.length
  length_le : reply.length ≤ maxAduLen
  normal : (tcpHeader reply).function &&& 0x80 = 0 →
    (tcpHeader reply).function = (tcpHeader req).function ∧
      (byteAt reply tcpHeaderSize).toNat = (tcpReadReq req).numBytes ∧
      reply.length = tcpHeaderSize + 1 + (tcpReadReq req).numBytes
  exception : (tcpHeader reply).function &&& 0x80 ≠ 0 →
    (tcpHeader reply).function = (tcpHeader req).function ||| 0x80 ∧
      reply.length = tcpHeaderSize + 1

lemma isReplyTo_tcpAdu {req body : Bytes} {function : UInt8}
    (hbody : tcpHeaderSize + body.length ≤ maxAduLen)
    (hnormal : function &&& 0x80 = 0 → function = (tcpHeader req).function ∧
      (byteAt body 0).toNat = (tcpReadReq req).numBytes ∧
      body.length = 1 + (tcpReadReq req).numBytes)
    (hexception : function &&& 0x80 ≠ 0 → function = (tcpHeader req).function ||| 0x80 ∧
      body.length = 1) :
    IsReplyTo req (tcpAdu ⟨(tcpHeader req).transactionId, 0, body.length + 2,
      (tcpHeader req).unitId, function⟩ body) := by
  have hlen : body.length + 2 < 65536 := by
    simp only [tcpHeaderSize, maxAduLen] at hbody
    omega
  have hheader := tcpHeader_tcpAdu (h := ⟨(tcpHeader req).transactionId, 0, body.length + 2,
    (tcpHeader req).unitId, function⟩) body (transactionId_lt req) (Nat.zero_lt_succ _) hlen
  exact
    { transactionId := by rw [hheader]
      unitId := by rw [hheader]
      protocolId := by rw [hheader]
      length_eq := by
        rw [hheader, length_tcpAdu, Nat.add_assoc, Nat.add_comm]
        rfl
      length_le := by rwa [length_tcpAdu]
      normal := by
        rw [hheader, length_tcpAdu, Nat.add_assoc, Nat.add_left_cancel_iff]
        exact hnormal
      exception := by
        rw [hheader, length_tcpAdu, Nat.add_left_cancel_iff]
        exact hexception }

lemma isReplyTo_exception (req : Bytes) (exc : UInt8) :
    IsReplyTo req (modbusPduBuildException (tcpHeader req).transactionId (tcpHeader req).unitId
      (tcpHeader req).function exc) := by
  have hroom : tcpHeaderSize + [exc].length ≤ maxAduLen := by
    rw [List.length_singleton]
    decide
  refine isReplyTo_tcpAdu hroom (fun hplain => ?_) fun _ => ⟨rfl, rfl⟩
  -- the flag is set in the function code, so the answer is not a normal one
  rw [or_and_exceptionFlag] at hplain
  exact absurd hplain (by decide)

lemma isReplyTo_readReply {payload : Bytes} {byteCount : UInt8}
    (hfc : fcIsCacheable (tcpHeader req).function) (hlen : payload.length = byteCount.toNat)
    (hnum : byteCount.toNat = (tcpReadReq req).numBytes) (hmax : byteCount.toNat ≤ 250) :
    IsReplyTo req (readReply (tcpHeader req).transactionId (tcpHeader req).unitId
      (tcpHeader req).function byteCount payload) := by
  have hplain : (tcpHeader req).function &&& 0x80 = 0 := by
    rcases fcIsCacheable_cases hfc with h | h | h | h <;> rw [h] <;> decide
  have hbody : (byteCount :: payload).length = 1 + byteCount.toNat := by
    rw [List.length_cons, hlen, Nat.add_comm]
  have hlength : 3 + byteCount.toNat = (byteCount :: payload).length + 2 := by omega
  rw [readReply, hlength]
  refine isReplyTo_tcpAdu ?_ (fun _ => ⟨rfl, hnum, hbody.trans (by rw [hnum])⟩)
    fun h => absurd hplain h
  rw [hbody]
  simp only [tcpHeaderSize, maxAduLen]
  omega

lemma exists_of_map_eq_ok {α β : Type} {f : α → β} {r : Except UInt8 α} {b : β}
    (h : r.map f = .ok b) : ∃ a, r = .ok a ∧ f a = b := by
  cases r with
  | error e => cases h
  | ok a => exact ⟨a, rfl, Except.ok.inj h⟩

lemma fcIsCacheable_of_isRegisterRead {fc : UInt8} (h : isRegisterRead fc) :
    fcIsCacheable fc := by
  rw [isRegisterRead, Bool.or_eq_true, beq_iff_eq, beq_iff_eq] at h
  rcases h with rfl | rfl <;> rfl

lemma isReplyTo_registers {req reply : Bytes} {read : Nat → Except UInt8 UInt16}
    (hreg : isRegisterRead (tcpHeader req).function = true)
    (hcount : ¬ maxReadRegisters < (tcpReadReq req).count)
    (h : (registerLoop read (tcpReadReq req).count.toNat 0).map (readReply
      (tcpHeader req).transactionId (tcpHeader req).unitId (tcpHeader req).function
      (UInt8.ofNat ((tcpReadReq req).count.toNat * 2))) = .ok reply) : IsReplyTo req reply := by
  have hmax : (tcpReadReq req).count.toNat ≤ 125 :=
    UInt16.le_iff_toNat_le.1 (UInt16.not_lt.1 hcount)
  have hbytes : (UInt8.ofNat ((tcpReadReq req).count.toNat * 2)).toNat =
      (tcpReadReq req).count.toNat * 2 := by
    rw [UInt8.toNat_ofNat']
    omega
  have hnum : (tcpReadReq req).numBytes = 2 * (tcpReadReq req).count.toNat := if_pos hreg
  obtain ⟨payload, hloop, rfl⟩ := exists_of_map_eq_ok h
  exact isReplyTo_readReply (fcIsCacheable_of_isRegisterRead hreg)
    ((length_registerLoop hloop).trans hbytes.symm) (by omega) (by omega)

lemma isReplyTo_buildRegisterResponse {req reply : Bytes} {read : Nat → Except UInt8 UInt16}
    (hreg : isRegisterRead (tcpHeader req).function = true)
    (h : buildRegisterResponse read (tcpHeader req).unitId (tcpHeader req).function
      (tcpHeader req).transactionId (tcpReadReq req).startReg (tcpReadReq req).count = .ok reply) :
    IsReplyTo req reply := by
  rw [buildRegisterResponse] at h
  split at h
  · cases h
  rename_i hcount
  split at h
  · cases h
  · rw [bind_pure_comp] at h
    exact isReplyTo_registers hreg (not_or.1 hcount).2 h

lemma isReplyTo_buildCoilResponse {req reply : Bytes} {read : Nat → Except UInt8 UInt16}
    (hfc : fcIsCacheable (tcpHeader req).function)
    (hreg : ¬ isRegisterRead (tcpHeader req).function = true)
    (h : buildCoilResponse read (tcpHeader req).unitId (tcpHeader req).function
      (tcpHeader req).transactionId (tcpReadReq req).startReg (tcpReadReq req).count = .ok reply) :
    IsReplyTo req reply := by
  rw [buildCoilResponse] at h
  split at h
  · cases h
  rename_i hcount
  split at h
  · cases h
  have hmax : (tcpReadReq req).count.toNat ≤ 2000 :=
    UInt16.le_iff_toNat_le.1 (UInt16.not_lt.1 (not_or.1 hcount).2)
  have hnum : (tcpReadReq req).numBytes = ((tcpReadReq req).count.toNat + 7) / 8 := if_neg hreg
  have hbytes : (UInt8.ofNat (((tcpReadReq req).count.toNat + 7) / 8)).toNat =
      ((tcpReadReq req).count.toNat + 7) / 8 := by
    rw [UInt8.toNat_ofNat']
    omega
  rw [bind_pure_comp] at h
  obtain ⟨payload, hloop, rfl⟩ := exists_of_map_eq_ok h
  exact isReplyTo_readReply hfc ((length_coilLoop hloop).trans List.length_replicate) (by omega)
    (by omega)

end Cache

namespace Device

open Cache

lemma isReplyTo_handleSelfRequest (env : Nat → DeviceEnv) (req : Bytes) :
    IsReplyTo req (mbDeviceHandleSelfRequest env req) := by
  simp only [mbDeviceHandleSelfRequest]
  split
  · exact isReplyTo_exception req 0x01
  rename_i hreg
  split
  · exact isReplyTo_exception req 0x03
  split
  · exact isReplyTo_exception req 0x03
  rename_i hcount
  split
  · exact isReplyTo_exception req _
  rename_i reply hreply
  rw [mbDeviceBuildReadResponse, if_neg hreg] at hreply
  split at hreply
  · cases hreply
  · rw [bind_pure_comp] at hreply
    exact isReplyTo_registers (by simpa using hreg) (not_or.1 hcount).2 hreply

end Device

namespace Cache

lemma isReplyTo_processOneFrame {device : Bytes → Bytes}
    (hdevice : ∀ req, IsReplyTo req (device req)) (enabled : Bool) (states : Nat → State)
    (clock : Nat → Nat) (valueTimeoutS : UInt16) {data : Bytes}
    (hdata : modbusTcpCheckRequest data = true) :
    ∃ reply, processOneFrameDuring device enabled states clock valueTimeoutS data = some reply ∧
      IsReplyTo data reply := by
  simp only [processOneFrameDuring, hdata, Bool.not_true, Bool.false_eq_true, if_false]
  split
  · exact ⟨_, rfl, hdevice data⟩
  split
  · exact ⟨_, rfl, isReplyTo_exception data 0x02⟩
  split
  · exact ⟨_, rfl, isReplyTo_exception data 0x01⟩
  rename_i hfc
  split
  · exact ⟨_, rfl, isReplyTo_exception data 0x01⟩
  -- registers or coils, and the count within the limit of either or not
  split <;> split
  · exact ⟨_, rfl, isReplyTo_exception data 0x03⟩
  · rename_i hreg _
    split
    · exact ⟨_, rfl, isReplyTo_exception data _⟩
    · rename_i reply hreply
      exact ⟨reply, rfl, isReplyTo_buildRegisterResponse hreg hreply⟩
  · exact ⟨_, rfl, isReplyTo_exception data 0x03⟩
  · rename_i hreg _
    split
    · exact ⟨_, rfl, isReplyTo_exception data _⟩
    · rename_i reply hreply
      exact ⟨reply, rfl, isReplyTo_buildCoilResponse (by simpa using hfc) hreg hreply⟩

/-- For every request that passes the framing check, whatever the cache, the settings and the
buffers hold, `process_one_frame` sends one ADU and that is a well formed answer, and so is the ADU
`mb_device_handle_self_request` leaves in a buffer of the size it asks for. Both have a result, so
neither writes outside its buffer. -/
theorem reply_wellFormed (env : Nat → Device.DeviceEnv) (enabled : Bool) (states : Nat → State)
    (clock : Nat → Nat) (valueTimeoutS : UInt16) (locals : Locals) {data : Bytes}
    (hdata : modbusTcpCheckRequest data = true) :
    (∃ reply, processOneFrameInto env enabled states clock valueTimeoutS locals data =
        some [reply] ∧ IsReplyTo data reply) ∧
      ∀ buf : Bytes, maxAduLen ≤ buf.length →
        ∃ reply, sendFilled (Device.mbDeviceHandleSelfRequestInto env data) buf = some [reply] ∧
          IsReplyTo data reply := by
  constructor
  · -- the list model gives the answer, the buffers send the same
    obtain ⟨reply, hreply, hanswer⟩ := isReplyTo_processOneFrame
      (Device.isReplyTo_handleSelfRequest env) enabled states clock valueTimeoutS hdata
    refine ⟨reply, ?_, hanswer⟩
    rw [processOneFrameInto_eq, hreply]
    rfl
  · intro buf hbuf
    exact ⟨_, sendFilled_eq (Device.mbDeviceHandleSelfRequestInto_implements env data) hbuf,
      Device.isReplyTo_handleSelfRequest env data⟩

def timeoutRead : Bytes := [0, 1, 0, 0, 0, 6, 0xFF, 3, 0x02, 0x16, 0, 1]

def Locals.zeroed : Locals where
  respBuf := List.replicate 512 0
  devResp := List.replicate maxAduLen 0
  exceptionBuf := List.replicate (tcpHeaderSize + 1) 0
  length_respBuf := List.length_replicate
  length_devResp := List.length_replicate
  length_exceptionBuf := List.length_replicate

theorem reply_wellFormed_timeoutRead :
    (processOneFrameInto (fun _ => Device.DeviceEnv.blank 60) false (fun _ => State.init true)
        (fun _ => 0) 60 Locals.zeroed timeoutRead =
      some [[0, 1, 0, 0, 0, 5, 0xFF, 3, 2, 0, 60]]) ∧
    (∃ reply, processOneFrameInto (fun _ => Device.DeviceEnv.blank 60) false
        (fun _ => State.init true) (fun _ => 0) 60 Locals.zeroed timeoutRead = some [reply] ∧
          IsReplyTo timeoutRead reply) ∧
      ∀ buf : Bytes, maxAduLen ≤ buf.length →
        ∃ reply, sendFilled (Device.mbDeviceHandleSelfRequestInto
          (fun _ => Device.DeviceEnv.blank 60) timeoutRead) buf = some [reply] ∧
            IsReplyTo timeoutRead reply :=
  ⟨by decide +kernel, reply_wellFormed _ false _ _ 60 Locals.zeroed (by decide)⟩

end Cache

end WbMge
