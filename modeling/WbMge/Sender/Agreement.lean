import WbMge.Decoder.OwnBytes
import WbMge.Modbus.RoundTrip
import WbMge.Sender.Preview

/-!
# The packet decoder shows what the packet sender sends

The sender writes a request into a frame and the decoder reads one out of it, in separate code.
Whatever the form of the sender accepts comes back from the decoder, for every function and every
legal operand (`decodePacket_buildPreviewFrame`). The operands are given as they are typed, in
decimal digits; several values are separated by any text of white space and commas.
-/

namespace WbMge.Sender

open JsText
open Decoder (Fields Decoded decodePacket requestLayout hexField numField fcName hex layerBytes)

/-! ## Requests -/

/-- What the form can ask for, with the operands. -/
inductive Request
  | read (fc count : ℕ)
  | writeCoil (value : ℕ)
  | writeRegister (value : ℕ)
  | writeCoils (values : List ℕ)
  | writeRegisters (values : List ℕ)

namespace Request

/-- The operands are within their bounds. -/
def Legal : Request → Prop
  | read fc count => (1 ≤ fc ∧ fc ≤ 4) ∧ 1 ≤ count ∧ count ≤ 2000
  | writeCoil value => value ≤ 1
  | writeRegister value => value ≤ 65535
  | writeCoils values => 1 ≤ values.length ∧ values.length ≤ 1968 ∧ ∀ v ∈ values, v ≤ 1
  | writeRegisters values => 1 ≤ values.length ∧ values.length ≤ 123 ∧ ∀ v ∈ values, v ≤ 65535

def fc : Request → UInt8
  | read fc _ => UInt8.ofNat fc
  | writeCoil _ => 0x05
  | writeRegister _ => 0x06
  | writeCoils _ => 0x0F
  | writeRegisters _ => 0x10

def fcStr : Request → Text
  | read fc _ => lit "0" ++ ofNat 10 fc
  | writeCoil _ => lit "05"
  | writeRegister _ => lit "06"
  | writeCoils _ => lit "0f"
  | writeRegisters _ => lit "10"

def mode : Request → Mode
  | read _ _ => .read
  | _ => .write

/-- The value field, with a separator between several values. -/
def valueStr (separator : Text) : Request → Text
  | read _ n | writeCoil n | writeRegister n => ofNat 10 n
  | writeCoils values | writeRegisters values => separator.intercalate (values.map (ofNat 10))

/-- What follows the address in the frame. -/
def body : Request → Bytes
  | read _ count => be16 count
  | writeCoil value => be16 (if value ≠ 0 then 0xFF00 else 0x0000)
  | writeRegister value => be16 value
  | writeCoils values =>
    let byteCount := (values.length + 7) / 8
    multipleBytes values.length byteCount (packCoils values 0 (List.replicate byteCount 0))
  | writeRegisters values =>
    multipleBytes values.length (values.length * 2) (values.flatMap be16)

end Request

/-- Bit `i` of the data is coil `i`, and the bits after the last coil are zero. -/
def CoilsAre (values : List ℕ) (data : Bytes) : Prop :=
  data.length = (values.length + 7) / 8 ∧ ∀ i, bitAt data i = decide (values[i]? = some 1)

/-- The fields show the address and the operands of a request. -/
def Request.Shown (address : ℕ) (fields : Fields) : Request → Prop
  | read _ count => fields = [hexField .register (be16 address), numField .count count]
  | writeCoil value => fields = [hexField .register (be16 address),
      (.coilState, .scalar (.coil (if value = 1 then .on else .off)))]
  | writeRegister value => fields = [hexField .register (be16 address), numField .value value]
  | writeCoils values => ∃ data, CoilsAre values data ∧
      fields = [hexField .register (be16 address), numField .count values.length,
        numField .byteCount data.length, hexField .data data]
  | writeRegisters values =>
      fields = [hexField .register (be16 address), numField .count values.length,
        numField .byteCount (2 * values.length), hexField .data (values.flatMap be16)]

/-- The tree of a standard request that a device is asked. -/
def requestTree (slave : ℕ) (fc : UInt8) (frame : Bytes) (fields : Fields) : Decoded :=
  .frame
    { raw := hex frame, address := hex [UInt8.ofNat slave]
      crc := hex (frame.drop (frame.length - 2)), reservedAddress := false
      payload := .modbusRtu (hex (layerBytes frame)) (hex [fc]) (.result
        { type := .plain (fcName fc), raw := hex (layerBytes frame), fc := hex [fc], fields }) }

variable {slave address n : ℕ} {values : List ℕ} {separator : Text} {r : Request}

/-! ## The fields of the form -/

lemma trim_ofNat (n : ℕ) : trim (ofNat 10 n) = ofNat 10 n :=
  trim_eq_self fun _ hc => isWhitespace_of_isDigit (isDigit_of_mem_ofNat (by omega) (by omega) hc)

lemma parseInt_ofNat (n : ℕ) : parseInt (ofNat 10 n) 10 = some (n : ℤ) := by
  rw [parseInt_digits (by omega) (ofNat_ne_nil 10 n) fun _ =>
    isDigit_of_mem_ofNat (by omega) (by omega), digitsValue_ofNat (by omega) (by omega)]

lemma parseStrictInt_ofNat (n : ℕ) : parseStrictInt (ofNat 10 n) = some (n : ℤ) := by
  have hdigits (c) (hc : c ∈ ofNat 10 n) : isDigit 10 c = true :=
    isDigit_of_mem_ofNat (by omega) (by omega) hc
  have hdecimal : isDecimalInt (ofNat 10 n) = true := by
    have hminus : (ofNat 10 n).head? ≠ some minus := fun h =>
      absurd (hdigits minus (List.mem_of_mem_head? h)) (by decide)
    simp only [isDecimalInt, if_neg hminus, Bool.and_eq_true, List.all_eq_true]
    exact ⟨by simpa using ofNat_ne_nil 10 n, hdigits⟩
  rw [parseStrictInt, trim_ofNat, if_pos hdecimal, parseInt_ofNat]

lemma parseModbusAddress_ofNat (n : ℕ) : parseModbusAddress (ofNat 10 n) = some (n : ℤ) := by
  have hhex : hasHexPrefix (ofNat 10 n) = false :=
    hasHexPrefix_eq_false (by omega) fun _ => isDigit_of_mem_ofNat (by omega) (by omega)
  rw [parseModbusAddress, trim_ofNat, radix, hhex, if_neg Bool.false_ne_true, parseInt_ofNat]

lemma parseValueList_intercalate (hne : separator ≠ [])
    (hseparator : ∀ c ∈ separator, isSeparator c = true) (values : List ℕ) :
    parseValueList (separator.intercalate (values.map (ofNat 10))) =
      values.map fun n : ℕ => some (n : ℤ) := by
  have hwords : words isSeparator (separator.intercalate (values.map (ofNat 10))) =
      values.map (ofNat 10) := by
    refine words_intercalate hne hseparator fun w hw => ?_
    obtain ⟨n, -, rfl⟩ := List.mem_map.1 hw
    refine ⟨ofNat_ne_nil 10 n, fun c hc => ?_⟩
    have hdigit : isDigit 10 c = true := isDigit_of_mem_ofNat (by omega) (by omega) hc
    have hcomma : c ≠ 44 := fun h => absurd (h ▸ hdigit) (by decide)
    simp [isSeparator, isWhitespace_of_isDigit hdigit, hcomma]
  rw [parseValueList, hwords, List.map_map]
  exact List.map_congr_left fun n _ => parseStrictInt_ofNat n

lemma writeFrame_request (hlegal : r.Legal) (hmode : r.mode = .write) (hne : separator ≠ [])
    (hseparator : ∀ c ∈ separator, isSeparator c = true) :
    writeFrame slave address r.fcStr (r.valueStr separator) =
      some (appendCrc (head slave r.fc address ++ r.body)) := by
  have hlist (values) := parseValueList_intercalate hne hseparator values
  cases r with
  | read => cases hmode
  | writeCoil value =>
    have hvalue := checked_eq_some.2 ⟨parseStrictInt_ofNat value, Nat.zero_le value, hlegal⟩
    exact congrArg (Option.map (buildWriteSingleCoil slave address)) hvalue
  | writeRegister value =>
    have hvalue := checked_eq_some.2 ⟨parseStrictInt_ofNat value, Nat.zero_le value, hlegal⟩
    exact congrArg (Option.map (buildWriteSingleRegister slave address)) hvalue
  | writeCoils values =>
    have hvalues := checkedList_eq_some.2 ⟨hlist values, hlegal⟩
    exact congrArg (Option.map (buildWriteMultipleCoils slave address)) hvalues
  | writeRegisters values =>
    have hvalues := checkedList_eq_some.2 ⟨hlist values, hlegal⟩
    exact congrArg (Option.map (buildWriteMultipleRegisters slave address)) hvalues

lemma readFrame_request {fc count : ℕ} (hlegal : (Request.read fc count).Legal) :
    readFrame slave address (Request.read fc count).fcStr (ofNat 10 count) =
      some (buildReadFrame slave fc address count) := by
  obtain ⟨⟨hmin, hmax⟩, hcount⟩ := hlegal
  have hfc : parseInt (lit "0" ++ ofNat 10 fc) 16 = some (fc : ℤ) := by
    have hall : ∀ fc : Fin 5, parseInt (lit "0" ++ ofNat 10 fc) 16 = some (fc.val : ℤ) := by
      decide +kernel
    exact hall ⟨fc, by omega⟩
  rw [readFrame, Request.fcStr, checked_eq_some.2 ⟨hfc, hmin, hmax⟩,
    checked_eq_some.2 ⟨parseStrictInt_ofNat count, hcount⟩]
  rfl

lemma buildPreviewFrame_request (hslave : 1 ≤ slave ∧ slave ≤ 247) (haddress : address ≤ 65535)
    (hlegal : r.Legal) (hne : separator ≠ [])
    (hseparator : ∀ c ∈ separator, isSeparator c = true) :
    buildPreviewFrame (ofNat 10 slave) r.fcStr (ofNat 10 address) (r.valueStr separator) r.mode =
      some (appendCrc (head slave r.fc address ++ r.body)) := by
  rw [buildPreviewFrame, checked_eq_some.2 ⟨parseModbusAddress_ofNat slave, hslave⟩,
    checked_eq_some.2 ⟨parseModbusAddress_ofNat address, Nat.zero_le _, haddress⟩]
  cases r with
  | read => exact readFrame_request hlegal
  | _ => exact writeFrame_request hlegal rfl hne hseparator

/-! ## The data of several values -/

@[simp] lemma length_packCoils (values : List ℕ) (i : ℕ) (data : Bytes) :
    (packCoils values i data).length = data.length := by
  induction values generalizing i data with
  | nil => rfl
  | cons value values ih =>
    rw [packCoils, ih, apply_ite List.length, length_setBit, ite_self]

/-- The loop sets the bits of the coils that it has still to look at. -/
lemma bitAt_packCoils {i : ℕ} {data : Bytes} (hlen : i + values.length ≤ 8 * data.length) (j : ℕ) :
    bitAt (packCoils values i data) j =
      (bitAt data j || decide (i ≤ j ∧ values.getD (j - i) 0 ≠ 0)) := by
  induction values generalizing i data with
  | nil => simp [packCoils]
  | cons value values ih =>
    rw [List.length_cons] at hlen
    have hset : bitAt (if value ≠ 0 then setBit data i else data) j =
        (bitAt data j || decide (i = j ∧ value ≠ 0)) := by
      split
      · rename_i hvalue
        simp [bitAt_setBit (by omega : i / 8 < data.length), hvalue]
      · rename_i hvalue
        simp [hvalue]
    have hroom : i + 1 + values.length ≤
        8 * (if value ≠ 0 then setBit data i else data).length := by
      rw [apply_ite List.length, length_setBit, ite_self]
      omega
    rw [packCoils, ih hroom, hset, Bool.or_assoc, ← Bool.decide_or]
    congr 2
    obtain hij | rfl | hij := Nat.lt_trichotomy j i
    · simp only [eq_iff_iff]
      omega
    · have hpast : ¬ j + 1 ≤ j := by omega
      simp only [hpast, false_and, or_false, true_and, le_refl, Nat.sub_self, List.getD_cons_zero]
    · have hnext : j - i = (j - (i + 1)) + 1 := by omega
      simp only [hnext, List.getD_cons_succ, eq_iff_iff]
      omega

lemma coilsAre_packCoils (hvalues : ∀ v ∈ values, v ≤ 1) :
    CoilsAre values (packCoils values 0 (List.replicate ((values.length + 7) / 8) 0)) := by
  refine ⟨by simp, fun i => ?_⟩
  rw [bitAt_packCoils (by simp; omega), bitAt_replicate_zero, Bool.false_or]
  congr 1
  simp only [Nat.zero_le, true_and, Nat.sub_zero, List.getD_eq_getElem?_getD, eq_iff_iff]
  cases h : values[i]? with
  | none => simp
  | some v =>
    have hv := hvalues v (List.mem_of_getElem? h)
    simp only [Option.getD_some, Option.some.injEq]
    omega

/-! ## The decoder -/

section Decode

open Decoder

variable {fc : UInt8} {body : Bytes}

lemma layerBytes_appendCrc (b : UInt8) (pdu : Bytes) : layerBytes (appendCrc (b :: pdu)) = pdu := by
  simp [layerBytes, slice, appendCrc, crcBytes]

lemma toNat_ofNat_slave (hslave : slave ≤ 247) : (UInt8.ofNat slave).toNat = slave :=
  UInt8.toNat_ofNat_of_lt (by simp only [UInt8.size]; omega)

lemma decodePacket_appendCrc (hslave : slave ≤ 247) (hfc : fc ≠ 0x46) :
    decodePacket (appendCrc (head slave fc address ++ body)) .request =
      stdFrame (appendCrc (head slave fc address ++ body)) (hex [fc]) <$>
        requestLayout fc (fc :: (be16 address ++ body)) := by
  have hbyte := toNat_ofNat_slave hslave
  have hff : (UInt8.ofNat slave == 0xFF) = false := by
    rw [beq_eq_false_iff_ne, Ne, ← UInt8.toNat_inj, hbyte]
    exact Nat.ne_of_lt (Nat.lt_of_le_of_lt hslave (by decide))
  have hfd : (UInt8.ofNat slave == 0xFD) = false := by
    rw [beq_eq_false_iff_ne, Ne, ← UInt8.toNat_inj, hbyte]
    exact Nat.ne_of_lt (Nat.lt_of_le_of_lt hslave (by decide))
  have hfast : isFastModbus (UInt8.ofNat slave) fc = false := by
    simp [isFastModbus, hfd, hfc]
  have hlayer : layerBytes (appendCrc (head slave fc address ++ body)) =
      fc :: (be16 address ++ body) := layerBytes_appendCrc ..
  rw [decodePacket_eq (by simp [appendCrc, head, be16]) (by simp [appendCrc, head, hff]), hlayer]
  exact if_neg (by rw [Bool.not_eq_true]; exact hfast)

/-! ### Layouts -/

/-- The decoder reads these fields in a request, and nothing is left of it. -/
def Reads (fc : UInt8) (body : Bytes) (fields : Fields) : Prop :=
  requestLayout fc (fc :: body) =
    .ok (.result { type := .plain (fcName fc), raw := hex (fc :: body), fc := hex [fc], fields })

lemma u16be_body {word : ℕ} (hword : word < 65536) (rest : Bytes) :
    Decoder.u16be (fc :: (be16 address ++ (be16 word ++ rest))) 3 = word := by
  rw [Decoder.u16be, if_neg (by simp; omega)]
  exact u16be_be16 hword

lemma u16be_word {word : ℕ} (hword : word < 65536) :
    Decoder.u16be (fc :: (be16 address ++ be16 word)) 3 = word := u16be_body hword []

lemma fixedPdu_five {type : PduType} {fields : Bytes → Js Fields} {fs : Fields} (word : ℕ)
    (hfields : fields (fc :: (be16 address ++ be16 word)) = .ok fs) :
    fixedPdu fc type 5 fields (fc :: (be16 address ++ be16 word)) =
      .ok (.result
        { type, raw := hex (fc :: (be16 address ++ be16 word)),
          fc := hex [fc], fields := fs }) := by
  rw [fixedPdu, if_neg (by simp), hfields]
  rfl

lemma reads_read {fc count : ℕ} (hfc : 1 ≤ fc ∧ fc ≤ 4) (hcount : count < 65536) :
    Reads (UInt8.ofNat fc) (be16 address ++ be16 count)
      [hexField .register (be16 address), numField .count count] := by
  have hlayout : requestLayout (UInt8.ofNat fc) =
      fixedPdu (UInt8.ofNat fc) (.plain (fcName (UInt8.ofNat fc))) 5 rangeFields := by
    obtain rfl | rfl | rfl | rfl : fc = 1 ∨ fc = 2 ∨ fc = 3 ∨ fc = 4 := by omega
    all_goals rfl
  rw [Reads, hlayout]
  exact fixedPdu_five count (by rw [rangeFields, u16be_word hcount]; rfl)

lemma reads_writeRegister {value : ℕ} (hvalue : value < 65536) :
    Reads 0x06 (be16 address ++ be16 value)
      [hexField .register (be16 address), numField .value value] :=
  fixedPdu_five value (by rw [registerFields, u16be_word hvalue]; rfl)

lemma reads_writeCoil {value : ℕ} (hvalue : value ≤ 1) :
    Reads 0x05 (be16 address ++ be16 (if value ≠ 0 then 0xFF00 else 0x0000))
      [hexField .register (be16 address),
        (.coilState, .scalar (.coil (if value = 1 then .on else .off)))] := by
  refine fixedPdu_five _ ?_
  rw [coilFields, coilStateFields, u16be_word (by split <;> omega)]
  obtain rfl | rfl : value = 0 ∨ value = 1 := by omega
  all_goals rfl

lemma reads_multiple {quantity : ℕ} {data : Bytes} (hfc : fc = 0x0F ∨ fc = 0x10)
    (hquantity : quantity < 65536) (hdata : data.length < 256) :
    Reads fc (be16 address ++ multipleBytes quantity data.length data)
      [hexField .register (be16 address), numField .count quantity,
        numField .byteCount data.length, hexField .data data] := by
  have hlayout : requestLayout fc = countedPdu fc (.plain (fcName fc)) 6 writeMultipleFields := by
    obtain rfl | rfl := hfc
    all_goals rfl
  have hcount : (byteAt (fc :: (be16 address ++ multipleBytes quantity data.length data)) 5).toNat =
      data.length := by
    exact UInt8.toNat_ofNat_of_lt hdata
  have hlen : (fc :: (be16 address ++ multipleBytes quantity data.length data)).length =
      6 + data.length := by
    simp only [multipleBytes, List.length_cons, List.length_append, length_be16]
    omega
  have hslice (i) : slice (fc :: (be16 address ++ multipleBytes quantity data.length data)) i
      (6 + data.length) =
        (fc :: (be16 address ++ multipleBytes quantity data.length data)).drop i := by
    rw [slice, ← hlen, List.take_length]
  rw [Reads, hlayout, countedPdu, declaredPdu, hcount, hlen, if_neg (by omega),
    if_neg (Nat.lt_irrefl _), writeMultipleFields, hslice, hslice, multipleBytes,
    u16be_body hquantity]
  rfl

lemma exists_reads (address : ℕ) (hlegal : r.Legal) :
    ∃ fields, Reads r.fc (be16 address ++ r.body) fields ∧ r.Shown address fields := by
  cases r with
  | read fc count => exact ⟨_, reads_read hlegal.1 (Nat.lt_of_le_of_lt hlegal.2.2 (by omega)), rfl⟩
  | writeCoil value => exact ⟨_, reads_writeCoil hlegal, rfl⟩
  | writeRegister value => exact ⟨_, reads_writeRegister (Nat.lt_succ_of_le hlegal), rfl⟩
  | writeCoils values =>
    obtain ⟨-, hmax, hvalues⟩ := hlegal
    have hcoils := coilsAre_packCoils hvalues
    simp only [Request.body]
    generalize packCoils values 0 _ = data at hcoils ⊢
    have hlen := hcoils.1
    refine ⟨_, ?_, data, hcoils, rfl⟩
    rw [← hlen]
    refine reads_multiple (.inl rfl) ?_ ?_ <;> omega
  | writeRegisters values =>
    obtain ⟨-, hmax, -⟩ := hlegal
    have hlen : (values.flatMap be16).length = values.length * 2 := by
      simp [List.length_flatMap]
    refine ⟨_, ?_, rfl⟩
    rw [Request.body, Nat.mul_comm 2, ← hlen]
    refine reads_multiple (.inr rfl) ?_ ?_ <;> omega

lemma fc_ne_fastModbus (hlegal : r.Legal) : r.fc ≠ 0x46 := by
  cases r with
  | read fc count =>
    obtain rfl | rfl | rfl | rfl : fc = 1 ∨ fc = 2 ∨ fc = 3 ∨ fc = 4 := by
      have hfc := hlegal.1
      omega
    all_goals simp [Request.fc]
  | _ => simp [Request.fc]

end Decode

lemma length_body_lt (hlegal : r.Legal) : r.body.length < 65530 := by
  cases r with
  | writeCoils values =>
    obtain ⟨-, hmax, -⟩ := hlegal
    simp [Request.body, multipleBytes]
    omega
  | writeRegisters values =>
    obtain ⟨-, hmax, -⟩ := hlegal
    simp [Request.body, multipleBytes, List.length_flatMap]
    omega
  | _ => simp [Request.body]

lemma crcOk_appendCrc {data : Bytes} (h : data.length < 65536) : crcOk (appendCrc data) = true := by
  have hframe : appendCrc data = rtuFrame data := by
    rw [appendCrc, rtuFrame, WbMge.modbusCrc16, Nat.mod_eq_of_lt h, List.take_length, modbusCrc16]
  rw [hframe]
  exact crcOk_rtuFrame h

/-- The form accepts every legal request, typed in decimal digits, the frame ends in the checksum of
the rest, and the decoder shows the slave, the function, the address and the operands again. -/
theorem decodePacket_buildPreviewFrame (hslave : 1 ≤ slave ∧ slave ≤ 247)
    (haddress : address ≤ 65535) (hlegal : r.Legal) (hne : separator ≠ [])
    (hseparator : ∀ c ∈ separator, isSeparator c = true) :
    ∃ frame fields,
      buildPreviewFrame (ofNat 10 slave) r.fcStr (ofNat 10 address) (r.valueStr separator) r.mode =
        some frame ∧
      crcOk frame = true ∧
      decodePacket frame .request = .ok (requestTree slave r.fc frame fields) ∧
      r.Shown address fields := by
  obtain ⟨fields, hreads, hshown⟩ := exists_reads address hlegal
  have hlen := length_body_lt hlegal
  refine ⟨_, fields, buildPreviewFrame_request hslave haddress hlegal hne hseparator,
    crcOk_appendCrc ?_, ?_, hshown⟩
  · simp [head]
    omega
  · have hlayer : layerBytes (appendCrc (head slave r.fc address ++ r.body)) =
        r.fc :: (be16 address ++ r.body) := layerBytes_appendCrc ..
    have hreserved : decide (0xF8 ≤ UInt8.ofNat slave) = false := by
      rw [decide_eq_false_iff_not, UInt8.le_iff_toNat_le, toNat_ofNat_slave hslave.2]
      exact Nat.not_le_of_lt (Nat.lt_succ_of_le hslave.2)
    have hbyte : byteAt (appendCrc (head slave r.fc address ++ r.body)) 0 = UInt8.ofNat slave := rfl
    rw [decodePacket_appendCrc hslave.2 (fc_ne_fastModbus hlegal), hreads, requestTree, hlayer,
      ← hbyte, ← hreserved, ← hlayer]
    rfl

/-- Nine coils, which take two bytes. -/
theorem decodePacket_buildPreviewFrame_coils :
    ∃ frame fields,
      buildPreviewFrame (ofNat 10 17) (lit "0f") (ofNat 10 300)
        (Request.valueStr (lit ", ") (.writeCoils [1, 0, 1, 1, 0, 0, 0, 0, 1])) .write =
        some frame ∧
      crcOk frame = true ∧
      decodePacket frame .request = .ok (requestTree 17 0x0F frame fields) ∧
      (Request.writeCoils [1, 0, 1, 1, 0, 0, 0, 0, 1]).Shown 300 fields :=
  @decodePacket_buildPreviewFrame 17 300 (lit ", ") (.writeCoils [1, 0, 1, 1, 0, 0, 0, 0, 1])
    (by decide) (by decide) ⟨by decide, by decide, by simp⟩ (by decide)
    (List.all_eq_true.1 (by decide))

end WbMge.Sender
