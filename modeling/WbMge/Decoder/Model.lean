import WbMge.Modbus.Helpers
import WbMge.ToMathlib.JsNumber

/-!
# The packet decoder of the web interface

`modbusDecoder.ts`: a packet, as bytes or as a pasted text, becomes a tree with one node for each
layer of the protocol. A node keeps the bytes it was decoded from as a hexadecimal text, its `raw`.

JavaScript reads `undefined` behind the end of an array, and `toString` of it throws: every place
where the source writes the text of a single byte goes through `hexAt`, which throws there. Numbers
behind the end are only read after a check of the length.

The node of a standard function is a list of fields here, in the order of the source, which is the
one in which they are displayed.
-/

namespace WbMge.Decoder

open JsText

/-! ## Nodes -/

inductive Direction
  | request | response
deriving Repr, DecidableEq

/-- Why a call does not return a node. -/
inductive Thrown
  /-- `toString` of a byte behind the end. -/
  | typeError
  /-- A sign in a pasted text has made a number that is no byte. The model does not follow what the
  decoder makes of such a number. -/
  | notBytes
deriving Repr, DecidableEq

abbrev Js := Except Thrown

/-- The `reason` of a `ParseError`. -/
inductive Reason
  | invalidHex | empty | tooShort | pduEmpty | pduTooShort | pduDataTruncated | invalidFc
  | unknownFc | subcommandMissing | scanResponseTooShort | commandBySerialTooShort
  | responseBySerialTooShort
  | eventRequestTooShort | eventTransferTooShort | eventConfigTooShort | unknownSubcommand
deriving Repr, DecidableEq

/-- `ParseError`, with the keys that some of the errors add. -/
structure ParseError where
  reason : Reason
  raw : Text
  fc : Option Text := none
  subcommand : Option Text := none
deriving Repr, DecidableEq

/-- The names of `FC_NAMES`, and the one that `fcName` makes up for any other code. -/
inductive FcName
  | readCoils | readDiscreteInputs | readHoldingRegisters | readInputRegisters | writeSingleCoil
  | writeSingleRegister | readExceptionStatus | diagnostics | getCommEventCounter | getCommEventLog
  | writeMultipleCoils | writeMultipleRegisters | reportServerId | readFileRecord | writeFileRecord
  | maskWriteRegister | readWriteMultipleRegisters | readFifoQueue | meiTransport
  | other (fc : UInt8)
deriving Repr, DecidableEq

/-- The `type` of a `PduResult`. -/
inductive PduType
  | plain (name : FcName)
  /-- The name of the function and `_response`. -/
  | response (name : FcName)
  | modbusError | meiReadDeviceIdentification | meiReadDeviceIdentificationResponse | meiCanopen
  | userDefined | vendorSpecific
deriving Repr, DecidableEq

/-- The keys under which the nodes keep their values. -/
inductive Field
  | fc | originalFc | errorCode
  | register | count | value | coilState | coilValue | subFunction | data | byteCount
  | subRequests | referenceType | fileNumber | recordNumber | recordLength | requestDataLength
  | andMask | orMask | readRegister | readCount | writeRegister | writeCount | writeByteCount
  | writeData | fifoPointer | outputData | status | eventCount | messageCount | events
  | serverId | runIndicator | additionalData | respDataLength | subResponses | fileRespLength
  | fifoCount | meiType | readDeviceIdCode | objectId | conformityLevel | moreFollows
  | nextObjectId | numberOfObjects | objects | id
  | address | crc | extByte | subcommand | serialNumber | modbusAddress | functionCode
  | minServerId | maxDataLen | prevServerId | prevFlag | flag | unackedCount | dataLen | reason
deriving Repr, DecidableEq

/-- The values of `coil_state`. -/
inductive CoilState
  | on | off | invalid
deriving Repr, DecidableEq

/-- A value that is displayed in one row. -/
inductive Scalar
  | text (t : Text)
  | num (n : ℕ)
  | coil (state : CoilState)
  | reason (r : Reason)
deriving Repr, DecidableEq

/-- An element of `sub_requests`, `sub_responses` or `objects`. -/
abbrev Record := List (Field × Scalar)

/-- The value of a field: a scalar or an array of records. -/
inductive Value
  | scalar (s : Scalar)
  | records (rs : List Record)
deriving Repr, DecidableEq

abbrev Fields := List (Field × Value)

/-- What the node of a standard function holds besides `type`, `raw` and `fc` is in `fields`. -/
structure PduResult where
  type : PduType
  raw : Text
  fc : Text
  fields : Fields
deriving Repr, DecidableEq

/-- `PduResult | ParseError`. -/
inductive Pdu
  | result (p : PduResult)
  | error (e : ParseError)
deriving Repr, DecidableEq

def Pdu.raw : Pdu → Text
  | .result p => p.raw
  | .error e => e.raw

/-- `FastModbusSubcommand`. -/
inductive FmSubcommand
  | scanStart (raw : Text)
  | scanContinue (raw : Text)
  | scanResponse (raw serialNumber modbusAddress : Text)
  | scanEnd (raw : Text)
  | commandBySerial (raw serialNumber functionCode : Text) (payload : Pdu)
  | responseBySerial (raw serialNumber functionCode : Text) (payload : Pdu)
  | eventRequest (raw minServerId maxDataLen prevServerId prevFlag : Text)
  | eventTransfer (raw flag unackedCount dataLen data : Text)
  | noEvents (raw : Text)
  | eventConfig (raw dataLen data : Text)
  | error (e : ParseError)
deriving Repr, DecidableEq

def FmSubcommand.raw : FmSubcommand → Text
  | .scanStart raw | .scanContinue raw | .scanResponse raw _ _ | .scanEnd raw
  | .commandBySerial raw _ _ _ | .responseBySerial raw _ _ _ | .eventRequest raw _ _ _ _
  | .eventTransfer raw _ _ _ _ | .noEvents raw | .eventConfig raw _ _ => raw
  | .error e => e.raw

/-- `FastModbusPayload | ModbusRtuPayload`. -/
inductive Layer
  | fastModbus (raw extByte subcommand : Text) (payload : FmSubcommand)
  | modbusRtu (raw fc : Text) (payload : Pdu)
deriving Repr, DecidableEq

structure RtuFrame where
  raw : Text
  address : Text
  crc : Text
  reservedAddress : Bool
  payload : Layer
deriving Repr, DecidableEq

/-- `DecodedPacket`. -/
inductive Decoded
  | frame (f : RtuFrame)
  | arbitration (raw : Text)
  | error (e : ParseError)
deriving Repr, DecidableEq

def Decoded.raw : Decoded → Text
  | .frame f => f.raw
  | .arbitration raw => raw
  | .error e => e.raw

/-! ## Hexadecimal texts -/

/-- `toHex`, of any numbers. -/
def toHex (numbers : List ℤ) : Text :=
  numbers.flatMap fun n => (upper (ofInt 16 n)).leftpad 2 48

def numbers (bytes : Bytes) : List ℤ := bytes.map fun b => (b.toNat : ℤ)

/-- `toHex` of bytes. -/
def hex (bytes : Bytes) : Text := toHex (numbers bytes)

/-- `toHex([bytes[i]])`. -/
def hexAt (bytes : Bytes) (i : ℕ) : Js Text :=
  bytes[i]?.elim (.error .typeError) fun b => .ok (hex [b])

/-- The texts of two code units that a text of even length consists of. -/
def pairs : Text → List Text
  | a :: b :: t => [a, b] :: pairs t
  | _ => []

def parseHex (str : Text) : Option (List ℤ) :=
  let clean := str.filter (!isWhitespace ·)
  if clean.length = 0 ∨ clean.length % 2 ≠ 0 then none
  else (pairs clean).mapM fun pair => parseInt pair 16

/-! ## Parts of a PDU -/

/-- `slice`, with both ends counted from the start. -/
def slice (bytes : Bytes) (start stop : ℕ) : Bytes := (bytes.take stop).drop start

/-- 0 behind the end. -/
def u16be (bytes : Bytes) (i : ℕ) : ℕ :=
  if bytes.length ≤ i + 1 then 0 else WbMge.u16be (byteAt bytes i) (byteAt bytes (i + 1))

def fcNames : List (UInt8 × FcName) :=
  [(0x01, .readCoils), (0x02, .readDiscreteInputs), (0x03, .readHoldingRegisters),
    (0x04, .readInputRegisters), (0x05, .writeSingleCoil), (0x06, .writeSingleRegister),
    (0x07, .readExceptionStatus), (0x08, .diagnostics), (0x0B, .getCommEventCounter),
    (0x0C, .getCommEventLog), (0x0F, .writeMultipleCoils), (0x10, .writeMultipleRegisters),
    (0x11, .reportServerId), (0x14, .readFileRecord), (0x15, .writeFileRecord),
    (0x16, .maskWriteRegister), (0x17, .readWriteMultipleRegisters), (0x18, .readFifoQueue),
    (0x2B, .meiTransport)]

def fcName (fc : UInt8) : FcName := (fcNames.lookup fc).getD (.other fc)

def isUserDefinedFc (fc : UInt8) : Bool := (0x41 ≤ fc && fc ≤ 0x48) || (0x64 ≤ fc && fc ≤ 0x6E)

/-- `VENDOR_FC.has`. -/
def isVendorFc (fc : UInt8) : Bool := fc == 0x5A || fc == 0x5B

def hexField (field : Field) (bytes : Bytes) : Field × Value := (field, .scalar (.text (hex bytes)))

def numField (field : Field) (n : ℕ) : Field × Value := (field, .scalar (.num n))

def coilStateFields (bytes : Bytes) (i : ℕ) : Fields :=
  let word := u16be bytes i
  if word = 0xFF00 then [(.coilState, .scalar (.coil .on))]
  else if word = 0x0000 then [(.coilState, .scalar (.coil .off))]
  else [(.coilState, .scalar (.coil .invalid)), hexField .coilValue (slice bytes i (i + 2))]

/-! ## Layouts of a PDU

A function code has its layout. Most layouts have a fixed length, or declare the number of the bytes
that follow in one byte. -/

def tooShort (bytes : Bytes) : Pdu := .error { reason := .pduTooShort, raw := hex bytes }

def dataTruncated (bytes : Bytes) : Pdu := .error { reason := .pduDataTruncated, raw := hex bytes }

/-- A layout of fixed length. -/
def fixedPdu (fc : UInt8) (type : PduType) (len : ℕ) (fields : Bytes → Js Fields)
    (bytes : Bytes) : Js Pdu :=
  if bytes.length < len then .ok (tooShort bytes)
  else do
    let fields ← fields bytes
    return .result { type, raw := hex (slice bytes 0 len), fc := hex [fc], fields }

/-- A layout that declares in its first `head` bytes how many follow. The fields may find the data
truncated themselves. -/
def declaredPdu (fc : UInt8) (type : PduType) (head : ℕ) (count : Bytes → ℕ)
    (fields : Bytes → ℕ → Js (Option Fields)) (bytes : Bytes) : Js Pdu :=
  if bytes.length < head then .ok (tooShort bytes)
  else if bytes.length < head + count bytes then .ok (dataTruncated bytes)
  else do
    let fields ← fields bytes (count bytes)
    return fields.elim (dataTruncated bytes) fun fields => .result
      { type, raw := hex (slice bytes 0 (head + count bytes)), fc := hex [fc], fields }

/-- A layout that declares in the last of its `head` bytes how many follow. -/
def countedPdu (fc : UInt8) (type : PduType) (head : ℕ) (fields : Bytes → ℕ → Js Fields) :
    Bytes → Js Pdu :=
  declaredPdu fc type head (fun bytes => (byteAt bytes (head - 1)).toNat) fun bytes n =>
    some <$> fields bytes n

/-- A layout with at least `len` bytes that everything belongs to. -/
def wholePdu (fc : UInt8) (type : PduType) (len : ℕ) (fields : Bytes → Js Fields)
    (bytes : Bytes) : Js Pdu :=
  if bytes.length < len then .ok (tooShort bytes)
  else do
    let fields ← fields bytes
    return .result { type, raw := hex bytes, fc := hex [fc], fields }

/-- A layout with nothing but data. -/
def openPdu (fc : UInt8) (type : PduType) : Bytes → Js Pdu :=
  wholePdu fc type 1 fun bytes => .ok [hexField .data (bytes.drop 1)]

/-- A function code without a layout. -/
def badFc (fc : UInt8) (reason : Reason) (bytes : Bytes) : Js Pdu :=
  .ok (.error { reason, raw := hex bytes, fc := some (hex [fc]) })

/-- `makeError`, the fields. -/
def errorFields (fc : UInt8) (bytes : Bytes) : Js Fields :=
  .ok [hexField .originalFc [fc &&& 0x7F], numField .errorCode (byteAt bytes 1).toNat]

/-- The fields of a start address and a count. -/
def rangeFields (bytes : Bytes) : Js Fields :=
  .ok [hexField .register (slice bytes 1 3), numField .count (u16be bytes 3)]

/-- FC05, in both directions. -/
def coilFields (bytes : Bytes) : Js Fields :=
  .ok (hexField .register (slice bytes 1 3) :: coilStateFields bytes 3)

/-- FC06, in both directions. -/
def registerFields (bytes : Bytes) : Js Fields :=
  .ok [hexField .register (slice bytes 1 3), numField .value (u16be bytes 3)]

/-- FC08, in both directions. -/
def diagnosticsFields (bytes : Bytes) : Js Fields :=
  .ok [hexField .subFunction (slice bytes 1 3), hexField .data (slice bytes 3 5)]

/-- FC0F and FC10, the request. -/
def writeMultipleFields (bytes : Bytes) (byteCount : ℕ) : Js Fields :=
  .ok [hexField .register (slice bytes 1 3), numField .count (u16be bytes 3),
    numField .byteCount byteCount, hexField .data (slice bytes 6 (6 + byteCount))]

/-- FC16, in both directions. -/
def maskWriteFields (bytes : Bytes) : Js Fields :=
  .ok [hexField .register (slice bytes 1 3), hexField .andMask (slice bytes 3 5),
    hexField .orMask (slice bytes 5 7)]

/-- FC17, the request. -/
def readWriteFields (bytes : Bytes) (writeByteCount : ℕ) : Js Fields :=
  .ok [hexField .readRegister (slice bytes 1 3), numField .readCount (u16be bytes 3),
    hexField .writeRegister (slice bytes 5 7), numField .writeCount (u16be bytes 7),
    numField .writeByteCount writeByteCount,
    hexField .writeData (slice bytes 10 (10 + writeByteCount))]

/-- The fields of a byte count and the data. -/
def countedDataFields (bytes : Bytes) (byteCount : ℕ) : Js Fields :=
  .ok [numField .byteCount byteCount, hexField .data (slice bytes 2 (2 + byteCount))]

/-- FC0B, the response. -/
def eventCounterFields (bytes : Bytes) : Js Fields :=
  .ok [hexField .status (slice bytes 1 3), numField .eventCount (u16be bytes 3)]

/-- FC0C, the response. -/
def eventLogFields (bytes : Bytes) (byteCount : ℕ) : Js Fields :=
  .ok [numField .byteCount byteCount, hexField .status (slice bytes 2 4),
    numField .eventCount (u16be bytes 4), numField .messageCount (u16be bytes 6),
    hexField .events (slice bytes 8 (2 + byteCount))]

/-- FC11, the response. -/
def serverIdFields (bytes : Bytes) (byteCount : ℕ) : Js Fields := do
  let serverId ← hexAt bytes 2
  let runIndicator ← hexAt bytes 3
  let additionalData := if 2 < byteCount then hex (slice bytes 4 (2 + byteCount)) else []
  .ok [numField .byteCount byteCount, (.serverId, .scalar (.text serverId)),
    (.runIndicator, .scalar (.text runIndicator)),
    (.additionalData, .scalar (.text additionalData))]

/-! ### File records -/

/-- The three numbers of a sub-request. -/
def fileReference (bytes : Bytes) (off : ℕ) (referenceType : Text) : Record :=
  [(.referenceType, .text referenceType), (.fileNumber, .num (u16be bytes (off + 1))),
    (.recordNumber, .num (u16be bytes (off + 3))), (.recordLength, .num (u16be bytes (off + 5)))]

/-- The loop of FC14, the request. -/
def readFileSubRequests (bytes : Bytes) (limit off : ℕ) : Js (List Record) :=
  if off + 7 ≤ limit then do
    let referenceType ← hexAt bytes off
    let rest ← readFileSubRequests bytes limit (off + 7)
    return fileReference bytes off referenceType :: rest
  else .ok []
termination_by limit - off
decreasing_by omega

/-- The loop of FC15, the request; `none` if it finds the data truncated. -/
def writeFileSubRequests (bytes : Bytes) (limit off : ℕ) : Js (Option (List Record)) :=
  if off + 7 ≤ limit then
    let dataEnd := off + 7 + u16be bytes (off + 5) * 2
    if bytes.length < dataEnd then .ok none
    else do
      let referenceType ← hexAt bytes off
      let rest ← writeFileSubRequests bytes limit dataEnd
      return rest.map ((fileReference bytes off referenceType ++
        [(.data, .text (hex (slice bytes (off + 7) dataEnd)))]) :: ·)
  else .ok (some [])
termination_by limit - off
decreasing_by omega

/-- The loop of FC14, the response. -/
def readFileSubResponses (bytes : Bytes) (limit off : ℕ) : Js (List Record) :=
  if off < limit ∧ off + 1 < bytes.length then
    let fileRespLen := (byteAt bytes off).toNat
    if bytes.length < off + 1 + fileRespLen then .ok []
    else do
      let referenceType ← hexAt bytes (off + 1)
      let rest ← readFileSubResponses bytes limit (off + 1 + fileRespLen)
      return [(.fileRespLength, .num fileRespLen), (.referenceType, .text referenceType),
        (.data, .text (hex (slice bytes (off + 2) (off + 2 + fileRespLen - 1))))] :: rest
  else .ok []
termination_by limit - off
decreasing_by omega

/-- FC14, the request. -/
def readFileFields (bytes : Bytes) (byteCount : ℕ) : Js Fields := do
  let subReqs ← readFileSubRequests bytes (2 + byteCount) 2
  .ok [numField .byteCount byteCount, (.subRequests, .records subReqs)]

/-- FC14, the response. -/
def fileResponseFields (bytes : Bytes) (respDataLen : ℕ) : Js Fields := do
  let subResps ← readFileSubResponses bytes (2 + respDataLen) 2
  .ok [numField .respDataLength respDataLen, (.subResponses, .records subResps)]

/-- FC15, the request. -/
def writeFileFields (bytes : Bytes) (dataLen : ℕ) : Js (Option Fields) := do
  let subReqs ← writeFileSubRequests bytes (2 + dataLen) 2
  return subReqs.map fun subReqs =>
    [numField .requestDataLength dataLen, (.subRequests, .records subReqs)]

def writeFilePdu (fc : UInt8) : Bytes → Js Pdu :=
  declaredPdu fc (.plain (fcName fc)) 2 (fun bytes => (byteAt bytes 1).toNat) writeFileFields

/-- FC18, the response: the number of words is declared in two bytes. -/
def fifoPdu (fc : UInt8) : Bytes → Js Pdu :=
  declaredPdu fc (.response .readFifoQueue) 5 (fun bytes => u16be bytes 3 * 2) fun bytes n =>
    .ok (some [numField .byteCount (u16be bytes 1), numField .fifoCount (u16be bytes 3),
      hexField .data (slice bytes 5 (5 + n))])

/-! ### Encapsulated interfaces -/

/-- The loop over the objects of a device identification. -/
def meiObjects (bytes : Bytes) : ℕ → ℕ → Js (List Record)
  | 0, _ => .ok []
  | numObjects + 1, off =>
    if off + 1 < bytes.length then
      let objLen := (byteAt bytes (off + 1)).toNat
      if bytes.length < off + 2 + objLen then .ok []
      else do
        let id ← hexAt bytes off
        let rest ← meiObjects bytes numObjects (off + 2 + objLen)
        return [(.id, .text id),
          (.value, .text (hex (slice bytes (off + 2) (off + 2 + objLen))))] :: rest
    else .ok []

/-- `mei_type` and some single bytes after it. -/
def meiBytes (bytes : Bytes) (fields : List (Field × ℕ)) : Js Fields :=
  ((.meiType, 1) :: fields).mapM fun f => do return (f.1, .scalar (.text (← hexAt bytes f.2)))

/-- `mei_read_device_identification_response`. -/
def deviceIdFields (bytes : Bytes) : Js Fields := do
  let numObjects := (byteAt bytes 6).toNat
  let objects ← meiObjects bytes numObjects 7
  let fields ← meiBytes bytes
    [(.readDeviceIdCode, 2), (.conformityLevel, 3), (.moreFollows, 4), (.nextObjectId, 5)]
  return fields ++ [numField .numberOfObjects numObjects, (.objects, .records objects)]

def meiDataFields (bytes : Bytes) : Js Fields := do
  return (← meiBytes bytes []) ++ [hexField .data (bytes.drop 2)]

def decodeMei (fc : UInt8) (isResponse : Bool) (bytes : Bytes) : Js Pdu :=
  if bytes.length < 2 then .ok (tooShort bytes)
  else if byteAt bytes 1 = 0x0E then
    if !isResponse then
      wholePdu fc .meiReadDeviceIdentification 4
        (meiBytes · [(.readDeviceIdCode, 2), (.objectId, 3)]) bytes
    else wholePdu fc .meiReadDeviceIdentificationResponse 7 deviceIdFields bytes
  else if byteAt bytes 1 = 0x0D then wholePdu fc .meiCanopen 2 meiDataFields bytes
  else wholePdu fc (.plain .meiTransport) 2 meiDataFields bytes

/-! ## Standard PDUs -/

/-- The body of `decodeStdPduRequest`, for the function code that the bytes begin with. -/
def requestLayout (fc : UInt8) : Bytes → Js Pdu :=
  if fc = 0x00 then badFc fc .invalidFc
  else if fc &&& 0x80 ≠ 0 then fixedPdu fc .modbusError 2 (errorFields fc)
  else if 0x01 ≤ fc ∧ fc ≤ 0x04 then fixedPdu fc (.plain (fcName fc)) 5 rangeFields
  else if fc = 0x05 then fixedPdu fc (.plain (fcName fc)) 5 coilFields
  else if fc = 0x06 then fixedPdu fc (.plain (fcName fc)) 5 registerFields
  else if fc = 0x07 ∨ fc = 0x0B ∨ fc = 0x0C ∨ fc = 0x11 then
    fixedPdu fc (.plain (fcName fc)) 1 fun _ => .ok []
  else if fc = 0x08 then fixedPdu fc (.plain (fcName fc)) 5 diagnosticsFields
  else if fc = 0x0F ∨ fc = 0x10 then countedPdu fc (.plain (fcName fc)) 6 writeMultipleFields
  else if fc = 0x14 then countedPdu fc (.plain (fcName fc)) 2 readFileFields
  else if fc = 0x15 then writeFilePdu fc
  else if fc = 0x16 then fixedPdu fc (.plain (fcName fc)) 7 maskWriteFields
  else if fc = 0x17 then countedPdu fc (.plain (fcName fc)) 10 readWriteFields
  else if fc = 0x18 then
    fixedPdu fc (.plain (fcName fc)) 3 fun bytes => .ok [hexField .fifoPointer (slice bytes 1 3)]
  else if fc = 0x2B then decodeMei fc false
  else if isUserDefinedFc fc then openPdu fc .userDefined
  else if isVendorFc fc then openPdu fc .vendorSpecific
  else badFc fc .unknownFc

/-- The body of `decodeStdPduResponse`. -/
def responseLayout (fc : UInt8) : Bytes → Js Pdu :=
  if fc = 0x00 then badFc fc .invalidFc
  else if fc &&& 0x80 ≠ 0 then fixedPdu fc .modbusError 2 (errorFields fc)
  else if 0x01 ≤ fc ∧ fc ≤ 0x04 then countedPdu fc (.response (fcName fc)) 2 countedDataFields
  else if fc = 0x05 then fixedPdu fc (.response (fcName fc)) 5 coilFields
  else if fc = 0x06 then fixedPdu fc (.response (fcName fc)) 5 registerFields
  else if fc = 0x07 then fixedPdu fc (.response .readExceptionStatus) 2 fun bytes => do
    return [(.outputData, .scalar (.text (← hexAt bytes 1)))]
  else if fc = 0x08 then fixedPdu fc (.response .diagnostics) 5 diagnosticsFields
  else if fc = 0x0B then fixedPdu fc (.response .getCommEventCounter) 5 eventCounterFields
  else if fc = 0x0C then countedPdu fc (.response .getCommEventLog) 2 eventLogFields
  else if fc = 0x0F ∨ fc = 0x10 then fixedPdu fc (.response (fcName fc)) 5 rangeFields
  else if fc = 0x11 then countedPdu fc (.response .reportServerId) 2 serverIdFields
  else if fc = 0x14 then countedPdu fc (.response .readFileRecord) 2 fileResponseFields
  else if fc = 0x16 then fixedPdu fc (.response .maskWriteRegister) 7 maskWriteFields
  else if fc = 0x17 then
    countedPdu fc (.response .readWriteMultipleRegisters) 2 countedDataFields
  else if fc = 0x18 then fifoPdu fc
  else if fc = 0x2B then decodeMei fc true
  else if isUserDefinedFc fc then openPdu fc .userDefined
  else if isVendorFc fc then openPdu fc .vendorSpecific
  else badFc fc .unknownFc

def layout : Direction → UInt8 → Bytes → Js Pdu
  | .request => requestLayout
  | .response => responseLayout

def decodeStdPdu (direction : Direction) (bytes : Bytes) : Js Pdu :=
  bytes.head?.elim (.ok (.error { reason := .pduEmpty, raw := [] })) fun fc =>
    layout direction fc bytes

def decodeStdPduRequest (bytes : Bytes) : Js Pdu := decodeStdPdu .request bytes

def decodeStdPduResponse (bytes : Bytes) : Js Pdu := decodeStdPdu .response bytes

/-! ## Fast Modbus -/

/-- `'fc' in pdu ? String(pdu.fc) : '??'`. -/
def Pdu.fcVal : Pdu → Text
  | .result p => p.fc
  | .error e => e.fc.getD (lit "??")

def decodeFastModbusPayload (bytes : Bytes) : Js FmSubcommand :=
  let sub := byteAt bytes 0
  let raw := hex bytes
  if bytes.length < 1 then .ok (.error { reason := .subcommandMissing, raw := [] })
  else if sub = 0x01 then .ok (.scanStart raw)
  else if sub = 0x02 then .ok (.scanContinue raw)
  else if sub = 0x03 then
    if bytes.length < 6 then .ok (.error { reason := .scanResponseTooShort, raw })
    else do return .scanResponse raw (hex (slice bytes 1 5)) (← hexAt bytes 5)
  else if sub = 0x04 then .ok (.scanEnd raw)
  else if sub = 0x08 then
    if bytes.length < 6 then .ok (.error { reason := .commandBySerialTooShort, raw })
    else do
      let pdu ← decodeStdPduRequest (bytes.drop 5)
      return .commandBySerial raw (hex (slice bytes 1 5)) pdu.fcVal pdu
  else if sub = 0x09 then
    if bytes.length < 6 then .ok (.error { reason := .responseBySerialTooShort, raw })
    else do
      let pdu ← decodeStdPduResponse (bytes.drop 5)
      return .responseBySerial raw (hex (slice bytes 1 5)) pdu.fcVal pdu
  else if sub = 0x10 then
    if bytes.length < 5 then .ok (.error { reason := .eventRequestTooShort, raw })
    else do
      return .eventRequest raw (← hexAt bytes 1) (← hexAt bytes 2) (← hexAt bytes 3)
        (← hexAt bytes 4)
  else if sub = 0x11 then
    if bytes.length < 4 then .ok (.error { reason := .eventTransferTooShort, raw })
    else do
      return .eventTransfer raw (← hexAt bytes 1) (← hexAt bytes 2) (← hexAt bytes 3)
        (hex (bytes.drop 4))
  else if sub = 0x12 then .ok (.noEvents raw)
  else if sub = 0x18 then
    if bytes.length < 2 then .ok (.error { reason := .eventConfigTooShort, raw })
    else do return .eventConfig raw (← hexAt bytes 1) (hex (bytes.drop 2))
  else .ok (.error { reason := .unknownSubcommand, raw, subcommand := some (hex [sub]) })

/-! ## Packets -/

/-- The condition under which a frame is a Fast Modbus one: a broadcast with either marker, or a
device address with the current one. -/
def isFastModbus (address extByte : UInt8) : Bool :=
  (address == 0xFD && (extByte == 0x60 || extByte == 0x46)) ||
    (0x01 ≤ address && address ≤ 0xF7 && extByte == 0x46)

def layerBytes (bytes : Bytes) : Bytes := slice bytes 1 (bytes.length - 2)

def fmBytes (bytes : Bytes) : Bytes := slice bytes 2 (bytes.length - 2)

/-- The `rtu_frame` around a layer. -/
def frameNode (bytes : Bytes) (reservedAddress : Bool) (payload : Layer) : Decoded :=
  .frame
    { raw := hex bytes, address := hex [byteAt bytes 0]
      crc := hex (bytes.drop (bytes.length - 2)), reservedAddress, payload }

def fmFrame (bytes : Bytes) (payload : FmSubcommand) : Decoded :=
  let subByte := (fmBytes bytes).head?.elim (lit "??") fun b => hex [b]
  frameNode bytes false
    (.fastModbus (hex (layerBytes bytes)) (hex [byteAt bytes 1]) subByte payload)

def stdFrame (bytes : Bytes) (fc : Text) (payload : Pdu) : Decoded :=
  frameNode bytes (0xF8 ≤ byteAt bytes 0) (.modbusRtu (hex (layerBytes bytes)) fc payload)

/-- `decodePacket` of a byte array. -/
def decodePacket (bytes : Bytes) (direction : Direction) : Js Decoded :=
  if bytes.length = 0 then .ok (.error { reason := .empty, raw := [] })
  else if bytes.all (· == 0xFF) then .ok (.arbitration (hex bytes))
  else if bytes.length < 4 then .ok (.error { reason := .tooShort, raw := hex bytes })
  else if isFastModbus (byteAt bytes 0) (byteAt bytes 1) then
    fmFrame bytes <$> decodeFastModbusPayload (fmBytes bytes)
  else do
    let fc ← hexAt (layerBytes bytes) 0
    stdFrame bytes fc <$> decodeStdPdu direction (layerBytes bytes)

def toBytes (numbers : List ℤ) : Js Bytes :=
  if numbers.all fun n => 0 ≤ n && n < 256 then .ok (numbers.map fun n => UInt8.ofNat n.toNat)
  else .error .notBytes

/-- `decodePacket` of a text. -/
def decodePacketText (input : Text) (direction : Direction) : Js Decoded :=
  (parseHex input).elim (.ok (.error { reason := .invalidHex, raw := input })) fun numbers => do
    decodePacket (← toBytes numbers) direction

end WbMge.Decoder
