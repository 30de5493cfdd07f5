import Mathlib.Algebra.Group.Nat.Defs
import Mathlib.Data.List.Basic

/-!
# Modbus helpers

The frame checks and conversions of `modbus_helpers.c`, and the two pure helpers of `fast_modbus.c`.
A C buffer and its length are one byte list. Sixteen-bit quantities are natural numbers, reduced
modulo `2 ^ 16` where the C code stores one in a `uint16_t`. A conversion that returns length 0 to
report an error returns `none`.
-/

namespace WbMge

abbrev Bytes := List UInt8

/-! ## Bytes and 16-bit words -/

/-- The byte at offset `i`. Reads past the end give 0; every read of the source is guarded
by a length check. -/
def byteAt (data : Bytes) (i : Nat) : UInt8 := data.getD i 0

@[simp] lemma byteAt_cons_zero (b : UInt8) (data : Bytes) : byteAt (b :: data) 0 = b := rfl

@[simp] lemma byteAt_cons_succ (b : UInt8) (data : Bytes) (i : Nat) :
    byteAt (b :: data) (i + 1) = byteAt data i := by
  simp [byteAt]

variable {i : Nat} {data : Bytes}

lemma byteAt_append_left {a : Bytes} (h : i < a.length) (b : Bytes) :
    byteAt (a ++ b) i = byteAt a i := by
  simp [byteAt, List.getElem?_append_left h]

lemma byteAt_take {n : Nat} (h : i < n) : byteAt (data.take n) i = byteAt data i := by
  simp [byteAt, h]

/-- The big-endian 16-bit word with high byte `hi` and low byte `lo`. -/
def u16be (hi lo : UInt8) : Nat := hi.toNat * 256 + lo.toNat

/-- The two big-endian bytes of the low 16 bits of `n`. -/
def be16 (n : Nat) : Bytes := [UInt8.ofNat (n / 256), UInt8.ofNat n]

@[simp] lemma length_be16 (n : Nat) : (be16 n).length = 2 := rfl

lemma u16be_lt (hi lo : UInt8) : u16be hi lo < 65536 := by
  have h₁ := hi.toNat_lt
  have h₂ := lo.toNat_lt
  simp only [u16be]
  omega

lemma u16be_be16 {n : Nat} (h : n < 65536) :
    u16be (byteAt (be16 n) 0) (byteAt (be16 n) 1) = n := by
  simp only [u16be, be16, byteAt_cons_zero, byteAt_cons_succ, UInt8.toNat_ofNat']
  omega

/-! ## Bits -/

/-- The bit at offset `i`, the least significant bit of a byte first. -/
def bitAt (data : Bytes) (i : Nat) : Bool := (byteAt data (i / 8)).toNat.testBit (i % 8)

/-- Set the bit at offset `i`. -/
def setBit (data : Bytes) (i : Nat) : Bytes :=
  data.modify (i / 8) (· ||| 1 <<< UInt8.ofNat (i % 8))

@[simp] lemma bitAt_replicate_zero (n i : Nat) : bitAt (List.replicate n 0) i = false := by
  simp [bitAt, byteAt, List.getElem?_replicate]
  split <;> simp

@[simp] lemma length_setBit (data : Bytes) (i : Nat) : (setBit data i).length = data.length := by
  simp [setBit]

lemma toNat_one_shiftLeft (h : i < 8) : (1 <<< UInt8.ofNat i : UInt8).toNat = 2 ^ i := by
  have hall : ∀ i : Fin 8, (1 <<< UInt8.ofNat i.1 : UInt8).toNat = 2 ^ i.1 := by decide
  exact hall ⟨i, h⟩

lemma toNat_shiftRight_and_one (b : UInt8) (h : i < 8) :
    (b >>> UInt8.ofNat i &&& 1).toNat = (b.toNat.testBit i).toNat := by
  rw [UInt8.toNat_and, UInt8.toNat_shiftRight, UInt8.toNat_ofNat', Nat.toNat_testBit,
    UInt8.toNat_one, Nat.and_one_is_mod, Nat.shiftRight_eq_div_pow]
  congr 3
  omega

lemma bitAt_setBit (hi : i / 8 < data.length) (j : Nat) :
    bitAt (setBit data i) j = (bitAt data j || decide (i = j)) := by
  have hbyte : byteAt (setBit data i) (j / 8) =
      if i / 8 = j / 8 then byteAt data (j / 8) ||| 1 <<< UInt8.ofNat (i % 8)
      else byteAt data (j / 8) := by
    simp only [byteAt, setBit, List.getD_eq_getElem?_getD, List.getElem?_modify]
    split
    · rename_i hij
      rw [← hij, List.getElem?_eq_getElem hi]
      rfl
    · simp
  rw [bitAt, hbyte, bitAt]
  split
  · -- the same byte: the two bits are the same when the remainders are
    rename_i hij
    rw [UInt8.toNat_or, Nat.testBit_or, toNat_one_shiftLeft (by omega), Nat.testBit_two_pow]
    congr 2
    simp only [eq_iff_iff]
    omega
  · rename_i hij
    have hne : i ≠ j := fun h => hij (by rw [h])
    simp [hne]

lemma or_and_exceptionFlag (fc : UInt8) : (fc ||| 0x80) &&& 0x80 = 0x80 := by
  have hall : ∀ b : BitVec 8, (b ||| 0x80#8) &&& 0x80#8 = 0x80#8 := by decide +kernel
  exact UInt8.toBitVec_inj.1 (hall fc.toBitVec)

lemma and_exceptionFlag_eq_zero {fc : UInt8} (h : fc < 0x80) : fc &&& 0x80 = 0 := by
  have hall : ∀ b : BitVec 8, b < 0x80#8 → b &&& 0x80#8 = 0#8 := by decide +kernel
  exact UInt8.toBitVec_inj.1 (hall fc.toBitVec h)

/-! ## CRC -/

def crcShift (crc : UInt16) : UInt16 :=
  if crc &&& 0x0001 ≠ 0 then (crc >>> 1) ^^^ 0xA001 else crc >>> 1

def crcByte (crc : UInt16) (b : UInt8) : UInt16 :=
  crcShift (crcShift (crcShift (crcShift (crcShift (crcShift (crcShift (crcShift
    (crc ^^^ b.toUInt16))))))))

/-- The CRC of the first `len` bytes, `len` being a `uint16_t`. -/
def modbusCrc16 (data : Bytes) (len : Nat) : UInt16 :=
  (data.take (len % 65536)).foldl crcByte 0xFFFF

def packetCrc (data : Bytes) : Nat :=
  (byteAt data (data.length - 2)).toNat + (byteAt data (data.length - 1)).toNat * 256

def crcBytes (crc : UInt16) : Bytes := [UInt8.ofNat crc.toNat, UInt8.ofNat (crc.toNat / 256)]

def crcOk (data : Bytes) : Bool :=
  (modbusCrc16 data (data.length - 2)).toNat == packetCrc data

/-! ## Headers -/

structure MbRtuHeader where
  slaveId : UInt8
  function : UInt8
deriving Repr, DecidableEq

/-- `mb_tcp_header_t`, in host order. -/
structure MbTcpHeader where
  transactionId : Nat
  protocolId : Nat
  length : Nat
  unitId : UInt8
  function : UInt8
deriving Repr, DecidableEq

def rtuHeader (data : Bytes) : MbRtuHeader where
  slaveId := byteAt data 0
  function := byteAt data 1

def tcpHeader (data : Bytes) : MbTcpHeader where
  transactionId := u16be (byteAt data 0) (byteAt data 1)
  protocolId := u16be (byteAt data 2) (byteAt data 3)
  length := u16be (byteAt data 4) (byteAt data 5)
  unitId := byteAt data 6
  function := byteAt data 7

/-- `sizeof(mb_tcp_header_t)`. -/
def tcpHeaderSize : Nat := 8

/-- `offsetof(mb_tcp_header_t, unit_id)`: the part of an ADU its length field leaves out. -/
def unitIdOffset : Nat := 6

def tcpAdu (h : MbTcpHeader) (body : Bytes) : Bytes :=
  be16 h.transactionId ++ be16 h.protocolId ++ be16 h.length ++ h.unitId :: h.function :: body

/-- The unit id of the gateway itself. -/
def mbDeviceIsSelf (unitId : UInt8) : Bool := unitId == 0xFF

/-- FC03 and FC04 read registers; of the four read functions the other two, FC01 and FC02, read
coils and discrete inputs. -/
def isRegisterRead (function : UInt8) : Bool := function == 0x03 || function == 0x04

def maxReadRegisters : UInt16 := 125

def maxReadCoils : UInt16 := 2000

def plainFunction (function : UInt8) : UInt8 := function &&& ~~~ 0x80

/-! ## Checks and conversions -/

def modbusRtuCheckRequest (data : Bytes) : Bool :=
  5 ≤ data.length && (rtuHeader data).function &&& 0x80 == 0 && crcOk data

/-- Length and CRC, and against a request header also the slave id and the function code. -/
def modbusRtuCheckResponse (data : Bytes) (rtuReqHeader : Option MbRtuHeader) : Bool :=
  5 ≤ data.length && crcOk data &&
    match rtuReqHeader with
    | none => true
    | some req =>
      (rtuHeader data).slaveId == req.slaveId &&
        plainFunction (rtuHeader data).function == req.function

/-- Length, protocol id and the 16-bit length field. -/
def modbusTcpCheckRequest (data : Bytes) : Bool :=
  tcpHeaderSize ≤ data.length && (tcpHeader data).protocolId == 0 &&
    ((tcpHeader data).length + unitIdOffset) % 65536 == data.length

/-- The RTU frame carried by a Modbus TCP ADU. For a length field of `0xFFFE` or `0xFFFF` the length
wraps and the source copies past its buffer, but `modbusTcpCheckRequest` takes no such ADU. -/
def modbusRtuFromTcp (data : Bytes) (outBufSize : Nat) : Option Bytes :=
  let rtuLen := ((tcpHeader data).length + 2) % 65536
  if outBufSize < rtuLen ∨ rtuLen = 0 then none
  else
    let rtuLenExclCrc := (rtuLen + 65536 - 2) % 65536
    let body := (data.drop unitIdOffset).take rtuLenExclCrc
    some ((body ++ crcBytes (modbusCrc16 body rtuLenExclCrc)).take rtuLen)

/-- The Modbus TCP ADU answering `transactionId` with an RTU frame. -/
def modbusTcpFromRtu (transactionId : Nat) (data : Bytes) (outBufSize : Nat) : Option Bytes :=
  let tcpLen := data.length + tcpHeaderSize - 2 - 2
  if outBufSize < tcpLen then none
  else some (tcpAdu
    { transactionId, protocolId := 0, length := tcpLen - unitIdOffset,
      unitId := (rtuHeader data).slaveId, function := (rtuHeader data).function }
    ((data.drop 2).take (tcpLen - tcpHeaderSize)))

/-- An exception ADU answering `transactionId`. -/
def modbusPduBuildException (transactionId : Nat) (unitId fc exc : UInt8) : Bytes :=
  tcpAdu { transactionId, protocolId := 0, length := 3, unitId, function := fc ||| 0x80 } [exc]

/-- Start address and count of a read request. -/
def modbusPduParseReadRequest (pdu : Bytes) : Nat × Nat :=
  (u16be (byteAt pdu 0) (byteAt pdu 1), u16be (byteAt pdu 2) (byteAt pdu 3))

/-- Drop the 0xFF bytes before the packet. -/
def fastModbusTruncateFf (data : Bytes) : Bytes := data.dropWhile (· == 0xFF)

/-! ## Lemmas -/

lemma tcpHeader_tcpAdu {h : MbTcpHeader} (body : Bytes) (htid : h.transactionId < 65536)
    (hpid : h.protocolId < 65536) (hlen : h.length < 65536) :
    tcpHeader (tcpAdu h body) = h := by
  have hparts : tcpHeader (tcpAdu h body) =
      { transactionId := u16be (byteAt (be16 h.transactionId) 0) (byteAt (be16 h.transactionId) 1)
        protocolId := u16be (byteAt (be16 h.protocolId) 0) (byteAt (be16 h.protocolId) 1)
        length := u16be (byteAt (be16 h.length) 0) (byteAt (be16 h.length) 1)
        unitId := h.unitId, function := h.function } := rfl
  rw [hparts, u16be_be16 htid, u16be_be16 hpid, u16be_be16 hlen]

@[simp] lemma length_tcpAdu (h : MbTcpHeader) (body : Bytes) :
    (tcpAdu h body).length = tcpHeaderSize + body.length := by
  simp [tcpAdu, tcpHeaderSize]
  omega

lemma modbusTcpFromRtu_header {tid size : Nat} {adu : Bytes} (htid : tid < 65536)
    (hsize : size ≤ 65536) (h : modbusTcpFromRtu tid data size = some adu) :
    (tcpHeader adu).transactionId = tid ∧ (tcpHeader adu).unitId = (rtuHeader data).slaveId ∧
      (tcpHeader adu).function = (rtuHeader data).function := by
  simp only [modbusTcpFromRtu] at h
  split at h
  · cases h
  rename_i hfit
  obtain rfl := Option.some.inj h
  rw [tcpHeader_tcpAdu _ htid (by simp) (by simp only [tcpHeaderSize, unitIdOffset] at *; omega)]
  exact ⟨rfl, rfl, rfl⟩

lemma transactionId_lt (data : Bytes) : (tcpHeader data).transactionId < 65536 :=
  u16be_lt _ _

end WbMge
