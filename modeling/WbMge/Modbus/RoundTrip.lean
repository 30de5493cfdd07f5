import WbMge.Sniffer.Model
import WbMge.ToMathlib.Buffer

/-!
# The conversions between Modbus TCP and Modbus RTU

`modbus_rtu_from_tcp` and `modbus_tcp_from_rtu` as programs that write into the buffer of their
caller. They write what `modbusRtuFromTcp` and `modbusTcpFromRtu` say and nothing behind it
(`writes_modbusRtuFromTcpInto`, `writes_modbusTcpFromRtuInto`), and they are inverse to each other
(`conversions_roundTrip`).
-/

namespace WbMge

open Buffer (Prog copy contents overwrite store wp)
open Sniffer (crcCheck)

/-! ## The programs -/

/-- `modbus_rtu_from_tcp`. It stops with an error where the source returns the length 0. -/
def modbusRtuFromTcpInto (data : Bytes) (outBufSize : ℕ) : Prog UInt8 Unit ℕ :=
  let rtuLen := ((tcpHeader data).length + 2) % 65536
  if outBufSize < rtuLen then throw ()
  else do
    let rtuLenExclCrc := (rtuLen + 65536 - 2) % 65536
    copy 0 data unitIdOffset rtuLenExclCrc
    let outBuf ← contents
    store rtuLenExclCrc (crcBytes (modbusCrc16 outBuf rtuLenExclCrc))
    return rtuLen

/-- `modbus_tcp_from_rtu`, likewise. -/
def modbusTcpFromRtuInto (transactionId : ℕ) (data : Bytes) (outBufSize : ℕ) :
    Prog UInt8 Unit ℕ :=
  let tcpLen := data.length + tcpHeaderSize - 2 - 2
  if outBufSize < tcpLen then throw ()
  else do
    store 0 (be16 transactionId)
    store 2 (be16 0)
    store 4 (be16 (tcpLen - unitIdOffset))
    store 6 [(rtuHeader data).slaveId]
    store 7 [(rtuHeader data).function]
    copy tcpHeaderSize data 2 (tcpLen - tcpHeaderSize)
    return tcpLen

/-- In a buffer of at least `size` bytes the program leaves `out` at the start and everything behind
it as it was, and returns the length of `out`. -/
def Writes (m : Prog UInt8 Unit ℕ) (size : ℕ) (out : Bytes) : Prop :=
  ∀ buf : Bytes, size ≤ buf.length → m.exec buf = some (.ok out.length, overwrite out buf)

lemma writes_iff_wp {m : Prog UInt8 Unit ℕ} {size : ℕ} {out : Bytes} :
    Writes m size out ↔ ∀ buf : Bytes, size ≤ buf.length →
      wp m (fun r buf' => r = .ok out.length ∧ buf' = overwrite out buf) buf := by
  refine forall₂_congr fun buf _ => ⟨fun h => ⟨_, _, h, rfl, rfl⟩, ?_⟩
  rintro ⟨_, _, h, rfl, rfl⟩
  exact h

/-! ## Frames and their CRC -/

def rtuFrame (body : Bytes) : Bytes := body ++ crcBytes (modbusCrc16 body body.length)

@[simp] lemma length_rtuFrame (body : Bytes) : (rtuFrame body).length = body.length + 2 := by
  simp [rtuFrame, crcBytes]

lemma packetCrc_append_crcBytes (body : Bytes) (crc : UInt16) :
    packetCrc (body ++ crcBytes crc) = crc.toNat := by
  have h := crc.toNat_lt
  simp [packetCrc, byteAt, crcBytes]
  omega

variable {body : Bytes}

lemma modbusCrc16_rtuFrame (h : body.length < 65536) (tail : Bytes) :
    modbusCrc16 (body ++ tail) body.length = modbusCrc16 body body.length := by
  simp [modbusCrc16, Nat.mod_eq_of_lt h]

lemma crcOk_rtuFrame (h : body.length < 65536) : crcOk (rtuFrame body) = true := by
  rw [crcOk, length_rtuFrame, Nat.add_sub_cancel, rtuFrame, modbusCrc16_rtuFrame h,
    packetCrc_append_crcBytes, beq_self_eq_true]

lemma crcCheck_rtuFrame (hmin : 2 ≤ body.length) (hmax : body.length < 65536) :
    crcCheck (rtuFrame body) = true := by
  simp only [crcCheck, length_rtuFrame, Nat.add_sub_cancel]
  rw [rtuFrame, modbusCrc16_rtuFrame hmax]
  simp [byteAt, crcBytes]
  omega

lemma crcBytes_of_toNat_eq {crc : UInt16} {lo hi : UInt8}
    (h : crc.toNat = lo.toNat + hi.toNat * 256) : crcBytes crc = [lo, hi] := by
  have hlo := lo.toNat_lt
  have hlow : UInt8.ofNat crc.toNat = lo := UInt8.toNat_inj.1 (by rw [UInt8.toNat_ofNat', h]; omega)
  have hhigh : UInt8.ofNat (crc.toNat / 256) = hi :=
    UInt8.toNat_inj.1 (by have hhi := hi.toNat_lt; rw [UInt8.toNat_ofNat', h]; omega)
  rw [crcBytes, hlow, hhigh]

lemma exists_eq_rtuFrame {frame : Bytes} (hmin : 2 ≤ frame.length) (hmax : frame.length < 65536)
    (h : crcOk frame = true) : ∃ body, frame = rtuFrame body := by
  -- the last two bytes, whatever they are
  have hpair : (frame.drop (frame.length - 2)).length = 2 := by
    rw [List.length_drop]
    omega
  obtain ⟨lo, hi, htail⟩ := List.length_eq_two.1 hpair
  refine ⟨frame.take (frame.length - 2), ?_⟩
  have hsplit := List.take_append_drop (frame.length - 2) frame
  rw [htail] at hsplit
  generalize frame.take (frame.length - 2) = body at hsplit
  subst hsplit
  have hlen : (body ++ [lo, hi]).length = body.length + 2 := by simp
  have hword : (modbusCrc16 body body.length).toNat = packetCrc (body ++ [lo, hi]) := by
    rw [crcOk, hlen, Nat.add_sub_cancel, modbusCrc16_rtuFrame (by omega)] at h
    exact beq_iff_eq.1 h
  have hvalue : packetCrc (body ++ [lo, hi]) = lo.toNat + hi.toNat * 256 := by
    simp [packetCrc, byteAt]
  rw [rtuFrame, crcBytes_of_toNat_eq (hword.trans hvalue)]

/-! ## ADUs and their messages -/

lemma be16_u16be (hi lo : UInt8) : be16 (u16be hi lo) = [hi, lo] := by
  have hlo := lo.toNat_lt
  have hhigh : UInt8.ofNat (u16be hi lo / 256) = hi := by
    apply UInt8.toNat_inj.1
    have hhi := hi.toNat_lt
    rw [UInt8.toNat_ofNat', u16be]
    omega
  have hlow : UInt8.ofNat (u16be hi lo) = lo := by
    apply UInt8.toNat_inj.1
    rw [UInt8.toNat_ofNat', u16be]
    omega
  rw [be16, hhigh, hlow]

def aduOf (tid : ℕ) (body : Bytes) : Bytes := be16 tid ++ be16 0 ++ be16 body.length ++ body

@[simp] lemma length_aduOf (tid : ℕ) (body : Bytes) :
    (aduOf tid body).length = 6 + body.length := by
  simp [aduOf]
  omega

lemma tcpHeader_aduOf {tid : ℕ} (htid : tid < 65536) (h : body.length < 65536) :
    tcpHeader (aduOf tid body) = ⟨tid, 0, body.length, byteAt body 0, byteAt body 1⟩ := by
  have hparts : tcpHeader (aduOf tid body) =
      ⟨u16be (byteAt (be16 tid) 0) (byteAt (be16 tid) 1),
        u16be (byteAt (be16 0) 0) (byteAt (be16 0) 1),
        u16be (byteAt (be16 body.length) 0) (byteAt (be16 body.length) 1), byteAt body 0,
        byteAt body 1⟩ := rfl
  rw [hparts, u16be_be16 htid, u16be_be16 (by decide), u16be_be16 h]

lemma eq_aduOf_of_check {adu : Bytes} (hlen : adu.length < 65536)
    (h : modbusTcpCheckRequest adu = true) :
    adu = aduOf (tcpHeader adu).transactionId (adu.drop unitIdOffset) := by
  simp only [modbusTcpCheckRequest, tcpHeaderSize, unitIdOffset, Bool.and_eq_true,
    beq_iff_eq] at h
  obtain ⟨⟨hmin, hpid⟩, hfield⟩ := h
  -- the six bytes in front of the message; a shorter ADU does not pass
  obtain _ | ⟨a, _ | ⟨b, _ | ⟨c, _ | ⟨d, _ | ⟨e, _ | ⟨f, body⟩⟩⟩⟩⟩⟩ := adu
  iterate 6 simp at hmin
  change u16be c d = 0 at hpid
  change (u16be e f + 6) % 65536 = body.length + 6 at hfield
  change body.length + 6 < 65536 at hlen
  have hlength : body.length = u16be e f := by
    have hlt := u16be_lt e f
    omega
  change a :: b :: c :: d :: e :: f :: body = aduOf (u16be a b) body
  rw [aduOf, hlength, ← hpid, be16_u16be, be16_u16be, be16_u16be]
  rfl

/-! ## The conversions -/

section Conversions

variable {tid size : ℕ} {body : Bytes}

lemma rtuLen_eq (hlen : body.length + 2 < 65536) :
    (body.length + 2) % 65536 = body.length + 2 ∧
      (body.length + 2 + 65536 - 2) % 65536 = body.length := by
  omega

lemma drop_aduOf : (aduOf tid body).drop unitIdOffset = body := rfl

lemma modbusRtuFromTcp_aduOf (htid : tid < 65536) (hlen : body.length + 2 < 65536)
    (hsize : body.length + 2 ≤ size) :
    modbusRtuFromTcp (aduOf tid body) size = some (rtuFrame body) := by
  have hheader := tcpHeader_aduOf htid (by omega : body.length < 65536)
  obtain ⟨hrtu, hexcl⟩ := rtuLen_eq hlen
  simp only [modbusRtuFromTcp, hheader, hrtu, hexcl, drop_aduOf, List.take_length]
  rw [if_neg (by omega), ← rtuFrame, List.take_of_length_le (Nat.le_of_eq (length_rtuFrame body))]

lemma writes_modbusRtuFromTcpInto (htid : tid < 65536) (hlen : body.length + 2 < 65536)
    (hsize : body.length + 2 ≤ size) :
    Writes (modbusRtuFromTcpInto (aduOf tid body) size) size (rtuFrame body) := by
  have hheader := tcpHeader_aduOf htid (by omega : body.length < 65536)
  obtain ⟨hrtu, hexcl⟩ := rtuLen_eq hlen
  rw [writes_iff_wp]
  intro buf hbuf
  have hroom : (body ++ crcBytes (modbusCrc16 body body.length)).length ≤ buf.length := by
    rw [← rtuFrame, length_rtuFrame]
    omega
  simp only [modbusRtuFromTcpInto, hheader, hrtu, hexcl,
    if_neg (by omega : ¬ size < body.length + 2)]
  rw [Buffer.wp_bind, Buffer.wp_copy (by simp [unitIdOffset]), drop_aduOf, List.take_length,
    ← Buffer.wp_bind]
  refine Buffer.wp_store_bind (rfl : ([] : Bytes).length = 0) (by simp; omega) ?_
  -- the CRC is that of the bytes in the output, and they are the message by now
  rw [Buffer.wp_bind, Buffer.wp_contents, Buffer.Then_ok, List.nil_append, overwrite,
    modbusCrc16_rtuFrame (by omega), ← overwrite]
  refine Buffer.wp_store_bind rfl hroom ?_
  rw [Buffer.wp_pure]
  exact ⟨by rw [length_rtuFrame], rfl⟩

variable {slaveId function : UInt8} {pdu : Bytes}

lemma tcpLen_eq (slaveId function : UInt8) (pdu : Bytes) :
    (rtuFrame (slaveId :: function :: pdu)).length + tcpHeaderSize - 2 - 2 = 8 + pdu.length ∧
      8 + pdu.length - unitIdOffset = pdu.length + 2 ∧
      8 + pdu.length - tcpHeaderSize = pdu.length := by
  simp only [length_rtuFrame, List.length_cons, tcpHeaderSize, unitIdOffset]
  omega

lemma take_drop_rtuFrame :
    ((rtuFrame (slaveId :: function :: pdu)).drop 2).take pdu.length = pdu :=
  List.take_left

lemma modbusTcpFromRtu_rtuFrame (hsize : 8 + pdu.length ≤ size) :
    modbusTcpFromRtu tid (rtuFrame (slaveId :: function :: pdu)) size =
      some (aduOf tid (slaveId :: function :: pdu)) := by
  obtain ⟨htcp, hfield, hdata⟩ := tcpLen_eq slaveId function pdu
  simp only [modbusTcpFromRtu, htcp, hfield, hdata, take_drop_rtuFrame]
  rw [if_neg (by omega)]
  rfl

lemma writes_modbusTcpFromRtuInto (hsize : 8 + pdu.length ≤ size) :
    Writes (modbusTcpFromRtuInto tid (rtuFrame (slaveId :: function :: pdu)) size) size
      (aduOf tid (slaveId :: function :: pdu)) := by
  obtain ⟨htcp, hfield, hdata⟩ := tcpLen_eq slaveId function pdu
  rw [writes_iff_wp]
  intro buf hbuf
  simp only [modbusTcpFromRtuInto, htcp, hfield, hdata,
    if_neg (by omega : ¬ size < 8 + pdu.length)]
  -- the fields of the header are stored one behind the other
  change wp _ _ (overwrite [] buf)
  iterate 5 refine Buffer.wp_store_bind rfl (by simp; omega) ?_
  rw [Buffer.wp_bind, Buffer.wp_copy (by simp; omega), take_drop_rtuFrame, ← Buffer.wp_bind]
  refine Buffer.wp_store_bind rfl (by simp; omega) ?_
  rw [Buffer.wp_pure]
  refine ⟨?_, rfl⟩
  rw [length_aduOf, List.length_cons, List.length_cons]
  congr 1
  omega

end Conversions

/-! ## Round trips -/

lemma exists_eq_cons_cons (h : 2 ≤ body.length) :
    ∃ slaveId function pdu, body = slaveId :: function :: pdu := by
  obtain _ | ⟨slaveId, _ | ⟨function, pdu⟩⟩ := body
  iterate 2 simp at h
  exact ⟨slaveId, function, pdu, rfl⟩

/-- The conversion of an ADU to a frame, as the gateway calls it and as it writes its output. -/
structure ToRtu (adu frame : Bytes) : Prop where
  returns : ∀ size, frame.length ≤ size → modbusRtuFromTcp adu size = some frame
  writes : ∀ size, frame.length ≤ size → Writes (modbusRtuFromTcpInto adu size) size frame

structure ToTcp (tid : UInt16) (frame adu : Bytes) : Prop where
  returns : ∀ size, adu.length ≤ size → modbusTcpFromRtu tid.toNat frame size = some adu
  writes : ∀ size, adu.length ≤ size → Writes (modbusTcpFromRtuInto tid.toNat frame size) size adu

section RoundTrip

variable {body : Bytes}

lemma toRtu_aduOf (tid : UInt16) (hlen : body.length + 2 < 65536) :
    ToRtu (aduOf tid.toNat body) (rtuFrame body) where
  returns size hsize := modbusRtuFromTcp_aduOf tid.toNat_lt hlen (by simpa using hsize)
  writes size hsize := writes_modbusRtuFromTcpInto tid.toNat_lt hlen (by simpa using hsize)

lemma toTcp_rtuFrame (tid : UInt16) (hmin : 2 ≤ body.length) :
    ToTcp tid (rtuFrame body) (aduOf tid.toNat body) := by
  obtain ⟨slaveId, function, pdu, rfl⟩ := exists_eq_cons_cons hmin
  constructor
  · intro size hsize
    simp only [length_aduOf, List.length_cons] at hsize
    exact modbusTcpFromRtu_rtuFrame (by omega)
  · intro size hsize
    simp only [length_aduOf, List.length_cons] at hsize
    exact writes_modbusTcpFromRtuInto (by omega)

lemma modbusRtuCheckRequest_rtuFrame (hmin : 3 ≤ body.length) (hmax : body.length < 65536)
    (hfunction : byteAt body 1 < 0x80) : modbusRtuCheckRequest (rtuFrame body) = true := by
  have hbyte : (rtuHeader (rtuFrame body)).function = byteAt body 1 :=
    byteAt_append_left (by omega) _
  simp [modbusRtuCheckRequest, hbyte, hmin, and_exceptionFlag_eq_zero hfunction,
    crcOk_rtuFrame hmax]

end RoundTrip

/-- A request becomes a frame that all checks accept, and the frame becomes the request again; a
response becomes an ADU, and the ADU becomes the response again. The conversions write the result
and nothing else. -/
theorem conversions_roundTrip :
    (∀ adu : Bytes, modbusTcpCheckRequest adu = true → 9 ≤ adu.length → adu.length ≤ 300 →
      (tcpHeader adu).function < 0x80 →
      ∃ frame, ToRtu adu frame ∧ modbusRtuCheckRequest frame = true ∧ crcCheck frame = true ∧
        ToTcp (UInt16.ofNat (tcpHeader adu).transactionId) frame adu) ∧
    ∀ (frame : Bytes) (tid : UInt16), modbusRtuCheckResponse frame none = true →
      5 ≤ frame.length → frame.length ≤ 300 →
      ∃ adu, ToTcp tid frame adu ∧ ToRtu adu frame := by
  constructor
  · intro adu hcheck hmin hmax hfunction
    have hadu := eq_aduOf_of_check (by omega) hcheck
    have htid : (UInt16.ofNat (tcpHeader adu).transactionId).toNat =
        (tcpHeader adu).transactionId := UInt16.toNat_ofNat_of_lt' (transactionId_lt adu)
    rw [← htid] at hadu
    generalize UInt16.ofNat (tcpHeader adu).transactionId = tid at hadu
    generalize adu.drop unitIdOffset = body at hadu
    subst hadu
    rw [length_aduOf] at hmin hmax
    rw [tcpHeader_aduOf tid.toNat_lt (by omega)] at hfunction
    exact ⟨rtuFrame body, toRtu_aduOf tid (by omega),
      modbusRtuCheckRequest_rtuFrame (by omega) (by omega) hfunction,
      crcCheck_rtuFrame (by omega) (by omega), toTcp_rtuFrame tid (by omega)⟩
  · intro frame tid hcheck hmin hmax
    simp only [modbusRtuCheckResponse, Bool.and_true, Bool.and_eq_true] at hcheck
    obtain ⟨body, rfl⟩ := exists_eq_rtuFrame (by omega) (by omega) hcheck.2
    rw [length_rtuFrame] at hmin hmax
    exact ⟨aduOf tid.toNat body, toTcp_rtuFrame tid (by omega), toRtu_aduOf tid (by omega)⟩

/-- A read of one register, and an exception in return. -/
theorem conversions_roundTrip_read :
    (∃ frame, ToRtu [0, 7, 0, 0, 0, 6, 1, 3, 0, 0x6B, 0, 1] frame ∧ crcCheck frame = true) ∧
      ∃ adu, ToTcp 7 [1, 0x83, 2, 0xC0, 0xF1] adu ∧ ToRtu adu [1, 0x83, 2, 0xC0, 0xF1] := by
  obtain ⟨frame, hrtu, -, hcrc, -⟩ :=
    conversions_roundTrip.1 [0, 7, 0, 0, 0, 6, 1, 3, 0, 0x6B, 0, 1] (by decide) (by decide)
      (by decide) (by decide)
  exact ⟨⟨frame, hrtu, hcrc⟩,
    conversions_roundTrip.2 [1, 0x83, 2, 0xC0, 0xF1] 7 (by decide +kernel) (by decide)
      (by decide)⟩

end WbMge
