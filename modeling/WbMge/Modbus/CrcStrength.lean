import WbMge.Modbus.RoundTrip
import WbMge.ToMathlib.CrcRegister

/-!
# What the CRC detects

The CRC of a Modbus RTU frame as a register that takes the frame bit by bit, in the order of
transmission. A frame is valid only if the whole of it, CRC included, leaves the register empty
(`run_frameBits_of_crcOk`), so an error that takes a valid frame to a valid one would have to leave
an empty register alone. Neither an error within 16 consecutive bits nor an odd number of wrong bits
does (`crc_detects`).
-/

namespace WbMge

open CrcRegister
open Sniffer (crcCheck)

/-- The polynomial of `modbus_crc16`. -/
def crcPoly : BitVec 16 := 0xA001#16

def byteBits (b : UInt8) : List Bool := (List.range 8).map b.toNat.testBit

/-- The bits of a frame in the order of transmission. -/
def frameBits (frame : Bytes) : List Bool := frame.flatMap byteBits

/-- A frame with some of its bits flipped. -/
def corrupt (frame error : Bytes) : Bytes := List.zipWith (· ^^^ ·) frame error

/-- All wrong bits are within 16 consecutive ones. -/
def IsBurst (error : Bytes) : Prop :=
  (∃ i, bitAt error i = true) ∧ ∃ s, ∀ i, bitAt error i = true → s ≤ i ∧ i < s + 16

def flips (error : Bytes) : ℕ := (List.range (8 * error.length)).countP (bitAt error)

/-! ## Bits of a frame -/

@[simp] lemma length_byteBits (b : UInt8) : (byteBits b).length = 8 := by
  simp [byteBits]

lemma frameBits_cons (b : UInt8) (frame : Bytes) :
    frameBits (b :: frame) = byteBits b ++ frameBits frame := List.flatMap_cons

lemma frameBits_append (frame rest : Bytes) :
    frameBits (frame ++ rest) = frameBits frame ++ frameBits rest := List.flatMap_append

@[simp] lemma length_frameBits (frame : Bytes) : (frameBits frame).length = 8 * frame.length := by
  induction frame with
  | nil => rfl
  | cons b frame ih =>
    rw [frameBits_cons, List.length_append, length_byteBits, ih, List.length_cons]
    omega

variable {i : ℕ} {frame error : Bytes}

lemma getElem?_byteBits (b : UInt8) (h : i < 8) :
    (byteBits b)[i]? = some (b.toNat.testBit i) := by
  simp [byteBits, h]

lemma getElem?_frameBits (h : i < 8 * frame.length) :
    (frameBits frame)[i]? = some (bitAt frame i) := by
  induction frame generalizing i with
  | nil => simp at h
  | cons b frame ih =>
    rw [frameBits_cons]
    by_cases hi : i < 8
    · rw [List.getElem?_append_left (by simpa using hi), getElem?_byteBits b hi, bitAt,
        Nat.div_eq_of_lt hi, Nat.mod_eq_of_lt hi, byteAt_cons_zero]
    rw [List.length_cons] at h
    rw [List.getElem?_append_right (by simpa using hi), length_byteBits, ih (by omega), bitAt,
      bitAt]
    have hdiv : i / 8 = (i - 8) / 8 + 1 := by omega
    have hmod : i % 8 = (i - 8) % 8 := by omega
    rw [hdiv, hmod, byteAt_cons_succ]

lemma frameBits_eq_map (frame : Bytes) :
    frameBits frame = (List.range (8 * frame.length)).map (bitAt frame) := by
  refine List.ext_getElem? fun i => ?_
  by_cases hi : i < 8 * frame.length
  · rw [getElem?_frameBits hi]
    simp [hi]
  · rw [List.getElem?_eq_none (by simpa using hi), List.getElem?_eq_none (by simpa using hi)]

lemma lt_of_bitAt (h : bitAt frame i = true) : i < 8 * frame.length := by
  by_contra hi
  have hout : frame[i / 8]? = none := List.getElem?_eq_none (by omega)
  simp [bitAt, byteAt, hout] at h

lemma flips_eq_count (error : Bytes) : flips error = (frameBits error).count true := by
  rw [flips, frameBits_eq_map, List.count_eq_countP, List.countP_map]
  congr 1
  funext i
  simp

lemma byteBits_xor (a b : UInt8) :
    byteBits (a ^^^ b) = List.zipWith xor (byteBits a) (byteBits b) := by
  simp [byteBits, List.zipWith_map, UInt8.toNat_xor]

lemma frameBits_corrupt (h : frame.length = error.length) :
    frameBits (corrupt frame error) = List.zipWith xor (frameBits frame) (frameBits error) := by
  induction frame generalizing error with
  | nil => simp [corrupt, frameBits]
  | cons a frame ih =>
    cases error with
    | nil => cases h
    | cons b error =>
      have hcons : corrupt (a :: frame) (b :: error) = (a ^^^ b) :: corrupt frame error := rfl
      rw [hcons, frameBits_cons, frameBits_cons, frameBits_cons, byteBits_xor,
        ih (Nat.succ.inj h), List.zipWith_append (by simp)]

/-! ## The register -/

lemma and_one_ne_zero_iff (crc : UInt16) :
    crc &&& 0x0001 ≠ 0 ↔ crc.toBitVec.getLsbD 0 = true := by
  have hand : (crc &&& 0x0001).toBitVec =
      (BitVec.ofBool (crc.toBitVec.getLsbD 0)).setWidth 16 := by
    rw [UInt16.toBitVec_and]
    exact BitVec.and_one_eq_setWidth_ofBool_getLsbD
  rw [Ne, ← UInt16.toBitVec_inj, hand]
  cases crc.toBitVec.getLsbD 0 <;> decide

lemma toBitVec_crcShift (crc : UInt16) : (crcShift crc).toBitVec = shift crcPoly crc.toBitVec := by
  rw [crcShift, shift]
  by_cases h : crc.toBitVec.getLsbD 0 = true
  · rw [if_pos ((and_one_ne_zero_iff crc).2 h), if_pos h]
    rfl
  · rw [if_neg (fun h' => h ((and_one_ne_zero_iff crc).1 h')), if_neg h]
    rfl

lemma pack_byteBits (b : UInt8) : pack 16 (byteBits b) = b.toUInt16.toBitVec := by
  refine BitVec.eq_of_getLsbD_eq fun i hi => ?_
  have hright : b.toUInt16.toBitVec.getLsbD i = b.toNat.testBit i := by
    rw [BitVec.getLsbD, UInt16.toNat_toBitVec, UInt8.toNat_toUInt16]
  rw [getLsbD_pack, hright, List.getD_eq_getElem?_getD]
  by_cases h : i < 8
  · rw [getElem?_byteBits b h]
    simp [hi]
  have hbig : b.toNat < 2 ^ i :=
    Nat.lt_of_lt_of_le b.toNat_lt (Nat.pow_le_pow_right (by decide) (Nat.not_lt.1 h))
  rw [List.getElem?_eq_none (by simpa using h), Nat.testBit_lt_two_pow hbig]
  simp

lemma toBitVec_crcByte (crc : UInt16) (b : UInt8) :
    (crcByte crc b).toBitVec = run crcPoly crc.toBitVec (byteBits b) := by
  rw [run_eq_iterate _ _ (by simp), length_byteBits, pack_byteBits, crcByte]
  simp only [toBitVec_crcShift, UInt16.toBitVec_xor]
  rfl

lemma toBitVec_foldl_crcByte (crc : UInt16) (data : Bytes) :
    (data.foldl crcByte crc).toBitVec = run crcPoly crc.toBitVec (frameBits data) := by
  induction data generalizing crc with
  | nil => rfl
  | cons b data ih => rw [List.foldl_cons, ih, toBitVec_crcByte, frameBits_cons, run_append]

lemma frameBits_crcBytes (crc : UInt16) : frameBits (crcBytes crc) = bits crc.toBitVec := by
  have hlow : ∀ i < 8, (UInt8.ofNat crc.toNat).toNat.testBit i = crc.toBitVec.getLsbD i := by
    intro i hi
    have hmod : (UInt8.ofNat crc.toNat).toNat = crc.toNat % 2 ^ 8 := UInt8.toNat_ofNat'
    rw [hmod, Nat.testBit_mod_two_pow, decide_eq_true hi, Bool.true_and]
    rfl
  have hhigh : ∀ i < 8,
      (UInt8.ofNat (crc.toNat / 256)).toNat.testBit i = crc.toBitVec.getLsbD (8 + i) := by
    intro i hi
    have hmod : (UInt8.ofNat (crc.toNat / 256)).toNat = crc.toNat / 2 ^ 8 % 2 ^ 8 :=
      UInt8.toNat_ofNat'
    rw [hmod, Nat.testBit_mod_two_pow, decide_eq_true hi, Bool.true_and, Nat.testBit_div_two_pow,
      Nat.add_comm i 8]
    rfl
  have hsplit : List.range 16 = List.range 8 ++ (List.range 8).map (8 + ·) := rfl
  rw [bits, hsplit, List.map_append, List.map_map]
  have hbytes : frameBits (crcBytes crc) =
      byteBits (UInt8.ofNat crc.toNat) ++ byteBits (UInt8.ofNat (crc.toNat / 256)) := by
    simp [frameBits, crcBytes]
  rw [hbytes, byteBits, byteBits]
  congr 1
  · exact List.map_congr_left fun i hi => hlow i (List.mem_range.1 hi)
  · exact List.map_congr_left fun i hi => hhigh i (List.mem_range.1 hi)

lemma run_frameBits_of_crcOk (hmin : 2 ≤ frame.length) (hmax : frame.length < 65536)
    (h : crcOk frame = true) : run crcPoly 0xFFFF#16 (frameBits frame) = 0#16 := by
  obtain ⟨body, rfl⟩ := exists_eq_rtuFrame hmin hmax h
  rw [length_rtuFrame] at hmax
  have hbody : run crcPoly 0xFFFF#16 (frameBits body) =
      (modbusCrc16 body body.length).toBitVec := by
    rw [modbusCrc16, Nat.mod_eq_of_lt (by omega), List.take_length, toBitVec_foldl_crcByte]
    rfl
  rw [rtuFrame, frameBits_append, run_append, hbody, frameBits_crcBytes, run_bits]

lemma crcOk_of_crcCheck (h : crcCheck frame = true) : crcOk frame = true := by
  simp only [crcCheck, Bool.and_eq_true, beq_iff_eq] at h
  obtain ⟨⟨-, hlo⟩, hhi⟩ := h
  have hcrc := (modbusCrc16 frame (frame.length - 2)).toNat_lt
  rw [crcOk, beq_iff_eq, packetCrc, hlo, hhi, UInt8.toNat_ofNat', UInt8.toNat_ofNat']
  omega

/-! ## Errors -/

lemma run_error_eq_zero (hmin : 2 ≤ frame.length) (hmax : frame.length < 65536)
    (hlen : error.length = frame.length) (hframe : crcOk frame = true)
    (hcorrupt : crcOk (corrupt frame error) = true) :
    run crcPoly 0#16 (frameBits error) = 0#16 := by
  have hsame : (corrupt frame error).length = frame.length := by simp [corrupt, hlen]
  have hzero := run_frameBits_of_crcOk (by omega) (by omega) hcorrupt
  have hbits : (frameBits frame).length = (frameBits error).length := by
    rw [length_frameBits, length_frameBits, hlen]
  have hxor := run_xor crcPoly 0xFFFF#16 0#16 hbits
  rw [← frameBits_corrupt hlen.symm, BitVec.xor_zero, hzero,
    run_frameBits_of_crcOk hmin hmax hframe, BitVec.zero_xor] at hxor
  exact hxor.symm

lemma run_ne_zero_of_isBurst (h : IsBurst error) : run crcPoly 0#16 (frameBits error) ≠ 0#16 := by
  obtain ⟨⟨i, hi⟩, s, hs⟩ := h
  refine run_ne_zero_of_burst (by decide) (fun j hj => hs j ?_) ?_
  · have hlt : j < 8 * error.length := by
      by_contra hout
      rw [List.getElem?_eq_none (by simpa using hout)] at hj
      cases hj
    rw [getElem?_frameBits hlt] at hj
    exact Option.some.inj hj
  · exact List.mem_of_getElem? ((getElem?_frameBits (lt_of_bitAt hi)).trans (by rw [hi]))

lemma run_ne_zero_of_flips (h : flips error % 2 = 1) :
    run crcPoly 0#16 (frameBits error) ≠ 0#16 :=
  run_ne_zero_of_odd (by decide) (parity_eq_true_iff.2 (by rwa [← flips_eq_count]))

/-- **The strength of the CRC.** A valid frame does not pass either check any more when bits of it
are flipped, if they are within 16 consecutive bits or odd in number. -/
theorem crc_detects {frame error : Bytes} (hmax : frame.length < 65536)
    (hframe : crcCheck frame = true) (hlen : error.length = frame.length)
    (herror : IsBurst error ∨ flips error % 2 = 1) :
    crcCheck (corrupt frame error) = false ∧
      ∀ rtuReqHeader, modbusRtuCheckResponse (corrupt frame error) rtuReqHeader = false := by
  have hmin := Sniffer.four_le_length_of_crcCheck hframe
  have hbad : crcOk (corrupt frame error) = false := by
    by_contra hcorrupt
    rw [Bool.not_eq_false] at hcorrupt
    have hzero := run_error_eq_zero (by omega) hmax hlen (crcOk_of_crcCheck hframe) hcorrupt
    obtain hburst | hodd := herror
    · exact run_ne_zero_of_isBurst hburst hzero
    · exact run_ne_zero_of_flips hodd hzero
  constructor
  · by_contra hcheck
    rw [Bool.not_eq_false] at hcheck
    rw [crcOk_of_crcCheck hcheck] at hbad
    cases hbad
  · intro rtuReqHeader
    simp only [modbusRtuCheckResponse, hbad, Bool.and_false, Bool.false_and]

lemma isBurst_border : IsBurst [0, 0, 0, 0, 0, 0x80, 0x01, 0] := by
  refine ⟨⟨47, by decide⟩, 40, fun i hi => ?_⟩
  have hall : ∀ j < 64, bitAt [0, 0, 0, 0, 0, 0x80, 0x01, 0] j = true → 40 ≤ j ∧ j < 56 := by
    decide
  exact hall i (lt_of_bitAt hi) hi

/-- A read request with these two bits flipped, and one with a single bit flipped. -/
theorem crc_detects_readRequest :
    crcCheck [0x01, 0x03, 0, 0, 0, 0x0A, 0xC5, 0xCD] = true ∧
      crcCheck (corrupt [0x01, 0x03, 0, 0, 0, 0x0A, 0xC5, 0xCD] [0, 0, 0, 0, 0, 0x80, 0x01, 0]) =
        false ∧
      crcCheck (corrupt [0x01, 0x03, 0, 0, 0, 0x0A, 0xC5, 0xCD] [0, 0, 0x10, 0, 0, 0, 0, 0]) =
        false := by
  have hframe : crcCheck [0x01, 0x03, 0, 0, 0, 0x0A, 0xC5, 0xCD] = true := by decide +kernel
  have hodd : flips [0, 0, 0x10, 0, 0, 0, 0, 0] % 2 = 1 := by decide +kernel
  exact ⟨hframe, (crc_detects (by decide) hframe (by rfl) (.inl isBurst_border)).1,
    (crc_detects (by decide) hframe (by rfl) (.inr hodd)).1⟩

end WbMge
