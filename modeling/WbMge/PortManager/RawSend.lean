import Mathlib.Algebra.Group.Int.Defs
import Mathlib.Data.Option.Basic
import WbMge.Modbus.Helpers
import WbMge.ToMathlib.CText

/-!
# Frames sent as hexadecimal strings

`hex_str_to_bytes` of `port_manager.c` turns the string of a request into the bytes that are put on
the bus. It looks at two characters at a time with `sscanf`, which sees the rest of the string as
well: a blank or a sign in front of a digit passes for two characters of a number.
`decodesStrictly_iff` says for exactly which strings it keeps to hexadecimal digits, which
`bytes_to_hex`, with which the sniffer shows frames, writes back.
-/

namespace WbMge.PortManager

open CText (caseEq hexDigit isHexDigit isSpace scanHex)
open Json (Text)

/-! ## The decoder -/

/-- The value that `%x` stores into an `unsigned`, as a byte. -/
def toByte (value : ℤ) : UInt8 := UInt8.ofNat (value % 2 ^ 32).toNat

/-- The loop of `hex_str_to_bytes`, from a place in the string on and for a number of bytes. -/
def decodePairs : ℕ → Text → Option Bytes
  | 0, _ => some []
  | n + 1, hex => do
    let (byteVal, charsRead) ← scanHex 2 hex
    guard (charsRead = 2)
    let out ← decodePairs n (hex.drop 2)
    return toByte byteVal :: out

/-- The bytes are there if it does not return -1, and it returns their number. -/
def hexStrToBytes (hex : Text) (outMax : ℕ) : Option Bytes :=
  if hex.length % 2 ≠ 0 ∨ outMax < hex.length / 2 then none
  else decodePairs (hex.length / 2) hex

/-! ## The encoder -/

/-- The table of `bytes_to_hex`. -/
def hx : Text := "0123456789ABCDEF".toList

def hexPair (b : UInt8) : Text := [hx.getD (b >>> 4).toNat '0', hx.getD (b &&& 0x0F).toNat '0']

/-- The loop of `bytes_to_hex`, from a place in the output on. -/
def bytesToHexLoop (outSize : ℕ) : ℕ → Bytes → Text
  | _, [] => []
  | pos, b :: data =>
    if pos + 2 < outSize then hexPair b ++ bytesToHexLoop outSize (pos + 2) data else []

/-- `bytes_to_hex` of `sniffer.c`: the string in the output. -/
def bytesToHex (data : Bytes) (len : UInt16) (outSize : ℕ) : Text :=
  bytesToHexLoop outSize 0 (data.take len.toNat)

lemma bytesToHexLoop_eq {outSize : ℕ} {data : Bytes} {pos : ℕ}
    (h : pos + 2 * data.length < outSize) :
    bytesToHexLoop outSize pos data = data.flatMap hexPair := by
  induction data generalizing pos with
  | nil => rfl
  | cons b data ih =>
    rw [List.length_cons] at h
    rw [bytesToHexLoop, if_pos (by omega), ih (by omega), List.flatMap_cons]

lemma bytesToHex_eq {outSize : ℕ} {data : Bytes} (hlen : data.length < 2 ^ 16)
    (hout : 2 * data.length < outSize) :
    bytesToHex data (UInt16.ofNat data.length) outSize = data.flatMap hexPair := by
  have htake : data.take (UInt16.ofNat data.length).toNat = data := by
    rw [UInt16.toNat_ofNat_of_lt' hlen, List.take_length]
  rw [bytesToHex, htake, bytesToHexLoop_eq (by omega)]

/-! ## Decoding and encoding -/

/-- No character that `%x` skips or takes for a sign. -/
def Plain (hex : Text) : Prop := ∀ c ∈ hex, isSpace c = false ∧ c ≠ '+' ∧ c ≠ '-'

/-- Every two characters are what `sscanf` reads as a byte. -/
def readsPairs : Text → Bool
  | [] => true
  | [_] => false
  | a :: b :: hex => CText.isHexPair a b hex && readsPairs hex

/-- The decoder takes `hex` exactly if it is a hexadecimal string of even length for which there is
room, and then the sniffer's encoder gives it back. -/
def DecodesStrictly (hex : Text) (outMax : ℕ) : Prop :=
  ((hexStrToBytes hex outMax).isSome ↔
    hex.length % 2 = 0 ∧ hex.length ≤ 2 * outMax ∧ ∀ c ∈ hex, isHexDigit c = true) ∧
  ∀ bytes, hexStrToBytes hex outMax = some bytes →
    hex.length = 2 * bytes.length ∧
    ∀ outSize, bytes.length < 2 ^ 16 → 2 * bytes.length < outSize →
      caseEq (bytesToHex bytes (UInt16.ofNat bytes.length) outSize) hex = true

lemma map_toLower_hexPair {a b : Char} {x y : ℕ} (ha : hexDigit a = some x)
    (hb : hexDigit b = some y) :
    (hexPair (toByte (16 * x + y))).map Char.toLower = [a.toLower, b.toLower] := by
  have hrow : ∀ x < 16, ∀ y < 16,
      ((hexPair (toByte (16 * (x : ℕ) + (y : ℕ)))).map Char.toLower).map some =
      ["0123456789abcdef".toList[x]?, "0123456789abcdef".toList[y]?] := by
    decide +kernel
  have hx := CText.hexDigit_eq_some ha
  have hy := CText.hexDigit_eq_some hb
  have h := hrow x (List.getElem?_eq_some_iff.1 hx).1 y (List.getElem?_eq_some_iff.1 hy).1
  rw [hx, hy] at h
  exact List.map_injective_iff.2 (Option.some_injective _) h

section Pairs

variable {a b : Char} {hex : Text} {n : ℕ} {bytes : Bytes}

lemma decodePairs_digits {x y : ℕ} (ha : hexDigit a = some x) (hb : hexDigit b = some y) :
    decodePairs (n + 1) (a :: b :: hex) =
      (decodePairs n hex).map (toByte (16 * (x : ℤ) + y) :: ·) := by
  simp only [decodePairs, CText.scanHex_digits ha hb]
  change (decodePairs n hex).bind _ = _
  cases decodePairs n hex <;> rfl

lemma isSome_decodePairs_iff (hlen : hex.length = 2 * n) :
    (decodePairs n hex).isSome ↔ readsPairs hex = true := by
  -- by the bytes that are left, each of which takes two characters
  fun_induction readsPairs hex generalizing n with
  | case1 =>
    obtain rfl : n = 0 := by rw [List.length_nil] at hlen; omega
    simp [decodePairs]
  | case2 c =>
    simp only [List.length_singleton] at hlen
    omega
  | case3 a b hex ih =>
    obtain _ | n := n
    · simp at hlen
    simp only [List.length_cons] at hlen
    have ih := ih (n := n) (by omega)
    rw [Bool.and_eq_true, ← CText.exists_scanHex_iff, ← ih]
    simp [Option.isSome_iff_exists, decodePairs, Option.bind_eq_some_iff, Option.guard_eq_some']

lemma length_of_readsPairs (h : readsPairs hex = true) : hex.length % 2 = 0 := by
  fun_induction readsPairs hex with
  | case1 => rfl
  | case2 c => cases h
  | case3 a b hex ih =>
    have hrest := ih (Bool.and_eq_true _ _ ▸ h).2
    simp only [List.length_cons]
    omega

lemma readsPairs_of_digits (hlen : hex.length % 2 = 0) (h : ∀ c ∈ hex, isHexDigit c = true) :
    readsPairs hex = true := by
  fun_induction readsPairs hex with
  | case1 => rfl
  | case2 c => cases hlen
  | case3 a b hex ih =>
    simp only [List.length_cons] at hlen
    simp only [List.forall_mem_cons] at h
    simp [CText.isHexPair, h.1, h.2.1, ih (by omega) h.2.2]

lemma digits_of_readsPairs (h : readsPairs hex = true) (hplain : Plain hex) :
    ∀ c ∈ hex, isHexDigit c = true := by
  fun_induction readsPairs hex with
  | case1 => simp
  | case2 c => cases h
  | case3 a b hex ih =>
    simp only [Plain, List.forall_mem_cons] at hplain ⊢
    obtain ⟨⟨hspace, hplus, hminus⟩, -, hplain⟩ := hplain
    rw [Bool.and_eq_true] at h
    have hpair : isHexDigit b = true ∧ isHexDigit a = true := by
      simpa [CText.isHexPair, hspace, hplus, hminus] using h.1
    exact ⟨hpair.2, hpair.1, ih h.2 hplain⟩

lemma map_toLower_of_decodePairs (hlen : hex.length = 2 * n)
    (h : ∀ c ∈ hex, isHexDigit c = true) (hdecode : decodePairs n hex = some bytes) :
    bytes.length = n ∧ (bytes.flatMap hexPair).map Char.toLower = hex.map Char.toLower := by
  induction n generalizing hex bytes with
  | zero =>
    obtain rfl := List.eq_nil_of_length_eq_zero hlen
    cases hdecode
    exact ⟨rfl, rfl⟩
  | succ n ih =>
    obtain _ | ⟨a, _ | ⟨b, hex⟩⟩ := hex
    · simp at hlen
    · simp only [List.length_cons, List.length_nil] at hlen
      omega
    · simp only [List.length_cons] at hlen
      simp only [List.forall_mem_cons, CText.isHexDigit_iff] at h ih
      obtain ⟨⟨x, hx⟩, ⟨y, hy⟩, hrest⟩ := h
      rw [decodePairs_digits hx hy] at hdecode
      obtain ⟨out, hout, rfl⟩ := Option.map_eq_some_iff.1 hdecode
      obtain ⟨hcount, hchars⟩ := ih (by omega) hrest hout
      refine ⟨by rw [List.length_cons, hcount], ?_⟩
      rw [List.flatMap_cons, List.map_append, map_toLower_hexPair hx hy, hchars]
      rfl

lemma isSome_hexStrToBytes_iff (outMax : ℕ) :
    (hexStrToBytes hex outMax).isSome ↔ hex.length ≤ 2 * outMax ∧ readsPairs hex = true := by
  rw [hexStrToBytes]
  split
  · rename_i hbad
    refine ⟨nofun, fun ⟨hroom, hreads⟩ => ?_⟩
    have heven := length_of_readsPairs hreads
    omega
  · rename_i hgood
    rw [isSome_decodePairs_iff (by omega)]
    exact ⟨fun h => ⟨by omega, h⟩, And.right⟩

end Pairs

/-- Exactly the strings with a blank or a sign that `sscanf` reads as bytes all the same are decoded
against the rules. -/
theorem decodesStrictly_iff (hex : Text) (outMax : ℕ) :
    DecodesStrictly hex outMax ↔
      (hex.length ≤ 2 * outMax → readsPairs hex = true → Plain hex) := by
  rw [DecodesStrictly, isSome_hexStrToBytes_iff]
  constructor
  · rintro ⟨hiff, -⟩ hroom hreads c hc
    have hdigit := (hiff.1 ⟨hroom, hreads⟩).2.2 c hc
    refine ⟨?_, ?_, ?_⟩
    · by_contra h
      simp [CText.isHexDigit_eq_false (.inl (by simpa using h))] at hdigit
    · rintro rfl
      cases hdigit
    · rintro rfl
      cases hdigit
  · intro hplain
    refine ⟨⟨fun ⟨hroom, hreads⟩ => ?_, fun ⟨heven, hroom, h⟩ => ?_⟩, fun bytes hdecode => ?_⟩
    · exact ⟨length_of_readsPairs hreads, hroom, digits_of_readsPairs hreads (hplain hroom hreads)⟩
    · exact ⟨hroom, readsPairs_of_digits heven h⟩
    · have hsome : (hexStrToBytes hex outMax).isSome := by rw [hdecode]; rfl
      obtain ⟨hroom, hreads⟩ := (isSome_hexStrToBytes_iff outMax).1 hsome
      have heven := length_of_readsPairs hreads
      rw [hexStrToBytes, if_neg (by omega)] at hdecode
      obtain ⟨hcount, hchars⟩ := map_toLower_of_decodePairs (by omega)
        (digits_of_readsPairs hreads (hplain hroom hreads)) hdecode
      refine ⟨by omega, fun outSize hword hout => ?_⟩
      rw [CText.caseEq_iff, bytesToHex_eq hword hout, hchars]

/-- Strings that are decoded although they are not hexadecimal: a sign or a blank stands where the
first digit of a byte should be. -/
theorem hexStrToBytes_blanks_and_signs :
    hexStrToBytes "+1".toList 265 = some [0x01] ∧ hexStrToBytes "-1".toList 265 = some [0xFF] ∧
      hexStrToBytes "01 3 4".toList 265 = some [0x01, 0x03, 0x04] ∧
      isHexDigit '+' = false ∧ isHexDigit '-' = false ∧ isHexDigit ' ' = false := by
  decide +kernel

end WbMge.PortManager
