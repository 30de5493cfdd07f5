import WbMge.Decoder.Model

/-!
# Hexadecimal texts of bytes

`toHex` writes two digits for a byte. The text of a part of some bytes is therefore the part of
their text with twice the offsets, and `parseHex` reads the bytes back.
-/

namespace WbMge.Decoder

open JsText

/-- A digit as `toHex` writes it. -/
def upperDigit (d : ℕ) : UInt16 := upperUnit (UInt16.ofNat (Nat.digitChar d).toNat)

variable {bytes : Bytes}

lemma toHex_digits {hi lo : ℕ} (hhi : hi < 16) (hlo : lo < 16) :
    toHex [((16 * hi + lo : ℕ) : ℤ)] = [upperDigit hi, upperDigit lo] := by
  have hall : ∀ hi lo : Fin 16,
      toHex [((16 * hi.val + lo.val : ℕ) : ℤ)] = [upperDigit hi, upperDigit lo] := by
    decide +kernel
  exact hall ⟨hi, hhi⟩ ⟨lo, hlo⟩

/-! ## Bytes -/

lemma hex_singleton (b : UInt8) :
    hex [b] = [upperDigit (b.toNat / 16), upperDigit (b.toNat % 16)] := by
  have hb := b.toNat_lt
  rw [← toHex_digits (by omega) (by omega), Nat.div_add_mod]
  rfl

lemma exists_hex_singleton (b : UInt8) :
    ∃ hi lo, hi < 16 ∧ lo < 16 ∧ b.toNat = 16 * hi + lo ∧
      hex [b] = [upperDigit hi, upperDigit lo] := by
  have hb := b.toNat_lt
  exact ⟨_, _, by omega, by omega, (Nat.div_add_mod ..).symm, hex_singleton b⟩

lemma hex_append (a b : Bytes) : hex (a ++ b) = hex a ++ hex b := by
  simp [hex, toHex, numbers]

lemma hex_cons (b : UInt8) (bytes : Bytes) : hex (b :: bytes) = hex [b] ++ hex bytes :=
  hex_append [b] bytes

@[simp] lemma length_hex (bytes : Bytes) : (hex bytes).length = 2 * bytes.length := by
  induction bytes with
  | nil => rfl
  | cons b bytes ih =>
    obtain ⟨hi, lo, -, -, -, hb⟩ := exists_hex_singleton b
    rw [hex_cons, hb, List.length_append, ih, List.length_cons]
    simp only [List.length_cons, List.length_nil]
    omega

lemma drop_hex (bytes : Bytes) (i : ℕ) : (hex bytes).drop (2 * i) = hex (bytes.drop i) := by
  by_cases h : i ≤ bytes.length
  · have hlen : 2 * i = (hex (bytes.take i)).length := by
      rw [length_hex, List.length_take_of_le h]
    conv_lhs => rw [← List.take_append_drop i bytes, hex_append, hlen, List.drop_left]
  · rw [List.drop_eq_nil_of_le (by rw [length_hex]; omega), List.drop_eq_nil_of_le (by omega)]
    rfl

lemma upper_hex (bytes : Bytes) : upper (hex bytes) = hex bytes := by
  induction bytes with
  | nil => rfl
  | cons b bytes ih =>
    obtain ⟨hi, lo, hhi, hlo, -, hb⟩ := exists_hex_singleton b
    have hall : ∀ d : Fin 16, upperUnit (upperDigit d) = upperDigit d := by decide
    rw [hex_cons, upper, List.map_append, ← upper, ← upper, ih, hb, upper, List.map_cons,
      List.map_singleton, hall ⟨hi, hhi⟩, hall ⟨lo, hlo⟩]

/-! ## Reading the bytes back -/

lemma parseInt_pair {a b : UInt16} (ha : isDigit 16 a = true) (hb : isDigit 16 b = true) :
    parseInt [a, b] 16 = some (digitsValue 16 [a, b] : ℤ) :=
  parseInt_digits (by omega) (List.cons_ne_nil a [b]) (by simp [ha, hb])

lemma digitValue_upperDigit {d : ℕ} (hd : d < 16) : digitValue (upperDigit d) = some d := by
  have hall : ∀ d : Fin 16, digitValue (upperDigit d) = some d.val := by decide
  exact hall ⟨d, hd⟩

lemma isDigit_of_mem_hex {c : UInt16} (hc : c ∈ hex bytes) : isDigit 16 c = true := by
  induction bytes with
  | nil => cases hc
  | cons b bytes ih =>
    obtain ⟨hi, lo, hhi, hlo, -, hb⟩ := exists_hex_singleton b
    rw [hex_cons, hb, List.mem_append] at hc
    obtain hc | hc := hc
    · simp only [List.mem_cons, List.not_mem_nil, or_false] at hc
      obtain rfl | rfl := hc
      · exact isDigit_iff.2 ⟨hi, digitValue_upperDigit hhi, hhi⟩
      · exact isDigit_iff.2 ⟨lo, digitValue_upperDigit hlo, hlo⟩
    · exact ih hc

lemma mapM_pairs_hex (bytes : Bytes) :
    (pairs (hex bytes)).mapM (fun pair => parseInt pair 16) = some (numbers bytes) := by
  induction bytes with
  | nil => rfl
  | cons b bytes ih =>
    obtain ⟨hi, lo, hhi, hlo, hvalue, hb⟩ := exists_hex_singleton b
    have hpair : parseInt [upperDigit hi, upperDigit lo] 16 = some (b.toNat : ℤ) := by
      rw [parseInt_pair (isDigit_iff.2 ⟨hi, digitValue_upperDigit hhi, hhi⟩)
        (isDigit_iff.2 ⟨lo, digitValue_upperDigit hlo, hlo⟩), hvalue]
      simp [digitsValue, digitValue_upperDigit, hhi, hlo]
    rw [hex_cons, hb]
    simp [pairs, List.mapM_cons, hpair, ih, numbers]

lemma numbers_injective : Function.Injective numbers :=
  List.map_injective_iff.2 fun _ _ h => UInt8.toNat_inj.1 (Int.ofNat.inj h)

lemma hex_injective : Function.Injective hex := by
  intro a b h
  have hread := mapM_pairs_hex a
  rw [h, mapM_pairs_hex] at hread
  exact numbers_injective (Option.some.inj hread).symm

lemma hex_isPrefix_iff {a b : Bytes} : hex a <+: hex b ↔ a <+: b := by
  constructor
  · intro h
    have hlen := h.length_le
    rw [length_hex, length_hex] at hlen
    have htake : hex a = hex (b.take a.length) := by
      rw [List.prefix_iff_eq_take.1 h, length_hex]
      refine List.append_cancel_right (?_ : _ ++ hex (b.drop a.length) = _)
      rw [← hex_append, List.take_append_drop, ← drop_hex, List.take_append_drop]
    rw [hex_injective htake]
    exact List.take_prefix ..
  · rintro ⟨t, rfl⟩
    rw [hex_append]
    exact List.prefix_append ..

lemma parseHex_hex (hne : bytes ≠ []) : parseHex (hex bytes) = some (numbers bytes) := by
  have hclean : (hex bytes).filter (!isWhitespace ·) = hex bytes := by
    refine List.filter_eq_self.2 fun c hc => ?_
    rw [isWhitespace_of_isDigit (isDigit_of_mem_hex hc)]
    rfl
  have hlen : 0 < bytes.length := List.length_pos_of_ne_nil hne
  rw [parseHex, hclean, length_hex, if_neg (by omega), mapM_pairs_hex]

end WbMge.Decoder
