import WbMge.Decoder.OwnBytes

/-!
# Packets pasted as a text

`parseHex` goes through a text two code units at a time and leaves each pair to `parseInt`, which
reads as far as it gets and takes a sign. A `readable` pair becomes a number although it may be no
two digits: a digit with something behind it, or a sign with a digit behind it.
-/

namespace WbMge.Decoder

open JsText

/-- A text without its white space. -/
def typed (s : Text) : Text := s.filter (!isWhitespace ·)

/-- There are bytes in the text, and hexadecimal digits only. -/
def IsHexText (t : Text) : Prop := t ≠ [] ∧ t.length % 2 = 0 ∧ ∀ c ∈ t, isDigit 16 c = true

/-- A pair that `parseInt` makes a number of: it begins with a digit, which is not the one of a
prefix, or is a sign with a digit. -/
def readable (pair : Text) : Bool :=
  let first := pair.getD 0 0
  (isDigit 16 first && !hasHexPrefix pair) ||
    ((first == plus || first == minus) && isDigit 16 (pair.getD 1 0))

def twoDigits (pair : Text) : Bool := pair.all (isDigit 16)

/-- The text is refused with `invalid_hex` unless there are whole bytes in it, and else the tree
shows what was typed. -/
structure ParsedStrictly (s : Text) (direction : Direction) : Prop where
  isSome_iff : (parseHex s).isSome = true ↔ IsHexText (typed s)
  toHex_eq : ∀ ns, parseHex s = some ns → toHex ns = upper (typed s)
  invalid : ¬ IsHexText (typed s) →
    decodePacketText s direction = .ok (.error { reason := .invalidHex, raw := s })
  shown : IsHexText (typed s) → ∃ bytes tree, hex bytes = upper (typed s) ∧
    decodePacketText s direction = decodePacket bytes direction ∧
    decodePacketText s direction = .ok tree ∧ tree.raw = upper (typed s)

variable {s t : Text} {a b c : UInt16} {bytes : Bytes}

/-! ## One pair -/

lemma isSome_parseInt_pair (ha : isWhitespace a = false) :
    (parseInt [a, b] 16).isSome = readable [a, b] := by
  have htrim : trimStart [a, b] = [a, b] := trimStart_eq_self_iff.2 (by simpa using ha)
  have hsome (t : Text) : (parseInt t 16).isSome =
      !((parseIntBody t 16).2.takeWhile (isDigit 16)).isEmpty := by
    rw [parseInt]
    split <;> simp_all
  rw [hsome, parseIntBody, htrim, readable]
  by_cases hsign : a = plus ∨ a = minus
  · have ha : isDigit 16 a = false := isDigit_eq_false (.inr hsign)
    have hne : plus ≠ minus := by decide
    cases hb : isDigit 16 b <;> obtain rfl | rfl := hsign <;>
      simp [splitSign, hne, dropHexPrefix, hasHexPrefix, ha, hb]
  · obtain ⟨hplus, hminus⟩ := not_or.1 hsign
    rw [splitSign, if_neg hminus, if_neg hplus, if_pos rfl, dropHexPrefix]
    cases hhex : hasHexPrefix [a, b] <;> cases ha : isDigit 16 a <;>
      simp [ha, hplus, hminus]

lemma readable_of_twoDigits (h : twoDigits [a, b] = true) : readable [a, b] = true := by
  have hdigits : ∀ c ∈ [a, b], isDigit 16 c = true := List.all_eq_true.1 h
  simp [readable, hasHexPrefix_eq_false (by decide) hdigits, hdigits a (by simp)]

lemma upperUnit_eq {v : ℕ} (hc : digitValue c = some v) (hv : v < 16) :
    upperUnit c = upperDigit v := by
  have hall : ∀ n : Fin 128, ∀ v : Fin 16, digitValue (UInt16.ofNat n) = some v.val →
      upperUnit (UInt16.ofNat n) = upperDigit v := by
    decide +kernel
  have hlt : c.toNat < 128 := by
    by_contra hge
    have hnone : digitValue c = none := by
      rw [digitValue, if_neg, if_neg, if_neg]
      all_goals
        simp only [UInt16.le_iff_toNat_le, UInt16.reduceToNat]
        omega
    rw [hnone] at hc
    cases hc
  have h := hall ⟨c.toNat, hlt⟩ ⟨v, hv⟩
  rw [UInt16.ofNat_toNat] at h
  exact h hc

/-! ## Texts -/

lemma exists_bytes (heven : t.length % 2 = 0) (hdigits : ∀ c ∈ t, isDigit 16 c = true) :
    ∃ bytes, (pairs t).mapM (fun pair => parseInt pair 16) = some (numbers bytes) ∧
      hex bytes = upper t := by
  fun_induction pairs t with
  | case1 a b t ih =>
    simp only [List.mem_cons, forall_eq_or_imp] at hdigits
    obtain ⟨ha, hb, hdigits⟩ := hdigits
    obtain ⟨bytes, hread, hhex⟩ := ih (by simp only [List.length_cons] at heven; omega) hdigits
    obtain ⟨hi, hhi, hhi16⟩ := isDigit_iff.1 ha
    obtain ⟨lo, hlo, hlo16⟩ := isDigit_iff.1 hb
    obtain ⟨byte, hbyte⟩ : ∃ byte : UInt8, byte.toNat = 16 * hi + lo :=
      ⟨UInt8.ofNat _, UInt8.toNat_ofNat_of_lt (by simp only [UInt8.size]; omega)⟩
    refine ⟨byte :: bytes, ?_, ?_⟩
    · rw [List.mapM_cons, parseInt_pair ha hb, hread]
      simp [numbers, digitsValue, hhi, hlo, hbyte]
    · have hpair : hex [byte] = [upperDigit hi, upperDigit lo] := by
        rw [← toHex_digits hhi16 hlo16, hex, numbers, List.map_singleton, hbyte]
      rw [hex_cons, hpair, hhex, upper, upper, List.map_cons, List.map_cons,
        upperUnit_eq hhi hhi16, upperUnit_eq hlo hlo16]
      rfl
  | case2 t ht =>
    cases t with
    | nil => exact ⟨[], rfl, rfl⟩
    | cons a t =>
      cases t with
      | nil => simp at heven
      | cons b t => exact absurd rfl (ht a b t)

lemma isSome_mapM_pairs (hspace : ∀ c ∈ t, isWhitespace c = false) :
    ((pairs t).mapM (fun pair => parseInt pair 16)).isSome = (pairs t).all readable := by
  fun_induction pairs t with
  | case1 a b t ih =>
    simp only [List.forall_mem_cons] at hspace
    rw [List.all_cons, ← ih hspace.2.2, ← isSome_parseInt_pair hspace.1, List.mapM_cons]
    cases parseInt [a, b] 16 <;>
      cases (pairs t).mapM (fun pair => parseInt pair 16) <;> rfl
  | case2 t ht => rfl

lemma all_twoDigits_pairs (heven : t.length % 2 = 0) :
    (pairs t).all twoDigits = true ↔ ∀ c ∈ t, isDigit 16 c = true := by
  fun_induction pairs t with
  | case1 a b t ih =>
    rw [List.all_cons, Bool.and_eq_true, ih (by simp only [List.length_cons] at heven; omega)]
    simp [twoDigits, and_assoc]
  | case2 t ht =>
    cases t with
    | nil => simp
    | cons a t =>
      cases t with
      | nil => simp at heven
      | cons b t => exact absurd rfl (ht a b t)

lemma all_readable_of_twoDigits (h : (pairs t).all twoDigits = true) :
    (pairs t).all readable = true := by
  fun_induction pairs t with
  | case1 a b t ih =>
    rw [List.all_cons, Bool.and_eq_true] at h ⊢
    exact ⟨readable_of_twoDigits h.1, ih h.2⟩
  | case2 t ht => rfl

lemma parseHex_eq (heven : (typed s).length % 2 = 0) (hne : typed s ≠ []) :
    parseHex s = (pairs (typed s)).mapM fun pair => parseInt pair 16 := by
  have hlen := List.length_pos_of_ne_nil hne
  rw [parseHex, ← typed, if_neg (by omega)]

lemma parseHex_of_isHexText (h : IsHexText (typed s)) :
    ∃ bytes, parseHex s = some (numbers bytes) ∧ hex bytes = upper (typed s) := by
  rw [parseHex_eq h.2.1 h.1]
  exact exists_bytes h.2.1 h.2.2

lemma isSome_parseHex_iff : (parseHex s).isSome = true ↔
    typed s ≠ [] ∧ (typed s).length % 2 = 0 ∧ (pairs (typed s)).all readable = true := by
  have hspace (c) (hc : c ∈ typed s) : isWhitespace c = false := by
    simpa using (List.mem_filter.1 hc).2
  rw [← isSome_mapM_pairs hspace]
  by_cases hlen : typed s ≠ [] ∧ (typed s).length % 2 = 0
  · rw [parseHex_eq hlen.2 hlen.1]
    simp only [hlen, ne_eq, not_false_eq_true, true_and]
  have hbad : (typed s).length = 0 ∨ (typed s).length % 2 ≠ 0 := by
    rw [List.length_eq_zero_iff]
    tauto
  rw [parseHex, ← typed, if_pos hbad]
  exact ⟨by simp, fun h => absurd ⟨h.1, h.2.1⟩ hlen⟩

/-! ## Packets -/

lemma toBytes_numbers (bytes : Bytes) : toBytes (numbers bytes) = .ok bytes := by
  have hall : (numbers bytes).all (fun n => 0 ≤ n && n < 256) = true := by
    simp only [numbers, List.all_map, List.all_eq_true]
    intro b _
    have := b.toNat_lt
    simp
    omega
  rw [toBytes, if_pos hall]
  simp [numbers, Function.comp_def]

lemma raw_decodePacket {direction : Direction} {tree : Decoded} (hne : bytes ≠ [])
    (h : decodePacket bytes direction = .ok tree) : tree.raw = hex bytes := by
  rw [decodePacket, if_neg (by simpa using hne)] at h
  split at h
  · cases h
    rfl
  split at h
  · cases h
    rfl
  split at h
  · obtain ⟨sub, -, rfl⟩ := exists_of_map_eq_ok h
    rfl
  cases hfc : hexAt (layerBytes bytes) 0 with
  | error e =>
    rw [hfc] at h
    cases h
  | ok fc =>
    rw [hfc] at h
    obtain ⟨pdu, -, rfl⟩ := exists_of_map_eq_ok h
    rfl

lemma decodePacketText_eq {direction : Direction} (h : parseHex s = some (numbers bytes)) :
    decodePacketText s direction = decodePacket bytes direction := by
  rw [decodePacketText, h, Option.elim_some, toBytes_numbers]
  rfl

/-- The texts that are not parsed strictly are those in which every pair can be read and not every
pair is two digits, and those of a packet on which the decoder throws. -/
theorem parsedStrictly_iff (s : Text) (direction : Direction) :
    ParsedStrictly s direction ↔
      (typed s ≠ [] → (typed s).length % 2 = 0 → (pairs (typed s)).all readable = true →
        (pairs (typed s)).all twoDigits = true) ∧
      ∀ bytes, parseHex s = some (numbers bytes) →
        ∀ d pdu, packetPdu bytes direction = some (d, pdu) → ¬ Throws d pdu := by
  refine ⟨fun h => ⟨fun hne heven hread => ?_, fun bytes hparse => ?_⟩,
    fun ⟨hdigits, hthrows⟩ => ?_⟩
  · have hhex := h.isSome_iff.1 (isSome_parseHex_iff.2 ⟨hne, heven, hread⟩)
    exact (all_twoDigits_pairs heven).2 hhex.2.2
  · obtain ⟨-, tree, -, -, htree, -⟩ := h.shown (h.isSome_iff.1 (by rw [hparse]; rfl))
    exact exists_decodePacket_iff.1 ⟨tree, (decodePacketText_eq hparse).symm.trans htree⟩
  have hiff : (parseHex s).isSome = true ↔ IsHexText (typed s) := by
    rw [isSome_parseHex_iff]
    constructor
    · rintro ⟨hne, heven, hread⟩
      exact ⟨hne, heven, (all_twoDigits_pairs heven).1 (hdigits hne heven hread)⟩
    · rintro ⟨hne, heven, h⟩
      exact ⟨hne, heven, all_readable_of_twoDigits ((all_twoDigits_pairs heven).2 h)⟩
  refine ⟨hiff, fun ns hns => ?_, fun h => ?_, fun h => ?_⟩
  · obtain ⟨bytes, hparse, hhex⟩ := parseHex_of_isHexText (hiff.1 (by rw [hns]; rfl))
    rw [← hhex, hex, Option.some.inj (hns.symm.trans hparse)]
  · have hnone : parseHex s = none := by
      rwa [← hiff, Option.not_isSome_iff_eq_none] at h
    rw [decodePacketText, hnone]
    rfl
  · obtain ⟨bytes, hparse, hhex⟩ := parseHex_of_isHexText h
    have hne : bytes ≠ [] := by
      rintro rfl
      exact h.1 (List.map_eq_nil_iff.1 hhex.symm)
    have heq : decodePacketText s direction = decodePacket bytes direction :=
      decodePacketText_eq hparse
    obtain ⟨tree, htree⟩ := exists_decodePacket_iff.2 (hthrows bytes hparse)
    exact ⟨bytes, tree, hhex, heq, heq.trans htree, (raw_decodePacket hne htree).trans hhex⟩

/-- Pairs that are no two digits are shown as bytes that were not typed. -/
theorem parseHex_misread :
    parseHex (lit "1G") = some [1] ∧ parseHex (lit "+1") = some [1] ∧
      parseHex (lit "-F") = some [-15] ∧ toHex [-15] = lit "-F" ∧
      decodePacketText (lit "1G +1") .request =
        .ok (.error { reason := .tooShort, raw := lit "0101" }) := by
  decide +kernel

end WbMge.Decoder
