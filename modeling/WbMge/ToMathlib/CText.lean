import Mathlib.Data.List.Induction
import Mathlib.Data.List.TakeWhile
import WbMge.ToMathlib.Json

/-!
# C strings

What the C library does with a string, the list of its characters without the terminator.

`scanInt` is what `strtol` in base 10 and the directive `%d` of `sscanf` have in common: leading
white space, an optional sign and at least one digit. `scanInt_renderInt` says that it reads back
what `%d` of `printf` writes. `scanHex` is the directive `%x` of `sscanf` with a width, which counts
from the sign on.
-/

namespace CText

open Json (Text)

/-! ## Comparing -/

/-- `strncmp(s, t, n) == 0`. -/
def strncmpEq (n : ℕ) (s t : Text) : Bool := s.take n == t.take n

variable {n : ℕ} {t digits : Text} {c : Char}

lemma strncmpEq_iff {s : Text} (h : t.length < n) : strncmpEq n s t = true ↔ s = t := by
  rw [strncmpEq, beq_iff_eq, List.take_of_length_le h.le]
  constructor
  · intro heq
    -- the part of `s` that was compared is shorter than `n`, so it is all of `s`
    have hlen : (s.take n).length < n := by rwa [heq]
    rw [List.length_take] at hlen
    rwa [List.take_of_length_le (by omega)] at heq
  · rintro rfl
    exact List.take_of_length_le h.le

lemma strncmpEq_eq_decide (h : t.length < n) (s : Text) : strncmpEq n s t = decide (s = t) :=
  Bool.eq_iff_iff.2 ((strncmpEq_iff h).trans decide_eq_true_iff.symm)

/-- Equality of strings up to the case of the letters, with `tolower` of the C locale. -/
def caseEq (s t : Text) : Bool := s.map Char.toLower == t.map Char.toLower

lemma caseEq_iff {s : Text} : caseEq s t = true ↔ s.map Char.toLower = t.map Char.toLower :=
  beq_iff_eq

@[simp] lemma caseEq_refl (s : Text) : caseEq s s = true := caseEq_iff.2 rfl

/-! ## Decimal integers -/

/-- `isspace` of the C locale. -/
def isSpace (c : Char) : Bool := c == ' ' || (9 ≤ c.toNat && c.toNat ≤ 13)

def splitSign : Text → Bool × Text
  | '-' :: t => (true, t)
  | '+' :: t => (false, t)
  | t => (false, t)

def signedValue (negative : Bool) (digits : Text) : ℤ :=
  if negative then -(Nat.ofDigitChars 10 digits 0 : ℤ) else Nat.ofDigitChars 10 digits 0

def scanInt (t : Text) : Option (ℤ × Text) :=
  let r := splitSign (t.dropWhile isSpace)
  let digits := r.2.takeWhile Char.isDigit
  if digits.isEmpty then none
  else some (signedValue r.1 digits, r.2.dropWhile Char.isDigit)

/-- What `%d` takes: white space, a sign and digits, together the number `n`. -/
def IsNumeral (t : Text) (n : ℤ) : Prop :=
  ∃ blank sign digits, (∀ c ∈ blank, isSpace c = true) ∧ sign ∈ [[], ['+'], ['-']] ∧
    digits ≠ [] ∧ (∀ c ∈ digits, c.isDigit = true) ∧ t = blank ++ (sign ++ digits) ∧
    n = signedValue (sign == ['-']) digits

/-- `INT_MIN` and, on a 32-bit target, `LONG_MIN`. -/
def intMin : ℤ := -2147483648

/-- `INT_MAX` and, on a 32-bit target, `LONG_MAX`. -/
def intMax : ℤ := 2147483647

/-- The nearest `long`. -/
def clampLong (n : ℤ) : ℤ := if n < intMin then intMin else if intMax < n then intMax else n

/-- `strtol` in base 10: the value, and the string from `endptr` on. -/
def strtol (t : Text) : ℤ × Text :=
  match scanInt t with
  | some (n, rest) => (clampLong n, rest)
  | none => (0, t)

/-- `%d` of `printf`. -/
def renderInt : ℤ → Text
  | .ofNat n => Nat.toDigits 10 n
  | .negSucc n => '-' :: Nat.toDigits 10 (n + 1)

/-- What `snprintf` leaves of a text in a buffer. -/
def snprintf (size : ℕ) (t : Text) : Text := t.take (size - 1)

lemma clampLong_eq {n : ℤ} (hmin : intMin ≤ n) (hmax : n ≤ intMax) : clampLong n = n := by
  rw [clampLong, if_neg (Int.not_lt.2 hmin), if_neg (Int.not_lt.2 hmax)]

lemma clampLong_mem (n : ℤ) : intMin ≤ clampLong n ∧ clampLong n ≤ intMax := by
  unfold clampLong intMin intMax
  split
  · omega
  · split <;> omega

lemma strtol_mem (t : Text) : intMin ≤ (strtol t).1 ∧ (strtol t).1 ≤ intMax := by
  unfold strtol
  split
  · exact clampLong_mem _
  · exact (by decide : intMin ≤ 0 ∧ 0 ≤ intMax)

/-! ## Reading back what was written -/

lemma isDigit_iff : c.isDigit = true ↔ 48 ≤ c.toNat ∧ c.toNat ≤ 57 := by
  simp only [Char.isDigit, Bool.and_eq_true, decide_eq_true_eq, ge_iff_le, UInt32.le_iff_toNat_le]
  rfl

lemma isSpace_eq_false_of_isDigit (h : c.isDigit = true) : isSpace c = false := by
  obtain ⟨hmin, -⟩ := isDigit_iff.1 h
  have hne : c ≠ ' ' := by
    rintro rfl
    exact absurd hmin (by decide)
  simp only [isSpace, beq_eq_false_iff_ne.2 hne, Bool.false_or, Bool.and_eq_false_iff,
    decide_eq_false_iff_not]
  omega

lemma splitSign_cons_of_ne (t : Text) (hplus : c ≠ '+') (hminus : c ≠ '-') :
    splitSign (c :: t) = (false, c :: t) := by
  unfold splitSign
  split
  · rename_i heq
    cases heq
    exact absurd rfl hminus
  · rename_i heq
    cases heq
    exact absurd rfl hplus
  · rfl

lemma splitSign_cons_of_isDigit (h : c.isDigit = true) :
    splitSign (c :: t) = (false, c :: t) := by
  apply splitSign_cons_of_ne
  · rintro rfl
    cases h
  · rintro rfl
    cases h

lemma exists_splitSign (t : Text) :
    ∃ sign ∈ [[], ['+'], ['-']], splitSign t = (sign == ['-'], t.drop sign.length) ∧
      t = sign ++ t.drop sign.length := by
  unfold splitSign
  split
  · exact ⟨['-'], by simp⟩
  · exact ⟨['+'], by simp⟩
  · exact ⟨[], by simp⟩

lemma splitSign_append {sign : Text} (hsign : sign ∈ [[], ['+'], ['-']])
    (hc : c.isDigit = true) : splitSign (sign ++ c :: t) = (sign == ['-'], c :: t) := by
  simp only [List.mem_cons, List.not_mem_nil, or_false] at hsign
  obtain rfl | rfl | rfl := hsign
  · exact splitSign_cons_of_isDigit hc
  · rfl
  · rfl

lemma scanInt_eq_some_iff {n : ℤ} {rest : Text} :
    scanInt t = some (n, rest) ↔
      ∃ num, IsNumeral num n ∧ t = num ++ rest ∧ ∀ c ∈ rest.head?, c.isDigit = false := by
  constructor
  · intro h
    obtain ⟨sign, hsign, hsplit, hbody⟩ := exists_splitSign (t.dropWhile isSpace)
    simp only [scanInt, hsplit] at h
    split at h
    · cases h
    rename_i hne
    cases h
    refine ⟨_, ⟨t.takeWhile isSpace, sign, _, fun c hc => List.mem_takeWhile_imp hc, hsign,
      by simpa using hne, fun c hc => List.mem_takeWhile_imp hc, rfl, rfl⟩, ?_, fun c hc => ?_⟩
    · rw [List.append_assoc, List.append_assoc, List.takeWhile_append_dropWhile, ← hbody,
        List.takeWhile_append_dropWhile]
    · have := List.head?_dropWhile_not Char.isDigit ((t.dropWhile isSpace).drop sign.length)
      rw [hc] at this
      simpa using this
  · rintro ⟨_, ⟨blank, sign, digits, hblank, hsign, hne, hdigits, rfl, rfl⟩, rfl, hrest⟩
    obtain ⟨c, digits, rfl⟩ := List.exists_cons_of_ne_nil hne
    have hc : c.isDigit = true := hdigits c List.mem_cons_self
    have hspace :
        (sign ++ c :: digits ++ rest).dropWhile isSpace = sign ++ c :: digits ++ rest := by
      simp only [List.mem_cons, List.not_mem_nil, or_false] at hsign
      obtain rfl | rfl | rfl := hsign
      · exact List.dropWhile_cons_of_neg (by simp [isSpace_eq_false_of_isDigit hc])
      · rfl
      · rfl
    have hdrop : (c :: digits ++ rest).dropWhile Char.isDigit = rest := by
      rw [List.dropWhile_append_of_pos hdigits]
      cases rest with
      | nil => rfl
      | cons c rest => exact List.dropWhile_cons_of_neg (by simp [hrest c rfl])
    have htake : (c :: digits ++ rest).takeWhile Char.isDigit = c :: digits := by
      rw [List.takeWhile_append_of_pos hdigits]
      cases rest with
      | nil => simp
      | cons c rest => simp [hrest c rfl]
    rw [scanInt, List.append_assoc, List.dropWhile_append_of_pos hblank, hspace,
      List.append_assoc, List.cons_append, splitSign_append hsign hc, ← List.cons_append]
    simp only [htake, hdrop]
    rfl

lemma isDigit_of_mem_toDigits (h : c ∈ Nat.toDigits 10 n) : c.isDigit = true :=
  Nat.isDigit_of_mem_toDigits (by decide) (by decide) h

lemma digitChar_of_isDigit (h : c.isDigit = true) :
    c.toNat - 48 < 10 ∧ Nat.digitChar (c.toNat - 48) = c := by
  obtain ⟨hmin, hmax⟩ := isDigit_iff.1 h
  have hlt : c.toNat - 48 < 10 := by omega
  refine ⟨hlt, Char.toNat_inj.1 ?_⟩
  rw [Nat.toNat_digitChar_of_lt_ten hlt]
  omega

lemma ofDigitChars_concat (digits : Text) (c : Char) :
    Nat.ofDigitChars 10 (digits ++ [c]) 0 = 10 * Nat.ofDigitChars 10 digits 0 + (c.toNat - 48) := by
  rw [Nat.ofDigitChars_append, Nat.ofDigitChars_cons, Nat.ofDigitChars_nil]
  rfl

lemma ofDigitChars_pos (hne : digits ≠ []) (hdigits : ∀ c ∈ digits, c.isDigit = true)
    (hzero : digits.head? ≠ some '0') : 0 < Nat.ofDigitChars 10 digits 0 := by
  obtain ⟨c, t, rfl⟩ := List.exists_cons_of_ne_nil hne
  obtain ⟨hmin, -⟩ := isDigit_iff.1 (hdigits c List.mem_cons_self)
  have hc : c.toNat ≠ 48 := by
    intro h
    obtain rfl : c = '0' := Char.toNat_inj.1 h
    exact hzero rfl
  have hpos : 0 < c.toNat - 48 := by omega
  rw [Nat.ofDigitChars_cons, Nat.ofDigitChars_eq_ofDigitChars_zero, Nat.mul_zero, Nat.zero_add]
  exact Nat.add_pos_left (Nat.mul_pos (Nat.pow_pos (by decide)) hpos) _

lemma toDigits_ofDigitChars (hne : digits ≠ []) (hdigits : ∀ c ∈ digits, c.isDigit = true)
    (hzero : digits.head? = some '0' → digits = ['0']) :
    Nat.toDigits 10 (Nat.ofDigitChars 10 digits 0) = digits := by
  induction digits using List.reverseRecOn with
  | nil => exact absurd rfl hne
  | append_singleton init c ih =>
    obtain ⟨hlt, hchar⟩ := digitChar_of_isDigit (hdigits c (by simp))
    rw [ofDigitChars_concat]
    by_cases hinit : init = []
    · subst hinit
      rw [Nat.ofDigitChars_nil, Nat.mul_zero, Nat.zero_add, Nat.toDigits_of_lt_base hlt, hchar,
        List.nil_append]
    -- the number before the last digit is not zero, and is written without it
    have hdigits' : ∀ c ∈ init, c.isDigit = true := fun c hc => hdigits c (by simp [hc])
    have hhead : init.head? ≠ some '0' := by
      intro h
      have hall := hzero (by rw [List.head?_append_of_ne_nil _ hinit, h])
      have hlength := congrArg List.length hall
      rw [List.length_append, List.length_singleton, List.length_singleton] at hlength
      exact hinit (List.length_eq_zero_iff.1 (by omega))
    rw [← Nat.toDigits_append_toDigits (by decide) (ofDigitChars_pos hinit hdigits' hhead) hlt,
      Nat.toDigits_of_lt_base hlt, hchar, ih hinit hdigits' fun h => absurd h hhead]

lemma isNumeral_renderInt (n : ℤ) : IsNumeral (renderInt n) n := by
  have hparse (m : ℕ) : Nat.ofDigitChars 10 (Nat.toDigits 10 m) 0 = m :=
    Nat.ofDigitChars_toDigits (by decide) (by decide)
  cases n with
  | ofNat n =>
    exact ⟨[], [], _, by simp, by simp, Nat.toDigits_ne_nil, fun _ => isDigit_of_mem_toDigits, rfl,
      by simp [signedValue, hparse]⟩
  | negSucc n =>
    exact ⟨[], ['-'], _, by simp, by simp, Nat.toDigits_ne_nil, fun _ => isDigit_of_mem_toDigits,
      rfl, by simp [signedValue, hparse, Int.negSucc_eq]⟩

/-- `%d` writes an integer that `scanInt` reads, up to the end. -/
lemma scanInt_renderInt (n : ℤ) : scanInt (renderInt n) = some (n, []) :=
  scanInt_eq_some_iff.2 ⟨_, isNumeral_renderInt n, by simp, by simp⟩

lemma strtol_renderInt {n : ℤ} (hmin : intMin ≤ n) (hmax : n ≤ intMax) :
    strtol (renderInt n) = (n, []) := by
  simp only [strtol, scanInt_renderInt, clampLong_eq hmin hmax]

lemma renderInt_ne_nil (n : ℤ) : renderInt n ≠ [] := by
  cases n with
  | ofNat n => exact Nat.toDigits_ne_nil
  | negSucc n => exact List.cons_ne_nil _ _

lemma length_renderInt_le {n : ℤ} (hmin : intMin ≤ n) (hmax : n ≤ intMax) :
    (renderInt n).length ≤ 11 := by
  unfold intMin at hmin
  unfold intMax at hmax
  have hdigits {m : ℕ} (hm : m < 10 ^ 10) : (Nat.toDigits 10 m).length ≤ 10 :=
    (Nat.length_toDigits_le_iff (by decide) (by decide)).2 hm
  cases n with
  | ofNat n =>
    rw [Int.ofNat_eq_natCast] at hmax
    exact (hdigits (by omega)).trans (by decide)
  | negSucc n => exact Nat.succ_le_succ (hdigits (by omega))

/-! ## Hexadecimal integers -/

def hexDigit (c : Char) : Option ℕ := "0123456789abcdef".toList.idxOf? c.toLower

/-- `isxdigit`. -/
def isHexDigit (c : Char) : Bool := (hexDigit c).isSome

def hexValue (digits : Text) : ℕ := (digits.filterMap hexDigit).foldl (fun n d => 16 * n + d) 0

def dropHexPrefix : Text → Text
  | '0' :: 'x' :: t => t
  | '0' :: 'X' :: t => t
  | t => t

/-- The directive `%x` with a width: the value, and the number of characters read. The characters
of a prefix are read whether digits follow it or not, and without digits there is no value. -/
def scanHex (width : ℕ) (t : Text) : Option (ℤ × ℕ) :=
  let item := (t.dropWhile isSpace).take width
  let r := splitSign item
  let body := dropHexPrefix r.2
  let digits := body.takeWhile isHexDigit
  if digits.isEmpty then none
  else some (if r.1 then -(hexValue digits : ℤ) else hexValue digits,
    (t.takeWhile isSpace).length + (item.length - body.length) + digits.length)

/-- The characters `a` and `b` are all that `%2x` reads: two digits, a sign and a digit, or a blank
and a digit that ends the number. -/
def isHexPair (a b : Char) (rest : Text) : Bool :=
  isHexDigit b && (isHexDigit a || a == '+' || a == '-' ||
    isSpace a && rest.head?.all fun c => !isHexDigit c && !(b == '0' && (c == 'x' || c == 'X')))

lemma isHexDigit_iff : isHexDigit c = true ↔ ∃ d, hexDigit c = some d :=
  Option.isSome_iff_exists

lemma hexDigit_eq_some {d : ℕ} (h : hexDigit c = some d) :
    "0123456789abcdef".toList[d]? = some c.toLower := by
  obtain ⟨hlt, heq, -⟩ := List.idxOf?_eq_some_iff.1 h
  exact List.getElem?_eq_some_iff.2 ⟨hlt, heq⟩

lemma dropHexPrefix_pair (a b : Char) :
    dropHexPrefix [a, b] = if a = '0' ∧ (b = 'x' ∨ b = 'X') then [] else [a, b] := by
  unfold dropHexPrefix
  split
  · rename_i heq
    cases heq
    rfl
  · rename_i heq
    cases heq
    rfl
  · rename_i hx hX
    rw [if_neg]
    rintro ⟨rfl, rfl | rfl⟩
    · exact hx [] rfl
    · exact hX [] rfl

lemma isHexDigit_eq_false (h : isSpace c = true ∨ c = '+' ∨ c = '-') : isHexDigit c = false := by
  obtain h | rfl | rfl := h
  · have hcode : c.toNat ∈ [32, 9, 10, 11, 12, 13] := by
      simp only [isSpace, Bool.or_eq_true, beq_iff_eq, Bool.and_eq_true, decide_eq_true_eq] at h
      obtain rfl | h := h
      · decide
      · simp; omega
    have hall : ∀ k ∈ [32, 9, 10, 11, 12, 13], isHexDigit (Char.ofNat k) = false := by decide
    simpa using hall _ hcode
  · rfl
  · rfl

lemma scanHex_cons_of_isSpace {width : ℕ} (h : isSpace c = true) :
    scanHex width (c :: t) = (scanHex width t).map fun r => (r.1, r.2 + 1) := by
  simp only [scanHex, List.dropWhile_cons_of_pos h, List.takeWhile_cons_of_pos h]
  split
  · rfl
  · simp only [Option.map_some, List.length_cons]
    congr 2
    omega

lemma scanHex_pos {width k : ℕ} {v : ℤ} (h : scanHex width t = some (v, k)) : 0 < k := by
  simp only [scanHex] at h
  split at h
  · cases h
  rename_i hne
  have hlen := List.length_pos_iff.2 (mt List.isEmpty_iff.2 hne)
  have hk := (Prod.mk.inj (Option.some.inj h)).2
  omega

/-- Two characters from a place that is not blank. -/
lemma scanHex_two {a : Char} (ha : isSpace a = false) :
    scanHex 2 (a :: t) =
      if a = '+' ∨ a = '-' then
        (t.head?.bind hexDigit).map fun y : ℕ => (if a = '-' then -(y : ℤ) else y, 2)
      else if a = '0' ∧ (t.head? = some 'x' ∨ t.head? = some 'X') then none
      else (hexDigit a).map fun x : ℕ =>
        (t.head?.bind hexDigit).elim ((x : ℤ), 1) fun y : ℕ => (16 * (x : ℤ) + y, 2) := by
  have hdrop : (a :: t).dropWhile isSpace = a :: t := List.dropWhile_cons_of_neg (by simp [ha])
  have htake : (a :: t).takeWhile isSpace = [] := List.takeWhile_cons_of_neg (by simp [ha])
  have hone (b : Char) : dropHexPrefix [b] = [b] := by
    unfold dropHexPrefix
    split <;> simp_all
  simp only [scanHex, hdrop, htake]
  by_cases hsign : a = '+' ∨ a = '-'
  · rw [if_pos hsign]
    obtain _ | ⟨b, t⟩ := t
    · obtain rfl | rfl := hsign <;> rfl
    · cases hb : hexDigit b <;> obtain rfl | rfl := hsign <;>
        simp [splitSign, hone, isHexDigit, hexValue, hb]
  · obtain ⟨hplus, hminus⟩ := not_or.1 hsign
    rw [if_neg hsign, List.take_succ_cons, splitSign_cons_of_ne _ hplus hminus]
    obtain _ | ⟨b, t⟩ := t
    · cases ha : hexDigit a <;> simp [hone, isHexDigit, hexValue, ha]
    rw [List.take_succ_cons, List.take_zero, dropHexPrefix_pair]
    simp only [List.head?_cons, Option.some.injEq]
    split
    · rfl
    · cases ha : hexDigit a <;> cases hb : hexDigit b <;> simp [isHexDigit, hexValue, ha, hb]

lemma exists_scanHex_iff {a b : Char} :
    (∃ v, scanHex 2 (a :: b :: t) = some (v, 2)) ↔ isHexPair a b t = true := by
  by_cases ha : isSpace a = true
  · have ha' := isHexDigit_eq_false (.inl ha)
    have hsign : a ≠ '+' ∧ a ≠ '-' := by constructor <;> rintro rfl <;> cases ha
    rw [scanHex_cons_of_isSpace ha]
    by_cases hb : isSpace b = true
    · -- a number that starts further on has a third character at least
      have hb' := isHexDigit_eq_false (.inl hb)
      rw [scanHex_cons_of_isSpace hb]
      cases hscan : scanHex 2 t with
      | none => simp [isHexPair, hb']
      | some r =>
        have hpos := scanHex_pos hscan
        simp [isHexPair, hb', hpos.ne']
    · rw [scanHex_two (by simpa using hb)]
      split
      · have hb' := isHexDigit_eq_false (.inr ‹_›)
        cases t.head?.bind hexDigit <;> simp [isHexPair, hb']
      obtain _ | ⟨c, t⟩ := t
      · cases hb' : hexDigit b <;> simp [isHexPair, isHexDigit, ha, hb']
      · have hna : hexDigit a = none := by simpa [isHexDigit] using ha'
        cases hb' : hexDigit b <;> cases hc : hexDigit c <;>
          simp [isHexPair, isHexDigit, ha, hna, hb', hc, hsign, imp_iff_not_or]
  · have ha' : isSpace a = false := by simpa using ha
    rw [scanHex_two ha', isHexPair, ha']
    split
    · cases hb : hexDigit b <;> simp [isHexDigit, hb, or_assoc, ‹_ ∨ _›]
    split
    · have hb : isHexDigit b = false := by
        obtain ⟨-, h | h⟩ := ‹_ ∧ _› <;> cases h <;> rfl
      simp [hb]
    · cases ha : hexDigit a <;> cases hb : hexDigit b <;> simp_all [isHexDigit]

lemma scanHex_digits {a b : Char} {x y : ℕ} (ha : hexDigit a = some x) (hb : hexDigit b = some y) :
    scanHex 2 (a :: b :: t) = some (16 * (x : ℤ) + y, 2) := by
  have ha' : isHexDigit a = true := isHexDigit_iff.2 ⟨x, ha⟩
  have hb' : isHexDigit b = true := isHexDigit_iff.2 ⟨y, hb⟩
  have hspace : isSpace a = false := by
    by_contra h
    rw [isHexDigit_eq_false (.inl (by simpa using h))] at ha'
    cases ha'
  rw [scanHex_two hspace, if_neg, if_neg]
  · simp [ha, hb]
  · rintro ⟨-, h | h⟩ <;> cases h <;> cases hb
  · exact fun h => absurd ha' (by simp [isHexDigit_eq_false (.inr h)])

end CText
