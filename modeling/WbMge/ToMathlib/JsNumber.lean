import Mathlib.Algebra.Group.Nat.Defs
import WbMge.ToMathlib.JsText

/-!
# Numbers in strings of JavaScript

`parseInt` with a radix, which reads a number at the front of a text and ignores what follows;
`toString` with a radix, which `digitsValue_ofNat` reads back; and padding, capital letters,
searching and cutting into words.

A number is an integer here. `parseInt` returns it as a float, which is the same below `2 ^ 53`.
-/

namespace JsText

/-! ## Digits -/

/-- The value of a digit, which may be a letter of either case. -/
def digitValue (c : UInt16) : Option ℕ :=
  if 48 ≤ c ∧ c ≤ 57 then some (c.toNat - 48)
  else if 97 ≤ c ∧ c ≤ 122 then some (c.toNat - 87)
  else if 65 ≤ c ∧ c ≤ 90 then some (c.toNat - 55)
  else none

def isDigit (radix : ℕ) (c : UInt16) : Bool := (digitValue c).any (· < radix)

def digitsValue (radix : ℕ) (digits : Text) : ℕ :=
  digits.foldl (fun n c => radix * n + (digitValue c).getD 0) 0

def plus : UInt16 := 43
def minus : UInt16 := 45

def splitSign : Text → Bool × Text
  | [] => (false, [])
  | c :: t => if c = minus then (true, t) else if c = plus then (false, t) else (false, c :: t)

/-- The text begins with `0x` or `0X`. -/
def hasHexPrefix : Text → Bool
  | zero :: x :: _ => zero == 48 && (x == 120 || x == 88)
  | _ => false

def dropHexPrefix (t : Text) : Text := if hasHexPrefix t then t.drop 2 else t

/-- What `parseInt` reads digits from: whether a minus was there, and what follows the white space,
the sign and, in radix 16, the prefix. -/
def parseIntBody (t : Text) (radix : ℕ) : Bool × Text :=
  let r := splitSign (trimStart t)
  (r.1, if radix = 16 then dropHexPrefix r.2 else r.2)

/-- `parseInt` with a radix; `none` is `NaN`. -/
def parseInt (t : Text) (radix : ℕ) : Option ℤ :=
  let r := parseIntBody t radix
  let digits := r.2.takeWhile (isDigit radix)
  if digits.isEmpty then none
  else some (if r.1 then -(digitsValue radix digits : ℤ) else digitsValue radix digits)

/-- `toString` of a natural number with a radix up to 16. -/
def ofNat (radix n : ℕ) : Text := (Nat.toDigits radix n).map fun c => UInt16.ofNat c.toNat

/-- `toString` of an integer. -/
def ofInt (radix : ℕ) (n : ℤ) : Text :=
  if n < 0 then minus :: ofNat radix n.natAbs else ofNat radix n.natAbs

/-! ## Texts -/

/-- `toUpperCase` of a code unit of ASCII; the others are left alone. -/
def upperUnit (c : UInt16) : UInt16 := if 97 ≤ c ∧ c ≤ 122 then c - 32 else c

def upper (t : Text) : Text := t.map upperUnit

/-- The first place from `start` on. -/
def indexOf (t pattern : Text) (start : ℕ) : Option ℕ :=
  (List.range (t.length + 1)).find? fun i => start ≤ i && pattern.isPrefixOf (t.drop i)

/-- The non-empty parts of a text between the code units that separate them: `split` at runs of
these code units, without the empty texts before the first one and after the last. -/
def words (separator : UInt16 → Bool) (t : Text) : List Text :=
  (t.splitOnP separator).filter (!·.isEmpty)

variable {t : Text} {c : UInt16} {radix n : ℕ}

/-! ## Reading digits -/

lemma isDigit_iff : isDigit radix c = true ↔ ∃ d, digitValue c = some d ∧ d < radix := by
  rw [isDigit, Option.any_eq_true]
  simp

lemma digitsValue_append (digits : Text) (c : UInt16) :
    digitsValue radix (digits ++ [c]) =
      radix * digitsValue radix digits + (digitValue c).getD 0 := by
  simp [digitsValue]

lemma digitValue_eq_none (h : isWhitespace c = true ∨ c = plus ∨ c = minus) :
    digitValue c = none := by
  have hout : ¬ (48 ≤ c ∧ c ≤ 57) ∧ ¬ (97 ≤ c ∧ c ≤ 122) ∧ ¬ (65 ≤ c ∧ c ≤ 90) := by
    obtain h | rfl | rfl := h
    · simp only [isWhitespace, Bool.or_eq_true, Bool.and_eq_true, decide_eq_true_eq, beq_iff_eq,
        UInt16.le_iff_toNat_le, ← UInt16.toNat_inj] at h ⊢
      simp only [UInt16.reduceToNat] at h ⊢
      omega
    · decide
    · decide
  rw [digitValue, if_neg hout.1, if_neg hout.2.1, if_neg hout.2.2]

lemma isDigit_eq_false (h : isWhitespace c = true ∨ c = plus ∨ c = minus) :
    isDigit radix c = false := by
  rw [isDigit, digitValue_eq_none h]
  rfl

lemma isWhitespace_of_isDigit (h : isDigit radix c = true) : isWhitespace c = false := by
  by_contra hspace
  rw [isDigit_eq_false (.inl (by simpa using hspace))] at h
  cases h

lemma splitSign_of_isDigit (h : isDigit radix c = true) :
    splitSign (c :: t) = (false, c :: t) := by
  have hminus : c ≠ minus := by
    rintro rfl
    rw [isDigit_eq_false (.inr (.inr rfl))] at h
    cases h
  have hplus : c ≠ plus := by
    rintro rfl
    rw [isDigit_eq_false (.inr (.inl rfl))] at h
    cases h
  rw [splitSign, if_neg hminus, if_neg hplus]

/-! ## Numbers written in a radix -/

section OfNat

variable {d : ℕ}

lemma digitValue_digitChar (h : d < 16) :
    digitValue (UInt16.ofNat (Nat.digitChar d).toNat) = some d := by
  have hall : ∀ d : Fin 16, digitValue (UInt16.ofNat (Nat.digitChar d).toNat) = some d.val := by
    decide
  exact hall ⟨d, h⟩

lemma ofNat_of_lt (h : d < radix) :
    ofNat radix d = [UInt16.ofNat (Nat.digitChar d).toNat] := by
  rw [ofNat, Nat.toDigits_of_lt_base h]
  rfl

lemma ofNat_append (hradix : 1 < radix) (hn : 0 < n) (hd : d < radix) :
    ofNat radix (radix * n + d) = ofNat radix n ++ [UInt16.ofNat (Nat.digitChar d).toNat] := by
  rw [ofNat, ← Nat.toDigits_append_toDigits hradix hn hd, List.map_append, ← ofNat, ← ofNat,
    ofNat_of_lt hd]

lemma ofNat_cases (hradix : 1 < radix) (n : ℕ) :
    n < radix ∨ ∃ m d, 0 < m ∧ d < radix ∧ m < n ∧ n = radix * m + d := by
  by_cases h : n < radix
  · exact .inl h
  · have hpos : 0 < n / radix := Nat.div_pos (by omega) (by omega)
    exact .inr ⟨n / radix, n % radix, hpos, Nat.mod_lt _ (by omega),
      Nat.div_lt_self (by omega) hradix, (Nat.div_add_mod n radix).symm⟩

/-- `parseInt` reads back what `toString` writes: the digits have the value. -/
lemma digitsValue_ofNat (hradix : 1 < radix) (hmax : radix ≤ 16) (n : ℕ) :
    digitsValue radix (ofNat radix n) = n := by
  induction n using Nat.strong_induction_on with
  | _ n ih =>
    obtain h | ⟨m, d, hm, hd, hlt, rfl⟩ := ofNat_cases hradix n
    · rw [ofNat_of_lt h]
      simp [digitsValue, digitValue_digitChar (Nat.lt_of_lt_of_le h hmax)]
    · rw [ofNat_append hradix hm hd, digitsValue_append, ih m hlt,
        digitValue_digitChar (Nat.lt_of_lt_of_le hd hmax), Option.getD_some]

lemma isDigit_of_mem_ofNat (hradix : 1 < radix) (hmax : radix ≤ 16) (hc : c ∈ ofNat radix n) :
    isDigit radix c = true := by
  induction n using Nat.strong_induction_on with
  | _ n ih =>
    have hdigit {d : ℕ} (hd : d < radix) :
        isDigit radix (UInt16.ofNat (Nat.digitChar d).toNat) = true :=
      isDigit_iff.2 ⟨d, digitValue_digitChar (Nat.lt_of_lt_of_le hd hmax), hd⟩
    obtain h | ⟨m, d, hm, hd, hlt, rfl⟩ := ofNat_cases hradix n
    · rw [ofNat_of_lt h, List.mem_singleton] at hc
      rw [hc]
      exact hdigit h
    · rw [ofNat_append hradix hm hd, List.mem_append, List.mem_singleton] at hc
      obtain hc | rfl := hc
      · exact ih m hlt hc
      · exact hdigit hd

lemma ofNat_ne_nil (radix n : ℕ) : ofNat radix n ≠ [] := by
  rw [ofNat, Ne, List.map_eq_nil_iff]
  exact Nat.toDigits_ne_nil

end OfNat

/-! ## Whole texts -/

lemma trimStart_trim (t : Text) : trimStart (trim t) = trim t := by
  refine trimStart_eq_self_iff.2 fun c hc => ?_
  -- what `trim` leaves begins as what `trimStart` leaves
  have hprefix : trim t <+: trimStart t := List.rdropWhile_prefix ..
  have hhead : (trimStart t).head? = some c := by
    obtain ⟨rest, hrest⟩ := hprefix
    cases h : trim t with
    | nil => rw [h] at hc; cases hc
    | cons c' t' =>
      rw [h] at hc hrest
      rw [← hrest]
      exact hc
  have hfirst := List.head?_dropWhile_not isWhitespace t
  rw [← trimStart, hhead] at hfirst
  simpa using hfirst

lemma trim_eq_self (h : ∀ c ∈ t, isWhitespace c = false) : trim t = t := by
  have hstart : trimStart t = t :=
    trimStart_eq_self_iff.2 fun c hc => h c (List.mem_of_mem_head? hc)
  rw [trim, hstart, List.rdropWhile_eq_self_iff]
  intro hne hlast
  rw [h _ (List.getLast_mem hne)] at hlast
  cases hlast

lemma hasHexPrefix_eq_false (hradix : radix ≤ 16) (hdigits : ∀ c ∈ t, isDigit radix c = true) :
    hasHexPrefix t = false := by
  fun_cases hasHexPrefix t with
  | case1 zero x t =>
    obtain ⟨d, hd, hlt⟩ := isDigit_iff.1 (hdigits x (by simp))
    -- the letter has the value 33, in either case
    have hx : x ≠ 120 ∧ x ≠ 88 := by
      constructor
      all_goals
        rintro rfl
        have hvalue : 33 = d := Option.some.inj hd
        omega
    simp [hx]
  | case2 => rfl

lemma parseInt_digits (hradix : radix ≤ 16) (hne : t ≠ [])
    (hdigits : ∀ c ∈ t, isDigit radix c = true) :
    parseInt t radix = some (digitsValue radix t : ℤ) := by
  have hall : t.takeWhile (isDigit radix) = t := List.takeWhile_eq_self_iff.2 hdigits
  have htrim : trimStart t = t :=
    trimStart_eq_self_iff.2 fun c hc =>
      isWhitespace_of_isDigit (hdigits c (List.mem_of_mem_head? hc))
  have hsign : splitSign t = (false, t) := by
    obtain ⟨c, t, rfl⟩ := List.exists_cons_of_ne_nil hne
    exact splitSign_of_isDigit (hdigits c List.mem_cons_self)
  have hbody : parseIntBody t radix = (false, t) := by
    rw [parseIntBody, htrim, hsign, dropHexPrefix, hasHexPrefix_eq_false hradix hdigits,
      if_neg Bool.false_ne_true, ite_self]
  simp only [parseInt, hbody, hall, List.isEmpty_iff, if_neg hne, Bool.false_eq_true, if_false]

lemma splitSign_of_hasHexPrefix (h : hasHexPrefix t = true) : splitSign t = (false, t) := by
  match t, h with
  | zero :: x :: t, h =>
    simp only [hasHexPrefix, Bool.and_eq_true, beq_iff_eq] at h
    rw [h.1]
    rfl

/-- A row of digits and its value. -/
def IsNumeral (radix : ℕ) (digits : Text) (n : ℕ) : Prop :=
  digits ≠ [] ∧ (∀ c ∈ digits, isDigit radix c = true) ∧ digitsValue radix digits = n

/-- The number at the front of a text is the row of digits there, with the sign before it. -/
lemma parseInt_eq_some_iff {i : ℤ} {r : Bool × Text} (hbody : parseIntBody t radix = r) :
    parseInt t radix = some i ↔ ∃ n : ℕ, IsNumeral radix (r.2.takeWhile (isDigit radix)) n ∧
      i = if r.1 then -(n : ℤ) else n := by
  have hdigits : ∀ c ∈ r.2.takeWhile (isDigit radix), isDigit radix c = true :=
    fun _ => List.mem_takeWhile_imp
  simp only [parseInt, hbody, IsNumeral, Option.ite_none_left_eq_some, List.isEmpty_iff,
    Option.some.injEq, and_assoc]
  constructor
  · rintro ⟨hne, rfl⟩
    exact ⟨_, hne, hdigits, rfl, rfl⟩
  · rintro ⟨n, hne, -, rfl, rfl⟩
    exact ⟨hne, rfl⟩

lemma indexOf_eq_some_iff {pattern : Text} {start i : ℕ} :
    indexOf t pattern start = some i ↔ (start ≤ i ∧ pattern <+: t.drop i) ∧ i ≤ t.length ∧
      ∀ j < i, start ≤ j → ¬ pattern <+: t.drop j := by
  have himp (j : ℕ) (p : Prop) : (start ≤ j → ¬ p) ↔ j < start ∨ ¬ p := by
    rw [imp_iff_not_or, not_le]
  simp [indexOf, List.find?_range_eq_some, List.isPrefixOf_iff_prefix, ← Bool.not_eq_true,
    Nat.lt_succ_iff, himp]

/-! ## Words -/

section Words

variable {separator : UInt16 → Bool}

lemma words_eq_singleton (hne : t ≠ []) (ht : ∀ c ∈ t, separator c = false) :
    words separator t = [t] := by
  simp [words, List.splitOnP_eq_singleton ht, hne]

lemma words_append_cons (hc : separator c = true) (t t' : Text) :
    words separator (t ++ c :: t') = words separator t ++ words separator t' := by
  rw [words, List.splitOnP_append_cons t t' hc, List.filter_append, ← words, ← words]

lemma words_append_separators {cs : Text} (hcs : ∀ c ∈ cs, separator c = true) (t : Text) :
    words separator (cs ++ t) = words separator t := by
  induction cs with
  | nil => rfl
  | cons c cs ih =>
    rw [List.forall_mem_cons] at hcs
    exact (words_append_cons hcs.1 [] (cs ++ t)).trans (ih hcs.2)

/-- Some words with separators in between are the words of the text. -/
lemma words_intercalate {cs : Text} {ws : List Text} (hne : cs ≠ [])
    (hcs : ∀ c ∈ cs, separator c = true)
    (hws : ∀ w ∈ ws, w ≠ [] ∧ ∀ c ∈ w, separator c = false) :
    words separator (cs.intercalate ws) = ws := by
  obtain ⟨c, cs, rfl⟩ := List.exists_cons_of_ne_nil hne
  rw [List.forall_mem_cons] at hcs
  induction ws with
  | nil => rfl
  | cons w ws ih =>
    rw [List.forall_mem_cons] at hws
    have hw := words_eq_singleton hws.1.1 hws.1.2
    cases ws with
    | nil => rwa [List.intercalate_singleton]
    | cons w' ws =>
      rw [List.intercalate_cons_cons, List.append_assoc, List.cons_append, words_append_cons hcs.1,
        words_append_separators hcs.2, hw, ih hws.2, List.singleton_append]

lemma separator_eq_false {w : Text} (hw : w ∈ words separator t) :
    ∀ c ∈ w, separator c = false := by
  have hall : ∀ w ∈ t.splitOnP separator, ∀ c ∈ w, separator c = false := by
    clear hw
    induction t with
    | nil => simp
    | cons c t ih =>
      rw [List.splitOnP_cons_eq_if_modifyHead]
      split
      · simpa using ih
      rename_i hc
      cases h : t.splitOnP separator with
      | nil => simp
      | cons w ws =>
        rw [h, List.forall_mem_cons] at ih
        rw [List.modifyHead_cons, List.forall_mem_cons, List.forall_mem_cons]
        exact ⟨⟨by simpa using hc, ih.1⟩, ih.2⟩
  exact hall w (List.mem_of_mem_filter hw)

end Words
end JsText
