import Mathlib.Data.List.DropRight

/-!
# Strings of JavaScript

A string is a list of code units, which need not be well-formed UTF-16. What `trim` takes away and
`\s` matches is the same set of single code units.

`lines` cuts a text at its line feeds. `lines_append` says what becomes of the lines when a text is
cut off anywhere: all but the last one are lines of the whole text, and the last one begins a line
of it.
-/

namespace JsText

abbrev Text := List UInt16

def lit (s : String) : Text := s.toList.map fun c => UInt16.ofNat c.toNat

/-- The code units of `WhiteSpace` and `LineTerminator`. -/
def isWhitespace (c : UInt16) : Bool :=
  (9 ≤ c && c ≤ 13) || c == 32 || c == 0xA0 || c == 0x1680 || (0x2000 ≤ c && c ≤ 0x200A) ||
    c == 0x2028 || c == 0x2029 || c == 0x202F || c == 0x205F || c == 0x3000 || c == 0xFEFF

def space : UInt16 := 32
def lineFeed : UInt16 := 10
def carriageReturn : UInt16 := 13

def trimStart (t : Text) : Text := t.dropWhile isWhitespace

def trim (t : Text) : Text := (trimStart t).rdropWhile isWhitespace

/-- `split('\n')`. -/
def lines (t : Text) : List Text := t.splitOn lineFeed

def Bare (t : Text) : Prop := t ≠ [] ∧ ∀ c ∈ t, isWhitespace c = false

lemma bare_iff {t : Text} : Bare t ↔ t ≠ [] ∧ t.any isWhitespace = false := by
  simp [Bare]

instance (t : Text) : Decidable (Bare t) := decidable_of_iff' _ bare_iff

def spaces (n : Nat) : Text := List.replicate n space

variable {t t' : Text} {c : UInt16} {n : Nat}

/-! ## Runs of code units -/

section Runs

variable {p : UInt16 → Bool}

lemma takeWhile_run (ht : ∀ c ∈ t, p c = true) (ht' : ∀ c ∈ t'.head?, p c = false) :
    (t ++ t').takeWhile p = t := by
  rw [List.takeWhile_append_of_pos ht]
  cases t' with
  | nil => simp
  | cons c t' => simp [ht' c rfl]

lemma dropWhile_run (ht : ∀ c ∈ t, p c = true) (ht' : ∀ c ∈ t'.head?, p c = false) :
    (t ++ t').dropWhile p = t' := by
  rw [List.dropWhile_append_of_pos ht]
  cases t' with
  | nil => rfl
  | cons c t' => simp [ht' c rfl]

lemma eq_spaces_of_forall (h : ∀ c ∈ t, (c == space) = true) : t = spaces t.length :=
  List.eq_replicate_iff.2 ⟨rfl, fun c hc => by simpa using h c hc⟩

lemma beq_space_of_mem_spaces (hc : c ∈ spaces n) : (c == space) = true := by
  simpa using (List.mem_replicate.1 hc).2

end Runs

/-! ## White space around a text -/

lemma trimStart_eq_self_iff : trimStart t = t ↔ ∀ c ∈ t.head?, isWhitespace c = false := by
  cases t with
  | nil => simp [trimStart]
  | cons c t =>
    rw [trimStart, List.dropWhile_eq_self_iff]
    simp

lemma length_sub_trimStart_eq_zero_iff :
    t.length - (trimStart t).length = 0 ↔ trimStart t = t := by
  constructor
  · intro h
    exact (List.dropWhile_suffix isWhitespace).eq_of_length_le (Nat.sub_eq_zero_iff_le.1 h)
  · intro h
    rw [h, Nat.sub_self]

lemma rdropWhile_eq_iff {word : Text} (h : ∀ c ∈ word.getLast?, isWhitespace c = false) :
    t.rdropWhile isWhitespace = word ↔
      ∃ ws : Text, (∀ c ∈ ws, isWhitespace c = true) ∧ t = word ++ ws := by
  constructor
  · rintro rfl
    exact ⟨t.rtakeWhile isWhitespace, fun c => List.mem_rtakeWhile_imp,
      (List.rdropWhile_append_rtakeWhile ..).symm⟩
  · rintro ⟨ws, hws, rfl⟩
    rw [List.rdropWhile, List.reverse_append, dropWhile_run (by simpa using hws) (by simpa using h),
      List.reverse_reverse]

/-! ## Lines -/

lemma lines_ne_nil (t : Text) : lines t ≠ [] := List.splitOnP_ne_nil _ t

lemma lines_nil : lines [] = [[]] := List.splitOn_nil lineFeed

lemma lines_cons_lineFeed (t : Text) : lines (lineFeed :: t) = [] :: lines t := by
  rw [lines, List.splitOn, List.splitOnP_cons_eq_if_modifyHead, if_pos (by simp)]
  rfl

lemma lines_cons (h : c ≠ lineFeed) (t : Text) :
    lines (c :: t) = (lines t).modifyHead (c :: ·) := by
  rw [lines, List.splitOn, List.splitOnP_cons_eq_if_modifyHead, if_neg (by simpa using h)]
  rfl

lemma lines_append {init rest : List Text} {last x : Text} (ht : lines t = init ++ [last])
    (ht' : lines t' = x :: rest) : lines (t ++ t') = init ++ (last ++ x) :: rest := by
  induction t generalizing init last with
  | nil =>
    rw [lines_nil] at ht
    obtain ⟨rfl, hlast⟩ : init = [] ∧ [[]] = [last] := by
      cases init with
      | nil => exact ⟨rfl, ht⟩
      | cons y ys => simp at ht
    obtain rfl : [] = last := by simpa using hlast
    exact ht'
  | cons c t ih =>
    rw [List.cons_append]
    obtain ⟨init', last', ht₀⟩ := (List.eq_nil_or_concat' (lines t)).resolve_left (lines_ne_nil t)
    by_cases hc : c = lineFeed
    · subst hc
      rw [lines_cons_lineFeed] at ht ⊢
      rw [ht₀, ← List.cons_append] at ht
      obtain ⟨rfl, hlast⟩ := List.append_inj' ht rfl
      obtain rfl : last' = last := by simpa using hlast
      rw [ih ht₀]
      rfl
    · rw [lines_cons hc] at ht ⊢
      rw [ht₀] at ht
      rw [ih ht₀]
      cases init' with
      | nil =>
        obtain ⟨rfl, hlast⟩ : [] = init ∧ [c :: last'] = [last] := by
          cases init with
          | nil => exact ⟨rfl, ht⟩
          | cons y ys => simp at ht
        obtain rfl : c :: last' = last := by simpa using hlast
        rfl
      | cons y ys =>
        have ht₁ : ((c :: y) :: ys) ++ [last'] = init ++ [last] := ht
        obtain ⟨rfl, hlast⟩ := List.append_inj' ht₁ rfl
        obtain rfl : last' = last := by simpa using hlast
        rfl

end JsText
