import Mathlib.Data.List.Forall2

/-!
# JSON texts

The part of the JSON grammar that a writer needs which puts no white space between tokens and no
escapes into strings. `IsValue t v` says that the characters `t` are a text of the grammar and `v`
is the value they stand for.

A writer that streams an array sends it element by element, with the comma in front of every element
but the first. `intercalate_concat` is the step of that loop.
-/

namespace Json

abbrev Text := List Char

inductive Value where
  | num (n : ℕ)
  | str (s : Text)
  | arr (elements : List Value)
  | obj (members : List (Text × Value))

/-- A character that stands for itself within a string: no quotation mark, no reverse solidus and
no control character. -/
def Unescaped (c : Char) : Prop := c ≠ '"' ∧ c ≠ '\\' ∧ 0x20 ≤ c.toNat
deriving Decidable

def quoted (s : Text) : Text := '"' :: (s ++ ['"'])

def member (name value : Text) : Text := quoted name ++ ':' :: value

def bracketed (left right : Char) (items : List Text) : Text :=
  left :: (List.intercalate [','] items ++ [right])

/-- The text is one of the value. -/
inductive IsValue : Text → Value → Prop
  | num (n : ℕ) : IsValue (Nat.toDigits 10 n) (.num n)
  | str {s : Text} (h : ∀ c ∈ s, Unescaped c) : IsValue (quoted s) (.str s)
  | arr {texts : List Text} {values : List Value} (h : List.Forall₂ IsValue texts values) :
      IsValue (bracketed '[' ']' texts) (.arr values)
  | obj {names texts : List Text} {values : List Value} (hnames : ∀ s ∈ names, ∀ c ∈ s, Unescaped c)
      (hlength : names.length = texts.length) (h : List.Forall₂ IsValue texts values) :
      IsValue (bracketed '\x7b' '\x7d' (List.zipWith member names texts)) (.obj (names.zip values))

lemma intercalate_concat {α : Type*} (sep x : List α) :
    ∀ xs : List (List α), List.intercalate sep (xs ++ [x]) =
      List.intercalate sep xs ++ (if xs.isEmpty then [] else sep) ++ x
  | [] => by simp
  | [y] => by simp
  | y :: z :: zs => by
    have ih := intercalate_concat sep x (z :: zs)
    simp only [List.cons_append, List.intercalate_cons_cons, List.isEmpty_cons] at ih ⊢
    simp [ih]

end Json
