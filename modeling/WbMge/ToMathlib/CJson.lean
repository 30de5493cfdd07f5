import Mathlib.Algebra.Order.Ring.Cast
import Mathlib.Algebra.Order.Ring.Rat
import WbMge.ToMathlib.CText

/-!
# cJSON trees

The trees that the cJSON library parses a text into. A member of an object is looked up by name, up
to the case of the letters, and the first match counts; a tree that is not an object has no members.

A number is kept as a double, of which a program wants an `int`. `Double.toInt` is the conversion
where it is defined and `Double.valueint` the one cJSON makes, which saturates.
-/

open Json (Text)

namespace CJson

open CText (intMin intMax)

/-- The `valuedouble` of a number. `strtod` returns an infinity for a literal beyond all doubles. -/
inductive Double where
  | finite (value : ℚ)
  | infinite (negative : Bool)
deriving Repr, DecidableEq

namespace Double

def truncate (q : ℚ) : ℤ := q.num.tdiv q.den

@[simp] lemma truncate_intCast (n : ℤ) : truncate n = n := by
  simp [truncate]

lemma truncate_neg (q : ℚ) : truncate (-q) = -truncate q := by
  simp [truncate, Int.neg_tdiv]

variable {n : ℤ}

lemma truncate_le {q : ℚ} (hn : 0 ≤ n) (h : q ≤ n) : truncate q ≤ n := by
  have hden : (0 : ℤ) < q.den := Int.natCast_pos.2 q.den_pos
  rcases Int.le_total 0 q.num with hnum | hnum
  · have hle : q.num ≤ n * q.den := by
      have hmul : q * q.den ≤ n * q.den := mul_le_mul_of_nonneg_right h (Nat.cast_nonneg _)
      rw [Rat.mul_den_eq_num] at hmul
      exact_mod_cast hmul
    rw [truncate, Int.tdiv_eq_ediv_of_nonneg hnum]
    exact Int.ediv_le_of_le_mul hden hle
  · have hneg : 0 ≤ (-q.num).tdiv q.den := Int.tdiv_nonneg (Int.neg_nonneg_of_nonpos hnum) hden.le
    rw [Int.neg_tdiv] at hneg
    rw [truncate]
    omega

lemma le_truncate {q : ℚ} (hn : n ≤ 0) (h : n ≤ q) : n ≤ truncate q := by
  have hle : truncate (-q) ≤ -n := truncate_le (by omega) (by simpa using h)
  rw [truncate_neg] at hle
  omega

/-- The conversion to `int`, where it is defined. -/
def toInt : Double → Option ℤ
  | finite q => if q < intMin ∨ intMax < q then none else some (truncate q)
  | infinite _ => none

/-- The `valueint` that cJSON keeps beside a number: the conversion to `int`, with saturation. -/
def valueint : Double → ℤ
  | finite q => if intMax ≤ q then intMax else if q ≤ intMin then intMin else truncate q
  | infinite negative => if negative then intMin else intMax

lemma toInt_intCast (hmin : intMin ≤ n) (hmax : n ≤ intMax) : (finite n).toInt = some n := by
  have hrange : ¬ ((n : ℚ) < intMin ∨ (intMax : ℚ) < n) := by
    rw [Int.cast_lt, Int.cast_lt]
    omega
  rw [toInt, if_neg hrange, truncate_intCast]

lemma exists_of_toInt {d : Double} (h : d.toInt = some n) :
    ∃ q : ℚ, d = finite q ∧ intMin ≤ q ∧ q ≤ intMax ∧ truncate q = n := by
  cases d with
  | infinite negative => cases h
  | finite q =>
    simp only [toInt, Option.ite_none_left_eq_some, not_or, not_lt, Option.some.injEq] at h
    exact ⟨q, rfl, h.1.1, h.1.2, h.2⟩

lemma toInt_mem {d : Double} (h : d.toInt = some n) : intMin ≤ n ∧ n ≤ intMax := by
  obtain ⟨q, rfl, hmin, hmax, rfl⟩ := exists_of_toInt h
  exact ⟨le_truncate (by decide) hmin, truncate_le (by decide) hmax⟩

lemma valueint_of_toInt {d : Double} (h : d.toInt = some n) : d.valueint = n := by
  obtain ⟨q, rfl, hmin, hmax, rfl⟩ := exists_of_toInt h
  rw [valueint]
  split
  · rename_i hge
    rw [le_antisymm hmax hge, truncate_intCast]
  split
  · rename_i hle
    rw [le_antisymm hle hmin, truncate_intCast]
  · rfl

end Double

end CJson

/-- A JSON document as `cJSON` parses it. -/
inductive CJson where
  | null
  | bool (b : Bool)
  | num (valuedouble : CJson.Double)
  | str (valuestring : Text)
  | arr (elements : List CJson)
  | obj (members : List (Text × CJson))

namespace CJson

/-- `cJSON_GetObjectItem`. -/
def getObjectItem (name : Text) : CJson → Option CJson
  | obj members => (members.find? fun m => CText.caseEq name m.1).map Prod.snd
  | _ => none

def getPath : List Text → CJson → Option CJson
  | [], t => some t
  | name :: path, t => (t.getObjectItem name).bind (getPath path)

lemma getPath_singleton (name : Text) (t : CJson) : t.getPath [name] = t.getObjectItem name :=
  Option.bind_fun_some _

lemma getPath_concat (path : List Text) (name : Text) (t : CJson) :
    t.getPath (path ++ [name]) = (t.getPath path).bind (getObjectItem name) := by
  induction path generalizing t with
  | nil => simp [getPath]
  | cons first path ih => simp [getPath, Option.bind_assoc, ih]

/-- `cJSON_HasObjectItem`. -/
def hasObjectItem (name : Text) (t : CJson) : Bool := (t.getObjectItem name).isSome

/-- `cJSON_IsObject`. -/
def isObject : CJson → Bool
  | obj _ => true
  | _ => false

/-- `cJSON_CreateNumber` of an `int`. -/
def ofInt (n : ℤ) : CJson := num (.finite n)

lemma getObjectItem_singleton (name name' : Text) (t : CJson) :
    (obj [(name', t)]).getObjectItem name = if CText.caseEq name name' then some t else none := by
  rw [getObjectItem, List.find?_singleton]
  split <;> rfl

lemma getObjectItem_of_mem {members : List (Text × CJson)} {name : Text} {t : CJson}
    (hnames : ((members.map Prod.fst).map (List.map Char.toLower)).Nodup)
    (h : (name, t) ∈ members) :
    (obj members).getObjectItem name = some t := by
  have hfind : members.find? (fun m => CText.caseEq name m.1) = some (name, t) := by
    induction members with
    | nil => cases h
    | cons m members ih =>
      rw [List.map_cons, List.map_cons, List.nodup_cons] at hnames
      rcases List.mem_cons.1 h with rfl | hmem
      · exact List.find?_cons_of_pos (CText.caseEq_refl name)
      -- the name occurs further on, so this member has another one
      have hne : ¬ CText.caseEq name m.1 = true := by
        intro heq
        apply hnames.1
        rw [← CText.caseEq_iff.1 heq]
        exact List.mem_map_of_mem (List.mem_map_of_mem hmem)
      rw [List.find?_cons_of_neg (by exact hne)]
      exact ih hnames.2 hmem
  rw [getObjectItem, hfind, Option.map_some]

end CJson
