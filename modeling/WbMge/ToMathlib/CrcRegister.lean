import Mathlib.Data.List.Basic
import Mathlib.Logic.Function.Iterate

/-!
# The register of a cyclic redundancy check

A register of `w` bits that takes a message bit by bit, each bit entering at the low end, with the
bits of the generator polynomial in reverse order. Over exclusive or everything is linear, so what
an error does to the register is what the error alone would do to an empty one (`run_xor`).
-/

namespace CrcRegister

variable {w : ℕ}

/-- A few bits as the low end of a register, the first one lowest. -/
def pack (w : ℕ) (bits : List Bool) : BitVec w := (BitVec.ofBoolListLE bits).setWidth w

def bits (r : BitVec w) : List Bool := (List.range w).map r.getLsbD

def shift (poly r : BitVec w) : BitVec w := if r.getLsbD 0 then (r >>> 1) ^^^ poly else r >>> 1

def feed (poly r : BitVec w) (b : Bool) : BitVec w := shift poly (r ^^^ pack w [b])

def run (poly r : BitVec w) (message : List Bool) : BitVec w := message.foldl (feed poly) r

/-! ## Bits in a register -/

lemma getLsbD_pack (message : List Bool) (i : ℕ) :
    (pack w message).getLsbD i = (decide (i < w) && message.getD i false) := by
  rw [pack, BitVec.getLsbD_setWidth, BitVec.getLsbD_ofBoolListLE]

@[simp] lemma pack_nil : pack w [] = 0#w := by
  refine BitVec.eq_of_getLsbD_eq fun i _ => ?_
  simp [getLsbD_pack]

lemma pack_cons (b : Bool) (message : List Bool) :
    pack w (b :: message) = pack w message <<< 1 ^^^ pack w [b] := by
  refine BitVec.eq_of_getLsbD_eq fun i hi => ?_
  rw [BitVec.getLsbD_xor, BitVec.getLsbD_shiftLeft, getLsbD_pack, getLsbD_pack, getLsbD_pack]
  cases i with
  | zero => simp
  | succ i =>
    have hi' : i < w := Nat.lt_of_succ_lt hi
    simp [hi, hi']

lemma pack_bits (r : BitVec w) : pack w (bits r) = r := by
  refine BitVec.eq_of_getLsbD_eq fun i hi => ?_
  rw [getLsbD_pack]
  simp [bits, hi]

lemma eq_false_of_pack_eq_zero {message : List Bool} (hlen : message.length ≤ w)
    (h : pack w message = 0#w) : ∀ b ∈ message, b = false := by
  intro b hb
  obtain ⟨i, hi, rfl⟩ := List.getElem_of_mem hb
  have hbit := congrArg (·.getLsbD i) h
  simp only [getLsbD_pack] at hbit
  simpa [hi, Nat.lt_of_lt_of_le hi hlen] using hbit

/-! ## Linearity -/

section Linear

variable (poly : BitVec w)

lemma shift_zero : shift poly 0#w = 0#w := by
  simp [shift]

lemma shift_xor (r s : BitVec w) : shift poly (r ^^^ s) = shift poly r ^^^ shift poly s := by
  refine BitVec.eq_of_getLsbD_eq fun i _ => ?_
  simp only [shift, BitVec.getLsbD_xor]
  cases r.getLsbD 0 <;> cases s.getLsbD 0 <;> simp [BitVec.getLsbD_ushiftRight]
  · cases poly.getLsbD i <;> simp
  · cases poly.getLsbD i <;> cases r.getLsbD (1 + i) <;> cases s.getLsbD (1 + i) <;> rfl

lemma iterate_shift_zero (n : ℕ) : (shift poly)^[n] 0#w = 0#w :=
  Function.iterate_fixed (shift_zero poly) n

lemma pack_xor (a b : Bool) : pack w [a ^^ b] = pack w [a] ^^^ pack w [b] := by
  refine BitVec.eq_of_getLsbD_eq fun i _ => ?_
  cases i with
  | zero => simp [getLsbD_pack, ← Bool.and_xor_distrib_left]
  | succ i => simp [getLsbD_pack]

lemma feed_xor (r s : BitVec w) (a b : Bool) :
    feed poly (r ^^^ s) (a ^^ b) = feed poly r a ^^^ feed poly s b := by
  rw [feed, feed, feed, ← shift_xor, pack_xor]
  ac_rfl

variable {message : List Bool}

/-- **Linearity.** -/
lemma run_xor (r s : BitVec w) {error : List Bool} (h : message.length = error.length) :
    run poly (r ^^^ s) (List.zipWith xor message error) =
      run poly r message ^^^ run poly s error := by
  induction message generalizing r s error with
  | nil =>
    obtain rfl : error = [] := List.length_eq_zero_iff.1 h.symm
    rfl
  | cons a message ih =>
    cases error with
    | nil => cases h
    | cons b error =>
      have hlen : message.length = error.length := Nat.succ.inj h
      have hstep : run poly (feed poly (r ^^^ s) (a ^^ b)) (List.zipWith xor message error) =
          run poly (feed poly r a) message ^^^ run poly (feed poly s b) error := by
        rw [feed_xor, ih _ _ hlen]
      exact hstep

/-! ## Several bits at once -/

lemma run_append (r : BitVec w) (message rest : List Bool) :
    run poly r (message ++ rest) = run poly (run poly r message) rest :=
  List.foldl_append

lemma shift_shiftLeft {r : BitVec w} (h : r.getLsbD (w - 1) = false) :
    shift poly (r <<< 1) = r := by
  have hlow : (r <<< 1).getLsbD 0 = false := by simp
  rw [shift, hlow, if_neg Bool.false_ne_true]
  refine BitVec.eq_of_getLsbD_eq fun i hi => ?_
  rw [BitVec.getLsbD_ushiftRight, BitVec.getLsbD_shiftLeft]
  by_cases htop : 1 + i < w
  · simp [htop]
  · obtain rfl : i = w - 1 := by omega
    simp [htop, h]

lemma run_eq_iterate (r : BitVec w) (h : message.length ≤ w) :
    run poly r message = (shift poly)^[message.length] (r ^^^ pack w message) := by
  induction message generalizing r with
  | nil => simp [run]
  | cons b message ih =>
    have hlen : message.length + 1 ≤ w := h
    have htop : (pack w message).getLsbD (w - 1) = false := by
      have hout : message[w - 1]? = none := List.getElem?_eq_none (by omega)
      rw [getLsbD_pack, List.getD_eq_getElem?_getD, hout, Option.getD_none, Bool.and_false]
    have hswap : r ^^^ (pack w message <<< 1 ^^^ pack w [b]) =
        (r ^^^ pack w [b]) ^^^ pack w message <<< 1 := by
      ac_rfl
    calc run poly r (b :: message) = run poly (feed poly r b) message := rfl
      _ = (shift poly)^[message.length] (feed poly r b ^^^ pack w message) := ih _ (by omega)
      _ = (shift poly)^[message.length] (shift poly (r ^^^ pack w (b :: message))) := by
        rw [pack_cons, hswap, shift_xor, shift_shiftLeft poly htop, feed]
      _ = (shift poly)^[(b :: message).length] (r ^^^ pack w (b :: message)) := rfl

lemma run_false (r : BitVec w) (h : ∀ b ∈ message, b = false) :
    run poly r message = (shift poly)^[message.length] r := by
  have hpack : pack w [false] = 0#w := by
    refine BitVec.eq_of_getLsbD_eq fun i _ => ?_
    cases i <;> simp [getLsbD_pack]
  induction message generalizing r with
  | nil => rfl
  | cons b message ih =>
    obtain rfl : b = false := h b (by simp)
    have hfeed : feed poly r false = shift poly r := by rw [feed, hpack, BitVec.xor_zero]
    calc run poly r (false :: message) = run poly (feed poly r false) message := rfl
      _ = (shift poly)^[message.length] (shift poly r) := by
        rw [ih _ fun b hb => h b (List.mem_cons_of_mem _ hb), hfeed]

lemma run_bits (r : BitVec w) : run poly r (bits r) = 0#w := by
  rw [run_eq_iterate poly r (by simp [bits]), pack_bits, BitVec.xor_self, iterate_shift_zero]

end Linear

/-! ## Bursts -/

section Bursts

variable {poly : BitVec w}

lemma eq_zero_of_shift_eq_zero (hpoly : poly.getLsbD (w - 1) = true) {r : BitVec w}
    (h : shift poly r = 0#w) : r = 0#w := by
  have hw : 0 < w := by
    by_contra hw
    rw [BitVec.getLsbD_of_ge _ _ (by omega)] at hpoly
    cases hpoly
  have hlow : r.getLsbD 0 = false := by
    by_contra hlow
    rw [Bool.not_eq_false] at hlow
    have htop := congrArg (·.getLsbD (w - 1)) h
    simp only [shift, hlow, if_true, BitVec.getLsbD_xor, BitVec.getLsbD_ushiftRight, hpoly,
      Bool.xor_true, BitVec.getLsbD_zero] at htop
    rw [BitVec.getLsbD_of_ge _ _ (by omega)] at htop
    cases htop
  rw [shift, hlow, if_neg Bool.false_ne_true] at h
  refine BitVec.eq_of_getLsbD_eq fun i hi => ?_
  cases i with
  | zero => simpa using hlow
  | succ i =>
    have hbit := congrArg (·.getLsbD i) h
    rw [BitVec.getLsbD_zero]
    simpa [BitVec.getLsbD_ushiftRight, Nat.add_comm] using hbit

lemma eq_zero_of_iterate_shift_eq_zero (hpoly : poly.getLsbD (w - 1) = true) {n : ℕ}
    {r : BitVec w} (h : (shift poly)^[n] r = 0#w) : r = 0#w := by
  induction n generalizing r with
  | zero => exact h
  | succ n ih => exact eq_zero_of_shift_eq_zero hpoly (ih h)

lemma run_eq_zero_iff (hpoly : poly.getLsbD (w - 1) = true) (r : BitVec w) {message : List Bool}
    (h : message.length ≤ w) : run poly r message = 0#w ↔ r = pack w message := by
  rw [run_eq_iterate poly r h]
  constructor
  · intro hzero
    exact BitVec.xor_eq_zero_iff.1 (eq_zero_of_iterate_shift_eq_zero hpoly hzero)
  · rintro rfl
    rw [BitVec.xor_self, iterate_shift_zero]

/-- **Bursts.** Errors within `w` consecutive bits do not leave an empty register. -/
lemma run_ne_zero_of_burst (hpoly : poly.getLsbD (w - 1) = true) {error : List Bool} {s : ℕ}
    (hburst : ∀ i, error[i]? = some true → s ≤ i ∧ i < s + w) (herror : true ∈ error) :
    run poly 0#w error ≠ 0#w := by
  -- cut the error at the two ends of the window; the outer parts are zeros
  have hbefore : ∀ b ∈ error.take s, b = false := by
    intro b hb
    obtain ⟨i, hi, rfl⟩ := List.getElem_of_mem hb
    rw [List.length_take] at hi
    by_contra htrue
    have hat : error[i]? = some true := by
      rw [List.getElem?_eq_getElem (by omega)]
      simpa using htrue
    exact absurd (hburst i hat).1 (by omega)
  have hafter : ∀ b ∈ error.drop (s + w), b = false := by
    intro b hb
    obtain ⟨i, hi, rfl⟩ := List.getElem_of_mem hb
    rw [List.length_drop] at hi
    by_contra htrue
    have hat : error[s + w + i]? = some true := by
      rw [List.getElem?_eq_getElem (by omega)]
      simpa using htrue
    exact absurd (hburst _ hat).2 (by omega)
  have hcut : error = error.take s ++ ((error.drop s).take w ++ error.drop (s + w)) := by
    rw [← List.drop_drop, List.take_append_drop, List.take_append_drop]
  intro hzero
  rw [hcut, run_append, run_append, run_false poly _ hbefore, iterate_shift_zero,
    run_false poly _ hafter] at hzero
  have hwindow := eq_zero_of_iterate_shift_eq_zero hpoly hzero
  have hlen : ((error.drop s).take w).length ≤ w := List.length_take_le ..
  rw [run_eq_zero_iff hpoly _ hlen] at hwindow
  have hinside := eq_false_of_pack_eq_zero hlen hwindow.symm
  rw [hcut, List.mem_append, List.mem_append] at herror
  obtain hmem | hmem | hmem := herror
  · cases hbefore _ hmem
  · cases hinside _ hmem
  · cases hafter _ hmem

end Bursts

/-! ## Parity -/

def parity (message : List Bool) : Bool := message.foldr xor false

@[simp] lemma parity_nil : parity [] = false := rfl

@[simp] lemma parity_cons (b : Bool) (message : List Bool) :
    parity (b :: message) = (b ^^ parity message) := rfl

lemma parity_append (message rest : List Bool) :
    parity (message ++ rest) = (parity message ^^ parity rest) := by
  induction message with
  | nil => simp
  | cons b message ih => simp [ih]

lemma parity_eq_true_iff {message : List Bool} : parity message = true ↔
    message.count true % 2 = 1 := by
  induction message with
  | nil => simp
  | cons b message ih =>
    cases b with
    | false => simpa using ih
    | true =>
      rw [parity_cons, Bool.true_xor, List.count_cons_self, Bool.not_eq_true', ← Bool.not_eq_true,
        ih]
      omega

lemma parity_map_xor {α : Type*} (f g : α → Bool) (l : List α) :
    parity (l.map fun x => f x ^^ g x) = (parity (l.map f) ^^ parity (l.map g)) := by
  induction l with
  | nil => rfl
  | cons x l ih =>
    simp only [List.map_cons, parity_cons, ih, Bool.xor_assoc, Bool.xor_left_comm]

lemma parity_bits_xor (r s : BitVec w) :
    parity (bits (r ^^^ s)) = (parity (bits r) ^^ parity (bits s)) := by
  rw [bits, bits, bits, ← parity_map_xor]
  simp only [← BitVec.getLsbD_xor]

lemma parity_bits_ushiftRight (r : BitVec w) :
    parity (bits r) = (r.getLsbD 0 ^^ parity (bits (r >>> 1))) := by
  cases w with
  | zero => simp [bits]
  | succ w =>
    have hnext : (List.range w).map (fun i => r.getLsbD (i + 1)) =
        (List.range w).map (r >>> 1).getLsbD := by
      refine List.map_congr_left fun i _ => ?_
      rw [BitVec.getLsbD_ushiftRight, Nat.add_comm 1 i]
    have htop : (r >>> 1).getLsbD w = false := by
      rw [BitVec.getLsbD_ushiftRight]
      exact BitVec.getLsbD_of_ge _ _ (by omega)
    have hleft : parity (bits r) =
        (r.getLsbD 0 ^^ parity ((List.range w).map (r >>> 1).getLsbD)) := by
      rw [bits, List.range_succ_eq_map, List.map_cons, List.map_map, parity_cons, ← hnext]
      rfl
    have hright : parity (bits (r >>> 1)) = parity ((List.range w).map (r >>> 1).getLsbD) := by
      rw [bits, List.range_succ, List.map_append, parity_append, List.map_singleton, htop]
      exact Bool.xor_false _
    rw [hleft, hright]

section Odd

variable {poly : BitVec w}

lemma parity_shift (hpoly : parity (bits poly) = true) (r : BitVec w) :
    parity (bits (shift poly r)) = parity (bits r) := by
  rw [parity_bits_ushiftRight r]
  cases hlow : r.getLsbD 0 with
  | false => rw [shift, hlow, if_neg Bool.false_ne_true, Bool.false_xor]
  | true => rw [shift, hlow, if_pos rfl, parity_bits_xor, hpoly, Bool.xor_comm]

lemma parity_bits_pack_singleton (hw : 0 < w) (b : Bool) : parity (bits (pack w [b])) = b := by
  obtain ⟨w, rfl⟩ := Nat.exists_eq_succ_of_ne_zero (Nat.pos_iff_ne_zero.1 hw)
  have hrest : (List.range w).map ((pack (w + 1) [b]).getLsbD ∘ Nat.succ) =
      List.replicate w false := by
    refine List.eq_replicate_iff.2 ⟨by simp, fun c hc => ?_⟩
    obtain ⟨i, -, rfl⟩ := List.mem_map.1 hc
    simp [getLsbD_pack]
  have hzeros : ∀ n, parity (List.replicate n false) = false := by
    intro n
    induction n with
    | zero => rfl
    | succ n ih => rw [List.replicate_succ, parity_cons, ih]; rfl
  rw [bits, List.range_succ_eq_map, List.map_cons, List.map_map, parity_cons, hrest, hzeros,
    getLsbD_pack]
  simp

/-- **Parity.** The register counts the ones of the message. -/
lemma parity_run (hpoly : parity (bits poly) = true) (r : BitVec w) (message : List Bool) :
    parity (bits (run poly r message)) = (parity (bits r) ^^ parity message) := by
  have hw : 0 < w := by
    by_contra hw
    obtain rfl : w = 0 := by omega
    cases hpoly
  induction message generalizing r with
  | nil => rw [parity_nil, Bool.xor_false]; rfl
  | cons b message ih =>
    calc parity (bits (run poly r (b :: message)))
        = parity (bits (run poly (feed poly r b) message)) := rfl
      _ = (parity (bits (feed poly r b)) ^^ parity message) := ih _
      _ = (parity (bits r) ^^ parity (b :: message)) := by
        rw [feed, parity_shift hpoly, parity_bits_xor, parity_bits_pack_singleton hw, parity_cons,
          Bool.xor_assoc]

lemma run_ne_zero_of_odd (hpoly : parity (bits poly) = true) {error : List Bool}
    (herror : parity error = true) : run poly 0#w error ≠ 0#w := by
  intro hzero
  have hparity := parity_run hpoly 0#w error
  rw [hzero, herror, Bool.xor_true] at hparity
  cases h : parity (bits 0#w) <;> rw [h] at hparity <;> cases hparity

end Odd

end CrcRegister
