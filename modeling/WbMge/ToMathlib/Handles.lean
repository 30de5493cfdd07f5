import WbMge.ToMathlib.Holding

/-!
# Numbers that are used again

A pool gives out objects under numbers: addresses of memory, descriptors of files or sockets. A
number is used again once its object is gone. A `Handle` is the number together with the count of
the object, which programs do not have: `close n` takes away whatever object has the number `n` now
(`at? n`). A handle that was taken away does not come back (`Gone`).

`Owned P h` says that the holders in `h` own objects of the pool, each its own. It stays so when a
holder makes an object or closes its own.

An `Estate` is a pool that a party shares with others. `Ledger w closed h` says that of the objects
which the party has ever made, each is owned by one of its holders, or was closed, once.
-/

namespace Handles

structure Handle where
  id : Nat
  num : Nat
deriving Repr, DecidableEq

/-- The live handles: no two have one number. -/
structure Pool where
  live : List Handle
  next : Nat
  id_lt : ∀ x ∈ live, x.id < next
  nodup : (live.map Handle.num).Nodup

namespace Pool

def empty : Pool where
  live := []
  next := 0
  id_lt := List.forall_mem_nil _
  nodup := List.nodup_nil

instance : Membership Handle Pool := ⟨fun P x => x ∈ P.live⟩

variable {P : Pool} {x y : Handle} {n m : Nat}

lemma mem_def : x ∈ P ↔ x ∈ P.live := .rfl

instance : Decidable (x ∈ P) := inferInstanceAs (Decidable (x ∈ P.live))

def Fresh (P : Pool) (n : Nat) : Prop := n ∉ P.live.map Handle.num
deriving Decidable

/-- The next object, under the number `n`. -/
def newest (P : Pool) (n : Nat) : Handle := ⟨P.next, n⟩

lemma id_lt_succ_of_mem_cons (P : Pool) (n : Nat) :
    ∀ x ∈ P.newest n :: P.live, x.id < P.next + 1 := by
  intro x hx
  obtain rfl | hx := List.mem_cons.1 hx
  · exact Nat.lt_succ_self _
  · exact Nat.lt_succ_of_lt (P.id_lt x hx)

lemma nodup_map_cons (h : P.Fresh n) : ((P.newest n :: P.live).map Handle.num).Nodup :=
  List.nodup_cons.2 ⟨h, P.nodup⟩

def «open» (P : Pool) (n : Nat) (h : P.Fresh n) : Pool where
  live := P.newest n :: P.live
  next := P.next + 1
  id_lt := P.id_lt_succ_of_mem_cons n
  nodup := nodup_map_cons h

lemma id_lt_of_mem_filter (P : Pool) (n : Nat) :
    ∀ x ∈ P.live.filter (·.num != n), x.id < P.next :=
  fun x hx => P.id_lt x (List.mem_of_mem_filter hx)

lemma nodup_map_filter (P : Pool) (n : Nat) :
    ((P.live.filter (·.num != n)).map Handle.num).Nodup :=
  P.nodup.sublist ((List.filter_sublist ..).map _)

def close (P : Pool) (n : Nat) : Pool where
  live := P.live.filter (·.num != n)
  next := P.next
  id_lt := P.id_lt_of_mem_filter n
  nodup := P.nodup_map_filter n

def at? (P : Pool) (n : Nat) : Option Handle := P.live.find? (·.num == n)

lemma mem_open {h : P.Fresh n} : x ∈ P.open n h ↔ x = P.newest n ∨ x ∈ P :=
  List.mem_cons

lemma mem_close : x ∈ P.close n ↔ x ∈ P ∧ x.num ≠ n := by
  rw [mem_def, close, List.mem_filter, bne_iff_ne, ← mem_def]

lemma eq_of_num_eq (hx : x ∈ P) (hy : y ∈ P) (h : x.num = y.num) : x = y :=
  List.inj_on_of_nodup_map P.nodup hx hy h

lemma at?_num (hx : x ∈ P) : P.at? x.num = some x := by
  cases h : P.at? x.num with
  | none => exact absurd (List.find?_eq_none.1 h x hx) (by simp)
  | some y =>
    have hnum : y.num = x.num := by simpa using List.find?_some h
    rw [eq_of_num_eq (List.mem_of_find?_eq_some h) hx hnum]

lemma newest_notMem (P : Pool) (n : Nat) : P.newest n ∉ P :=
  fun h => Nat.lt_irrefl _ (P.id_lt _ h)

def Gone (P : Pool) (x : Handle) : Prop := x ∉ P ∧ x.id < P.next

lemma gone_close (hx : x ∈ P) : (P.close x.num).Gone x :=
  ⟨fun h => (mem_close.1 h).2 rfl, P.id_lt x hx⟩

lemma Gone.open (hx : P.Gone x) (h : P.Fresh n) : (P.open n h).Gone x := by
  refine ⟨fun hmem => ?_, Nat.lt_succ_of_lt hx.2⟩
  obtain rfl | hmem := mem_open.1 hmem
  · exact Nat.lt_irrefl _ hx.2
  · exact hx.1 hmem

lemma Gone.close (hx : P.Gone x) : (P.close n).Gone x :=
  ⟨fun h => hx.1 (mem_close.1 h).1, hx.2⟩

end Pool

structure Owned {ι : Type*} (P : Pool) (h : Holding ι Handle) : Prop where
  mem : ∀ ⦃i x⦄, h i = some x → x ∈ P
  exclusive : h.Exclusive

section Owned

variable {ι : Type*} [DecidableEq ι] {P : Pool} {h : Holding ι Handle} {i : ι} {x : Handle}
  {n : Nat}

lemma Owned.open (ho : Owned P h) (hn : P.Fresh n) :
    Owned (P.open n hn) (Function.update h i (some (P.newest n))) where
  mem j y hj := by
    rw [Pool.mem_open]
    obtain ⟨-, hy⟩ | ⟨-, hj⟩ := Holding.update_eq_some.1 hj
    · exact .inl (Option.some.inj hy).symm
    · exact .inr (ho.mem hj)
  exclusive := by
    refine ho.exclusive.update ?_
    rintro _ ⟨⟩ j hj
    exact P.newest_notMem n (ho.mem hj)

lemma Owned.close (ho : Owned P h) (hi : h i = some x) :
    Owned (P.close x.num) (Function.update h i none) where
  mem j y hj := by
    obtain ⟨-, hnone⟩ | ⟨hji, hj⟩ := Holding.update_eq_some.1 hj
    · cases hnone
    · refine Pool.mem_close.2 ⟨ho.mem hj, fun hnum => hji ?_⟩
      obtain rfl := Pool.eq_of_num_eq (ho.mem hj) (ho.mem hi) hnum
      exact ho.exclusive hj hi
  exclusive := ho.exclusive.update fun k hk => absurd hk (by simp)

end Owned

/-! ## Objects of one party among those of others -/

structure Estate where
  pool : Pool
  ours : List Handle

namespace Estate

def empty : Estate := ⟨.empty, []⟩

def «open» (w : Estate) (n : Nat) (h : w.pool.Fresh n) : Estate :=
  ⟨w.pool.open n h, w.ours ++ [w.pool.newest n]⟩

def close (w : Estate) (n : Nat) : Estate := ⟨w.pool.close n, w.ours⟩

/-- The others make an object, or take away what has the number, if it is not the party's. -/
inductive Deed where
  | opens (n : Nat)
  | closes (n : Nat)
deriving Repr, DecidableEq

def others (w : Estate) : Deed → Option Estate
  | .opens n => if h : w.pool.Fresh n then some ⟨w.pool.open n h, w.ours⟩ else none
  | .closes n =>
    if (w.pool.at? n).any (· ∈ w.ours) then none else some ⟨w.pool.close n, w.ours⟩

end Estate

structure Ledger {ι : Type*} (w : Estate) (closed : List Handle) (h : Holding ι Handle) : Prop where
  owned : Owned w.pool h
  ours : ∀ ⦃i x⦄, h i = some x → x ∈ w.ours
  settled : ∀ x ∈ w.ours, x ∈ closed ∨ ∃ i, h i = some x
  gone : ∀ x ∈ closed, w.pool.Gone x
  nodup : closed.Nodup

namespace Ledger

variable {ι : Type*} {w w' : Estate} {closed : List Handle} {h : Holding ι Handle} {i j : ι}
  {x : Handle} {n : Nat}

lemma init : Ledger Estate.empty [] (fun _ : ι => none) where
  owned := ⟨by simp, by simp [Holding.Exclusive]⟩
  ours := by simp
  settled := by simp [Estate.empty]
  gone := by simp
  nodup := List.nodup_nil

lemma notMem_closed (hl : Ledger w closed h) (hi : h i = some x) : x ∉ closed :=
  fun hx => (hl.gone x hx).1 (hl.owned.mem hi)

lemma count_eq_one (hl : Ledger w closed h) (hfree : ∀ i, h i = none) (hx : x ∈ w.ours) :
    closed.count x = 1 := by
  obtain hx | ⟨i, hi⟩ := hl.settled x hx
  · exact List.count_eq_one_of_mem hl.nodup hx
  · rw [hfree i] at hi
    cases hi

lemma others {d : Estate.Deed} (hl : Ledger w closed h) (hd : w.others d = some w') :
    Ledger w' closed h ∧ w'.ours = w.ours := by
  cases d with
  | opens n =>
    simp only [Estate.others, Option.dite_none_right_eq_some] at hd
    obtain ⟨hn, hd⟩ := hd
    cases hd
    refine ⟨⟨⟨fun i x hi => ?_, hl.owned.exclusive⟩,
      hl.ours, hl.settled, fun x hx => (hl.gone x hx).open hn, hl.nodup⟩, rfl⟩
    exact (Pool.mem_open (h := hn)).2 (.inr (hl.owned.mem hi))
  | closes n =>
    simp only [Estate.others, Option.ite_none_left_eq_some] at hd
    obtain ⟨hn, hd⟩ := hd
    cases hd
    refine ⟨⟨⟨fun i x hi => ?_, hl.owned.exclusive⟩,
      hl.ours, hl.settled, fun x hx => (hl.gone x hx).close, hl.nodup⟩, rfl⟩
    -- the number is not that of an object of the party
    refine Pool.mem_close.2 ⟨hl.owned.mem hi, ?_⟩
    rintro rfl
    rw [Pool.at?_num (hl.owned.mem hi)] at hn
    exact hn (by simpa using hl.ours hi)

variable [DecidableEq ι]

lemma «open» (hl : Ledger w closed h) (hn : w.pool.Fresh n) (hi : h i = none) :
    Ledger (w.open n hn) closed (Function.update h i (some (w.pool.newest n))) where
  owned := hl.owned.open hn
  ours j x hj := by
    obtain ⟨-, hx⟩ | ⟨-, hj⟩ := Holding.update_eq_some.1 hj
    · exact List.mem_append.2 (.inr (by simpa using hx.symm))
    · exact List.mem_append.2 (.inl (hl.ours hj))
  settled x hx := by
    obtain hx | hx := List.mem_append.1 hx
    · refine (hl.settled x hx).imp_right fun ⟨j, hj⟩ => ⟨j, ?_⟩
      have hji : j ≠ i := by
        rintro rfl
        rw [hi] at hj
        cases hj
      rw [Function.update_of_ne hji, hj]
    · obtain rfl := List.mem_singleton.1 hx
      exact .inr ⟨i, Function.update_self ..⟩
  gone x hx := (hl.gone x hx).open hn
  nodup := hl.nodup

lemma close (hl : Ledger w closed h) (hi : h i = some x) :
    Ledger (w.close x.num) (closed ++ [x]) (Function.update h i none) where
  owned := hl.owned.close hi
  ours j y hj := by
    obtain ⟨-, hnone⟩ | ⟨-, hj⟩ := Holding.update_eq_some.1 hj
    · cases hnone
    · exact hl.ours hj
  settled y hy := by
    obtain hy | ⟨j, hj⟩ := hl.settled y hy
    · exact .inl (List.mem_append.2 (.inl hy))
    by_cases hji : j = i
    · subst hji
      obtain rfl : x = y := Option.some.inj (hi.symm.trans hj)
      exact .inl (List.mem_append.2 (.inr (List.mem_singleton_self x)))
    · exact .inr ⟨j, by rw [Function.update_of_ne hji, hj]⟩
  gone y hy := by
    obtain hy | hy := List.mem_append.1 hy
    · exact (hl.gone y hy).close
    · rw [List.mem_singleton.1 hy]
      exact Pool.gone_close (hl.owned.mem hi)
  nodup := by
    rw [← List.concat_eq_append]
    exact hl.nodup.concat (hl.notMem_closed hi)

lemma move (hl : Ledger w closed h) (hi : h i = some x) (hj : h j = none) :
    Ledger w closed (Function.update (Function.update h i none) j (some x)) := by
  have hmoved : ∀ ⦃k y⦄, Function.update (Function.update h i none) j (some x) k = some y →
      ∃ k', h k' = some y := by
    intro k y hk
    obtain ⟨-, hy⟩ | ⟨-, hk⟩ := Holding.update_eq_some.1 hk
    · exact ⟨i, hi.trans hy⟩
    · obtain ⟨-, hnone⟩ | ⟨-, hk⟩ := Holding.update_eq_some.1 hk
      · cases hnone
      · exact ⟨k, hk⟩
  refine ⟨⟨fun k y hk => ?_, ?_⟩, fun k y hk => ?_, fun y hy => ?_, hl.gone, hl.nodup⟩
  · obtain ⟨k', hk'⟩ := hmoved hk
    exact hl.owned.mem hk'
  · refine (hl.owned.exclusive.update (by simp)).update ?_
    rintro _ ⟨⟩ k hk
    obtain ⟨-, hnone⟩ | ⟨hki, hk⟩ := Holding.update_eq_some.1 hk
    · cases hnone
    · exact hki (hl.owned.exclusive hk hi)
  · obtain ⟨k', hk'⟩ := hmoved hk
    exact hl.ours hk'
  · refine (hl.settled y hy).imp_right fun ⟨k, hk⟩ => ?_
    by_cases hki : k = i
    · subst hki
      exact ⟨j, by rw [Function.update_self, ← hi, hk]⟩
    have hkj : k ≠ j := by
      rintro rfl
      rw [hj] at hk
      cases hk
    exact ⟨k, by rw [Function.update_of_ne hkj, Function.update_of_ne hki, hk]⟩

end Ledger

end Handles
