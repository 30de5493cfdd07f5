import Mathlib.Algebra.BigOperators.Group.Finset.Piecewise
import Mathlib.Data.Fintype.Basic

/-!
# Handing resources over

Some holders own at most one resource each, and a resource has room for one owner. Holders that
trade resources cannot move one by one. Two phases can do it: all who are to move give up what they
own, and then each takes what it is to own. In the second phase every resource is free when its turn
comes. `Towards target pending h` is the invariant of the second phase. The two `foldl` lemmas are
the rules for the phases of a program over any state, given what one of its steps does.

`count h k` is how many own `k`, where a resource has room for more than one. A lock is a resource
of its own: `Guarded l inside` says that those inside have the lock `l`, so that there is at most
one. Where the resources are used up, `Once done h` says that none is used up twice and that none is
owned which has been used up.
-/

abbrev Holding (ι κ : Type*) := ι → Option κ

namespace Holding

variable {ι κ : Type*} {target h : Holding ι κ} {pending : Set ι} {i : ι} {k : κ}

def Exclusive (h : Holding ι κ) : Prop := ∀ ⦃i j k⦄, h i = some k → h j = some k → i = j

/-- Nobody owns `k`. -/
def Free (h : Holding ι κ) (k : κ) : Prop := ∀ i, h i ≠ some k

structure Once (done : List κ) (h : Holding ι κ) : Prop where
  nodup : done.Nodup
  notMem : ∀ ⦃i k⦄, h i = some k → k ∉ done
  exclusive : h.Exclusive

/-- Somebody owns `k`, or it has been used up. -/
def Used (done : List κ) (h : Holding ι κ) (k : κ) : Prop := k ∈ done ∨ ∃ i, h i = some k

/-- How many own `k`. -/
def count [Fintype ι] [DecidableEq κ] (h : Holding ι κ) (k : κ) : Nat :=
  (Finset.univ.filter fun i => h i = some k).card

/-- On the way to `target`: those in `pending` own nothing yet, the others own what they are to
own. -/
structure Towards (target : Holding ι κ) (pending : Set ι) (h : Holding ι κ) : Prop where
  eq_none : ∀ i ∈ pending, h i = none
  eq_target : ∀ i ∉ pending, h i = target i

lemma count_pos [Fintype ι] [DecidableEq κ] (hi : h i = some k) : 0 < count h k :=
  Finset.card_pos.2 ⟨i, by simpa using hi⟩

lemma Towards.free (h' : Towards target pending h) (htarget : target.Exclusive)
    (hi : i ∈ pending) (hk : target i = some k) : h.Free k := by
  intro j hj
  by_cases hjp : j ∈ pending
  · rw [h'.eq_none j hjp] at hj
    cases hj
  · rw [h'.eq_target j hjp] at hj
    exact hjp (htarget hk hj ▸ hi)

lemma Towards.eq_of_empty (h' : Towards target ∅ h) : h = target :=
  funext fun i => h'.eq_target i (Set.notMem_empty i)

section Update

variable [DecidableEq ι] {o : Option κ} {j : ι} {done : List κ}

lemma update_eq_some :
    Function.update h i o j = some k ↔ j = i ∧ o = some k ∨ j ≠ i ∧ h j = some k := by
  by_cases hji : j = i
  · subst hji
    simp
  · simp [hji]

lemma count_update [Fintype ι] [DecidableEq κ] (h : Holding ι κ) (i : ι) (o : Option κ) (k : κ) :
    count (Function.update h i o) k + (if h i = some k then 1 else 0) =
      count h k + (if o = some k then 1 else 0) := by
  have hsum : ∀ f : Holding ι κ, count f k =
      (if f i = some k then 1 else 0) +
        ∑ j ∈ Finset.univ.erase i, if f j = some k then 1 else 0 := by
    intro f
    rw [count, Finset.card_filter]
    exact (Finset.add_sum_erase _ (fun j => if f j = some k then 1 else 0)
      (Finset.mem_univ i)).symm
  have hrest : ∑ j ∈ Finset.univ.erase i, (if Function.update h i o j = some k then 1 else 0) =
      ∑ j ∈ Finset.univ.erase i, if h j = some k then 1 else 0 := by
    refine Finset.sum_congr rfl fun j hj => ?_
    rw [Function.update_of_ne (Finset.ne_of_mem_erase hj)]
  rw [hsum, hsum h, hrest, Function.update_self]
  omega

lemma Free.update_none (h' : h.Free k) : Holding.Free (Function.update h i none) k := by
  intro j hj
  obtain ⟨-, hnone⟩ | ⟨-, hj⟩ := update_eq_some.1 hj
  · cases hnone
  · exact h' j hj

lemma Used.of_update (hu : Used done (Function.update h i o) k) : Used done h k ∨ o = some k := by
  obtain hdone | ⟨j, hj⟩ := hu
  · exact .inl (.inl hdone)
  · obtain ⟨-, ho⟩ | ⟨-, hj⟩ := update_eq_some.1 hj
    · exact .inr ho
    · exact .inl (.inr ⟨j, hj⟩)

lemma Used.of_deliver {m : κ} (hi : h i = some k)
    (hu : Used (done ++ [k]) (Function.update h i none) m) : Used done h m := by
  obtain hm | hj := hu
  · obtain hm | hm := List.mem_append.1 hm
    · exact .inl hm
    · rw [List.mem_singleton.1 hm]
      exact .inr ⟨i, hi⟩
  · have hupdate : Used done (Function.update h i none) m := .inr hj
    exact hupdate.of_update.resolve_right (Option.some_ne_none m ·.symm)

lemma Exclusive.update (h' : h.Exclusive) (hfree : ∀ k, o = some k → h.Free k) :
    Holding.Exclusive (Function.update h i o) := by
  intro j j' k hj hj'
  obtain ⟨hji, ho⟩ | ⟨-, hj⟩ := update_eq_some.1 hj
  · obtain ⟨hji', -⟩ | ⟨-, hj'⟩ := update_eq_some.1 hj'
    · rw [hji, hji']
    · exact absurd hj' (hfree k ho j')
  · obtain ⟨-, ho⟩ | ⟨-, hj'⟩ := update_eq_some.1 hj'
    · exact absurd hj (hfree k ho j)
    · exact h' hj hj'

lemma Once.take (h' : Once done h) (hnew : ∀ k, o = some k → ¬ Used done h k) :
    Once done (Function.update h i o) where
  nodup := h'.nodup
  notMem j k hj := by
    obtain ⟨-, ho⟩ | ⟨-, hj⟩ := update_eq_some.1 hj
    · exact fun hdone => hnew k ho (.inl hdone)
    · exact h'.notMem hj
  exclusive := h'.exclusive.update fun k ho j hj => hnew k ho (.inr ⟨j, hj⟩)

lemma Once.deliver (h' : Once done h) (hi : h i = some k) :
    Once (done ++ [k]) (Function.update h i none) where
  nodup := by
    rw [← List.concat_eq_append]
    exact h'.nodup.concat (h'.notMem hi)
  notMem j m hj := by
    obtain ⟨-, hnone⟩ | ⟨hji, hj⟩ := update_eq_some.1 hj
    · cases hnone
    rw [List.mem_append, List.mem_singleton, not_or]
    refine ⟨h'.notMem hj, ?_⟩
    rintro rfl
    exact hji (h'.exclusive hj hi)
  exclusive := h'.exclusive.update fun k hk => absurd hk (by simp)

lemma Towards.update (h' : Towards target (insert i pending) h) (hi : i ∉ pending) :
    Towards target pending (Function.update h i (target i)) where
  eq_none j hj := by
    have hne : j ≠ i := ne_of_mem_of_not_mem hj hi
    rw [Function.update_of_ne hne]
    exact h'.eq_none j (Set.mem_insert_of_mem i hj)
  eq_target j hj := by
    by_cases hji : j = i
    · rw [hji, Function.update_self]
    · rw [Function.update_of_ne hji]
      exact h'.eq_target j fun hmem => hj (Set.mem_of_mem_insert_of_ne hmem hji)

variable {S : Type*} (bound : S → Holding ι κ) (Inv : S → Prop) (act : S → ι → S) {l : List ι}
  {s : S}

lemma foldl_release
    (hact : ∀ s, Inv s → ∀ i ∈ l,
      bound (act s i) = Function.update (bound s) i none ∧ Inv (act s i))
    (hs : Inv s) :
    (∀ i ∈ l, bound (l.foldl act s) i = none) ∧
      (∀ i ∉ l, bound (l.foldl act s) i = bound s i) ∧ Inv (l.foldl act s) := by
  induction l generalizing s with
  | nil => exact ⟨fun i hi => absurd hi List.not_mem_nil, fun _ _ => rfl, hs⟩
  | cons a l ih =>
    obtain ⟨hbound, hinv⟩ := hact s hs a List.mem_cons_self
    obtain ⟨hnone, hrest, hfinal⟩ :=
      ih (fun s hs i hi => hact s hs i (List.mem_cons_of_mem a hi)) hinv
    refine ⟨fun i hi => ?_, fun i hi => ?_, hfinal⟩
    · by_cases hil : i ∈ l
      · exact hnone i hil
      · obtain rfl : i = a := (List.mem_cons.1 hi).resolve_right hil
        exact (hrest i hil).trans (by rw [hbound, Function.update_self])
    · rw [List.mem_cons, not_or] at hi
      exact (hrest i hi.2).trans (by rw [hbound, Function.update_of_ne hi.1])

lemma towards_foldl_release
    (hact : ∀ s, Inv s → ∀ i ∈ l,
      bound (act s i) = Function.update (bound s) i none ∧ Inv (act s i))
    (hs : Inv s) (hstay : ∀ i ∉ l, bound s i = target i) :
    Towards target {i | i ∈ l} (bound (l.foldl act s)) ∧ Inv (l.foldl act s) := by
  obtain ⟨hnone, hrest, hinv⟩ := foldl_release bound Inv act hact hs
  exact ⟨⟨hnone, fun i hi => (hrest i hi).trans (hstay i hi)⟩, hinv⟩

lemma foldl_acquire
    (hact : ∀ s, Inv s → ∀ i ∈ l, bound s i = none →
      (∀ k, target i = some k → (bound s).Free k) →
        bound (act s i) = Function.update (bound s) i (target i) ∧ Inv (act s i))
    (htarget : target.Exclusive) (hl : l.Nodup) (hs : Inv s)
    (h' : Towards target {i | i ∈ l} (bound s)) :
    bound (l.foldl act s) = target ∧ Inv (l.foldl act s) := by
  induction l generalizing s with
  | nil =>
    refine ⟨Towards.eq_of_empty ?_, hs⟩
    simpa using h'
  | cons a l ih =>
    have hpending : {i | i ∈ a :: l} = insert a {i | i ∈ l} := by
      ext i
      simp
    obtain ⟨ha, hl⟩ := List.nodup_cons.1 hl
    have hmem : a ∈ {i | i ∈ a :: l} := List.mem_cons_self
    obtain ⟨hbound, hinv⟩ :=
      hact s hs a List.mem_cons_self (h'.eq_none a hmem) fun _ hk => h'.free htarget hmem hk
    rw [hpending] at h'
    refine ih (fun s hs i hi => hact s hs i (List.mem_cons_of_mem a hi)) hl hinv ?_
    rw [hbound]
    exact h'.update ha

end Update

end Holding

/-! ## Locks -/

section Lock

variable {ι : Type*} {l l' : Option ι} {inside inside' : ι → Prop} {i j : ι}

def Guarded (l : Option ι) (inside : ι → Prop) : Prop := ∀ i, inside i → l = some i

lemma Guarded.eq (h : Guarded l inside) (hi : inside i) (hj : inside j) : i = j :=
  Option.some.inj ((h i hi).symm.trans (h j hj))

lemma Guarded.step (h : Guarded l inside) (hothers : ∀ j, j ≠ i → inside' j → inside j)
    (hi : inside' i → l' = some i) (hl : l' = l ∨ l = none ∨ l = some i) : Guarded l' inside' := by
  intro j hj
  by_cases hji : j = i
  · subst hji
    exact hi hj
  have hlj : l = some j := h j (hothers j hji hj)
  obtain hl | hl | hl := hl
  · rw [hl, hlj]
  · rw [hlj] at hl
    cases hl
  · exact absurd (Option.some.inj (hlj.symm.trans hl)) hji

end Lock
