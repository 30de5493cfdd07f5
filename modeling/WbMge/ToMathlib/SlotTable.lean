import Mathlib.Data.Finmap

/-!
# Slot tables

A fixed array of slots, each free or holding one key, searched from the front with an early exit at
the first free slot. Such a table is a bounded finite map as long as the used slots form a prefix of
the array and no key is held twice: the early exit then hides nothing.

The slots are a list over an arbitrary type `σ`. What a slot holds is read through `key`, which is
`none` on a free slot, and `val`.
-/

namespace SlotTable

variable {σ κ β : Type*}

/-! ## Bounded maps -/

section BoundedMap

variable [DecidableEq κ]

/-- Write `k` into a map that may hold at most `cap` keys; a new key is refused at the bound. -/
def insertBounded (cap : ℕ) (k : κ) (v : β) (m : Finmap fun _ : κ => β) :
    Option (Finmap fun _ : κ => β) :=
  if k ∈ m ∨ m.keys.card < cap then some (m.insert k v) else none

def insertWhile (cap : ℕ) :
    List (κ × β) → (Finmap fun _ : κ => β) → Finmap fun _ : κ => β
  | [], m => m
  | (k, v) :: kvs, m =>
    match insertBounded cap k v m with
    | none => m
    | some m' => insertWhile cap kvs m'

lemma keys_insert (k : κ) (v : β) (m : Finmap fun _ : κ => β) :
    (m.insert k v).keys = insert k m.keys := by
  ext k'
  rw [Finmap.mem_keys, Finmap.mem_insert, Finset.mem_insert, Finmap.mem_keys]

variable {cap : ℕ}

lemma insertBounded_eq_some {k : κ} {v : β} {m : Finmap fun _ : κ => β}
    (hfit : (insert k m.keys).card ≤ cap) : insertBounded cap k v m = some (m.insert k v) := by
  refine if_pos ?_
  by_cases hk : k ∈ m
  · exact Or.inl hk
  · right
    rw [Finset.card_insert_of_notMem (mt Finmap.mem_keys.1 hk)] at hfit
    exact hfit

lemma eq_insert_of_insertBounded {k : κ} {v : β} {m m' : Finmap fun _ : κ => β}
    (h : insertBounded cap k v m = some m') : m' = m.insert k v := by
  rw [insertBounded] at h
  split at h <;> cases h
  rfl

lemma lookup_insertWhile_of_notMem {k : κ} :
    ∀ {kvs : List (κ × β)} {m : Finmap fun _ : κ => β}, k ∉ kvs.map Prod.fst →
      (insertWhile cap kvs m).lookup k = m.lookup k
  | [], _, _ => rfl
  | (k', v) :: kvs, m, hk => by
    rw [List.map_cons, List.mem_cons, not_or] at hk
    rw [insertWhile]
    split
    · rfl
    · rename_i m' hm'
      rw [eq_insert_of_insertBounded hm', lookup_insertWhile_of_notMem hk.2,
        Finmap.lookup_insert_of_ne _ hk.1]

lemma lookup_insertWhile :
    ∀ {kvs : List (κ × β)} {m : Finmap fun _ : κ => β}, (kvs.map Prod.fst).Nodup →
      (m.keys ∪ (kvs.map Prod.fst).toFinset).card ≤ cap →
      ∀ kv ∈ kvs, (insertWhile cap kvs m).lookup kv.1 = some kv.2
  | [], _, _, _, kv, hkv => absurd hkv List.not_mem_nil
  | (k, v) :: kvs, m, hnd, hfit, kv, hkv => by
    rw [List.map_cons, List.nodup_cons] at hnd
    rw [List.map_cons, List.toFinset_cons, Finset.union_insert, ← Finset.insert_union] at hfit
    -- the head fits, and writing it leaves the bound for the tail as it was
    have hhead : insertBounded cap k v m = some (m.insert k v) :=
      insertBounded_eq_some ((Finset.card_le_card Finset.subset_union_left).trans hfit)
    rw [← keys_insert k v m] at hfit
    rw [insertWhile, hhead]
    rcases List.mem_cons.1 hkv with rfl | hkv
    · exact (lookup_insertWhile_of_notMem hnd.1).trans (Finmap.lookup_insert m)
    · exact lookup_insertWhile hnd.2 hfit kv hkv

lemma keys_insertWhile {kvs : List (κ × β)} {m : Finmap fun _ : κ => β}
    (hnd : (kvs.map Prod.fst).Nodup) (hfit : (m.keys ∪ (kvs.map Prod.fst).toFinset).card ≤ cap) :
    (insertWhile cap kvs m).keys = m.keys ∪ (kvs.map Prod.fst).toFinset := by
  ext k
  rw [Finset.mem_union, List.mem_toFinset, Finmap.mem_keys, Finmap.mem_keys]
  by_cases hk : k ∈ kvs.map Prod.fst
  · obtain ⟨kv, hkv, rfl⟩ := List.mem_map.1 hk
    exact iff_of_true (Finmap.mem_iff.2 ⟨kv.2, lookup_insertWhile hnd hfit kv hkv⟩) (Or.inr hk)
  · rw [or_iff_left hk]
    simp only [Finmap.mem_iff, lookup_insertWhile_of_notMem hk]

/-- The number of pairs `insertWhile` writes before one is refused. -/
def accepted (cap : ℕ) : List (κ × β) → (Finmap fun _ : κ => β) → ℕ
  | [], _ => 0
  | (k, v) :: kvs, m =>
    match insertBounded cap k v m with
    | none => 0
    | some m' => accepted cap kvs m' + 1

lemma accepted_le (cap : ℕ) :
    ∀ (kvs : List (κ × β)) (m : Finmap fun _ : κ => β), accepted cap kvs m ≤ kvs.length
  | [], _ => le_refl 0
  | (k, v) :: kvs, m => by
    rw [accepted]
    split
    · exact Nat.zero_le _
    · exact Nat.succ_le_succ (accepted_le cap kvs _)

lemma insertWhile_take_accepted (cap : ℕ) :
    ∀ (kvs : List (κ × β)) (m : Finmap fun _ : κ => β),
      insertWhile cap (kvs.take (accepted cap kvs m)) m = insertWhile cap kvs m
  | [], _ => rfl
  | (k, v) :: kvs, m => by
    rw [accepted, insertWhile]
    split
    · rfl
    · rename_i m' hm'
      rw [List.take_succ_cons, insertWhile, hm']
      exact insertWhile_take_accepted cap kvs m'

lemma lookup_insertWhile_of_lt :
    ∀ {kvs : List (κ × β)} {m : Finmap fun _ : κ => β}, (kvs.map Prod.fst).Nodup →
      ∀ {j : ℕ} {kv : κ × β}, kvs[j]? = some kv → j < accepted cap kvs m →
        (insertWhile cap kvs m).lookup kv.1 = some kv.2
  | [], _, _, _, _, hj, _ => by simp at hj
  | (k, v) :: kvs, m, hnd, j, kv, hj, hlt => by
    rw [List.map_cons, List.nodup_cons] at hnd
    rw [accepted] at hlt
    rw [insertWhile]
    split at hlt
    · exact absurd hlt (Nat.not_lt_zero j)
    rename_i m' hm'
    cases j with
    | zero =>
      -- nothing behind the pair writes its key again
      obtain rfl : (k, v) = kv := by simpa using hj
      rw [lookup_insertWhile_of_notMem hnd.1, eq_insert_of_insertBounded hm',
        Finmap.lookup_insert]
    | succ j =>
      exact lookup_insertWhile_of_lt hnd.2 (by simpa using hj) (Nat.lt_of_succ_lt_succ hlt)

lemma lt_accepted_iff {cap : ℕ} :
    ∀ {kvs : List (κ × β)} {m : Finmap fun _ : κ => β}, (kvs.map Prod.fst).Nodup →
      m.keys.card ≤ cap → ∀ {j : ℕ} {kv : κ × β}, kvs[j]? = some kv → kv.1 ∈ m →
        (j < accepted cap kvs m ↔
          m.keys.card + (kvs.take j).countP (fun kv => decide (kv.1 ∉ m)) ≤ cap)
  | [], _, _, _, _, _, hj, _ => by simp at hj
  | (k, v) :: kvs, m, hnd, hcap, j, kv, hj, hkv => by
    rw [List.map_cons, List.nodup_cons] at hnd
    -- writing the head changes which keys are new for no other pair
    have hmem : ∀ kv' ∈ kvs, (kv'.1 ∈ m.insert k v ↔ kv'.1 ∈ m) := fun kv' hkv' => by
      rw [Finmap.mem_insert, or_iff_right]
      rintro rfl
      exact hnd.1 (List.mem_map.2 ⟨kv', hkv', rfl⟩)
    rw [accepted, insertBounded]
    cases j with
    | zero =>
      obtain rfl : (k, v) = kv := by simpa using hj
      rw [if_pos (Or.inl hkv)]
      simpa using hcap
    | succ j =>
      have hj' : kvs[j]? = some kv := by simpa using hj
      have hcount : (kvs.take j).countP (fun kv => decide (kv.1 ∉ m.insert k v)) =
          (kvs.take j).countP (fun kv => decide (kv.1 ∉ m)) :=
        List.countP_congr fun kv' hkv' => by simp [hmem kv' (List.mem_of_mem_take hkv')]
      have ih := @lt_accepted_iff cap kvs (m.insert k v) hnd.2
      rw [keys_insert] at ih
      rw [List.take_succ_cons, List.countP_cons]
      by_cases hk : k ∈ m
      · rw [Finset.insert_eq_of_mem (Finmap.mem_keys.2 hk)] at ih
        rw [if_pos (Or.inl hk)]
        have := ih hcap hj' ((hmem kv (List.mem_of_getElem? hj')).2 hkv)
        rw [hcount] at this
        simpa [hk] using this
      · rw [Finset.card_insert_of_notMem (mt Finmap.mem_keys.1 hk)] at ih
        by_cases hroom : m.keys.card < cap
        · rw [if_pos (Or.inr hroom)]
          have := ih hroom hj' ((hmem kv (List.mem_of_getElem? hj')).2 hkv)
          rw [hcount] at this
          simp only [Nat.add_lt_add_iff_right, this, hk, not_false_eq_true, decide_true, if_true]
          omega
        · rw [if_neg (not_or.2 ⟨hk, hroom⟩)]
          simp only [hk, not_false_eq_true, decide_true, if_true]
          omega

end BoundedMap

/-! ## Well-formed tables -/

variable (key : σ → Option κ) (val : σ → β)

structure WellFormed (l : List σ) : Prop where
  dense : l.Pairwise fun a b => key b ≠ none → key a ≠ none
  distinct : (l.filterMap key).Nodup

variable {key}

variable {e e' new : σ} {es l l' l₁ l₂ : List σ} {k : κ} {m : Finmap fun _ : κ => β} {upd : σ → σ}

lemma WellFormed.free_of_head (h : WellFormed key (e :: es)) (he : key e = none) :
    ∀ x ∈ es, key x = none := by
  intro x hx
  by_contra hxk
  exact (List.pairwise_cons.1 h.dense).1 x hx hxk he

lemma WellFormed.sublist (h : WellFormed key l) (hsub : l'.Sublist l) : WellFormed key l' :=
  ⟨h.dense.sublist hsub, h.distinct.sublist (hsub.filterMap key)⟩

lemma WellFormed.tail (h : WellFormed key (e :: es)) : WellFormed key es :=
  h.sublist (List.sublist_cons_self e es)

lemma WellFormed.nodup_map (h : WellFormed key l) (hused : ∀ x ∈ l, key x ≠ none) :
    (l.map key).Nodup := by
  have hsome : (l.filterMap key).map some = l.map key := by
    rw [List.map_filterMap_some_eq_filter_map_isSome, List.filter_eq_self]
    intro o ho
    obtain ⟨x, hx, rfl⟩ := List.mem_map.1 ho
    exact Option.isSome_iff_ne_none.2 (hused x hx)
  rw [← hsome]
  exact h.distinct.map (Option.some_injective κ)

lemma WellFormed.head_notMem (h : WellFormed key (e :: es)) (he : key e = some k) :
    ∀ x ∈ es, key x ≠ some k := by
  intro x hx hxk
  have hd := h.distinct
  rw [List.filterMap_cons_some he] at hd
  exact (List.nodup_cons.1 hd).1 (List.mem_filterMap.2 ⟨x, hx, hxk⟩)

lemma WellFormed.exists_take_drop :
    ∀ {l : List σ}, WellFormed key l →
      ∃ n, (∀ e ∈ l.take n, key e ≠ none) ∧ ∀ e ∈ l.drop n, key e = none
  | [], _ => ⟨0, by simp, by simp⟩
  | x :: xs, h => by
    cases hx : key x with
    | none => exact ⟨0, by simp, List.forall_mem_cons.2 ⟨hx, h.free_of_head hx⟩⟩
    | some k =>
      obtain ⟨n, hused, hfree⟩ := h.tail.exists_take_drop
      refine ⟨n + 1, ?_, hfree⟩
      rw [List.take_succ_cons]
      exact List.forall_mem_cons.2 ⟨by simp [hx], hused⟩

lemma WellFormed.ne_of_mem_behind (h : WellFormed key (l₁ ++ e :: l₂))
    (he : key e = none ∨ key e = some k) : ∀ x ∈ l₂, key x ≠ some k := by
  intro x hx hxk
  rcases he with he | he
  · -- behind a free slot everything is free
    obtain ⟨-, hbehind, -⟩ := List.pairwise_append.1 h.dense
    exact (List.pairwise_cons.1 hbehind).1 x hx (by simp [hxk]) he
  · have hnodup := h.distinct
    rw [List.filterMap_append, List.filterMap_cons_some he, List.nodup_middle,
      List.nodup_cons] at hnodup
    exact hnodup.1 (List.mem_append_right _ (List.mem_filterMap.2 ⟨x, hx, hxk⟩))

lemma WellFormed.replace (h : WellFormed key (l₁ ++ e :: l₂))
    (hl₁ : ∀ x ∈ l₁, key x ≠ none ∧ key x ≠ some k) (he : key e = none ∨ key e = some k)
    (he' : key e' = some k) : WellFormed key (l₁ ++ e' :: l₂) where
  dense := by
    obtain ⟨-, hbehind, -⟩ := List.pairwise_append.1 h.dense
    rw [List.pairwise_append, List.pairwise_cons]
    refine ⟨?_, ⟨fun _ _ _ => by simp [he'], (List.pairwise_cons.1 hbehind).2⟩,
      fun x hx _ _ _ => (hl₁ x hx).1⟩
    exact List.pairwise_of_forall_mem_list fun x hx _ _ _ => (hl₁ x hx).1
  distinct := by
    rw [List.filterMap_append, List.filterMap_cons_some he', List.nodup_middle, List.nodup_cons]
    constructor
    · intro hk
      rcases List.mem_append.1 hk with hk | hk
      · obtain ⟨x, hx, hxk⟩ := List.mem_filterMap.1 hk
        exact (hl₁ x hx).2 hxk
      · obtain ⟨x, hx, hxk⟩ := List.mem_filterMap.1 hk
        exact h.ne_of_mem_behind he x hx hxk
    · -- the other keys are those of the old table without the slot
      rw [← List.filterMap_append]
      refine h.distinct.sublist (List.Sublist.filterMap _ ?_)
      exact (List.Sublist.refl l₁).append (List.sublist_cons_self e l₂)

lemma WellFormed.mem_replace {x : σ} (h : WellFormed key (l₁ ++ e :: l₂))
    (hl₁ : ∀ x ∈ l₁, key x ≠ none ∧ key x ≠ some k) (he : key e = none ∨ key e = some k)
    (hx : x ∈ l₁ ++ e' :: l₂) : x = e' ∨ x ∈ l₁ ++ e :: l₂ ∧ key x ≠ some k := by
  rcases List.mem_append.1 hx with hx | hx
  · exact Or.inr ⟨List.mem_append_left _ hx, (hl₁ x hx).2⟩
  rcases List.mem_cons.1 hx with rfl | hx
  · exact Or.inl rfl
  · exact Or.inr ⟨List.mem_append_right _ (List.mem_cons_of_mem _ hx),
      h.ne_of_mem_behind he x hx⟩

/-! ## Search -/

variable [DecidableEq κ] (key)

/-- Search for `k` from the front, giving up at the first free slot. -/
def find (k : κ) : List σ → Option σ
  | [] => none
  | e :: es =>
    match key e with
    | none => none
    | some k' => if k' = k then some e else find k es

/-- Write `k`: change the slot that holds it, or put `new` into the first free slot. -/
def upsert (k : κ) (new : σ) (upd : σ → σ) : List σ → Option (List σ)
  | [] => none
  | e :: es =>
    match key e with
    | none => some (new :: es)
    | some k' => if k' = k then some (upd e :: es) else (upsert k new upd es).map (e :: ·)

/-- The table `l` holds exactly the map `m`. -/
structure Represents (l : List σ) (m : Finmap fun _ : κ => β) : Prop where
  wellFormed : WellFormed key l
  lookup_of_mem : ∀ e ∈ l, ∀ k, key e = some k → m.lookup k = some (val e)
  mem_of_mem : ∀ k ∈ m, ∃ e ∈ l, key e = some k

variable {key val}

lemma WellFormed.find_eq_some_iff :
    ∀ {l : List σ}, WellFormed key l → (find key k l = some e ↔ e ∈ l ∧ key e = some k)
  | [], _ => by simp [find]
  | x :: xs, h => by
    rw [find, List.mem_cons]
    cases hx : key x with
    | none =>
      -- the search stops here, and all slots behind are free as well
      have hfree := h.free_of_head hx
      simp only [reduceCtorEq, false_iff, not_and]
      rintro (rfl | he) hek
      · rw [hx] at hek; cases hek
      · rw [hfree e he] at hek; cases hek
    | some k' =>
      dsimp only
      split
      · rename_i hk
        subst hk
        rw [Option.some.injEq]
        constructor
        · rintro rfl
          exact ⟨Or.inl rfl, hx⟩
        · rintro ⟨rfl | he, hek⟩
          · rfl
          · exact absurd hek (h.head_notMem hx e he)
      · rename_i hk
        rw [h.tail.find_eq_some_iff]
        constructor
        · exact fun ⟨he, hek⟩ => ⟨Or.inr he, hek⟩
        · rintro ⟨rfl | he, hek⟩
          · exact absurd (Option.some.inj (hx.symm.trans hek)) hk
          · exact ⟨he, hek⟩

lemma Represents.find_eq (h : Represents key val l m) (k : κ) :
    (find key k l).map val = m.lookup k := by
  cases hf : find key k l with
  | some e =>
    obtain ⟨he, hk⟩ := h.wellFormed.find_eq_some_iff.1 hf
    exact (h.lookup_of_mem e he k hk).symm
  | none =>
    symm
    rw [Option.map_none, Finmap.lookup_eq_none]
    intro hk
    obtain ⟨e, he, hek⟩ := h.mem_of_mem k hk
    rw [h.wellFormed.find_eq_some_iff.2 ⟨he, hek⟩] at hf
    cases hf

lemma Represents.keys_eq (h : Represents key val l m) : m.keys = (l.filterMap key).toFinset := by
  ext k
  rw [Finmap.mem_keys, List.mem_toFinset, List.mem_filterMap]
  constructor
  · exact fun hk => h.mem_of_mem k hk
  · rintro ⟨e, he, hk⟩
    exact Finmap.mem_iff.2 ⟨val e, h.lookup_of_mem e he k hk⟩

lemma Represents.card_keys (h : Represents key val l m) :
    m.keys.card = (l.filterMap key).length := by
  rw [h.keys_eq, List.toFinset_card_of_nodup h.wellFormed.distinct]

lemma represents_empty (h : ∀ e ∈ l, key e = none) :
    Represents key val l (∅ : Finmap fun _ : κ => β) where
  wellFormed :=
    { dense := List.pairwise_of_forall_mem_list fun _ _ b hb hk => absurd (h b hb) hk
      distinct := by rw [List.filterMap_eq_nil_iff.2 h]; exact List.nodup_nil }
  lookup_of_mem e he k hk := by rw [h e he] at hk; cases hk
  mem_of_mem k hk := absurd hk Finmap.notMem_empty

/-! ## Writing -/

lemma upsert_cases (key : σ → Option κ) (k : κ) (new : σ) (upd : σ → σ) :
    ∀ l : List σ,
      (upsert key k new upd l = none ∧ ∀ x ∈ l, key x ≠ none ∧ key x ≠ some k) ∨
      ∃ l₁ e l₂, l = l₁ ++ e :: l₂ ∧ (∀ x ∈ l₁, key x ≠ none ∧ key x ≠ some k) ∧
        (key e = none ∧ upsert key k new upd l = some (l₁ ++ new :: l₂) ∨
          key e = some k ∧ upsert key k new upd l = some (l₁ ++ upd e :: l₂))
  | [] => Or.inl ⟨rfl, fun _ hx => absurd hx List.not_mem_nil⟩
  | x :: xs => by
    rw [upsert]
    cases hx : key x with
    | none => exact Or.inr ⟨[], x, xs, rfl, by simp, Or.inl ⟨hx, rfl⟩⟩
    | some k' =>
      dsimp only
      split
      · rename_i hk
        subst hk
        exact Or.inr ⟨[], x, xs, rfl, by simp, Or.inr ⟨hx, rfl⟩⟩
      rename_i hk
      -- the write lands further on, behind `x`
      have hused : key x ≠ none ∧ key x ≠ some k := by simp [hx, hk]
      rcases upsert_cases key k new upd xs with ⟨hnone, hxs⟩ | ⟨l₁, e, l₂, rfl, hl₁, h⟩
      · left
        rw [hnone]
        exact ⟨rfl, List.forall_mem_cons.2 ⟨hused, hxs⟩⟩
      · right
        refine ⟨x :: l₁, e, l₂, rfl, List.forall_mem_cons.2 ⟨hused, hl₁⟩, ?_⟩
        rcases h with ⟨he, h⟩ | ⟨he, h⟩
        · exact Or.inl ⟨he, by rw [h]; rfl⟩
        · exact Or.inr ⟨he, by rw [h]; rfl⟩

lemma upsert_eq_some (h : upsert key k new upd l = some l') (hnew : key new = some k)
    (hupd : ∀ e, key e = some k → key (upd e) = some k) :
    ∃ l₁ e e' l₂, l = l₁ ++ e :: l₂ ∧ l' = l₁ ++ e' :: l₂ ∧
      (∀ x ∈ l₁, key x ≠ none ∧ key x ≠ some k) ∧ (key e = none ∨ key e = some k) ∧
      key e' = some k ∧ (e' = new ∨ e' = upd e) := by
  rcases upsert_cases key k new upd l with ⟨hnone, -⟩ | ⟨l₁, e, l₂, rfl, hl₁, hcase⟩
  · rw [hnone] at h
    cases h
  rcases hcase with ⟨he, hsome⟩ | ⟨he, hsome⟩
  · exact ⟨l₁, e, new, l₂, rfl, (Option.some.inj (hsome.symm.trans h)).symm, hl₁, Or.inl he, hnew,
      Or.inl rfl⟩
  · exact ⟨l₁, e, upd e, l₂, rfl, (Option.some.inj (hsome.symm.trans h)).symm, hl₁, Or.inr he,
      hupd e he, Or.inr rfl⟩

lemma WellFormed.upsert (h : WellFormed key l) (hwrite : upsert key k new upd l = some l')
    (hnew : key new = some k) (hupd : ∀ e, key e = some k → key (upd e) = some k) :
    WellFormed key l' ∧ ∀ k', k' ≠ k → find key k' l' = find key k' l := by
  obtain ⟨l₁, e, e', l₂, rfl, rfl, hl₁, he, he', -⟩ := upsert_eq_some hwrite hnew hupd
  have h' := h.replace hl₁ he he'
  refine ⟨h', fun k' hk' => Option.ext fun x => ?_⟩
  rw [h'.find_eq_some_iff, h.find_eq_some_iff]
  refine and_congr_left fun hx => ?_
  -- neither the slot replaced nor the new one holds `k'`
  have hne : x ≠ e ∧ x ≠ e' := by
    constructor
    · rintro rfl
      rcases he with he | he
      · rw [he] at hx
        cases hx
      · exact hk' (Option.some.inj (hx.symm.trans he))
    · rintro rfl
      exact hk' (Option.some.inj (hx.symm.trans he'))
  simp [hne.1, hne.2]

lemma map_take_upsert (hwrite : SlotTable.upsert key k new upd l = some l')
    (hnew : key new = some k) (hupd : ∀ e, key e = some k → key (upd e) = some k) {n : ℕ}
    (hused : ∀ x ∈ l.take n, key x ≠ none) : (l'.take n).map key = (l.take n).map key := by
  obtain ⟨l₁, e, e', l₂, rfl, rfl, -, he, he', -⟩ := upsert_eq_some hwrite hnew hupd
  rcases Nat.lt_or_ge l₁.length n with hlt | hge
  · -- the slot written is within the stretch, so it was used by `k`
    obtain ⟨m, rfl⟩ := Nat.exists_eq_add_of_lt hlt
    have htake : ∀ x, (l₁ ++ x :: l₂).take (l₁.length + m + 1) = l₁ ++ x :: l₂.take m := fun x => by
      rw [Nat.add_assoc, List.take_length_add_append, List.take_succ_cons]
    have hek : key e = some k := he.resolve_left (hused e (by simp [htake]))
    simp [htake, hek, he']
  · rw [List.take_append_of_le_length hge, List.take_append_of_le_length hge]

lemma Represents.replace (h : Represents key val (l₁ ++ e :: l₂) m)
    (hl₁ : ∀ x ∈ l₁, key x ≠ none ∧ key x ≠ some k) (he : key e = none ∨ key e = some k)
    (he' : key e' = some k) : Represents key val (l₁ ++ e' :: l₂) (m.insert k (val e')) where
  wellFormed := h.wellFormed.replace hl₁ he he'
  lookup_of_mem x hx k' hk' := by
    rcases h.wellFormed.mem_replace hl₁ he hx with rfl | ⟨hx, hxk⟩
    · obtain rfl := Option.some.inj (hk'.symm.trans he')
      exact Finmap.lookup_insert m
    · -- another key: its slot was there before
      rw [Finmap.lookup_insert_of_ne _ fun hkk : k' = k => hxk (hkk ▸ hk')]
      exact h.lookup_of_mem x hx k' hk'
  mem_of_mem k' hk' := by
    rcases Finmap.mem_insert.1 hk' with rfl | hk'
    · exact ⟨e', by simp, he'⟩
    obtain ⟨x, hx, hxk⟩ := h.mem_of_mem k' hk'
    by_cases hkk : k' = k
    · exact ⟨e', by simp, hkk ▸ he'⟩
    -- the slot of another key is not the one replaced
    have hne : x ≠ e := by
      rintro rfl
      rcases he with he | he
      · cases he.symm.trans hxk
      · exact hkk (Option.some.inj (hxk.symm.trans he))
    rw [List.mem_append, List.mem_cons, or_iff_right hne] at hx
    exact ⟨x, List.mem_append.2 (hx.imp_right (List.mem_cons_of_mem e')), hxk⟩

lemma Represents.upsert {v : β} (h : Represents key val l m)
    (hnew : key new = some k ∧ val new = v)
    (hupd : ∀ e, key e = some k → key (upd e) = some k ∧ val (upd e) = v) :
    Option.Rel (fun l' m' => Represents key val l' m' ∧ l'.length = l.length)
      (upsert key k new upd l) (insertBounded l.length k v m) := by
  rcases upsert_cases key k new upd l with ⟨hl, hused⟩ | ⟨l₁, e, l₂, rfl, hl₁, hl⟩
  · -- every slot holds another key: the map is full and does not have `k`
    have hk : k ∉ m := fun hk => by
      obtain ⟨e, he, hek⟩ := h.mem_of_mem k hk
      exact (hused e he).2 hek
    have hfull : m.keys.card = l.length := by
      rw [h.card_keys, List.filterMap_length_eq_length]
      exact fun e he => Option.isSome_iff_ne_none.2 (hused e he).1
    rw [hl, insertBounded, if_neg (not_or.2 ⟨hk, by omega⟩)]
    exact Option.Rel.none
  · rcases hl with ⟨he, hl⟩ | ⟨he, hl⟩
    · have hroom : m.keys.card < (l₁ ++ e :: l₂).length := by
        have h₁ := List.length_filterMap_le key l₁
        have h₂ := List.length_filterMap_le key l₂
        rw [h.card_keys, List.filterMap_append, List.filterMap_cons_none he,
          List.length_append, List.length_append, List.length_cons]
        omega
      rw [hl, insertBounded, if_pos (Or.inr hroom), ← hnew.2]
      exact Option.Rel.some ⟨h.replace hl₁ (Or.inl he) hnew.1, by simp⟩
    · have hk : k ∈ m := Finmap.mem_iff.2 ⟨val e, h.lookup_of_mem e (by simp) k he⟩
      rw [hl, insertBounded, if_pos (Or.inl hk), ← (hupd e he).2]
      exact Option.Rel.some ⟨h.replace hl₁ (Or.inr he) (hupd e he).1, by simp⟩

end SlotTable
