import Mathlib.Data.List.Rotate

/-!
# Rings of slots

A fixed number of slots and the index of the one that is written next. Writing moves the index on
and around, so that the oldest element makes room for the newest. An element in the middle is
removed by freeing its slot and moving the ones behind it up, which also puts the index behind the
last of them.

`byAge` reads the ring from the index on, the oldest element first. Writing is `pushBounded` on that
list as long as the ring is `Regular`: the free slots, if there are any, come last and the index is
on the first of them. Removing always leaves such a ring. It is `List.erase` on the ages only if the
ring is `Aligned`, with the oldest element in the first slot.
-/

/-- `n` slots, and the index of the one that is written next. -/
structure SlotRing (α : Type*) (n : Nat) where
  slots : Vector α n
  next : Fin n
deriving Repr, DecidableEq

namespace SlotRing

variable {α : Type*} {n : Nat}

/-- Append to a queue of at most `cap` elements; a full one loses its first element. -/
def pushBounded (cap : Nat) (q : List α) (x : α) : List α :=
  (if q.length < cap then q else q.tail) ++ [x]

/-! ## Moving the elements up -/

section Compact

variable [DecidableEq α] (free : α)

def used (slots : List α) : List α := slots.filter (· ≠ free)

/-- One turn of the loop that moves elements up: the slots and the index of the first slot that is
not taken yet, and the index of the slot that is looked at. -/
def compactStep (s : Vector α n × Nat) (read : Fin n) : Vector α n × Nat :=
  let x := s.1[read]
  if x = free then s
  else (if s.2 = read then s.1 else (s.1.setIfInBounds s.2 x).set read free, s.2 + 1)

/-- The loop up to the slot `read`. -/
def compactUpto (slots : Vector α n) : (read : Nat) → read ≤ n → Vector α n × Nat
  | 0, _ => (slots, 0)
  | read + 1, h => compactStep free (compactUpto slots read (Nat.le_of_succ_le h)) ⟨read, h⟩

def compact (slots : Vector α n) : Vector α n × Nat := compactUpto free slots n (Nat.le_refl n)

variable {free} {x : α} {l : List α}

lemma mem_used : x ∈ used free l ↔ x ∈ l ∧ x ≠ free := by
  simp [used]

lemma length_used_le (l : List α) : (used free l).length ≤ l.length := List.length_filter_le _ _

lemma used_append (l l' : List α) : used free (l ++ l') = used free l ++ used free l' :=
  List.filter_append ..

@[simp] lemma used_replicate (k : Nat) : used free (List.replicate k free) = [] := by
  simp [used]

lemma used_eq_self (h : free ∉ l) : used free l = l := by
  rw [used, List.filter_eq_self]
  intro y hy
  have hne : y ≠ free := by
    rintro rfl
    exact h hy
  simpa using hne

lemma free_notMem_used (l : List α) : free ∉ used free l := fun h => (mem_used.1 h).2 rfl

lemma compactStep_free {s : Vector α n × Nat} {read : Fin n} (h : s.1[read] = free) :
    compactStep free s read = s := by
  rw [compactStep, if_pos h]

lemma toList_compactStep {s : Vector α n × Nat} {read : Fin n} {front rest : List α} {k : Nat}
    (hx : x ≠ free) (hs : s.1.toList = front ++ (List.replicate k free ++ x :: rest))
    (hwrite : s.2 = front.length) (hread : read.val = front.length + k) :
    (compactStep free s read).1.toList = front ++ x :: (List.replicate k free ++ rest) ∧
      (compactStep free s read).2 = front.length + 1 := by
  have hget : s.1[read] = x := by
    have hlt : read.val < s.1.toList.length := by simp
    change s.1[read.val] = x
    rw [← Vector.getElem_toList hlt]
    simp [hs, hread]
  rw [compactStep, hget, if_neg hx]
  refine ⟨?_, by rw [hwrite]⟩
  cases k with
  | zero =>
    -- nothing is free yet, the element stays where it is
    rw [if_pos (by omega), hs]
    rfl
  | succ k =>
    rw [if_neg (by omega), Vector.toList_set, Vector.toList_setIfInBounds, hs, hwrite, hread]
    -- the old place of the element is one more free slot behind the others
    have hlast :
        List.replicate k free ++ free :: rest = free :: (List.replicate k free ++ rest) := by
      rw [← List.cons_append, ← List.replicate_succ, List.replicate_succ', List.append_assoc]
      rfl
    simpa [List.replicate_succ] using hlast

/-- What the loop has done when it comes to the slot `read`: the elements before `read` are in
front, and the slots from `read` on are untouched. -/
structure Compacted (free : α) (slots : Vector α n) (read : Nat) (s : Vector α n × Nat) :
    Prop where
  toList : s.1.toList = used free (slots.toList.take read) ++
    (List.replicate (read - (used free (slots.toList.take read)).length) free ++
      slots.toList.drop read)
  write : s.2 = (used free (slots.toList.take read)).length

lemma Compacted.step {slots : Vector α n} {s : Vector α n × Nat} (read : Fin n)
    (h : Compacted free slots read s) :
    Compacted free slots (read + 1) (compactStep free s read) := by
  obtain ⟨hslots, hwrite⟩ := h
  have hlt : read.val < slots.toList.length := by simp
  have hle : (used free (slots.toList.take read)).length ≤ read :=
    (length_used_le _).trans (List.length_take_le _ _)
  have htake : used free (slots.toList.take (read + 1)) =
      used free (slots.toList.take read) ++ used free [slots.toList[read.val]] := by
    rw [← List.take_concat_get' _ _ hlt, used_append]
  rw [List.drop_eq_getElem_cons hlt] at hslots
  by_cases hx : slots.toList[read.val] = free
  · -- one more free slot
    have hone : used free [slots.toList[read.val]] = [] := by
      rw [hx]
      exact used_replicate 1
    have hget : s.1[read] = free := by
      change s.1[read.val] = free
      rw [← Vector.getElem_toList (by simp)]
      simp [hslots, hle, hx]
    rw [hone, List.append_nil] at htake
    rw [compactStep_free hget]
    refine ⟨?_, by rw [htake, hwrite]⟩
    rw [htake, hslots, hx, Nat.succ_sub hle, List.replicate_succ']
    simp
  · -- the element goes behind the ones before it
    have hone : used free [slots.toList[read.val]] = [slots.toList[read.val]] :=
      used_eq_self (by simpa using Ne.symm hx)
    have hread : read.val = (used free (slots.toList.take read)).length +
        (read - (used free (slots.toList.take read)).length) := by omega
    obtain ⟨hstep, hstep'⟩ := toList_compactStep hx hslots hwrite hread
    refine ⟨?_, ?_⟩
    · rw [hstep, htake, hone]
      simp
    · rw [hstep', htake, hone]
      simp

variable (free) in
lemma compacted_compactUpto (slots : Vector α n) (read : Nat) (h : read ≤ n) :
    Compacted free slots read (compactUpto free slots read h) := by
  induction read with
  | zero => exact ⟨by simp [compactUpto, used], by simp [compactUpto, used]⟩
  | succ read ih =>
    rw [compactUpto]
    exact Compacted.step ⟨read, h⟩ (ih (Nat.le_of_succ_le h))

variable (free) in
lemma toList_compact (slots : Vector α n) :
    (compact free slots).1.toList = used free slots.toList ++
        List.replicate (n - (used free slots.toList).length) free ∧
      (compact free slots).2 = (used free slots.toList).length := by
  obtain ⟨hslots, hwrite⟩ := compacted_compactUpto free slots n (Nat.le_refl n)
  have htake : slots.toList.take n = slots.toList := List.take_of_length_le (by simp)
  have hdrop : slots.toList.drop n = [] := List.drop_of_length_le (by simp)
  rw [htake, hdrop, List.append_nil] at hslots
  rw [htake] at hwrite
  exact ⟨hslots, hwrite⟩

end Compact

/-! ## Writing and removing -/

def push (r : SlotRing α n) (x : α) : SlotRing α n where
  slots := r.slots.set r.next x
  next := ⟨(r.next + 1) % n, Nat.mod_lt _ r.next.pos⟩

def rotated (r : SlotRing α n) : List α := r.slots.toList.rotate r.next

lemma rotated_eq (r : SlotRing α n) :
    r.rotated = r.slots.toList.drop r.next ++ r.slots.toList.take r.next :=
  List.rotate_eq_drop_append_take (by simp)

lemma length_rotated (r : SlotRing α n) : r.rotated.length = n := by
  simp [rotated]

lemma rotated_push (r : SlotRing α n) (x : α) : (r.push x).rotated = r.rotated.tail ++ [x] := by
  have hlt : r.next.val < r.slots.toList.length := by simp
  have htail : r.rotated.tail = r.slots.toList.drop (r.next + 1) ++ r.slots.toList.take r.next := by
    rw [rotated_eq, List.drop_eq_getElem_cons hlt]
    rfl
  -- the new element ends what is before the index after the write
  have hset : (r.slots.set r.next x).toList =
      r.slots.toList.take r.next ++ x :: r.slots.toList.drop (r.next + 1) := by
    rw [Vector.toList_set, List.set_eq_take_append_cons_drop, if_pos hlt]
  rw [rotated, push, hset, htail]
  dsimp only
  by_cases hlast : r.next.val + 1 < n
  · rw [Nat.mod_eq_of_lt hlast, List.append_cons,
      List.rotate_eq_drop_append_take (by simp), List.drop_left' (by simp),
      List.take_left' (by simp), List.append_assoc]
  -- the write was into the last slot
  have hnext : r.next.val + 1 = n := by
    have := r.next.isLt
    omega
  have hdrop : r.slots.toList.drop n = [] := List.drop_of_length_le (by simp)
  rw [hnext, Nat.mod_self, List.rotate_zero, hdrop]
  rfl

/-! ### Layouts -/

section Layout

variable (free : α)

/-- The elements of `q` are in the first slots, and the index is on the first slot behind them. -/
structure Holds (r : SlotRing α n) (q : List α) : Prop where
  slots : r.slots.toList = q ++ List.replicate (n - q.length) free
  next : r.next.val = q.length % n
  free_notMem : free ∉ q

def Aligned (r : SlotRing α n) : Prop := ∃ q, r.Holds free q

def Regular (r : SlotRing α n) : Prop := free ∉ r.slots.toList ∨ r.Aligned free

variable {free} {r : SlotRing α n} {q : List α} {x y : α}

lemma Holds.length_le (h : r.Holds free q) : q.length ≤ n := by
  have hlength := congrArg List.length h.slots
  simp at hlength
  omega

lemma Holds.length_lt (h : r.Holds free q) (hfree : free ∈ r.slots.toList) : q.length < n := by
  by_contra hge
  rw [h.slots, Nat.sub_eq_zero_of_le (not_lt.1 hge)] at hfree
  exact h.free_notMem (by simpa using hfree)

lemma Regular.aligned (h : r.Regular free) (hnext : free ∉ r.slots.toList → r.next.val = 0) :
    r.Aligned free := by
  rcases h with hfull | haligned
  · have hlength : r.slots.toList.length = n := by simp
    refine ⟨r.slots.toList, ?_, ?_, hfull⟩
    · rw [hlength, Nat.sub_self]
      simp
    · rw [hlength, Nat.mod_self, hnext hfull]
  · exact haligned

lemma mem_push (hy : y ∈ (r.push x).slots) : y = x ∨ y ∈ r.slots := by
  rw [push, ← Vector.mem_toList_iff, Vector.toList_set] at hy
  rcases List.mem_or_eq_of_mem_set hy with hmem | heq
  · exact .inr (Vector.mem_toList_iff.1 hmem)
  · exact .inl heq

lemma Holds.push (h : r.Holds free q) (hlt : q.length < n) (hx : x ≠ free) :
    (r.push x).Holds free (q ++ [x]) := by
  have hnext : r.next.val = q.length := by rw [h.next, Nat.mod_eq_of_lt hlt]
  refine ⟨?_, ?_, ?_⟩
  · obtain ⟨k, hk⟩ : ∃ k, n - q.length = k + 1 := ⟨n - q.length - 1, by omega⟩
    have hk' : n - (q ++ [x]).length = k := by
      rw [List.length_append, List.length_singleton]
      omega
    rw [SlotRing.push, Vector.toList_set, h.slots, hnext, hk, hk', List.replicate_succ]
    simp
  · rw [SlotRing.push, List.length_append, List.length_singleton]
    exact congrArg (fun i => (i + 1) % n) hnext
  · rw [List.mem_append, List.mem_singleton, not_or]
    exact ⟨h.free_notMem, Ne.symm hx⟩

lemma free_notMem_push (h : free ∉ r.slots.toList) (hx : x ≠ free) :
    free ∉ (r.push x).slots.toList := by
  intro hmem
  rcases mem_push (Vector.mem_toList_iff.1 hmem) with heq | hold
  · exact hx heq.symm
  · exact h (Vector.mem_toList_iff.2 hold)

lemma Regular.push (h : r.Regular free) (hx : x ≠ free) : (r.push x).Regular free := by
  by_cases hfree : free ∈ r.slots.toList
  · obtain ⟨q, hq⟩ := h.resolve_left (not_not.2 hfree)
    exact .inr ⟨_, hq.push (hq.length_lt hfree) hx⟩
  · exact .inl (free_notMem_push hfree hx)

end Layout

/-! ### Ages -/

section Ages

variable [DecidableEq α] (free : α)

def defrag (r : SlotRing α n) : SlotRing α n :=
  let s := compact free r.slots
  ⟨s.1, ⟨s.2 % n, Nat.mod_lt _ r.next.pos⟩⟩

/-- Free the first slot with `x`, if there is one, and close the gap. -/
def remove (r : SlotRing α n) (x : α) : SlotRing α n :=
  if x ∈ r.slots then
    defrag free { r with slots := r.slots.setIfInBounds (r.slots.toList.idxOf x) free }
  else r

def byAge (r : SlotRing α n) : List α := used free r.rotated

variable {free} {r : SlotRing α n} {q l : List α} {x y : α}

lemma mem_byAge : y ∈ r.byAge free ↔ y ∈ r.slots ∧ y ≠ free := by
  rw [byAge, mem_used, rotated, List.mem_rotate, Vector.mem_toList_iff]

lemma Holds.byAge_eq (h : r.Holds free q) : r.byAge free = q := by
  have hused := used_eq_self h.free_notMem
  rw [byAge, rotated_eq, h.slots, h.next]
  rcases Nat.lt_or_eq_of_le h.length_le with hlt | heq
  · rw [Nat.mod_eq_of_lt hlt, List.drop_left, List.take_left, used_append, used_replicate, hused]
    rfl
  · rw [heq, Nat.mod_self, Nat.sub_self]
    simpa using hused

lemma byAge_of_full (h : free ∉ r.slots.toList) : r.byAge free = r.rotated := by
  apply used_eq_self
  rwa [rotated, List.mem_rotate]

lemma Regular.byAge_push (h : r.Regular free) (hx : x ≠ free) :
    (r.push x).byAge free = pushBounded n (r.byAge free) x := by
  by_cases hfree : free ∈ r.slots.toList
  · -- some slot is free, and the next one is
    obtain ⟨q, hq⟩ := h.resolve_left (not_not.2 hfree)
    have hlt := hq.length_lt hfree
    rw [(hq.push hlt hx).byAge_eq, hq.byAge_eq, pushBounded, if_pos hlt]
  · rw [byAge_of_full (free_notMem_push hfree hx), byAge_of_full hfree, rotated_push, pushBounded,
      if_neg (by rw [length_rotated]; exact lt_irrefl n)]

lemma used_set_idxOf (hx : x ≠ free) (l : List α) :
    used free (l.set (l.idxOf x) free) = (used free l).erase x := by
  induction l with
  | nil => simp [used]
  | cons y l ih =>
    by_cases hyx : y = x
    · subst hyx
      simp [used, hx]
    have hidx : (y :: l).idxOf x = l.idxOf x + 1 := List.idxOf_cons_ne _ hyx
    rw [hidx, List.set_cons_succ]
    by_cases hy : y = free
    · subst hy
      simpa [used] using ih
    · have hcons (l : List α) : used free (y :: l) = y :: used free l := by simp [used, hy]
      rw [hcons, hcons, ih, List.erase_cons_tail (by simpa using hyx)]

lemma nodup_used_set {l : List α} (h : (used free l).Nodup) (hx : x ∉ l) (i : Nat) :
    (used free (l.set i x)).Nodup := by
  have hcons (y : α) (l : List α) : (used free (y :: l)).Nodup ↔
      (y ≠ free → y ∉ l) ∧ (used free l).Nodup := by
    by_cases hy : y = free <;> simp [used, hy]
  induction l generalizing i with
  | nil => exact List.nodup_nil
  | cons y l ih =>
    rw [List.mem_cons, not_or] at hx
    rw [hcons] at h
    cases i with
    | zero =>
      rw [List.set_cons_zero, hcons]
      exact ⟨fun _ => hx.2, h.2⟩
    | succ i =>
      rw [List.set_cons_succ, hcons]
      refine ⟨fun hy hmem => ?_, ih h.2 hx.2 i⟩
      rcases List.mem_or_eq_of_mem_set hmem with hold | heq
      · exact h.1 hy hold
      · exact hx.1 heq.symm

lemma nodup_used_push (h : (used free r.slots.toList).Nodup) (hx : x ∉ r.slots) :
    (used free (r.push x).slots.toList).Nodup := by
  rw [push, Vector.toList_set]
  exact nodup_used_set h (fun hmem => hx (Vector.mem_toList_iff.1 hmem)) _

lemma remove_of_notMem (h : x ∉ r.slots) : r.remove free x = r := if_neg h

lemma holds_remove (hx : x ≠ free) (hmem : x ∈ r.slots) :
    (r.remove free x).Holds free ((used free r.slots.toList).erase x) := by
  obtain ⟨hslots, hcount⟩ :=
    toList_compact free (r.slots.setIfInBounds (r.slots.toList.idxOf x) free)
  rw [Vector.toList_setIfInBounds, used_set_idxOf hx] at hslots hcount
  rw [remove, if_pos hmem]
  refine ⟨hslots, ?_, fun hfree => free_notMem_used _ (List.mem_of_mem_erase hfree)⟩
  exact congrArg (fun count => count % n) hcount

lemma used_remove (hx : x ≠ free) :
    used free (r.remove free x).slots.toList = (used free r.slots.toList).erase x := by
  by_cases hmem : x ∈ r.slots
  · have hholds := holds_remove hx hmem
    rw [hholds.slots, used_append, used_replicate, used_eq_self hholds.free_notMem,
      List.append_nil]
  · rw [remove_of_notMem hmem, List.erase_of_not_mem]
    rw [mem_used, Vector.mem_toList_iff]
    exact fun h => hmem h.1

lemma Regular.remove (h : r.Regular free) (hx : x ≠ free) : (r.remove free x).Regular free := by
  by_cases hmem : x ∈ r.slots
  · exact .inr ⟨_, holds_remove hx hmem⟩
  · rwa [remove_of_notMem hmem]

lemma Aligned.byAge_remove (h : r.Aligned free) (hx : x ≠ free) :
    (r.remove free x).byAge free = (r.byAge free).erase x := by
  obtain ⟨q, hq⟩ := h
  have hused : used free r.slots.toList = q := by
    rw [hq.slots, used_append, used_replicate, used_eq_self hq.free_notMem, List.append_nil]
  by_cases hmem : x ∈ r.slots
  · rw [(holds_remove hx hmem).byAge_eq, hused, hq.byAge_eq]
  · rw [remove_of_notMem hmem, hq.byAge_eq, List.erase_of_not_mem]
    rw [← hused, mem_used, Vector.mem_toList_iff]
    exact fun h => hmem h.1

end Ages

end SlotRing
