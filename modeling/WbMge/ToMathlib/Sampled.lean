import Mathlib.Algebra.Group.Nat.Defs
import Mathlib.Data.List.Induction

/-!
# Sampled signals

A signal that is looked at from time to time: a list of samples, each with a time and one of two
levels. A run is a stretch of consecutive samples at one level, and `RunsBelow` says that no run
spans a given time. Whoever takes the samples knows of the run at the end only, of which `runStart`
is the beginning; `RunsBelow.concat` is the rule for one more sample.

The times may come from a 32-bit counter that wraps around. A difference of two of its values is
then at most the time between them, and equal to it if that is short enough.
-/

namespace Sampled

/-! ## Counters that wrap around -/

lemma toNat_ofNat_sub_le {first now : ℕ} (h : first ≤ now) :
    (UInt32.ofNat now - UInt32.ofNat first).toNat ≤ now - first := by
  rw [← UInt32.ofNat_sub h, UInt32.toNat_ofNat']
  exact Nat.mod_le _ _

lemma toNat_ofNat_sub_eq {first now : ℕ} (h : first ≤ now) (hlt : now - first < 2 ^ 32) :
    (UInt32.ofNat now - UInt32.ofNat first).toNat = now - first := by
  rw [← UInt32.ofNat_sub h, UInt32.toNat_ofNat', Nat.mod_eq_of_lt hlt]

/-! ## Runs -/

variable {α : Type*} (time : α → ℕ) (level : α → Bool)

def runStart (l : List α) : Option ℕ :=
  l.foldl (fun start o => if level o then some (start.getD (time o)) else none) none

/-- No run of the list spans `d` or more. -/
def RunsBelow (d : ℕ) (l : List α) : Prop :=
  ∀ l₁ x mid y l₂, l = l₁ ++ x :: (mid ++ y :: l₂) → level x = true → level y = true →
    (∀ o ∈ mid, level o = true) → time y < time x + d

variable {time level} {d g : ℕ} {l : List α} {o : α}

lemma runStart_concat (l : List α) (o : α) :
    runStart time level (l ++ [o]) =
      if level o then some ((runStart time level l).getD (time o)) else none := by
  rw [runStart, List.foldl_append]
  rfl

lemma runStart_append {x : α} {w : List α} (hx : level x = true) (hw : ∀ o ∈ w, level o = true) :
    runStart time level (l ++ x :: w) = some ((runStart time level l).getD (time x)) := by
  induction w using List.reverseRecOn with
  | nil => rw [runStart_concat, if_pos hx]
  | append_singleton w o ih =>
    have ho : level o = true := hw o (by simp)
    have ih := ih fun o' ho' => hw o' (by simp [ho'])
    rw [← List.cons_append, ← List.append_assoc, runStart_concat, if_pos ho, ih, Option.getD_some]

lemma exists_mem_of_runStart (h : runStart time level l = some g) : ∃ o ∈ l, time o = g := by
  induction l using List.reverseRecOn generalizing g with
  | nil => cases h
  | append_singleton l o ih =>
    rw [runStart_concat] at h
    split at h
    · cases hl : runStart time level l with
      | none =>
        rw [hl] at h
        exact ⟨o, by simp, Option.some.inj h⟩
      | some g' =>
        rw [hl] at h
        obtain ⟨o', ho', htime⟩ := ih hl
        exact ⟨o', by simp [ho'], htime.trans (Option.some.inj h)⟩
    · cases h

lemma RunsBelow.nil : RunsBelow time level d [] := by
  intro l₁ x mid y l₂ h
  simp at h

/-- One more sample: at the level of the runs it has to be soon enough after the start of the run at
the end. -/
lemma RunsBelow.concat (h : RunsBelow time level d l)
    (hmono : l.Pairwise fun a b => time a ≤ time b)
    (ho : level o = true → ∀ g ∈ runStart time level l, time o < g + d) :
    RunsBelow time level d (l ++ [o]) := by
  intro l₁ x mid y l₂ heq hx hy hmid
  rcases List.eq_nil_or_concat l₂ with rfl | ⟨l₂, o', rfl⟩
  · -- the new sample ends the run, which began at `x` or before
    have heq' : l ++ [o] = (l₁ ++ x :: mid) ++ [y] := by simpa using heq
    obtain ⟨rfl, hoy⟩ := List.append_inj' heq' rfl
    obtain rfl : o = y := by simpa using hoy
    have hlt := ho hy _ (runStart_append hx hmid)
    have hle : (runStart time level l₁).getD (time x) ≤ time x := by
      cases hl₁ : runStart time level l₁ with
      | none => exact Nat.le_refl _
      | some g =>
        obtain ⟨o', ho', rfl⟩ := exists_mem_of_runStart hl₁
        exact (List.pairwise_append.1 hmono).2.2 o' ho' x List.mem_cons_self
    omega
  · have heq' : l ++ [o] = (l₁ ++ x :: (mid ++ y :: l₂)) ++ [o'] := by simpa using heq
    exact h l₁ x mid y l₂ (List.append_inj' heq' rfl).1 hx hy hmid

end Sampled
