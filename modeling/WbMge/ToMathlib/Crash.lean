import Mathlib.Control.Lawful

/-!
# Code that loses power

Code over a storage that outlives it. Every change of the storage takes place as a whole or not at
all, and the power may be lost between any two of them. The code then runs again from its beginning,
over the storage as it was at that point.

`wp m post crash s` says of code `m` that it meets the postcondition from the storage `s`, and that
`crash` holds of the storage wherever the power is lost. Its rules follow the code. If the code can
begin wherever `crash` holds, `crash_foldl_interrupted` gives what holds after any number of
attempts that lose power, and `post_complete` what an attempt that does not comes to.
-/

structure Supply (S : Type) where
  store : S
  left : Option Nat

inductive PowerLoss where
  | powerLoss

/-- Code over a storage of type `S`. -/
abbrev CrashM (S : Type) := ExceptT PowerLoss (StateM (Supply S))

namespace CrashM

variable {S α β : Type}

def read : CrashM S S := ExceptT.mk fun sup => (.ok sup.store, sup)

def commit (op : StateM S α) : CrashM S α := ExceptT.mk fun sup =>
  match sup.left with
  | none => (.ok (op sup.store).1, ⟨(op sup.store).2, none⟩)
  | some 0 => (.error .powerLoss, sup)
  | some (n + 1) => (.ok (op sup.store).1, ⟨(op sup.store).2, some n⟩)

def complete (m : CrashM S α) (s : S) : S := (m.run.run ⟨s, none⟩).2.store

/-- The storage after the code has run until the power is lost, at the latest after `n`
operations. -/
def interrupted (m : CrashM S α) (s : S) (n : Nat) : S := (m.run.run ⟨s, some n⟩).2.store

/-! ## What code comes to -/

/-- How a run may end, that began with power for `left` operations. -/
def Ends (post : α → S → Prop) (crash : S → Prop) (left : Option Nat) :
    Except PowerLoss α × Supply S → Prop
  | (.ok a, sup) => post a sup.store ∧ (left = none → sup.left = none)
  | (.error _, sup) => crash sup.store ∧ left ≠ none

/-- From the storage `s`, the code ends with `post`, or the power is lost with `crash`. -/
def wp (m : CrashM S α) (post : α → S → Prop) (crash : S → Prop) (s : S) : Prop :=
  ∀ left, Ends post crash left (m.run.run ⟨s, left⟩)

variable {m : CrashM S α} {post : α → S → Prop} {crash : S → Prop} {s : S}

lemma wp_pure {a : α} (h : post a s) : wp (pure a) post crash s := by
  intro left
  exact ⟨h, id⟩

lemma wp_bind {k : α → CrashM S β} {post : β → S → Prop}
    (h : wp m (fun a => wp (k a) post crash) crash s) : wp (m >>= k) post crash s := by
  intro left
  have hm := h left
  simp only [ExceptT.run_bind, StateT.run_bind]
  generalize m.run.run ⟨s, left⟩ = r at hm ⊢
  obtain ⟨a | a, ⟨s', left'⟩⟩ := r
  · exact hm
  obtain ⟨hk, hleft⟩ := hm
  have hk' := hk left'
  show Ends post crash left ((k a).run.run ⟨s', left'⟩)
  generalize (k a).run.run ⟨s', left'⟩ = r' at hk'
  obtain ⟨b | b, sup⟩ := r'
  · exact ⟨hk'.1, fun h => hk'.2 (hleft h)⟩
  · exact ⟨hk'.1, fun h => hk'.2 (hleft h)⟩

lemma wp_read_bind {k : S → CrashM S β} {post : β → S → Prop} (h : wp (k s) post crash s) :
    wp (read >>= k) post crash s := wp_bind fun _ => ⟨h, id⟩

lemma wp_commit {op : StateM S α} {a : α} {s' : S} (hcrash : crash s) (hop : op.run s = (a, s'))
    (hpost : post a s') : wp (commit op) post crash s := by
  change op s = (a, s') at hop
  intro left
  rcases left with _ | _ | n
  · show Ends post crash none (.ok (op s).1, ⟨(op s).2, none⟩)
    rw [hop]
    exact ⟨hpost, id⟩
  · exact ⟨hcrash, Option.some_ne_none 0⟩
  · show Ends post crash (some (n + 1)) (.ok (op s).1, ⟨(op s).2, some n⟩)
    rw [hop]
    exact ⟨hpost, fun h => absurd h (Option.some_ne_none _)⟩

lemma wp_commit_of_forall {op : StateM S α} (hcrash : crash s)
    (hpost : ∀ a s', op.run s = (a, s') → post a s') : wp (commit op) post crash s :=
  wp_commit hcrash rfl (hpost _ _ rfl)

lemma wp_mono {post' : α → S → Prop} (hpost : ∀ a s, post a s → post' a s)
    (h : wp m post crash s) : wp m post' crash s := by
  intro left
  have hm := h left
  generalize m.run.run ⟨s, left⟩ = r at hm ⊢
  obtain ⟨a | a, sup⟩ := r
  · exact hm
  · exact ⟨hpost a sup.store hm.1, hm.2⟩

lemma wp_mono_crash {crash' : S → Prop} (hcrash : ∀ s, crash s → crash' s)
    (h : wp m post crash s) : wp m post crash' s := by
  intro left
  have hm := h left
  generalize m.run.run ⟨s, left⟩ = r at hm ⊢
  obtain ⟨a | a, sup⟩ := r
  · exact ⟨hcrash sup.store hm.1, hm.2⟩
  · exact hm

lemma wp_forM {body : α → CrashM S Unit} {inv : List α → S → Prop} (as : List α)
    (hbody : ∀ done a todo s, as = done ++ a :: todo → inv done s →
      wp (body a) (fun _ => inv (done ++ [a])) crash s)
    (h : inv [] s) : wp (as.forM body) (fun _ => inv as) crash s := by
  -- the elements before the current one, for the induction
  suffices hsuffix : ∀ todo done s, as = done ++ todo → inv done s →
      wp (todo.forM body) (fun _ => inv as) crash s from hsuffix as [] s rfl h
  intro todo
  induction todo with
  | nil =>
    intro done s hsplit hinv
    rw [List.append_nil] at hsplit
    rw [hsplit]
    exact wp_pure hinv
  | cons a todo ih =>
    intro done s hsplit hinv
    apply wp_bind
    refine wp_mono (fun _ s' hinv' => ?_) (hbody done a todo s hsplit hinv)
    exact ih (done ++ [a]) s' (by rw [hsplit, List.append_assoc]; rfl) hinv'

lemma wp_allM {body : α → CrashM S Bool} {inv : List α → S → Prop} {failed : S → Prop}
    (as : List α)
    (hbody : ∀ done a todo s, as = done ++ a :: todo → inv done s →
      wp (body a) (fun ok s => if ok then inv (done ++ [a]) s else failed s) crash s)
    (h : inv [] s) : wp (as.allM body) (fun ok s => if ok then inv as s else failed s) crash s := by
  suffices hsuffix : ∀ todo done s, as = done ++ todo → inv done s →
      wp (todo.allM body) (fun ok s => if ok then inv as s else failed s) crash s from
    hsuffix as [] s rfl h
  intro todo
  induction todo with
  | nil =>
    intro done s hsplit hinv
    rw [List.append_nil] at hsplit
    rw [hsplit]
    exact wp_pure hinv
  | cons a todo ih =>
    intro done s hsplit hinv
    apply wp_bind
    refine wp_mono (fun ok s' hok => ?_) (hbody done a todo s hsplit hinv)
    cases ok with
    | false => exact wp_pure hok
    | true => exact ih (done ++ [a]) s' (by rw [hsplit, List.append_assoc]; rfl) hok

/-! ## Attempts -/

lemma crash_store (h : wp m (fun _ => crash) crash s) (left : Option Nat) :
    crash (m.run.run ⟨s, left⟩).2.store := by
  have hleft := h left
  generalize m.run.run ⟨s, left⟩ = r at hleft ⊢
  obtain ⟨a | a, sup⟩ := r
  · exact hleft.1
  · exact hleft.1

lemma crash_foldl_interrupted (hwp : ∀ s, crash s → wp m (fun _ => crash) crash s) (h : crash s)
    (boots : List Nat) : crash (boots.foldl m.interrupted s) := by
  induction boots generalizing s with
  | nil => exact h
  | cons n boots ih => exact ih (crash_store (hwp s h) (some n))

lemma post_complete (h : wp m post crash s) : ∃ a, post a (m.complete s) := by
  have hnone := h none
  rw [complete]
  generalize m.run.run ⟨s, none⟩ = r at hnone ⊢
  obtain ⟨a | a, sup⟩ := r
  · exact absurd rfl hnone.2
  · exact ⟨a, hnone.1⟩

end CrashM
