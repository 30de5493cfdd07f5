import Mathlib.Data.List.Infix
import Mathlib.Data.Set.Basic

/-!
# Streams of code words

A stream is a concatenation of words of a code `C` followed by an unfinished word. Reading only an
initial part `b` of such a stream, one has seen some whole words and an unfinished one, and what is
left of the stream completes it (`exists_split`). If no word of the code begins another one, an
unfinished word contains no whole word (`Unfinished.words_eq_nil`).

A reader that gives up symbols where it finds no word picks words out of an arbitrary sequence:
`Picked C l ws t` says that it has read `l` up to `t`, took the words `ws` on the way, in order and
without overlap, and skipped everything else.
-/

namespace Code

variable {α : Type*} {C : Set (List α)} {p q : List α} {ws : List (List α)}

/-- `q` is the beginning of some word of `C`, without being all of it. -/
def Unfinished (C : Set (List α)) (q : List α) : Prop :=
  ∃ w ∈ C, q <+: w ∧ q.length < w.length

/-- No word of `C` begins another one. -/
def InitialFree (C : Set (List α)) : Prop :=
  ∀ u ∈ C, ∀ w ∈ C, u <+: w → u.length = w.length

lemma Unfinished.of_isPrefix (hp : Unfinished C p) (h : q <+: p) : Unfinished C q := by
  obtain ⟨w, hw, hpw, hlen⟩ := hp
  exact ⟨w, hw, h.trans hpw, lt_of_le_of_lt h.length_le hlen⟩

/-- What has been read of a stream is some whole words and an unfinished one, and the rest
of the stream completes it. -/
lemma exists_split (hws : ∀ w ∈ ws, w ∈ C) (hp : Unfinished C p) {b t : List α}
    (h : b ++ t = ws.flatten ++ p) :
    ∃ done todo q, ws = done ++ todo ∧ b = done.flatten ++ q ∧ q ++ t = todo.flatten ++ p ∧
      Unfinished C q := by
  induction ws generalizing b with
  | nil =>
    have hbt : b ++ t = p := by simpa using h
    exact ⟨[], [], b, rfl, by simp, by simpa using hbt, hp.of_isPrefix ⟨t, hbt⟩⟩
  | cons w ws ih =>
    have hw : w ∈ C := hws w (by simp)
    have h' : b ++ t = w ++ (ws.flatten ++ p) := by simpa using h
    by_cases hlen : w.length ≤ b.length
    · -- the first word is there: read on behind it
      obtain ⟨b', rfl⟩ : w <+: b :=
        List.prefix_of_prefix_length_le ⟨_, h'.symm⟩ (List.prefix_append b t) hlen
      have hrest : b' ++ t = ws.flatten ++ p := by
        rw [List.append_assoc] at h'
        exact List.append_cancel_left h'
      obtain ⟨done, todo, q, rfl, rfl, hq, hun⟩ := ih (fun v hv => hws v (by simp [hv])) hrest
      exact ⟨w :: done, todo, q, rfl, by simp, hq, hun⟩
    · have hbw : b <+: w :=
        List.prefix_of_prefix_length_le ⟨t, h'⟩ (List.prefix_append w _) (by omega)
      exact ⟨[], w :: ws, b, rfl, by simp, by simpa using h, w, hw, hbw, by omega⟩

lemma Unfinished.words_eq_nil (hC : InitialFree C) (hws : ∀ w ∈ ws, w ∈ C)
    (h : Unfinished C (ws.flatten ++ p)) : ws = [] := by
  cases ws with
  | nil => rfl
  | cons u ws =>
    obtain ⟨w, hw, hpre, hlen⟩ := h
    have huw : u <+: w := by
      refine List.IsPrefix.trans ?_ hpre
      simp
    have heq := hC u (hws u (by simp)) w hw huw
    simp only [List.flatten_cons, List.append_assoc, List.length_append] at hlen
    omega

/-! ## Picking words out of a sequence -/

/-- Reading `l` from the front, one word of `C` or one symbol to be skipped at a time, takes the
words `ws` and leaves `t`. -/
inductive Picked (C : Set (List α)) : List α → List (List α) → List α → Prop
  | nil (l : List α) : Picked C l [] l
  | skip (a : α) {l : List α} {ws : List (List α)} {t : List α} :
      Picked C l ws t → Picked C (a :: l) ws t
  | word {w l : List α} {ws : List (List α)} {t : List α} (hw : w ∈ C) :
      Picked C l ws t → Picked C (w ++ l) (w :: ws) t

namespace Picked

variable {l t t' : List α} {ws' : List (List α)}

lemma trans (h : Picked C l ws t) (h' : Picked C t ws' t') : Picked C l (ws ++ ws') t' := by
  induction h with
  | nil => exact h'
  | skip a _ ih => exact .skip a (ih h')
  | word hw _ ih => exact .word hw (ih h')

lemma append_right (h : Picked C l ws t) (x : List α) : Picked C (l ++ x) ws (t ++ x) := by
  induction h with
  | nil => exact .nil _
  | skip a _ ih => exact .skip a ih
  | word hw _ ih =>
    rw [List.append_assoc]
    exact .word hw ih

lemma skip_all (l : List α) : Picked C l [] [] := by
  induction l with
  | nil => exact .nil []
  | cons a l ih => exact .skip a ih

lemma exists_segments (h : Picked C l ws t) :
    ∃ (segs : List (List α × List α)) (gap : List α),
      l = segs.flatMap (fun s => s.1 ++ s.2) ++ gap ++ t ∧ ws = segs.map Prod.snd ∧
      ∀ s ∈ segs, s.2 ∈ C := by
  induction h with
  | nil => exact ⟨[], [], by simp, rfl, by simp⟩
  | skip a _ ih =>
    -- the skipped symbol belongs to the gap in front of the next word, or to the last gap
    obtain ⟨segs, gap, rfl, rfl, hmem⟩ := ih
    cases segs with
    | nil => exact ⟨[], a :: gap, by simp, rfl, by simp⟩
    | cons s segs =>
      refine ⟨(a :: s.1, s.2) :: segs, gap, by simp, rfl, ?_⟩
      simpa using hmem
  | word hw _ ih =>
    obtain ⟨segs, gap, rfl, rfl, hmem⟩ := ih
    exact ⟨([], _) :: segs, gap, by simp, rfl, by simpa using ⟨hw, fun a b h => hmem (a, b) h⟩⟩

end Picked

end Code
