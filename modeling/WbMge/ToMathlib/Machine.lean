import Mathlib.Data.List.DropRight

/-!
# Guarded machines with an output log

A machine is an initial state and a guarded, executable step function: `step s e` is `none` when the
event `e` is disabled in `s`, and otherwise the next state together with the observations the step
makes, which accumulate in the log of a run.

`Machine.Run ok` collects the runs all of whose steps satisfy an admissibility predicate `ok` on the
log so far, the state before the step and the event. `Run.invariant` is the induction rule for such
runs and `Run.of_exec` turns a replay that the kernel evaluates into a run. `exec_invariant` is the
rule for replays that start anywhere, and `exists_exec_of_measure` the one for what can always be
reached.

`Entries` speaks about every entry of a log and those before it, `Segments` about every stretch from
an opening entry to the next closing one, and `Current` about the stretch that is still open at the
end.
-/

/-- A system with guarded steps. -/
structure Machine (S E O : Type*) where
  init : S
  /-- The next state and the observations of the step, `none` when `e` is disabled. -/
  step : S → E → Option (S × List O)

namespace Machine

variable {S E O : Type*} (M : Machine S E O)

/-- `M.Run ok log s`: some run from the initial state, each of whose steps is admitted by
`ok`, has made the observations `log` and stands in `s`. -/
inductive Run (ok : List O → S → E → Prop) : List O → S → Prop
  | init : Run ok [] M.init
  | step {log : List O} {s : S} {e : E} {s' : S} {out : List O} :
      Run ok log s → ok log s e → M.step s e = some (s', out) → Run ok (log ++ out) s'

/-- Every step is admitted. -/
def anyStep : List O → S → E → Prop := fun _ _ _ => True

instance (log : List O) (s : S) (e : E) : Decidable (anyStep log s e) := by
  unfold anyStep
  infer_instance

variable {M} {ok ok' : List O → S → E → Prop} {log : List O} {s : S}

/-- A property of log and state that holds initially and is kept by every admitted step
holds along every run. The step may use that it starts from a run. -/
lemma Run.invariant {P : List O → S → Prop} (hinit : P [] M.init)
    (hstep : ∀ {log s e s' out}, M.Run ok log s → P log s → ok log s e →
      M.step s e = some (s', out) → P (log ++ out) s')
    (h : M.Run ok log s) : P log s := by
  induction h with
  | init => exact hinit
  | step hrun he hs ih => exact hstep hrun ih he hs

section Exec

variable (M) (ok) [∀ log s e, Decidable (ok log s e)]

/-- Replay `es`, checking that every event is admitted and enabled. -/
def exec : List E → List O → S → Option (List O × S)
  | [], log, s => some (log, s)
  | e :: es, log, s =>
    if ok log s e then
      match M.step s e with
      | some (s', out) => exec es (log ++ out) s'
      | none => none
    else none

variable {M ok}

variable {es : List E} {s' : S}

/-- What every admitted step keeps holds after a replay, whatever log and state it starts from. -/
lemma exec_invariant {P : List O → S → Prop} {log' : List O}
    (hstep : ∀ {log s e s' out}, P log s → ok log s e → M.step s e = some (s', out) →
      P (log ++ out) s')
    (h : P log s) (hexec : M.exec ok es log s = some (log', s')) : P log' s' := by
  induction es generalizing log s with
  | nil =>
    simp only [exec, Option.some.injEq, Prod.mk.injEq] at hexec
    obtain ⟨rfl, rfl⟩ := hexec
    exact h
  | cons e es ih =>
    simp only [exec] at hexec
    split at hexec
    · rename_i he
      split at hexec
      · rename_i s₁ out hs
        exact ih (hstep h he hs) hexec
      · cases hexec
    · cases hexec

lemma Run.extend_exec {log' : List O} (h : M.Run ok log s)
    (hexec : M.exec ok es log s = some (log', s')) : M.Run ok log' s' :=
  exec_invariant .step h hexec

/-- Where some step of the kind `P` lowers a measure as long as the goal is not reached, steps of
that kind reach the goal. -/
lemma exists_exec_of_measure {I : List O → S → Prop} {P : E → Prop} {Goal : S → Prop}
    (μ : S → Nat)
    (hstep : ∀ {log s}, I log s → ¬ Goal s →
      ∃ e s' out, P e ∧ ok log s e ∧ M.step s e = some (s', out) ∧ I (log ++ out) s' ∧ μ s' < μ s)
    (hI : I log s) :
    ∃ es log' s', (∀ e ∈ es, P e) ∧ M.exec ok es log s = some (log', s') ∧ Goal s' := by
  induction hn : μ s using Nat.strong_induction_on generalizing log s with
  | _ n ih =>
    by_cases hgoal : Goal s
    · exact ⟨[], log, s, List.forall_mem_nil _, rfl, hgoal⟩
    obtain ⟨e, s', out, he, hok, hs, hI', hlt⟩ := hstep hI hgoal
    obtain ⟨es, log', s'', hes, hexec, hgoal'⟩ := ih (μ s') (hn ▸ hlt) hI' rfl
    exact ⟨e :: es, log', s'', List.forall_mem_cons.2 ⟨he, hes⟩,
      by rw [exec, if_pos hok, hs]; exact hexec, hgoal'⟩

lemma Run.of_exec {log' : List O} (hexec : M.exec ok es [] M.init = some (log', s')) :
    M.Run ok log' s' :=
  Run.extend_exec .init hexec

lemma Run.exists_of_extend_exec (h : M.Run ok log s) (es : List E) (P : List O → S → Prop)
    [∀ log s, Decidable (P log s)] (hP : (M.exec ok es log s).any (fun r => P r.1 r.2)) :
    ∃ log s, M.Run ok log s ∧ P log s := by
  cases hexec : M.exec ok es log s with
  | none => simp [hexec] at hP
  | some r => exact ⟨r.1, r.2, Run.extend_exec h hexec, by simpa [hexec] using hP⟩

variable (M ok) in
lemma Run.exists_of_exec (es : List E) (P : List O → S → Prop) [∀ log s, Decidable (P log s)]
    (h : (M.exec ok es [] M.init).any (fun r => P r.1 r.2)) :
    ∃ log s, M.Run ok log s ∧ P log s :=
  Run.exists_of_extend_exec .init es P h

end Exec

end Machine

/-! ## Stretches of a log -/

section Stretch

variable {O : Type*} {opens closes : O → Prop} {Good : O → List O → O → Prop}
  {P Q : O → List O → Prop} {log : List O} {o : O}

/-- Every stretch `mid` of the log between an opening entry `a` and the next closing entry
`b`, with no opening or closing entry in between, satisfies `Good a mid b`. -/
def Segments (opens closes : O → Prop) (Good : O → List O → O → Prop) (log : List O) : Prop :=
  ∀ l₁ a mid b l₂, log = l₁ ++ a :: (mid ++ b :: l₂) → opens a → closes b →
    (∀ x ∈ mid, ¬ opens x ∧ ¬ closes x) → Good a mid b

/-- The stretch `mid` of the log after its last opening entry `a` satisfies `P a mid`. -/
def Current (opens : O → Prop) (P : O → List O → Prop) (log : List O) : Prop :=
  ∀ l₁ a mid, log = l₁ ++ a :: mid → opens a → (∀ x ∈ mid, ¬ opens x) → P a mid

lemma Segments.nil : Segments opens closes Good [] := by
  intro l₁ a mid b l₂ h
  simp at h

lemma Current.nil : Current opens P [] := by
  intro l₁ a mid h
  simp at h

private lemma concat_eq_append_cons {l₁ mid : List O} {a : O}
    (h : log ++ [o] = l₁ ++ a :: mid) :
    (log = l₁ ∧ o = a ∧ mid = []) ∨ ∃ mid', mid = mid' ++ [o] ∧ log = l₁ ++ a :: mid' := by
  -- the new entry is `a` itself or ends the stretch after `a`
  rcases List.eq_nil_or_concat mid with rfl | ⟨mid', o', rfl⟩
  · obtain ⟨rfl, hoa⟩ := List.append_inj' h rfl
    exact .inl ⟨rfl, by simpa using hoa, rfl⟩
  have h' : log ++ [o] = (l₁ ++ a :: mid') ++ [o'] := by simpa using h
  obtain ⟨rfl, hoo'⟩ := List.append_inj' h' rfl
  obtain rfl : o = o' := by simpa using hoo'
  exact .inr ⟨mid', by simp, rfl⟩

/-- Every entry `o` of the log satisfies `E earlier o`, with the entries before it. -/
def Entries (E : List O → O → Prop) (log : List O) : Prop :=
  ∀ earlier o later, log = earlier ++ o :: later → E earlier o

lemma Entries.nil {E : List O → O → Prop} : Entries E [] := by
  intro earlier o later h
  simp at h

lemma Entries.concat {E : List O → O → Prop} (h : Entries E log) (ho : E log o) :
    Entries E (log ++ [o]) := by
  intro earlier o' later heq
  rcases concat_eq_append_cons heq with ⟨rfl, rfl, -⟩ | ⟨later', -, hlog⟩
  · exact ho
  · exact h earlier o' later' hlog

lemma Segments.concat (h : Segments opens closes Good log)
    (ho : closes o → Current opens (fun a mid => (∀ x ∈ mid, ¬ closes x) → Good a mid o) log) :
    Segments opens closes Good (log ++ [o]) := by
  intro l₁ a mid b l₂ heq ha hb hmid
  have heq' : log ++ [o] = (l₁ ++ a :: mid) ++ b :: l₂ := by simpa using heq
  rcases concat_eq_append_cons heq' with ⟨hlog, rfl, -⟩ | ⟨l₂', -, hlog⟩
  · -- the stretch that was open until now is closed by the new entry
    exact ho hb l₁ a mid hlog ha (fun x hx => (hmid x hx).1) (fun x hx => (hmid x hx).2)
  · exact h l₁ a mid b l₂' (by simpa using hlog) ha hb hmid

lemma Segments.append {out : List O} (h : Segments opens closes Good log)
    (hout : ∀ o ∈ out, ¬ closes o) : Segments opens closes Good (log ++ out) := by
  induction out generalizing log with
  | nil => simpa using h
  | cons o out ih =>
    -- one entry at a time, none of which closes anything
    have hconcat : Segments opens closes Good (log ++ [o]) :=
      h.concat fun hc => absurd hc (hout o (by simp))
    simpa using ih hconcat fun x hx => hout x (by simp [hx])

lemma Current.concat_opens (ho : opens o) (hP : P o []) : Current opens P (log ++ [o]) := by
  intro l₁ a mid heq _ hmid
  rcases concat_eq_append_cons heq with ⟨-, rfl, rfl⟩ | ⟨mid', rfl, -⟩
  · exact hP
  · exact absurd ho (hmid o (by simp))

lemma Current.append {out : List O} (h : Current opens P log) (hout : ∀ o ∈ out, ¬ opens o)
    (hPQ : ∀ a mid, P a mid → Q a (mid ++ out)) : Current opens Q (log ++ out) := by
  intro l₁ a mid heq ha hmid
  rcases List.append_eq_append_iff.mp heq with ⟨l, hl₁, hout'⟩ | ⟨l, hlog, hmid'⟩
  · -- the opening entry would be one of the new ones
    have hmem : a ∈ out := by rw [hout']; simp
    exact absurd ha (hout a hmem)
  cases l with
  | nil =>
    have hmem : a ∈ out := by rw [← List.nil_append out, ← hmid']; simp
    exact absurd ha (hout a hmem)
  | cons a' mid' =>
    obtain ⟨rfl, rfl⟩ : a = a' ∧ mid = mid' ++ out := by simpa using hmid'
    exact hPQ a mid' (h l₁ a mid' hlog ha fun x hx => hmid x (by simp [hx]))

lemma Current.of_rtakeWhile [DecidablePred opens]
    (h : ∀ a, P a (log.rtakeWhile fun o => ¬ opens o)) : Current opens P log := by
  intro l₁ a mid heq ha hmid
  have hlast : log.rtakeWhile (fun o => ¬ opens o) = mid := by
    rw [heq, List.rtakeWhile, List.reverse_append, List.reverse_cons, List.append_assoc,
      List.takeWhile_append_of_pos (by simpa using hmid)]
    simp [ha]
  rw [← hlast]
  exact h a

lemma Current.imp (h : Current opens P log) (hPQ : ∀ a mid, P a mid → Q a mid) :
    Current opens Q log :=
  fun l₁ a mid heq ha hmid => hPQ a mid (h l₁ a mid heq ha hmid)

end Stretch
