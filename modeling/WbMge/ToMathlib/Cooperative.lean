import WbMge.ToMathlib.Machine

/-!
# Calls that take turns

Functions that wait now and then share a state and run on one thread. `Cooperative` is such a
system: what a call does when it is made and what it does when the operation it waits for has an
answer, each up to the next place where it waits. Its runs are all the interleavings of any number
of calls.

`Cooperative.invariant` is the rule for properties of the places where calls wait. It asks what each
turn makes of the calls that wait meanwhile, and only of those that may wait at the same time.
-/

/-- A shared state `S`, operations `Op` that can be called, the places `C` where a call waits, the
answers `A` that it waits for, and what else, `V`, happens to the state. -/
structure Cooperative (S C Op A V : Type*) where
  init : S
  start : S → Op → S × C
  /-- A call from the answer up to where it waits next, `none` if it does not wait for that. -/
  resume : S → C → A → Option (S × C)
  change : S → V → S

namespace Cooperative

/-- A new call, the answer that a call waits for, or a change from outside. -/
inductive Event (Op A V : Type*) where
  | call (op : Op)
  | resume (i : Nat) (a : A)
  | change (v : V)

/-- The shared state, and where each of the calls waits, in the order in which they were made. -/
structure State (S C : Type*) where
  shared : S
  calls : List C

variable {S C Op A V : Type*} (K : Cooperative S C Op A V)

def step (s : State S C) : Event Op A V → Option (State S C × List Empty)
  | .call op => some (⟨(K.start s.shared op).1, s.calls ++ [(K.start s.shared op).2]⟩, [])
  | .resume i a =>
    (s.calls[i]?.bind fun c => K.resume s.shared c a).map fun r => (⟨r.1, s.calls.set i r.2⟩, [])
  | .change v => some (⟨K.change s.shared v, s.calls⟩, [])

def machine : Machine (State S C) (Event Op A V) Empty where
  init := ⟨K.init, []⟩
  step := K.step

/-- Any two calls after the step may meet. -/
def Apart (Meet : C → C → Prop) (_ : List Empty) (s : State S C) (e : Event Op A V) : Prop :=
  ∀ r ∈ K.step s e, r.1.calls.Pairwise Meet

instance (Meet : C → C → Prop) [DecidableRel Meet] (log : List Empty) (s : State S C)
    (e : Event Op A V) : Decidable (K.Apart Meet log s e) :=
  inferInstanceAs (Decidable (∀ r ∈ K.step s e, r.1.calls.Pairwise Meet))

variable {K} {s s' : State S C} {e : Event Op A V} {out log : List Empty} {i : Nat} {c : C}

lemma step_call {op : Op} (h : K.step s (.call op) = some (s', out)) :
    s' = ⟨(K.start s.shared op).1, s.calls ++ [(K.start s.shared op).2]⟩ := by
  rw [step] at h
  exact (congrArg Prod.fst (Option.some.inj h)).symm

lemma step_resume {a : A} (h : K.step s (.resume i a) = some (s', out)) :
    ∃ c r, s.calls[i]? = some c ∧ K.resume s.shared c a = some r ∧
      s' = ⟨r.1, s.calls.set i r.2⟩ := by
  rw [step] at h
  obtain ⟨r, hr, heq⟩ := Option.map_eq_some_iff.1 h
  obtain ⟨c, hc, hres⟩ := Option.bind_eq_some_iff.1 hr
  exact ⟨c, r, hc, hres, (congrArg Prod.fst heq).symm⟩

lemma step_change {v : V} (h : K.step s (.change v) = some (s', out)) :
    s' = ⟨K.change s.shared v, s.calls⟩ := by
  rw [step] at h
  exact (congrArg Prod.fst (Option.some.inj h)).symm

lemma calls_of_step (h : K.step s e = some (s', out)) (hi : s.calls[i]? = some c)
    (he : ∀ a, e ≠ .resume i a) : s'.calls[i]? = some c := by
  cases e with
  | call op =>
    obtain rfl := step_call h
    exact List.getElem?_append_left (List.getElem?_eq_some_iff.1 hi).1 |>.trans hi
  | resume j a =>
    obtain ⟨c', r, -, -, rfl⟩ := step_resume h
    have hne : j ≠ i := fun hji => he a (hji ▸ rfl)
    exact (List.getElem?_set_ne hne).trans hi
  | change v =>
    obtain rfl := step_change h
    exact hi

/-! ## The rule -/

section Rule

variable {R R' : C → C → Prop} {F F' : C → Prop} {l : List C} {a b : C}

lemma pairwise_set (hpair : l.Pairwise R) (hF : ∀ c ∈ l, F c) (hsymm : ∀ a b, R a b → R b a)
    (hsymm' : ∀ a b, R' a b → R' b a) (hR : ∀ a b, R a b → R' a b) (hi : l[i]? = some a)
    (hb : F' b) (hother : ∀ c, R a c → F c → F' c ∧ R' b c) :
    (l.set i b).Pairwise R' ∧ ∀ c ∈ l.set i b, F' c := by
  -- the calls made before it and those made after it
  obtain ⟨hlt, rfl⟩ := List.getElem?_eq_some_iff.1 hi
  rw [← List.take_append_drop i l, List.drop_eq_getElem_cons hlt] at hpair
  have hmem {c : C} (hc : c ∈ l.take i ∨ c ∈ l.drop (i + 1)) : F c :=
    hF c (hc.elim List.mem_of_mem_take List.mem_of_mem_drop)
  rw [List.set_eq_take_append_cons_drop, if_pos hlt]
  obtain ⟨hbefore, hafter, hcross⟩ := List.pairwise_append.1 hpair
  obtain ⟨hafter, hdrop⟩ := List.pairwise_cons.1 hafter
  have hbefore' : ∀ c ∈ l.take i, F' c ∧ R' b c := fun c hc =>
    hother c (hsymm _ _ (hcross c hc _ (List.mem_cons_self ..))) (hmem (.inl hc))
  have hafter' : ∀ c ∈ l.drop (i + 1), F' c ∧ R' b c := fun c hc =>
    hother c (hafter c hc) (hmem (.inr hc))
  constructor
  · refine List.pairwise_append.2 ⟨hbefore.imp (hR _ _), List.pairwise_cons.2
      ⟨fun c hc => (hafter' c hc).2, hdrop.imp (hR _ _)⟩, fun c hc d hd => ?_⟩
    rcases List.mem_cons.1 hd with rfl | hd
    · exact hsymm' _ _ (hbefore' c hc).2
    · exact hR _ _ (hcross c hc d (List.mem_cons_of_mem _ hd))
  · intro c hc
    rcases List.mem_append.1 hc with hc | hc
    · exact (hbefore' c hc).1
    · rcases List.mem_cons.1 hc with rfl | hc
      · exact hb
      · exact (hafter' c hc).1

lemma countP_le_one {p : C → Bool} (h : l.Pairwise fun a b => ¬ (p a = true ∧ p b = true)) :
    l.countP p ≤ 1 := by
  induction l with
  | nil => exact Nat.zero_le 1
  | cons c l ih =>
    obtain ⟨hc, hl⟩ := List.pairwise_cons.1 h
    by_cases hp : p c = true
    · have hnone : l.countP p = 0 :=
        List.countP_eq_zero.2 fun d hd hpd => hc d hd ⟨hp, hpd⟩
      rw [List.countP_cons_of_pos hp, hnone]
    · rw [List.countP_cons_of_neg hp]
      exact ih hl

end Rule

lemma invariant {Meet R : C → C → Prop} {F : S → C → Prop}
    (hmeet : ∀ c d, Meet c d → Meet d c) (hsymm : ∀ c d, R c d → R d c)
    (hstart : ∀ s op, F (K.start s op).1 (K.start s op).2 ∧
      ∀ d, F s d → F (K.start s op).1 d ∧ R (K.start s op).2 d)
    (hresume : ∀ s c a r, K.resume s c a = some r → F s c →
      F r.1 r.2 ∧ ∀ d, Meet c d → R c d → F s d → F r.1 d ∧ R r.2 d)
    (hchange : ∀ s v d, F s d → F (K.change s v) d)
    (hrun : K.machine.Run (K.Apart Meet) log s) :
    s.calls.Pairwise R ∧ ∀ c ∈ s.calls, F s.shared c := by
  suffices h : s.calls.Pairwise Meet ∧ s.calls.Pairwise R ∧ ∀ c ∈ s.calls, F s.shared c from h.2
  refine Machine.Run.invariant (M := K.machine)
    (P := fun _ s => s.calls.Pairwise Meet ∧ s.calls.Pairwise R ∧ ∀ c ∈ s.calls, F s.shared c)
    ⟨.nil, .nil, List.forall_mem_nil _⟩ ?_ hrun
  intro log s e s' out _ hinv hok hs
  obtain ⟨hMeet, hR, hF⟩ := hinv
  refine ⟨hok _ hs, ?_⟩
  cases e with
  | call op =>
    obtain rfl := step_call hs
    obtain ⟨hnew, hother⟩ := hstart s.shared op
    constructor
    · refine List.pairwise_append.2 ⟨hR, List.pairwise_singleton .., fun c hc d hd => ?_⟩
      obtain rfl := List.mem_singleton.1 hd
      exact hsymm _ _ (hother c (hF c hc)).2
    · intro c hc
      rcases List.mem_append.1 hc with hc | hc
      · exact (hother c (hF c hc)).1
      · obtain rfl := List.mem_singleton.1 hc
        exact hnew
  | resume i a =>
    obtain ⟨c, r, hi, hres, rfl⟩ := step_resume hs
    obtain ⟨hnew, hother⟩ := hresume _ _ _ _ hres (hF c (List.mem_of_getElem? hi))
    exact pairwise_set (hMeet.and hR) hF (fun _ _ h => ⟨hmeet _ _ h.1, hsymm _ _ h.2⟩) hsymm
      (fun _ _ h => h.2) hi hnew fun d hd hFd => hother d hd.1 hd.2 hFd
  | change v =>
    obtain rfl := step_change hs
    exact ⟨hR, fun c hc => hchange _ _ _ (hF c hc)⟩

end Cooperative
