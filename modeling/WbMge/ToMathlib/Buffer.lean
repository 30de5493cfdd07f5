import Mathlib.Data.List.Basic

/-!
# Programs that write into a buffer

A program that fills a buffer of fixed size through indexed stores, as C code does with a pointer to
an array of its caller. It may stop early with an error, and the buffer keeps what was written until
then; a store outside the buffer has no result at all.

`wp m Q buf` is the weakest precondition: on `buf` the program `m` has a result, and the result and
the buffer it leaves satisfy `Q`. There is one rule for each construct, stated as an equivalence,
and `wp_forUpto` is the invariant rule for counting loops.

`Implements P m spec` compares such a program with a list that is built without a buffer: `m` leaves
that list at the start of any buffer that satisfies `P`, or stops with the same error.
-/

namespace Buffer

variable {β ε ε' α γ : Type}

/-- Programs over one buffer of elements `β`, with errors `ε` and results `α`. -/
abbrev Prog (β ε α : Type) := ExceptT ε (StateT (List β) Option) α

/-- The result of a program on a buffer, and the buffer it leaves; `none` after a store outside
the buffer. -/
def Prog.exec (m : Prog β ε α) (buf : List β) : Option (Except ε α × List β) := m.run.run buf

/-- Replace the element at offset `i` by its image under `f`. -/
def update (i : Nat) (f : β → β) : Prog β ε Unit :=
  ExceptT.mk fun buf => if i < buf.length then some (.ok (), buf.modify i f) else none

/-- The buffer with the block `bs` from offset `i` on. -/
def splice (buf : List β) (i : Nat) (bs : List β) : List β :=
  buf.take i ++ bs ++ buf.drop (i + bs.length)

/-- Store the block `bs` from offset `i` on. -/
def store (i : Nat) (bs : List β) : Prog β ε Unit :=
  ExceptT.mk fun buf => if i + bs.length ≤ buf.length then some (.ok (), splice buf i bs) else none

/-- Copy `n` elements of `src` from offset `j` on. Reading outside of `src` has no result either. -/
def copy (i : Nat) (src : List β) (j n : Nat) : Prog β ε Unit :=
  ExceptT.mk fun buf =>
    if j + n ≤ src.length ∧ i + n ≤ buf.length then
      some (.ok (), splice buf i ((src.drop j).take n))
    else none

def contents : Prog β ε (List β) := ExceptT.mk fun buf => some (.ok buf, buf)

/-- Go on with the value of `r`, or stop with its error. -/
def check (r : Except ε α) : Prog β ε α := ExceptT.mk (pure r)

/-- Run `m`, and on its error the handler, in the buffer as `m` left it. -/
def rescue (m : Prog β ε α) (handler : ε → Prog β ε' α) : Prog β ε' α :=
  ExceptT.mk (m.run >>= fun
    | .ok a => pure (.ok a)
    | .error e => (handler e).run)

/-- The counting loop: `n` turns, the first with `i`. -/
def forUpto (body : Nat → Prog β ε Unit) : Nat → Nat → Prog β ε Unit
  | 0, _ => pure ()
  | n + 1, i => do
    body i
    forUpto body n (i + 1)

/-! ## Weakest preconditions -/

/-- On `buf` the program has a result, and `Q` holds of the result and the buffer left. -/
def wp (m : Prog β ε α) (Q : Except ε α → List β → Prop) (buf : List β) : Prop :=
  ∃ r buf', m.exec buf = some (r, buf') ∧ Q r buf'

/-- The condition after the first of two programs: an error is passed on, a value goes to the
second. -/
def Then (R : α → List β → Prop) (Q : Except ε γ → List β → Prop) : Except ε α → List β → Prop
  | .ok a => R a
  | .error e => Q (.error e)

@[simp] lemma Then_ok (R : α → List β → Prop) (Q : Except ε γ → List β → Prop) (a : α)
    (buf : List β) : Then R Q (.ok a) buf ↔ R a buf := Iff.rfl

variable {Q : Except ε α → List β → Prop} {buf : List β}

lemma wp_of_exec {m : Prog β ε α} {r : Except ε α} {buf' : List β}
    (h : m.exec buf = some (r, buf')) : wp m Q buf ↔ Q r buf' := by
  simp [wp, h]

@[simp] lemma wp_pure (a : α) : wp (pure a) Q buf ↔ Q (.ok a) buf :=
  wp_of_exec rfl

@[simp] lemma wp_throw (e : ε) : wp (throw e) Q buf ↔ Q (.error e) buf :=
  wp_of_exec rfl

@[simp] lemma wp_contents {Q : Except ε (List β) → List β → Prop} :
    wp contents Q buf ↔ Q (.ok buf) buf :=
  wp_of_exec rfl

@[simp] lemma wp_check (r : Except ε α) : wp (check r) Q buf ↔ Q r buf :=
  wp_of_exec rfl

lemma exec_bind (m : Prog β ε γ) (f : γ → Prog β ε α) (buf : List β) :
    (m >>= f).exec buf = (m.exec buf).bind fun
      | (.ok a, buf') => (f a).exec buf'
      | (.error e, buf') => some (.error e, buf') := by
  rw [Prog.exec, Prog.exec, ExceptT.run_bind, StateT.run_bind]
  congr 1
  funext p
  obtain ⟨_ | _, _⟩ := p <;> rfl

@[simp] lemma wp_bind (m : Prog β ε γ) (f : γ → Prog β ε α) :
    wp (m >>= f) Q buf ↔ wp m (Then (fun a => wp (f a) Q) Q) buf := by
  constructor
  · rintro ⟨r, buf', hexec, hQ⟩
    rw [exec_bind] at hexec
    obtain ⟨⟨r₁, buf₁⟩, hm, hf⟩ := Option.bind_eq_some_iff.1 hexec
    refine ⟨r₁, buf₁, hm, ?_⟩
    -- the first program has stopped, or the second goes on in the buffer it left
    cases r₁ with
    | error e =>
      obtain ⟨rfl, rfl⟩ := Prod.mk.inj (Option.some.inj hf)
      exact hQ
    | ok a => exact ⟨r, buf', hf, hQ⟩
  · rintro ⟨r₁, buf₁, hm, hrest⟩
    cases r₁ with
    | error e => exact ⟨.error e, buf₁, by rw [exec_bind, hm]; rfl, hrest⟩
    | ok a =>
      obtain ⟨r, buf', hf, hQ⟩ := hrest
      exact ⟨r, buf', by rw [exec_bind, hm]; exact hf, hQ⟩

lemma exec_rescue (m : Prog β ε' α) (handler : ε' → Prog β ε α) (buf : List β) :
    (rescue m handler).exec buf = (m.exec buf).bind fun
      | (.ok a, buf') => some (.ok a, buf')
      | (.error e, buf') => (handler e).exec buf' := by
  rw [Prog.exec, Prog.exec, rescue, ExceptT.run_mk, StateT.run_bind]
  congr 1
  funext p
  obtain ⟨_ | _, _⟩ := p <;> rfl

lemma wp_rescue {m : Prog β ε' α} {handler : ε' → Prog β ε α}
    (h : wp m (fun
      | .ok a, buf' => Q (.ok a) buf'
      | .error e, buf' => wp (handler e) Q buf') buf) :
    wp (rescue m handler) Q buf := by
  obtain ⟨r₁, buf₁, hm, hrest⟩ := h
  cases r₁ with
  | ok a => exact ⟨.ok a, buf₁, by rw [exec_rescue, hm]; rfl, hrest⟩
  | error e =>
    obtain ⟨r, buf', hf, hQ⟩ := hrest
    exact ⟨r, buf', by rw [exec_rescue, hm]; exact hf, hQ⟩

lemma wp_mono {Q' : Except ε α → List β → Prop} {m : Prog β ε α} (h : wp m Q buf)
    (himp : ∀ r buf', Q r buf' → Q' r buf') : wp m Q' buf := by
  obtain ⟨r, buf', hexec, hQ⟩ := h
  exact ⟨r, buf', hexec, himp r buf' hQ⟩

/-! ## Stores and loops -/

/-- The buffer with `out` at its start, as far as there is room. -/
def overwrite (out buf : List β) : List β := out ++ buf.drop out.length

lemma splice_append {pre old bs : List β} (post : List β) (h : old.length = bs.length) :
    splice (pre ++ (old ++ post)) pre.length bs = pre ++ (bs ++ post) := by
  have hdrop : (pre ++ (old ++ post)).drop (pre.length + bs.length) = post := by
    rw [← List.append_assoc, ← h, ← List.length_append, List.drop_left]
  rw [splice, hdrop, List.take_left, List.append_assoc]

section Stores

variable {Q : Except ε Unit → List β → Prop}

@[simp] lemma wp_update (i : Nat) (f : β → β) :
    wp (update i f) Q buf ↔ i < buf.length ∧ Q (.ok ()) (buf.modify i f) := by
  by_cases h : i < buf.length
  · have hexec : (update i f : Prog β ε Unit).exec buf = some (.ok (), buf.modify i f) :=
      if_pos h
    simp [wp_of_exec hexec, h]
  · have hexec : (update i f : Prog β ε Unit).exec buf = none := if_neg h
    simp [wp, hexec, h]

@[simp] lemma wp_store (i : Nat) (bs : List β) :
    wp (store i bs) Q buf ↔ i + bs.length ≤ buf.length ∧ Q (.ok ()) (splice buf i bs) := by
  by_cases h : i + bs.length ≤ buf.length
  · have hexec : (store i bs : Prog β ε Unit).exec buf = some (.ok (), splice buf i bs) :=
      if_pos h
    simp [wp_of_exec hexec, h]
  · have hexec : (store i bs : Prog β ε Unit).exec buf = none := if_neg h
    simp [wp, hexec, h]

variable {i : Nat} {pre bs : List β}

lemma wp_store_append {old : List β} (post : List β) (hi : pre.length = i)
    (hlen : old.length = bs.length) :
    wp (store i bs) Q (pre ++ (old ++ post)) ↔ Q (.ok ()) (pre ++ (bs ++ post)) := by
  subst hi
  have hroom : pre.length + bs.length ≤ (pre ++ (old ++ post)).length := by
    simp only [List.length_append]
    omega
  rw [wp_store, splice_append post hlen]
  exact and_iff_right hroom

lemma wp_store_singleton (o b : β) (post : List β) (hi : pre.length = i) :
    wp (store i [b]) Q (pre ++ o :: post) ↔ Q (.ok ()) (pre ++ b :: post) :=
  wp_store_append post hi (by rfl : [o].length = [b].length)

lemma wp_copy {j n : Nat} {src : List β} (h : j + n ≤ src.length) :
    wp (copy i src j n) Q buf ↔ wp (store i ((src.drop j).take n)) Q buf := by
  have hlen : ((src.drop j).take n).length = n := by
    rw [List.length_take, List.length_drop]
    omega
  have hexec : (copy i src j n : Prog β ε Unit).exec buf =
      (store i ((src.drop j).take n) : Prog β ε Unit).exec buf := by
    simp [Prog.exec, copy, store, h, hlen]
  simp only [wp, hexec]

lemma wp_store_overwrite {out : List β} (hi : out.length = i)
    (hroom : (out ++ bs).length ≤ buf.length) :
    wp (store i bs) Q (overwrite out buf) ↔ Q (.ok ()) (overwrite (out ++ bs) buf) := by
  have hlen : (out ++ bs).length = out.length + bs.length := List.length_append
  have hsplit : buf.drop out.length =
      (buf.drop out.length).take bs.length ++ buf.drop (out ++ bs).length := by
    rw [hlen, ← List.drop_drop, List.take_append_drop]
  rw [overwrite, hsplit, wp_store_append _ hi, overwrite, List.append_assoc]
  rw [List.length_take, List.length_drop]
  omega

lemma wp_store_bind {out : List β} {k : Unit → Prog β ε α} {Q : Except ε α → List β → Prop}
    (hi : out.length = i) (hroom : (out ++ bs).length ≤ buf.length)
    (h : wp (k ()) Q (overwrite (out ++ bs) buf)) : wp (store i bs >>= k) Q (overwrite out buf) :=
  (wp_bind _ _).2 ((wp_store_overwrite hi hroom).2 h)

lemma wp_update_append {mid : List β} (post : List β) (f : β → β) (hi : i < mid.length) :
    wp (update (pre.length + i) f) Q (pre ++ (mid ++ post)) ↔
      Q (.ok ()) (pre ++ (mid.modify i f ++ post)) := by
  have hroom : pre.length + i < (pre ++ (mid ++ post)).length := by
    simp only [List.length_append]
    omega
  have hmodify : (pre ++ (mid ++ post)).modify (pre.length + i) f =
      pre ++ (mid.modify i f ++ post) := by
    apply List.ext_getElem?
    intro j
    grind
  rw [wp_update, hmodify]
  exact and_iff_right hroom

/-- The invariant rule: each turn keeps the invariant or stops with an error that is accepted, and
the invariant after the last turn is enough. -/
lemma wp_forUpto {body : Nat → Prog β ε Unit} (I : Nat → List β → Prop) {n : Nat}
    (hend : ∀ buf, I n buf → Q (.ok ()) buf)
    (hbody : ∀ i buf, i < n → I i buf → wp (body i) (Then (fun _ => I (i + 1)) Q) buf) :
    ∀ (k i : Nat), i + k = n → ∀ {buf}, I i buf → wp (forUpto body k i) Q buf
  | 0, i, hi, buf, h => by
    obtain rfl : i = n := hi
    exact (wp_pure ()).2 (hend buf h)
  | k + 1, i, hi, buf, h => by
    rw [forUpto, wp_bind]
    refine wp_mono (hbody i buf (by omega) h) fun r buf' hr => ?_
    cases r with
    | error e => exact hr
    | ok u => exact wp_forUpto I hend hbody k (i + 1) (by omega) hr

end Stores

/-! ## Programs against lists -/

/-- What `m` returns and leaves in the buffer is what `spec` says: the same error, or the list of
`spec` at the start of the buffer and its length as the result. -/
def Leaves (spec : Except ε (List β)) (size : Nat) (r : Except ε Nat) (buf : List β) : Prop :=
  buf.length = size ∧ match spec with
    | .error e => r = .error e
    | .ok reply => r = .ok reply.length ∧ buf.take reply.length = reply

lemma leaves_ok {reply tail : List β} {size len : Nat} (hsize : (reply ++ tail).length = size)
    (hlen : len = reply.length) :
    Leaves (.ok reply) size (.ok len : Except ε Nat) (reply ++ tail) :=
  ⟨hsize, by rw [hlen], List.take_left⟩

/-- In every buffer that satisfies `P`, `m` stays inside the buffer and leaves there what `spec`
says. -/
def Implements (P : List β → Prop) (m : Prog β ε Nat) (spec : Except ε (List β)) : Prop :=
  ∀ buf : List β, P buf → wp m (Leaves spec buf.length) buf

/-- The buffer has at least `size` elements. -/
def HasRoom (size : Nat) (buf : List β) : Prop := size ≤ buf.length

variable {P : List β → Prop}

lemma implements_throw (e : ε) : Implements P (throw e) (.error e) :=
  fun _ _ => (wp_throw e).2 ⟨rfl, rfl⟩

lemma Implements.ite {c : Prop} [Decidable c] {m₁ m₂ : Prog β ε Nat}
    {spec₁ spec₂ : Except ε (List β)} (h₁ : c → Implements P m₁ spec₁)
    (h₂ : ¬ c → Implements P m₂ spec₂) :
    Implements P (if c then m₁ else m₂) (if c then spec₁ else spec₂) := by
  split
  · exact h₁ ‹_›
  · exact h₂ ‹_›

lemma Implements.rescue {size : Nat} {m : Prog β ε' Nat} {spec : Except ε' (List β)}
    {handler : ε' → Prog β ε Nat} {reply : List β} (hm : Implements (HasRoom size) m spec)
    (hok : ∀ l, spec = .ok l → l = reply)
    (herror : ∀ e, spec = .error e → Implements (HasRoom size) (handler e) (.ok reply)) :
    Implements (HasRoom size) (rescue m handler) (.ok reply) := by
  intro buf hbuf
  refine wp_rescue (wp_mono (hm buf hbuf) fun r buf' hleft => ?_)
  obtain ⟨hlen, hresult⟩ := hleft
  cases spec with
  | error e =>
    subst hresult
    -- whatever `m` has stored, there is as much room as before
    exact hlen ▸ herror e rfl buf' (le_of_le_of_eq hbuf hlen.symm)
  | ok l =>
    obtain ⟨rfl, htake⟩ := hresult
    obtain rfl := hok l rfl
    exact ⟨hlen, rfl, htake⟩

end Buffer
