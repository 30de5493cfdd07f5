import WbMge.Reasm.Stream

/-!
# Connections do not disturb each other

Eight slots serve all connections of a server. Which slot a connection gets, and whether it gets
one, depends on the others; what is parsed out of its bytes does not.

The abstract model is one buffer per connection that only the connection's own calls touch (`Conn`).
Every descriptor holds at most one slot (`State.Unique`), a call for one descriptor leaves the slot
of every other one alone, and a descriptor that holds no slot starts from an empty buffer. So as
long as a connection finds a slot the table refines its abstract buffer (`Refines.foldl`).
-/

namespace WbMge.Reasm

/-! ## Parsing does not depend on the callback -/

section Parametric

variable {σ τ : Type*} (onFrame : σ → Int → Bytes → σ × Bool) (sock : Int)
  (onFrame' : τ → Int → Bytes → τ × Bool) (sock' : Int)

lemma scan_parametric (rest : Bytes) (resyncing : Bool) (ctx : σ) (accepted : Nat) (ctx' : τ)
    (accepted' : Nat) :
    (scan onFrame sock rest resyncing ctx accepted).1 =
        (scan onFrame' sock' rest resyncing ctx' accepted').1 ∧
      ∃ frames,
        (scan onFrame sock rest resyncing ctx accepted).2.1 = deliver onFrame sock ctx frames ∧
        (scan onFrame' sock' rest resyncing ctx' accepted').2.1 =
          deliver onFrame' sock' ctx' frames := by
  fun_induction scan onFrame sock rest resyncing ctx accepted generalizing ctx' accepted' with
  | case1 rest resyncing ctx accepted hlen =>
    rw [scan, dif_pos hlen]
    exact ⟨rfl, [], rfl, rfl⟩
  | case2 rest ctx accepted hlen hok hpart ih =>
    rw [scan.eq_def onFrame', dif_neg hlen, dif_pos hok, if_pos hpart, if_pos rfl]
    exact ih ctx' accepted'
  | case3 rest resyncing ctx accepted hlen hok hpart hsync =>
    rw [scan, dif_neg hlen, dif_pos hok, if_pos hpart, if_neg hsync]
    exact ⟨rfl, [], rfl, rfl⟩
  | case4 rest resyncing ctx accepted hlen hok hfull r ih =>
    -- one frame for both; only what the callbacks make of it differs
    rw [scan.eq_def onFrame', dif_neg hlen, dif_pos hok, if_neg hfull]
    obtain ⟨htail, frames, hctx, hctx'⟩ :=
      ih (onFrame' ctx' sock' (rest.take (frameTotalLen rest))).1
        (accepted' + (onFrame' ctx' sock' (rest.take (frameTotalLen rest))).2.toNat)
    exact ⟨htail, rest.take (frameTotalLen rest) :: frames, hctx, hctx'⟩
  | case5 rest resyncing ctx accepted hlen hok ih =>
    rw [scan.eq_def onFrame', dif_neg hlen, dif_neg hok]
    exact ih ctx' accepted'

lemma fill_parametric {buf : Bytes} (hbuf : buf.length < frameMax) (data : Bytes) (ctx : σ)
    (accepted : Nat) (ctx' : τ) (accepted' : Nat) :
    (fill onFrame sock buf hbuf data ctx accepted).1 =
        (fill onFrame' sock' buf hbuf data ctx' accepted').1 ∧
      ∃ frames,
        (fill onFrame sock buf hbuf data ctx accepted).2.1 = deliver onFrame sock ctx frames ∧
        (fill onFrame' sock' buf hbuf data ctx' accepted').2.1 =
          deliver onFrame' sock' ctx' frames := by
  fun_induction fill onFrame sock buf hbuf data ctx accepted generalizing ctx' accepted' with
  | case1 buf hbuf ctx accepted =>
    rw [fill, dif_pos rfl]
    exact ⟨rfl, [], rfl, rfl⟩
  | case2 buf hbuf data ctx accepted hdata filled r hr ih =>
    rw [fill.eq_def onFrame', dif_neg hdata]
    obtain ⟨htail, frames, hctx, hctx'⟩ :=
      scan_parametric onFrame sock onFrame' sock' filled false ctx accepted ctx' accepted'
    -- the second scan leaves the same tail, so the rest of both loops starts from one buffer
    have hkeep : keepTail (scan onFrame' sock' filled false ctx' accepted').1 = keepTail r.1 :=
      congrArg keepTail htail.symm
    obtain ⟨hbuf', frames', hrest, hrest'⟩ :=
      ih (scan onFrame' sock' filled false ctx' accepted').2.1
        (scan onFrame' sock' filled false ctx' accepted').2.2
    dsimp only [filled] at hkeep ⊢
    simp only [hkeep]
    refine ⟨hbuf', frames ++ frames', ?_, ?_⟩
    · rw [hrest, deliver_append, ← hctx]
    · rw [hrest', deliver_append, ← hctx']

end Parametric

/-! ## Calls -/

inductive Call where
  | feed (sock : Int) (data : Bytes)
  | close (sock : Int)
deriving DecidableEq

def Call.sock : Call → Int
  | .feed sock _ => sock
  | .close sock => sock

abbrev FrameLog := List (Int × Bytes)

section Calls

variable (accept : FrameLog → Int → Bytes → Bool)

def record (log : FrameLog) (sock : Int) (adu : Bytes) : FrameLog × Bool :=
  (log ++ [(sock, adu)], accept log sock adu)

def step (x : State × FrameLog) : Call → State × FrameLog
  | .feed sock data =>
    let res := x.1.feed sock data (record accept) x.2
    (res.1, res.2.1)
  | .close sock => (x.1.close sock, x.2)

def run (calls : List Call) : State × FrameLog := calls.foldl (step accept) (init, [])

/-- Every feed of `s` finds or obtains a slot. -/
def served (s : Int) : State × FrameLog → List Call → Bool
  | _, [] => true
  | x, c :: calls =>
    (match c with
      | .feed sock data => sock != s || (x.1.feed sock data (record accept) x.2).2.2.isSome
      | .close _ => true) &&
    served s (step accept x c) calls

/-- The frames a log holds for `s`. -/
def framesFor (s : Int) (log : FrameLog) : List Bytes :=
  log.filterMap fun entry => if entry.1 = s then some entry.2 else none

lemma framesFor_append (s : Int) (l₁ l₂ : FrameLog) :
    framesFor s (l₁ ++ l₂) = framesFor s l₁ ++ framesFor s l₂ :=
  List.filterMap_append

lemma deliver_record (sock : Int) (log : FrameLog) (frames : List Bytes) :
    deliver (record accept) sock log frames = log ++ frames.map fun adu => (sock, adu) := by
  induction frames generalizing log with
  | nil => simp
  | cons adu frames ih =>
    have hcons : deliver (record accept) sock log (adu :: frames) =
        deliver (record accept) sock (log ++ [(sock, adu)]) frames := rfl
    rw [hcons, ih]
    simp

lemma feed_log (r : State) (sock : Int) (data : Bytes) (log : FrameLog) :
    ∃ frames : List Bytes,
      (r.feed sock data (record accept) log).2.1 = log ++ frames.map fun adu => (sock, adu) := by
  rw [State.feed]
  split
  · exact ⟨[], by simp⟩
  split
  · exact ⟨[], by simp⟩
  rename_i i r' _
  obtain ⟨-, frames, hlog, -⟩ := fill_parametric (record accept) sock (record accept) sock
    (r'.slots i).length_lt data log 0 log 0
  exact ⟨frames, hlog.trans (deliver_record accept sock log frames)⟩

lemma framesFor_map (s sock : Int) (frames : List Bytes) :
    framesFor s (frames.map fun adu => (sock, adu)) = if sock = s then frames else [] := by
  rw [framesFor, List.filterMap_map]
  by_cases h : sock = s
  · simp [h]
  · simp [h]

end Calls

/-! ## One connection by itself -/

structure Conn where
  buf : {b : Bytes // b.length < frameMax}
  frames : List Bytes

def Conn.fresh : Conn := ⟨⟨[], (Slot.empty 0).length_lt⟩, []⟩

def Conn.step (c : Conn) : Call → Conn
  | .feed _ data =>
    let res := fill (fun log _ adu => (log ++ [adu], true)) 0 c.buf.1 c.buf.2 data [] 0
    ⟨res.1, c.frames ++ res.2.1⟩
  -- a closed connection leaves no partial frame behind
  | .close _ => ⟨Conn.fresh.buf, c.frames⟩

/-- The frames of a connection that is alone. -/
def connFrames (calls : List Call) : List Bytes := (calls.foldl Conn.step .fresh).frames

lemma deliver_concat (log frames : List Bytes) :
    deliver (fun log _ adu => (log ++ [adu], true)) 0 log frames = log ++ frames := by
  induction frames generalizing log with
  | nil => simp
  | cons adu frames ih =>
    have hcons : deliver (fun (log : List Bytes) _ adu => (log ++ [adu], true)) 0 log
        (adu :: frames) = deliver (fun log _ adu => (log ++ [adu], true)) 0 (log ++ [adu]) frames :=
      rfl
    rw [hcons, ih]
    simp

lemma Conn.frames_foldl (calls : List Call) (c : Conn) :
    (calls.foldl Conn.step c).frames =
      c.frames ++ (calls.foldl Conn.step ⟨c.buf, []⟩).frames := by
  induction calls generalizing c with
  | nil => simp
  | cons call calls ih =>
    rw [List.foldl_cons, List.foldl_cons, ih, ih (Conn.step ⟨c.buf, []⟩ call)]
    -- the buffer after a call does not depend on the frames before it
    cases call with
    | feed sock data | close sock => simp [Conn.step]

/-! ## Slots -/

def State.Unique (r : State) : Prop :=
  ∀ i j, 0 ≤ (r.slots i).sock → (r.slots i).sock = (r.slots j).sock → i = j

variable {r r' : State} {sock s : Int} {i : Fin maxConns} {x : Slot}

lemma State.heldBy_eq_none : r.heldBy sock = none ↔ ∀ i, (r.slots i).sock ≠ sock := by
  simp [State.heldBy, List.find?_eq_none]

lemma State.buffered_update (hslots : r'.slots = Function.update r.slots i x)
    (hold : (r.slots i).sock ≠ s) (hnew : x.sock ≠ s) : r'.buffered s = r.buffered s := by
  -- the search for the slot of `s` passes by slot `i` before and after
  have hheld : r'.heldBy s = r.heldBy s := by
    rw [State.heldBy, State.heldBy]
    congr 1
    funext k
    by_cases hk : k = i
    · subst hk
      simp [hslots, hold, hnew]
    · simp [hslots, hk]
  rw [State.buffered, State.buffered, hheld]
  cases hfound : r.heldBy s with
  | none => rfl
  | some k =>
    have hk : k ≠ i := fun hki => hold (hki ▸ State.sock_of_heldBy hfound)
    simp [hslots, hk]

lemma State.Unique.update (h : r.Unique) (hslots : r'.slots = Function.update r.slots i x)
    (hx : 0 ≤ x.sock → ∀ j, j ≠ i → (r.slots j).sock ≠ x.sock) : r'.Unique := by
  intro j k hj hjk
  rw [hslots] at hj hjk
  by_cases hji : j = i
  · by_cases hki : k = i
    · rw [hji, hki]
    · rw [hji, Function.update_self, Function.update_of_ne hki] at hjk
      rw [hji, Function.update_self] at hj
      exact absurd hjk.symm (hx hj k hki)
  · rw [Function.update_of_ne hji] at hj hjk
    by_cases hki : k = i
    · rw [hki, Function.update_self] at hjk
      exact absurd hjk (hx (hjk ▸ hj) j hji)
    · rw [Function.update_of_ne hki] at hjk
      exact h j k hj hjk

variable {σ : Type*}

lemma State.feed_slots (r : State) (sock : Int) (data : Bytes)
    (onFrame : σ → Int → Bytes → σ × Bool) (ctx : σ) :
    (r.feed sock data onFrame ctx).1.slots = r.slots ∨
      0 ≤ sock ∧ ∃ i x, (r.feed sock data onFrame ctx).1.slots = Function.update r.slots i x ∧
        x.sock = sock ∧
        ((r.slots i).sock = sock ∨ (r.slots i).sock = -1 ∧ r.heldBy sock = none) := by
  rw [State.feed]
  split
  · exact Or.inl rfl
  rename_i hsock
  simp only [State.slotGet]
  cases hheld : r.heldBy sock with
  | some i =>
    have hi := State.sock_of_heldBy hheld
    exact Or.inr ⟨not_lt.1 hsock, i, _, rfl, hi, Or.inl hi⟩
  | none =>
    cases hfree : r.heldBy (-1) with
    | none => exact Or.inl rfl
    | some i =>
      -- the claimed slot is written twice, when it is claimed and when it is filled
      refine Or.inr ⟨not_lt.1 hsock, i, _, Function.update_idem .., ?_,
        Or.inr ⟨State.sock_of_heldBy hfree, rfl⟩⟩
      simp [Slot.empty]

/-- A feed for another descriptor leaves the bytes of `s` alone. -/
lemma buffered_feed_of_ne (hs : 0 ≤ s) (hne : sock ≠ s) (data : Bytes)
    (onFrame : σ → Int → Bytes → σ × Bool) (ctx : σ) :
    (r.feed sock data onFrame ctx).1.buffered s = r.buffered s := by
  rcases r.feed_slots sock data onFrame ctx with hsame | ⟨-, i, x, hslots, hx, hi⟩
  · rw [State.buffered, State.buffered, State.heldBy, State.heldBy, hsame]
  refine State.buffered_update hslots ?_ (hx ▸ hne)
  rcases hi with hi | ⟨hi, -⟩
  · exact hi ▸ hne
  · rw [hi]
    omega

lemma State.Unique.feed (h : r.Unique) (sock : Int) (data : Bytes)
    (onFrame : σ → Int → Bytes → σ × Bool) (ctx : σ) : (r.feed sock data onFrame ctx).1.Unique := by
  rcases r.feed_slots sock data onFrame ctx with hsame | ⟨hsock, i, x, hslots, hx, hi⟩
  · intro j k
    rw [hsame]
    exact h j k
  refine h.update hslots fun _ j hj hjx => ?_
  rcases hi with hi | ⟨-, hnone⟩
  · -- the descriptor holds slot `i` already
    rw [hx, ← hi] at hjx
    exact hj (h j i (by rw [hjx, hi]; exact hsock) hjx)
  · exact State.heldBy_eq_none.1 hnone j (hjx.trans hx)

lemma State.close_slots (r : State) (sock : Int) :
    (r.close sock).slots = r.slots ∧ (0 ≤ sock → r.heldBy sock = none) ∨
      0 ≤ sock ∧ ∃ i, (r.close sock).slots = Function.update r.slots i (Slot.empty (-1)) ∧
        (r.slots i).sock = sock := by
  rw [State.close]
  split
  · rename_i hsock
    exact Or.inl ⟨rfl, fun h => absurd hsock (not_lt.2 h)⟩
  rename_i hsock
  cases hheld : r.heldBy sock with
  | none => exact Or.inl ⟨rfl, fun _ => rfl⟩
  | some i => exact Or.inr ⟨not_lt.1 hsock, i, rfl, State.sock_of_heldBy hheld⟩

/-- A close of another descriptor leaves the bytes of `s` alone. -/
lemma buffered_close_of_ne (hs : 0 ≤ s) (hne : sock ≠ s) :
    (r.close sock).buffered s = r.buffered s := by
  rcases r.close_slots sock with ⟨hsame, -⟩ | ⟨-, i, hslots, hi⟩
  · rw [State.buffered, State.buffered, State.heldBy, State.heldBy, hsame]
  · refine State.buffered_update hslots (hi ▸ hne) ?_
    simp only [Slot.empty]
    omega

lemma State.Unique.close (h : r.Unique) (sock : Int) : (r.close sock).Unique := by
  rcases r.close_slots sock with ⟨hsame, -⟩ | ⟨-, i, hslots, -⟩
  · intro j k
    rw [hsame]
    exact h j k
  · exact h.update hslots fun hx => absurd hx (by decide)

lemma State.Unique.buffered_close (h : r.Unique) (hs : 0 ≤ s) :
    (r.close s).buffered s = none := by
  have hnone : (r.close s).heldBy s = none := by
    rw [State.heldBy_eq_none]
    rcases r.close_slots s with ⟨hsame, hheld⟩ | ⟨-, i, hslots, hi⟩
    · rw [hsame]
      exact State.heldBy_eq_none.1 (hheld hs)
    -- the freed slot was the only one
    intro j hj
    rw [hslots] at hj
    by_cases hji : j = i
    · rw [hji, Function.update_self] at hj
      simp only [Slot.empty] at hj
      omega
    · rw [Function.update_of_ne hji] at hj
      exact hji (h j i (hj ▸ hs) (hj.trans hi.symm))
  rw [State.buffered, hnone, Option.map_none]

lemma State.current_of_isSome (hs : 0 ≤ s) {data : Bytes} {onFrame : σ → Int → Bytes → σ × Bool}
    {ctx : σ} (h : (r.feed s data onFrame ctx).2.2.isSome) :
    r.current s = some ((r.buffered s).getD []) := by
  rw [State.feed, if_neg (not_lt.2 hs)] at h
  cases hheld : r.heldBy s with
  | some i => simp [State.current_eq_of_heldBy hheld, State.buffered, hheld]
  | none =>
    cases hfree : r.heldBy (-1) with
    | none => simp [State.slotGet, hheld, hfree] at h
    | some i => simp [State.current, State.slotGet, State.buffered, hheld, hfree, Slot.empty]

/-! ## The table refines the buffer of each connection -/

/-- The table and the log agree with the connection `s` by itself. -/
structure Refines (s : Int) (x : State × FrameLog) (c : Conn) : Prop where
  unique : x.1.Unique
  buffered : (x.1.buffered s).getD [] = c.buf.1
  frames : framesFor s x.2 = c.frames

section Refinement

variable {accept : FrameLog → Int → Bytes → Bool} {x : State × FrameLog} {c : Conn}

lemma Refines.step_of_ne (hs : 0 ≤ s) (h : Refines s x c) {call : Call} (hne : call.sock ≠ s) :
    Refines s (step accept x call) c := by
  cases call with
  | feed sock data =>
    refine ⟨h.unique.feed sock data _ _, ?_, ?_⟩
    · rw [← h.buffered]
      exact congrArg (Option.getD · []) (buffered_feed_of_ne hs hne ..)
    · -- whatever is delivered is logged for the other descriptor
      obtain ⟨frames, hlog⟩ := feed_log accept x.1 sock data x.2
      have hnone : framesFor s (frames.map fun adu => (sock, adu)) = [] := by
        rw [framesFor_map]
        exact if_neg hne
      rw [← h.frames, step, hlog, framesFor_append, hnone, List.append_nil]
  | close sock =>
    refine ⟨h.unique.close sock, ?_, h.frames⟩
    rw [← h.buffered]
    exact congrArg (Option.getD · []) (buffered_close_of_ne hs hne)

lemma Refines.step_self (hs : 0 ≤ s) (h : Refines s x c) {call : Call} (hsock : call.sock = s)
    (hserved : served accept s x [call]) : Refines s (step accept x call) (c.step call) := by
  cases call with
  | feed sock data =>
    obtain rfl : sock = s := hsock
    have hslot : (x.1.feed sock data (record accept) x.2).2.2.isSome := by
      simpa [served] using hserved
    have hcur : x.1.current sock = some c.buf.1 := by
      rw [← h.buffered]
      exact State.current_of_isSome hs hslot
    obtain ⟨hbuf, hctx, -, hheld, -⟩ := State.feed_of_current (record accept) hs hcur data x.2
    -- the slot and the connection parse the same bytes
    obtain ⟨hsame, frames, hlog, hframes⟩ := fill_parametric (record accept) sock
      (fun (log : List Bytes) _ adu => (log ++ [adu], true)) 0 hbuf data x.2 0 [] 0
    refine ⟨h.unique.feed sock data _ _, ?_, ?_⟩
    · rw [step, hheld, Option.getD_some, hsame]
      rfl
    · rw [step, hctx, hlog, deliver_record, framesFor_append, framesFor_map, if_pos rfl, h.frames]
      rw [deliver_concat, List.nil_append] at hframes
      rw [Conn.step, hframes]
  | close sock =>
    obtain rfl : sock = s := hsock
    refine ⟨h.unique.close sock, ?_, h.frames⟩
    rw [step, h.unique.buffered_close hs]
    rfl

/-- The table refines the connection along every sequence of calls that serves it, and only the
connection's own calls count. -/
lemma Refines.foldl (hs : 0 ≤ s) (calls : List Call) (h : Refines s x c)
    (hserved : served accept s x calls) :
    Refines s (calls.foldl (step accept) x)
      ((calls.filter fun call => call.sock == s).foldl Conn.step c) := by
  induction calls generalizing x c with
  | nil => exact h
  | cons call calls ih =>
    simp only [served, Bool.and_eq_true] at hserved
    obtain ⟨hcall, hlater⟩ := hserved
    by_cases hsock : call.sock = s
    · rw [List.filter_cons_of_pos (by simpa using hsock)]
      refine ih (h.step_self hs hsock ?_) hlater
      simpa only [served, Bool.and_eq_true, and_true] using hcall
    · rw [List.filter_cons_of_neg (by simpa using hsock)]
      exact ih (h.step_of_ne hs hsock) hlater

lemma framesFor_run (hs : 0 ≤ s) (calls : List Call)
    (hserved : served accept s (init, []) calls) :
    framesFor s (run accept calls).2 = connFrames (calls.filter fun call => call.sock == s) := by
  have hinit : Refines s (init, []) .fresh := by
    refine ⟨fun i j hi => ?_, ?_, rfl⟩
    · have hfree : (0 : Int) ≤ -1 := hi
      omega
    -- no slot is held by a descriptor
    have hnone : init.heldBy s = none := by
      rw [State.heldBy_eq_none]
      intro i hi
      have hfree : (-1 : Int) = s := hi
      omega
    rw [State.buffered, hnone]
    rfl
  exact (hinit.foldl hs calls hserved).frames

end Refinement

/-- Isolation: in two runs in which socket `s` makes the same calls and every feed of `s` finds a
slot, the same frames are delivered for `s`, whatever the other sockets do and whatever the callback
answers. Behind a close of `s` they are those of a new connection. -/
theorem frames_isolated (hs : 0 ≤ s) (accept accept' : FrameLog → Int → Bytes → Bool)
    {calls calls' : List Call}
    (hsame : (calls.filter fun call => call.sock == s) = calls'.filter fun call => call.sock == s)
    (hserved : served accept s (init, []) calls)
    (hserved' : served accept' s (init, []) calls') :
    framesFor s (run accept calls).2 = framesFor s (run accept' calls').2 ∧
      ∀ pre post, calls = pre ++ .close s :: post →
        framesFor s (run accept calls).2 =
          connFrames (pre.filter fun call => call.sock == s) ++
            connFrames (post.filter fun call => call.sock == s) := by
  constructor
  · rw [framesFor_run hs calls hserved, framesFor_run hs calls' hserved', hsame]
  · rintro pre post rfl
    rw [framesFor_run hs _ hserved, List.filter_append,
      List.filter_cons_of_pos (by simp [Call.sock]), connFrames, List.foldl_append,
      List.foldl_cons, Conn.frames_foldl]
    rfl

/-- Socket 3 sends an ADU in two parts, closes within the next one and is reused; in the second run
nine other sockets take every slot meanwhile. -/
theorem frames_isolated_reused :
    let own : List Call := [.feed 3 [0, 1, 0, 0, 0, 2], .feed 3 [0x11, 7, 0, 2, 0], .close 3,
      .feed 3 [0, 3, 0, 0, 0, 2, 0x11, 8]]
    let others : List Call := (List.range 9).map fun i => .feed (10 + i) [0xFF, 1, 2]
    let mixed := own.take 1 ++ others ++ own.drop 1
    framesFor 3 (run (fun _ _ _ => true) own).2 =
        [[0, 1, 0, 0, 0, 2, 0x11, 7], [0, 3, 0, 0, 0, 2, 0x11, 8]] ∧
      framesFor 3 (run (fun _ _ _ => true) own).2 =
        framesFor 3 (run (fun _ _ _ => false) mixed).2 := by
  intro own others mixed
  exact ⟨by decide +kernel, (frames_isolated (by decide) (fun _ _ _ => true) (fun _ _ _ => false)
    (by decide +kernel) (by decide +kernel) (by decide +kernel)).1⟩

end WbMge.Reasm
