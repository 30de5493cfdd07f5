import WbMge.ToMathlib.Machine
import WbMge.Device.Ticks

/-!
# The configuration button

`config_button_task` looks at the button from time to time, filters its bounces and calls back once
the button was held for long enough, which resets the device to factory settings.

Two of the four states of the filter are passing: the button seems to be pressed, or released, and
is taken to be so once it has looked so for the debounce time. All times are differences of tick
counts that wrap around; a sample is less than `2 ^ 31` ticks after the one before it.

`longPress_held` says that the callback runs at most once until the next release, and only when the
button was held since a press that was no bounce.
-/

namespace WbMge.ConfigButton

open Sampled (RunsBelow runStart)

/-! ## The model -/

def debounceTimeMs : ℕ := 50

inductive BtnState where
  | release
  | preAct
  | active
  | preRel
deriving Repr, DecidableEq

/-- What `debounce_filter` returns: the button counts as pressed. -/
def BtnState.pressed : BtnState → Bool
  | .release => false
  | .preAct => false
  | .active => true
  | .preRel => true

/-- The new state and time stamp. -/
def debounceFilter (state : BtnState) (timeStamp sysTime : UInt32) (isPressed : Bool) :
    BtnState × UInt32 :=
  match state with
  | .release => if isPressed then (.preAct, sysTime) else (.release, timeStamp)
  | .preAct =>
    if !isPressed then (.release, timeStamp)
    else if pdMsToTicks debounceTimeMs ≤ sysTime - timeStamp then (.active, timeStamp)
    else (.preAct, timeStamp)
  | .active => if !isPressed then (.preRel, sysTime) else (.active, timeStamp)
  | .preRel =>
    if isPressed then (.active, timeStamp)
    else if pdMsToTicks debounceTimeMs ≤ sysTime - timeStamp then (.release, timeStamp)
    else (.preRel, timeStamp)

/-- The variables of `config_button_task`, and those of `config_btn_ctx` that it changes. -/
structure State where
  state : BtnState
  timeStamp : UInt32
  longPressTimeStamp : UInt32
  pendingLongPress : Bool
  boolState : Bool
  pressCounter : UInt32
deriving Repr, DecidableEq

/-- What the task reads in one turn: the time in ticks since power-on, of which it sees 32 bits, the
level of the button, and the callback that is set by then with its time in milliseconds. -/
structure Sample where
  now : ℕ
  pressed : Bool
  longPressTime : UInt32
  longPressCallback : Bool
deriving Repr, DecidableEq

/-- One turn of the task: the sample, the counter at a press event, whether the debounced state went
from pressed to released, and the argument of the long press callback. -/
structure Obs where
  sample : Sample
  press : Option UInt32
  release : Bool
  longPress : Option UInt32
deriving Repr, DecidableEq

/-- One turn of `config_button_task`. -/
def State.turn (s : State) (e : Sample) : State × Obs :=
  let sysTime := UInt32.ofNat e.now
  let filtered := debounceFilter s.state s.timeStamp sysTime e.pressed
  let boolState := filtered.1.pressed
  let pressEvent := boolState && boolState != s.boolState
  let pressCounter := if pressEvent then s.pressCounter + 1 else s.pressCounter
  let longPressTimeStamp := if pressEvent then sysTime else s.longPressTimeStamp
  let pending := if pressEvent then true else if !boolState then false else s.pendingLongPress
  let holdTime := sysTime - longPressTimeStamp
  let longPress := pending && pdMsToTicks e.longPressTime.toNat ≤ holdTime
  ({ state := filtered.1
     timeStamp := filtered.2
     longPressTimeStamp
     pendingLongPress := pending && !longPress
     boolState
     pressCounter },
   { sample := e
     press := if pressEvent then some pressCounter else none
     release := s.boolState && !boolState
     longPress := if longPress && e.longPressCallback then some holdTime else none })

def machine (start : UInt32) : Machine State Sample Obs where
  init := ⟨.release, start, start, false, false, 0⟩
  step s e := some ((s.turn e).1, [(s.turn e).2])

/-- Time does not go backwards, and a sample is less than `2 ^ 31` ticks after the one before. -/
def InTime (log : List Obs) (_ : State) (e : Sample) : Prop :=
  ∀ o ∈ log.getLast?, o.sample.now ≤ e.now ∧ e.now < o.sample.now + 2 ^ 31
deriving Decidable

/-! ## Times -/

def Obs.time (o : Obs) : ℕ := o.sample.now

def Obs.isReleased (o : Obs) : Bool := !o.sample.pressed

def debounceTicks : ℕ := debounceTimeMs * configTickRateHz / 1000

section Times

variable {first now : ℕ}

lemma add_debounceTicks_le (hle : first ≤ now)
    (h : pdMsToTicks debounceTimeMs ≤ UInt32.ofNat now - UInt32.ofNat first) :
    first + debounceTicks ≤ now := by
  have hticks : debounceTicks ≤ now - first := le_sub_of_pdMsToTicks_le (by decide) hle h
  omega

lemma lt_add_debounceTicks (hle : first ≤ now) (hlt : now - first < 2 ^ 32)
    (h : ¬ pdMsToTicks debounceTimeMs ≤ UInt32.ofNat now - UInt32.ofNat first) :
    now < first + debounceTicks := by
  rw [UInt32.le_iff_toNat_le, toNat_pdMsToTicks (by decide),
    Sampled.toNat_ofNat_sub_eq hle hlt] at h
  rw [debounceTicks]
  omega

end Times

/-! ## Presses and releases -/

/-- The button has been held since the press event `p`: in front of it the button was seen pressed
for the debounce time, and after it, in `mid`, not released for as long. -/
structure HeldSince (log : List Obs) (p : Obs) (mid : List Obs) : Prop where
  pressed : ∃ before f run, log = before ++ f :: (run ++ p :: mid) ∧
    (∀ o ∈ f :: (run ++ [p]), o.sample.pressed = true) ∧ f.time + debounceTicks ≤ p.time
  event : p.press.isSome
  held : RunsBelow Obs.time Obs.isReleased debounceTicks mid

/-- A long press comes the time that is set for it, in whole ticks, after a press event, and the
button has been held since. -/
def LongPressOk (earlier : List Obs) (o : Obs) : Prop :=
  o.longPress.isSome → ∃ p mid, HeldSince (earlier ++ [o]) p mid ∧
    p.time + o.sample.longPressTime.toNat * configTickRateHz / 1000 ≤ o.time

/-- What the samples so far say of the state of the filter. -/
def Fits (log : List Obs) (s : State) : Prop :=
  match s.state with
  | .release => True
  | .preAct => ∃ before f run, log = before ++ f :: run ∧
      (∀ o ∈ f :: run, o.sample.pressed = true) ∧ s.timeStamp = UInt32.ofNat f.time
  | .active => ∃ p mid, HeldSince log p mid ∧ s.longPressTimeStamp = UInt32.ofNat p.time ∧
      runStart Obs.time Obs.isReleased mid = none
  | .preRel => ∃ p mid g, HeldSince log p mid ∧ s.longPressTimeStamp = UInt32.ofNat p.time ∧
      runStart Obs.time Obs.isReleased mid = some g ∧ s.timeStamp = UInt32.ofNat g ∧
      ∀ o ∈ log.getLast?, o.time < g + debounceTicks

def Ordered (log : List Obs) : Prop := log.Pairwise fun a b => a.time ≤ b.time

section Turn

variable {log : List Obs} {s : State} {e : Sample} {st : BtnState} {ts : UInt32}

lemma Ordered.le_of_inTime (h : Ordered log) (hok : InTime log s e) :
    ∀ o ∈ log, o.time ≤ e.now := by
  intro o ho
  rcases List.eq_nil_or_concat' log with rfl | ⟨log, last, rfl⟩
  · cases ho
  have hlast : last.time ≤ e.now := (hok last (by simp)).1
  rw [List.mem_append, List.mem_singleton] at ho
  obtain ho | rfl := ho
  · exact ((List.pairwise_append.1 h).2.2 o ho last List.mem_cons_self).trans hlast
  · exact hlast

lemma Ordered.turn (h : Ordered log) (hok : InTime log s e) :
    Ordered (log ++ [(s.turn e).2]) := by
  refine List.pairwise_append.2 ⟨h, List.pairwise_singleton _ _, ?_⟩
  intro o ho o' ho'
  obtain rfl := List.mem_singleton.1 ho'
  exact h.le_of_inTime hok o ho

/-- The parts of a turn that the filter and the press event decide: the state `s'` and the
observation `o` it leaves when the filter says `st` and `ts`. -/
structure Turned (s : State) (e : Sample) (s' : State) (o : Obs) (st : BtnState) (ts : UInt32) :
    Prop where
  state_eq : s'.state = st
  timeStamp_eq : s'.timeStamp = ts
  stamp_eq : s'.longPressTimeStamp =
    if st.pressed && !s.state.pressed then UInt32.ofNat e.now else s.longPressTimeStamp
  press_eq : o.press.isSome = (st.pressed && !s.state.pressed)
  time_eq : o.time = e.now
  pressed_eq : o.sample.pressed = e.pressed

lemma turned_turn (hbool : s.boolState = s.state.pressed)
    (h : debounceFilter s.state s.timeStamp (UInt32.ofNat e.now) e.pressed = (st, ts)) :
    Turned s e (s.turn e).1 (s.turn e).2 st ts := by
  refine ⟨?_, ?_, ?_, ?_, rfl, rfl⟩
  all_goals simp only [State.turn, h, hbool]
  all_goals cases st.pressed <;> cases s.state.pressed <;> rfl

lemma Turned.isReleased_eq {s' : State} {o : Obs} (h : Turned s e s' o st ts) :
    o.isReleased = !e.pressed := by
  rw [Obs.isReleased, h.pressed_eq]

lemma HeldSince.mem {p o : Obs} {mid : List Obs} (h : HeldSince log p mid) (ho : o ∈ p :: mid) :
    o ∈ log := by
  obtain ⟨before, f, run, rfl, -, -⟩ := h.pressed
  simp only [List.mem_append, List.mem_cons] at ho ⊢
  tauto

lemma HeldSince.concat {p o : Obs} {mid : List Obs} (h : HeldSince log p mid)
    (hordered : Ordered log)
    (ho : o.isReleased = true →
      ∀ g ∈ runStart Obs.time Obs.isReleased mid, o.time < g + debounceTicks) :
    HeldSince (log ++ [o]) p (mid ++ [o]) := by
  obtain ⟨⟨before, f, run, rfl, hpressed, hspan⟩, hevent, hheld⟩ := h
  have hmid : Ordered mid := by
    rw [← List.cons_append, ← List.append_assoc] at hordered
    exact (List.pairwise_append.1 hordered).2.1.of_cons
  refine ⟨⟨before, f, run, by simp, hpressed, hspan⟩, hevent, hheld.concat hmid ho⟩

lemma sub_lt_of_inTime (hok : InTime log s e) (hne : log ≠ []) {g : ℕ}
    (hspan : ∀ o ∈ log.getLast?, o.time < g + debounceTicks) : e.now - g < 2 ^ 32 := by
  obtain ⟨o, ho⟩ := Option.isSome_iff_exists.1 (List.getLast?_isSome.2 hne)
  have hspan := hspan o ho
  have hnow := (hok o ho).2
  rw [Obs.time, debounceTicks, debounceTimeMs, configTickRateHz] at hspan
  omega

variable {s' : State} {o p : Obs} {mid : List Obs}

lemma fits_release (h : s.state = .release) : Fits log s := by
  simp only [Fits, h]

lemma Turned.fits_start (h : Turned s e s' o .preAct (UInt32.ofNat e.now))
    (hpressed : e.pressed = true) : Fits (log ++ [o]) s' := by
  simp only [Fits, h.state_eq]
  refine ⟨log, o, [], rfl, ?_, by rw [h.timeStamp_eq, h.time_eq]⟩
  rwa [List.forall_mem_singleton, h.pressed_eq]

section Pressing

variable {before run : List Obs} {f : Obs}

lemma Turned.forall_mem_concat (h : Turned s e s' o st ts) (hpressed : e.pressed = true)
    (hrun : ∀ x ∈ f :: run, x.sample.pressed = true) :
    ∀ x ∈ f :: (run ++ [o]), x.sample.pressed = true := by
  rw [← List.cons_append]
  refine List.forall_mem_append.2 ⟨hrun, ?_⟩
  rwa [List.forall_mem_singleton, h.pressed_eq]

lemma Turned.fits_wait (h : Turned s e s' o .preAct (UInt32.ofNat f.time))
    (hpressed : e.pressed = true) (hrun : ∀ x ∈ f :: run, x.sample.pressed = true) :
    Fits (before ++ f :: run ++ [o]) s' := by
  simp only [Fits, h.state_eq]
  exact ⟨before, f, run ++ [o], by simp, h.forall_mem_concat hpressed hrun, h.timeStamp_eq⟩

lemma Turned.fits_press (h : Turned s e s' o .active ts) (hstate : s.state = .preAct)
    (hpressed : e.pressed = true) (hrun : ∀ x ∈ f :: run, x.sample.pressed = true)
    (hspan : f.time + debounceTicks ≤ e.now) : Fits (before ++ f :: run ++ [o]) s' := by
  have hstamp := h.stamp_eq
  have hpress := h.press_eq
  rw [hstate] at hstamp hpress
  simp only [Fits, h.state_eq]
  refine ⟨o, [], ⟨⟨before, f, run, by simp, h.forall_mem_concat hpressed hrun, ?_⟩, hpress,
    .nil⟩, ?_, rfl⟩
  · rwa [h.time_eq]
  · rw [hstamp, h.time_eq]
    rfl

end Pressing

section Holding

lemma Turned.stamp_eq_of_pressed (h : Turned s e s' o st ts) (hstate : s.state.pressed = true) :
    s'.longPressTimeStamp = s.longPressTimeStamp := by
  rw [h.stamp_eq, hstate, Bool.not_true, Bool.and_false]
  rfl

lemma Turned.fits_hold (h : Turned s e s' o .active ts) (hstate : s.state.pressed = true)
    (hpressed : e.pressed = true) (hordered : Ordered log) (hheld : HeldSince log p mid)
    (hp : s.longPressTimeStamp = UInt32.ofNat p.time) : Fits (log ++ [o]) s' := by
  have hrel : ¬ o.isReleased = true := by
    rw [h.isReleased_eq, hpressed]
    decide
  simp only [Fits, h.state_eq]
  refine ⟨p, mid ++ [o], hheld.concat hordered fun hrel' => absurd hrel' hrel, ?_, ?_⟩
  · rw [h.stamp_eq_of_pressed hstate, hp]
  · rw [Sampled.runStart_concat, if_neg hrel]

lemma Turned.fits_letGo {g : ℕ} (h : Turned s e s' o .preRel (UInt32.ofNat g))
    (hstate : s.state.pressed = true) (hpressed : e.pressed = false) (hordered : Ordered log)
    (hheld : HeldSince log p mid) (hp : s.longPressTimeStamp = UInt32.ofNat p.time)
    (hg : (runStart Obs.time Obs.isReleased mid).getD e.now = g)
    (hspan : e.now < g + debounceTicks) : Fits (log ++ [o]) s' := by
  have hrel : o.isReleased = true := by
    rw [h.isReleased_eq, hpressed]
    rfl
  simp only [Fits, h.state_eq]
  refine ⟨p, mid ++ [o], g, hheld.concat hordered ?_, ?_, ?_, h.timeStamp_eq, ?_⟩
  · intro _ g' hg'
    rw [Option.mem_def.1 hg', Option.getD_some] at hg
    rwa [h.time_eq, hg]
  · rw [h.stamp_eq_of_pressed hstate, hp]
  · rw [Sampled.runStart_concat, if_pos hrel, h.time_eq, hg]
  · intro o' ho'
    rw [List.getLast?_concat] at ho'
    obtain rfl := Option.some.inj ho'
    rwa [h.time_eq]

end Holding

lemma Fits.turn (h : Fits log s) (hbool : s.boolState = s.state.pressed)
    (hordered : Ordered log) (hok : InTime log s e) :
    Fits (log ++ [(s.turn e).2]) (s.turn e).1 := by
  have hle := hordered.le_of_inTime hok
  generalize hfilter : debounceFilter s.state s.timeStamp (UInt32.ofNat e.now) e.pressed = filtered
  obtain ⟨st, ts⟩ := filtered
  have hturned := turned_turn hbool hfilter
  unfold Fits at h
  -- by the state of the filter, and then by the level and the time as the filter looks at them
  cases hstate : s.state with
  | release =>
    rw [hstate, debounceFilter] at hfilter
    split at hfilter
    · cases hfilter
      exact hturned.fits_start ‹_›
    · cases hfilter
      exact fits_release hturned.state_eq
  | preAct =>
    simp only [hstate] at h
    obtain ⟨before, f, run, rfl, hrun, hf⟩ := h
    rw [hstate, debounceFilter, hf] at hfilter
    split at hfilter
    · cases hfilter
      exact fits_release hturned.state_eq
    rename_i hpressed
    rw [Bool.not_eq_true, Bool.not_eq_false'] at hpressed
    split at hfilter
    · cases hfilter
      exact hturned.fits_press hstate hpressed hrun
        (add_debounceTicks_le (hle f (by simp)) ‹_›)
    · cases hfilter
      exact hturned.fits_wait hpressed hrun
  | active =>
    simp only [hstate] at h
    obtain ⟨p, mid, hheld, hp, hnone⟩ := h
    rw [hstate, debounceFilter] at hfilter
    split at hfilter
    · rename_i hpressed
      rw [Bool.not_eq_true'] at hpressed
      cases hfilter
      exact hturned.fits_letGo (by rw [hstate]; rfl) hpressed hordered hheld hp
        (by rw [hnone, Option.getD_none]) (Nat.lt_add_of_pos_right (by decide))
    · rename_i hpressed
      rw [Bool.not_eq_true, Bool.not_eq_false'] at hpressed
      cases hfilter
      exact hturned.fits_hold (by rw [hstate]; rfl) hpressed hordered hheld hp
  | preRel =>
    simp only [hstate] at h
    obtain ⟨p, mid, g, hheld, hp, hg, hts, hspan⟩ := h
    rw [hstate, debounceFilter, hts] at hfilter
    split at hfilter
    · cases hfilter
      exact hturned.fits_hold (by rw [hstate]; rfl) ‹_› hordered hheld hp
    rename_i hpressed
    rw [Bool.not_eq_true] at hpressed
    split at hfilter
    · cases hfilter
      exact fits_release hturned.state_eq
    rename_i hticks
    cases hfilter
    obtain ⟨x, hx, rfl⟩ := Sampled.exists_mem_of_runStart hg
    have hmem := hheld.mem (List.mem_cons_of_mem p hx)
    have hlt := sub_lt_of_inTime hok (List.ne_nil_of_mem hmem) hspan
    exact hturned.fits_letGo (by rw [hstate]; rfl) hpressed hordered hheld hp
      (by rw [hg, Option.getD_some]) (lt_add_debounceTicks (hle x hmem) hlt hticks)

lemma Fits.exists_heldSince (h : Fits log s) (hpressed : s.state.pressed = true) :
    ∃ p mid, HeldSince log p mid ∧ s.longPressTimeStamp = UInt32.ofNat p.time := by
  unfold Fits at h
  cases hstate : s.state with
  | release | preAct => cases hstate ▸ hpressed
  | active =>
    simp only [hstate] at h
    obtain ⟨p, mid, hheld, hp, -⟩ := h
    exact ⟨p, mid, hheld, hp⟩
  | preRel =>
    simp only [hstate] at h
    obtain ⟨p, mid, g, hheld, hp, -⟩ := h
    exact ⟨p, mid, hheld, hp⟩

end Turn

/-! ## Long presses -/

section LongPresses

variable {log : List Obs} {s : State} {e : Sample}

def State.pendingIn (s : State) (e : Sample) : Bool :=
  (s.turn e).1.boolState && (!s.boolState || s.pendingLongPress)

lemma pendingIn_turn :
    ((s.turn e).2.longPress.isSome → s.pendingIn e = true ∧
      pdMsToTicks e.longPressTime.toNat ≤
        UInt32.ofNat e.now - (s.turn e).1.longPressTimeStamp ∧
      (s.turn e).1.pendingLongPress = false) ∧
    ((s.turn e).1.pendingLongPress = true → s.pendingIn e = true) := by
  obtain ⟨state, timeStamp, stamp, pending, boolState, counter⟩ := s
  simp only [State.pendingIn, State.turn]
  generalize (debounceFilter state timeStamp (UInt32.ofNat e.now) e.pressed).1.pressed = b
  cases b <;> cases boolState <;> cases pending <;> simp_all

lemma release_turn : (s.turn e).2.release = (s.boolState && !(s.turn e).1.boolState) := rfl

def longPressesSinceRelease (log : List Obs) : ℕ :=
  log.foldl (fun n o => if o.release then 0 else n + o.longPress.isSome.toNat) 0

/-- Between two releases there is one long press at most. -/
def AtMostOnce (log : List Obs) : Prop :=
  ∀ l₁ mid l₂, log = l₁ ++ (mid ++ l₂) → (∀ o ∈ mid, o.release = false) →
    mid.countP (·.longPress.isSome) ≤ 1

lemma longPressesSinceRelease_concat (log : List Obs) (o : Obs) :
    longPressesSinceRelease (log ++ [o]) =
      if o.release then 0 else longPressesSinceRelease log + o.longPress.isSome.toNat := by
  rw [longPressesSinceRelease, List.foldl_append]
  rfl

lemma countP_le_longPressesSinceRelease {l₁ mid : List Obs} (h : ∀ o ∈ mid, o.release = false) :
    mid.countP (·.longPress.isSome) ≤ longPressesSinceRelease (l₁ ++ mid) := by
  induction mid using List.reverseRecOn with
  | nil => exact Nat.zero_le _
  | append_singleton mid o ih =>
    have ho : o.release = false := h o (by simp)
    have ih := ih fun o' ho' => h o' (by simp [ho'])
    rw [← List.append_assoc, longPressesSinceRelease_concat, ho, List.countP_append,
      List.countP_singleton]
    cases o.longPress.isSome <;> simp <;> omega

lemma AtMostOnce.concat {o : Obs} (h : AtMostOnce log)
    (ho : longPressesSinceRelease (log ++ [o]) ≤ 1) : AtMostOnce (log ++ [o]) := by
  intro l₁ mid l₂ heq hmid
  rcases List.eq_nil_or_concat' l₂ with rfl | ⟨l₂, o', rfl⟩
  · rw [List.append_nil] at heq
    rw [heq] at ho
    exact (countP_le_longPressesSinceRelease hmid).trans ho
  · have heq' : log ++ [o] = (l₁ ++ (mid ++ l₂)) ++ [o'] := by simpa using heq
    exact h l₁ mid l₂ (List.append_inj' heq' rfl).1 hmid

structure Inv (log : List Obs) (s : State) : Prop where
  ordered : Ordered log
  boolState_eq : s.boolState = s.state.pressed
  fits : Fits log s
  longPressOk : Entries LongPressOk log
  atMostOnce : AtMostOnce log
  count_le : longPressesSinceRelease log ≤ 1
  count_eq : s.pendingLongPress = true ∨ s.boolState = false → longPressesSinceRelease log = 0

lemma Inv.longPressOk_turn (h : Inv log s) (hok : InTime log s e) :
    LongPressOk log (s.turn e).2 := by
  intro hlong
  obtain ⟨hpending, hticks, -⟩ := pendingIn_turn.1 hlong
  have hpressed : (s.turn e).1.boolState = true := (Bool.and_eq_true_iff.1 hpending).1
  obtain ⟨p, mid, hheld, hp⟩ :=
    (h.fits.turn h.boolState_eq h.ordered hok).exists_heldSince hpressed
  have hle : p.time ≤ e.now := by
    have hmem := hheld.mem List.mem_cons_self
    rw [List.mem_append, List.mem_singleton] at hmem
    obtain hmem | rfl := hmem
    · exact h.ordered.le_of_inTime hok p hmem
    · exact le_refl _
  rw [hp, UInt32.le_iff_toNat_le, toNat_pdMsToTicks e.longPressTime.toNat_lt] at hticks
  have hsub := Sampled.toNat_ofNat_sub_le hle
  refine ⟨p, mid, hheld, ?_⟩
  change p.time + e.longPressTime.toNat * configTickRateHz / 1000 ≤ e.now
  omega

lemma Inv.count_turn (h : Inv log s) :
    longPressesSinceRelease (log ++ [(s.turn e).2]) ≤ 1 ∧
      ((s.turn e).1.pendingLongPress = true ∨ (s.turn e).1.boolState = false →
        longPressesSinceRelease (log ++ [(s.turn e).2]) = 0) := by
  have hcount (hpending : s.pendingIn e = true) : longPressesSinceRelease log = 0 := by
    apply h.count_eq
    rw [State.pendingIn] at hpending
    cases hbool : s.boolState <;> simp_all
  rw [longPressesSinceRelease_concat, release_turn]
  by_cases hlong : (s.turn e).2.longPress.isSome
  · -- the callback has run, so nothing is pending any more
    obtain ⟨hpending, -, hpending'⟩ := pendingIn_turn.1 hlong
    have hpressed : (s.turn e).1.boolState = true := (Bool.and_eq_true_iff.1 hpending).1
    simp [hlong, hcount hpending, hpending', hpressed]
  · rw [Bool.not_eq_true] at hlong
    rw [hlong, Bool.toNat_false, Nat.add_zero]
    split
    · exact ⟨Nat.zero_le _, fun _ => rfl⟩
    rename_i hrelease
    refine ⟨h.count_le, ?_⟩
    rintro (hpending | hbool)
    · exact hcount (pendingIn_turn.2 hpending)
    · -- it was released before
      rw [hbool, Bool.not_false, Bool.and_true, Bool.not_eq_true] at hrelease
      exact h.count_eq (.inr hrelease)

end LongPresses

/-- The long press callback runs at most once between two releases. When it runs, the button has
been held for the time that is set since a press event, and was seen pressed for the debounce time
before that event. -/
theorem longPress_held (start : UInt32) {log : List Obs} {s : State}
    (hrun : (machine start).Run InTime log s) : AtMostOnce log ∧ Entries LongPressOk log := by
  have h : Inv log s := by
    refine hrun.invariant (P := Inv) ?_ ?_
    · refine ⟨List.Pairwise.nil, rfl, trivial, .nil, ?_, Nat.zero_le _, fun _ => rfl⟩
      intro l₁ mid l₂ heq _
      simp_all
    · intro log s e s' out _ h hok hstep
      cases hstep
      exact ⟨h.ordered.turn hok, rfl, h.fits.turn h.boolState_eq h.ordered hok,
        h.longPressOk.concat (h.longPressOk_turn hok), h.atMostOnce.concat h.count_turn.1,
        h.count_turn.1, h.count_turn.2⟩
  exact ⟨h.atMostOnce, h.longPressOk⟩

/-- A button that bounces when it is pressed and is then held for five seconds, while the tick
counter wraps around. -/
theorem longPress_held_wrap :
    ∃ log s, (machine 0).Run InTime log s ∧ (∃ o ∈ log, o.longPress = some 2500) ∧
      AtMostOnce log ∧ Entries LongPressOk log := by
  obtain ⟨log, s, hrun, hlong⟩ := Machine.Run.exists_of_exec (machine 0) InTime
    [⟨2 ^ 32 - 20, true, 5000, true⟩, ⟨2 ^ 32 - 15, false, 5000, true⟩,
      ⟨2 ^ 32 - 10, true, 5000, true⟩, ⟨2 ^ 32 + 15, true, 5000, true⟩,
      ⟨2 ^ 32 + 2514, true, 5000, true⟩, ⟨2 ^ 32 + 2515, true, 5000, true⟩]
    (fun log _ => ∃ o ∈ log, o.longPress = some 2500) (by decide +kernel)
  exact ⟨log, s, hrun, hlong, longPress_held 0 hrun⟩

end WbMge.ConfigButton
