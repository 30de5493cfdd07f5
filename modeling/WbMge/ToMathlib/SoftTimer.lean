import Mathlib.Data.List.Basic

/-!
# One-shot timers behind a command queue

A software timer that its users do not touch: they post start and stop commands to a queue, and a
timer service takes the commands out in order, some time later. A start arms the timer, a stop
disarms it, and an armed timer expires once.

`settled` is the timer once all commands are executed. It follows the posted commands at once and
does not change when the service executes one, so it is what an invariant of the users can speak
about. `WillRun` is the property of the timer as it stands.
-/

inductive TimerCommand where
  | start
  | stop
deriving Repr, DecidableEq

structure SoftTimer where
  armed : Bool
  commands : List TimerCommand
deriving Repr, DecidableEq

namespace SoftTimer

def init : SoftTimer := ⟨false, []⟩

def post (t : SoftTimer) (c : TimerCommand) : SoftTimer := { t with commands := t.commands ++ [c] }

def armedBy (c : TimerCommand) : Bool := c == .start

def execute (t : SoftTimer) : Option SoftTimer :=
  match t.commands with
  | [] => none
  | c :: cs => some ⟨armedBy c, cs⟩

def expire (t : SoftTimer) : Option SoftTimer :=
  if t.armed then some { t with armed := false } else none

def settled (t : SoftTimer) : Bool := t.commands.foldl (fun _ c => armedBy c) t.armed

/-- The timer is armed, or is going to be by the last command. -/
def WillRun (t : SoftTimer) : Prop :=
  t.armed = true ∨ ∃ l₁ l₂, t.commands = l₁ ++ .start :: l₂ ∧ .stop ∉ l₂

variable {t t' : SoftTimer}

@[simp] lemma settled_post (t : SoftTimer) (c : TimerCommand) :
    (t.post c).settled = armedBy c := by
  simp [settled, post]

lemma settled_execute (h : t.execute = some t') : t'.settled = t.settled := by
  rw [execute] at h
  split at h
  · cases h
  · rename_i c cs hcommands
    obtain rfl := Option.some.inj h
    simp [settled, hcommands]

lemma not_willRun_init : ¬ init.WillRun := by
  simp [WillRun, init]

lemma willRun_of_settled (h : t.settled = true) : t.WillRun := by
  rcases List.eq_nil_or_concat t.commands with hnil | ⟨cs, c, hconcat⟩
  · exact .inl (by simpa [settled, hnil] using h)
  · -- the last command is a start, and no stop is behind it
    have hstart : c = .start := by simpa [settled, hconcat, armedBy] using h
    exact .inr ⟨cs, [], by rw [hconcat, hstart, List.concat_eq_append], by simp⟩

end SoftTimer
