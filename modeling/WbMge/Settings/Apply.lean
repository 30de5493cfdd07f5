import WbMge.Settings.HandOver

/-!
# One update after the other

`settings_update_with_status` is called by the task of the web server, for POST /settings and POST
/cmd, and by the task of the button, for a factory reset. A call waits until the update task of an
earlier call has finished, compares the settings, and creates an update task of its own if there is
something to do. The handle of the task is all that the three share.

The machine interleaves the steps of the two callers and of any number of update tasks. To release
the socket of the web server a task stops the server, which ends only when the server is not inside
of a handler.

Both promises of this arrangement fail. The server may take a request whose handler waits for the
update, while the update waits for the handler, for good. And two callers can both find the handle
empty before either of them creates a task.
-/

namespace WbMge.Settings.Apply

open PortManager (espOk)

/-! ## The system -/

/-- The tasks that call `settings_update_with_status`. -/
inductive Caller where
  | httpd
  | button
deriving Repr, DecidableEq

def Caller.other : Caller → Caller
  | httpd => button
  | button => httpd

/-- Where a caller is in `settings_update_with_status`. -/
inductive Call where
  | idle
  | called
  | waiting
  | passed
  /-- Before `xTaskCreate`. -/
  | creating (fl : UpdateFlags)

def Call.isPast : Call → Bool
  | passed | creating _ => true
  | idle | called | waiting => false

def Call.isWaiting : Call → Bool
  | waiting => true
  | idle | called | passed | creating _ => false

def Call.isIdle : Call → Bool
  | idle => true
  | called | waiting | passed | creating _ => false

/-- A run of `settings_update_task`. -/
structure Task where
  /-- Inside of `httpd_stop`. -/
  stopping : Bool
  locals : Locals
  todo : List Phase
deriving Repr, DecidableEq

def Task.stopsWeb (t : Task) : Bool := t.todo.contains (.release .web)

/-- The calls of `settings_update_with_status` and the tasks they create. -/
structure State where
  nvs : Nvs
  device : Device
  /-- `update_task_handle`. -/
  handle : Option Nat
  calls : Caller → Call
  tasks : List (Nat × Task)
  created : Nat

inductive Event where
  | call (c : Caller) (nvs : Nvs)
  | check (c : Caller)
  | collect (c : Caller) (network : NetworkFlags)
  /-- `xTaskCreate`. -/
  | create (c : Caller) (ok : Bool)
  | run (i : Nat) (e : UpdateEnv)

namespace State

variable (inet : Inet) (f : Factory) (s : State)

def setCall (c : Caller) (call : Call) : State :=
  { s with calls := Function.update s.calls c call }

def setTask (i : Nat) (t : Task) : State :=
  { s with tasks := s.tasks.map fun r => if r.1 = i then (i, t) else r }

def finish (i : Nat) : State :=
  { s with handle := none, tasks := s.tasks.filter fun r => r.1 ≠ i }

def spawn (fl : UpdateFlags) : State :=
  { s with
    handle := some s.created
    tasks := (s.created, ⟨false, {}, fl.phases⟩) :: s.tasks
    created := s.created + 1 }

def runPhase (i : Nat) (t : Task) (ph : Phase) (todo : List Phase) (e : UpdateEnv) : State :=
  let r := Phase.run inet f s.nvs e (t.locals, s.device) ph
  { s with device := r.2 }.setTask i ⟨false, r.1, todo⟩

/-- The next part of an update task. `http_server_deinit` calls `httpd_stop` if there is a server,
and `httpd_stop` returns when the server is not in a handler. -/
def runTask (i : Nat) (t : Task) (e : UpdateEnv) : Option State :=
  match t.todo with
  | [] => some (s.finish i)
  | ph :: todo =>
    if ph = .release .web ∧ s.device.http.isSome then
      if !t.stopping then some (s.setTask i { t with stopping := true })
      else if (s.calls .httpd).isIdle then some (s.runPhase inet f i t ph todo e)
      else none
    else some (s.runPhase inet f i t ph todo e)

def step : Event → Option (State × List Empty)
  | .call c nvs =>
    if (s.calls c).isIdle ∧ (c = .httpd → s.device.http.isSome) then
      some ({ s with nvs }.setCall c .called, [])
    else none
  | .check c =>
    match s.calls c with
    | .called | .waiting =>
      some (s.setCall c (if s.handle = none then .passed else .waiting), [])
    | _ => none
  | .collect c network =>
    match s.calls c with
    | .passed =>
      let fl := updateFlags inet f s.nvs network s.device
      some (s.setCall c (if fl.isZero then .idle else .creating fl), [])
    | _ => none
  | .create c ok =>
    match s.calls c with
    | .creating fl => some ((if ok then s.spawn fl else s).setCall c .idle, [])
    | _ => none
  | .run i e => ((s.tasks.lookup i).bind fun t => s.runTask inet f i t e).map fun s => (s, [])

end State

def machine (inet : Inet) (f : Factory) (nvs : Nvs) (device : Device) :
    Machine State Event Empty where
  init :=
    { nvs
      device
      handle := none
      calls := fun _ => .idle
      tasks := []
      created := 0 }
  step := State.step inet f

/-! ## What a step can do -/

section Step

variable {inet : Inet} {f : Factory} {s s' : State} {ev : Event} {out : List Empty}

/-- The steps by their cases. -/
inductive Step (inet : Inet) (f : Factory) (s : State) : Event → State → Prop
  | call {c nvs} (hidle : (s.calls c).isIdle = true) :
      Step inet f s (.call c nvs) ({ s with nvs }.setCall c .called)
  | pass {c} (hhandle : s.handle = none) : Step inet f s (.check c) (s.setCall c .passed)
  | wait {c} (hhandle : s.handle ≠ none) : Step inet f s (.check c) (s.setCall c .waiting)
  | unchanged {c network} (hcall : s.calls c = .passed) :
      Step inet f s (.collect c network) (s.setCall c .idle)
  | collect {c network fl} (hcall : s.calls c = .passed) :
      Step inet f s (.collect c network) (s.setCall c (.creating fl))
  | create {c fl} (hcall : s.calls c = .creating fl) :
      Step inet f s (.create c true) ((s.spawn fl).setCall c .idle)
  | lost {c fl} (hcall : s.calls c = .creating fl) :
      Step inet f s (.create c false) (s.setCall c .idle)
  | stop {i e t todo} (ht : (i, t) ∈ s.tasks) (htodo : t.todo = .release .web :: todo)
      (hstopping : t.stopping = false) :
      Step inet f s (.run i e) (s.setTask i { t with stopping := true })
  | phase {i e t ph todo} (ht : (i, t) ∈ s.tasks) (htodo : t.todo = ph :: todo)
      (hweb : ph = .release .web → s.device.http.isSome = true →
        (s.calls .httpd).isIdle = true) :
      Step inet f s (.run i e) (s.runPhase inet f i t ph todo e)
  | finish {i e t} (ht : (i, t) ∈ s.tasks) (htodo : t.todo = []) :
      Step inet f s (.run i e) (s.finish i)

lemma Step.of_runTask {i : Nat} {e : UpdateEnv} {t : Task} (ht : (i, t) ∈ s.tasks)
    (h : s.runTask inet f i t e = some s') : Step inet f s (.run i e) s' := by
  unfold State.runTask at h
  repeat' split at h
  all_goals cases h
  · exact .finish ht ‹_›
  · rename_i htodo hweb hstopping
    exact .stop ht (hweb.1 ▸ htodo) (by simpa using hstopping)
  · exact .phase ht ‹_› fun _ _ => ‹_›
  · rename_i htodo hother
    exact .phase ht htodo fun hph hhttp => absurd ⟨hph, hhttp⟩ hother

lemma Step.of_step (h : s.step inet f ev = some (s', out)) : Step inet f s ev s' := by
  cases ev with
  | run i e =>
    simp only [State.step, Option.map_eq_some_iff, Option.bind_eq_some_iff] at h
    obtain ⟨s₁, ⟨t, hlookup, hrun⟩, hs⟩ := h
    cases hs
    obtain ⟨l₁, l₂, htasks, -⟩ := List.lookup_eq_some_iff.1 hlookup
    exact .of_runTask (by simp [htasks]) hrun
  | create c ok =>
    cases ok <;> simp only [State.step] at h <;> split at h <;> cases h
    · exact .lost ‹_›
    · exact .create ‹_›
  | _ =>
    simp only [State.step] at h
    repeat' split at h
    all_goals cases h
    all_goals first
      | exact .call (And.left ‹_›)
      | exact .pass ‹_›
      | exact .wait ‹_›
      | exact .unchanged ‹_›
      | exact .collect ‹_›

end Step

/-! ## One update at a time -/

section Exclusive

variable {inet : Inet} {f : Factory} {s s' : State} {ev : Event} {log : List Empty}

/-- A caller finds the handle NULL only if the other one is not past the check. -/
def passesAlone (_log : List Empty) (s : State) : Event → Prop
  | .check c => s.handle = none → (s.calls c.other).isPast = false
  | _ => True

instance (log : List Empty) (s : State) (ev : Event) : Decidable (passesAlone log s ev) := by
  cases ev <;> unfold passesAlone <;> infer_instance

/-- At most one update task, which the handle belongs to, or one call that is about to create it. -/
structure State.Exclusive (s : State) : Prop where
  length_le : s.tasks.length ≤ 1
  handle : ∀ r ∈ s.tasks, s.handle = some r.1
  nil_of_past : ∀ c, (s.calls c).isPast = true → s.tasks = []
  alone : ∀ c c', (s.calls c).isPast = true → (s.calls c').isPast = true → c = c'

variable {c : Caller}

lemma Caller.eq_other {c' : Caller} (h : c' ≠ c) : c' = c.other := by
  cases c <;> cases c' <;> first | rfl | exact absurd rfl h

lemma State.isPast_setCall {c' : Caller} {call : Call}
    (h : ((s.setCall c call).calls c').isPast = true) :
    c' = c ∧ call.isPast = true ∨ c' ≠ c ∧ (s.calls c').isPast = true := by
  simp only [setCall] at h
  by_cases hc : c' = c
  · rw [hc, Function.update_self] at h
    exact .inl ⟨hc, h⟩
  · rw [Function.update_of_ne hc] at h
    exact .inr ⟨hc, h⟩

lemma State.Exclusive.setCall (h : s.Exclusive) {call : Call}
    (hcall : call.isPast = true → (s.calls c).isPast = true) : (s.setCall c call).Exclusive := by
  have hpast (c' : Caller) (hc' : ((s.setCall c call).calls c').isPast = true) :
      (s.calls c').isPast = true := by
    rcases isPast_setCall hc' with ⟨rfl, hpast⟩ | ⟨-, hpast⟩
    · exact hcall hpast
    · exact hpast
  exact ⟨h.length_le, h.handle, fun c' hc' => h.nil_of_past c' (hpast c' hc'),
    fun c₁ c₂ h₁ h₂ => h.alone c₁ c₂ (hpast c₁ h₁) (hpast c₂ h₂)⟩

lemma State.Exclusive.pass (h : s.Exclusive) (hhandle : s.handle = none)
    (halone : (s.calls c.other).isPast = false) : (s.setCall c .passed).Exclusive := by
  -- a task would have the handle
  have hnil : s.tasks = [] := by
    rw [List.eq_nil_iff_forall_not_mem]
    intro r hr
    rw [h.handle r hr] at hhandle
    cases hhandle
  have honly (c' : Caller) (hc' : ((s.setCall c .passed).calls c').isPast = true) : c' = c := by
    rcases isPast_setCall hc' with ⟨hc, -⟩ | ⟨hne, hpast⟩
    · exact hc
    · rw [Caller.eq_other hne, halone] at hpast
      cases hpast
  exact ⟨h.length_le, h.handle, fun _ _ => hnil, fun c₁ c₂ h₁ h₂ =>
    (honly c₁ h₁).trans (honly c₂ h₂).symm⟩

lemma State.Exclusive.create (h : s.Exclusive) {fl : UpdateFlags}
    (hcall : s.calls c = .creating fl) : ((s.spawn fl).setCall c .idle).Exclusive := by
  have hc : (s.calls c).isPast = true := by
    rw [hcall]
    rfl
  have hnone (c' : Caller) : (((s.spawn fl).setCall c .idle).calls c').isPast ≠ true := by
    intro hc'
    rcases isPast_setCall hc' with ⟨-, hidle⟩ | ⟨hne, hpast⟩
    · cases hidle
    · exact hne (h.alone c' c hpast hc)
  have htasks : ((s.spawn fl).setCall c .idle).tasks = [(s.created, ⟨false, {}, fl.phases⟩)] :=
    congrArg (List.cons _) (h.nil_of_past c hc)
  refine ⟨?_, ?_, fun c' hc' => absurd hc' (hnone c'), fun c₁ _ h₁ => absurd h₁ (hnone c₁)⟩
  · rw [htasks]
    rfl
  · intro r hr
    rw [htasks, List.mem_singleton] at hr
    rw [hr]
    rfl

lemma State.Exclusive.setTask (h : s.Exclusive) (i : Nat) (t : Task) :
    (s.setTask i t).Exclusive where
  length_le := by
    simp only [State.setTask, List.length_map]
    exact h.length_le
  handle r hr := by
    obtain ⟨r', hr', rfl⟩ := List.mem_map.1 hr
    rw [show (s.setTask i t).handle = some r'.1 from h.handle r' hr']
    split
    · rename_i hi
      rw [hi]
    · rfl
  nil_of_past c hc := by
    have hnil : s.tasks = [] := h.nil_of_past c hc
    simp only [State.setTask, hnil, List.map_nil]
  alone := h.alone

lemma State.Exclusive.set (h : s.Exclusive) (nvs : Nvs) (device : Device) :
    State.Exclusive { s with nvs, device } :=
  ⟨h.length_le, h.handle, h.nil_of_past, h.alone⟩

lemma State.Exclusive.finish (h : s.Exclusive) {i : Nat} {t : Task} (ht : (i, t) ∈ s.tasks) :
    (s.finish i).Exclusive := by
  have htasks : s.tasks = [(i, t)] := by
    obtain ⟨r, hr⟩ := List.length_eq_one_iff.1
      (Nat.le_antisymm h.length_le (List.length_pos_of_mem ht))
    rw [hr, List.mem_singleton] at ht
    rw [hr, ht]
  have hnil : (s.finish i).tasks = [] := by simp [State.finish, htasks]
  refine ⟨by simp [hnil], by simp [hnil], fun _ _ => hnil, h.alone⟩

lemma State.Exclusive.step (h : s.Exclusive) (hok : passesAlone log s ev)
    (hstep : Step inet f s ev s') : s'.Exclusive := by
  cases hstep with
  | call => exact (h.set _ s.device).setCall fun hpast => absurd hpast Bool.false_ne_true
  | pass hhandle => exact h.pass hhandle (hok hhandle)
  | wait | unchanged | lost => exact h.setCall fun hpast => absurd hpast Bool.false_ne_true
  | collect hcall =>
    refine h.setCall fun _ => ?_
    rw [hcall]
    rfl
  | create hcall => exact h.create hcall
  | stop => exact h.setTask _ _
  | phase => exact (h.set s.nvs _).setTask _ _
  | finish ht _ => exact h.finish ht

/-- There is one update task at a time, if a call does not find the handle NULL while the other one
is about to create a task. -/
theorem length_tasks_le_one_of_passesAlone (inet : Inet) (f : Factory) (nvs : Nvs) (device : Device)
    {log : List Empty} {s : State} (hrun : (machine inet f nvs device).Run passesAlone log s) :
    s.tasks.length ≤ 1 := by
  have hexclusive : s.Exclusive := by
    refine hrun.invariant (P := fun _ s => s.Exclusive) ?_ ?_
    · exact ⟨Nat.zero_le 1, fun _ hr => absurd hr List.not_mem_nil, fun _ _ => rfl,
        fun _ _ hpast => absurd hpast Bool.false_ne_true⟩
    · intro log s ev s' out _ h hok hstep
      exact h.step hok (Step.of_step hstep)
  exact hexclusive.length_le

def movedWeb : Nvs := Nvs.write (fun _ => none) .webPort "8080".toList

def sameNetwork : NetworkFlags := ⟨false, false, false⟩

def update (c : Caller) (nvs : Nvs) : List Event :=
  [.call c nvs, .check c, .collect c sameNetwork, .create c true]

def pressedLater : List Event :=
  update .httpd movedWeb ++ [.call .button (fun _ => none), .check .button]

theorem length_tasks_le_one_pressedLater : ∃ log s,
    (machine strictInet ⟨none, none⟩ (fun _ => none) freshDevice).Run passesAlone log s ∧
      (s.calls .button).isWaiting = true ∧ s.tasks.length = 1 ∧ s.tasks.length ≤ 1 := by
  obtain ⟨log, s, hrun, hwait, htasks⟩ := Machine.Run.exists_of_exec
    (machine strictInet ⟨none, none⟩ (fun _ => none) freshDevice) passesAlone pressedLater
    (fun _ s => (s.calls .button).isWaiting = true ∧ s.tasks.length = 1) (by decide +kernel)
  exact ⟨log, s, hrun, hwait, htasks, length_tasks_le_one_of_passesAlone _ _ _ _ hrun⟩

/-- The button is pressed, and before its call has looked at the handle, the web server is told to
move. Both calls find the handle NULL. -/
def pressedTogether : List Event :=
  [.call .button (fun _ => none), .call .httpd movedWeb, .check .button, .check .httpd,
    .collect .button sameNetwork, .collect .httpd sameNetwork, .create .button true,
    .create .httpd true]

/-- Two tasks are about to move the web server. -/
theorem two_tasks_pressedTogether : ∃ log s,
    (machine strictInet ⟨none, none⟩ (fun _ => none) freshDevice).Run Machine.anyStep log s ∧
      s.tasks.map (fun r => r.2.todo) =
        [[.delay, .release .web, .acquire .web], [.delay, .release .web, .acquire .web]] ∧
      ¬ s.tasks.length ≤ 1 := by
  obtain ⟨log, s, hrun, htodo⟩ := Machine.Run.exists_of_exec
    (machine strictInet ⟨none, none⟩ (fun _ => none) freshDevice) Machine.anyStep pressedTogether
    (fun _ s => s.tasks.map (fun r => r.2.todo) =
      [[.delay, .release .web, .acquire .web], [.delay, .release .web, .acquire .web]])
    (by decide +kernel)
  refine ⟨log, s, hrun, htodo, ?_⟩
  have hlength := congrArg List.length htodo
  rw [List.length_map] at hlength
  rw [hlength]
  decide

end Exclusive

/-! ## Waiting for each other -/

section Deadlock

variable {inet : Inet} {f : Factory} {s s' : State} {ev : Event} {log : List Empty}

/-- An update task is inside of `http_server_release` and waits for the handler of the web server,
which waits for the handle. -/
def State.Deadlock (s : State) : Prop :=
  (s.calls .httpd).isWaiting = true ∧ ∃ r ∈ s.tasks, r.2.stopping = true
deriving Decidable

def Call.stopsWeb : Call → Bool
  | creating fl => fl.httpServer
  | idle | called | waiting | passed => false

/-- The handler does not start to wait while an update task is still going to stop the web server,
and no such task is created while the handler waits. -/
def waitsSafely (_log : List Empty) (s : State) : Event → Prop
  | .check .httpd =>
    (s.calls .httpd).isWaiting = false → s.handle ≠ none → ∀ r ∈ s.tasks, r.2.stopsWeb = false
  | .create c true => (s.calls .httpd).isWaiting = true → (s.calls c).stopsWeb = false
  | _ => True

instance (log : List Empty) (s : State) (ev : Event) : Decidable (waitsSafely log s ev) := by
  unfold waitsSafely
  split <;> infer_instance

/-- No task stops the web server while its handler waits. -/
structure State.Safe (s : State) : Prop where
  stopsWeb : ∀ r ∈ s.tasks, r.2.stopping = true → r.2.stopsWeb = true
  waiting : (s.calls .httpd).isWaiting = true → ∀ r ∈ s.tasks, r.2.stopsWeb = false

lemma State.Safe.not_deadlock (h : s.Safe) : ¬ s.Deadlock := by
  rintro ⟨hwaiting, r, hr, hstopping⟩
  have hstops := h.stopsWeb r hr hstopping
  rw [h.waiting hwaiting r hr] at hstops
  cases hstops

lemma State.Safe.setCall (h : s.Safe) {c : Caller} {call : Call}
    (hcall : call.isWaiting = true → c = .httpd → ∀ r ∈ s.tasks, r.2.stopsWeb = false) :
    (s.setCall c call).Safe := by
  refine ⟨h.stopsWeb, fun hwaiting => ?_⟩
  simp only [State.setCall] at hwaiting ⊢
  by_cases hc : Caller.httpd = c
  · rw [hc, Function.update_self] at hwaiting
    exact hcall hwaiting hc.symm
  · rw [Function.update_of_ne hc] at hwaiting
    exact h.waiting hwaiting

lemma State.Safe.set (h : s.Safe) (nvs : Nvs) (device : Device) :
    State.Safe { s with nvs, device } :=
  ⟨h.stopsWeb, h.waiting⟩

lemma State.Safe.setTask (h : s.Safe) {i : Nat} {t t' : Task} (ht : (i, t) ∈ s.tasks)
    (hstopping : t'.stopping = true → t'.stopsWeb = true)
    (hstops : t'.stopsWeb = true → t.stopsWeb = true) : (s.setTask i t').Safe := by
  constructor
  · intro r hr hr'
    obtain ⟨r₀, hr₀, rfl⟩ := List.mem_map.1 hr
    by_cases hi : r₀.1 = i
    · rw [if_pos hi] at hr' ⊢
      exact hstopping hr'
    · rw [if_neg hi] at hr' ⊢
      exact h.stopsWeb r₀ hr₀ hr'
  · intro hwaiting r hr
    obtain ⟨r₀, hr₀, rfl⟩ := List.mem_map.1 hr
    split
    · -- what is left to do was left to do before
      rw [Bool.eq_false_iff]
      intro hstops'
      have hold := hstops hstops'
      rw [h.waiting hwaiting (i, t) ht] at hold
      cases hold
    · exact h.waiting hwaiting r₀ hr₀

lemma State.Safe.finish (h : s.Safe) (i : Nat) : (s.finish i).Safe :=
  ⟨fun r hr => h.stopsWeb r (List.mem_of_mem_filter hr),
    fun hwaiting r hr => h.waiting hwaiting r (List.mem_of_mem_filter hr)⟩

lemma stopsWeb_phases (fl : UpdateFlags) :
    Task.stopsWeb ⟨false, {}, fl.phases⟩ = fl.httpServer := by
  have hmem : Phase.release .web ∈ fl.phases ↔ fl.httpServer = true := by
    simp [UpdateFlags.phases, UpdateFlags.released]
  rw [Task.stopsWeb, Bool.eq_iff_iff, List.contains_iff_mem]
  exact hmem

lemma State.Safe.create (h : s.Safe) {c : Caller} {fl : UpdateFlags}
    (hcall : s.calls c = .creating fl)
    (hok : (s.calls .httpd).isWaiting = true → (s.calls c).stopsWeb = false) :
    ((s.spawn fl).setCall c .idle).Safe := by
  have hspawn : (s.spawn fl).Safe := by
    constructor
    · intro r hr hstopping
      rcases List.mem_cons.1 hr with rfl | hr
      · cases hstopping
      · exact h.stopsWeb r hr hstopping
    · intro hwaiting r hr
      rcases List.mem_cons.1 hr with rfl | hr
      · have hflag := hok hwaiting
        rw [hcall] at hflag
        exact (stopsWeb_phases fl).trans hflag
      · exact h.waiting hwaiting r hr
  exact hspawn.setCall fun hwaiting => absurd hwaiting Bool.false_ne_true

lemma State.Safe.step (h : s.Safe) (hok : waitsSafely log s ev) (hstep : Step inet f s ev s') :
    s'.Safe := by
  cases hstep with
  | call => exact (h.set _ s.device).setCall fun hwaiting => absurd hwaiting Bool.false_ne_true
  | pass | unchanged | collect | lost =>
    exact h.setCall fun hwaiting => absurd hwaiting Bool.false_ne_true
  | wait hhandle =>
    refine h.setCall fun _ hc => ?_
    subst hc
    -- the handler waits already, or starts to
    cases hwaiting : (s.calls .httpd).isWaiting with
    | true => exact h.waiting hwaiting
    | false => exact hok hwaiting hhandle
  | create hcall => exact h.create hcall hok
  | stop ht htodo _ =>
    refine h.setTask ht (fun _ => ?_) id
    simp [Task.stopsWeb, htodo]
  | phase ht htodo _ =>
    refine (h.set s.nvs _).setTask ht (fun hstopping => absurd hstopping Bool.false_ne_true) ?_
    intro hstops
    rw [Task.stopsWeb, List.contains_iff_mem] at hstops ⊢
    rw [htodo]
    exact List.mem_cons_of_mem _ hstops
  | finish => exact h.finish _

/-- The update and the handler do not wait for each other, if the handler does not wait for an
update that is still going to stop the web server. -/
theorem not_deadlock_of_waitsSafely (inet : Inet) (f : Factory) (nvs : Nvs) (device : Device)
    {log : List Empty} {s : State} (hrun : (machine inet f nvs device).Run waitsSafely log s) :
    ¬ s.Deadlock := by
  have hsafe : s.Safe := by
    refine hrun.invariant (P := fun _ s => s.Safe) ?_ ?_
    · exact ⟨fun _ hr => absurd hr List.not_mem_nil, fun _ _ hr => absurd hr List.not_mem_nil⟩
    · intro log s ev s' out _ h hok hstep
      exact h.step hok (Step.of_step hstep)
  exact hsafe.not_deadlock

def requestAfter : List Event :=
  update .httpd movedWeb ++ List.replicate 4 (.run 0 quietEnv) ++
    [.call .httpd (fun _ => none), .check .httpd]

theorem not_deadlock_requestAfter : ∃ log s,
    (machine strictInet ⟨none, none⟩ (fun _ => none) freshDevice).Run waitsSafely log s ∧
      s.device.http = some 8080 ∧ (s.calls .httpd).isWaiting = true ∧ ¬ s.Deadlock := by
  obtain ⟨log, s, hrun, hhttp, hwait⟩ := Machine.Run.exists_of_exec
    (machine strictInet ⟨none, none⟩ (fun _ => none) freshDevice) waitsSafely requestAfter
    (fun _ s => s.device.http = some 8080 ∧ (s.calls .httpd).isWaiting = true) (by decide +kernel)
  exact ⟨log, s, hrun, hhttp, hwait, not_deadlock_of_waitsSafely _ _ _ _ hrun⟩

/-- The only update task waits for the handler, the handler waits for the task, and the button is
not about to create another one. -/
structure State.Stuck (s : State) (i : Nat) (t : Task) : Prop where
  httpd : s.calls .httpd = .waiting
  button : (s.calls .button).isPast = false
  handle : s.handle = some i
  tasks : s.tasks = [(i, t)]
  stopping : t.stopping = true
  todo : t.todo.head? = some (.release .web)
  web : s.device.http.isSome = true

variable {i : Nat} {t : Task}

lemma State.Stuck.setCall (h : s.Stuck i t) {c : Caller} {call : Call}
    (hhttpd : c = .httpd → call = .waiting) (hbutton : call.isPast = false) :
    (s.setCall c call).Stuck i t := by
  refine { h with httpd := ?_, button := ?_ }
  · by_cases hc : Caller.httpd = c
    · simp only [State.setCall, hc, Function.update_self]
      exact hhttpd hc.symm
    · simp only [State.setCall, Function.update_of_ne hc]
      exact h.httpd
  · by_cases hc : Caller.button = c
    · simp only [State.setCall, hc, Function.update_self]
      exact hbutton
    · simp only [State.setCall, Function.update_of_ne hc]
      exact h.button

lemma State.Stuck.isPast (h : s.Stuck i t) (c : Caller) :
    (s.calls c).isPast = false := by
  cases c with
  | httpd =>
    rw [h.httpd]
    rfl
  | button => exact h.button

/-- No step leads out of it. -/
lemma State.Stuck.step (h : s.Stuck i t) (hstep : Step inet f s ev s') :
    s'.Stuck i t := by
  -- neither caller can create a task, and the task is the one there is
  have hpast {c : Caller} {call : Call} (hcall : s.calls c = call) : call.isPast = false :=
    hcall ▸ h.isPast c
  have htask {j : Nat} {t' : Task} (ht : (j, t') ∈ s.tasks) : t' = t := by
    rw [h.tasks, List.mem_singleton] at ht
    exact (Prod.mk.inj ht).2
  cases hstep with
  | @call c nvs hidle =>
    have hc : c ≠ .httpd := by
      rintro rfl
      rw [h.httpd] at hidle
      cases hidle
    have hset : State.Stuck { s with nvs } i t := { h with }
    exact hset.setCall (fun hc' => absurd hc' hc) rfl
  | pass hhandle =>
    rw [h.handle] at hhandle
    cases hhandle
  | wait => exact h.setCall (fun _ => rfl) rfl
  | unchanged hcall | collect hcall | create hcall | lost hcall => cases hpast hcall
  | stop ht _ hstopping =>
    rw [htask ht, h.stopping] at hstopping
    cases hstopping
  | phase ht htodo hweb =>
    -- the next phase is the one that waits for the handler
    rw [htask ht] at htodo
    have hph := h.todo
    rw [htodo] at hph
    have hidle := hweb (Option.some.inj hph) h.web
    rw [h.httpd] at hidle
    cases hidle
  | finish ht htodo =>
    rw [htask ht] at htodo
    have hph := h.todo
    rw [htodo] at hph
    cases hph

lemma State.Stuck.deadlock (h : s.Stuck i t) : s.Deadlock := by
  refine ⟨?_, (i, t), ?_, h.stopping⟩
  · rw [h.httpd]
    rfl
  · rw [h.tasks]
    exact List.mem_singleton_self _

/-- Such a deadlock is for good, whatever is tried. -/
theorem State.Stuck.deadlock_exec {nvs : Nvs} {device : Device}
    (h : s.Stuck i t) {evs : List Event} {log' : List Empty}
    (hexec : (machine inet f nvs device).exec Machine.anyStep evs log s = some (log', s')) :
    s'.Deadlock := by
  have hstuck : s'.Stuck i t :=
    Machine.exec_invariant (P := fun _ s => s.Stuck i t)
      (fun hs _ hstep => hs.step (Step.of_step hstep)) h hexec
  exact hstuck.deadlock

def requestDuring : List Event :=
  update .httpd movedWeb ++
    [.call .httpd movedWeb, .check .httpd, .run 0 quietEnv, .run 0 quietEnv]

theorem deadlock_requestDuring : ∃ log s,
    (machine strictInet ⟨none, none⟩ (fun _ => none) freshDevice).Run Machine.anyStep log s ∧
      s.Deadlock :=
  Machine.Run.exists_of_exec (machine strictInet ⟨none, none⟩ (fun _ => none) freshDevice)
    Machine.anyStep requestDuring (fun _ s => s.Deadlock) (by decide +kernel)

/-- The deadlock of `requestDuring` is one of those. -/
theorem deadlock_exec_requestDuring : ∃ log s,
    (machine strictInet ⟨none, none⟩ (fun _ => none) freshDevice).Run Machine.anyStep log s ∧
      ∀ evs log' s', (machine strictInet ⟨none, none⟩ (fun _ => none) freshDevice).exec
        Machine.anyStep evs log s = some (log', s') → s'.Deadlock := by
  obtain ⟨log, s, hrun, hhttpd, hbutton, hhandle, htasks, htask, hweb⟩ :=
    Machine.Run.exists_of_exec (machine strictInet ⟨none, none⟩ (fun _ => none) freshDevice)
      Machine.anyStep requestDuring (fun _ s => (s.calls .httpd).isWaiting = true ∧
        (s.calls .button).isPast = false ∧ s.handle = some 0 ∧ s.tasks.map Prod.fst = [0] ∧
        (∀ r ∈ s.tasks, r.2.stopping = true ∧ r.2.todo.head? = some (.release .web)) ∧
        s.device.http.isSome = true) (by decide +kernel)
  obtain ⟨⟨_, t⟩, hone, rfl⟩ := List.map_eq_singleton_iff.1 htasks
  obtain ⟨hstop, htodo⟩ := htask (0, t) (by simp [hone])
  have hwaiting : s.calls .httpd = .waiting := by
    cases hcall : s.calls .httpd <;> simp_all [Call.isWaiting]
  have hstuck : s.Stuck 0 t := ⟨hwaiting, hbutton, hhandle, hone, hstop, htodo, hweb⟩
  exact ⟨log, s, hrun, fun _ _ _ hexec => hstuck.deadlock_exec hexec⟩

end Deadlock

end WbMge.Settings.Apply
