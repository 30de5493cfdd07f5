import WbMge.TcpClient.Lifetime

/-!
# The pace of the TCP client

How often `tcp_client_task` tries to connect. After a failed attempt it waits, each time twice as
long as before up to a ceiling, and after a connection that has ended it waits for the shortest
time. A failed `socket()` is not followed by a wait: the loop begins again at once.

The machine is the one of `WbMge.TcpClient.Lifetime`. What the task can do to its delay, by where it
is, is a `Move` between a few phases.
-/

namespace WbMge.TcpClient

/-! ## Calls -/

def firstConnDelayMs : ℕ := 4000

/-- What the pace shows in. -/
inductive Call where
  /-- `socket()`. -/
  | socket (ok : Bool)
  /-- `connect_socket` has returned 0. -/
  | connected
  | connectFailed
  /-- `delay_until_exit_req`. -/
  | delay (ms : ℕ)
deriving Repr, DecidableEq

def State.calls {n : ℕ} (s : State n) : Event n → List Call
  | .task result =>
    match s.task with
    | .firstDelay => [.delay firstConnDelayMs]
    | .createSocket => [.socket (result != .error)]
    | .connectSocket =>
      match result with
      | .ok _ => [.connected]
      | .error => [.connectFailed]
      | .again => []
    | .delay _ => [.delay s.reconnectDelayMs]
    | _ => []
  | _ => []

/-- The client with the calls that its pace shows in. -/
def pacing (n : ℕ) : Machine (State n) (Event n) Call where
  init := (machine n).init
  step s e := (s.step e).map fun r => (r.1, s.calls e)

/-- No exit request: `tcp_client_deinit` is not called. -/
def NoExitReq {n : ℕ} (_ : List Call) (_ : State n) (e : Event n) : Prop := e ≠ .deinit

instance {n : ℕ} (log : List Call) (s : State n) (e : Event n) : Decidable (NoExitReq log s e) := by
  unfold NoExitReq
  infer_instance

/-- Nor does `socket()` fail. -/
def SocketsMade {n : ℕ} (_ : List Call) (s : State n) (e : Event n) : Prop :=
  e ≠ .deinit ∧ (s.task = .createSocket → e ≠ .task .error)

instance {n : ℕ} (log : List Call) (s : State n) (e : Event n) :
    Decidable (SocketsMade log s e) := by
  unfold SocketsMade
  infer_instance

/-! ## What is to be shown -/

def Call.IsSocket : Call → Prop
  | .socket _ => True
  | _ => False

/-- A failed attempt, at `socket()` or at `connect_socket`. -/
def Call.Failed : Call → Prop
  | .socket ok => ok = false
  | .connectFailed => True
  | _ => False

def failures (log : List Call) : ℕ :=
  log.foldl (fun k o => match o with
    | .connected => 0
    | .connectFailed => k + 1
    | .socket ok => if ok then k else k + 1
    | .delay _ => k) 0

/-- The delay after the `k`-th failed attempt. -/
def backoff (k : ℕ) : ℕ := min 30000 (1000 * 2 ^ (k - 1))

def Waits (mid : List Call) : Prop := ∃ ms, Call.delay ms ∈ mid ∧ 1000 ≤ ms

/-- Between two calls of `socket()` there is a delay. -/
def Paced (log : List Call) : Prop :=
  Segments Call.IsSocket Call.IsSocket (fun _ mid _ => Waits mid) log

/-- After a failure comes the delay for the number of failures. -/
def BacksOff (earlier : List Call) (o : Call) : Prop :=
  ∀ f ∈ earlier.getLast?, f.Failed → o = .delay (backoff (failures earlier))

/-! ## Phases -/

inductive Phase where
  | idle
  | ready
  | connecting
  | connected
  | failed
  | receiving
deriving Repr, DecidableEq

def TaskPc.phase : TaskPc → Phase
  | .start | .firstDelay => .idle
  | .checkExit | .createSocket | .finish | .ended => .ready
  | .register _ _ | .connectSocket => .connecting
  | .addConnection => .connected
  | .retire _ .connectFailed | .delay .connectFailed => .failed
  | .receiveData | .retire _ .disconnected | .clearConnections | .delay .disconnected => .receiving

/-- What an operation does: from a phase and a delay, through some calls, to the next ones. -/
inductive Move : Phase → ℕ → List Call → Phase → ℕ → Prop
  | stay (phase : Phase) (d : ℕ) : Move phase d [] phase d
  | begin (d : ℕ) : Move .idle d [.delay firstConnDelayMs] .ready reconnDelayMs
  | socket (d : ℕ) : Move .ready d [.socket true] .connecting d
  | socketFailed (d : ℕ) : Move .ready d [.socket false] .ready d
  | connect (d : ℕ) : Move .connecting d [.connected] .connected d
  | connectFailed (d : ℕ) : Move .connecting d [.connectFailed] .failed d
  | reset (d : ℕ) : Move .connected d [] .receiving reconnDelayMs
  | retry (d : ℕ) : Move .failed d [.delay d] .ready (min (d * 2) maxReconnDelayMs)
  | reconnect (d : ℕ) : Move .receiving d [.delay d] .ready d

section Moves

variable {n : ℕ} {s s' : State n} {out : List Tcp.Obs}

lemma retire_frame {who : Owner n} {pc : RetirePc} {r : State n × Option RetirePc × List Tcp.Obs}
    (h : s.retire who pc = some r) :
    r.1.task = s.task ∧ r.1.reconnectDelayMs = s.reconnectDelayMs := by
  unfold State.retire at h
  repeat' split at h
  all_goals cases h
  all_goals exact ⟨rfl, rfl⟩

lemma move_of_taskStep {result : Result} (h : s.taskStep result = some (s', out)) :
    Move s.task.phase s.reconnectDelayMs (s.calls (.task result)) s'.task.phase
      s'.reconnectDelayMs := by
  -- by the place of the task: most of them make no call and stay in their phase
  cases htask : s.task with
  | retire pc cause =>
    simp only [State.taskStep, State.calls, htask, Option.map_eq_some_iff, Prod.mk.injEq] at h ⊢
    obtain ⟨r, hr, rfl, -⟩ := h
    rw [← (retire_frame hr).2]
    cases r.2.1 <;> cases cause <;> exact .stay _ _
  | delay cause =>
    simp only [State.taskStep, State.calls, htask] at h ⊢
    cases h
    cases cause with
    | connectFailed => exact .retry _
    | disconnected => exact .reconnect _
  | register pc sock =>
    cases pc <;> simp only [State.taskStep, State.calls, htask] at h ⊢
    all_goals try split at h
    all_goals cases h
    all_goals exact .stay .connecting _
  | _ =>
    simp only [State.taskStep, State.calls, htask] at h ⊢
    repeat' split at h
    all_goals cases h
    all_goals first
      | exact .begin _
      | exact .socket _
      | exact .socketFailed _
      | exact .connect _
      | exact .connectFailed _
      | exact .reset _
      | exact .stay _ _
      | exact htask ▸ .stay _ _

lemma senderStep_frame {k : Fin n} (h : s.senderStep k = some (s', out)) :
    s'.task = s.task ∧ s'.reconnectDelayMs = s.reconnectDelayMs := by
  unfold State.senderStep at h
  repeat' split at h
  all_goals cases h
  all_goals exact ⟨rfl, rfl⟩

lemma move_of_step {e : Event n} (he : e ≠ .deinit) (h : s.step e = some (s', out)) :
    Move s.task.phase s.reconnectDelayMs (s.calls e) s'.task.phase s'.reconnectDelayMs := by
  cases e with
  | task result => exact move_of_taskStep h
  | deinit => exact absurd rfl he
  | sender k =>
    obtain ⟨htask, hdelay⟩ := senderStep_frame h
    rw [htask, hdelay]
    exact .stay _ _
  | timeout k =>
    simp only [State.step] at h
    split at h
    · cases h
      exact .stay _ _
    · cases h
  | others deed =>
    simp only [State.step, Option.map_eq_some_iff, Prod.mk.injEq] at h
    obtain ⟨sockets, -, rfl, -⟩ := h
    exact .stay _ _

lemma eq_of_calls_eq {e : Event n} (h : s.calls e = [.socket false]) :
    s.task = .createSocket ∧ e = .task .error := by
  cases e with
  | task result =>
    simp only [State.calls] at h
    split at h
    case h_2 htask => exact ⟨htask, by simpa using h⟩
    case h_3 => cases result <;> cases h
    all_goals cases h
  | _ => cases h

end Moves

/-! ## The back-off -/

lemma le_backoff (k : ℕ) : 1000 ≤ backoff k := by
  have hpos : 0 < 2 ^ (k - 1) := Nat.two_pow_pos _
  rw [backoff]
  omega

lemma backoff_succ {k : ℕ} (h : 1 ≤ k) :
    min (backoff k * 2) maxReconnDelayMs = backoff (k + 1) := by
  obtain ⟨k, rfl⟩ := Nat.exists_eq_add_of_le' h
  rw [backoff, backoff, maxReconnDelayMs, Nat.add_sub_cancel, Nat.add_sub_cancel, Nat.pow_succ]
  omega

section Log

variable {log : List Call} {o : Call}

lemma failures_concat (log : List Call) (o : Call) :
    failures (log ++ [o]) = match o with
      | .connected => 0
      | .connectFailed => failures log + 1
      | .socket ok => if ok then failures log else failures log + 1
      | .delay _ => failures log := by
  rw [failures, List.foldl_append]
  rfl

def NoFailure (log : List Call) : Prop := ∀ f ∈ log.getLast?, ¬ f.Failed

lemma NoFailure.concat (h : ¬ o.Failed) : NoFailure (log ++ [o]) := by
  intro f hf
  rw [List.getLast?_concat] at hf
  obtain rfl := Option.some.inj hf
  exact h

/-- There was a delay since the last `socket()`. -/
def Rested (log : List Call) : Prop := Current Call.IsSocket (fun _ mid => Waits mid) log

lemma rested_concat {ms : ℕ} (h : 1000 ≤ ms) : Rested (log ++ [.delay ms]) := by
  have hany : Current Call.IsSocket (fun _ _ => True) log := fun _ _ _ _ _ _ => trivial
  refine hany.append (fun o ho => ?_) fun _ _ _ => ⟨ms, by simp, h⟩
  obtain rfl := List.mem_singleton.1 ho
  exact not_false

def Fit (log : List Call) : Phase → ℕ → Prop
  | .idle, _ => log = []
  | .ready, d => d = backoff (failures log + 1) ∧ NoFailure log ∧ Rested log
  | .connecting, d => d = backoff (failures log + 1) ∧ NoFailure log
  | .connected, _ => failures log = 0 ∧ NoFailure log
  | .failed, d => d = backoff (failures log) ∧ 1 ≤ failures log
  | .receiving, d => d = backoff 1 ∧ failures log = 0 ∧ NoFailure log

structure Good (log : List Call) : Prop where
  paced : Paced log
  backsOff : Entries BacksOff log

lemma Good.concat (h : Good log) (hlast : NoFailure log) (ho : ¬ o.IsSocket) :
    Good (log ++ [o]) :=
  ⟨h.paced.concat fun hc => absurd hc ho,
    h.backsOff.concat fun f hf hfailed => absurd hfailed (hlast f hf)⟩

lemma Good.move {phase phase' : Phase} {d d' : ℕ} {out : List Call} (h : Good log)
    (hfit : Fit log phase d) (hmove : Move phase d out phase' d') (hmade : out ≠ [.socket false]) :
    Good (log ++ out) ∧ Fit (log ++ out) phase' d' := by
  cases hmove with
  | stay =>
    rw [List.append_nil]
    exact ⟨h, hfit⟩
  | begin =>
    obtain rfl : log = [] := hfit
    exact ⟨h.concat nofun not_false, rfl, NoFailure.concat not_false, rested_concat (by decide)⟩
  | socket =>
    obtain ⟨hd, hlast, hrested⟩ := hfit
    have hpaced : Paced (log ++ [.socket true]) :=
      h.paced.concat fun _ => hrested.imp fun _ _ hwaits _ => hwaits
    refine ⟨⟨hpaced, h.backsOff.concat fun f hf hfailed => absurd hfailed (hlast f hf)⟩, ?_, ?_⟩
    · rwa [failures_concat]
    · exact NoFailure.concat (by decide : ¬ true = false)
  | socketFailed => exact absurd rfl hmade
  | connect =>
    exact ⟨h.concat hfit.2 not_false, failures_concat _ _, NoFailure.concat not_false⟩
  | connectFailed =>
    refine ⟨h.concat hfit.2 not_false, ?_⟩
    rw [Fit, failures_concat]
    exact ⟨hfit.1, Nat.succ_pos _⟩
  | reset =>
    rw [List.append_nil]
    exact ⟨h, rfl, hfit⟩
  | retry =>
    obtain ⟨hd, hpos⟩ := hfit
    -- the task waits as long as the failures so far ask for, and doubles the delay for the next one
    have hbacksOff : Entries BacksOff (log ++ [.delay d]) :=
      h.backsOff.concat fun _ _ _ => by rw [hd]
    refine ⟨⟨h.paced.concat not_false.elim, hbacksOff⟩, ?_, NoFailure.concat not_false,
      rested_concat (hd ▸ le_backoff _)⟩
    rw [failures_concat, hd, backoff_succ hpos]
  | reconnect =>
    obtain ⟨hd, hzero, hlast⟩ := hfit
    refine ⟨h.concat hlast not_false, ?_, NoFailure.concat not_false,
      rested_concat (hd ▸ le_backoff _)⟩
    rw [failures_concat, hzero, hd]

end Log

/-- Where no `socket()` fails and no exit is requested, there is a delay of at least a second
between two calls of `socket()`, and after the `k`-th failed attempt since the last connection comes
the delay of the back-off. -/
theorem tcp_client_pacing {n : ℕ} {log : List Call} {s : State n}
    (hrun : (pacing n).Run SocketsMade log s) : Paced log ∧ Entries BacksOff log := by
  have h : Good log ∧ Fit log s.task.phase s.reconnectDelayMs := by
    refine hrun.invariant (P := fun log s => Good log ∧ Fit log s.task.phase s.reconnectDelayMs)
      (by exact ⟨⟨.nil, .nil⟩, rfl⟩) ?_
    rintro log s e s' out - ⟨hgood, hfit⟩ ⟨he, hmade⟩ hstep
    obtain ⟨⟨s'', out'⟩, hs, heq⟩ := Option.map_eq_some_iff.1 hstep
    cases heq
    refine hgood.move hfit (move_of_step he hs) fun hcalls => ?_
    obtain ⟨htask, rfl⟩ := eq_of_calls_eq hcalls
    exact hmade htask rfl
  exact ⟨h.1.paced, h.1.backsOff⟩

/-- An attempt that fails, and the next one. -/
theorem tcp_client_pacing_retry :
    ∃ log s, (pacing 0).Run SocketsMade log s ∧ Paced log ∧ Entries BacksOff log ∧
      log = [.delay 4000, .socket true, .connectFailed, .delay 1000, .socket true] := by
  obtain ⟨log, s, hrun, hlog⟩ := Machine.Run.exists_of_exec (pacing 0) SocketsMade
    [.task .again, .task .again, .task .again, .task (.ok 3), .task .again, .task .again,
      .task .again, .task .error, .task .again, .task .again, .task .again, .task .again,
      .task .again, .task .again, .task (.ok 3)]
    (fun log _ => log = [.delay 4000, .socket true, .connectFailed, .delay 1000, .socket true])
    (by decide +kernel)
  obtain ⟨hpaced, hbacksOff⟩ := tcp_client_pacing hrun
  exact ⟨log, s, hrun, hpaced, hbacksOff, hlog⟩

/-- There is no socket to be had, and the task asks for one without a pause. -/
theorem tcp_client_spins :
    ∃ log s, (pacing 0).Run NoExitReq log s ∧
      log = [.delay 4000, .socket false, .socket false] ∧ ¬ Paced log ∧ ¬ Entries BacksOff log := by
  obtain ⟨log, s, hrun, rfl⟩ := Machine.Run.exists_of_exec (pacing 0) NoExitReq
    [.task .again, .task .again, .task .again, .task .error, .task .again, .task .error]
    (fun log _ => log = [.delay 4000, .socket false, .socket false]) (by decide +kernel)
  refine ⟨_, s, hrun, rfl, fun hpaced => ?_, fun hbacksOff => ?_⟩
  · obtain ⟨ms, hms, -⟩ := hpaced [.delay 4000] (.socket false) [] (.socket false) [] rfl trivial
      trivial nofun
    cases hms
  · cases hbacksOff [.delay 4000, .socket false] (.socket false) [] rfl (.socket false) rfl rfl

end WbMge.TcpClient
