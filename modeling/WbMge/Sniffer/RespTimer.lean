import WbMge.Sniffer.Model
import WbMge.ToMathlib.Holding
import WbMge.ToMathlib.Machine
import WbMge.ToMathlib.SoftTimer

/-!
# The response timer of the sniffer

The calls of `sniffer_process_frame` for one port, by any number of tasks, and the timer service.
The UART task calls it for what is received and `serial_send` for what is sent. A call changes the
state under the spinlock and posts its timer commands and its packet afterwards, one by one; every
post may fail. The service executes the commands in order, runs the callback of an expired timer and
sends its timeout packet, at any time.

A port that waits for a response must have something that ends the wait, and a latched request must
be closed by one packet, the response or the timeout. Neither survives every interleaving. A stop
command of one call can be posted behind the start command of another, whose wait nothing ends then.
And the callback looks at `req_valid`, which a response leaves set, so an expiry before the stop
command adds a timeout to a request that has been answered.
-/

namespace WbMge.Sniffer.RespTimer

open Holding (Once Used)

/-! ## The system -/

/-- A packet on its way to the queue, and the number of the request it closes, if it does. -/
structure Packet where
  pkt : SniffPacket
  closes : Option Nat
deriving Repr, DecidableEq

/-- Where a task is in `sniffer_process_frame`. -/
inductive Call where
  | idle
  /-- Past the critical section, before `xTimerStop`. -/
  | stopping (d : SniffDecision) (p : Packet)
  /-- Before `xQueueSend`. -/
  | sending (d : SniffDecision) (p : Packet)
  /-- Before `xTimerStart`. -/
  | arming
  | abandoning
deriving Repr, DecidableEq

def Call.afterSend (d : SniffDecision) : Call := if d.startTimer then .arming else .idle

def Call.afterStop (d : SniffDecision) (p : Packet) : Call :=
  if d.emit then .sending d p else .afterSend d

def Call.afterDecide (d : SniffDecision) (p : Packet) : Call :=
  if d.stopTimer then .stopping d p else .afterStop d p

/-- The calls for one port and its timer. -/
structure State (ι : Type) where
  ctx : SniffCtx
  calls : ι → Call
  timer : SoftTimer
  callback : Option Packet
  latched : Nat

inductive Event (ι : Type) where
  | frame (i : ι) (data : Bytes) (nowUs : Nat)
  /-- `xTimerStop`. -/
  | stop (i : ι) (ok : Bool)
  /-- `xQueueSend`. -/
  | send (i : ι) (ok : Bool)
  /-- `xTimerStart`. -/
  | start (i : ι) (ok : Bool)
  | abandon (i : ι)
  | command
  /-- The timer expires, and `resp_timer_cb` runs up to the end of its critical section. -/
  | expire
  /-- `xQueueSend` by `resp_timer_cb`. -/
  | sendTimeout (ok : Bool)
deriving Repr, DecidableEq

section System

variable {ι : Type} [DecidableEq ι] (port : UInt8)

def State.closing (s : State ι) (d : SniffDecision) : Option Nat :=
  if s.ctx.state = .resWait ∧ d.newState = .idle ∧ !d.isMaster then some s.latched else none

def State.setCall (s : State ι) (i : ι) (c : Call) : State ι :=
  { s with calls := Function.update s.calls i c }

def State.post (s : State ι) (c : TimerCommand) (ok : Bool) : State ι :=
  if ok then { s with timer := s.timer.post c } else s

def State.decide (s : State ι) (i : ι) (data : Bytes) (nowUs : Nat) : State ι :=
  let r := s.ctx.decideFrame nowUs data
  { s with
    ctx := r.1
    calls := Function.update s.calls i
      (.afterDecide r.2 ⟨framePacket port nowUs r.2 data, s.closing r.2⟩)
    latched := if r.2.latchRequest then s.latched + 1 else s.latched }

def State.timeout (s : State ι) (timer : SoftTimer) : State ι :=
  let r := s.ctx.respTimerCb port
  { s with ctx := r.1, timer, callback := r.2.map fun pkt => ⟨pkt, some s.latched⟩ }

/-- One step of the system. The timer service does one thing at a time: while the callback has its
packet to send, no command is executed. The packets that reach the queue are observed. -/
def State.step (s : State ι) : Event ι → Option (State ι × List Packet)
  | .frame i data nowUs =>
    if s.calls i = .idle then
      some (if s.ctx.takes data then s.decide port i data nowUs else s, [])
    else none
  | .stop i ok =>
    match s.calls i with
    | .stopping d p => some ((s.post .stop ok).setCall i (.afterStop d p), [])
    | _ => none
  | .send i ok =>
    match s.calls i with
    | .sending d p =>
      if ok then some (s.setCall i (.afterSend d), [p]) else some (s.setCall i .abandoning, [])
    | _ => none
  | .start i ok =>
    if s.calls i = .arming then
      some ((s.post .start ok).setCall i (if ok then .idle else .abandoning), [])
    else none
  | .abandon i =>
    if s.calls i = .abandoning then some ({ s with ctx := s.ctx.abandon }.setCall i .idle, [])
    else none
  | .command =>
    if s.callback = none then s.timer.execute.map fun timer => ({ s with timer }, []) else none
  | .expire =>
    if s.callback = none then s.timer.expire.map fun timer => (s.timeout port timer, []) else none
  | .sendTimeout ok =>
    match s.callback with
    | some p => some ({ s with callback := none }, if ok then [p] else [])
    | none => none

def machine (ι : Type) [DecidableEq ι] (port reasons : UInt8) :
    Machine (State ι) (Event ι) Packet where
  init :=
    { ctx := .started reasons
      calls := fun _ => .idle
      timer := .init
      callback := none
      latched := 0 }
  step := State.step port

/-- The steps by their cases. -/
inductive Step (s : State ι) : Event ι → State ι → List Packet → Prop
  | skip {i data nowUs} : Step s (.frame i data nowUs) s []
  | frame {i data nowUs} (hidle : s.calls i = .idle) :
      Step s (.frame i data nowUs) (s.decide port i data nowUs) []
  | stop {i ok d p} (hcall : s.calls i = .stopping d p) :
      Step s (.stop i ok) ((s.post .stop ok).setCall i (.afterStop d p)) []
  | send {i d p} (hcall : s.calls i = .sending d p) :
      Step s (.send i true) (s.setCall i (.afterSend d)) [p]
  | drop {i d p} (hcall : s.calls i = .sending d p) :
      Step s (.send i false) (s.setCall i .abandoning) []
  | start {i} (hcall : s.calls i = .arming) :
      Step s (.start i true) ((s.post .start true).setCall i .idle) []
  | lostStart {i} (hcall : s.calls i = .arming) :
      Step s (.start i false) (s.setCall i .abandoning) []
  | abandon {i} (hcall : s.calls i = .abandoning) :
      Step s (.abandon i) ({ s with ctx := s.ctx.abandon }.setCall i .idle) []
  | command {timer} (htimer : s.timer.execute = some timer) : Step s .command { s with timer } []
  | expire {timer} (hcallback : s.callback = none) : Step s .expire (s.timeout port timer) []
  | sendTimeout {p} (hcallback : s.callback = some p) :
      Step s (.sendTimeout true) { s with callback := none } [p]
  | dropTimeout : Step s (.sendTimeout false) { s with callback := none } []

variable {port} {s s' : State ι} {e : Event ι} {out : List Packet}

lemma Step.of_step (h : s.step port e = some (s', out)) : Step port s e s' out := by
  cases e
  all_goals try cases ‹Bool›
  all_goals simp only [State.step, reduceIte, Bool.false_eq_true] at h
  all_goals repeat' split at h
  all_goals first
    | cases h
    | obtain ⟨timer, htimer, h⟩ := Option.map_eq_some_iff.1 h
      cases h
  all_goals first
    | exact .frame ‹_›
    | exact .skip
    | exact .stop ‹_›
    | exact .send ‹_›
    | exact .drop ‹_›
    | exact .start ‹_›
    | exact .lostStart ‹_›
    | exact .abandon ‹_›
    | exact .command ‹_›
    | exact .expire ‹_›
    | exact .sendTimeout ‹_›
    | exact .dropTimeout

end System

/-! ## The state after the critical sections -/

lemma snifferDecide_resWait {i : SniffInput} (h : (snifferDecide i).newState = .resWait) :
    ((snifferDecide i).latchRequest = true ∧ (snifferDecide i).startTimer = true) ∨
      (i.state = .resWait ∧ (snifferDecide i).stopTimer = false) := by
  generalize hd : snifferDecide i = d at h ⊢
  rw [snifferDecide] at hd
  cases hstate : i.state <;> simp only [hstate] at hd
  all_goals repeat' split at hd
  all_goals subst hd
  -- a request starts a wait, a broadcast leaves the one there is, and nothing else waits
  all_goals first
    | exact .inl ⟨rfl, rfl⟩
    | exact .inr ⟨rfl, rfl⟩
    | cases h

lemma decideFrame_state (ctx : SniffCtx) (nowUs : Nat) (data : Bytes) :
    (ctx.decideFrame nowUs data).1.state = (ctx.decideFrame nowUs data).2.newState := by
  simp only [SniffCtx.decideFrame]
  split <;> split <;> rfl

lemma decideFrame_resWait {ctx : SniffCtx} {nowUs : Nat} {data : Bytes}
    (h : (ctx.decideFrame nowUs data).1.state = .resWait) :
    ((ctx.decideFrame nowUs data).2.latchRequest = true ∧
      (ctx.decideFrame nowUs data).2.startTimer = true) ∨
      (ctx.state = .resWait ∧ (ctx.decideFrame nowUs data).2.stopTimer = false) :=
  snifferDecide_resWait (by rw [decideFrame_state] at h; exact h)

@[simp] lemma respTimerCb_state (ctx : SniffCtx) (port : UInt8) :
    (ctx.respTimerCb port).1.state = .idle := by
  rw [SniffCtx.respTimerCb]
  split <;> rfl

/-! ## Ending a wait -/

def Call.resolves : Call → Bool
  | .stopping d _ | .sending d _ => d.startTimer
  | .arming | .abandoning => true
  | .idle => false

@[simp] lemma Call.resolves_stopping (d : SniffDecision) (p : Packet) :
    (Call.stopping d p).resolves = d.startTimer := rfl

@[simp] lemma Call.resolves_sending (d : SniffDecision) (p : Packet) :
    (Call.sending d p).resolves = d.startTimer := rfl

@[simp] lemma Call.resolves_afterSend (d : SniffDecision) :
    (Call.afterSend d).resolves = d.startTimer := by
  rw [afterSend]
  cases h : d.startTimer <;> simp [resolves]

@[simp] lemma Call.resolves_afterStop (d : SniffDecision) (p : Packet) :
    (Call.afterStop d p).resolves = d.startTimer := by
  rw [afterStop]
  split
  · rfl
  · exact resolves_afterSend d

@[simp] lemma Call.resolves_afterDecide (d : SniffDecision) (p : Packet) :
    (Call.afterDecide d p).resolves = d.startTimer := by
  rw [afterDecide]
  split
  · rfl
  · exact resolves_afterStop d p

section Wait

variable {ι : Type} [DecidableEq ι] {port : UInt8} {s s' : State ι} {e : Event ι}
  {log out : List Packet}

def State.Resolving (s : State ι) : Prop := ∃ i, (s.calls i).resolves = true

/-- A port that waits has a timer that the posted commands leave armed, or a call that is going to
start it or to end the wait. -/
def State.Covered (s : State ι) : Prop :=
  s.ctx.state = .resWait → s.timer.settled = true ∨ s.Resolving

/-- The condition on a step: a stop command is posted only while the port is idle or some call has
its start command still to post. -/
def stopsCovered (_log : List Packet) (s : State ι) : Event ι → Prop
  | .stop _ ok => ok = true → s.ctx.state = .idle ∨ s.Resolving
  | _ => True

instance [Fintype ι] (s : State ι) : Decidable s.Resolving := by
  unfold State.Resolving
  infer_instance

instance [Fintype ι] (log : List Packet) (s : State ι) (e : Event ι) :
    Decidable (stopsCovered log s e) := by
  cases e <;> unfold stopsCovered <;> infer_instance

variable {c : Call}

lemma State.Resolving.setCall {i : ι} (h : s.Resolving)
    (hc : (s.calls i).resolves = true → c.resolves = true) : (s.setCall i c).Resolving := by
  obtain ⟨j, hj⟩ := h
  by_cases hji : j = i
  · subst hji
    exact ⟨j, by simpa [State.setCall] using hc hj⟩
  · exact ⟨j, by simpa [State.setCall, hji] using hj⟩

lemma State.Covered.setCall {i : ι} (h : s.Covered)
    (hc : (s.calls i).resolves = true → c.resolves = true) : (s.setCall i c).Covered := by
  intro hwait
  exact (h hwait).imp_right fun hres => hres.setCall hc

lemma State.Covered.step (h : s.Covered) (hok : stopsCovered log s e)
    (hstep : Step port s e s' out) : s'.Covered := by
  cases hstep with
  | skip => exact h
  | @frame i data nowUs hidle =>
    intro hwait
    obtain ⟨-, hstart⟩ | ⟨hbefore, -⟩ := decideFrame_resWait hwait
    · exact .inr ⟨i, by simpa [State.decide] using hstart⟩
    -- a broadcast: whatever ended the wait before still does, and it is not this call
    refine (h hbefore).imp_right fun hres => ?_
    have hset := hres.setCall (i := i) (c := .afterDecide (s.ctx.decideFrame nowUs data).2
      ⟨framePacket port nowUs (s.ctx.decideFrame nowUs data).2 data,
        s.closing (s.ctx.decideFrame nowUs data).2⟩) (by simp [hidle, Call.resolves])
    exact hset
  | @stop i ok d p hcall =>
    have hkeep : (s.calls i).resolves = true → (Call.afterStop d p).resolves = true := by
      simp [hcall]
    cases ok with
    | false => exact h.setCall hkeep
    | true =>
      -- the timer is going to be stopped, so the wait rests on the calls
      intro hwait
      have hres : s.Resolving := (hok rfl).resolve_left fun hidle => by
        rw [show s.ctx.state = .resWait from hwait] at hidle
        cases hidle
      exact .inr (State.Resolving.setCall (s := s.post .stop true) hres hkeep)
  | send hcall => exact h.setCall (by simp [hcall])
  | drop | lostStart => exact h.setCall (by simp [Call.resolves])
  | start => exact fun _ => .inl (by simp [State.setCall, State.post, SoftTimer.armedBy])
  | abandon => exact fun hwait => by simp [State.setCall, SniffCtx.abandon] at hwait
  | command htimer =>
    intro hwait
    exact (h hwait).imp_left fun hset => by rw [SoftTimer.settled_execute htimer, hset]
  | expire => exact fun hwait => by simp [State.timeout] at hwait
  | sendTimeout | dropTimeout => exact h

lemma covered_of_run {reasons : UInt8} (h : (machine ι port reasons).Run stopsCovered log s) :
    s.Covered := by
  refine h.invariant (P := fun _ s => s.Covered) ?_ fun _ hinv hok hs => hinv.step hok (.of_step hs)
  intro hwait
  simp [machine, SniffCtx.started] at hwait

/-- A port that waits while no call is in progress has a timer that is armed, or that a start
command behind every stop command is going to arm. -/
theorem willRun_of_stopsCovered (ι : Type) [DecidableEq ι] (port reasons : UInt8)
    {log : List Packet} {s : State ι} (hrun : (machine ι port reasons).Run stopsCovered log s)
    (hidle : ∀ i, s.calls i = .idle) (hwait : s.ctx.state = .resWait) : s.timer.WillRun := by
  refine SoftTimer.willRun_of_settled ((covered_of_run hrun hwait).resolve_right ?_)
  rintro ⟨i, hi⟩
  simp [hidle i, Call.resolves] at hi

def oneRequest (i : ι) : List (Event ι) :=
  [.frame i [0x05, 0x03, 0x00, 0x00, 0x00, 0x01, 0x85, 0x8E] 0, .send i true, .start i true,
    .command]

/-- A second task sends a request between the critical section and the stop command of the call
for a response: the stop command goes behind the start command of the new request. -/
def lateStop : List (Event Bool) :=
  oneRequest false ++
    [.frame false [0x05, 0x03, 0x02, 0x00, 0x07, 0x08, 0x46] 1000,
      .frame true [0x06, 0x03, 0x00, 0x00, 0x00, 0x01, 0x85, 0xBD] 1000, .send true true,
      .start true true, .stop false true, .send false true, .command, .command]

/-- The same with the stop command posted in time, while the port is idle. -/
def earlyStop : List (Event Bool) :=
  oneRequest false ++
    [.frame false [0x05, 0x03, 0x02, 0x00, 0x07, 0x08, 0x46] 1000, .stop false true,
      .frame true [0x06, 0x03, 0x00, 0x00, 0x00, 0x01, 0x85, 0xBD] 1000, .send true true,
      .start true true, .send false true, .command, .command]

theorem willRun_earlyStop : ∃ log, ∃ s : State Bool,
    (machine Bool 0 reasonDisplay).Run stopsCovered log s ∧ (∀ i, s.calls i = .idle) ∧
      s.ctx.state = .resWait ∧ s.timer.WillRun := by
  obtain ⟨log, s, hrun, hidle, hwait⟩ := Machine.Run.exists_of_exec (machine Bool 0 reasonDisplay)
    stopsCovered earlyStop (fun _ s => (∀ i, s.calls i = .idle) ∧ s.ctx.state = .resWait)
    (by decide +kernel)
  exact ⟨log, s, hrun, hidle, hwait, willRun_of_stopsCovered Bool 0 reasonDisplay hrun hidle hwait⟩

/-- With two tasks the port can be left waiting with nothing that ends the wait. -/
theorem wedged_lateStop : ∃ log, ∃ s : State Bool,
    (machine Bool 0 reasonDisplay).Run Machine.anyStep log s ∧ (∀ i, s.calls i = .idle) ∧
      s.ctx.state = .resWait ∧ ¬ s.timer.WillRun := by
  obtain ⟨log, s, hrun, hidle, hwait, htimer⟩ :=
    Machine.Run.exists_of_exec (machine Bool 0 reasonDisplay) Machine.anyStep lateStop
      (fun _ s => (∀ i, s.calls i = .idle) ∧ s.ctx.state = .resWait ∧ s.timer = .init)
      (by decide +kernel)
  refine ⟨log, s, hrun, hidle, hwait, ?_⟩
  rw [htimer]
  exact SoftTimer.not_willRun_init

/-- A call that is about to stop the timer has ended the wait, or is going to start the timer
again. -/
def State.StopsOwn (s : State ι) : Prop :=
  ∀ i d p, s.calls i = .stopping d p → s.ctx.state = .idle ∨ d.startTimer = true

lemma Call.afterSend_ne_stopping (d d' : SniffDecision) (p : Packet) :
    Call.afterSend d ≠ .stopping d' p := by
  rw [afterSend]
  split <;> simp

lemma Call.afterStop_ne_stopping (d d' : SniffDecision) (p p' : Packet) :
    Call.afterStop d p ≠ .stopping d' p' := by
  rw [afterStop]
  split
  · simp
  · exact afterSend_ne_stopping d d' p'

lemma State.stopsOwn_setCall [Subsingleton ι] (s : State ι) (i : ι)
    (hc : ∀ d p, c ≠ .stopping d p) : (s.setCall i c).StopsOwn := by
  intro j d p hj
  obtain rfl : j = i := Subsingleton.elim j i
  exact absurd (by simpa [State.setCall] using hj) (hc d p)

lemma State.StopsOwn.step [Subsingleton ι] (h : s.StopsOwn) (hstep : Step port s e s' out) :
    s'.StopsOwn := by
  cases hstep with
  | skip => exact h
  | @frame i data nowUs hidle =>
    intro j d p hj
    obtain rfl : j = i := Subsingleton.elim j i
    simp only [State.decide, Function.update_self, Call.afterDecide] at hj
    split at hj
    · -- a decision to stop the timer ends the wait, or is one for a request of its own
      rename_i hstop
      obtain ⟨rfl, -⟩ := Call.stopping.inj hj
      cases hstate : (s.ctx.decideFrame nowUs data).1.state with
      | idle => exact .inl hstate
      | resWait =>
        obtain ⟨-, hstart⟩ | ⟨-, hstop'⟩ := decideFrame_resWait hstate
        · exact .inr hstart
        · rw [hstop] at hstop'
          cases hstop'
    · exact absurd hj (Call.afterStop_ne_stopping _ _ _ _)
  | stop => exact State.stopsOwn_setCall _ _ fun _ _ => Call.afterStop_ne_stopping _ _ _ _
  | send => exact State.stopsOwn_setCall _ _ fun _ _ => Call.afterSend_ne_stopping _ _ _
  | drop | start | lostStart | abandon => exact State.stopsOwn_setCall _ _ (by simp)
  | expire => exact fun _ _ _ _ => .inl (by simp [State.timeout])
  | command | sendTimeout | dropTimeout => exact h

lemma stopsCovered_of_subsingleton [Subsingleton ι] {reasons : UInt8}
    (h : (machine ι port reasons).Run Machine.anyStep log s) :
    (machine ι port reasons).Run stopsCovered log s := by
  have hboth : (machine ι port reasons).Run stopsCovered log s ∧ s.StopsOwn := by
    refine h.invariant (P := fun log s => (machine ι port reasons).Run stopsCovered log s ∧
      s.StopsOwn) ⟨.init, fun i d p hi => by simp [machine] at hi⟩ ?_
    intro log s e s' out _ ⟨hrun, hown⟩ _ hs
    have hstep : Step port s e s' out := .of_step hs
    refine ⟨hrun.step ?_ hs, hown.step hstep⟩
    cases hstep with
    | @stop i _ d p hcall =>
      exact fun _ => (hown i d p hcall).imp_right fun hstart => ⟨i, by rw [hcall]; exact hstart⟩
    | _ => trivial
  exact hboth.1

end Wait

/-! ## Closing a request -/

section Closing

variable {ι : Type} [DecidableEq ι] {port : UInt8} {s s' : State ι} {e : Event ι}
  {log out : List Packet}

/-- The requests that were closed. -/
def closings (log : List Packet) : List Nat := log.filterMap (·.closes)

/-- No request is closed twice. -/
def OneOutcome (log : List Packet) : Prop :=
  ∀ n, (log.filter fun p => p.closes = some n).length ≤ 1

/-- The timer expires only while the port waits, or with nothing latched. -/
def expiresWaiting (_log : List Packet) (s : State ι) : Event ι → Prop
  | .expire => s.ctx.state = .resWait ∨ s.ctx.reqValid = false
  | _ => True

instance (log : List Packet) (s : State ι) (e : Event ι) : Decidable (expiresWaiting log s e) := by
  cases e <;> unfold expiresWaiting <;> infer_instance

def Call.closes : Call → Option Nat
  | .stopping _ p | .sending _ p => p.closes
  | .arming | .abandoning | .idle => none

def State.held (s : State ι) : Option ι → Option Nat
  | none => s.callback.bind (·.closes)
  | some i => (s.calls i).closes

@[simp] lemma held_setCall (s : State ι) (i : ι) (c : Call) :
    (s.setCall i c).held = Function.update s.held (some i) c.closes := by
  funext h
  cases h with
  | none => rfl
  | some j =>
    by_cases hji : j = i
    · subst hji
      simp [State.held, State.setCall]
    · simp [State.held, State.setCall, hji]

@[simp] lemma held_setCallback (s : State ι) (callback : Option Packet) :
    ({ s with callback } : State ι).held =
      Function.update s.held none (callback.bind (·.closes)) := by
  funext h
  cases h <;> simp [State.held]

@[simp] lemma Call.closes_afterSend (d : SniffDecision) : (Call.afterSend d).closes = none := by
  rw [afterSend]
  split <;> rfl

/-- Every request that is closed, or about to be, is one that is not waited for any more. -/
structure Settles (log : List Packet) (s : State ι) : Prop where
  once : Once (closings log) s.held
  le : ∀ n, Used (closings log) s.held n → n ≤ s.latched
  ne : s.ctx.state = .resWait → ¬ Used (closings log) s.held s.latched

lemma Settles.update (h : Settles log s) {k : Option ι} {c : Option Nat}
    (hheld : s'.held = Function.update s.held k c)
    (hnew : ∀ n, c = some n → n = s.latched ∧ s.ctx.state = .resWait ∧ s'.ctx.state = .idle)
    (hle : s.latched ≤ s'.latched)
    (hwait : s'.ctx.state = .resWait → s.latched < s'.latched ∨
      s.ctx.state = .resWait ∧ s'.latched = s.latched) : Settles log s' where
  once := by
    rw [hheld]
    refine h.once.take fun n hn => ?_
    obtain ⟨rfl, hbefore, -⟩ := hnew n hn
    exact h.ne hbefore
  le n hn := by
    rw [hheld] at hn
    obtain hused | hn' := hn.of_update
    · exact (h.le n hused).trans hle
    · rw [(hnew n hn').1]
      exact hle
  ne hafter hused := by
    rw [hheld] at hused
    obtain hused | hn := hused.of_update
    · -- the request that is waited for is new, or was not closed before
      obtain hlt | ⟨hbefore, heq⟩ := hwait hafter
      · have hused_le := h.le _ hused
        omega
      · rw [heq] at hused
        exact h.ne hbefore hused
    · rw [(hnew _ hn).2.2] at hafter
      cases hafter

omit [DecidableEq ι] in
lemma Settles.congr (h : Settles log s) (hheld : s'.held = s.held)
    (hlatched : s'.latched = s.latched)
    (hwait : s'.ctx.state = .resWait → s.ctx.state = .resWait) : Settles log s' where
  once := hheld ▸ h.once
  le n hn := hlatched ▸ h.le n (hheld ▸ hn)
  ne hafter hused := h.ne (hwait hafter) (by rwa [hheld, hlatched] at hused)

lemma Settles.deliver (h : Settles log s) {k : Option ι} {p : Packet}
    (hk : s.held k = p.closes) (hheld : s'.held = Function.update s.held k none)
    (hlatched : s'.latched = s.latched) (hstate : s'.ctx.state = s.ctx.state) :
    Settles (log ++ [p]) s' := by
  cases hcloses : p.closes with
  | none =>
    have hlog : closings (log ++ [p]) = closings log := by simp [closings, hcloses]
    have hsame : s'.held = s.held := by rw [hheld, ← hcloses, ← hk, Function.update_eq_self]
    have h' := h.congr hsame hlatched (by rw [hstate]; exact id)
    exact ⟨hlog ▸ h'.once, hlog ▸ h'.le, hlog ▸ h'.ne⟩
  | some n =>
    have hlog : closings (log ++ [p]) = closings log ++ [n] := by simp [closings, hcloses]
    rw [hcloses] at hk
    refine ⟨?_, ?_, ?_⟩
    · rw [hlog, hheld]
      exact h.once.deliver hk
    · rw [hlog, hheld, hlatched]
      exact fun m hm => h.le m (hm.of_deliver hk)
    · rw [hlog, hheld, hlatched, hstate]
      exact fun hwait hm => h.ne hwait (hm.of_deliver hk)

lemma Call.closes_afterDecide {d : SniffDecision} {p : Packet} {n : Nat}
    (h : (Call.afterDecide d p).closes = some n) : p.closes = some n := by
  rw [afterDecide] at h
  split at h
  · exact h
  rw [afterStop] at h
  split at h
  · exact h
  · simp at h

omit [DecidableEq ι] in
lemma closing_eq_some {d : SniffDecision} {n : Nat} (h : s.closing d = some n) :
    n = s.latched ∧ s.ctx.state = .resWait ∧ d.newState = .idle := by
  rw [State.closing] at h
  split at h
  · rename_i hcond
    exact ⟨(Option.some.inj h).symm, hcond.1, hcond.2.1⟩
  · cases h

lemma Settles.decide (h : Settles log s) (i : ι) (data : Bytes) (nowUs : Nat) :
    Settles log (s.decide port i data nowUs) := by
  refine h.update (k := some i) (held_setCall s i _) ?_ ?_ ?_
  · intro n hn
    obtain ⟨rfl, hwait, hidle⟩ := closing_eq_some (Call.closes_afterDecide hn)
    exact ⟨rfl, hwait, (decideFrame_state s.ctx nowUs data).trans hidle⟩
  · simp only [State.decide]
    split <;> omega
  · intro hwait
    simp only [State.decide]
    split
    · exact .inl (Nat.lt_succ_self _)
    rename_i hlatch
    obtain ⟨hlatch', -⟩ | ⟨hbefore, -⟩ := decideFrame_resWait hwait
    · exact absurd hlatch' hlatch
    · exact .inr ⟨hbefore, rfl⟩

lemma Settles.timeout (h : Settles log s) (hok : expiresWaiting log s .expire)
    (timer : SoftTimer) : Settles log (s.timeout port timer) := by
  refine h.update (k := none) (held_setCallback s _) ?_ le_rfl
    (fun hwait => by simp [State.timeout] at hwait)
  intro n (hn : ((s.ctx.respTimerCb port).2.map fun pkt =>
    (⟨pkt, some s.latched⟩ : Packet)).bind (·.closes) = some n)
  rw [SniffCtx.respTimerCb] at hn
  split at hn
  · rename_i hvalid
    simp only [Bool.and_eq_true] at hvalid
    refine ⟨by simpa using hn.symm, ?_, by simp [State.timeout]⟩
    exact hok.resolve_right (by simp [hvalid.1])
  · simp at hn

lemma Settles.step (h : Settles log s) (hok : expiresWaiting log s e)
    (hstep : Step port s e s' out) : Settles (log ++ out) s' := by
  cases hstep with
  | skip => simpa using h
  | frame => simpa using h.decide ..
  | @stop i ok d p hcall =>
    rw [List.append_nil]
    have hpost : Settles log (s.post .stop ok) := by
      cases ok with
      | false => exact h
      | true => exact h.congr rfl rfl id
    have hcall' : (s.post .stop ok).calls i = .stopping d p := by cases ok <;> exact hcall
    by_cases hemit : d.emit = true
    · -- the packet goes from one stage of the call to the next
      refine hpost.congr ?_ rfl id
      have hkeep : (Call.afterStop d p).closes = (s.post .stop ok).held (some i) := by
        simp [Call.afterStop, hemit, State.held, hcall', Call.closes]
      rw [held_setCall, hkeep, Function.update_eq_self]
    · -- a packet that is not emitted closes nothing
      refine hpost.update (held_setCall ..) ?_ le_rfl (fun hwait => .inr ⟨hwait, rfl⟩)
      simp [Call.afterStop, hemit]
  | @send i d p hcall =>
    refine h.deliver (k := some i) ?_ ?_ rfl rfl
    · simp [State.held, hcall, Call.closes]
    · simp
  | drop | start | lostStart =>
    rw [List.append_nil]
    exact h.update (held_setCall ..) (by simp [Call.closes]) le_rfl fun hwait => .inr ⟨hwait, rfl⟩
  | abandon =>
    rw [List.append_nil]
    exact h.update (held_setCall ..) (by simp [Call.closes]) le_rfl
      fun hwait => by simp [State.setCall, SniffCtx.abandon] at hwait
  | command =>
    rw [List.append_nil]
    exact h.congr rfl rfl id
  | expire => simpa using h.timeout hok _
  | @sendTimeout p hcallback =>
    refine h.deliver (k := none) ?_ (held_setCallback ..) rfl rfl
    simp [State.held, hcallback]
  | dropTimeout =>
    rw [List.append_nil]
    exact h.update (held_setCallback ..) (by simp) le_rfl fun hwait => .inr ⟨hwait, rfl⟩

lemma settles_of_run {reasons : UInt8}
    (h : (machine ι port reasons).Run expiresWaiting log s) : Settles log s := by
  refine h.invariant (P := Settles) ?_ fun _ hinv hok hs => hinv.step hok (.of_step hs)
  -- nothing has been latched yet
  have hheld : ∀ k n, (machine ι port reasons).init.held k ≠ some n := by
    intro k n
    cases k <;> exact (Option.some_ne_none n).symm
  have hused : ∀ n, ¬ Used (closings []) (machine ι port reasons).init.held n := by
    rintro n (hn | ⟨k, hk⟩)
    · simp [closings] at hn
    · exact hheld k n hk
  have honce : Once (closings []) (machine ι port reasons).init.held := by
    refine ⟨List.nodup_nil, fun k n hk => ?_, fun k _ n hk => ?_⟩
    · exact absurd hk (hheld k n)
    · exact absurd hk (hheld k n)
  exact ⟨honce, fun n hn => absurd hn (hused n), fun _ => hused _⟩

lemma oneOutcome_of_nodup (h : (closings log).Nodup) : OneOutcome log := by
  intro n
  have hlen : (log.filter fun p => p.closes = some n).length = (closings log).count n := by
    rw [closings, List.count_filterMap, List.countP_eq_length_filter]
    exact congrArg List.length (List.filter_congr fun p _ => (beq_eq_decide _ _).symm)
  rw [hlen]
  exact List.nodup_iff_count_le_one.1 h n

/-- Every latched request is closed by one packet at most, the response or a timeout. -/
theorem oneOutcome_of_expiresWaiting (ι : Type) [DecidableEq ι] (port reasons : UInt8)
    {log : List Packet} {s : State ι} (hrun : (machine ι port reasons).Run expiresWaiting log s) :
    OneOutcome log :=
  oneOutcome_of_nodup (settles_of_run hrun).once.nodup

def noResponse : List (Event Unit) := oneRequest () ++ [.expire, .sendTimeout true]

def lateCommand : List (Event Unit) :=
  oneRequest () ++
    [.frame () [0x05, 0x03, 0x02, 0x00, 0x07, 0x08, 0x46] 199000, .stop () true, .send () true,
      .expire, .sendTimeout true]

theorem oneOutcome_noResponse : ∃ log, ∃ s : State Unit,
    (machine Unit 0 reasonDisplay).Run expiresWaiting log s ∧ closings log = [1] ∧
      OneOutcome log := by
  obtain ⟨log, s, hrun, hlog⟩ := Machine.Run.exists_of_exec (machine Unit 0 reasonDisplay)
    expiresWaiting noResponse (fun log _ => closings log = [1]) (by decide +kernel)
  exact ⟨log, s, hrun, hlog, oneOutcome_of_expiresWaiting Unit 0 reasonDisplay hrun⟩

/-- The answered request is closed a second time, by a timeout. -/
theorem twoOutcomes_lateCommand : ∃ log, ∃ s : State Unit,
    (machine Unit 0 reasonDisplay).Run Machine.anyStep log s ∧
      log.map (fun p => (p.pkt.isMaster, p.pkt.isTimeout, p.closes)) =
        [(true, false, none), (false, false, some 1), (true, true, some 1)] ∧
      ¬ OneOutcome log := by
  obtain ⟨log, s, hrun, hlog, htwo⟩ :=
    Machine.Run.exists_of_exec (machine Unit 0 reasonDisplay) Machine.anyStep lateCommand
      (fun log _ => log.map (fun p => (p.pkt.isMaster, p.pkt.isTimeout, p.closes)) =
        [(true, false, none), (false, false, some 1), (true, true, some 1)] ∧
        (log.filter fun p => p.closes = some 1).length = 2) (by decide +kernel)
  refine ⟨log, s, hrun, hlog, fun hone => ?_⟩
  have hle := hone 1
  omega

end Closing

end WbMge.Sniffer.RespTimer
