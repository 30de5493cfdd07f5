import WbMge.Tcp.Sockets

/-!
# The sockets of the TCP client

`tcp_client_task` makes a socket for each attempt to connect and publishes it in `last_client_sock`
before it connects, so that `tcp_client_deinit` can close it under its feet. What closes it is
`retire_client_conn`, which the task and `tcp_client_deinit` both call and which takes the number
out of the field under `conn_lock`. A producer reads the field and sends under the same lock.

Every operation that another task can notice is a step of its own. `connect_socket` and
`receive_data` work on the task's own copy of the number and may end in any way. Others of the
firmware make and close sockets of their own at any time.
-/

namespace WbMge.TcpClient

open Handles Tcp

/-! ## The model -/

def reconnDelayMs : Nat := 1000

def maxReconnDelayMs : Nat := 30000

/-- Where a call of `register_client_conn` is. -/
inductive RegisterPc where
  | acquire
  | store
  | release
deriving Repr, DecidableEq

/-- Where a call of `retire_client_conn` is. -/
inductive RetirePc where
  | acquire
  | take
  | close (sock : Option Handle)
  | release
deriving Repr, DecidableEq

inductive Cause where
  | connectFailed
  | disconnected
deriving Repr, DecidableEq

/-- Where `tcp_client_task` is. -/
inductive TaskPc where
  | start
  | firstDelay
  | checkExit
  | createSocket
  | register (pc : RegisterPc) (sock : Handle)
  | connectSocket
  | addConnection
  | receiveData
  | retire (pc : RetirePc) (cause : Cause)
  | clearConnections
  | delay (cause : Cause)
  | finish
  | ended
deriving Repr, DecidableEq

/-- Where `tcp_client_deinit` is. -/
inductive DeinitPc where
  | idle
  | setExitReq
  | retire (pc : RetirePc)
  | waitFinished
  | lockDeinit
  | free
  | returned
deriving Repr, DecidableEq

/-- Where a producer is in `tcp_client_send_to_current_client`. -/
inductive SenderPc where
  | idle
  | acquire
  | read
  | send (sock : Handle)
  | release
deriving Repr, DecidableEq

/-- Who can have `conn_lock`. -/
inductive Owner (n : Nat) where
  | task
  | deinit
  | sender (k : Fin n)
deriving Repr, DecidableEq

/-- The descriptor and those who use it, with `n` producers. -/
structure State (n : Nat) where
  sockets : Estate
  lastClientSock : Option Handle
  connGeneration : UInt32
  activeConnections : UInt32
  exitReq : Bool
  finished : Bool
  connLock : Option (Owner n)
  task : TaskPc
  reconnectDelayMs : Nat
  deinit : DeinitPc
  sender : Fin n → SenderPc

inductive Result where
  /-- With success, from `socket()` with a number. -/
  | ok (fd : Nat)
  | error
  /-- `connect_socket` looks again. -/
  | again
deriving Repr, DecidableEq

inductive Event (n : Nat) where
  | task (result : Result)
  | deinit
  | sender (k : Fin n)
  | timeout (k : Fin n)
  | others (deed : Estate.Deed)
deriving Repr, DecidableEq

namespace State

variable {n : Nat}

/-- The next operation of a call of `retire_client_conn`, and where the call is then. -/
def retire (s : State n) (who : Owner n) :
    RetirePc → Option (State n × Option RetirePc × List Obs)
  | .acquire =>
    if s.connLock = none then some ({ s with connLock := some who }, some .take, [.touch]) else none
  | .take =>
    some ({ s with lastClientSock := none, connGeneration := s.connGeneration + 1 },
      some (.close s.lastClientSock), [.touch])
  | .close none => some (s, some .release, [])
  | .close (some sock) =>
    some ({ s with sockets := s.sockets.close sock.num }, some .release,
      [.close (s.sockets.pool.at? sock.num)])
  | .release => some ({ s with connLock := none }, none, [.touch])

/-- Where the task goes on after `retire_client_conn`. -/
def afterRetire : Cause → TaskPc
  | .connectFailed => .delay .connectFailed
  | .disconnected => .clearConnections

/-- The next operation of `tcp_client_task`. -/
def taskStep (s : State n) (result : Result) : Option (State n × List Obs) :=
  match s.task with
  | .start => some ({ s with task := .firstDelay }, [.touch])
  | .firstDelay =>
    some ({ s with task := .checkExit, reconnectDelayMs := reconnDelayMs }, [.touch])
  | .checkExit => some ({ s with task := if s.exitReq then .finish else .createSocket }, [.touch])
  | .createSocket =>
    match result with
    | .ok fd =>
      if h : s.sockets.pool.Fresh fd then
        some ({ s with
          sockets := s.sockets.open fd h
          task := .register .acquire (s.sockets.pool.newest fd) },
          [.socket (s.sockets.pool.newest fd)])
      else none
    | .error => some ({ s with task := .checkExit }, [])
    | .again => none
  | .register .acquire sock =>
    if s.connLock = none then
      some ({ s with connLock := some .task, task := .register .store sock }, [.touch])
    else none
  | .register .store sock =>
    some ({ s with lastClientSock := some sock, task := .register .release sock }, [.touch])
  | .register .release _ => some ({ s with connLock := none, task := .connectSocket }, [.touch])
  | .connectSocket =>
    match result with
    | .ok _ => some ({ s with task := .addConnection }, [.touch])
    | .error => some ({ s with task := .retire .acquire .connectFailed }, [.touch])
    | .again => some (s, [.touch])
  | .addConnection =>
    some ({ s with
      activeConnections := s.activeConnections + 1
      reconnectDelayMs := reconnDelayMs
      task := .receiveData }, [.touch])
  | .receiveData =>
    match result with
    -- `receive_handler` has the descriptor
    | .ok _ => some (s, [.touch])
    | .error => some ({ s with task := .retire .acquire .disconnected }, [.touch])
    | .again => none
  | .retire pc cause =>
    (s.retire .task pc).map fun r =>
      ({ r.1 with task := r.2.1.elim (afterRetire cause) (.retire · cause) }, r.2.2)
  | .clearConnections =>
    some ({ s with activeConnections := 0, task := .delay .disconnected }, [.touch])
  | .delay cause =>
    some ({ s with
      task := .checkExit
      reconnectDelayMs :=
        if cause = .connectFailed then min (s.reconnectDelayMs * 2) maxReconnDelayMs
        else s.reconnectDelayMs }, [.touch])
  | .finish => some ({ s with finished := true, task := .ended }, [.touch])
  | .ended => none

/-- The next operation of `tcp_client_deinit`. -/
def deinitStep (s : State n) : Option (State n × List Obs) :=
  match s.deinit with
  -- the call begins with a look at `task_handle` and `event_group`
  | .idle => some ({ s with deinit := .setExitReq }, [.touch])
  | .setExitReq => some ({ s with exitReq := true, deinit := .retire .acquire }, [.touch])
  | .retire pc =>
    (s.retire .deinit pc).map fun r =>
      ({ r.1 with deinit := r.2.1.elim .waitFinished .retire }, r.2.2)
  | .waitFinished =>
    if s.finished then some ({ s with deinit := .lockDeinit }, [.touch]) else none
  | .lockDeinit => some ({ s with deinit := .free }, [.touch])
  | .free => some ({ s with deinit := .returned }, [.free])
  | .returned => none

def setSender (s : State n) (k : Fin n) (pc : SenderPc) : State n :=
  { s with sender := Function.update s.sender k pc }

def senderStep (s : State n) (k : Fin n) : Option (State n × List Obs) :=
  match s.sender k with
  | .idle => some (s.setSender k .acquire, [])
  | .acquire =>
    if s.connLock = none then
      some ({ s.setSender k .read with connLock := some (.sender k) }, [.touch])
    else none
  | .read => some (s.setSender k (s.lastClientSock.elim .release .send), [.touch])
  | .send sock => some (s.setSender k .release, [.send (s.sockets.pool.at? sock.num)])
  | .release => some ({ s.setSender k .idle with connLock := none }, [.touch])

def step (s : State n) : Event n → Option (State n × List Obs)
  | .task result => s.taskStep result
  | .deinit => s.deinitStep
  | .sender k => s.senderStep k
  -- the timeout is counted in the descriptor
  | .timeout k => if s.sender k = .acquire then some (s.setSender k .idle, [.touch]) else none
  | .others deed => (s.sockets.others deed).map fun sockets => ({ s with sockets }, [])

end State

/-- The descriptor from `tcp_client_init` on. -/
def machine (n : Nat) : Machine (State n) (Event n) Obs where
  init :=
    { sockets := .empty
      lastClientSock := none
      connGeneration := 0
      activeConnections := 0
      exitReq := false
      finished := false
      connLock := none
      task := .start
      reconnectDelayMs := reconnDelayMs
      deinit := .idle
      sender := fun _ => .idle }
  step := State.step

/-- Nobody sends when `tcp_client_deinit` frees the descriptor, nor later. -/
def SendsFinish {n : Nat} (_ : List Obs) (s : State n) : Event n → Prop
  | .deinit => s.deinit = .free → ∀ k, s.sender k = .idle
  | .sender _ | .timeout _ => s.deinit ≠ .returned
  | .task _ | .others _ => True

instance {n : Nat} (log : List Obs) (s : State n) (e : Event n) :
    Decidable (SendsFinish log s e) := by
  cases e <;> unfold SendsFinish <;> infer_instance

/-! ## The invariant -/

def RetirePc.sock? : RetirePc → Option Handle
  | .close sock => sock
  | .acquire | .take | .release => none

def RetirePc.Inside : RetirePc → Prop
  | .take | .close _ | .release => True
  | .acquire => False

def RegisterPc.Inside : RegisterPc → Prop
  | .store | .release => True
  | .acquire => False

def TaskPc.sock? : TaskPc → Option Handle
  | .register .acquire sock | .register .store sock => some sock
  | .retire pc _ => pc.sock?
  | .register .release _ | .start | .firstDelay | .checkExit | .createSocket | .connectSocket
  | .addConnection | .receiveData | .clearConnections | .delay _ | .finish | .ended => none

def TaskPc.Inside : TaskPc → Prop
  | .register pc _ => pc.Inside
  | .retire pc _ => pc.Inside
  | .start | .firstDelay | .checkExit | .createSocket | .connectSocket | .addConnection
  | .receiveData | .clearConnections | .delay _ | .finish | .ended => False

def TaskPc.Bare : TaskPc → Prop
  | .register .release _ | .connectSocket | .addConnection | .receiveData
  | .retire .acquire _ | .retire .take _ => False
  | .register .acquire _ | .register .store _ | .retire (.close _) _ | .retire .release _
  | .start | .firstDelay | .checkExit | .createSocket | .clearConnections | .delay _ | .finish
  | .ended => True

def DeinitPc.sock? : DeinitPc → Option Handle
  | .retire pc => pc.sock?
  | .idle | .setExitReq | .waitFinished | .lockDeinit | .free | .returned => none

def DeinitPc.Inside : DeinitPc → Prop
  | .retire pc => pc.Inside
  | .idle | .setExitReq | .waitFinished | .lockDeinit | .free | .returned => False

/-- `tcp_client_deinit` has seen that the task has finished. -/
def DeinitPc.Joined : DeinitPc → Prop
  | .lockDeinit | .free | .returned => True
  | .idle | .setExitReq | .retire _ | .waitFinished => False

def SenderPc.Inside : SenderPc → Prop
  | .read | .send _ | .release => True
  | .idle | .acquire => False

inductive Place where
  | field
  | task
  | deinit
deriving Repr, DecidableEq

def holds (field task deinit : Option Handle) : Holding Place Handle
  | .field => field
  | .task => task
  | .deinit => deinit

lemma update_field (f t d y : Option Handle) :
    Function.update (holds f t d) .field y = holds y t d := by
  funext p
  cases p <;> rfl

lemma update_task (f t d y : Option Handle) :
    Function.update (holds f t d) .task y = holds f y d := by
  funext p
  cases p <;> rfl

lemma update_deinit (f t d y : Option Handle) :
    Function.update (holds f t d) .deinit y = holds f t y := by
  funext p
  cases p <;> rfl

section Invariant

variable {n : Nat}

def State.held (s : State n) : Holding Place Handle :=
  holds s.lastClientSock s.task.sock? s.deinit.sock?

/-- Who is between taking `conn_lock` and giving it back. -/
def State.Inside (s : State n) : Owner n → Prop
  | .task => s.task.Inside
  | .deinit => s.deinit.Inside
  | .sender k => (s.sender k).Inside

structure Inv (log : List Obs) (s : State n) : Prop where
  accounts : Accounts log s.sockets s.held
  lock : Guarded s.connLock s.Inside
  sender : ∀ k sock, s.sender k = .send sock → s.lastClientSock = some sock
  bare : s.task.Bare → s.lastClientSock = none
  finished : s.finished = true → s.task = .ended
  joined : s.deinit.Joined → s.finished = true
  sends : Entries SendsOpen log
  freed : Freed log (s.deinit = .returned)

variable {log log' : List Obs} {s s' : State n} {out : List Obs}

lemma inv_init : Inv [] (machine n).init where
  accounts := by
    have hheld : (machine n).init.held = fun _ => none := by
      funext p
      cases p <;> rfl
    rw [hheld]
    exact .init
  lock := by
    intro who hwho
    cases who <;> exact False.elim hwho
  sender := by simp [machine]
  bare _ := rfl
  finished := by simp [machine]
  joined := False.elim
  sends := .nil
  freed := .init

/-! ### What is added to the log -/

lemma Inv.deinit_ne_returned (h : Inv log s) (ht : s.task ≠ .ended) : s.deinit ≠ .returned := by
  intro hd
  exact ht (h.finished (h.joined (by rw [hd]; trivial)))

lemma Inv.touch (h : Inv log s) (hd : s.deinit ≠ .returned) : Inv (log ++ [.touch]) s :=
  { h with
    accounts := h.accounts.plain trivial
    sends := h.sends.concat (by rintro y ⟨⟩)
    freed := h.freed.touch hd }

lemma Inv.send (h : Inv log s) {y : Option Handle} (hy : IsOpen log y) :
    Inv (log ++ [.send y]) s :=
  { h with
    accounts := h.accounts.plain trivial
    sends := h.sends.concat (by rintro _ ⟨⟩; exact hy)
    freed := h.freed.concat (by simp) (by simp) }

variable {k : Fin n} {w : Estate} {f : Option Handle} {l : Option (Owner n)} {result : Result}

lemma inside_of_send {sock : Handle} (hk : s.sender k = .send sock) : s.Inside (.sender k) := by
  simp only [State.Inside, hk]
  trivial

/-! ### Steps of the task -/

lemma Inv.taskMove (h : Inv log s) {p : TaskPc} {g a : UInt32} {r : Nat}
    (haccounts : Accounts log' w (holds f p.sock? s.deinit.sock?))
    (hin : p.Inside → l = some .task)
    (hl : l = s.connLock ∨ s.connLock = none ∨ s.connLock = some .task)
    (hf : f = s.lastClientSock ∨ s.task.Inside) (hbare : p.Bare → f = none)
    (hend : s.task ≠ .ended) (hsends : Entries SendsOpen log')
    (hfreed : Freed log' (s.deinit = .returned)) :
    Inv log' { s with
      task := p, sockets := w, lastClientSock := f, connLock := l, connGeneration := g,
      activeConnections := a, reconnectDelayMs := r } where
  accounts := haccounts
  lock := by
    refine h.lock.step (i := .task) (fun who hwho => ?_) hin hl
    cases who with
    | task => exact absurd rfl hwho
    | deinit | sender k => exact id
  sender k sock hk := by
    obtain rfl | htask := hf
    · exact h.sender k sock hk
    · -- the producer and the task would both have the lock
      have htask' : s.Inside .task := htask
      exact absurd (h.lock.eq htask' (inside_of_send hk)) (by simp)
  bare := hbare
  finished hfin := absurd (h.finished hfin) hend
  joined := h.joined
  sends := hsends
  freed := hfreed

lemma Inv.taskGoto (h : Inv log s) {p : TaskPc} {a : UInt32} {r : Nat}
    (hsock : p.sock? = s.task.sock?) (hin : ¬ p.Inside) (hbare : p.Bare → s.task.Bare)
    (hend : s.task ≠ .ended) :
    Inv log { s with task := p, activeConnections := a, reconnectDelayMs := r } := by
  refine h.taskMove (l := s.connLock) ?_ (fun hpc => absurd hpc hin) (.inl rfl) (.inl rfl) ?_ hend
    h.sends h.freed
  · rw [hsock]
    exact h.accounts
  · exact fun hpc => h.bare (hbare hpc)

lemma accounts_take_task {d : Option Handle} (h : Accounts log w (holds f none d)) :
    Accounts log w (holds none f d) := by
  cases f with
  | none => exact h
  | some sock =>
    have hmove := h.move (i := .field) (j := .task) (x := sock) rfl rfl
    rwa [update_field, update_task] at hmove

lemma accounts_take_deinit {t : Option Handle} (h : Accounts log w (holds f t none)) :
    Accounts log w (holds none t f) := by
  cases f with
  | none => exact h
  | some sock =>
    have hmove := h.move (i := .field) (j := .deinit) (x := sock) rfl rfl
    rwa [update_field, update_deinit] at hmove

lemma Inv.taskStep_createSocket (h : Inv log s) {fd : Nat} (htask : s.task = .createSocket)
    (hfd : s.sockets.pool.Fresh fd) :
    Inv (log ++ [.socket (s.sockets.pool.newest fd)]) { s with
      sockets := s.sockets.open fd hfd
      task := .register .acquire (s.sockets.pool.newest fd) } := by
  refine h.taskMove (f := s.lastClientSock) (l := s.connLock) ?_ False.elim (.inl rfl) (.inl rfl)
    (fun _ => h.bare (by rw [htask]; trivial)) (by simp [htask]) (h.sends.concat (by rintro y ⟨⟩))
        (h.freed.concat (by simp) (by simp))
  have hnone : s.held .task = none := by simp [State.held, holds, htask, TaskPc.sock?]
  have hopen := h.accounts.open hfd hnone (o := .socket (s.sockets.pool.newest fd)) rfl
  rwa [State.held, update_task] at hopen

lemma Inv.taskStep_register (h : Inv log s) {pc : RegisterPc} {sock : Handle}
    (htask : s.task = .register pc sock) (hs : s.taskStep result = some (s', out)) :
    Inv (log ++ out) s' := by
  have hend : s.task ≠ .ended := by simp [htask]
  have hd : s.deinit ≠ .returned := h.deinit_ne_returned hend
  have haccounts := h.accounts
  simp only [State.held, htask] at haccounts
  unfold State.taskStep at hs
  cases pc with
  | acquire =>
    simp only [htask] at hs
    obtain ⟨hlock, hs⟩ := Option.ite_none_right_eq_some.1 hs
    cases hs
    exact (h.taskMove (p := .register .store sock) haccounts (fun _ => rfl) (.inr (.inl hlock))
      (.inl rfl) (fun _ => h.bare (by rw [htask]; trivial)) hend h.sends h.freed).touch hd
  | store =>
    simp only [htask] at hs
    cases hs
    have hin : s.task.Inside := by rw [htask]; trivial
    have hnone : s.lastClientSock = none := h.bare (by rw [htask]; trivial)
    refine (h.taskMove (p := .register .release sock) (f := some sock) ?_
      (fun _ => h.lock .task hin) (.inl rfl) (.inr hin) False.elim hend h.sends h.freed).touch hd
    -- the socket goes from the task to the field, which is free
    rw [hnone] at haccounts
    have hmove := haccounts.move (i := .task) (j := .field) (x := sock) rfl rfl
    rwa [update_task, update_field] at hmove
  | release =>
    simp only [htask] at hs
    cases hs
    have hin : s.task.Inside := by rw [htask]; trivial
    exact (h.taskMove (p := .connectSocket) haccounts False.elim (.inr (.inr (h.lock .task hin)))
      (.inl rfl) False.elim hend h.sends h.freed).touch hd

lemma Inv.taskStep_retire (h : Inv log s) {pc : RetirePc} {cause : Cause}
    (htask : s.task = .retire pc cause) (hs : s.taskStep result = some (s', out)) :
    Inv (log ++ out) s' := by
  have hend : s.task ≠ .ended := by simp [htask]
  have hd : s.deinit ≠ .returned := h.deinit_ne_returned hend
  have haccounts := h.accounts
  simp only [State.held, htask] at haccounts
  unfold State.taskStep at hs
  simp only [htask] at hs
  obtain ⟨⟨s₁, next, out₁⟩, hretire, hs⟩ := Option.map_eq_some_iff.1 hs
  cases hs
  cases pc with
  | acquire =>
    obtain ⟨hlock, hretire⟩ := Option.ite_none_right_eq_some.1 hretire
    cases hretire
    exact (h.taskMove (p := .retire .take cause) haccounts (fun _ => rfl) (.inr (.inl hlock))
      (.inl rfl) False.elim hend h.sends h.freed).touch hd
  | take =>
    cases hretire
    have hin : s.task.Inside := by rw [htask]; trivial
    exact (h.taskMove (p := .retire (.close s.lastClientSock) cause) (accounts_take_task haccounts)
      (fun _ => h.lock .task hin) (.inl rfl) (.inr hin) (fun _ => rfl) hend h.sends
      h.freed).touch hd
  | close sock =>
    have hin : s.task.Inside := by rw [htask]; trivial
    have hnone : s.lastClientSock = none := h.bare (by rw [htask]; trivial)
    cases sock with
    | none =>
      cases hretire
      rw [List.append_nil]
      exact h.taskMove (p := .retire .release cause) haccounts (fun _ => h.lock .task hin)
        (.inl rfl) (.inl rfl) (fun _ => hnone) hend h.sends h.freed
    | some sock =>
      cases hretire
      refine h.taskMove (p := .retire .release cause) ?_ (fun _ => h.lock .task hin)
        (.inl rfl) (.inl rfl) (fun _ => hnone) hend (h.sends.concat (by rintro y ⟨⟩))
        (h.freed.concat (by simp) (by simp))
      have hclose := haccounts.close (i := .task) (x := sock) rfl
      rwa [update_task] at hclose
  | release =>
    cases hretire
    have hin : s.task.Inside := by rw [htask]; trivial
    have hnone : s.lastClientSock = none := h.bare (by rw [htask]; trivial)
    have hsock : (State.afterRetire cause).sock? = none := by cases cause <;> rfl
    have hout : ¬ (State.afterRetire cause).Inside := by cases cause <;> exact id
    refine (h.taskMove (p := State.afterRetire cause) ?_ (fun hpc => absurd hpc hout)
      (.inr (.inr (h.lock .task hin))) (.inl rfl) (fun _ => hnone) hend h.sends h.freed).touch hd
    rw [hsock]
    exact haccounts

lemma Inv.taskStep (h : Inv log s) (hs : s.taskStep result = some (s', out)) :
    Inv (log ++ out) s' := by
  -- a step that only touches the descriptor
  have hgoto : ∀ {p : TaskPc} {a : UInt32} {r : Nat}, s.task.sock? = none → p.sock? = none →
      ¬ p.Inside → (p.Bare → s.task.Bare) → s.task ≠ .ended →
      Inv (log ++ [.touch])
        { s with task := p, activeConnections := a, reconnectDelayMs := r } := by
    intro p a r hsock hpc hin hbare hend
    exact (h.taskGoto (hpc.trans hsock.symm) hin hbare hend).touch (h.deinit_ne_returned hend)
  cases htask : s.task
  case register pc sock => exact h.taskStep_register htask hs
  case retire pc cause => exact h.taskStep_retire htask hs
  case createSocket =>
    simp only [State.taskStep, htask] at hs
    cases result with
    | ok fd =>
      obtain ⟨hfd, hs⟩ := Option.dite_none_right_eq_some.1 hs
      cases hs
      exact h.taskStep_createSocket htask hfd
    | error =>
      cases hs
      rw [List.append_nil]
      exact h.taskGoto (by rw [htask]; rfl) id (fun _ => by rw [htask]; trivial) (by simp [htask])
    | again => cases hs
  case finish =>
    simp only [State.taskStep, htask] at hs
    cases hs
    have hd := h.deinit_ne_returned (by simp [htask])
    have hgoto := (h.taskGoto (p := .ended) (a := s.activeConnections) (r := s.reconnectDelayMs)
      (by rw [htask]; rfl) id (fun _ => by rw [htask]; trivial) (by simp [htask])).touch hd
    exact { hgoto with finished := fun _ => rfl, joined := fun _ => rfl }
  all_goals
    simp only [State.taskStep, htask] at hs
    repeat' split at hs
  all_goals cases hs
  all_goals first
    | exact h.touch (h.deinit_ne_returned (by simp [htask]))
    | exact hgoto (by rw [htask]; rfl) rfl id False.elim (by simp [htask])
    | exact hgoto (by rw [htask]; rfl) rfl id (fun _ => by rw [htask]; trivial) (by simp [htask])

/-! ### Steps of `tcp_client_deinit` -/

lemma Inv.deinitMove (h : Inv log s) {p : DeinitPc} {g : UInt32} {e : Bool}
    (haccounts : Accounts log' w (holds f s.task.sock? p.sock?))
    (hin : p.Inside → l = some .deinit)
    (hl : l = s.connLock ∨ s.connLock = none ∨ s.connLock = some .deinit)
    (hf : f = s.lastClientSock ∨ s.deinit.Inside ∧ f = none)
    (hjoined : p.Joined → s.finished = true) (hsends : Entries SendsOpen log')
    (hfreed : Freed log' (p = .returned)) :
    Inv log' { s with
      deinit := p, sockets := w, lastClientSock := f, connLock := l, connGeneration := g,
      exitReq := e } where
  accounts := haccounts
  lock := by
    refine h.lock.step (i := .deinit) (fun who hwho => ?_) hin hl
    cases who with
    | task | sender k => exact id
    | deinit => exact absurd rfl hwho
  sender k sock hk := by
    obtain rfl | ⟨hdeinit, -⟩ := hf
    · exact h.sender k sock hk
    · have hdeinit' : s.Inside .deinit := hdeinit
      exact absurd (h.lock.eq hdeinit' (inside_of_send hk)) (by simp)
  bare hbare := by
    obtain rfl | ⟨-, hnone⟩ := hf
    · exact h.bare hbare
    · exact hnone
  finished := h.finished
  joined := hjoined
  sends := hsends
  freed := hfreed

lemma Inv.deinitStep_retire (h : Inv log s) {pc : RetirePc} (hdeinit : s.deinit = .retire pc)
    (hs : s.deinitStep = some (s', out)) : Inv (log ++ out) s' := by
  have hd : s.deinit ≠ .returned := by simp [hdeinit]
  have haccounts := h.accounts
  simp only [State.held, hdeinit] at haccounts
  unfold State.deinitStep at hs
  simp only [hdeinit] at hs
  obtain ⟨⟨s₁, next, out₁⟩, hretire, hs⟩ := Option.map_eq_some_iff.1 hs
  cases hs
  cases pc with
  | acquire =>
    obtain ⟨hlock, hretire⟩ := Option.ite_none_right_eq_some.1 hretire
    cases hretire
    exact (h.deinitMove (p := .retire .take) haccounts (fun _ => rfl) (.inr (.inl hlock))
      (.inl rfl) False.elim h.sends (h.freed.imp (absurd · hd))).touch (by simp)
  | take =>
    cases hretire
    have hin : s.deinit.Inside := by rw [hdeinit]; trivial
    exact (h.deinitMove (p := .retire (.close s.lastClientSock)) (accounts_take_deinit haccounts)
      (fun _ => h.lock .deinit hin) (.inl rfl) (.inr ⟨hin, rfl⟩) False.elim
      h.sends (h.freed.imp (absurd · hd))).touch (by simp)
  | close sock =>
    have hin : s.deinit.Inside := by rw [hdeinit]; trivial
    cases sock with
    | none =>
      cases hretire
      rw [List.append_nil]
      exact h.deinitMove (p := .retire .release) haccounts (fun _ => h.lock .deinit hin)
        (.inl rfl) (.inl rfl) False.elim h.sends (h.freed.imp (absurd · hd))
    | some sock =>
      cases hretire
      refine h.deinitMove (p := .retire .release) ?_ (fun _ => h.lock .deinit hin)
        (.inl rfl) (.inl rfl) False.elim (h.sends.concat (by rintro y ⟨⟩))
        ((h.freed.concat (by simp) (by simp)).imp (absurd · hd))
      have hclose := haccounts.close (i := .deinit) (x := sock) rfl
      rwa [update_deinit] at hclose
  | release =>
    cases hretire
    have hin : s.deinit.Inside := by rw [hdeinit]; trivial
    exact (h.deinitMove (p := .waitFinished) haccounts False.elim
      (.inr (.inr (h.lock .deinit hin))) (.inl rfl) False.elim h.sends
      (h.freed.imp (absurd · hd))).touch (by simp)

lemma Inv.deinitStep (h : Inv log s) (hs : s.deinitStep = some (s', out)) :
    Inv (log ++ out) s' := by
  -- a step that has no socket and not the lock
  have hgoto : ∀ {p : DeinitPc} {e : Bool}, s.deinit.sock? = none → p.sock? = none → ¬ p.Inside →
      (p.Joined → s.finished = true) → s.deinit ≠ .returned →
      Inv log { s with deinit := p, exitReq := e } := by
    intro p e hsock hpc hin hjoined hd
    refine h.deinitMove (l := s.connLock) ?_ (fun hpc => absurd hpc hin) (.inl rfl) (.inl rfl)
      hjoined h.sends (h.freed.imp (absurd · hd))
    rw [hpc, ← hsock]
    exact h.accounts
  cases hdeinit : s.deinit
  case retire pc => exact h.deinitStep_retire hdeinit hs
  all_goals
    unfold State.deinitStep at hs
    simp only [hdeinit] at hs
  case idle | setExitReq =>
    cases hs
    exact (hgoto (by rw [hdeinit]; rfl) rfl id False.elim (by simp [hdeinit])).touch (by simp)
  case waitFinished =>
    obtain ⟨hfin, hs⟩ := Option.ite_none_right_eq_some.1 hs
    cases hs
    exact (hgoto (by rw [hdeinit]; rfl) rfl id (fun _ => hfin) (by simp [hdeinit])).touch (by simp)
  case lockDeinit =>
    cases hs
    have hfin : s.finished = true := h.joined (by rw [hdeinit]; trivial)
    exact (hgoto (by rw [hdeinit]; rfl) rfl id (fun _ => hfin) (by simp [hdeinit])).touch (by simp)
  case free =>
    cases hs
    have hfin : s.finished = true := h.joined (by rw [hdeinit]; trivial)
    have hreturned := hgoto (p := .returned) (e := s.exitReq) (by rw [hdeinit]; rfl) rfl id
      (fun _ => hfin) (by simp [hdeinit])
    exact { hreturned with
      accounts := hreturned.accounts.plain trivial
      sends := h.sends.concat (by rintro y ⟨⟩)
      freed := h.freed.free rfl }
  case returned =>
    cases hs

/-! ### Steps of a producer -/

lemma Inv.senderMove (h : Inv log s) {pc : SenderPc} (hin : pc.Inside → l = some (.sender k))
    (hl : l = s.connLock ∨ s.connLock = none ∨ s.connLock = some (.sender k))
    (hsend : ∀ sock, pc = .send sock → s.lastClientSock = some sock) :
    Inv log { s.setSender k pc with connLock := l } where
  accounts := h.accounts
  lock := by
    refine h.lock.step (i := .sender k) (fun who hwho => ?_) (fun hk => hin ?_) hl
    · cases who with
      | task | deinit => exact id
      | sender j =>
        have hjk : j ≠ k := fun hjk => hwho (congrArg Owner.sender hjk)
        simp [State.Inside, State.setSender, hjk]
    · simpa [State.Inside, State.setSender] using hk
  sender j sock hj := by
    by_cases hjk : j = k
    · subst hjk
      exact hsend sock (by simpa [State.setSender] using hj)
    · exact h.sender j sock (by simpa [State.setSender, hjk] using hj)
  bare := h.bare
  finished := h.finished
  joined := h.joined
  sends := h.sends
  freed := h.freed

lemma Inv.senderStep (h : Inv log s) (hd : s.deinit ≠ .returned)
    (hs : s.senderStep k = some (s', out)) : Inv (log ++ out) s' := by
  have hlock : (s.sender k).Inside → s.connLock = some (.sender k) := h.lock (.sender k)
  unfold State.senderStep at hs
  cases hk : s.sender k with
  | idle =>
    simp only [hk] at hs
    cases hs
    rw [List.append_nil]
    exact h.senderMove (l := s.connLock) False.elim (.inl rfl) (by simp)
  | acquire =>
    simp only [hk] at hs
    obtain ⟨hfree, hs⟩ := Option.ite_none_right_eq_some.1 hs
    cases hs
    exact (h.senderMove (fun _ => rfl) (.inr (.inl hfree)) (by simp)).touch hd
  | read =>
    simp only [hk] at hs hlock
    cases hs
    refine (h.senderMove (l := s.connLock) (fun _ => hlock trivial) (.inl rfl) ?_).touch hd
    intro sock
    cases s.lastClientSock <;> simp
  | send sock =>
    simp only [hk] at hs hlock
    cases hs
    have hheld : s.held .field = some sock := h.sender k sock hk
    exact (h.senderMove (l := s.connLock) (fun _ => hlock trivial) (.inl rfl) (by simp)).send
      (h.accounts.isOpen hheld)
  | release =>
    simp only [hk] at hs hlock
    cases hs
    exact (h.senderMove False.elim (.inr (.inr (hlock trivial))) (by simp)).touch hd

lemma Inv.step (h : Inv log s) {e : Event n} (he : SendsFinish log s e)
    (hs : s.step e = some (s', out)) : Inv (log ++ out) s' := by
  cases e with
  | task result => exact h.taskStep hs
  | deinit => exact h.deinitStep hs
  | sender k => exact h.senderStep he hs
  | timeout k =>
    obtain ⟨-, hs⟩ := Option.ite_none_right_eq_some.1 hs
    cases hs
    exact (h.senderMove (l := s.connLock) False.elim (.inl rfl) (by simp)).touch he
  | others deed =>
    obtain ⟨w, hw, hs⟩ := Option.map_eq_some_iff.1 hs
    cases hs
    rw [List.append_nil]
    exact { h with accounts := h.accounts.others hw }

lemma inv_of_run (h : (machine n).Run SendsFinish log s) : Inv log s :=
  Machine.Run.invariant (P := Inv) inv_init (fun _ hinv he hs => hinv.step he hs) h

lemma Inv.held_eq_none (h : Inv log s) (hd : s.deinit = .returned) (p : Place) :
    s.held p = none := by
  have htask : s.task = .ended := h.finished (h.joined (by rw [hd]; trivial))
  cases p with
  | field => exact h.bare (by rw [htask]; trivial)
  | task => simp [State.held, holds, htask, TaskPc.sock?]
  | deinit => simp [State.held, holds, hd, DeinitPc.sock?]

end Invariant

/-- Whatever the task, `tcp_client_deinit` and `n` producers do, as long as the producers return
before the descriptor is freed: only sockets of the task that are not closed are closed and sent on,
the descriptor is not touched after it was freed, and when `tcp_client_deinit` returns, every socket
of the task was closed exactly once. -/
theorem tcp_client_socket_lifetime (n : Nat) (log : List Obs) (s : State n)
    (h : (machine n).Run SendsFinish log s) :
    Entries ClosesOpen log ∧ Entries SendsOpen log ∧ Entries TouchesLive log ∧
      (s.deinit = .returned → ∀ x ∈ created log, (closed log).count x = 1) := by
  have hinv := inv_of_run h
  refine ⟨hinv.accounts.closes, hinv.sends, hinv.freed.touches, fun hd x hx => ?_⟩
  exact hinv.accounts.count_closed_eq_one (hinv.held_eq_none hd) hx

/-- `tcp_client_deinit` retires between the task's look at the exit request and its publishing of
the second socket. A producer has sent on the first one, and others have its number by then. -/
theorem tcp_client_socket_lifetime_late :
    ∃ log s, (machine 1).Run SendsFinish log s ∧ s.deinit = .returned ∧
      created log = [⟨0, 5⟩, ⟨2, 6⟩] ∧ Obs.send (some ⟨0, 5⟩) ∈ log ∧
      Entries ClosesOpen log ∧ Entries SendsOpen log ∧ Entries TouchesLive log ∧
      (closed log).count ⟨0, 5⟩ = 1 ∧ (closed log).count ⟨2, 6⟩ = 1 := by
  obtain ⟨log, s, hrun, hd, hcreated, hsend⟩ :=
    Machine.Run.exists_of_exec (machine 1) SendsFinish
      (List.flatten [List.replicate 3 (.task .again), [.task (.ok 5)],
        List.replicate 3 (.task .again), [.task (.ok 0), .task .again],
        -- the producer sends
        List.replicate 5 (.sender 0),
        -- the connection is lost
        [.task .error], List.replicate 6 (.task .again),
        [.others (.opens 5), .task .again, .task (.ok 6)],
        -- the task has a socket that it has not published
        List.replicate 6 .deinit, List.replicate 3 (.task .again), [.task .error],
        List.replicate 7 (.task .again), List.replicate 3 .deinit])
      (fun log s => s.deinit = .returned ∧ created log = [⟨0, 5⟩, ⟨2, 6⟩] ∧
        Obs.send (some ⟨0, 5⟩) ∈ log)
      (by decide +kernel)
  obtain ⟨hcloses, hsends, htouches, hclosed⟩ := tcp_client_socket_lifetime 1 log s hrun
  exact ⟨log, s, hrun, hd, hcreated, hsend, hcloses, hsends, htouches,
    hclosed hd _ (by simp [hcreated]), hclosed hd _ (by simp [hcreated])⟩

end WbMge.TcpClient
