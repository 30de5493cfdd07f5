import WbMge.TcpServer.Model

/-!
# The teardown of the TCP server

The listen socket is in the field `listen_sock`, from which `tcp_server_task` and
`tcp_server_deinit` both take it with an exchange. A client's socket belongs to the acceptor until
it has started a receiver, which then is the one to close it. So a socket is in one place at a time,
and who has it closes it.

`active_connections` counts a client from before its receiver is started until after the receiver
has touched the descriptor for the last time. Once the acceptor has finished, the count only goes
down, and `tcp_server_deinit` frees the descriptor when it is zero.
-/

namespace WbMge.TcpServer

open Handles Tcp

/-! ## Where the sockets are -/

def CreatePc.sock? : CreatePc → Option Handle
  | .socket _ => none
  | .bind sock _ | .listen sock _ => some sock

/-- The socket that `retire_client_conn` has not closed yet. -/
def RetirePc.sock? (sock : Handle) : RetirePc → Option Handle
  | .acquire | .clear | .close => some sock
  | .release => none

def InitPc.sock? : InitPc → Option Handle
  | .create pc => pc.sock?
  | .alloc sock | .close sock | .createTask sock => some sock
  | .setTaskHandle | .setMaxConnections _ | .done | .failed => none

def AcceptorPc.sock? : AcceptorPc → Option Handle
  | .closeListen sock _ | .storeListen sock | .checkLimit sock | .allocArgs sock
  | .register _ sock | .increment sock | .createReceiver sock => some sock
  | .create pc => pc.sock?
  | .retire pc sock _ => pc.sock? sock
  | .notCreated | .checkExit | .loadListen | .accept | .acceptFailed _ | .recheckExit
  | .exchange _ | .decrement | .finish | .ended => none

def ReceiverPc.sock? : ReceiverPc → Option Handle
  | .register _ sock _ | .recv sock | .handle sock | .checkExit sock | .closeHandler sock =>
    some sock
  | .retire pc sock => pc.sock? sock
  | .decrement | .ended => none

def DeinitPc.sock? : DeinitPc → Option Handle
  | .closeListen sock => some sock
  | .idle | .setExitReq | .exchange | .waitFinished | .waitReceivers | .lockDeinit | .free
  | .returned => none

inductive Place where
  | listen
  | init
  | acceptor
  | deinit
  | receiver (k : Nat)
deriving Repr, DecidableEq

def holds (listen init acceptor deinit : Option Handle) (receivers : List ReceiverPc) :
    Holding Place Handle
  | .listen => listen
  | .init => init
  | .acceptor => acceptor
  | .deinit => deinit
  | .receiver k => receivers[k]?.bind ReceiverPc.sock?

section Holds

variable {l i a d : Option Handle} {receivers : List ReceiverPc} {k : Nat} {r : ReceiverPc}

lemma update_listen (y : Option Handle) :
    Function.update (holds l i a d receivers) .listen y = holds y i a d receivers := by
  funext p
  cases p <;> rfl

lemma update_init (y : Option Handle) :
    Function.update (holds l i a d receivers) .init y = holds l y a d receivers := by
  funext p
  cases p <;> rfl

lemma update_acceptor (y : Option Handle) :
    Function.update (holds l i a d receivers) .acceptor y = holds l i y d receivers := by
  funext p
  cases p <;> rfl

lemma update_deinit (y : Option Handle) :
    Function.update (holds l i a d receivers) .deinit y = holds l i a y receivers := by
  funext p
  cases p <;> rfl

lemma update_receiver (hk : k < receivers.length) :
    Function.update (holds l i a d receivers) (.receiver k) r.sock? =
      holds l i a d (receivers.set k r) := by
  funext p
  cases p with
  | receiver j =>
    by_cases hj : j = k
    · subst hj
      simp [holds, hk]
    · have hj' : Place.receiver j ≠ .receiver k := fun h => hj (Place.receiver.inj h)
      simp [holds, hj', Ne.symm hj]
  | listen | init | acceptor | deinit => rfl

lemma update_receiver_length :
    Function.update (holds l i a d receivers) (.receiver receivers.length) r.sock? =
      holds l i a d (receivers ++ [r]) := by
  funext p
  cases p with
  | receiver j =>
    by_cases hj : j = receivers.length
    · subst hj
      simp [holds]
    have hj' : Place.receiver j ≠ .receiver receivers.length := fun h => hj (Place.receiver.inj h)
    simp only [holds, Function.update_of_ne hj']
    rcases Nat.lt_or_gt_of_ne hj with hlt | hgt
    · rw [List.getElem?_append_left hlt]
    · have hge := Nat.le_of_lt hgt
      simp [List.getElem?_eq_none hge, List.getElem?_append_right hge,
        List.getElem?_eq_none (l := [r]) (i := j - receivers.length) (by simp; omega)]
  | listen | init | acceptor | deinit => rfl

end Holds

/-! ## The invariant -/

def RegisterPc.Inside : RegisterPc → Prop
  | .store | .release => True
  | .acquire => False

def RetirePc.Inside : RetirePc → Prop
  | .clear | .close | .release => True
  | .acquire => False

def AcceptorPc.Inside : AcceptorPc → Prop
  | .register pc _ => pc.Inside
  | .retire pc _ _ => pc.Inside
  | .notCreated | .checkExit | .loadListen | .accept | .acceptFailed _ | .recheckExit | .exchange _
  | .closeListen _ _ | .create _ | .storeListen _ | .checkLimit _ | .allocArgs _ | .increment _
  | .createReceiver _ | .decrement | .finish | .ended => False

def ReceiverPc.Inside : ReceiverPc → Prop
  | .register pc _ _ => pc.Inside
  | .retire pc _ => pc.Inside
  | .recv _ | .handle _ | .checkExit _ | .closeHandler _ | .decrement | .ended => False

def SenderPc.Inside : SenderPc → Prop
  | .read _ | .send _ _ | .release => True
  | .idle | .acquire _ => False

def InitPc.Early : InitPc → Prop
  | .create _ | .alloc _ | .close _ | .createTask _ | .failed => True
  | .setTaskHandle | .setMaxConnections _ | .done => False

def AcceptorPc.Bare : AcceptorPc → Prop
  | .notCreated | .closeListen _ _ | .create _ | .storeListen _ | .finish | .ended => True
  | .checkExit | .loadListen | .accept | .acceptFailed _ | .recheckExit | .exchange _
  | .checkLimit _ | .allocArgs _ | .register _ _ | .increment _ | .createReceiver _
  | .retire _ _ _ | .decrement => False

/-- The client of the acceptor is counted. -/
def AcceptorPc.counted : AcceptorPc → Nat
  | .createReceiver _ | .retire _ _ true | .decrement => 1
  | .retire _ _ false | .notCreated | .checkExit | .loadListen | .accept | .acceptFailed _
  | .recheckExit | .exchange _ | .closeListen _ _ | .create _ | .storeListen _ | .checkLimit _
  | .allocArgs _ | .register _ _ | .increment _ | .finish | .ended => 0

/-- `tcp_server_deinit` has seen that the acceptor has finished. -/
def DeinitPc.Joined : DeinitPc → Prop
  | .waitReceivers | .lockDeinit | .free | .returned => True
  | .idle | .setExitReq | .exchange | .closeListen _ | .waitFinished => False

/-- `tcp_server_deinit` has waited for all the tasks. -/
def DeinitPc.Drained : DeinitPc → Prop
  | .lockDeinit | .free | .returned => True
  | .idle | .setExitReq | .exchange | .closeListen _ | .waitFinished | .waitReceivers => False

section Invariant

variable {n : Nat}

def State.held (s : State n) : Holding Place Handle :=
  holds s.listenSock s.init.sock? s.acceptor.sock? s.deinit.sock? s.receivers

/-- Who is between taking `conn_lock` and giving it back. -/
def State.Inside (s : State n) : Owner n → Prop
  | .acceptor => s.acceptor.Inside
  | .receiver k => ∃ r, s.receivers[k]? = some r ∧ r.Inside
  | .sender k => (s.sender k).Inside

/-- The receivers that have not ended. -/
def running (receivers : List ReceiverPc) : Nat := receivers.countP (· ≠ .ended)

structure Inv (log : List Obs) (s : State n) : Prop where
  accounts : Accounts log s.sockets s.held
  lock : Guarded s.connLock s.Inside
  bare : s.acceptor.Bare → s.listenSock = none
  early : s.init.Early → s.acceptor = .notCreated
  started : s.deinit ≠ .idle → s.init = .done
  count : s.activeConnections = running s.receivers + s.acceptor.counted
  finished : s.finished = true → s.acceptor = .ended
  joined : s.deinit.Joined → s.finished = true
  drained : s.deinit.Drained → running s.receivers = 0
  freed : Freed log (s.deinit = .returned)

variable {log log' : List Obs} {s s' s₁ : State n} {out : List Obs}

lemma inv_init (limit : Option Nat) : Inv [] (machine n limit).init where
  accounts := by
    have hheld : (machine n limit).init.held = fun _ => none := by
      funext p
      cases p <;> rfl
    rw [hheld]
    exact .init
  lock := by
    intro who hwho
    cases who with
    | acceptor | sender k => exact False.elim hwho
    | receiver k =>
      obtain ⟨r, hr, -⟩ := hwho
      cases hr
  bare _ := rfl
  early _ := rfl
  started hd := absurd rfl hd
  count := rfl
  finished := by simp [machine]
  joined := False.elim
  drained := False.elim
  freed := .init

/-! ### The descriptor is there -/

lemma Inv.deinit_ne_returned_of_acceptor (h : Inv log s) (ha : s.acceptor ≠ .ended) :
    s.deinit ≠ .returned := by
  intro hd
  exact ha (h.finished (h.joined (by rw [hd]; trivial)))

variable {k : Nat} {r p : ReceiverPc} {result : Result} {pc : RegisterPc} {sock : Handle}
  {next : Option RegisterPc} {w : Estate} {l : Option (Owner n)}

lemma running_pos {receivers : List ReceiverPc} (hk : receivers[k]? = some r) (hr : r ≠ .ended) :
    0 < running receivers :=
  List.countP_pos_iff.2 ⟨r, List.mem_of_getElem? hk, by simpa using hr⟩

lemma Inv.not_drained (h : Inv log s) (hk : s.receivers[k]? = some r) (hr : r ≠ .ended) :
    ¬ s.deinit.Drained :=
  fun hd => absurd (h.drained hd) (Nat.ne_of_gt (running_pos hk hr))

lemma Inv.deinit_ne_returned_of_receiver (h : Inv log s) (hk : s.receivers[k]? = some r)
    (hr : r ≠ .ended) : s.deinit ≠ .returned := by
  intro hd
  exact h.not_drained hk hr (by rw [hd]; trivial)

lemma Inv.touch (h : Inv log s) (hd : s.deinit ≠ .returned) : Inv (log ++ [.touch]) s :=
  { h with
    accounts := h.accounts.plain trivial
    freed := h.freed.touch hd }

/-! ### The calls that several tasks make -/

/-- The socket that `create_listen_socket` has, or returns. -/
def createdSock? : CreatePc ⊕ Option Handle → Option Handle
  | .inl pc => pc.sock?
  | .inr sock => sock

lemma createdSock?_retryCreate (attempt : Nat) :
    createdSock? (State.retryCreate attempt) = none := by
  unfold State.retryCreate
  split <;> rfl

lemma create_spec {pc : CreatePc} {r : CreatePc ⊕ Option Handle} {held : Holding Place Handle}
    {p : Place} {returned : Prop} (hs : s.create result pc = some (s₁, r, out))
    (haccounts : Accounts log s.sockets held) (hp : held p = pc.sock?)
    (hfreed : Freed log returned) :
    ∃ w, s₁ = { s with sockets := w } ∧ Freed (log ++ out) returned ∧
      Accounts (log ++ out) w (Function.update held p (createdSock? r)) := by
  have hclose : ∀ {sock : Handle} {attempt : Nat}, held p = some sock →
      ∃ w, { s with sockets := s.sockets.close sock.num } = { s with sockets := w } ∧
        Freed (log ++ [.close (s.sockets.pool.at? sock.num)]) returned ∧
        Accounts (log ++ [.close (s.sockets.pool.at? sock.num)]) w
          (Function.update held p (createdSock? (State.retryCreate attempt))) := by
    intro sock attempt hsock
    refine ⟨_, rfl, hfreed.concat (by simp) (by simp), ?_⟩
    rw [createdSock?_retryCreate]
    exact haccounts.close hsock
  have hstay : ∀ {sock : Option Handle}, held p = sock → ∃ w, s = { s with sockets := w } ∧
      Freed (log ++ []) returned ∧ Accounts (log ++ []) w (Function.update held p sock) := by
    intro sock hsock
    rw [List.append_nil]
    exact ⟨s.sockets, rfl, hfreed, haccounts.keep hsock⟩
  cases pc with
  | socket attempt =>
    cases result with
    | ok fd =>
      obtain ⟨hfd, hs⟩ := Option.dite_none_right_eq_some.1 hs
      cases hs
      exact ⟨_, rfl, hfreed.concat (by simp) (by simp), haccounts.open hfd hp rfl⟩
    | again | noResource | error =>
      cases hs
      exact hstay hp
  | bind sock attempt | listen sock attempt =>
    cases result with
    | ok fd =>
      cases hs
      exact hstay hp
    | again | noResource | error =>
      cases hs
      exact hclose hp

lemma register_spec {who : Owner n} (hs : s.register who sock pc = some (s₁, next, out))
    (hlock : pc.Inside → s.connLock = some who) :
    ∃ f l, s₁ = { s with lastClientSock := f, connLock := l } ∧ out = [.touch] ∧
      (∀ pc', next = some pc' → pc'.Inside → l = some who) ∧
      (l = s.connLock ∨ s.connLock = none ∨ s.connLock = some who) := by
  cases pc with
  | acquire =>
    obtain ⟨hfree, hs⟩ := Option.ite_none_right_eq_some.1 hs
    cases hs
    exact ⟨_, _, rfl, rfl, fun _ _ _ => rfl, .inr (.inl hfree)⟩
  | store =>
    cases hs
    exact ⟨_, _, rfl, rfl, fun _ _ _ => hlock trivial, .inl rfl⟩
  | release =>
    cases hs
    exact ⟨_, _, rfl, rfl, by simp, .inr (.inr (hlock trivial))⟩

/-- The socket that `retire_client_conn` has not closed, if it has not returned. -/
def retiredSock? (sock : Handle) (next : Option RetirePc) : Option Handle :=
  next.bind (·.sock? sock)

lemma retire_spec {who : Owner n} {sock : Handle} {pc : RetirePc} {next : Option RetirePc}
    {held : Holding Place Handle} {p : Place} {returned : Prop}
    (hs : s.retire who sock pc = some (s₁, next, out)) (hlock : pc.Inside → s.connLock = some who)
    (haccounts : Accounts log s.sockets held) (hp : held p = pc.sock? sock)
    (hfreed : Freed log returned) (hr : ¬ returned) :
    ∃ w f g l,
      s₁ = { s with sockets := w, lastClientSock := f, connGeneration := g, connLock := l } ∧
      (∀ pc', next = some pc' → pc'.Inside → l = some who) ∧
      (l = s.connLock ∨ s.connLock = none ∨ s.connLock = some who) ∧
      Freed (log ++ out) returned ∧
      Accounts (log ++ out) w (Function.update held p (retiredSock? sock next)) := by
  have hstay : ∀ {y : Option Handle}, held p = y → Freed (log ++ [.touch]) returned ∧
      Accounts (log ++ [.touch]) s.sockets (Function.update held p y) := by
    intro y hy
    exact ⟨hfreed.touch hr, (haccounts.keep hy).plain trivial⟩
  cases pc with
  | acquire =>
    obtain ⟨hfree, hs⟩ := Option.ite_none_right_eq_some.1 hs
    cases hs
    exact ⟨_, _, _, _, rfl, fun _ _ _ => rfl, .inr (.inl hfree), hstay hp⟩
  | clear =>
    cases hs
    exact ⟨_, _, _, _, rfl, fun _ _ _ => hlock trivial, .inl rfl, hstay hp⟩
  | close =>
    cases hs
    exact ⟨_, _, _, _, rfl, fun _ _ _ => hlock trivial, .inl rfl,
      hfreed.concat (by simp) (by simp), haccounts.close hp⟩
  | release =>
    cases hs
    exact ⟨_, _, _, _, rfl, by simp, .inr (.inr (hlock trivial)), hstay hp⟩

/-! ### Steps of the acceptor -/

lemma Inv.acceptorMove (h : Inv log s) {p : AcceptorPc} {c f : Option Handle} {g : UInt32}
    {a : Nat} (hruns : s.acceptor ≠ .ended ∧ s.acceptor ≠ .notCreated)
    (haccounts : Accounts log' w (holds c s.init.sock? p.sock? s.deinit.sock? s.receivers))
    (hin : p.Inside → l = some .acceptor)
    (hl : l = s.connLock ∨ s.connLock = none ∨ s.connLock = some .acceptor)
    (hbare : p.Bare → c = none) (hcount : a = running s.receivers + p.counted)
    (hfreed : Freed log' (s.deinit = .returned)) :
    Inv log' { s with
      acceptor := p, sockets := w, listenSock := c, lastClientSock := f, connGeneration := g,
      connLock := l, activeConnections := a } :=
  { h with
    accounts := haccounts
    lock := by
      refine h.lock.step (i := .acceptor) (fun who hwho => ?_) hin hl
      cases who with
      | acceptor => exact absurd rfl hwho
      | receiver k | sender k => exact id
    bare := hbare
    early := fun hearly => absurd (h.early hearly) hruns.2
    count := hcount
    finished := fun hfin => absurd (h.finished hfin) hruns.1
    freed := hfreed }

/-- A step that does not change the descriptor. -/
lemma Inv.acceptorGoto (h : Inv log s) {p₀ p : AcceptorPc} (ha : s.acceptor = p₀)
    (hruns : p₀ ≠ .ended ∧ p₀ ≠ .notCreated) (hsock : p.sock? = p₀.sock?) (hin : ¬ p.Inside)
    (hbare : ¬ p.Bare) (hcounted : p.counted = p₀.counted) (hout : out = [] ∨ out = [.touch]) :
    Inv (log ++ out) { s with acceptor := p } := by
  subst ha
  have hmove : Inv log { s with acceptor := p } := by
    refine h.acceptorMove (l := s.connLock) hruns ?_ (fun hp => absurd hp hin) (.inl rfl)
      (fun hp => absurd hp hbare) ?_ h.freed
    · rw [hsock]
      exact h.accounts
    · rw [hcounted]
      exact h.count
  obtain rfl | rfl := hout
  · rwa [List.append_nil]
  · exact hmove.touch (h.deinit_ne_returned_of_acceptor hruns.1)

lemma Inv.acceptorStep_accept (h : Inv log s) {fd : Nat} (ha : s.acceptor = .accept)
    (hfd : s.sockets.pool.Fresh fd) :
    Inv (log ++ [.accept (s.sockets.pool.newest fd)]) { s with
      sockets := s.sockets.open fd hfd
      acceptor := .checkLimit (s.sockets.pool.newest fd) } := by
  refine h.acceptorMove (c := s.listenSock) (l := s.connLock) (by simp [ha]) ?_
    False.elim (.inl rfl) False.elim ?_ (h.freed.concat (by simp) (by simp))
  · have hnone : s.held .acceptor = none := by simp [State.held, holds, ha, AcceptorPc.sock?]
    have hopen := h.accounts.open hfd hnone (o := .accept (s.sockets.pool.newest fd)) rfl
    rwa [State.held, update_acceptor] at hopen
  · rw [h.count, ha]
    rfl

lemma afterClose_spec (after : After) : (State.afterClose after).sock? = none ∧
    ¬ (State.afterClose after).Inside ∧ (State.afterClose after).counted = 0 := by
  cases after <;> exact ⟨rfl, id, rfl⟩

lemma Inv.acceptorStep_exchange (h : Inv log s) {after : After}
    (ha : s.acceptor = .exchange after) :
    Inv log { s with
      listenSock := none
      acceptor := s.listenSock.elim (State.afterClose after) (.closeListen · after) } := by
  have haccounts := h.accounts
  have hcount := h.count
  simp only [State.held, ha] at haccounts
  rw [ha] at hcount
  cases hlisten : s.listenSock with
  | none =>
    obtain ⟨hsock, hin, hcounted⟩ := afterClose_spec after
    refine h.acceptorMove (p := State.afterClose after) (l := s.connLock) (by simp [ha]) ?_
      (fun hp => absurd hp hin) (.inl rfl) (fun _ => rfl) ?_ h.freed
    · rw [hsock]
      rwa [hlisten] at haccounts
    · rw [hcounted]
      exact hcount
  | some sock =>
    refine h.acceptorMove (p := .closeListen sock after) (l := s.connLock) (by simp [ha]) ?_
      False.elim (.inl rfl) (fun _ => rfl) hcount h.freed
    rw [hlisten] at haccounts
    have hmove := haccounts.move (i := .listen) (j := .acceptor) (x := sock) rfl rfl
    rwa [update_listen, update_acceptor] at hmove

lemma Inv.acceptorStep_closeListen (h : Inv log s) {after : After}
    (ha : s.acceptor = .closeListen sock after) :
    Inv (log ++ [.close (s.sockets.pool.at? sock.num)]) { s with
      sockets := s.sockets.close sock.num, acceptor := State.afterClose after } := by
  have haccounts := h.accounts
  simp only [State.held, ha] at haccounts
  obtain ⟨hsock, hin, hcounted⟩ := afterClose_spec after
  refine h.acceptorMove (l := s.connLock) (by simp [ha]) ?_
    (fun hp => absurd hp hin) (.inl rfl) (fun _ => h.bare (by rw [ha]; trivial)) ?_
    (h.freed.concat (by simp) (by simp))
  · rw [hsock]
    have hclose := haccounts.close (i := .acceptor) (x := sock) rfl
    rwa [update_acceptor] at hclose
  · rw [hcounted, h.count, ha]
    rfl

lemma Inv.acceptorStep_create (h : Inv log s) {pc : CreatePc} {r : CreatePc ⊕ Option Handle}
    (ha : s.acceptor = .create pc) (hs : s.create result pc = some (s₁, r, out)) :
    Inv (log ++ out) { s₁ with
      acceptor := r.elim .create (·.elim (.exchange .exit) .storeListen) } := by
  have hp : s.held .acceptor = pc.sock? := by simp [State.held, holds, ha, AcceptorPc.sock?]
  obtain ⟨w, rfl, hfreed, haccounts⟩ := create_spec hs h.accounts hp h.freed
  rw [State.held, update_acceptor] at haccounts
  have hcount := h.count
  rw [ha] at hcount
  have hbare : s.listenSock = none := h.bare (by rw [ha]; trivial)
  rcases r with pc' | (_ | sock)
  all_goals
    exact h.acceptorMove (l := s.connLock) (by simp [ha]) haccounts (fun hp => False.elim hp)
      (.inl rfl) (fun _ => hbare) hcount hfreed

lemma Inv.acceptorStep_storeListen (h : Inv log s) (ha : s.acceptor = .storeListen sock) :
    Inv log { s with listenSock := some sock, acceptor := .checkExit } := by
  have haccounts := h.accounts
  have hcount := h.count
  simp only [State.held, ha] at haccounts
  rw [ha] at hcount
  refine h.acceptorMove (l := s.connLock) (by simp [ha]) ?_ False.elim (.inl rfl)
    False.elim hcount h.freed
  -- nothing is lost: the field was empty
  rw [h.bare (by rw [ha]; trivial)] at haccounts
  have hmove := haccounts.move (i := .acceptor) (j := .listen) (x := sock) rfl rfl
  rwa [update_acceptor, update_listen] at hmove

lemma Inv.acceptorStep_register (h : Inv log s) (ha : s.acceptor = .register pc sock)
    (hs : s.register .acceptor sock pc = some (s₁, next, out)) :
    Inv (log ++ out) { s₁ with acceptor := next.elim (.increment sock) (.register · sock) } := by
  have hlock : pc.Inside → s.connLock = some .acceptor := by
    intro hpc
    refine h.lock .acceptor ?_
    simp only [State.Inside, ha]
    exact hpc
  have hd := h.deinit_ne_returned_of_acceptor (by simp [ha])
  have haccounts := h.accounts
  have hcount := h.count
  simp only [State.held, ha] at haccounts
  rw [ha] at hcount
  obtain ⟨f, l, rfl, rfl, hin, hl⟩ := register_spec hs hlock
  cases next with
  | none =>
    exact (h.acceptorMove (p := .increment sock) (by simp [ha]) haccounts False.elim
      hl False.elim hcount h.freed).touch hd
  | some pc' =>
    exact (h.acceptorMove (p := .register pc' sock) (by simp [ha]) haccounts
      (hin pc' rfl) hl False.elim hcount h.freed).touch hd

lemma Inv.acceptorStep_retire (h : Inv log s) {pc : RetirePc} {counted : Bool}
    {next : Option RetirePc} (ha : s.acceptor = .retire pc sock counted)
    (hs : s.retire .acceptor sock pc = some (s₁, next, out)) :
    Inv (log ++ out) { s₁ with
      acceptor := next.elim (if counted then .decrement else .checkExit)
        (.retire · sock counted) } := by
  have hlock : pc.Inside → s.connLock = some .acceptor := by
    intro hpc
    refine h.lock .acceptor ?_
    simp only [State.Inside, ha]
    exact hpc
  have hd := h.deinit_ne_returned_of_acceptor (by simp [ha])
  have hp : s.held .acceptor = pc.sock? sock := by simp [State.held, holds, ha, AcceptorPc.sock?]
  obtain ⟨w, f, g, l, rfl, hin, hl, hfreed, haccounts⟩ :=
    retire_spec hs hlock h.accounts hp h.freed hd
  rw [State.held, update_acceptor] at haccounts
  have hcount := h.count
  rw [ha] at hcount
  cases next with
  | none =>
    cases counted
    all_goals
      exact h.acceptorMove (by simp [ha]) haccounts False.elim hl False.elim hcount hfreed
  | some pc' =>
    refine h.acceptorMove (p := .retire pc' sock counted) (by simp [ha]) haccounts
      (hin pc' rfl) hl False.elim ?_ hfreed
    cases counted <;> exact hcount

lemma Inv.acceptorStep_createReceiver (h : Inv log s) (ha : s.acceptor = .createReceiver sock) :
    Inv log { s with
      receivers := s.receivers ++ [.register .acquire sock false]
      acceptor := .checkExit } := by
  have hend : s.acceptor ≠ .ended := by simp [ha]
  have haccounts := h.accounts
  simp only [State.held, ha] at haccounts
  refine ⟨?_, ?_, False.elim, fun hearly => ?_, h.started, ?_, fun hfin => ?_, h.joined,
    fun hd => ?_, h.freed⟩
  · have hnone : holds s.listenSock s.init.sock? (AcceptorPc.createReceiver sock).sock?
        s.deinit.sock? s.receivers (.receiver s.receivers.length) = none := by simp [holds]
    have hmove := haccounts.move (i := .acceptor) (x := sock) rfl hnone
    rw [update_acceptor] at hmove
    have hspawn : some sock = (ReceiverPc.register .acquire sock false).sock? := rfl
    rwa [hspawn, update_receiver_length] at hmove
  · refine h.lock.step (i := .acceptor) (fun who hwho hin => ?_) False.elim (.inl rfl)
    cases who with
    | acceptor => exact absurd rfl hwho
    | sender k => exact hin
    | receiver k =>
      -- the new receiver has not asked for the lock yet
      obtain ⟨r, hr, hin⟩ := hin
      rcases Nat.lt_or_ge k s.receivers.length with hlt | hge
      · exact ⟨r, by rwa [List.getElem?_append_left hlt] at hr, hin⟩
      · rw [List.getElem?_append_right hge] at hr
        obtain rfl := List.mem_singleton.1 (List.mem_of_getElem? hr)
        exact False.elim hin
  · exact absurd (h.early hearly) (by simp [ha])
  · rw [h.count, ha]
    simp [running, AcceptorPc.counted, List.countP_append]
  · exact absurd (h.finished hfin) hend
  · have hjoined : s.deinit.Joined := by
      cases hdeinit : s.deinit <;> simp_all [DeinitPc.Joined, DeinitPc.Drained]
    exact absurd (h.finished (h.joined hjoined)) hend

lemma Inv.acceptorStep (h : Inv log s) (hs : s.acceptorStep result = some (s', out)) :
    Inv (log ++ out) s' := by
  have hd : s.acceptor ≠ .ended → s.deinit ≠ .returned := h.deinit_ne_returned_of_acceptor
  have haccounts := h.accounts
  have hcount := h.count
  unfold State.acceptorStep at hs
  cases ha : s.acceptor <;> simp only [State.held, ha] at hs haccounts hcount
  case accept =>
    cases result with
    | ok fd =>
      obtain ⟨hfd, hs⟩ := Option.dite_none_right_eq_some.1 hs
      cases hs
      exact h.acceptorStep_accept ha hfd
    | again | noResource | error =>
      cases hs
      exact h.acceptorGoto ha (by simp) rfl id id rfl (.inl rfl)
  case exchange after =>
    cases hs
    exact (h.acceptorStep_exchange ha).touch (hd (by simp [ha]))
  case closeListen sock after =>
    cases hs
    exact h.acceptorStep_closeListen ha
  case create pc =>
    obtain ⟨⟨s₁, r, out₁⟩, hcreate, hs⟩ := Option.map_eq_some_iff.1 hs
    cases hs
    exact h.acceptorStep_create ha hcreate
  case storeListen sock =>
    cases hs
    exact (h.acceptorStep_storeListen ha).touch (hd (by simp [ha]))
  case register pc sock =>
    obtain ⟨⟨s₁, next, out₁⟩, hregister, hs⟩ := Option.map_eq_some_iff.1 hs
    cases hs
    exact h.acceptorStep_register ha hregister
  case increment sock =>
    cases hs
    exact (h.acceptorMove (p := .createReceiver sock) (l := s.connLock) (by simp [ha]) haccounts
      False.elim (.inl rfl) False.elim (by rw [hcount]; rfl) h.freed).touch (hd (by simp [ha]))
  case createReceiver sock =>
    cases result with
    | ok fd =>
      cases hs
      rw [List.append_nil]
      exact h.acceptorStep_createReceiver ha
    | again | noResource | error =>
      cases hs
      exact h.acceptorGoto ha (by simp) rfl id id rfl (.inr rfl)
  case retire pc sock counted =>
    obtain ⟨⟨s₁, next, out₁⟩, hretire, hs⟩ := Option.map_eq_some_iff.1 hs
    cases hs
    exact h.acceptorStep_retire ha hretire
  case decrement =>
    cases hs
    exact (h.acceptorMove (p := .checkExit) (l := s.connLock) (by simp [ha])
      haccounts False.elim (.inl rfl) False.elim (by rw [hcount]; rfl) h.freed).touch
      (hd (by simp [ha]))
  case finish =>
    cases hs
    have hended := (h.acceptorMove (p := .ended) (f := s.lastClientSock) (g := s.connGeneration)
      (l := s.connLock) (by simp [ha]) haccounts False.elim (.inl rfl)
      (fun _ => h.bare (by rw [ha]; trivial)) hcount h.freed).touch (hd (by simp [ha]))
    exact { hended with finished := fun _ => rfl, joined := fun _ => rfl }
  -- the others only decide where to go on
  all_goals repeat' split at hs
  all_goals cases hs
  all_goals exact h.acceptorGoto ha (by simp) rfl id id rfl (by simp)

/-! ### Steps of a receiver -/

lemma running_set {receivers : List ReceiverPc} (hk : receivers[k]? = some r) (hr : r ≠ .ended) :
    running (receivers.set k p) + 1 = running receivers + if p = .ended then 0 else 1 := by
  obtain ⟨hlt, hget⟩ := List.getElem?_eq_some_iff.1 hk
  have hpos := running_pos hk hr
  have hrun : decide (r ≠ .ended) = true := decide_eq_true hr
  unfold running at hpos ⊢
  rw [List.countP_set hlt, hget, hrun, if_pos rfl]
  by_cases hp : p = .ended
  · have hstop : decide (p ≠ .ended) ≠ true := by simp [hp]
    rw [if_neg hstop, if_pos hp]
    omega
  · rw [if_pos (decide_eq_true hp), if_neg hp]
    omega

lemma Inv.receiverMove (h : Inv log s) {f : Option Handle} {g : UInt32} {a : Nat}
    (hk : s.receivers[k]? = some r) (hr : r ≠ .ended)
    (haccounts : Accounts log' w (Function.update s.held (.receiver k) p.sock?))
    (hin : p.Inside → l = some (.receiver k))
    (hl : l = s.connLock ∨ s.connLock = none ∨ s.connLock = some (.receiver k))
    (hcount : a + (if p = .ended then 1 else 0) = s.activeConnections)
    (hfreed : Freed log' (s.deinit = .returned)) :
    Inv log' { s.setReceiver k p with
      sockets := w, lastClientSock := f, connGeneration := g, connLock := l,
      activeConnections := a } where
  accounts := by
    obtain ⟨hlt, -⟩ := List.getElem?_eq_some_iff.1 hk
    rwa [State.held, update_receiver hlt] at haccounts
  lock := by
    refine h.lock.step (i := .receiver k) (fun who hwho hwin => ?_) (fun hwin => hin ?_) hl
    · cases who with
      | acceptor | sender j => exact hwin
      | receiver j =>
        have hjk : k ≠ j := fun hjk => hwho (congrArg Owner.receiver hjk.symm)
        obtain ⟨r', hr', hin'⟩ := hwin
        exact ⟨r', by simpa [State.setReceiver, List.getElem?_set_ne hjk] using hr', hin'⟩
    · obtain ⟨r', hr', hin'⟩ := hwin
      obtain ⟨hlt, -⟩ := List.getElem?_eq_some_iff.1 hk
      have hset : (s.receivers.set k p)[k]? = some p := List.getElem?_set_self hlt
      obtain rfl : r' = p := Option.some.inj (hr'.symm.trans hset)
      exact hin'
  bare := h.bare
  early := h.early
  started := h.started
  count := by
    have hset := running_set (p := p) hk hr
    have hold := h.count
    simp only [State.setReceiver]
    by_cases hp : p = .ended
    · rw [if_pos hp] at hset hcount
      omega
    · rw [if_neg hp] at hset hcount
      omega
  finished := h.finished
  joined := h.joined
  drained hd := absurd hd (h.not_drained hk hr)
  freed := hfreed

lemma Inv.receiverGoto (h : Inv log s) (hk : s.receivers[k]? = some r) (hr : r ≠ .ended)
    (hsock : p.sock? = r.sock?) (hin : ¬ p.Inside) (hp : p ≠ .ended) :
    Inv (log ++ [.touch]) (s.setReceiver k p) := by
  have hheld : s.held (.receiver k) = p.sock? := by simp [State.held, holds, hk, hsock]
  exact (h.receiverMove (l := s.connLock) hk hr (h.accounts.keep hheld)
    (fun hp' => absurd hp' hin) (.inl rfl) (by simp [hp]) h.freed).touch
    (h.deinit_ne_returned_of_receiver hk hr)

lemma Inv.receiverStep_register (h : Inv log s) {packet : Bool}
    (hk : s.receivers[k]? = some (.register pc sock packet))
    (hs : s.register (.receiver k) sock pc = some (s₁, next, out)) :
    Inv (log ++ out) (s₁.setReceiver k (next.elim (if packet then .handle sock else .recv sock)
      (.register · sock packet))) := by
  have hlock : pc.Inside → s.connLock = some (.receiver k) :=
    fun hpc => h.lock (.receiver k) ⟨_, hk, hpc⟩
  have hheld : s.held (.receiver k) = some sock := by
    simp [State.held, holds, hk, ReceiverPc.sock?]
  have haccounts := h.accounts.keep hheld
  obtain ⟨f, l, rfl, rfl, hin, hl⟩ := register_spec hs hlock
  have hd := h.deinit_ne_returned_of_receiver hk (by simp)
  cases next with
  | none =>
    cases packet
    all_goals exact (h.receiverMove hk (by simp) haccounts False.elim hl rfl h.freed).touch hd
  | some pc' =>
    exact (h.receiverMove (p := .register pc' sock packet) hk (by simp) haccounts (hin pc' rfl) hl
      rfl h.freed).touch hd

lemma Inv.receiverStep_retire (h : Inv log s) {pc : RetirePc} {next : Option RetirePc}
    (hk : s.receivers[k]? = some (.retire pc sock))
    (hs : s.retire (.receiver k) sock pc = some (s₁, next, out)) :
    Inv (log ++ out) (s₁.setReceiver k (next.elim .decrement (.retire · sock))) := by
  have hlock : pc.Inside → s.connLock = some (.receiver k) :=
    fun hpc => h.lock (.receiver k) ⟨_, hk, hpc⟩
  have hp : s.held (.receiver k) = pc.sock? sock := by
    simp [State.held, holds, hk, ReceiverPc.sock?]
  have hd := h.deinit_ne_returned_of_receiver hk (by simp)
  obtain ⟨w, f, g, l, rfl, hin, hl, hfreed, haccounts⟩ :=
    retire_spec hs hlock h.accounts hp h.freed hd
  cases next with
  | none =>
    exact h.receiverMove (p := .decrement) hk (by simp) haccounts False.elim hl rfl hfreed
  | some pc' =>
    exact h.receiverMove (p := .retire pc' sock) hk (by simp) haccounts (hin pc' rfl) hl rfl hfreed

lemma Inv.receiverStep (h : Inv log s) (hk : s.receivers[k]? = some r)
    (hs : s.receiverStep k r result = some (s', out)) : Inv (log ++ out) s' := by
  unfold State.receiverStep at hs
  cases r with
  | register pc sock packet =>
    obtain ⟨⟨s₁, next, out₁⟩, hregister, hs⟩ := Option.map_eq_some_iff.1 hs
    cases hs
    exact h.receiverStep_register hk hregister
  | retire pc sock =>
    obtain ⟨⟨s₁, next, out₁⟩, hretire, hs⟩ := Option.map_eq_some_iff.1 hs
    cases hs
    exact h.receiverStep_retire hk hretire
  | recv sock =>
    cases result <;> cases hs <;> exact h.receiverGoto hk (by simp) rfl id (by simp)
  | handle sock | closeHandler sock =>
    cases hs
    exact h.receiverGoto hk (by simp) rfl id (by simp)
  | checkExit sock =>
    cases hs
    split <;> exact h.receiverGoto hk (by simp) rfl id (by simp)
  | decrement =>
    cases hs
    have hheld : s.held (.receiver k) = none := by simp [State.held, holds, hk, ReceiverPc.sock?]
    refine (h.receiverMove (p := .ended) (l := s.connLock) hk (by simp) (h.accounts.keep hheld)
      False.elim (.inl rfl) ?_ h.freed).touch (h.deinit_ne_returned_of_receiver hk (by simp))
    -- the receiver itself is counted
    have hpos := running_pos hk (by simp)
    have hcount := h.count
    rw [if_pos rfl]
    omega
  | ended => cases hs

/-! ### Steps of `tcp_server_init` and its caller -/

lemma Inv.initMove (h : Inv log s) {p : InitPc} {w : Estate} {m : Nat} (hinit : s.init ≠ .done)
    (haccounts : Accounts log' w
      (holds s.listenSock p.sock? s.acceptor.sock? s.deinit.sock? s.receivers))
    (hearly : p.Early → s.init.Early) (hfreed : Freed log' (s.deinit = .returned)) :
    Inv log' { s with init := p, sockets := w, maxConnections := m } :=
  { h with
    accounts := haccounts
    lock := fun who hwho => h.lock who (by cases who <;> exact hwho)
    early := fun hp => h.early (hearly hp)
    started := fun hd => absurd (h.started hd) hinit
    freed := hfreed }

lemma Inv.deinit_eq_idle (h : Inv log s) (hinit : s.init ≠ .done) : s.deinit = .idle := by
  by_contra hd
  exact hinit (h.started hd)

lemma Inv.initStep_createTask (h : Inv log s) (hinit : s.init = .createTask sock) :
    Inv (log ++ [.touch]) { s with
      listenSock := some sock
      acceptor := .checkExit
      init := .setTaskHandle } := by
  have hnew : s.acceptor = .notCreated := h.early (by rw [hinit]; trivial)
  have hnone : s.listenSock = none := h.bare (by rw [hnew]; trivial)
  have hidle : s.deinit = .idle := h.deinit_eq_idle (by simp [hinit])
  have haccounts := h.accounts
  simp only [State.held, hinit, hnew, hnone] at haccounts
  have hmove := haccounts.move (i := .init) (j := .listen) (x := sock) rfl rfl
  rw [update_init, update_listen] at hmove
  refine ⟨hmove.plain trivial, ?_, False.elim, False.elim, ?_, ?_, ?_, ?_, h.drained, ?_⟩
  · refine h.lock.step (i := .acceptor) (fun who hwho => ?_) False.elim (.inl rfl)
    cases who with
    | acceptor => exact absurd rfl hwho
    | receiver k | sender k => exact id
  · exact fun hd => absurd hidle hd
  · rw [h.count, hnew]
    rfl
  · intro hfin
    rw [h.finished hfin] at hnew
    cases hnew
  · exact h.joined
  · exact h.freed.touch (by simp [hidle])

lemma Inv.initStep (h : Inv log s) {limit : Option Nat}
    (hs : s.initStep limit result = some (s', out)) : Inv (log ++ out) s' := by
  have hgoto : ∀ {p : InitPc} {m : Nat}, s.init ≠ .done → p.sock? = s.init.sock? →
      (p.Early → s.init.Early) → Inv log { s with init := p, maxConnections := m } := by
    intro p m hinit hsock hearly
    refine h.initMove hinit ?_ hearly h.freed
    rw [hsock]
    exact h.accounts
  have hidle : s.init ≠ .done → s.deinit ≠ .returned := by
    intro hinit
    simp [h.deinit_eq_idle hinit]
  unfold State.initStep at hs
  cases hinit : s.init <;> simp only [hinit] at hs
  case create pc =>
    obtain ⟨⟨s₁, r, out₁⟩, hcreate, hs⟩ := Option.map_eq_some_iff.1 hs
    cases hs
    have hp : s.held .init = pc.sock? := by simp [State.held, holds, hinit, InitPc.sock?]
    obtain ⟨w, rfl, hfreed, haccounts⟩ := create_spec hcreate h.accounts hp h.freed
    rw [State.held, update_init] at haccounts
    have hearly : s.init.Early := by rw [hinit]; trivial
    rcases r with pc' | (_ | sock)
    all_goals exact h.initMove (by simp [hinit]) haccounts (fun _ => hearly) hfreed
  case alloc sock =>
    have hearly : s.init.Early := by rw [hinit]; trivial
    cases result <;> cases hs <;> rw [List.append_nil] <;>
    exact hgoto (by simp [hinit]) (by rw [hinit]; rfl) fun _ => hearly
  case close sock =>
    cases hs
    have haccounts := h.accounts
    simp only [State.held, hinit] at haccounts
    have hclose := haccounts.close (i := .init) (x := sock) rfl
    rw [update_init] at hclose
    exact h.initMove (p := .failed) (by simp [hinit]) hclose (fun _ => by rw [hinit]; trivial)
      (h.freed.concat (by simp) (by simp))
  case createTask sock =>
    have hearly : s.init.Early := by rw [hinit]; trivial
    cases result with
    | ok fd =>
      cases hs
      exact h.initStep_createTask hinit
    | again | noResource | error =>
      cases hs
      rw [List.append_nil]
      exact hgoto (by simp [hinit]) (by rw [hinit]; rfl) fun _ => hearly
  case setTaskHandle =>
    cases hs
    cases limit with
    | none =>
      exact (hgoto (p := .done) (by simp [hinit]) (by rw [hinit]; rfl) False.elim).touch
        (hidle (by simp [hinit]))
    | some m =>
      exact (hgoto (p := .setMaxConnections m) (by simp [hinit]) (by rw [hinit]; rfl)
        False.elim).touch (hidle (by simp [hinit]))
  case setMaxConnections m =>
    cases hs
    exact (hgoto (by simp [hinit]) (by rw [hinit]; rfl) False.elim).touch (hidle (by simp [hinit]))
  case done | failed =>
    cases hs

/-! ### Steps of `tcp_server_deinit` -/

lemma Inv.deinitMove (h : Inv log s) {p : DeinitPc} {c : Option Handle} {e : Bool}
    (haccounts : Accounts log' w (holds c s.init.sock? s.acceptor.sock? p.sock? s.receivers))
    (hc : c = s.listenSock ∨ c = none) (hinit : s.init = .done)
    (hjoined : p.Joined → s.finished = true) (hdrained : p.Drained → running s.receivers = 0)
    (hfreed : Freed log' (p = .returned)) :
    Inv log' { s with deinit := p, sockets := w, listenSock := c, exitReq := e } :=
  { h with
    accounts := haccounts
    lock := fun who hwho => h.lock who (by cases who <;> exact hwho)
    bare := fun hbare => hc.elim (·.trans (h.bare hbare)) id
    started := fun _ => hinit
    joined := hjoined
    drained := hdrained
    freed := hfreed }

lemma Inv.deinitGoto (h : Inv log s) {p₀ p : DeinitPc} {e : Bool} (hd : s.deinit = p₀)
    (hp₀ : p₀ ≠ .returned) (hp : p ≠ .returned) (hsock₀ : p₀.sock? = none) (hsock : p.sock? = none)
    (hinit : p₀ = .idle → s.init = .done) (hjoined : p.Joined → s.finished = true)
    (hdrained : p.Drained → running s.receivers = 0) :
    Inv (log ++ [.touch]) { s with deinit := p, exitReq := e } := by
  subst hd
  have hinit : s.init = .done := by
    by_cases hidle : s.deinit = .idle
    · exact hinit hidle
    · exact h.started hidle
  refine (h.deinitMove ?_ (.inl rfl) hinit hjoined hdrained (h.freed.imp (absurd · hp₀))).touch hp
  rw [hsock, ← hsock₀]
  exact h.accounts

lemma Inv.deinitStep_exchange (h : Inv log s) (hd : s.deinit = .exchange) :
    Inv (log ++ [.touch]) { s with
      listenSock := none
      deinit := s.listenSock.elim .waitFinished .closeListen } := by
  have hinit := h.started (by simp [hd])
  have haccounts := h.accounts
  simp only [State.held, hd] at haccounts
  have hfreed : ∀ p : DeinitPc, Freed log (p = .returned) :=
    fun p => h.freed.imp fun hr => absurd hr (by simp [hd])
  cases hlisten : s.listenSock with
  | none =>
    rw [hlisten] at haccounts
    exact (h.deinitMove (p := .waitFinished) haccounts (.inr rfl) hinit False.elim False.elim
      (hfreed _)).touch (by simp)
  | some sock =>
    -- the socket changes hands, and is still owned once
    rw [hlisten] at haccounts
    have hmove := haccounts.move (i := .listen) (j := .deinit) (x := sock) rfl rfl
    rw [update_listen, update_deinit] at hmove
    exact (h.deinitMove (p := .closeListen sock) hmove (.inr rfl) hinit False.elim False.elim
      (hfreed _)).touch (by simp)

lemma Inv.deinitStep_closeListen (h : Inv log s) (hd : s.deinit = .closeListen sock) :
    Inv (log ++ [.close (s.sockets.pool.at? sock.num)]) { s with
      sockets := s.sockets.close sock.num
      deinit := .waitFinished } := by
  have hinit := h.started (by simp [hd])
  have haccounts := h.accounts
  simp only [State.held, hd] at haccounts
  have hclose := haccounts.close (i := .deinit) (x := sock) rfl
  rw [update_deinit] at hclose
  exact h.deinitMove (p := .waitFinished) hclose (.inl rfl) hinit False.elim False.elim
    ((h.freed.concat (by simp) (by simp)).imp fun hr => absurd hr (by simp [hd]))

lemma Inv.deinitStep (h : Inv log s) (hs : s.deinitStep = some (s', out)) :
    Inv (log ++ out) s' := by
  have hjoined : s.deinit.Joined → s.finished = true := h.joined
  have hdrained : s.deinit.Drained → running s.receivers = 0 := h.drained
  unfold State.deinitStep at hs
  cases hd : s.deinit <;> simp only [hd] at hs hjoined hdrained
  case idle =>
    obtain ⟨hinit, hs⟩ := Option.ite_none_right_eq_some.1 hs
    cases hs
    exact h.deinitGoto hd (by simp) (by simp) rfl rfl (fun _ => hinit) False.elim False.elim
  case setExitReq =>
    cases hs
    exact h.deinitGoto hd (by simp) (by simp) rfl rfl (by simp) False.elim False.elim
  case exchange =>
    cases hs
    exact h.deinitStep_exchange hd
  case closeListen sock =>
    cases hs
    exact h.deinitStep_closeListen hd
  case waitFinished =>
    obtain ⟨hfin, hs⟩ := Option.ite_none_right_eq_some.1 hs
    cases hs
    exact h.deinitGoto hd (by simp) (by simp) rfl rfl (by simp) (fun _ => hfin) False.elim
  case waitReceivers =>
    cases hs
    have hfin := hjoined trivial
    split
    · exact h.deinitGoto hd (by simp) (by simp) rfl rfl (by simp) (fun _ => hfin) False.elim
    · -- the counter is zero, and so are its parts
      have hcount := h.count
      exact h.deinitGoto hd (by simp) (by simp) rfl rfl (by simp) (fun _ => hfin) fun _ => by omega
  case lockDeinit =>
    cases hs
    exact h.deinitGoto hd (by simp) (by simp) rfl rfl (by simp) (fun _ => hjoined trivial)
      fun _ => hdrained trivial
  case free =>
    cases hs
    have haccounts := h.accounts
    simp only [State.held, hd] at haccounts
    exact h.deinitMove (p := .returned) (haccounts.plain trivial) (.inl rfl)
      (h.started (by simp [hd])) (fun _ => hjoined trivial) (fun _ => hdrained trivial)
      (h.freed.free rfl)
  case returned =>
    cases hs

/-! ### Steps of a producer -/

lemma Inv.senderMove (h : Inv log s) {k : Fin n} {p : SenderPc}
    (hin : p.Inside → l = some (.sender k))
    (hl : l = s.connLock ∨ s.connLock = none ∨ s.connLock = some (.sender k)) :
    Inv log { s.setSender k p with connLock := l } := by
  refine { h with lock := h.lock.step (i := .sender k) (fun who hwho => ?_) (fun hk => hin ?_) hl }
  · cases who with
    | acceptor | receiver j => exact id
    | sender j =>
      have hjk : j ≠ k := fun hjk => hwho (congrArg Owner.sender hjk)
      simp [State.Inside, State.setSender, hjk]
  · simpa [State.Inside, State.setSender] using hk

lemma Inv.senderStep (h : Inv log s) {k : Fin n} (hs : s.senderStep k = some (s', out)) :
    Inv (log ++ out) s' := by
  have hlock : (s.sender k).Inside → s.connLock = some (.sender k) := h.lock (.sender k)
  unfold State.senderStep at hs
  cases hk : s.sender k <;> simp only [hk] at hs hlock
  case idle => cases hs
  case acquire call =>
    obtain ⟨hfree, hs⟩ := Option.ite_none_right_eq_some.1 hs
    cases hs
    rw [List.append_nil]
    exact h.senderMove (fun _ => rfl) (.inr (.inl hfree))
  case read call =>
    cases hs
    rw [List.append_nil]
    exact h.senderMove (l := s.connLock) (fun _ => hlock trivial) (.inl rfl)
  case send call clientSock =>
    cases hs
    have hsent := h.senderMove (k := k) (p := .release) (l := s.connLock) (fun _ => hlock trivial)
      (.inl rfl)
    exact { hsent with
      accounts := hsent.accounts.plain trivial
      freed := hsent.freed.concat (by simp) (by simp) }
  case release =>
    cases hs
    rw [List.append_nil]
    exact h.senderMove False.elim (.inr (.inr (hlock trivial)))

lemma Inv.step (h : Inv log s) {limit : Option Nat} {e : Event n}
    (hs : s.step limit e = some (s', out)) : Inv (log ++ out) s' := by
  cases e with
  | init result => exact h.initStep hs
  | acceptor result => exact h.acceptorStep hs
  | receiver k result =>
    obtain ⟨r, hk, hs⟩ := Option.bind_eq_some_iff.1 hs
    exact h.receiverStep hk hs
  | deinit => exact h.deinitStep hs
  | call k call =>
    obtain ⟨-, hs⟩ := Option.ite_none_right_eq_some.1 hs
    cases hs
    rw [List.append_nil]
    exact h.senderMove (l := s.connLock) False.elim (.inl rfl)
  | sender k => exact h.senderStep hs
  | timeout k =>
    simp only [State.step] at hs
    split at hs
    · cases hs
      rw [List.append_nil]
      exact h.senderMove (l := s.connLock) False.elim (.inl rfl)
    all_goals cases hs
  | others deed =>
    obtain ⟨w, hw, hs⟩ := Option.map_eq_some_iff.1 hs
    cases hs
    rw [List.append_nil]
    refine { h with accounts := h.accounts.others hw, lock := ?_ }
    intro who hwho
    refine h.lock who ?_
    cases who <;> exact hwho

lemma inv_of_run {limit : Option Nat} {ok : List Obs → State n → Event n → Prop}
    (h : (machine n limit).Run ok log s) : Inv log s :=
  Machine.Run.invariant (P := Inv) (inv_init limit) (fun _ hinv _ hs => hinv.step hs) h

lemma Inv.held_eq_none (h : Inv log s) (hd : s.deinit = .returned) (p : Place) :
    s.held p = none := by
  have ha : s.acceptor = .ended := h.finished (h.joined (by rw [hd]; trivial))
  have hdrained : running s.receivers = 0 := h.drained (by rw [hd]; trivial)
  cases p with
  | listen => exact h.bare (by rw [ha]; trivial)
  | init => simp [State.held, holds, h.started (by simp [hd]), InitPc.sock?]
  | acceptor => simp [State.held, holds, ha, AcceptorPc.sock?]
  | deinit => simp [State.held, holds, hd, DeinitPc.sock?]
  | receiver k =>
    cases hk : s.receivers[k]? with
    | none => simp [State.held, holds, hk]
    | some r =>
      have hr : r = .ended := by
        by_contra hr
        exact absurd hdrained (Nat.ne_of_gt (running_pos hk hr))
      simp [State.held, holds, hk, hr, ReceiverPc.sock?]

end Invariant

/-- Whatever the acceptor, the receivers, `n` producers and `tcp_server_deinit` do: only sockets of
the server that are not closed are closed, the descriptor is not touched after it was freed, and
when `tcp_server_deinit` returns, every socket that was made, for listening or for a client, was
closed exactly once. What a producer does with the descriptor is not in question here. -/
theorem tcp_server_teardown (n : Nat) (limit : Option Nat) (log : List Obs) (s : State n)
    (h : (machine n limit).Run Machine.anyStep log s) :
    Entries ClosesOpen log ∧ Entries TouchesLive log ∧
      (s.deinit = .returned → ∀ x ∈ created log, (closed log).count x = 1) := by
  have hinv := inv_of_run h
  refine ⟨hinv.accounts.closes, hinv.freed.touches, fun hd x hx => ?_⟩
  exact hinv.accounts.count_closed_eq_one (hinv.held_eq_none hd) hx

/-- `tcp_server_init`, which gets the number 3 for the listen socket. -/
def serverInit : List (Event 1) := [.init (.ok 3)] ++ List.replicate 5 (.init (.ok 0))

/-- The acceptor admits a client on the socket with this number. -/
def admits (num : Nat) : List (Event 1) :=
  List.replicate 2 (.acceptor .again) ++
    [.acceptor (.ok num), .acceptor .again, .acceptor (.ok 0)] ++
    List.replicate 4 (.acceptor .again) ++ [.acceptor (.ok 0)]

/-- The acceptor throws its listen socket away and makes another one, which `tcp_server_deinit`
closes while a client is being served. -/
theorem tcp_server_teardown_served :
    ∃ log s, (machine 1 none).Run Machine.anyStep log s ∧ s.deinit = .returned ∧
      created log = [⟨0, 3⟩, ⟨1, 4⟩, ⟨2, 7⟩] ∧ Entries ClosesOpen log ∧ Entries TouchesLive log ∧
      (closed log).count ⟨0, 3⟩ = 1 ∧ (closed log).count ⟨1, 4⟩ = 1 ∧
      (closed log).count ⟨2, 7⟩ = 1 := by
  obtain ⟨log, s, hrun, hd, hcreated⟩ :=
    Machine.Run.exists_of_exec (machine 1 none) Machine.anyStep
      (List.flatten [serverInit,
        -- `accept()` fails, the listen socket is made anew
        [.acceptor .again, .acceptor .again, .acceptor .error],
        List.replicate 4 (.acceptor .again),
        [.acceptor (.ok 4), .acceptor (.ok 0), .acceptor (.ok 0), .acceptor .again],
        -- a client is admitted and somebody sends to it
        admits 7, [.call 0 .current], List.replicate 4 (.sender 0),
        -- `tcp_server_deinit` waits for the acceptor and for the receiver
        List.replicate 4 .deinit, List.replicate 3 (.acceptor .again), [.deinit, .deinit],
        List.replicate 11 (.receiver 0 .again), List.replicate 3 .deinit])
      (fun log s => s.deinit = .returned ∧ created log = [⟨0, 3⟩, ⟨1, 4⟩, ⟨2, 7⟩])
      (by decide +kernel)
  obtain ⟨hcloses, htouches, hclosed⟩ := tcp_server_teardown 1 none log s hrun
  exact ⟨log, s, hrun, hd, hcreated, hcloses, htouches, hclosed hd _ (by simp [hcreated]),
    hclosed hd _ (by simp [hcreated]), hclosed hd _ (by simp [hcreated])⟩

/-- In every run: one task at most is inside of `conn_lock`, `active_connections` is the number of
receivers that run and of the client that the acceptor is admitting, and when `tcp_server_deinit`
goes on to free the descriptor, the acceptor and all receivers have ended. -/
theorem tcp_server_tasks (n : Nat) (limit : Option Nat) (log : List Obs) (s : State n)
    (h : (machine n limit).Run Machine.anyStep log s) :
    (∀ a b, s.Inside a → s.Inside b → a = b) ∧
      s.activeConnections = running s.receivers + s.acceptor.counted ∧
      (s.deinit.Drained → s.acceptor = .ended ∧ ∀ r ∈ s.receivers, r = .ended) := by
  have hinv := inv_of_run h
  refine ⟨fun a b ha hb => ?_, hinv.count, fun hdrained => ⟨?_, ?_⟩⟩
  · exact Option.some.inj ((hinv.lock a ha).symm.trans (hinv.lock b hb))
  · have hjoined : s.deinit.Joined := by
      cases hd : s.deinit <;> simp_all [DeinitPc.Joined, DeinitPc.Drained]
    exact hinv.finished (hinv.joined hjoined)
  · simpa [running] using hinv.drained hdrained

/-- A client is being served. -/
theorem tcp_server_tasks_served : ∃ log s, (machine 1 none).Run Machine.anyStep log s ∧
    running s.receivers = 1 ∧ s.activeConnections = 1 + s.acceptor.counted := by
  obtain ⟨log, s, hrun, hone⟩ := Machine.Run.exists_of_exec (machine 1 none) Machine.anyStep
    (serverInit ++ admits 7) (fun _ s => running s.receivers = 1) (by decide +kernel)
  refine ⟨log, s, hrun, hone, ?_⟩
  rw [(tcp_server_tasks 1 none log s hrun).2.1, hone]

end WbMge.TcpServer
