import WbMge.Tcp.Sockets

/-!
# The TCP server

The tasks of `tcp_server.c`: `tcp_server_init` makes a listen socket and a descriptor and starts
`tcp_server_task`, the acceptor, which starts a `receiver_task` for every client that it admits.
Producers send to a client from tasks of their own, and `tcp_server_deinit` ends it all and frees
the descriptor.

Every operation that another task can notice is a step of its own. A call into the network may come
back with any result, and `accept()` may do so on a number that by then belongs to somebody else.

`active_connections` counts sockets that are open, of which lwIP has far fewer than fit into a
`uint32_t`. The handlers of the user only look at the descriptor here.
-/

namespace WbMge.TcpServer

open Handles Tcp

inductive Result where
  /-- With success, from `socket()` and `accept()` with a number. -/
  | ok (fd : Nat)
  | again
  | noResource
  | error
deriving Repr, DecidableEq

/-- Where a call of `create_listen_socket` is, with the number of failed attempts. -/
inductive CreatePc where
  | socket (attempt : Nat)
  | bind (sock : Handle) (attempt : Nat)
  | listen (sock : Handle) (attempt : Nat)
deriving Repr, DecidableEq

/-- Where a call of `register_client_conn` is. -/
inductive RegisterPc where
  | acquire
  | store
  | release
deriving Repr, DecidableEq

/-- Where a call of `retire_client_conn` is. -/
inductive RetirePc where
  | acquire
  | clear
  | close
  | release
deriving Repr, DecidableEq

/-- Where `tcp_server_init` is, and its caller after it. -/
inductive InitPc where
  | create (pc : CreatePc)
  | alloc (sock : Handle)
  | close (sock : Handle)
  | createTask (sock : Handle)
  | setTaskHandle
  | setMaxConnections (limit : Nat)
  | done
  | failed
deriving Repr, DecidableEq

/-- What the acceptor does after `close_listen_socket`. -/
inductive After where
  | recreate
  | exit
deriving Repr, DecidableEq

/-- Where `tcp_server_task` is. -/
inductive AcceptorPc where
  | notCreated
  | checkExit
  | loadListen
  | accept
  /-- `accept()` has failed with this result. -/
  | acceptFailed (result : Result)
  | recheckExit
  /-- The exchange of `close_listen_socket`. -/
  | exchange (after : After)
  | closeListen (sock : Handle) (after : After)
  | create (pc : CreatePc)
  | storeListen (sock : Handle)
  | checkLimit (sock : Handle)
  | allocArgs (sock : Handle)
  | register (pc : RegisterPc) (sock : Handle)
  | increment (sock : Handle)
  | createReceiver (sock : Handle)
  /-- The client is turned away; `counted` if it was counted before. -/
  | retire (pc : RetirePc) (sock : Handle) (counted : Bool)
  | decrement
  | finish
  | ended
deriving Repr, DecidableEq

/-- Where a `receiver_task` is. -/
inductive ReceiverPc where
  /-- On entry, or for a `packet`. -/
  | register (pc : RegisterPc) (sock : Handle) (packet : Bool)
  | recv (sock : Handle)
  | handle (sock : Handle)
  | checkExit (sock : Handle)
  | closeHandler (sock : Handle)
  | retire (pc : RetirePc) (sock : Handle)
  | decrement
  | ended
deriving Repr, DecidableEq

/-- Where `tcp_server_deinit` is. -/
inductive DeinitPc where
  | idle
  | setExitReq
  | exchange
  | closeListen (sock : Handle)
  | waitFinished
  | waitReceivers
  | lockDeinit
  | free
  | returned
deriving Repr, DecidableEq

inductive SendCall where
  /-- `tcp_server_send_to_current_client`. -/
  | current
  /-- `tcp_server_send_to_captured_client`. -/
  | captured (clientSock : Nat) (generation : UInt32)
deriving Repr, DecidableEq

inductive SenderPc where
  | idle
  | acquire (call : SendCall)
  | read (call : SendCall)
  | send (call : SendCall) (clientSock : Nat)
  | release
deriving Repr, DecidableEq

/-- Who can have `conn_lock`. -/
inductive Owner (n : Nat) where
  | acceptor
  | receiver (k : Nat)
  | sender (k : Fin n)
deriving Repr, DecidableEq

/-- The descriptor and those who use it, with `n` producers. -/
structure State (n : Nat) where
  sockets : Estate
  listenSock : Option Handle
  lastClientSock : Option Handle
  connGeneration : UInt32
  maxConnections : Nat
  activeConnections : Nat
  exitReq : Bool
  finished : Bool
  connLock : Option (Owner n)
  init : InitPc
  acceptor : AcceptorPc
  receivers : List ReceiverPc
  deinit : DeinitPc
  sender : Fin n → SenderPc

inductive Event (n : Nat) where
  | init (result : Result)
  | acceptor (result : Result)
  | receiver (k : Nat) (result : Result)
  | deinit
  | call (k : Fin n) (call : SendCall)
  | sender (k : Fin n)
  | timeout (k : Fin n)
  | others (deed : Estate.Deed)
deriving Repr, DecidableEq

def maxAttempts : Nat := 10

namespace State

variable {n : Nat}

/-- An attempt has failed: where `create_listen_socket` goes on, unless it gives up. -/
def retryCreate (attempt : Nat) : CreatePc ⊕ Option Handle :=
  if attempt + 1 < maxAttempts then .inl (.socket (attempt + 1)) else .inr none

/-- The next operation of `create_listen_socket`, and where it is then or what it returns. -/
def create (s : State n) (result : Result) :
    CreatePc → Option (State n × (CreatePc ⊕ Option Handle) × List Obs)
  | .socket attempt =>
    match result with
    | .ok fd =>
      if h : s.sockets.pool.Fresh fd then
        some ({ s with sockets := s.sockets.open fd h },
          .inl (.bind (s.sockets.pool.newest fd) attempt), [.socket (s.sockets.pool.newest fd)])
      else none
    | .again | .noResource | .error => some (s, .inr none, [])
  | .bind sock attempt =>
    match result with
    | .ok _ => some (s, .inl (.listen sock attempt), [])
    | .again | .noResource | .error =>
      some ({ s with sockets := s.sockets.close sock.num }, retryCreate attempt,
        [.close (s.sockets.pool.at? sock.num)])
  | .listen sock attempt =>
    match result with
    | .ok _ => some (s, .inr (some sock), [])
    | .again | .noResource | .error =>
      some ({ s with sockets := s.sockets.close sock.num }, retryCreate attempt,
        [.close (s.sockets.pool.at? sock.num)])

/-- The next operation of `register_client_conn`, and where it is then. -/
def register (s : State n) (who : Owner n) (sock : Handle) :
    RegisterPc → Option (State n × Option RegisterPc × List Obs)
  | .acquire =>
    if s.connLock = none then some ({ s with connLock := some who }, some .store, [.touch])
    else none
  | .store => some ({ s with lastClientSock := some sock }, some .release, [.touch])
  | .release => some ({ s with connLock := none }, none, [.touch])

/-- `last_client_sock` after a client with this socket was retired. -/
def clearLast (s : State n) (sock : Handle) : Option Handle :=
  if s.lastClientSock.any (·.num == sock.num) then none else s.lastClientSock

/-- The next operation of `retire_client_conn`, and where it is then. -/
def retire (s : State n) (who : Owner n) (sock : Handle) :
    RetirePc → Option (State n × Option RetirePc × List Obs)
  | .acquire =>
    if s.connLock = none then some ({ s with connLock := some who }, some .clear, [.touch])
    else none
  | .clear =>
    some ({ s with lastClientSock := s.clearLast sock, connGeneration := s.connGeneration + 1 },
      some .close, [.touch])
  | .close =>
    some ({ s with sockets := s.sockets.close sock.num }, some .release,
      [.close (s.sockets.pool.at? sock.num)])
  | .release => some ({ s with connLock := none }, none, [.touch])

/-- The next operation of `tcp_server_init` and of its caller, who sets a limit or does not. -/
def initStep (limit : Option Nat) (s : State n) (result : Result) :
    Option (State n × List Obs) :=
  match s.init with
  | .create pc =>
    (s.create result pc).map fun r =>
      ({ r.1 with init := r.2.1.elim .create (·.elim .failed .alloc) }, r.2.2)
  | .alloc sock =>
    match result with
    | .ok _ => some ({ s with init := .createTask sock }, [])
    | .again | .noResource | .error => some ({ s with init := .close sock }, [])
  | .close sock =>
    some ({ s with sockets := s.sockets.close sock.num, init := .failed },
      [.close (s.sockets.pool.at? sock.num)])
  | .createTask sock =>
    match result with
    | .ok _ =>
      some ({ s with
        listenSock := some sock
        acceptor := .checkExit
        init := .setTaskHandle }, [.touch])
    | .again | .noResource | .error => some ({ s with init := .close sock }, [])
  | .setTaskHandle => some ({ s with init := limit.elim .done .setMaxConnections }, [.touch])
  | .setMaxConnections limit => some ({ s with maxConnections := limit, init := .done }, [.touch])
  | .done | .failed => none

/-- Where the acceptor goes on after `close_listen_socket`. -/
def afterClose : After → AcceptorPc
  | .recreate => .create (.socket 0)
  | .exit => .finish

/-- The next operation of `tcp_server_task`. -/
def acceptorStep (s : State n) (result : Result) : Option (State n × List Obs) :=
  match s.acceptor with
  | .notCreated => none
  | .checkExit =>
    some ({ s with acceptor := if s.exitReq then .exchange .exit else .loadListen }, [.touch])
  | .loadListen =>
    some ({ s with acceptor := if s.listenSock.isSome then .accept else .exchange .exit }, [.touch])
  | .accept =>
    match result with
    | .ok fd =>
      if h : s.sockets.pool.Fresh fd then
        some ({ s with
          sockets := s.sockets.open fd h
          acceptor := .checkLimit (s.sockets.pool.newest fd) },
          [.accept (s.sockets.pool.newest fd)])
      else none
    | .again => some ({ s with acceptor := .acceptFailed .again }, [])
    | .noResource => some ({ s with acceptor := .acceptFailed .noResource }, [])
    | .error => some ({ s with acceptor := .acceptFailed .error }, [])
  | .acceptFailed err =>
    if s.exitReq then some ({ s with acceptor := .exchange .exit }, [.touch])
    else if err = .again ∨ err = .noResource then some ({ s with acceptor := .checkExit }, [.touch])
    else some ({ s with acceptor := .recheckExit }, [.touch])
  | .recheckExit =>
    some ({ s with acceptor := .exchange (if s.exitReq then .exit else .recreate) }, [.touch])
  | .exchange after =>
    some ({ s with
      listenSock := none
      acceptor := s.listenSock.elim (afterClose after) (.closeListen · after) }, [.touch])
  | .closeListen sock after =>
    some ({ s with sockets := s.sockets.close sock.num, acceptor := afterClose after },
      [.close (s.sockets.pool.at? sock.num)])
  | .create pc =>
    (s.create result pc).map fun r =>
      ({ r.1 with acceptor := r.2.1.elim .create (·.elim (.exchange .exit) .storeListen) }, r.2.2)
  | .storeListen sock => some ({ s with listenSock := some sock, acceptor := .checkExit }, [.touch])
  | .checkLimit sock =>
    some ({ s with
      acceptor :=
        if s.maxConnections ≠ 0 ∧ s.maxConnections ≤ s.activeConnections then
          .retire .acquire sock false
        else .allocArgs sock }, [.touch])
  | .allocArgs sock =>
    match result with
    | .ok _ => some ({ s with acceptor := .register .acquire sock }, [])
    | .again | .noResource | .error =>
      some ({ s with acceptor := .retire .acquire sock false }, [.touch])
  | .register pc sock =>
    (s.register .acceptor sock pc).map fun r =>
      ({ r.1 with acceptor := r.2.1.elim (.increment sock) (.register · sock) }, r.2.2)
  | .increment sock =>
    some ({ s with
      activeConnections := s.activeConnections + 1
      acceptor := .createReceiver sock }, [.touch])
  | .createReceiver sock =>
    match result with
    | .ok _ =>
      some ({ s with
        receivers := s.receivers ++ [.register .acquire sock false]
        acceptor := .checkExit }, [])
    | .again | .noResource | .error =>
      some ({ s with acceptor := .retire .acquire sock true }, [.touch])
  | .retire pc sock counted =>
    (s.retire .acceptor sock pc).map fun r =>
      ({ r.1 with
        acceptor := r.2.1.elim (if counted then .decrement else .checkExit)
          (.retire · sock counted) }, r.2.2)
  | .decrement =>
    some ({ s with activeConnections := s.activeConnections - 1, acceptor := .checkExit }, [.touch])
  | .finish => some ({ s with finished := true, acceptor := .ended }, [.touch])
  | .ended => none

def setReceiver (s : State n) (k : Nat) (pc : ReceiverPc) : State n :=
  { s with receivers := s.receivers.set k pc }

/-- The next operation of receiver `k`, which is at `pc`. -/
def receiverStep (s : State n) (k : Nat) (pc : ReceiverPc) (result : Result) :
    Option (State n × List Obs) :=
  match pc with
  | .register pc sock packet =>
    (s.register (.receiver k) sock pc).map fun r =>
      (r.1.setReceiver k (r.2.1.elim (if packet then .handle sock else .recv sock)
        (.register · sock packet)), r.2.2)
  | .recv sock =>
    match result with
    | .ok _ => some (s.setReceiver k (.register .acquire sock true), [.touch])
    | .again => some (s.setReceiver k (.checkExit sock), [.touch])
    | .noResource | .error => some (s.setReceiver k (.closeHandler sock), [.touch])
  | .handle sock => some (s.setReceiver k (.checkExit sock), [.touch])
  | .checkExit sock =>
    some (s.setReceiver k (if s.exitReq then .closeHandler sock else .recv sock), [.touch])
  | .closeHandler sock => some (s.setReceiver k (.retire .acquire sock), [.touch])
  | .retire pc sock =>
    (s.retire (.receiver k) sock pc).map fun r =>
      (r.1.setReceiver k (r.2.1.elim .decrement (.retire · sock)), r.2.2)
  | .decrement =>
    some ({ s.setReceiver k .ended with activeConnections := s.activeConnections - 1 }, [.touch])
  | .ended => none

/-- The next operation of `tcp_server_deinit`, which is called for a server that is there. -/
def deinitStep (s : State n) : Option (State n × List Obs) :=
  match s.deinit with
  -- the call begins with a look at `task_handle` and `event_group`
  | .idle => if s.init = .done then some ({ s with deinit := .setExitReq }, [.touch]) else none
  | .setExitReq => some ({ s with exitReq := true, deinit := .exchange }, [.touch])
  | .exchange =>
    some ({ s with
      listenSock := none
      deinit := s.listenSock.elim .waitFinished .closeListen }, [.touch])
  | .closeListen sock =>
    some ({ s with sockets := s.sockets.close sock.num, deinit := .waitFinished },
      [.close (s.sockets.pool.at? sock.num)])
  | .waitFinished =>
    if s.finished then some ({ s with deinit := .waitReceivers }, [.touch]) else none
  | .waitReceivers =>
    -- a poll of `active_connections`
    some ({ s with deinit := if 0 < s.activeConnections then .waitReceivers else .lockDeinit },
      [.touch])
  | .lockDeinit => some ({ s with deinit := .free }, [.touch])
  | .free => some ({ s with deinit := .returned }, [.free])
  | .returned => none

def setSender (s : State n) (k : Fin n) (pc : SenderPc) : State n :=
  { s with sender := Function.update s.sender k pc }

def sendTarget (s : State n) : SendCall → Option Nat
  | .current => s.lastClientSock.map Handle.num
  | .captured clientSock generation =>
    if generation = s.connGeneration then some clientSock else none

def senderStep (s : State n) (k : Fin n) : Option (State n × List Obs) :=
  match s.sender k with
  | .idle => none
  | .acquire call =>
    if s.connLock = none then
      some ({ s.setSender k (.read call) with connLock := some (.sender k) }, [])
    else none
  | .read call => some (s.setSender k ((s.sendTarget call).elim .release (.send call)), [])
  | .send _ clientSock => some (s.setSender k .release, [.send (s.sockets.pool.at? clientSock)])
  | .release => some ({ s.setSender k .idle with connLock := none }, [])

def step (limit : Option Nat) (s : State n) : Event n → Option (State n × List Obs)
  | .init result => s.initStep limit result
  | .acceptor result => s.acceptorStep result
  | .receiver k result => s.receivers[k]?.bind fun pc => s.receiverStep k pc result
  | .deinit => s.deinitStep
  | .call k call => if s.sender k = .idle then some (s.setSender k (.acquire call), []) else none
  | .sender k => s.senderStep k
  | .timeout k =>
    match s.sender k with
    | .acquire _ => some (s.setSender k .idle, [])
    | .idle | .read _ | .send _ _ | .release => none
  | .others deed => (s.sockets.others deed).map fun sockets => ({ s with sockets }, [])

end State

/-- A server from `tcp_server_init` on, whose caller limits the clients to `limit` or does not. -/
def machine (n : Nat) (limit : Option Nat) : Machine (State n) (Event n) Obs where
  init :=
    { sockets := .empty
      listenSock := none
      lastClientSock := none
      connGeneration := 0
      maxConnections := 0
      activeConnections := 0
      exitReq := false
      finished := false
      connLock := none
      init := .create (.socket 0)
      acceptor := .notCreated
      receivers := []
      deinit := .idle
      sender := fun _ => .idle }
  step := State.step limit

end WbMge.TcpServer
