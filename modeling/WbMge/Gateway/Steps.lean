import WbMge.Gateway.Model

/-!
# What the steps of a gateway port can do

Each step of the port is described once here: `Step` says where it starts, where it ends and what it
shows. The connection layer leaves the server task, the UART task and the event bit alone
(`net_frame`), and the two tasks leave the connection layer alone (`task_frame`).
-/

namespace WbMge.Gateway

/-- The steps of the port. -/
inductive Step (s : State) : Event → State → List Obs → Prop
  | foreignOpen {sock} (hfree : s.socks sock = none) : Step s (.foreignOpen sock)
      { s with socks := Function.update s.socks sock (some .foreign) } []
  | foreignClose {sock} (hforeign : s.socks sock = some .foreign) : Step s (.foreignClose sock)
      { s with socks := Function.update s.socks sock none } []
  | accept {sock} (hacc : s.acceptor = .listening) (hsock : 0 ≤ sock ∧ s.socks sock = none) :
      Step s (.accept sock) { s with
        socks := Function.update s.socks sock (some (.conn s.nextConn))
        acceptor := .accepted s.nextConn sock
        nextConn := s.nextConn + 1 } []
  | register {c sock ok} (hacc : s.acceptor = .accepted c sock) : Step s (.register ok) { s with
      acceptor := .registered c sock, activeConnections := s.activeConnections + 1 } []
  | registerFail {c sock ok} (hacc : s.acceptor = .accepted c sock) :
      Step s (.register ok) { s.retireClientConn sock with acceptor := .listening } []
  | spawn {c sock ok} (hacc : s.acceptor = .registered c sock) : Step s (.spawn ok) { s with
      acceptor := .listening, receivers := Function.update s.receivers c (.recv sock) } []
  | spawnFail {c sock ok} (hacc : s.acceptor = .registered c sock) :
      Step s (.spawn ok) { s.retireClientConn sock with acceptor := .rollback } []
  | rollback : Step s .rollback { s with
      acceptor := .listening, activeConnections := s.activeConnections - 1 } []
  | receive {c data sock frames onePass reasm} (hrecv : s.receivers c = .recv sock) :
      Step s (.receive c data) { s with
        reasm
        receivers := Function.update s.receivers c
          (.pushing sock s.connGeneration ⟨c, s.retired⟩ frames onePass) } []
  | push {c ok sock generation capture frame frames onePass}
      (hpush : s.receivers c = .pushing sock generation capture (frame :: frames) onePass) :
      Step s (.push c ok) { s with
        tcpQueue := s.tcpQueue ++ [⟨frame, sock, generation, capture⟩]
        receivers :=
          Function.update s.receivers c (.pushing sock generation capture frames onePass) }
        [.enqueued c ⟨frame, sock, generation, capture⟩]
  | pushFail {c ok sock generation capture frame frames rest onePass}
      (hpush : s.receivers c = .pushing sock generation capture (frame :: frames) onePass) :
      Step s (.push c ok) { s with
        receivers :=
          Function.update s.receivers c (.pushing sock generation capture rest onePass) } []
  | handled {c sock generation capture onePass}
      (hpush : s.receivers c = .pushing sock generation capture [] onePass) :
      Step s (.handled c) { s with receivers := Function.update s.receivers c (.recv sock) } []
  | close {c sock} (hrecv : s.receivers c = .recv sock) (hsock : ¬ s.pendingClientSock = sock) :
      Step s (.onTcpConnClose c) { s with
        reasm := s.reasm.close sock
        receivers := Function.update s.receivers c (.hooked sock) } []
  | closePending {c sock} (hrecv : s.receivers c = .recv sock)
      (hsock : s.pendingClientSock = sock) :
      Step s (.onTcpConnClose c) { s with
        reasm := s.reasm.close sock
        receivers := Function.update s.receivers c (.hooked sock)
        pendingTid := 0
        pendingSlaveId := 0
        pendingClientSock := -1
        pendingConnGeneration := 0
        pendingReq := none
        txn := none } []
  | retire {c sock} (hhook : s.receivers c = .hooked sock) : Step s (.retire c)
      { s.retireClientConn sock with receivers := Function.update s.receivers c .retired } []
  | leave {c} (hret : s.receivers c = .retired) : Step s (.leave c) { s with
      receivers := Function.update s.receivers c .finished
      activeConnections := s.activeConnections - 1 } []
  | fetchTcpRequest {elem queue} (hpc : s.server = .idle) (hqueue : s.tcpQueue = elem :: queue) :
      Step s .fetchTcpRequest { s with
        tcpQueue := queue
        pendingClientSock := elem.clientSock
        pendingConnGeneration := elem.connGeneration
        pendingReq := some elem
        popped := s.popped + 1
        server := .fetched ⟨s.popped, elem⟩ } []
  | drop {ok t} (hpc : s.server = .fetched t) : Step s (.dispatch ok) { s with server := .idle } []
  | answer {ok t reply adu} (hpc : s.server = .fetched t) :
      Step s (.dispatch ok) { s with server := .replying reply t adu } []
  | build {ok t rtu} (hpc : s.server = .fetched t)
      (hrtu : modbusRtuFromTcp t.req.data sendBufferSize = some rtu) :
      Step s (.dispatch ok) { s with
        pendingTid := (tcpHeader t.req.data).transactionId
        pendingSlaveId := (tcpHeader t.req.data).unitId
        txn := some t
        server := .built t rtu } []
  | sendLocalReply {lockOk sendOk reply t adu} (hpc : s.server = .replying reply t adu) :
      Step s (.sendLocalReply lockOk sendOk) { s with server := .idle }
        (s.sendToCapturedClient (.server reply) (some t.req) t.req.clientSock t.req.connGeneration
          adu lockOk sendOk)
  | sendRtuRequest {ok t rtu} (hpc : s.server = .built t rtu) :
      Step s (.sendRtuRequest ok) { s with server := .handed t } [.forwarded t rtu]
  | sendFail {ok t rtu} (hpc : s.server = .built t rtu) :
      Step s (.sendRtuRequest ok) { s with server := .idle } []
  | clearBits {t} (hpc : s.server = .handed t) :
      Step s .clearBits { s with server := .cleared t, responseReceived := false } []
  | waitTxDone {t} (hpc : s.server = .cleared t) :
      Step s .waitTxDone { s with server := .waiting t false } []
  | expire {t} (hpc : s.server = .waiting t false) :
      Step s .expire { s with server := .waiting t true } [.expired]
  | resume {t expired} (hpc : s.server = .waiting t expired)
      (hwake : s.responseReceived ∨ expired) :
      Step s .resume { s with server := .idle } [.waited s.responseReceived]
  | uartFrame {data ok adu} (huart : s.uart = .idle) (hreply : s.serialReply data ok = some adu) :
      Step s (.uartFrame data ok) { s with uart := .framed data s.txn adu }
        [.delivered data, .answered s.txn adu]
  | uartRefuse {data ok} (huart : s.uart = .idle) : Step s (.uartFrame data ok) s [.delivered data]
  | uartSignal {data txn adu} (huart : s.uart = .framed data txn adu) :
      Step s .uartSignal { s with responseReceived := true, uart := .signalled txn adu }
        [.signalled data]
  | uartReadPair {txn adu} (huart : s.uart = .signalled txn adu) : Step s .uartReadPair { s with
      uart := .sending txn adu s.pendingClientSock s.pendingConnGeneration s.pendingReq } []
  | uartSend {lockOk sendOk txn adu sock generation req}
      (huart : s.uart = .sending txn adu sock generation req) :
      Step s (.uartSend lockOk sendOk) { s with uart := .idle }
        (s.sendToCapturedClient (.serial txn) req sock generation adu lockOk sendOk)
  | serial {data ok lockOk sendOk adu} (huart : s.uart = .idle)
      (hreply : s.serialReply data ok = some adu) :
      Step s (.serial data ok lockOk sendOk) { s with responseReceived := true }
        ([.delivered data, .answered s.txn adu, .signalled data] ++
          s.sendToCapturedClient (.serial s.txn) s.pendingReq s.pendingClientSock
            s.pendingConnGeneration adu lockOk sendOk)
  | serialRefuse {data ok lockOk sendOk} (huart : s.uart = .idle)
      (hreply : s.serialReply data ok = none) :
      Step s (.serial data ok lockOk sendOk) s [.delivered data]

variable {device : Bytes → Bytes} {s s' : State} {e : Event} {out : List Obs} {adu data : Bytes}
  {mallocOk lockOk sendOk : Bool}

lemma Step.of_dispatch (h : s.dispatch device mallocOk = some (s', out)) :
    Step s (.dispatch mallocOk) s' out := by
  simp only [State.dispatch] at h
  split at h
  · rename_i t hpc
    split at h
    · split at h <;> cases h
      · exact .answer hpc
      · exact .drop hpc
    split at h <;> cases h
    · exact .answer hpc
    · -- a request for RS-485: the RTU frame may not fit its buffer
      simp only [State.makeRtuRequestFromTcp]
      split
      · rename_i hrtu
        exact .build hpc (Option.ite_none_right_eq_some.1 hrtu).2
      · exact .drop hpc
  · cases h

lemma Step.of_step (h : step device s e = some (s', out)) : Step s e s' out := by
  cases e with
  | dispatch mallocOk => exact .of_dispatch h
  | _ =>
    simp only [step, State.foreignOpen, State.foreignClose, State.accept, State.register,
      State.spawn, State.rollback, State.receive, State.push, State.handled, State.onTcpConnClose,
      State.retire, State.leave, State.fetchTcpRequest, State.sendLocalReply, State.sendRtuRequest,
      State.clearBits, State.waitTxDone, State.expire, State.resume, State.uartFrame,
      State.uartSignal, State.uartReadPair, State.uartSend, State.processDataFromSerial] at h
    repeat' split at h
    all_goals cases h
    all_goals constructor <;> assumption

/-! ## The connection layer -/

def Event.isNet : Event → Bool
  | .foreignOpen _ | .foreignClose _ | .accept _ | .register _ | .spawn _ | .rollback
  | .receive _ _ | .push _ _ | .handled _ | .onTcpConnClose _ | .retire _ | .leave _ => true
  | _ => false

def SamePending (s s' : State) : Prop :=
  (s'.pendingTid = s.pendingTid ∧ s'.pendingClientSock = s.pendingClientSock ∧
      s'.pendingConnGeneration = s.pendingConnGeneration ∧ s'.pendingReq = s.pendingReq ∧
      s'.txn = s.txn) ∨
    (s'.pendingTid = 0 ∧ s'.pendingClientSock = -1 ∧ s'.pendingConnGeneration = 0 ∧
      s'.pendingReq = none ∧ s'.txn = none)

/-- The connection layer leaves the server task, the UART task and the event bit alone. It may
clear the pending request, and shows at most that a receive handler queued a frame. -/
lemma net_frame (hnet : e.isNet) (h : step device s e = some (s', out)) :
    s'.server = s.server ∧ s'.uart = s.uart ∧ s'.responseReceived = s.responseReceived ∧
      s'.popped = s.popped ∧ SamePending s s' ∧
      ((out = [] ∧ s'.tcpQueue = s.tcpQueue) ∨
        ∃ c elem frames onePass, s.receivers c = .pushing elem.clientSock elem.connGeneration
            elem.capture (elem.data :: frames) onePass ∧
          out = [.enqueued c elem] ∧ s'.tcpQueue = s.tcpQueue ++ [elem]) := by
  unfold SamePending
  cases Step.of_step h with
  | push hpush =>
    -- the one step of the layer that shows anything
    simp only [true_and, and_self, true_or]
    exact .inr ⟨_, _, _, _, hpush, rfl, rfl⟩
  | foreignOpen | foreignClose | accept | register | registerFail | spawn | spawnFail | rollback
  | receive | pushFail | handled | close | closePending | retire | leave =>
    simp [State.retireClientConn]
  | _ => simp [Event.isNet] at hnet

/-! ## The server and the UART task -/

/-- The pending transaction id is the same in both states, or it has just been taken from the
request the server task had fetched. -/
def SameTid (s s' : State) : Prop :=
  (s'.pendingTid = s.pendingTid ∧ s'.txn = s.txn) ∨
    ∃ t, s.server = .fetched t ∧ s'.txn = some t ∧
      s'.pendingTid = (tcpHeader t.req.data).transactionId

/-- The server and the UART task leave the connection layer alone, only take requests from the
queue, and replace the pending transaction id only by the one of a fetched request. -/
lemma task_frame (hnet : ¬ e.isNet) (h : step device s e = some (s', out)) :
    s'.acceptor = s.acceptor ∧ s'.receivers = s.receivers ∧ s'.nextConn = s.nextConn ∧
      s'.socks = s.socks ∧ s'.connGeneration = s.connGeneration ∧ s'.retired = s.retired ∧
      SameTid s s' ∧ ∀ elem ∈ s'.tcpQueue, elem ∈ s.tcpQueue := by
  unfold SameTid
  cases Step.of_step h with
  | fetchTcpRequest _ hqueue => simp +contextual [hqueue]
  | build hpc => simp [hpc]
  | drop | answer | sendLocalReply | sendRtuRequest | sendFail | clearBits | waitTxDone | expire
  | resume | uartFrame | uartRefuse | uartSignal | uartReadPair | uartSend | serial
  | serialRefuse => simp
  | _ => simp [Event.isNet] at hnet

lemma processDataFromSerial_eq (hreply : s.serialReply data mallocOk = some adu)
    (h : s.processDataFromSerial data mallocOk lockOk sendOk = some (s', out)) :
    (machine device).exec Machine.anyStep
      [.uartFrame data mallocOk, .uartSignal, .uartReadPair, .uartSend lockOk sendOk] [] s =
        some (out, s') := by
  have hstep : step device s (.serial data mallocOk lockOk sendOk) = some (s', out) := h
  have huart : s.uart = .idle := by cases Step.of_step hstep <;> assumption
  simp only [State.processDataFromSerial, huart, hreply, Option.some.injEq, Prod.mk.injEq] at h
  obtain ⟨rfl, rfl⟩ := h
  simp [Machine.exec, Machine.anyStep, machine, step, State.uartFrame, State.uartSignal,
    State.uartReadPair, State.uartSend, State.sendToCapturedClient, huart, hreply]

/-! ## Writes -/

/-- A pair under which `tcp_server_send_to_captured_client` writes, and the owner of the socket
it writes into. -/
def State.Sends (s : State) (sock : Int) (generation : UInt32) (owner : Owner) : Prop :=
  s.socks sock = some owner ∧ generation = s.connGeneration ∧ 0 ≤ sock

lemma written_mem_sendToCapturedClient {path path' : ReplyPath}
    {req req' : Option PacketQueueElem} {retired : Nat} {owner : Owner} {sock : Int}
    {generation : UInt32} {adu adu' : Bytes} {lockOk sendOk : Bool}
    (h : .written path req retired owner adu ∈
      s.sendToCapturedClient path' req' sock generation adu' lockOk sendOk) :
    path = path' ∧ req = req' ∧ retired = s.retired ∧ adu = adu' ∧
      s.Sends sock generation owner := by
  simp only [State.sendToCapturedClient] at h
  split at h
  · rename_i hguard
    split at h
    · rename_i owner' howner
      rw [List.mem_singleton] at h
      cases h
      exact ⟨rfl, rfl, rfl, rfl, howner, hguard.2.1, hguard.2.2.1⟩
    · cases h
  · cases h

lemma written_cases (h : step device s e = some (s', out)) {path : ReplyPath}
    {req : Option PacketQueueElem} {retired : Nat} {owner : Owner}
    (hmem : .written path req retired owner adu ∈ out) :
    retired = s.retired ∧
      ((∃ reply t, s.server = .replying reply t adu ∧ path = .server reply ∧ req = some t.req ∧
          s.Sends t.req.clientSock t.req.connGeneration owner) ∨
        (∃ lockOk sendOk txn sock generation, e = .uartSend lockOk sendOk ∧
          s.uart = .sending txn adu sock generation req ∧ path = .serial txn ∧
          s.Sends sock generation owner) ∨
        (∃ data mallocOk lockOk sendOk, e = .serial data mallocOk lockOk sendOk ∧
          s.serialReply data mallocOk = some adu ∧ path = .serial s.txn ∧ req = s.pendingReq ∧
          s.Sends s.pendingClientSock s.pendingConnGeneration owner)) := by
  cases Step.of_step h with
  | sendLocalReply hpc =>
    obtain ⟨rfl, rfl, rfl, rfl, hsends⟩ := written_mem_sendToCapturedClient hmem
    exact ⟨rfl, .inl ⟨_, _, hpc, rfl, rfl, hsends⟩⟩
  | uartSend huart =>
    obtain ⟨rfl, rfl, rfl, rfl, hsends⟩ := written_mem_sendToCapturedClient hmem
    exact ⟨rfl, .inr (.inl ⟨_, _, _, _, _, rfl, huart, rfl, hsends⟩)⟩
  | serial huart hreply =>
    -- the write comes after what the handler shows for the frame
    rw [List.mem_append] at hmem
    obtain ⟨rfl, rfl, rfl, rfl, hsends⟩ :=
      written_mem_sendToCapturedClient (hmem.resolve_left (by simp))
    exact ⟨rfl, .inr (.inr ⟨_, _, _, _, rfl, hreply, rfl, rfl, hsends⟩)⟩
  -- the other steps show something else than a write, or nothing
  | _ => simp at hmem

/-! ## Stretches of runs -/

/-- A client connects on socket 3 and sends `data`, which `n` requests are cut from. -/
def asks (n : Nat) (data : Bytes) : List Event :=
  [.accept 3, .register true, .spawn true, .receive 0 data] ++ List.replicate n (.push 0 true) ++
    [.handled 0]

/-- The server task takes the next request and waits for its answer. -/
def awaits : List Event :=
  [.fetchTcpRequest, .dispatch true, .sendRtuRequest true, .clearBits, .waitTxDone]

/-- The first client asks unit 5 for a register. -/
def firstElem : PacketQueueElem := ⟨[0, 1, 0, 0, 0, 6, 5, 3, 0, 0, 0, 1], 3, 0, ⟨0, 0⟩⟩

end WbMge.Gateway
