import WbMge.Reasm.Model
import WbMge.ToMathlib.Machine

/-!
# One port of the Modbus TCP gateway

The tasks of one gateway port as one guarded machine: the acceptor and the receiver tasks of
`tcp_server.c`, the packet queue, the server task of `modbus_tcp.c` and its serial receive handler
on the UART task. A step is one critical section, one RTOS or driver call, or the straight-line code
between two of them; what the environment decides is an argument of the event. The port is up and no
exit is requested.

The serial handler `process_data_from_serial` exists twice: as the single event `serial`, and as the
four events `uartFrame`, `uartSignal`, `uartReadPair` and `uartSend` between which other tasks may
run (`processDataFromSerial_eq`).

Some fields record history and decide nothing: the number of retirements, the connection a queued
request came from (`Capture`), the request a captured pair travelled with and the request whose
transaction id is pending. No consumer of the uncapped gateway reads `last_client_sock`.
-/

namespace WbMge.Gateway

/-! ## Data -/

/-- What a socket number names: a connection of this port or a socket of someone else. -/
inductive Owner
  | conn (c : Nat)
  | foreign
deriving Repr, DecidableEq

/-- History: the connection whose receiver task enqueued a request, and the number of
retirements when it sampled the connection generation. -/
structure Capture where
  conn : Nat
  retired : Nat
deriving Repr, DecidableEq

/-- `packet_queue_elem_t`, with its history. -/
structure PacketQueueElem where
  data : Bytes
  clientSock : Int
  connGeneration : UInt32
  capture : Capture
deriving Repr, DecidableEq

/-- A request taken from the queue; `seq` counts the requests taken. -/
structure Txn where
  seq : Nat
  req : PacketQueueElem
deriving Repr, DecidableEq

inductive LocalReply
  | probe
  | selfDevice
deriving Repr, DecidableEq

/-- The senders that address a captured client. The serial handler comes with the request
whose transaction id it answers. -/
inductive ReplyPath
  | serial (txn : Option Txn)
  | server (reply : LocalReply)
deriving Repr, DecidableEq

/-- Where the acceptor task `tcp_server_task` stands. -/
inductive AcceptorPc
  /-- In `accept`. -/
  | listening
  /-- `accept` returned `sock`. -/
  | accepted (c : Nat) (sock : Int)
  | registered (c : Nat) (sock : Int)
  | rollback
deriving Repr, DecidableEq

inductive ReceiverPc
  | absent
  /-- In `recv`. -/
  | recv (sock : Int)
  | pushing (sock : Int) (generation : UInt32) (capture : Capture) (frames : List Bytes)
      (onePass : Bool)
  | hooked (sock : Int)
  | retired
  | finished
deriving Repr, DecidableEq

/-- Where `modbus_tcp_server_task` stands. -/
inductive ServerPc
  | idle
  /-- `fetch_tcp_request` returned. -/
  | fetched (t : Txn)
  | replying (reply : LocalReply) (t : Txn) (adu : Bytes)
  /-- `make_rtu_request_from_tcp` returned. -/
  | built (t : Txn) (rtu : Bytes)
  /-- `serial_send` returned `ESP_OK`. -/
  | handed (t : Txn)
  | cleared (t : Txn)
  /-- In `xEventGroupWaitBits`; `expired` once the timeout has run out. -/
  | waiting (t : Txn) (expired : Bool)
deriving Repr, DecidableEq

/-- Where `process_data_from_serial` stands on the UART task. -/
inductive UartPc
  | idle
  /-- The answer to `txn` is built from the frame `data`. -/
  | framed (data : Bytes) (txn : Option Txn) (adu : Bytes)
  | signalled (txn : Option Txn) (adu : Bytes)
  | sending (txn : Option Txn) (adu : Bytes) (sock : Int) (generation : UInt32)
      (req : Option PacketQueueElem)
deriving Repr, DecidableEq

/-- One gateway port. -/
structure State where
  /-- `conn_generation` of the descriptor. -/
  connGeneration : UInt32
  /-- `active_connections` of the descriptor. -/
  activeConnections : Nat
  socks : Int → Option Owner
  acceptor : AcceptorPc
  nextConn : Nat
  receivers : Nat → ReceiverPc
  reasm : Reasm.State
  tcpQueue : List PacketQueueElem
  /-- `EVENT_SERIAL_RESPONSE_RECEIVED`. -/
  responseReceived : Bool
  pendingTid : Nat
  pendingSlaveId : UInt8
  pendingClientSock : Int
  pendingConnGeneration : UInt32
  server : ServerPc
  uart : UartPc
  retired : Nat
  popped : Nat
  pendingReq : Option PacketQueueElem
  txn : Option Txn

/-- The port after `modbus_tcp_init_port`, before any client. -/
def init : State where
  connGeneration := 0
  activeConnections := 0
  socks := fun _ => none
  acceptor := .listening
  nextConn := 0
  receivers := fun _ => .absent
  reasm := Reasm.init
  tcpQueue := []
  responseReceived := false
  pendingTid := 0
  pendingSlaveId := 0
  pendingClientSock := -1
  pendingConnGeneration := 0
  server := .idle
  uart := .idle
  retired := 0
  popped := 0
  pendingReq := none
  txn := none

inductive Obs
  /-- The receiver task of `c` queued a request. -/
  | enqueued (c : Nat) (elem : PacketQueueElem)
  /-- `serial_send` took over the RTU frame of a request. -/
  | forwarded (t : Txn) (rtu : Bytes)
  /-- The UART task gave `data` to the serial handler. -/
  | delivered (data : Bytes)
  /-- The serial handler built an answer to `txn`. -/
  | answered (txn : Option Txn) (adu : Bytes)
  /-- The serial handler set the event bit for the frame `data`. -/
  | signalled (data : Bytes)
  | expired
  /-- `wait_rtu_send_receive` returned `ok`, which `rs485_stats_update` counts. -/
  | waited (ok : Bool)
  /-- `tcp_server_send_to_captured_client` wrote `adu` into a socket owned by `owner`, after
  `retired` retirements, on behalf of the request `req` the pair travelled with. -/
  | written (path : ReplyPath) (req : Option PacketQueueElem) (retired : Nat) (owner : Owner)
      (adu : Bytes)
deriving Repr, DecidableEq

/-! ## Connections: `tcp_server.c` -/

/-- `RX_BUFFER_SIZE - 1`: the most one `recv` returns. -/
def recvMax : Nat := 1023

/-- Invalidate captured pairs and close the socket. -/
def State.retireClientConn (s : State) (sock : Int) : State :=
  { s with
    connGeneration := s.connGeneration + 1
    socks := Function.update s.socks sock none
    retired := s.retired + 1 }

/-- `tcp_server_send_to_captured_client`: write only if the captured generation is the
current one and the descriptor is valid. -/
def State.sendToCapturedClient (s : State) (path : ReplyPath) (req : Option PacketQueueElem)
    (clientSock : Int) (generation : UInt32) (adu : Bytes) (lockOk sendOk : Bool) : List Obs :=
  -- compared and sent under the connection lock, which `retire_client_conn` takes as well
  if lockOk ∧ generation = s.connGeneration ∧ 0 ≤ clientSock ∧ sendOk then
    match s.socks clientSock with
    | some owner => [.written path req s.retired owner adu]
    | none => []
  else []

def State.foreignOpen (s : State) (sock : Int) : Option (State × List Obs) :=
  if s.socks sock = none then
    some ({ s with socks := Function.update s.socks sock (some .foreign) }, [])
  else none

def State.foreignClose (s : State) (sock : Int) : Option (State × List Obs) :=
  if s.socks sock = some .foreign then
    some ({ s with socks := Function.update s.socks sock none }, [])
  else none

/-- `accept` returns a new connection on a free socket number. -/
def State.accept (s : State) (sock : Int) : Option (State × List Obs) :=
  match s.acceptor with
  | .listening =>
    -- free now, but it may have been the number of an earlier connection
    if 0 ≤ sock ∧ s.socks sock = none then
      some ({ s with
        socks := Function.update s.socks sock (some (.conn s.nextConn))
        acceptor := .accepted s.nextConn sock
        nextConn := s.nextConn + 1 }, [])
    else none
  | _ => none

/-- The acceptor allocates the receiver's arguments and counts the connection, or retires it.
The gateway has no connection cap. -/
def State.register (s : State) (mallocOk : Bool) : Option (State × List Obs) :=
  match s.acceptor with
  | .accepted c sock =>
    if mallocOk then
      some ({ s with
        acceptor := .registered c sock
        activeConnections := s.activeConnections + 1 }, [])
    -- no captured pair names this connection yet, the others lose theirs with it
    else some ({ s.retireClientConn sock with acceptor := .listening }, [])
  | _ => none

/-- `xTaskCreate` of the receiver task. -/
def State.spawn (s : State) (ok : Bool) : Option (State × List Obs) :=
  match s.acceptor with
  | .registered c sock =>
    if ok then
      some ({ s with
        acceptor := .listening
        receivers := Function.update s.receivers c (.recv sock) }, [])
    else some ({ s.retireClientConn sock with acceptor := .rollback }, [])
  | _ => none

def State.rollback (s : State) : Option (State × List Obs) :=
  match s.acceptor with
  | .rollback =>
    some ({ s with acceptor := .listening, activeConnections := s.activeConnections - 1 }, [])
  | _ => none

/-- `retire_client_conn` at the end of `run_receiver`. -/
def State.retire (s : State) (c : Nat) : Option (State × List Obs) :=
  match s.receivers c with
  | .hooked sock =>
    some ({ s.retireClientConn sock with
      receivers := Function.update s.receivers c .retired }, [])
  | _ => none

/-- The last step of `run_receiver`. -/
def State.leave (s : State) (c : Nat) : Option (State × List Obs) :=
  match s.receivers c with
  | .retired =>
    some ({ s with
      receivers := Function.update s.receivers c .finished
      activeConnections := s.activeConnections - 1 }, [])
  | _ => none

/-! ## Requests: the receive and close handlers of `modbus_tcp.c` -/

def queueLen : Nat := 10

/-- The frames `separate_and_push_one_pass` finds in a receive buffer: it stops at the first
fragment, the first frame that does not fit and the first one that fails the check. -/
def onePassFrames (data : Bytes) : List Bytes :=
  if _hlen : data.length < unitIdOffset then []
  else
    let reqLen := (tcpHeader data).length + unitIdOffset
    if data.length < reqLen ∨ ¬ modbusTcpCheckRequest (data.take reqLen) then []
    else data.take reqLen :: onePassFrames (data.drop reqLen)
termination_by data.length
decreasing_by
  simp only [unitIdOffset, List.length_drop] at *
  omega

/-- The reassembler callback of the model: the frames are collected here and queued, each in
a step of its own, by `push`. -/
def collectFrame (frames : List Bytes) (_sock : Int) (frame : Bytes) : List Bytes × Bool :=
  (frames ++ [frame], true)

/-- `recv` returns `data` and the receive handler starts: it samples the generation and
separates the frames, without buffering when no reassembly slot is left. -/
def State.receive (s : State) (c : Nat) (data : Bytes) : Option (State × List Obs) :=
  match s.receivers c with
  | .recv sock =>
    if data ≠ [] ∧ data.length ≤ recvMax then
      let fed := s.reasm.feed sock data collectFrame []
      let pushing := fun frames onePass =>
        ReceiverPc.pushing sock s.connGeneration ⟨c, s.retired⟩ frames onePass
      match fed.2.2 with
      -- the number of frames is not looked at, the callback has collected them
      | some _ =>
        some ({ s with
          reasm := fed.1
          receivers := Function.update s.receivers c (pushing fed.2.1 false) }, [])
      -- no slot for this socket: what is in this buffer alone
      | none =>
        some ({ s with
          reasm := fed.1
          receivers := Function.update s.receivers c (pushing (onePassFrames data) true) }, [])
    else none
  | _ => none

/-- `on_reasm_frame` (or a turn of the one-pass loop) on the next frame: check it and push it
with the sampled identity. `pushOk` covers the allocation and `xQueueSend`. -/
def State.push (s : State) (c : Nat) (pushOk : Bool) : Option (State × List Obs) :=
  match s.receivers c with
  | .pushing sock generation capture (frame :: frames) onePass =>
    if modbusTcpCheckRequest frame ∧ s.tcpQueue.length < queueLen ∧ pushOk then
      let elem : PacketQueueElem := ⟨frame, sock, generation, capture⟩
      some ({ s with
        tcpQueue := s.tcpQueue ++ [elem]
        receivers := Function.update s.receivers c
          (.pushing sock generation capture frames onePass) }, [.enqueued c elem])
    else
      -- the reassembler goes on with the next frame, the one-pass loop returns
      some ({ s with
        receivers := Function.update s.receivers c
          (.pushing sock generation capture (if onePass then [] else frames) onePass) }, [])
  | _ => none

/-- The receive handler returns to `recv`. -/
def State.handled (s : State) (c : Nat) : Option (State × List Obs) :=
  match s.receivers c with
  | .pushing sock _ _ [] _ =>
    some ({ s with receivers := Function.update s.receivers c (.recv sock) }, [])
  | _ => none

/-- `recv` ends and `on_tcp_conn_close` runs: the reassembly slot is released, and the pending
request is cleared if it is this client's. -/
def State.onTcpConnClose (s : State) (c : Nat) : Option (State × List Obs) :=
  match s.receivers c with
  | .recv sock =>
    let closed := { s with
      reasm := s.reasm.close sock
      receivers := Function.update s.receivers c (.hooked sock) }
    -- compared by number only: nothing says that the pending request is of this connection
    if s.pendingClientSock = sock then
      some ({ closed with
        pendingTid := 0
        pendingSlaveId := 0
        pendingClientSock := -1
        pendingConnGeneration := 0
        pendingReq := none
        txn := none }, [])
    else some (closed, [])
  | _ => none

/-! ## The server task -/

def sendBufferSize : Nat := 1024

/-- `FAST_MODBUS_REQUEST_STR`: "WB-FAST-MODBUS?". -/
def probeRequest : Bytes :=
  [0x57, 0x42, 0x2D, 0x46, 0x41, 0x53, 0x54, 0x2D, 0x4D, 0x4F, 0x44, 0x42, 0x55, 0x53, 0x3F]

/-- `FAST_MODBUS_RESPONSE_STR`: "WB-FAST-MODBUS-OK". -/
def probeResponse : Bytes :=
  [0x57, 0x42, 0x2D, 0x46, 0x41, 0x53, 0x54, 0x2D, 0x4D, 0x4F, 0x44, 0x42, 0x55, 0x53, 0x2D, 0x4F,
    0x4B]

def isProbe (req : Bytes) : Bool :=
  (tcpHeader req).function == 0x47 && (tcpHeader req).unitId == 0x00 &&
    (tcpHeader req).length == 17 &&
    (req.drop tcpHeaderSize).take probeRequest.length == probeRequest

/-- The answer of `fast_modbus_send_probe_response`. -/
def probeReply (req : Bytes) : Bytes :=
  tcpAdu { tcpHeader req with length := 2 + probeResponse.length } probeResponse

/-- Take a request and adopt its identity as the pending one. -/
def State.fetchTcpRequest (s : State) : Option (State × List Obs) :=
  match s.server, s.tcpQueue with
  | .idle, elem :: queue =>
    -- the pending transaction id is still the one of an earlier request
    some ({ s with
      tcpQueue := queue
      pendingClientSock := elem.clientSock
      pendingConnGeneration := elem.connGeneration
      pendingReq := some elem
      popped := s.popped + 1
      server := .fetched ⟨s.popped, elem⟩ }, [])
  | _, _ => none

/-- The RTU frame of the request, whose transaction id and unit become the pending ones. -/
def State.makeRtuRequestFromTcp (s : State) (t : Txn) (mallocOk : Bool) : State :=
  match if mallocOk then modbusRtuFromTcp t.req.data sendBufferSize else none with
  | some rtu =>
    { s with
      pendingTid := (tcpHeader t.req.data).transactionId
      pendingSlaveId := (tcpHeader t.req.data).unitId
      txn := some t
      server := .built t rtu }
  | none => { s with server := .idle }

/-- The server task tells a probe, a request to the gateway itself and a request for RS-485
apart. `mbDeviceHandleSelfRequest` builds the answers of the gateway's own registers. -/
def State.dispatch (mbDeviceHandleSelfRequest : Bytes → Bytes) (s : State) (mallocOk : Bool) :
    Option (State × List Obs) :=
  match s.server with
  | .fetched t =>
    -- neither of the local answers touches the pending transaction id
    if isProbe t.req.data then
      if mallocOk then
        some ({ s with server := .replying .probe t (probeReply t.req.data) }, [])
      else some ({ s with server := .idle }, [])
    else if mbDeviceIsSelf (tcpHeader t.req.data).unitId then
      some ({ s with server := .replying .selfDevice t (mbDeviceHandleSelfRequest t.req.data) }, [])
    else some (s.makeRtuRequestFromTcp t mallocOk, [])
  | _ => none

def State.sendLocalReply (s : State) (lockOk sendOk : Bool) : Option (State × List Obs) :=
  match s.server with
  | .replying reply t adu =>
    some ({ s with server := .idle },
      s.sendToCapturedClient (.server reply) (some t.req) t.req.clientSock t.req.connGeneration adu
        lockOk sendOk)
  | _ => none

/-- Hand the RTU frame to the UART. -/
def State.sendRtuRequest (s : State) (ok : Bool) : Option (State × List Obs) :=
  match s.server with
  | .built t rtu =>
    if ok then some ({ s with server := .handed t }, [.forwarded t rtu])
    else some ({ s with server := .idle }, [])
  | _ => none

/-- `xEventGroupClearBits` at the start of `wait_rtu_send_receive`. -/
def State.clearBits (s : State) : Option (State × List Obs) :=
  match s.server with
  -- the request is on its way already, and so may be the answer
  | .handed t => some ({ s with server := .cleared t, responseReceived := false }, [])
  | _ => none

/-- `serial_wait_tx_done` returns and the wait for the event bit begins. -/
def State.waitTxDone (s : State) : Option (State × List Obs) :=
  match s.server with
  | .cleared t => some ({ s with server := .waiting t false }, [])
  | _ => none

def State.expire (s : State) : Option (State × List Obs) :=
  match s.server with
  | .waiting t false =>
    -- with the bit set the task is ready to run and does not time out any more
    if s.responseReceived then none
    else some ({ s with server := .waiting t true }, [.expired])
  | _ => none

/-- `xEventGroupWaitBits` returns the bits as they are when the task runs again, and
`wait_rtu_send_receive` reports whether the response bit is among them. -/
def State.resume (s : State) : Option (State × List Obs) :=
  match s.server with
  | .waiting _ expired =>
    if s.responseReceived ∨ expired then
      some ({ s with server := .idle }, [.waited s.responseReceived])
    else none
  | _ => none

/-! ## The UART task -/

/-- The part of `process_data_from_serial` before the event bit is set: the answer built from
a received frame, if it passes all checks. -/
def State.serialReply (s : State) (data : Bytes) (mallocOk : Bool) : Option Bytes :=
  if fastModbusTruncateFf data = [] then none
  -- without a header to compare with, only the length and the CRC are checked
  else if ¬ modbusRtuCheckResponse (fastModbusTruncateFf data) none then none
  else if s.activeConnections = 0 then none
  else if mallocOk then modbusTcpFromRtu s.pendingTid (fastModbusTruncateFf data) sendBufferSize
  else none

def State.uartFrame (s : State) (data : Bytes) (mallocOk : Bool) : Option (State × List Obs) :=
  match s.uart with
  | .idle =>
    match s.serialReply data mallocOk with
    | some adu =>
      some ({ s with uart := .framed data s.txn adu }, [.delivered data, .answered s.txn adu])
    | none => some (s, [.delivered data])
  | _ => none

/-- `xEventGroupSetBits` in the handler. -/
def State.uartSignal (s : State) : Option (State × List Obs) :=
  match s.uart with
  | .framed data txn adu =>
    some ({ s with responseReceived := true, uart := .signalled txn adu }, [.signalled data])
  | _ => none

def State.uartReadPair (s : State) : Option (State × List Obs) :=
  match s.uart with
  | .signalled txn adu =>
    some ({ s with
      uart := .sending txn adu s.pendingClientSock s.pendingConnGeneration s.pendingReq }, [])
  | _ => none

def State.uartSend (s : State) (lockOk sendOk : Bool) : Option (State × List Obs) :=
  match s.uart with
  | .sending txn adu sock generation req =>
    some ({ s with uart := .idle },
      s.sendToCapturedClient (.serial txn) req sock generation adu lockOk sendOk)
  | _ => none

/-- `process_data_from_serial` as one step. -/
def State.processDataFromSerial (s : State) (data : Bytes) (mallocOk lockOk sendOk : Bool) :
    Option (State × List Obs) :=
  match s.uart with
  | .idle =>
    match s.serialReply data mallocOk with
    | some adu =>
      some ({ s with responseReceived := true },
        [.delivered data, .answered s.txn adu, .signalled data] ++
          s.sendToCapturedClient (.serial s.txn) s.pendingReq s.pendingClientSock
            s.pendingConnGeneration adu lockOk sendOk)
    | none => some (s, [.delivered data])
  | _ => none

/-! ## The machine -/

inductive Event
  | foreignOpen (sock : Int)
  | foreignClose (sock : Int)
  | accept (sock : Int)
  | register (mallocOk : Bool)
  | spawn (ok : Bool)
  | rollback
  | receive (c : Nat) (data : Bytes)
  | push (c : Nat) (pushOk : Bool)
  | handled (c : Nat)
  | onTcpConnClose (c : Nat)
  | retire (c : Nat)
  | leave (c : Nat)
  | fetchTcpRequest
  | dispatch (mallocOk : Bool)
  | sendLocalReply (lockOk sendOk : Bool)
  | sendRtuRequest (ok : Bool)
  | clearBits
  | waitTxDone
  | expire
  | resume
  | uartFrame (data : Bytes) (mallocOk : Bool)
  | uartSignal
  | uartReadPair
  | uartSend (lockOk sendOk : Bool)
  | serial (data : Bytes) (mallocOk lockOk sendOk : Bool)
deriving Repr, DecidableEq

def step (mbDeviceHandleSelfRequest : Bytes → Bytes) (s : State) : Event → Option (State × List Obs)
  | .foreignOpen sock => s.foreignOpen sock
  | .foreignClose sock => s.foreignClose sock
  | .accept sock => s.accept sock
  | .register mallocOk => s.register mallocOk
  | .spawn ok => s.spawn ok
  | .rollback => s.rollback
  | .receive c data => s.receive c data
  | .push c pushOk => s.push c pushOk
  | .handled c => s.handled c
  | .onTcpConnClose c => s.onTcpConnClose c
  | .retire c => s.retire c
  | .leave c => s.leave c
  | .fetchTcpRequest => s.fetchTcpRequest
  | .dispatch mallocOk => s.dispatch mbDeviceHandleSelfRequest mallocOk
  | .sendLocalReply lockOk sendOk => s.sendLocalReply lockOk sendOk
  | .sendRtuRequest ok => s.sendRtuRequest ok
  | .clearBits => s.clearBits
  | .waitTxDone => s.waitTxDone
  | .expire => s.expire
  | .resume => s.resume
  | .uartFrame data mallocOk => s.uartFrame data mallocOk
  | .uartSignal => s.uartSignal
  | .uartReadPair => s.uartReadPair
  | .uartSend lockOk sendOk => s.uartSend lockOk sendOk
  | .serial data mallocOk lockOk sendOk => s.processDataFromSerial data mallocOk lockOk sendOk

/-- The gateway port, with the answers of the device itself. -/
def machine (mbDeviceHandleSelfRequest : Bytes → Bytes) : Machine State Event Obs where
  init := init
  step := step mbDeviceHandleSelfRequest

end WbMge.Gateway
