import WbMge.ToMathlib.Handles
import WbMge.ToMathlib.Machine

/-!
# The teardown of the transparent bridge

A port in transparent mode has a serial descriptor and a TCP descriptor, and tasks that push in both
directions: the UART task calls `process_data_from_serial`, which sends into the TCP descriptor, and
the TCP receiver tasks call `process_data_from_tcp`, which sends into the serial one. Each of them
looks for its port by the address of the descriptor it belongs to.

`transparent_tcp_deinit_port` takes both descriptors out of the context, joins the UART task in
`serial_deinit` and the receiver tasks in `tcp_deinit_func`, in this order. A receiver sends under
`serial_lock`, under which the descriptors are taken out, and the UART task is gone when
`tcp_deinit_func` is called.

The calls for one port follow each other. An address that was freed may be given out again, to
either port. Which TCP module it is, the `index` in the context and the count of failed sends are
left out.
-/

namespace WbMge.Transparent

open Handles

/-! ## The model -/

/-- An index below `TRANSPARENT_TCP_MAX_TASK_COUNT`. -/
abbrev Port := Fin 2

def ports : List Port := List.finRange 2

inductive UartPc where
  | waitEvent
  /-- `find_ctx_by_serial_desc`, with the contexts that it has not looked at. -/
  | findCtx (rest : List Port)
  | checkInitialized (ctx : Port)
  /-- It reads `tcp_desc` and calls `tcp_connected_func`. -/
  | callConnected (ctx : Port)
  /-- In `tcp_connected_func`. -/
  | connected (ctx : Port) (desc : Option Handle)
  /-- It reads `tcp_desc` and calls `tcp_send_func`. -/
  | callSend (ctx : Port)
  /-- In `tcp_send_func`. -/
  | sending (desc : Option Handle)
deriving Repr, DecidableEq

structure Uart where
  desc : Handle
  exitReq : Bool
  pc : UartPc
deriving Repr, DecidableEq

inductive ReceiverPc where
  | recv
  /-- `find_ctx_by_tcp_desc`, with the contexts that it has not looked at. -/
  | findCtx (rest : List Port)
  | checkInitialized (ctx : Port)
  | lock (ctx : Port)
  | read (ctx : Port)
  /-- In `serial_send`. -/
  | sending (ctx : Port) (desc : Handle)
  | unlock (ctx : Port)
deriving Repr, DecidableEq

structure Receiver where
  desc : Handle
  pc : ReceiverPc
deriving Repr, DecidableEq

/-- Where the call for a port is. -/
inductive Call where
  | idle
  | initGuard
  | createLock
  | tcpInit
  | serialInit (tcp : Handle)
  | setSerialDesc (serial tcp : Handle)
  | setTcpDesc (tcp : Handle)
  | setInitialized
  | deinitGuard
  | lock
  | clearTcpDesc
  | clearSerialDesc (tcp : Option Handle)
  | unlock (serial tcp : Option Handle)
  | callSerialDeinit (serial tcp : Option Handle)
  /-- In `serial_deinit`. -/
  | serialDeinit (serial : Handle) (tcp : Option Handle)
  | callTcpDeinit (tcp : Option Handle)
  /-- In `tcp_deinit_func`. -/
  | tcpDeinit (tcp : Handle)
deriving Repr, DecidableEq

/-- Who can have the `serial_lock` of a port. -/
inductive Owner (n : Nat) where
  | deinit
  | receiver (port : Port) (k : Fin n)
deriving Repr, DecidableEq

/-- The context of a port, the descriptors that were made for it, and its tasks, of which `n` can
receive at a time. -/
structure PortState (n : Nat) where
  initialized : Bool
  serialDesc : Option Handle
  tcpDesc : Option Handle
  lockMade : Bool
  lockOwner : Option (Owner n)
  call : Call
  serial : Option Handle
  tcp : Option Handle
  uart : Option Uart
  receiver : Fin n → Option Receiver

structure State (n : Nat) where
  heap : Pool
  port : Port → PortState n

inductive Obs where
  | serialDeinit (desc : Handle)
  | tcpDeinit (desc : Handle)
deriving Repr, DecidableEq

inductive Event (n : Nat) where
  | initPort (index : Port)
  | deinitPort (index : Port)
  | call (index : Port) (ok : Bool) (addr : Nat)
  | serialData (port : Port)
  /-- The next operation of a UART task, with the result of `tcp_connected_func`. -/
  | uart (port : Port) (ok : Bool)
  | accept (port : Port) (k : Fin n)
  | tcpData (port : Port) (k : Fin n)
  | receiver (port : Port) (k : Fin n) (client : Bool)
deriving Repr, DecidableEq

namespace PortState

variable {n : Nat}

def off : PortState n where
  initialized := false
  serialDesc := none
  tcpDesc := none
  lockMade := false
  lockOwner := none
  call := .idle
  serial := none
  tcp := none
  uart := none
  receiver := fun _ => none

/-- `serial_path_lock`: without a lock there is nothing to wait for. -/
def acquire (p : PortState n) (who : Owner n) : Option (PortState n) :=
  if !p.lockMade then some p
  else if p.lockOwner = none then some { p with lockOwner := some who }
  else none

/-- `serial_path_unlock`. -/
def release (p : PortState n) : PortState n := { p with lockOwner := none }

def setReceiver (p : PortState n) (k : Fin n) (r : Option Receiver) : PortState n :=
  { p with receiver := Function.update p.receiver k r }

end PortState

namespace State

variable {n : Nat}

def setPort (s : State n) (i : Port) (p : PortState n) : State n :=
  { s with port := Function.update s.port i p }

/-- The next operation of `transparent_tcp_init_port` or `transparent_tcp_deinit_port`. -/
def callStep (s : State n) (i : Port) (ok : Bool) (addr : Nat) : Option (State n × List Obs) :=
  let p := s.port i
  let goto (p : PortState n) (c : Call) : State n := s.setPort i { p with call := c }
  match p.call with
  | .idle => none
  | .initGuard => some (goto p (if p.initialized then .idle else .createLock), [])
  | .createLock =>
    if p.lockMade then some (goto p .tcpInit, [])
    else if ok then some (goto { p with lockMade := true } .tcpInit, [])
    else some (goto p .idle, [])
  | .tcpInit =>
    if !ok then some (goto p .idle, [])
    else if h : s.heap.Fresh addr then
      let tcp := s.heap.newest addr
      some ({ goto { p with tcp := some tcp } (.serialInit tcp) with heap := s.heap.open addr h },
        [])
    else none
  | .serialInit tcp =>
    if !ok then some (goto p (.callTcpDeinit (some tcp)), [])
    else if h : s.heap.Fresh addr then
      let serial := s.heap.newest addr
      some ({ goto { p with
        serial := some serial
        uart := some ⟨serial, false, .waitEvent⟩ } (.setSerialDesc serial tcp) with
          heap := s.heap.open addr h }, [])
    else none
  | .setSerialDesc serial tcp =>
    some (goto { p with serialDesc := some serial } (.setTcpDesc tcp), [])
  | .setTcpDesc tcp => some (goto { p with tcpDesc := some tcp } .setInitialized, [])
  | .setInitialized => some (goto { p with initialized := true } .idle, [])
  | .deinitGuard =>
    if p.initialized then some (goto { p with initialized := false } .lock, [])
    else some (goto p .idle, [])
  | .lock => (p.acquire .deinit).map fun p => (goto p .clearTcpDesc, [])
  | .clearTcpDesc => some (goto { p with tcpDesc := none } (.clearSerialDesc p.tcpDesc), [])
  | .clearSerialDesc tcp => some (goto { p with serialDesc := none } (.unlock p.serialDesc tcp), [])
  | .unlock serial tcp => some (goto p.release (.callSerialDeinit serial tcp), [])
  | .callSerialDeinit none tcp => some (goto p (.callTcpDeinit tcp), [])
  | .callSerialDeinit (some serial) tcp =>
    some (goto { p with uart := p.uart.map ({ · with exitReq := true }) }
      (.serialDeinit serial tcp), [.serialDeinit serial])
  | .serialDeinit serial tcp =>
    if p.uart.isSome then none
    else some ({ goto { p with serial := none } (.callTcpDeinit tcp) with
      heap := s.heap.close serial.num }, [])
  | .callTcpDeinit none => some (goto p .idle, [])
  | .callTcpDeinit (some tcp) => some (goto p (.tcpDeinit tcp), [.tcpDeinit tcp])
  | .tcpDeinit tcp =>
    if ∃ k, (p.receiver k).isSome then none
    else some ({ goto { p with tcp := none } .idle with heap := s.heap.close tcp.num }, [])

/-- The next operation of the UART task of port `i`, which is `t`. -/
def uartStep (s : State n) (i : Port) (t : Uart) (ok : Bool) : Option (State n) :=
  let goto (pc : UartPc) : State n := s.setPort i { s.port i with uart := some { t with pc } }
  match t.pc with
  | .waitEvent => if t.exitReq then some (s.setPort i { s.port i with uart := none }) else none
  | .findCtx [] => some (goto .waitEvent)
  | .findCtx (k :: rest) =>
    some (goto (if (s.port k).serialDesc.any (·.num == t.desc.num) then .checkInitialized k
      else .findCtx rest))
  | .checkInitialized k =>
    some (goto (if (s.port k).initialized then .callConnected k else .waitEvent))
  | .callConnected k => some (goto (.connected k (s.port k).tcpDesc))
  -- without a descriptor there is no connection
  | .connected k desc => some (goto (if ok && desc.isSome then .callSend k else .waitEvent))
  | .callSend k => some (goto (.sending (s.port k).tcpDesc))
  | .sending _ => some (goto .waitEvent)

def setReceiver (s : State n) (i : Port) (k : Fin n) (r : Option Receiver) : State n :=
  s.setPort i ((s.port i).setReceiver k r)

/-- The next operation of receiver `k` of port `i`, which is `r`. -/
def receiverStep (s : State n) (i : Port) (k : Fin n) (r : Receiver) (client : Bool) :
    Option (State n) :=
  let goto (s : State n) (pc : ReceiverPc) : State n := s.setReceiver i k (some { r with pc })
  match r.pc with
  | .recv => some (s.setReceiver i k none)
  | .findCtx [] => some (goto s .recv)
  | .findCtx (j :: rest) =>
    some (goto s (if (s.port j).tcpDesc.any (·.num == r.desc.num) then .checkInitialized j
      else .findCtx rest))
  | .checkInitialized j =>
    -- a negative `client_sock` ends the call, too
    some (goto s (if (s.port j).initialized && client then .lock j else .recv))
  | .lock j => ((s.port j).acquire (.receiver i k)).map fun p => goto (s.setPort j p) (.read j)
  | .read j => some (goto s ((s.port j).serialDesc.elim (.unlock j) (.sending j)))
  | .sending j _ => some (goto s (.unlock j))
  | .unlock j => some (goto (s.setPort j (s.port j).release) .recv)

def step (s : State n) : Event n → Option (State n × List Obs)
  | .initPort i =>
    if (s.port i).call = .idle then some (s.setPort i { s.port i with call := .initGuard }, [])
    else none
  | .deinitPort i =>
    if (s.port i).call = .idle then some (s.setPort i { s.port i with call := .deinitGuard }, [])
    else none
  | .call i ok addr => s.callStep i ok addr
  | .serialData i =>
    (s.port i).uart.bind fun t =>
      if t.pc = .waitEvent then
        some (s.setPort i { s.port i with uart := some { t with pc := .findCtx ports } }, [])
      else none
  | .uart i ok => ((s.port i).uart.bind fun t => s.uartStep i t ok).map fun s => (s, [])
  | .accept i k =>
    (s.port i).tcp.bind fun tcp =>
      if (s.port i).receiver k = none then some (s.setReceiver i k (some ⟨tcp, .recv⟩), [])
      else none
  | .tcpData i k =>
    ((s.port i).receiver k).bind fun r =>
      if r.pc = .recv then some (s.setReceiver i k (some { r with pc := .findCtx ports }), [])
      else none
  | .receiver i k client =>
    (((s.port i).receiver k).bind fun r => s.receiverStep i k r client).map fun s => (s, [])

end State

def machine (n : Nat) : Machine (State n) (Event n) Obs where
  init := { heap := .empty, port := fun _ => .off }
  step := State.step

/-! ## The invariant -/

@[simp]
def UartPc.ctx? : UartPc → Option Port
  | .checkInitialized k | .callConnected k | .connected k _ | .callSend k => some k
  | .waitEvent | .findCtx _ | .sending _ => none

@[simp]
def UartPc.runsOn : UartPc → Option Handle
  | .connected _ desc | .sending desc => desc
  | .waitEvent | .findCtx _ | .checkInitialized _ | .callConnected _ | .callSend _ => none

@[simp]
def ReceiverPc.ctx? : ReceiverPc → Option Port
  | .checkInitialized j | .lock j | .read j | .sending j _ | .unlock j => some j
  | .recv | .findCtx _ => none

/-- The serial descriptor that the task is in `serial_send` with. -/
@[simp]
def ReceiverPc.runsOn : ReceiverPc → Option Handle
  | .sending _ desc => some desc
  | .recv | .findCtx _ | .checkInitialized _ | .lock _ | .read _ | .unlock _ => none

def ReceiverPc.Inside : ReceiverPc → Prop
  | .read _ | .sending _ _ | .unlock _ => True
  | .recv | .findCtx _ | .checkInitialized _ | .lock _ => False

def ReceiverPc.NeedsLock : ReceiverPc → Prop
  | .lock _ | .read _ | .sending _ _ | .unlock _ => True
  | .recv | .findCtx _ | .checkInitialized _ => False

def Call.Inside : Call → Prop
  | .clearTcpDesc | .clearSerialDesc _ | .unlock _ _ => True
  | .idle | .initGuard | .createLock | .tcpInit | .serialInit _ | .setSerialDesc _ _ | .setTcpDesc _
  | .setInitialized | .deinitGuard | .lock | .callSerialDeinit _ _ | .serialDeinit _ _
  | .callTcpDeinit _ | .tcpDeinit _ => False

def Call.NeedsLock : Call → Prop
  | .idle | .initGuard | .createLock | .deinitGuard => False
  | .tcpInit | .serialInit _ | .setSerialDesc _ _ | .setTcpDesc _ | .setInitialized | .lock
  | .clearTcpDesc | .clearSerialDesc _ | .unlock _ _ | .callSerialDeinit _ _ | .serialDeinit _ _
  | .callTcpDeinit _ | .tcpDeinit _ => True

def Call.Joining : Call → Prop
  | .serialDeinit _ _ | .tcpDeinit _ => True
  | .idle | .initGuard | .createLock | .tcpInit | .serialInit _ | .setSerialDesc _ _ | .setTcpDesc _
  | .setInitialized | .deinitGuard | .lock | .clearTcpDesc | .clearSerialDesc _ | .unlock _ _
  | .callSerialDeinit _ _ | .callTcpDeinit _ => False

section Invariant

variable {n : Nat}

structure View where
  initialized : Bool
  serial : Option Handle
  tcp : Option Handle
  serialDesc : Option Handle
  tcpDesc : Option Handle

def PortState.view (p : PortState n) : View where
  initialized := p.initialized
  serial := p.serial
  tcp := p.tcp
  serialDesc := p.serialDesc
  tcpDesc := p.tcpDesc

/-- What the port has at each place of its call. -/
def Fits : Call → View → Prop
  | .idle, v | .initGuard, v | .deinitGuard, v =>
    v = ⟨false, none, none, none, none⟩ ∨ ∃ d t, v = ⟨true, some d, some t, some d, some t⟩
  | .createLock, v | .tcpInit, v => v = ⟨false, none, none, none, none⟩
  | .serialInit t, v => v = ⟨false, none, some t, none, none⟩
  | .setSerialDesc d t, v => v = ⟨false, some d, some t, none, none⟩
  | .setTcpDesc t, v => ∃ d, v = ⟨false, some d, some t, some d, none⟩
  | .setInitialized, v | .lock, v | .clearTcpDesc, v =>
    ∃ d t, v = ⟨false, some d, some t, some d, some t⟩
  | .clearSerialDesc tcp, v => ∃ d t, tcp = some t ∧ v = ⟨false, some d, some t, some d, none⟩
  | .unlock serial tcp, v | .callSerialDeinit serial tcp, v =>
    ∃ d t, serial = some d ∧ tcp = some t ∧ v = ⟨false, some d, some t, none, none⟩
  | .serialDeinit d tcp, v => ∃ t, tcp = some t ∧ v = ⟨false, some d, some t, none, none⟩
  | .callTcpDeinit tcp, v => ∃ t, tcp = some t ∧ v = ⟨false, none, some t, none, none⟩
  | .tcpDeinit t, v => v = ⟨false, none, some t, none, none⟩

/-- Who is between taking the lock of port `i` and giving it back. No task of the other port is. -/
def Inside (call : Call) (receiver : Fin n → Option Receiver) (i : Port) : Owner n → Prop
  | .deinit => call.Inside
  | .receiver j k => j = i ∧ ∃ r, receiver k = some r ∧ r.pc.Inside

structure UartInv (i : Port) (p : PortState n) (t : Uart) : Prop where
  desc : p.serial = some t.desc
  ctx : ∀ k, t.pc.ctx? = some k → k = i
  runsOn : ∀ d, t.pc.runsOn = some d → p.tcp = some d

structure ReceiverInv (i : Port) (p : PortState n) (r : Receiver) : Prop where
  desc : p.tcp = some r.desc
  ctx : ∀ j, r.pc.ctx? = some j → j = i
  lockMade : r.pc.NeedsLock → p.lockMade = true
  runsOn : ∀ d, r.pc.runsOn = some d → p.serialDesc = some d

/-- What holds of port `i`, whatever the other one does. -/
structure PortInv (i : Port) (p : PortState n) : Prop where
  fits : Fits p.call p.view
  lockMade : p.initialized = true ∨ p.call.NeedsLock → p.lockMade = true
  lock : Guarded p.lockOwner (Inside p.call p.receiver i)
  uart : ∀ t, p.uart = some t → UartInv i p t
  receiver : ∀ k r, p.receiver k = some r → ReceiverInv i p r

inductive Place where
  | serial (i : Port)
  | tcp (i : Port)
deriving Repr, DecidableEq

def State.held (s : State n) : Holding Place Handle
  | .serial i => (s.port i).serial
  | .tcp i => (s.port i).tcp

structure Inv (log : List Obs) (s : State n) : Prop where
  port : ∀ i, PortInv i (s.port i)
  owned : Owned s.heap s.held
  serialDeinit : ∀ d, .serialDeinit d ∈ log →
    s.heap.Gone d ∨ ∃ i t, (s.port i).call = .serialDeinit d t
  tcpDeinit : ∀ d, .tcpDeinit d ∈ log → s.heap.Gone d ∨ ∃ i, (s.port i).call = .tcpDeinit d

variable {log : List Obs} {s s' : State n} {out : List Obs} {i : Port} {p : PortState n}

lemma inv_init : Inv [] (machine n).init where
  port i :=
    { fits := .inl rfl
      lockMade := by rintro (h | h) <;> cases h
      lock := by
        intro who hwho
        cases who with
        | deinit => exact False.elim hwho
        | receiver j k =>
          obtain ⟨-, r, hr, -⟩ := hwho
          cases hr
      uart := fun t ht => by cases ht
      receiver := fun k r hr => by cases hr }
  owned :=
    { mem := by
        rintro (i | i) x hx <;> cases hx
      exclusive := by
        rintro (i | i) j x hx <;> cases hx }
  serialDeinit := by simp
  tcpDeinit := by simp

/-! ### What the context has is there -/

variable {c : Call} {d t x : Handle} {l : Option (Owner n)} {b ok : Bool} {y : Option Handle}
  {k : Fin n} {addr : Nat} {q : Place}

/-- What the context has was made for the port. -/
lemma Fits.owns {v : View} (h : Fits c v) :
    (∀ d, v.serialDesc = some d → v.serial = some d) ∧
      ∀ t, v.tcpDesc = some t → v.tcp = some t := by
  cases c <;> simp only [Fits] at h <;> aesop

lemma PortInv.receiver_eq_none (h : PortInv i p) (ht : p.tcp = none) (k : Fin n) :
    p.receiver k = none := by
  cases hk : p.receiver k with
  | none => rfl
  | some r => cases ht.symm.trans (h.receiver k r hk).desc

lemma PortInv.uart_eq_none (h : PortInv i p) (hd : p.serial = none) : p.uart = none := by
  cases hu : p.uart with
  | none => rfl
  | some t => cases hd.symm.trans (h.uart t hu).desc

lemma PortInv.runsOn_ne (h : PortInv i p) (hin : p.call.Inside) (k : Fin n) (r : Receiver)
    (d : Handle) (hk : p.receiver k = some r) : r.pc.runsOn ≠ some d := by
  intro hrun
  have hinside : Inside p.call p.receiver i (.receiver i k) := by
    refine ⟨rfl, r, hk, ?_⟩
    cases hpc : r.pc <;> simp_all [ReceiverPc.Inside]
  have hdeinit : Inside p.call p.receiver i .deinit := hin
  cases h.lock.eq hdeinit hinside

lemma PortInv.lock_call (h : PortInv i p) (hin : c.Inside → l = some .deinit)
    (hl : l = p.lockOwner ∨ p.lockOwner = none ∨ p.lockOwner = some .deinit) :
    Guarded l (Inside c p.receiver i) := by
  refine h.lock.step (i := .deinit) (fun who hwho => ?_) hin hl
  cases who with
  | deinit => exact absurd rfl hwho
  | receiver j k => exact id

/-! ### Steps within a port -/

lemma PortInv.callMove (h : PortInv i p) {m : Bool} {x : Option Handle}
    (hfits : Fits c ⟨b, p.serial, p.tcp, x, y⟩) (hmade : b = true ∨ c.NeedsLock → m = true)
    (hm : p.lockMade = true → m = true) (hin : c.Inside → l = some .deinit)
    (hl : l = p.lockOwner ∨ p.lockOwner = none ∨ p.lockOwner = some .deinit)
    (hx : x = p.serialDesc ∨ ∀ k r d, p.receiver k = some r → r.pc.runsOn ≠ some d) :
    PortInv i { p with
      call := c, initialized := b, serialDesc := x, tcpDesc := y, lockMade := m,
      lockOwner := l } where
  fits := hfits
  lockMade := hmade
  lock := h.lock_call hin hl
  uart t ht := { h.uart t ht with }
  receiver k r hk := by
    have hr := h.receiver k r hk
    refine ⟨hr.desc, hr.ctx, fun hpc => hm (hr.lockMade hpc), fun d hd => ?_⟩
    obtain rfl | hnot := hx
    · exact hr.runsOn d hd
    · exact absurd hd (hnot k r d hk)

lemma PortInv.uartMove (h : PortInv i p) {u : Option Uart}
    (hu : ∀ t, u = some t → UartInv i p t) :
    PortInv i { p with uart := u } where
  fits := h.fits
  lockMade := h.lockMade
  lock := h.lock
  uart t ht := { hu t ht with }
  receiver k r hk := { h.receiver k r hk with }

lemma PortInv.receiverMove (h : PortInv i p) {r : Option Receiver}
    (hr : ∀ x, r = some x → ReceiverInv i p x)
    (hin : ∀ x, r = some x → x.pc.Inside → l = some (.receiver i k))
    (hl : l = p.lockOwner ∨ p.lockOwner = none ∨ p.lockOwner = some (.receiver i k)) :
    PortInv i { p.setReceiver k r with lockOwner := l } where
  fits := h.fits
  lockMade := h.lockMade
  lock := by
    refine h.lock.step (i := .receiver i k) (fun who hwho hwin => ?_) (fun hwin => ?_) hl
    · cases who with
      | deinit => exact hwin
      | receiver j m =>
        obtain ⟨rfl, x, hx, hxin⟩ := hwin
        have hmk : m ≠ k := by
          rintro rfl
          exact hwho rfl
        exact ⟨rfl, x, by simpa [PortState.setReceiver, hmk] using hx, hxin⟩
    · obtain ⟨-, x, hx, hxin⟩ := hwin
      exact hin x (by simpa [PortState.setReceiver] using hx) hxin
  uart t ht := { h.uart t ht with }
  receiver m x hx := by
    have hinv : ReceiverInv i p x := by
      by_cases hmk : m = k
      · subst hmk
        exact hr x (by simpa [PortState.setReceiver] using hx)
      · exact h.receiver m x (by simpa [PortState.setReceiver, hmk] using hx)
    exact { hinv with }

lemma PortInv.tcpInit (h : PortInv i p) (hc : p.call = .tcpInit) (t : Handle) :
    PortInv i { p with tcp := some t, call := .serialInit t } := by
  have hview : p.view = ⟨false, none, none, none, none⟩ := by simpa [hc, Fits] using h.fits
  have huart : p.uart = none := h.uart_eq_none (congrArg View.serial hview)
  have hreceiver := h.receiver_eq_none (congrArg View.tcp hview)
  refine ⟨?_, fun _ => h.lockMade (.inr (by rw [hc]; trivial)), h.lock_call False.elim (.inl rfl),
    by simp [huart], by simp [hreceiver]⟩
  simp only [PortState.view, View.mk.injEq] at hview
  simp [Fits, PortState.view, hview]

lemma PortInv.serialInit (h : PortInv i p) (hc : p.call = .serialInit t) (d : Handle) :
    PortInv i { p with
      serial := some d, uart := some ⟨d, false, .waitEvent⟩, call := .setSerialDesc d t } := by
  have hview : p.view = ⟨false, none, some t, none, none⟩ := by simpa [hc, Fits] using h.fits
  refine ⟨?_, fun _ => h.lockMade (.inr (by rw [hc]; trivial)),
    h.lock_call False.elim (.inl rfl), ?_, fun k r hr => { h.receiver k r hr with }⟩
  · simp only [PortState.view, View.mk.injEq] at hview
    simp [Fits, PortState.view, hview]
  · rintro _ ⟨⟩
    exact ⟨rfl, by simp, by simp⟩

variable {tcp : Option Handle}

lemma PortInv.serialDeinit (h : PortInv i p) (hc : p.call = .serialDeinit d tcp)
    (huart : p.uart = none) : PortInv i { p with serial := none, call := .callTcpDeinit tcp } := by
  obtain ⟨t, rfl, hview⟩ : ∃ t, tcp = some t ∧ p.view = ⟨false, some d, some t, none, none⟩ := by
    simpa [hc, Fits] using h.fits
  refine ⟨⟨t, rfl, ?_⟩, fun _ => h.lockMade (.inr (by rw [hc]; trivial)),
    h.lock_call False.elim (.inl rfl), by simp [huart], fun k r hr => { h.receiver k r hr with }⟩
  simp only [PortState.view, View.mk.injEq] at hview
  simp [PortState.view, hview]

lemma PortInv.tcpDeinit (h : PortInv i p) (hc : p.call = .tcpDeinit t)
    (hreceiver : ∀ k, p.receiver k = none) : PortInv i { p with tcp := none, call := .idle } := by
  have hview : p.view = ⟨false, none, some t, none, none⟩ := by simpa [hc, Fits] using h.fits
  have hinit : p.initialized = false := congrArg View.initialized hview
  have huart : p.uart = none := h.uart_eq_none (congrArg View.serial hview)
  refine ⟨.inl ?_, ?_, h.lock_call False.elim (.inl rfl), by simp [huart], by simp [hreceiver]⟩
  · simp only [PortState.view, View.mk.injEq] at hview
    simp [PortState.view, hview]
  · rintro (hinit' | hneeds)
    · cases hinit.symm.trans hinit'
    · exact hneeds.elim

/-! ### Steps of the whole -/

@[simp]
lemma setPort_port_self (s : State n) (i : Port) (p : PortState n) :
    (s.setPort i p).port i = p := by
  simp [State.setPort]

@[simp]
lemma setPort_port_of_ne {j : Port} (hj : j ≠ i) : (s.setPort i p).port j = s.port j := by
  simp [State.setPort, hj]

@[simp]
lemma setPort_setPort (s : State n) (i : Port) (p q : PortState n) :
    (s.setPort i p).setPort i q = s.setPort i q := by
  simp [State.setPort]

lemma portInv_setPort (h : Inv log s) (hp : PortInv i p) (j : Port) :
    PortInv j ((s.setPort i p).port j) := by
  by_cases hj : j = i
  · subst hj
    simpa using hp
  · simpa [hj] using h.port j

lemma held_setPort (s : State n) (i : Port) (p : PortState n) :
    (s.setPort i p).held =
      Function.update (Function.update s.held (.serial i) p.serial) (.tcp i) p.tcp := by
  funext q
  cases q with
  | serial j | tcp j =>
    by_cases hj : j = i
    · subst hj
      simp [State.held]
    · simp [State.held, hj]

lemma held_setPort_serial (htcp : p.tcp = (s.port i).tcp) :
    (s.setPort i p).held = Function.update s.held (.serial i) p.serial := by
  rw [held_setPort, Function.update_eq_self_iff]
  simpa [State.held] using htcp

lemma held_setPort_tcp (hserial : p.serial = (s.port i).serial) :
    (s.setPort i p).held = Function.update s.held (.tcp i) p.tcp := by
  have hsame : Function.update s.held (.serial i) p.serial = s.held :=
    Function.update_eq_self_iff.2 hserial
  rw [held_setPort, hsame]

lemma call_setPort {j : Port} (hjoin : c.Joining) (hj : (s.port j).call = c)
    (hcall : p.call = (s.port i).call ∨ ¬ (s.port i).call.Joining) :
    ((s.setPort i p).port j).call = c := by
  by_cases hji : j = i
  · subst hji
    obtain hcall | hcall := hcall
    · simpa [hcall] using hj
    · exact absurd (hj ▸ hjoin) hcall
  · simpa [hji] using hj

lemma Inv.setPort (h : Inv log s) (hp : PortInv i p) (hserial : p.serial = (s.port i).serial)
    (htcp : p.tcp = (s.port i).tcp) (hcall : p.call = (s.port i).call ∨ ¬ (s.port i).call.Joining) :
    Inv log (s.setPort i p) := by
  refine ⟨portInv_setPort h hp, ?_, fun d hd => ?_, fun d hd => ?_⟩
  · have hheld : (s.setPort i p).held = s.held := by
      rw [held_setPort_serial htcp, Function.update_eq_self_iff.2 hserial]
    rw [hheld]
    exact h.owned
  · exact (h.serialDeinit d hd).imp_right fun ⟨j, t, hj⟩ => ⟨j, t, call_setPort trivial hj hcall⟩
  · exact (h.tcpDeinit d hd).imp_right fun ⟨j, hj⟩ => ⟨j, call_setPort trivial hj hcall⟩

lemma Inv.open (h : Inv log s) (hn : s.heap.Fresh addr) (hp : PortInv i p)
    (hheld : (s.setPort i p).held = Function.update s.held q (some (s.heap.newest addr)))
    (hcall : ¬ (s.port i).call.Joining) :
    Inv log { s.setPort i p with heap := s.heap.open addr hn } := by
  refine ⟨portInv_setPort h hp, ?_, fun d hd => ?_, fun d hd => ?_⟩
  · have howned := h.owned.open (i := q) hn
    rw [← hheld] at howned
    exact ⟨howned.mem, howned.exclusive⟩
  · exact (h.serialDeinit d hd).imp (·.open hn)
      fun ⟨j, t, hj⟩ => ⟨j, t, call_setPort trivial hj (.inr hcall)⟩
  · exact (h.tcpDeinit d hd).imp (·.open hn)
      fun ⟨j, hj⟩ => ⟨j, call_setPort trivial hj (.inr hcall)⟩

lemma Inv.close (h : Inv log s) (hp : PortInv i p) (hq : s.held q = some x)
    (hheld : (s.setPort i p).held = Function.update s.held q none)
    (hserial : ∀ d t, (s.port i).call = .serialDeinit d t → d = x)
    (htcp : ∀ d, (s.port i).call = .tcpDeinit d → d = x) :
    Inv log { s.setPort i p with heap := s.heap.close x.num } := by
  have hgone : (s.heap.close x.num).Gone x := Pool.gone_close (h.owned.mem hq)
  refine ⟨portInv_setPort h hp, ?_, fun d hd => ?_, fun d hd => ?_⟩
  · have howned := h.owned.close hq
    rw [← hheld] at howned
    exact ⟨howned.mem, howned.exclusive⟩
  · obtain hd | ⟨j, t, hj⟩ := h.serialDeinit d hd
    · exact .inl hd.close
    · by_cases hji : j = i
      · subst hji
        exact .inl (hserial d t hj ▸ hgone)
      · exact .inr ⟨j, t, by simpa [hji] using hj⟩
  · obtain hd | ⟨j, hj⟩ := h.tcpDeinit d hd
    · exact .inl hd.close
    · by_cases hji : j = i
      · subst hji
        exact .inl (htcp d hj ▸ hgone)
      · exact .inr ⟨j, by simpa [hji] using hj⟩

lemma Inv.append (h : Inv log s)
    (hserial : ∀ d, .serialDeinit d ∈ out → ∃ t, (s.port i).call = .serialDeinit d t)
    (htcp : ∀ d, .tcpDeinit d ∈ out → (s.port i).call = .tcpDeinit d) : Inv (log ++ out) s :=
  { h with
    serialDeinit := fun d hd => by
      obtain hd | hd := List.mem_append.1 hd
      · exact h.serialDeinit d hd
      · obtain ⟨t, ht⟩ := hserial d hd
        exact .inr ⟨i, t, ht⟩
    tcpDeinit := fun d hd => by
      obtain hd | hd := List.mem_append.1 hd
      · exact h.tcpDeinit d hd
      · exact .inr ⟨i, htcp d hd⟩ }

lemma Inv.of_silent {s₁ : State n} (hs : some (s₁, []) = some (s', out)) (h : Inv log s₁) :
    Inv (log ++ out) s' := by
  cases hs
  rw [List.append_nil]
  exact h

lemma Inv.callMove (h : Inv log s) {c : Call} {b m : Bool} {x y : Option Handle}
    {l : Option (Owner n)} (hjoin : ¬ (s.port i).call.Joining)
    (hfits : Fits c ⟨b, (s.port i).serial, (s.port i).tcp, x, y⟩)
    (hmade : b = true ∨ c.NeedsLock → m = true) (hm : (s.port i).lockMade = true → m = true)
    (hin : c.Inside → l = some .deinit)
    (hl : l = (s.port i).lockOwner ∨ (s.port i).lockOwner = none ∨
      (s.port i).lockOwner = some .deinit)
    (hx : x = (s.port i).serialDesc ∨
      ∀ k r d, (s.port i).receiver k = some r → r.pc.runsOn ≠ some d) :
    Inv log (s.setPort i { s.port i with
      call := c, initialized := b, serialDesc := x, tcpDesc := y, lockMade := m,
      lockOwner := l }) :=
  h.setPort ((h.port i).callMove hfits hmade hm hin hl hx) rfl rfl (.inr hjoin)

lemma Inv.goto (h : Inv log s) {c₀ c : Call} {b : Bool} {x y : Option Handle}
    (hc : (s.port i).call = c₀) (hneeds : c₀.NeedsLock) (hjoin : ¬ c₀.Joining)
    (hin : c.Inside → c₀.Inside) (hfits : Fits c ⟨b, (s.port i).serial, (s.port i).tcp, x, y⟩)
    (hx : x = (s.port i).serialDesc ∨
      ∀ k r d, (s.port i).receiver k = some r → r.pc.runsOn ≠ some d) :
    Inv log (s.setPort i { s.port i with
      call := c, initialized := b, serialDesc := x, tcpDesc := y }) := by
  subst hc
  exact h.callMove hjoin hfits (fun _ => (h.port i).lockMade (.inr hneeds)) id
    (fun hc => (h.port i).lock .deinit (hin hc)) (.inl rfl) hx

lemma Inv.gotoFree (h : Inv log s) {c₀ : Call} (hc : (s.port i).call = c₀)
    (hjoin : ¬ c₀.Joining) (hfree : ¬ c.NeedsLock) (hin : ¬ c.Inside)
    (hfits : Fits c (s.port i).view) : Inv log (s.setPort i { s.port i with call := c }) := by
  subst hc
  exact h.callMove hjoin hfits
    (fun hb => (h.port i).lockMade (.inl (hb.resolve_right hfree))) id
    (fun hc => absurd hc hin) (.inl rfl) (.inl rfl)

section CallStep

variable (h : Inv log s) (hs : s.callStep i ok addr = some (s', out))

include h hs

/-! #### Init -/

lemma Inv.initGuard (hc : (s.port i).call = .initGuard) : Inv (log ++ out) s' := by
  have hfits := (h.port i).fits
  simp only [State.callStep, hc, Fits] at hs hfits
  refine .of_silent hs ?_
  obtain hview | ⟨d, t, hview⟩ := hfits
  · have hinit : (s.port i).initialized = false := congrArg View.initialized hview
    rw [if_neg (by simp [hinit])]
    exact h.gotoFree hc id id id hview
  · have hinit : (s.port i).initialized = true := congrArg View.initialized hview
    rw [if_pos hinit]
    exact h.gotoFree hc id id id (.inr ⟨d, t, hview⟩)

lemma Inv.createLock (hc : (s.port i).call = .createLock) : Inv (log ++ out) s' := by
  have hfits := (h.port i).fits
  have hjoin : ¬ (s.port i).call.Joining := by rw [hc]; exact id
  simp only [State.callStep, hc, Fits] at hs hfits
  split at hs
  · rename_i hlock
    exact .of_silent hs
      (h.callMove hjoin hfits (fun _ => hlock) id False.elim (.inl rfl) (.inl rfl))
  · split at hs
    · exact .of_silent hs
        (h.callMove hjoin hfits (fun _ => rfl) (fun _ => rfl) False.elim (.inl rfl) (.inl rfl))
    · exact .of_silent hs (h.gotoFree hc id id id (.inl hfits))

lemma Inv.tcpInit (hc : (s.port i).call = .tcpInit) : Inv (log ++ out) s' := by
  have hfits := (h.port i).fits
  simp only [State.callStep, hc, Fits] at hs hfits
  split at hs
  · exact .of_silent hs (h.gotoFree hc id id id (.inl hfits))
  · obtain ⟨hfresh, hs⟩ := Option.dite_none_right_eq_some.1 hs
    exact .of_silent hs
      (h.open hfresh ((h.port i).tcpInit hc _) (held_setPort_tcp rfl) (by rw [hc]; exact id))

lemma Inv.serialInit (hc : (s.port i).call = .serialInit t) : Inv (log ++ out) s' := by
  have hfits := (h.port i).fits
  simp only [State.callStep, hc, Fits] at hs hfits
  split at hs
  · exact .of_silent hs (h.goto hc trivial id False.elim ⟨t, rfl, hfits⟩ (.inl rfl))
  · obtain ⟨hfresh, hs⟩ := Option.dite_none_right_eq_some.1 hs
    exact .of_silent hs
      (h.open hfresh ((h.port i).serialInit hc _) (held_setPort_serial rfl) (by rw [hc]; exact id))

lemma Inv.setSerialDesc (hc : (s.port i).call = .setSerialDesc d t) : Inv (log ++ out) s' := by
  have hfits := (h.port i).fits
  simp only [State.callStep, hc, Fits, PortState.view, View.mk.injEq] at hs hfits
  refine .of_silent hs (h.goto hc trivial id False.elim ⟨d, by simp [hfits]⟩ (.inr ?_))
  -- a receiver would be in `serial_send` with the descriptor that the context does not have
  intro k r d' hk hrun
  cases hfits.2.2.2.1.symm.trans (((h.port i).receiver k r hk).runsOn d' hrun)

/-! #### Deinit -/

lemma Inv.deinitGuard (hc : (s.port i).call = .deinitGuard) : Inv (log ++ out) s' := by
  have hfits := (h.port i).fits
  simp only [State.callStep, hc, Fits] at hs hfits
  split at hs
  · rename_i hinit
    obtain hview | ⟨d, t, hview⟩ := hfits
    · cases hinit.symm.trans (congrArg View.initialized hview)
    · simp only [PortState.view, View.mk.injEq] at hview
      exact .of_silent hs (h.callMove (by rw [hc]; exact id) ⟨d, t, by simp [hview]⟩
        (fun _ => (h.port i).lockMade (.inl hinit)) id False.elim (.inl rfl) (.inl rfl))
  · exact .of_silent hs (h.gotoFree hc id id id hfits)

lemma Inv.lockStep (hc : (s.port i).call = .lock) : Inv (log ++ out) s' := by
  have hfits := (h.port i).fits
  have hlock : (s.port i).lockMade = true := (h.port i).lockMade (.inr (by rw [hc]; trivial))
  simp only [State.callStep, hc, Fits] at hs hfits
  obtain ⟨p, hp, hs⟩ := Option.map_eq_some_iff.1 hs
  rw [PortState.acquire, if_neg (by simp [hlock])] at hp
  obtain ⟨hfree, hp⟩ := Option.ite_none_right_eq_some.1 hp
  cases hp
  exact .of_silent (congrArg some hs) (h.callMove (by rw [hc]; exact id) hfits (fun _ => hlock) id
    (fun _ => rfl) (.inr (.inl hfree)) (.inl rfl))

lemma Inv.unlockStep {serial : Option Handle} (hc : (s.port i).call = .unlock serial tcp) :
    Inv (log ++ out) s' := by
  have hfits := (h.port i).fits
  have hlock : (s.port i).lockMade = true := (h.port i).lockMade (.inr (by rw [hc]; trivial))
  have howner : (s.port i).lockOwner = some .deinit :=
    (h.port i).lock .deinit (by rw [Inside, hc]; trivial)
  simp only [State.callStep, hc, Fits] at hs hfits
  exact .of_silent hs (h.callMove (by rw [hc]; exact id) hfits (fun _ => hlock) id False.elim
    (.inr (.inr howner)) (.inl rfl))

lemma Inv.callSerialDeinit {serial : Option Handle}
    (hc : (s.port i).call = .callSerialDeinit serial tcp) : Inv (log ++ out) s' := by
  have hi := h.port i
  have hfits := hi.fits
  have hlock : (s.port i).lockMade = true := hi.lockMade (.inr (by rw [hc]; trivial))
  simp only [State.callStep, hc, Fits] at hs hfits
  obtain ⟨d, t, rfl, rfl, hview⟩ := hfits
  cases hs
  have huart : PortInv i { s.port i with
      uart := (s.port i).uart.map ({ · with exitReq := true }) } := by
    refine hi.uartMove fun u hu => ?_
    obtain ⟨u₀, hu₀, rfl⟩ := Option.map_eq_some_iff.1 hu
    exact { hi.uart u₀ hu₀ with }
  have hport := huart.callMove (c := .serialDeinit d (some t)) (l := (s.port i).lockOwner)
    ⟨t, rfl, hview⟩ (fun _ => hlock) id False.elim (.inl rfl) (.inl rfl)
  refine (h.setPort hport rfl rfl (.inr (by rw [hc]; exact id))).append (i := i) ?_ (by simp)
  intro d' hd'
  obtain rfl : d' = d := by simpa using hd'
  exact ⟨some t, by simp⟩

lemma Inv.serialDeinitStep (hc : (s.port i).call = .serialDeinit d tcp) :
    Inv (log ++ out) s' := by
  have hfits := (h.port i).fits
  simp only [State.callStep, hc, Fits] at hs hfits
  obtain ⟨hu, hs⟩ := Option.ite_none_left_eq_some.1 hs
  obtain ⟨t, -, hview⟩ := hfits
  have hserial : s.held (.serial i) = some d := congrArg View.serial hview
  refine .of_silent hs
    (h.close ((h.port i).serialDeinit hc (by simpa using hu)) hserial (held_setPort_serial rfl)
      ?_ ?_)
  · intro d' t' hd'
    cases hc.symm.trans hd'
    rfl
  · intro d' hd'
    cases hc.symm.trans hd'

lemma Inv.callTcpDeinit (hc : (s.port i).call = .callTcpDeinit tcp) : Inv (log ++ out) s' := by
  have hfits := (h.port i).fits
  simp only [State.callStep, hc, Fits] at hs hfits
  obtain ⟨t, rfl, hview⟩ := hfits
  cases hs
  have hmove : Inv log (s.setPort i { s.port i with call := .tcpDeinit t }) :=
    h.goto hc trivial id False.elim hview (.inl rfl)
  refine hmove.append (i := i) (by simp) fun d' hd' => ?_
  obtain rfl : d' = t := by simpa using hd'
  simp

lemma Inv.tcpDeinitStep (hc : (s.port i).call = .tcpDeinit t) : Inv (log ++ out) s' := by
  have hfits := (h.port i).fits
  simp only [State.callStep, hc, Fits] at hs hfits
  obtain ⟨hr, hs⟩ := Option.ite_none_left_eq_some.1 hs
  have htcp : s.held (.tcp i) = some t := congrArg View.tcp hfits
  have hreceiver : ∀ k, (s.port i).receiver k = none := by simpa using hr
  refine .of_silent hs
    (h.close ((h.port i).tcpDeinit hc hreceiver) htcp (held_setPort_tcp rfl) ?_ ?_)
  · intro d' t' hd'
    cases hc.symm.trans hd'
  · intro d' hd'
    cases hc.symm.trans hd'
    rfl

lemma Inv.callStep : Inv (log ++ out) s' := by
  have hfits := (h.port i).fits
  cases hc : (s.port i).call with
  | idle =>
    simp only [State.callStep, hc] at hs
    cases hs
  | initGuard => exact h.initGuard hs hc
  | createLock => exact h.createLock hs hc
  | tcpInit => exact h.tcpInit hs hc
  | serialInit t => exact h.serialInit hs hc
  | setSerialDesc d t => exact h.setSerialDesc hs hc
  | setTcpDesc t =>
    simp only [State.callStep, hc, Fits, PortState.view, View.mk.injEq] at hs hfits
    obtain ⟨d, hfits⟩ := hfits
    exact .of_silent hs (h.goto hc trivial id False.elim ⟨d, t, by simp [hfits]⟩ (.inl rfl))
  | setInitialized =>
    simp only [State.callStep, hc, Fits, PortState.view, View.mk.injEq] at hs hfits
    obtain ⟨d, t, hfits⟩ := hfits
    exact .of_silent hs (h.goto hc trivial id False.elim (.inr ⟨d, t, by simp [hfits]⟩) (.inl rfl))
  | deinitGuard => exact h.deinitGuard hs hc
  | lock => exact h.lockStep hs hc
  | clearTcpDesc =>
    simp only [State.callStep, hc, Fits, PortState.view, View.mk.injEq] at hs hfits
    obtain ⟨d, t, hfits⟩ := hfits
    exact .of_silent hs
      (h.goto hc trivial id id ⟨d, t, hfits.2.2.2.2, by simp [hfits]⟩ (.inl rfl))
  | clearSerialDesc tcp =>
    simp only [State.callStep, hc, Fits, PortState.view, View.mk.injEq] at hs hfits
    obtain ⟨d, t, htcp, hfits⟩ := hfits
    have hin : (s.port i).call.Inside := by rw [hc]; trivial
    exact .of_silent hs (h.goto hc trivial id id ⟨d, t, hfits.2.2.2.1, htcp, by simp [hfits]⟩
      (.inr ((h.port i).runsOn_ne hin)))
  | unlock serial tcp => exact h.unlockStep hs hc
  | callSerialDeinit serial tcp => exact h.callSerialDeinit hs hc
  | serialDeinit d tcp => exact h.serialDeinitStep hs hc
  | callTcpDeinit tcp => exact h.callTcpDeinit hs hc
  | tcpDeinit t => exact h.tcpDeinitStep hs hc

end CallStep

/-! ### Steps of the tasks -/

lemma Inv.eq_of_num_eq (h : Inv log s) {q' : Place} {y : Handle} (hq : s.held q = some x)
    (hq' : s.held q' = some y) (hnum : x.num = y.num) : q = q' := by
  obtain rfl := Pool.eq_of_num_eq (h.owned.mem hq) (h.owned.mem hq') hnum
  exact h.owned.exclusive hq hq'

/-- The search for a context by the number of a descriptor finds the place that holds it. -/
lemma Inv.eq_of_any (h : Inv log s) {q' : Place} {desc : Option Handle}
    (howns : ∀ y, desc = some y → s.held q = some y) (hx : s.held q' = some x)
    (hany : desc.any (·.num == x.num)) : q = q' := by
  obtain ⟨y, hy, hnum⟩ := (Option.any_eq_true _ _).1 hany
  exact h.eq_of_num_eq (howns y hy) hx (by simpa using hnum)

lemma Inv.setUart (h : Inv log s) {u : Option Uart}
    (hu : ∀ t, u = some t → UartInv i (s.port i) t) :
    Inv log (s.setPort i { s.port i with uart := u }) :=
  h.setPort ((h.port i).uartMove hu) rfl rfl (.inl rfl)

lemma Inv.uartStep (h : Inv log s) {t : Uart} (ht : (s.port i).uart = some t)
    (hs : s.uartStep i t ok = some s') : Inv log s' := by
  have hi := (h.port i).uart t ht
  -- the task has found its own context, and enters a function with what that has
  have hgoto : ∀ {pc : UartPc}, (∀ k, pc.ctx? = some k → k = i) →
      (∀ d, pc.runsOn = some d → (s.port i).tcp = some d) →
      Inv log (s.setPort i { s.port i with uart := some { t with pc } }) := by
    intro pc hctx hruns
    refine h.setUart ?_
    rintro _ ⟨⟩
    exact ⟨hi.desc, hctx, hruns⟩
  unfold State.uartStep at hs
  cases hpc : t.pc <;> simp only [hpc] at hs
  case waitEvent =>
    obtain ⟨-, hs⟩ := Option.ite_none_right_eq_some.1 hs
    cases hs
    exact h.setUart (by simp)
  case findCtx rest =>
    cases rest with
    | nil =>
      cases hs
      exact hgoto (by simp) (by simp)
    | cons k rest =>
      cases hs
      split
      · rename_i hk
        refine hgoto ?_ (by simp)
        rintro _ ⟨⟩
        exact Place.serial.inj (h.eq_of_any (h.port _).fits.owns.1 hi.desc hk)
      · exact hgoto (by simp) (by simp)
  case checkInitialized k | connected k desc =>
    have hk : k = i := hi.ctx k (by rw [hpc]; rfl)
    cases hs
    split
    · exact hgoto (by simpa using hk) (by simp)
    · exact hgoto (by simp) (by simp)
  case callConnected k | callSend k =>
    obtain rfl : k = i := hi.ctx k (by rw [hpc]; rfl)
    cases hs
    exact hgoto (by simp) fun d hd => (h.port k).fits.owns.2 d hd
  case sending desc =>
    cases hs
    exact hgoto (by simp) (by simp)

lemma Inv.setReceiver (h : Inv log s) {k : Fin n} {r : Option Receiver} {l : Option (Owner n)}
    (hr : ∀ x, r = some x → ReceiverInv i (s.port i) x)
    (hin : ∀ x, r = some x → x.pc.Inside → l = some (.receiver i k))
    (hl : l = (s.port i).lockOwner ∨ (s.port i).lockOwner = none ∨
      (s.port i).lockOwner = some (.receiver i k)) :
    Inv log (s.setPort i { (s.port i).setReceiver k r with lockOwner := l }) :=
  h.setPort ((h.port i).receiverMove hr hin hl) rfl rfl (.inl rfl)

lemma Inv.receiverStep (h : Inv log s) {r : Receiver} {client : Bool}
    (hr : (s.port i).receiver k = some r) (hs : s.receiverStep i k r client = some s') :
    Inv log s' := by
  have hi := (h.port i).receiver k r hr
  have hlock : r.pc.Inside → (s.port i).lockOwner = some (.receiver i k) :=
    fun hpc => (h.port i).lock (.receiver i k) ⟨rfl, r, hr, hpc⟩
  -- the receiver has found its own context
  have hgoto : ∀ {c : ReceiverPc} {l : Option (Owner n)}, (∀ j, c.ctx? = some j → j = i) →
      (c.NeedsLock → (s.port i).lockMade = true) →
      (∀ d, c.runsOn = some d → (s.port i).serialDesc = some d) →
      (c.Inside → l = some (.receiver i k)) →
      (l = (s.port i).lockOwner ∨ (s.port i).lockOwner = none ∨
        (s.port i).lockOwner = some (.receiver i k)) →
      Inv log (s.setPort i
        { (s.port i).setReceiver k (some { r with pc := c }) with lockOwner := l }) := by
    intro c l hctx hneeds hruns hin hl
    refine h.setReceiver ?_ ?_ hl
    · rintro _ ⟨⟩
      exact ⟨hi.desc, hctx, hneeds, hruns⟩
    · rintro _ ⟨⟩
      exact hin
  -- and is not on the way to the serial port
  have hback : ∀ {c : ReceiverPc}, (∀ j, c.ctx? = some j → j = i) → ¬ c.NeedsLock →
      c.runsOn = none → ¬ c.Inside → Inv log (s.setReceiver i k (some { r with pc := c })) :=
    fun hctx hneeds hruns hin => hgoto (l := (s.port i).lockOwner) hctx (absurd · hneeds)
      (by rw [hruns]; simp) (absurd · hin) (.inl rfl)
  have hmine : ∀ {j : Port}, r.pc.ctx? = some j → j = i := fun hj => hi.ctx _ hj
  unfold State.receiverStep at hs
  cases hpc : r.pc <;> simp only [hpc] at hs hlock hmine
  case recv =>
    cases hs
    exact h.setReceiver (l := (s.port i).lockOwner) (by simp) (by simp) (.inl rfl)
  case findCtx rest =>
    cases rest with
    | nil =>
      cases hs
      exact hback (by simp) id rfl id
    | cons j rest =>
      cases hs
      split
      · rename_i hj
        refine hback ?_ id rfl id
        rintro _ ⟨⟩
        exact Place.tcp.inj (h.eq_of_any (h.port _).fits.owns.2 hi.desc hj)
      · exact hback (by simp) id rfl id
  case checkInitialized j =>
    obtain rfl := hmine rfl
    cases hs
    split
    · rename_i hinit
      have hinit := (Bool.and_eq_true_iff.1 hinit).1
      exact hgoto (l := (s.port j).lockOwner) (by simp) (fun _ => (h.port j).lockMade (.inl hinit))
        (by simp) False.elim (.inl rfl)
    · exact hback (by simp) id rfl id
  case lock j =>
    obtain rfl := hmine rfl
    have hmade : (s.port j).lockMade = true := hi.lockMade (by rw [hpc]; trivial)
    obtain ⟨p, hp, hs⟩ := Option.map_eq_some_iff.1 hs
    cases hs
    rw [PortState.acquire, if_neg (by simp [hmade])] at hp
    obtain ⟨hfree, hp⟩ := Option.ite_none_right_eq_some.1 hp
    cases hp
    rw [State.setReceiver, setPort_setPort, setPort_port_self]
    exact hgoto (by simp) (fun _ => hmade) (by simp) (fun _ => rfl) (.inr (.inl hfree))
  case read j =>
    obtain rfl := hmine rfl
    have hmade : (s.port j).lockMade = true := hi.lockMade (by rw [hpc]; trivial)
    cases hs
    refine hgoto (l := (s.port j).lockOwner) ?_ (fun _ => hmade) ?_ (fun _ => hlock trivial)
      (.inl rfl)
    · cases (s.port j).serialDesc <;> simp
    · cases (s.port j).serialDesc <;> simp
  case sending j d =>
    obtain rfl := hmine rfl
    have hmade : (s.port j).lockMade = true := hi.lockMade (by rw [hpc]; trivial)
    cases hs
    exact hgoto (l := (s.port j).lockOwner) (by simp) (fun _ => hmade) (by simp)
      (fun _ => hlock trivial) (.inl rfl)
  case unlock j =>
    obtain rfl := hmine rfl
    cases hs
    rw [State.setReceiver, setPort_setPort, setPort_port_self]
    exact hgoto (by simp) False.elim (by simp) False.elim (.inr (.inr (hlock trivial)))

lemma Inv.step (h : Inv log s) {e : Event n} (hs : s.step e = some (s', out)) :
    Inv (log ++ out) s' := by
  have hbegin : ∀ {i : Port} {c : Call}, (s.port i).call = .idle →
      c = .initGuard ∨ c = .deinitGuard →
      Inv log (s.setPort i { s.port i with call := c }) := by
    intro i c hidle hc
    have hfits := (h.port i).fits
    rw [hidle] at hfits
    obtain rfl | rfl := hc <;> exact h.gotoFree hidle id id id hfits
  -- a receiver that has not looked for its context
  have hfresh : ∀ {i : Port} {k : Fin n} {tcp : Handle} {c : ReceiverPc},
      (s.port i).tcp = some tcp → c.ctx? = none → ¬ c.NeedsLock → c.runsOn = none → ¬ c.Inside →
      Inv log (s.setReceiver i k (some ⟨tcp, c⟩)) := by
    intro i k tcp c htcp hctx hneeds hruns hin
    refine h.setReceiver (l := (s.port i).lockOwner) ?_ ?_ (.inl rfl)
    · rintro _ ⟨⟩
      exact ⟨htcp, by rw [hctx]; simp, (absurd · hneeds), by rw [hruns]; simp⟩
    · rintro _ ⟨⟩
      exact (absurd · hin)
  cases e with
  | initPort i =>
    obtain ⟨hidle, hs⟩ := Option.ite_none_right_eq_some.1 hs
    exact .of_silent hs (hbegin hidle (.inl rfl))
  | deinitPort i =>
    obtain ⟨hidle, hs⟩ := Option.ite_none_right_eq_some.1 hs
    exact .of_silent hs (hbegin hidle (.inr rfl))
  | call i ok addr => exact h.callStep hs
  | serialData i =>
    obtain ⟨t, ht, hs⟩ := Option.bind_eq_some_iff.1 hs
    obtain ⟨-, hs⟩ := Option.ite_none_right_eq_some.1 hs
    refine .of_silent hs (h.setUart ?_)
    rintro _ ⟨⟩
    exact ⟨((h.port i).uart t ht).desc, by simp, by simp⟩
  | uart i ok =>
    obtain ⟨s₁, hs₁, hs⟩ := Option.map_eq_some_iff.1 hs
    obtain ⟨t, ht, hs₁⟩ := Option.bind_eq_some_iff.1 hs₁
    exact .of_silent (congrArg some hs) (h.uartStep ht hs₁)
  | accept i k =>
    obtain ⟨tcp, htcp, hs⟩ := Option.bind_eq_some_iff.1 hs
    obtain ⟨-, hs⟩ := Option.ite_none_right_eq_some.1 hs
    exact .of_silent hs (hfresh htcp rfl id rfl id)
  | tcpData i k =>
    obtain ⟨r, hr, hs⟩ := Option.bind_eq_some_iff.1 hs
    obtain ⟨-, hs⟩ := Option.ite_none_right_eq_some.1 hs
    exact .of_silent hs (hfresh ((h.port i).receiver k r hr).desc rfl id rfl id)
  | receiver i k client =>
    obtain ⟨s₁, hs₁, hs⟩ := Option.map_eq_some_iff.1 hs
    obtain ⟨r, hr, hs₁⟩ := Option.bind_eq_some_iff.1 hs₁
    exact .of_silent (congrArg some hs) (h.receiverStep hr hs₁)

lemma inv_of_run (h : (machine n).Run Machine.anyStep log s) : Inv log s :=
  Machine.Run.invariant (P := Inv) inv_init (fun _ hinv _ hs => hinv.step hs) h

/-! ### What the tasks run on -/

lemma Inv.tcpDeinit_notMem (h : Inv log s) {t : Uart} (ht : (s.port i).uart = some t)
    (hd : t.pc.runsOn = some d) : Obs.tcpDeinit d ∉ log := by
  intro hlog
  have hi := (h.port i).uart t ht
  have hheld : s.held (.tcp i) = some d := hi.runsOn d hd
  obtain hgone | ⟨j, hj⟩ := h.tcpDeinit d hlog
  · exact hgone.1 (h.owned.mem hheld)
  -- `serial_deinit` has returned, so that the task is gone
  have hview := (h.port j).fits
  rw [hj] at hview
  have hheld' : s.held (.tcp j) = some d := congrArg View.tcp hview
  cases h.owned.exclusive hheld hheld'
  cases hi.desc.symm.trans (congrArg View.serial hview)

lemma Inv.serialDeinit_notMem (h : Inv log s) {r : Receiver}
    (hr : (s.port i).receiver k = some r) (hd : r.pc.runsOn = some d) :
    Obs.serialDeinit d ∉ log := by
  intro hlog
  have hdesc := ((h.port i).receiver k r hr).runsOn d hd
  have hheld : s.held (.serial i) = some d := (h.port i).fits.owns.1 d hdesc
  obtain hgone | ⟨j, t, hj⟩ := h.serialDeinit d hlog
  · exact hgone.1 (h.owned.mem hheld)
  -- the descriptor was taken out of the context, which still has it
  have hview := (h.port j).fits
  rw [hj] at hview
  obtain ⟨_, -, hview⟩ := hview
  have hheld' : s.held (.serial j) = some d := congrArg View.serial hview
  cases h.owned.exclusive hheld hheld'
  cases hdesc.symm.trans (congrArg View.serialDesc hview)

end Invariant

/-- In every run, with `n` receivers per port: a UART task that is in `tcp_connected_func` or
`tcp_send_func` is there with the TCP descriptor of its own port, which was not handed to
`tcp_deinit_func` and has another address than the one of the other port. A receiver that is in
`serial_send` is there with the serial descriptor of its own port, which was not handed to
`serial_deinit` and has another address than the one of the other port. -/
theorem transparent_teardown (n : Nat) (log : List Obs) (s : State n)
    (h : (machine n).Run Machine.anyStep log s) :
    (∀ i t d, (s.port i).uart = some t → t.pc.runsOn = some d →
      Obs.tcpDeinit d ∉ log ∧ (s.port i).tcp = some d ∧
        ∀ j x, j ≠ i → (s.port j).tcp = some x → x.num ≠ d.num) ∧
    (∀ i k r d, (s.port i).receiver k = some r → r.pc.runsOn = some d →
      Obs.serialDeinit d ∉ log ∧ (s.port i).serial = some d ∧
        ∀ j x, j ≠ i → (s.port j).serial = some x → x.num ≠ d.num) := by
  have hinv := inv_of_run h
  constructor
  · intro i t d ht hd
    have htcp : s.held (.tcp i) = some d := ((hinv.port i).uart t ht).runsOn d hd
    refine ⟨hinv.tcpDeinit_notMem ht hd, htcp, fun j x hne hx hnum => hne ?_⟩
    have hplace : Place.tcp j = .tcp i := hinv.eq_of_num_eq hx htcp hnum
    exact Place.tcp.inj hplace
  · intro i k r d hr hd
    have hdesc := ((hinv.port i).receiver k r hr).runsOn d hd
    have hserial : s.held (.serial i) = some d := (hinv.port i).fits.owns.1 d hdesc
    refine ⟨hinv.serialDeinit_notMem hr hd, hserial, fun j x hne hx hnum => hne ?_⟩
    have hplace : Place.serial j = .serial i := hinv.eq_of_num_eq hx hserial hnum
    exact Place.serial.inj hplace

/-- `transparent_tcp_init_port` of a port, which gets the addresses 100 and 200. -/
def portInit (i : Port) : List (Event 1) :=
  [.initPort i, .call i true 0, .call i true 0, .call i true 100, .call i true 200] ++
    List.replicate 3 (.call i true 0)

/-- Port 0 was torn down and port 1 got its addresses. A receiver of port 1 is in `serial_send` and
its UART task in `tcp_send_func` while `transparent_tcp_deinit_port` waits for the lock. -/
theorem transparent_teardown_reused :
    ∃ log s, (machine 1).Run Machine.anyStep log s ∧ (s.port 1).call = .lock ∧
      Obs.serialDeinit ⟨1, 200⟩ ∈ log ∧ Obs.serialDeinit ⟨3, 200⟩ ∉ log ∧
      Obs.tcpDeinit ⟨0, 100⟩ ∈ log ∧ Obs.tcpDeinit ⟨2, 100⟩ ∉ log ∧
      (s.port 1).serial = some ⟨3, 200⟩ ∧ (s.port 1).tcp = some ⟨2, 100⟩ := by
  obtain ⟨log, s, hrun, hcall, hserial, htcp, huart, hreceiver⟩ :=
    Machine.Run.exists_of_exec (machine 1) Machine.anyStep
      (List.flatten [portInit 0,
        -- the UART task is told to end and does
        [.deinitPort 0], List.replicate 6 (.call 0 true 0), [.uart 0 true],
        List.replicate 3 (.call 0 true 0), portInit 1,
        [.accept 1 0, .tcpData 1 0], List.replicate 5 (.receiver 1 0 true),
        [.serialData 1], List.replicate 6 (.uart 1 true), [.deinitPort 1, .call 1 true 0]])
      (fun log s => (s.port 1).call = .lock ∧ Obs.serialDeinit ⟨1, 200⟩ ∈ log ∧
        Obs.tcpDeinit ⟨0, 100⟩ ∈ log ∧
        (s.port 1).uart = some ⟨⟨3, 200⟩, false, .sending (some ⟨2, 100⟩)⟩ ∧
        (s.port 1).receiver 0 = some ⟨⟨2, 100⟩, .sending 1 ⟨3, 200⟩⟩)
      (by decide +kernel)
  obtain ⟨huarts, hreceivers⟩ := transparent_teardown 1 log s hrun
  obtain ⟨htcpOut, htcpOwn, -⟩ := huarts 1 _ _ huart rfl
  obtain ⟨hserialOut, hserialOwn, -⟩ := hreceivers 1 0 _ _ hreceiver rfl
  exact ⟨log, s, hrun, hcall, hserial, hserialOut, htcp, htcpOut, hserialOwn, htcpOwn⟩

end WbMge.Transparent
