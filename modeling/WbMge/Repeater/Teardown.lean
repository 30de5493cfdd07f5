import Mathlib.Algebra.Order.BigOperators.Group.Finset
import WbMge.ToMathlib.Handles
import WbMge.ToMathlib.Machine

/-!
# The teardown of the repeater

The repeater forwards what one port receives to the other one. `repeater_rx_handler` runs in the
UART task of the port that receives and calls `serial_send` with the descriptor of the other port,
without a lock. What keeps the descriptor alive is the count of the sends into a port:
`repeater_deinit_port` takes the descriptor away from the handlers, waits until the count is zero
and then calls `serial_deinit`, which waits for the UART task to end and frees the descriptor.

The calls for one port follow each other. An address that was freed may be given out again, to
either port. The reports to `rs485_busy_monitor` and `s_active_since_us` are left out.
-/

namespace WbMge.Repeater

open Handles

/-! ## The model -/

/-- An index below `BRIDGES_COUNT`. -/
abbrev Port := Fin 2

def peer (index : Port) : Port := if index = 0 then 1 else 0

/-- What a UART task calls: the handler of received bytes or of lost ones, with their number. -/
inductive Job where
  | rx (len : Nat)
  | drop (len : Nat)
deriving Repr, DecidableEq

inductive UartPc where
  | waitEvent
  /-- `find_index_by_serial_desc`, with the ports that it has not looked at. -/
  | findIndex (rest : List Port) (job : Job)
  /-- The section of `repeater_drop_handler`. -/
  | count (index : Port) (len : Nat)
  /-- The first section of `repeater_rx_handler`. -/
  | register (index : Port) (len : Nat)
  /-- The call of `serial_send`. -/
  | send (index : Port) (peerDesc : Handle) (len : Nat)
  /-- In `serial_send`. -/
  | sending (index : Port) (peerDesc : Handle) (len : Nat)
  | finish (index : Port) (len : Nat) (ok : Bool)
deriving Repr, DecidableEq

structure Uart where
  desc : Handle
  exitReq : Bool
  pc : UartPc
deriving Repr, DecidableEq

/-- Where the call for a port is. -/
inductive Call where
  | idle
  /-- The guard of `repeater_init_port`. -/
  | initGuard
  | serialInit
  /-- The section of `repeater_init_port`. -/
  | publish (desc : Handle)
  /-- The section of `repeater_deinit_port`. -/
  | withdraw
  | drain (desc : Handle)
  /-- In `serial_deinit`. -/
  | serialDeinit (desc : Handle)
deriving Repr, DecidableEq

/-- The contexts of the repeater and their tasks. -/
structure State where
  heap : Pool
  ctx : Port → Option Handle
  inflight : Port → Nat
  bytes : Port → UInt64
  dropped : Port → UInt64
  activeCount : Nat
  call : Port → Call
  uart : Port → Option Uart

inductive Obs where
  | serialSend (desc : Handle)
  | serialDeinit (desc : Handle)
deriving Repr, DecidableEq

inductive Event where
  | initPort (index : Port)
  | deinitPort (index : Port)
  /-- The next operation of the call for a port, with the result of `serial_init` and the address
  that it gets. -/
  | call (index : Port) (ok : Bool) (addr : Nat)
  | receive (port : Port) (job : Job)
  /-- The next operation of a UART task, with `serial_tx_disabled` or the result of
  `serial_send`. -/
  | uart (port : Port) (flag : Bool)
deriving Repr, DecidableEq

namespace State

def setCall (s : State) (i : Port) (c : Call) : State :=
  { s with call := Function.update s.call i c }

def setUart (s : State) (i : Port) (t : Option Uart) : State :=
  { s with uart := Function.update s.uart i t }

def addDropped (s : State) (i : Port) (len : Nat) : State :=
  { s with dropped := Function.update s.dropped i (s.dropped i + UInt64.ofNat len) }

def addBytes (s : State) (i : Port) (len : Nat) : State :=
  { s with bytes := Function.update s.bytes i (s.bytes i + UInt64.ofNat len) }

def setInflight (s : State) (i : Port) (n : Nat) : State :=
  { s with inflight := Function.update s.inflight i n }

def setCtx (s : State) (i : Port) (desc : Option Handle) : State :=
  { s with ctx := Function.update s.ctx i desc }

/-- The section of `repeater_init_port`. -/
def publish (s : State) (i : Port) (desc : Handle) : State :=
  let s := if s.activeCount = 0 then { s with bytes := fun _ => 0, dropped := fun _ => 0 } else s
  { s.setCtx i (some desc) with activeCount := s.activeCount + 1 }

/-- The next operation of `repeater_init_port` or `repeater_deinit_port`. -/
def callStep (s : State) (i : Port) (ok : Bool) (addr : Nat) : Option (State × List Obs) :=
  match s.call i with
  | .idle => none
  | .initGuard =>
    some (s.setCall i (if (s.ctx i).isSome then .idle else .serialInit), [])
  | .serialInit =>
    if !ok then some (s.setCall i .idle, [])
    else if h : s.heap.Fresh addr then
      let desc := s.heap.newest addr
      some ({ (s.setUart i (some ⟨desc, false, .waitEvent⟩)).setCall i (.publish desc) with
        heap := s.heap.open addr h }, [])
    else none
  | .publish desc => some ((s.publish i desc).setCall i .idle, [])
  | .withdraw =>
    some (((s.ctx i).elim (s.setCall i .idle) fun desc =>
      { (s.setCtx i none).setCall i (.drain desc) with activeCount := s.activeCount - 1 }), [])
  | .drain desc =>
    -- a poll of `repeater_inflight_count`
    if 0 < s.inflight i then some (s, [])
    else some ((s.setUart i ((s.uart i).map ({ · with exitReq := true }))).setCall i
      (.serialDeinit desc), [.serialDeinit desc])
  | .serialDeinit desc =>
    if (s.uart i).isSome then none
    else some ({ s.setCall i .idle with heap := s.heap.close desc.num }, [])

/-- The next operation of the UART task of port `i`, which is `t`. -/
def taskStep (s : State) (i : Port) (t : Uart) (flag : Bool) : Option (State × List Obs) :=
  let goto (s : State) (pc : UartPc) : State := s.setUart i (some { t with pc })
  match t.pc with
  | .waitEvent => if t.exitReq then some (s.setUart i none, []) else none
  | .findIndex [] _ => some (goto s .waitEvent, [])
  | .findIndex (k :: rest) job =>
    if (s.ctx k).any (·.num == t.desc.num) then
      match job with
      | .rx len => some (goto s (.register k len), [])
      | .drop len => some (goto s (.count k len), [])
    else some (goto s (.findIndex rest job), [])
  | .count index len => some (goto (s.addDropped index len) .waitEvent, [])
  | .register index len =>
    match s.ctx (peer index) with
    | none => some (goto (s.addDropped index len) .waitEvent, [])
    | some peerDesc =>
      if flag then some (goto (s.addDropped index len) .waitEvent, [])
      else some (goto (s.setInflight (peer index) (s.inflight (peer index) + 1))
        (.send index peerDesc len), [])
  | .send index peerDesc len => some (goto s (.sending index peerDesc len), [.serialSend peerDesc])
  | .sending index _ len => some (goto s (.finish index len flag), [])
  | .finish index len ok =>
    let s := s.setInflight (peer index) (s.inflight (peer index) - 1)
    some (goto (if ok then s.addBytes index len else s.addDropped index len) .waitEvent, [])

def step (s : State) : Event → Option (State × List Obs)
  | .initPort i => if s.call i = .idle then some (s.setCall i .initGuard, []) else none
  | .deinitPort i => if s.call i = .idle then some (s.setCall i .withdraw, []) else none
  | .call i ok addr => s.callStep i ok addr
  | .receive i job =>
    (s.uart i).bind fun t =>
      if t.pc = .waitEvent then
        some (s.setUart i (some { t with pc := .findIndex [0, 1] job }), [])
      else none
  | .uart i flag => (s.uart i).bind fun t => s.taskStep i t flag

end State

def machine : Machine State Event Obs where
  init :=
    { heap := .empty
      ctx := fun _ => none
      inflight := fun _ => 0
      bytes := fun _ => 0
      dropped := fun _ => 0
      activeCount := 0
      call := fun _ => .idle
      uart := fun _ => none }
  step := State.step

/-! ## What is said about it -/

def UartPc.target : UartPc → Option Port
  | .send index _ _ | .sending index _ _ | .finish index _ _ => some (peer index)
  | .waitEvent | .findIndex _ _ | .count _ _ | .register _ _ => none

/-- The descriptor with which the handler enters `serial_send`, or is in it. -/
def UartPc.sendsOn : UartPc → Option Handle
  | .send _ peerDesc _ | .sending _ peerDesc _ => some peerDesc
  | .waitEvent | .findIndex _ _ | .count _ _ | .register _ _ | .finish _ _ _ => none

/-- The ports that the UART tasks send to. -/
def State.targets (s : State) : Holding Port Port := fun j => (s.uart j).bind (·.pc.target)

/-- No call and no forwarding is under way. -/
def State.Quiet (s : State) : Prop :=
  ∀ i, s.call i = .idle ∧ ∀ t ∈ s.uart i, t.pc = .waitEvent

/-- A step of what is under way. -/
def Event.Internal : Event → Prop
  | .call _ _ _ | .uart _ _ => True
  | .initPort _ | .deinitPort _ | .receive _ _ => False

/-! ## The invariant -/

def Call.desc? : Call → Option Handle
  | .publish desc | .drain desc | .serialDeinit desc => some desc
  | .idle | .initGuard | .serialInit | .withdraw => none

def Call.Off : Call → Prop
  | .serialInit | .publish _ | .drain _ | .serialDeinit _ => True
  | .idle | .initGuard | .withdraw => False

/-- The descriptors of the ports, from `serial_init` to the end of `serial_deinit`. -/
def State.held (s : State) : Holding Port Handle := fun i => (s.ctx i).or (s.call i).desc?

structure Inv (log : List Obs) (s : State) : Prop where
  ctx : ∀ i, (s.call i).Off → s.ctx i = none
  owned : Owned s.heap s.held
  uart : ∀ i, s.held i = none → s.uart i = none
  exitReq : ∀ i d, s.call i = .serialDeinit d → ∀ t ∈ s.uart i, t.exitReq = true
  sends : ∀ j, ∀ t ∈ s.uart j, ∀ d, t.pc.sendsOn = some d →
    ∃ i, t.pc.target = some i ∧ (s.ctx i = some d ∨ s.call i = .drain d)
  inflight : ∀ i, s.inflight i = s.targets.count i
  deinit : ∀ d, Obs.serialDeinit d ∈ log → s.heap.Gone d ∨ ∃ i, s.call i = .serialDeinit d

variable {log : List Obs} {s s' : State} {out : List Obs} {i : Port}

lemma inv_init : Inv [] machine.init where
  ctx _ _ := rfl
  owned :=
    { mem := by simp [State.held, machine, Call.desc?]
      exclusive := by simp [Holding.Exclusive, State.held, machine, Call.desc?] }
  uart _ _ := rfl
  exitReq := by simp [machine]
  sends := by simp [machine]
  inflight _ := by simp [Holding.count, State.targets, machine]
  deinit := by simp

variable {t : Uart} {d : Handle} {c : Call} {addr : Nat}

lemma Inv.serialDeinit_notMem (h : Inv log s) {j : Port} (ht : s.uart j = some t)
    (hd : t.pc.sendsOn = some d) : Obs.serialDeinit d ∉ log := by
  intro hlog
  obtain ⟨i, -, hi⟩ := h.sends j t ht d hd
  have hheld : s.held i = some d := by
    obtain hi | hi := hi
    · simp [State.held, hi]
    · simp [State.held, hi, h.ctx i (by rw [hi]; trivial), Call.desc?]
  obtain hgone | ⟨k, hk⟩ := h.deinit d hlog
  · exact hgone.1 (h.owned.mem hheld)
  -- the port that is torn down would be the one of the send, which is not that far
  have hheld' : s.held k = some d := by
    simp [State.held, hk, h.ctx k (by rw [hk]; trivial), Call.desc?]
  obtain rfl := h.owned.exclusive hheld hheld'
  obtain hi | hi := hi
  · rw [h.ctx i (by rw [hk]; trivial)] at hi
    cases hi
  · rw [hk] at hi
    cases hi

/-! ### The UART tasks -/

def UartPc.work : UartPc → Nat
  | .waitEvent => 0
  | .count _ _ => 1
  | .finish _ _ _ => 1
  | .sending _ _ _ => 2
  | .send _ _ _ => 3
  | .register _ _ => 4
  | .findIndex rest _ => 5 + rest.length

inductive TaskStep (s : State) (i : Port) (t : Uart) : State → List Obs → Prop
  | exit : t.pc = .waitEvent → t.exitReq = true → TaskStep s i t (s.setUart i none) []
  | goto (pc : UartPc) (bytes dropped : Port → UInt64) (out : List Obs) :
      pc.target = t.pc.target → (∀ d, pc.sendsOn = some d → t.pc.sendsOn = some d) →
      pc.work < t.pc.work → (∀ d, .serialDeinit d ∉ out) →
      TaskStep s i t { s.setUart i (some { t with pc }) with bytes, dropped } out
  | register (index : Port) (peerDesc : Handle) (len : Nat) :
      t.pc = .register index len → s.ctx (peer index) = some peerDesc →
      TaskStep s i t
        ((s.setInflight (peer index) (s.inflight (peer index) + 1)).setUart i
          (some { t with pc := .send index peerDesc len })) []
  | finish (index : Port) (len : Nat) (ok : Bool) (bytes dropped : Port → UInt64) :
      t.pc = .finish index len ok →
      TaskStep s i t
        { (s.setInflight (peer index) (s.inflight (peer index) - 1)).setUart i
          (some { t with pc := .waitEvent }) with bytes, dropped } []

lemma taskStep_cases {flag : Bool} (hs : s.taskStep i t flag = some (s', out)) :
    TaskStep s i t s' out := by
  simp only [State.taskStep] at hs
  repeat' split at hs
  all_goals cases hs
  all_goals first
    | exact .exit ‹_› ‹_›
    | exact .register _ _ _ ‹_› ‹_›
    | exact .finish _ _ _ _ _ ‹_›
    | exact .goto _ _ _ _ (by simp only [‹t.pc = _›, UartPc.target])
        (by simp [‹t.pc = _›, UartPc.sendsOn]) (by simp [‹t.pc = _›, UartPc.work]; try omega)
        (by simp)

/-- A step of the task or of a call of port `i`. -/
lemma Inv.portStep (h : Inv log s) {x : Option Handle} {c : Call} {u : Option Uart}
    (hctx : s'.ctx = Function.update s.ctx i x) (hcall : s'.call = Function.update s.call i c)
    (huart : s'.uart = Function.update s.uart i u)
    (howned : Owned s'.heap (Function.update s.held i (x.or c.desc?)))
    (hoff : c.Off → x = none) (hnone : x.or c.desc? = none → u = none)
    (hexit : ∀ d, c = .serialDeinit d → ∀ t ∈ u, t.exitReq = true)
    (hsends : ∀ t ∈ u, ∀ d, t.pc.sendsOn = some d →
      ∃ k, t.pc.target = some k ∧ (s.ctx k = some d ∨ s.call k = .drain d))
    (hkeep : ∀ d, 0 < s'.inflight i → s.ctx i = some d ∨ s.call i = .drain d →
      x = some d ∨ c = .drain d)
    (hinflight : ∀ k, s'.inflight k =
      Holding.count (Function.update s.targets i (u.bind (·.pc.target))) k)
    (hgone : ∀ d, s.heap.Gone d → s'.heap.Gone d)
    (hdeinit : ∀ d, s.call i = .serialDeinit d → s'.heap.Gone d ∨ c = .serialDeinit d) :
    Inv log s' := by
  have htargets : s'.targets = Function.update s.targets i (u.bind (·.pc.target)) := by
    funext j
    by_cases hj : j = i
    · subst hj
      simp [State.targets, huart]
    · simp [State.targets, huart, hj]
  have hheld : s'.held = Function.update s.held i (x.or c.desc?) := by
    funext j
    by_cases hj : j = i
    · subst hj
      simp [State.held, hctx, hcall]
    · simp [State.held, hctx, hcall, hj]
  rw [← htargets] at hinflight
  rw [← hheld] at howned
  refine ⟨fun j => ?_, howned, fun j => ?_, fun j => ?_, fun j t ht d hd => ?_, hinflight,
    fun d hd => ?_⟩
  · by_cases hj : j = i
    · subst hj
      simpa [hctx, hcall] using hoff
    · simpa [hctx, hcall, hj] using h.ctx j
  · by_cases hj : j = i
    · subst hj
      simpa [hheld, huart] using hnone
    · simpa [hheld, huart, hj] using h.uart j
  · by_cases hj : j = i
    · subst hj
      simpa [hcall, huart] using hexit
    · simpa [hcall, huart, hj] using h.exitReq j
  · obtain ⟨k, hk, hd'⟩ : ∃ k, t.pc.target = some k ∧ (s.ctx k = some d ∨ s.call k = .drain d) := by
      by_cases hj : j = i
      · subst hj
        exact hsends t (by simpa [huart] using ht) d hd
      · exact h.sends j t (by simpa [huart, hj] using ht) d hd
    refine ⟨k, hk, ?_⟩
    by_cases hki : k = i
    · subst hki
      have ht' : s'.uart j = some t := ht
      have hcount : 0 < s'.inflight k := by
        rw [hinflight]
        exact Holding.count_pos (i := j) (by simp [State.targets, ht', hk])
      simpa [hctx, hcall] using hkeep d hcount hd'
    · simpa [hctx, hcall, hki] using hd'
  · obtain hd | ⟨k, hk⟩ := h.deinit d hd
    · exact .inl (hgone d hd)
    · by_cases hki : k = i
      · subst hki
        exact (hdeinit d hk).imp_right fun hc => ⟨k, by simp [hcall, hc]⟩
      · exact .inr ⟨k, by simpa [hcall, hki] using hk⟩

lemma Inv.uartStep (h : Inv log s) {u : Option Uart} {inflight : Port → Nat}
    {bytes dropped : Port → UInt64} (hi : s.uart i = none → u = none)
    (hexit : ∀ d, s.call i = .serialDeinit d → ∀ t ∈ u, t.exitReq = true)
    (hsends : ∀ t ∈ u, ∀ d, t.pc.sendsOn = some d →
      ∃ k, t.pc.target = some k ∧ (s.ctx k = some d ∨ s.call k = .drain d))
    (hinflight : ∀ k, inflight k =
      Holding.count (Function.update s.targets i (u.bind (·.pc.target))) k) :
    Inv log { s.setUart i u with inflight, bytes, dropped } := by
  refine h.portStep (x := s.ctx i) (c := s.call i) ?_ ?_ rfl ?_ (h.ctx i)
    (fun hheld => hi (h.uart i hheld)) hexit hsends (fun _ _ => id) hinflight (fun _ => id)
    fun _ => .inr
  · exact (Function.update_eq_self i s.ctx).symm
  · exact (Function.update_eq_self i s.call).symm
  · have hheld : Function.update s.held i ((s.ctx i).or (s.call i).desc?) = s.held :=
      Function.update_eq_self i s.held
    rw [hheld]
    exact h.owned

lemma Inv.gotoPc (h : Inv log s) {t : Uart} (ht : s.uart i = some t) {pc : UartPc}
    {bytes dropped : Port → UInt64}
    (hsends : ∀ d, pc.sendsOn = some d →
      ∃ k, pc.target = some k ∧ (s.ctx k = some d ∨ s.call k = .drain d))
    (htarget : pc.target = t.pc.target) :
    Inv log { s.setUart i (some { t with pc }) with bytes, dropped } := by
  have hupdate : Function.update s.targets i pc.target = s.targets := by
    rw [htarget]
    refine Function.update_eq_self_iff.2 ?_
    simp [State.targets, ht]
  refine h.uartStep (by simp [ht]) ?_ ?_ ?_
  · rintro d hd _ ⟨⟩
    exact h.exitReq i d hd t ht
  · rintro _ ⟨⟩
    exact hsends
  · exact fun k => (h.inflight k).trans (congrArg (Holding.count · k) hupdate).symm

lemma Inv.taskStep (h : Inv log s) (ht : s.uart i = some t) (hs : TaskStep s i t s' out) :
    Inv log s' ∧ ∀ d, Obs.serialDeinit d ∉ out := by
  have htarget : s.targets i = t.pc.target := by simp [State.targets, ht]
  have hexit : ∀ (pc : UartPc) d, s.call i = .serialDeinit d →
      ∀ t' ∈ some { t with pc }, t'.exitReq = true := by
    rintro pc d hd _ ⟨⟩
    exact h.exitReq i d hd t ht
  cases hs with
  | exit hpc _ =>
    have hupdate : Function.update s.targets i none = s.targets := by
      refine Function.update_eq_self_iff.2 ?_
      rw [htarget, hpc]
      rfl
    refine ⟨h.uartStep (by simp) (by simp) (by simp) fun k => ?_, by simp⟩
    exact (h.inflight k).trans (congrArg (Holding.count · k) hupdate).symm
  | goto pc bytes dropped out hpc hsends _ hout =>
    refine ⟨h.gotoPc ht (fun d hd => ?_) hpc, hout⟩
    rw [hpc]
    exact h.sends i t ht d (hsends d hd)
  | register index peerDesc len hpc hctx =>
    refine ⟨h.uartStep (by simp [ht]) (hexit _) ?_ fun k => ?_, by simp⟩
    · rintro _ ⟨⟩ d hd
      obtain rfl : peerDesc = d := by simpa [UartPc.sendsOn] using hd
      exact ⟨peer index, rfl, .inl hctx⟩
    · have hcount := Holding.count_update s.targets i (some (peer index)) k
      rw [htarget, hpc, ← h.inflight k] at hcount
      by_cases hk : k = peer index
      · subst hk
        simpa [State.setInflight, UartPc.target] using hcount.symm
      · have hk' : peer index ≠ k := fun h => hk h.symm
        simpa [State.setInflight, UartPc.target, hk, hk'] using hcount.symm
  | finish index len ok bytes dropped hpc =>
    refine ⟨h.uartStep (by simp [ht]) (hexit _) (by simp [UartPc.sendsOn]) fun k => ?_, by simp⟩
    have hcount := Holding.count_update s.targets i none k
    rw [htarget, hpc, ← h.inflight k] at hcount
    by_cases hk : k = peer index
    · subst hk
      have hcount' : Holding.count (Function.update s.targets i none) (peer index) + 1 =
          s.inflight (peer index) := by simpa [UartPc.target] using hcount
      simp only [State.setUart, State.setInflight, Function.update_self, Option.bind_some,
        UartPc.target]
      omega
    · have hk' : peer index ≠ k := fun h => hk h.symm
      simpa [State.setUart, State.setInflight, UartPc.target, hk, hk'] using hcount.symm

/-! ### The calls -/

lemma Inv.counters (h : Inv log s) (bytes dropped : Port → UInt64) (activeCount : Nat) :
    Inv log { s with bytes, dropped, activeCount } :=
  ⟨h.ctx, h.owned, h.uart, h.exitReq, h.sends, h.inflight, h.deinit⟩

lemma Inv.move (h : Inv log s) {x : Option Handle} {c : Call}
    (hheld : x.or c.desc? = s.held i) (hoff : c.Off → x = none)
    (hexit : ∀ d, c = .serialDeinit d → ∀ t ∈ s.uart i, t.exitReq = true)
    (hkeep : ∀ d, 0 < s.inflight i → s.ctx i = some d ∨ s.call i = .drain d →
      x = some d ∨ c = .drain d)
    (hi : ∀ d, s.call i ≠ .serialDeinit d) :
    Inv log ((s.setCtx i x).setCall i c) := by
  refine h.portStep (x := x) (c := c) (u := s.uart i) rfl rfl ?_ ?_ hoff
    (fun hx => h.uart i (hheld ▸ hx)) hexit (h.sends i) hkeep (fun k => ?_) (fun _ => id)
    fun d hd => absurd hd (hi d)
  · exact (Function.update_eq_self i s.uart).symm
  · rw [hheld, Function.update_eq_self]
    exact h.owned
  · have htargets : Function.update s.targets i ((s.uart i).bind (·.pc.target)) = s.targets :=
      Function.update_eq_self i s.targets
    rw [htargets]
    exact h.inflight k

lemma Inv.setCall (h : Inv log s) (hc : c.desc? = none) (hi : (s.call i).desc? = none)
    (hoff : c.Off → s.ctx i = none) : Inv log (s.setCall i c) := by
  have hctx : s.setCtx i (s.ctx i) = s := by simp [State.setCtx]
  rw [← hctx]
  refine h.move ?_ hoff ?_ ?_ ?_
  · simp [State.held, hc, hi]
  · rintro d rfl
    cases hc
  · rintro d - (hd | hd)
    · exact .inl hd
    · rw [hd] at hi
      cases hi
  · intro d hd
    rw [hd] at hi
    cases hi

lemma Inv.append (h : Inv log s) (hout : ∀ d, Obs.serialDeinit d ∉ out) : Inv (log ++ out) s :=
  { h with
    deinit := fun d hd => h.deinit d ((List.mem_append.1 hd).resolve_right (hout d)) }

lemma Inv.serialInit (h : Inv log s) (hfresh : s.heap.Fresh addr) (hi : s.call i = .serialInit) :
    Inv log { (s.setUart i (some ⟨s.heap.newest addr, false, .waitEvent⟩)).setCall i
      (.publish (s.heap.newest addr)) with heap := s.heap.open addr hfresh } := by
  have hctx : s.ctx i = none := h.ctx i (by rw [hi]; trivial)
  have huart : s.uart i = none := h.uart i (by simp [State.held, hctx, hi, Call.desc?])
  refine h.portStep (x := none) (c := .publish (s.heap.newest addr)) ?_ rfl rfl
    (h.owned.open hfresh) (fun _ => rfl) (by simp [Call.desc?]) (by simp) ?_ ?_ (fun k => ?_)
    (fun _ hd => hd.open hfresh) (by simp [hi])
  · exact (Function.update_eq_self_iff.2 hctx.symm).symm
  · simp [UartPc.sendsOn]
  · simp [hctx, hi]
  · have htargets : Function.update s.targets i none = s.targets :=
      Function.update_eq_self_iff.2 (by simp [State.targets, huart])
    exact (h.inflight k).trans (congrArg (Holding.count · k) htargets).symm

lemma Inv.freed (h : Inv log s) (hi : s.call i = .serialDeinit d) (hu : s.uart i = none) :
    Inv log { s.setCall i .idle with heap := s.heap.close d.num } := by
  have hctx : s.ctx i = none := h.ctx i (by rw [hi]; trivial)
  have hd : s.held i = some d := by simp [State.held, hctx, hi, Call.desc?]
  refine h.portStep (x := none) (c := .idle) (u := none) ?_ rfl ?_ (h.owned.close hd)
    (fun _ => rfl) (fun _ => rfl) (by simp) (by simp) (by simp [hctx, hi]) (fun k => ?_)
    (fun _ hd => hd.close) fun d' hd' => .inl ?_
  · exact (Function.update_eq_self_iff.2 hctx.symm).symm
  · exact (Function.update_eq_self_iff.2 hu.symm).symm
  · have htargets : Function.update s.targets i none = s.targets :=
      Function.update_eq_self_iff.2 (by simp [State.targets, hu])
    exact (h.inflight k).trans (congrArg (Holding.count · k) htargets).symm
  · obtain rfl : d = d' := by simpa [hi] using hd'
    exact Pool.gone_close (h.owned.mem hd)

lemma Inv.drained (h : Inv log s) (hi : s.call i = .drain d) (hzero : ¬ 0 < s.inflight i) :
    Inv (log ++ [.serialDeinit d])
      ((s.setUart i ((s.uart i).map ({ · with exitReq := true }))).setCall i
        (.serialDeinit d)) := by
  set s₁ := s.setUart i ((s.uart i).map ({ · with exitReq := true })) with hs₁
  have hctx : s.ctx i = none := h.ctx i (by rw [hi]; trivial)
  have hbind : ((s.uart i).map ({ · with exitReq := true })).bind (·.pc.target) = s.targets i := by
    simp [State.targets, Option.bind_map]
  have h₁ : Inv log s₁ := by
    refine h.uartStep (by simp) (by simp [hi]) ?_ fun k => ?_
    · intro t ht d' hd'
      obtain ⟨t₀, ht₀, rfl⟩ := Option.map_eq_some_iff.1 ht
      exact h.sends i t₀ ht₀ d' hd'
    · rw [hbind, Function.update_eq_self]
      exact h.inflight k
  have hmove : Inv log (s₁.setCall i (.serialDeinit d)) := by
    have hset : s₁.setCtx i none = s₁ := by
      simp [hs₁, State.setCtx, State.setUart, hctx]
    rw [← hset]
    refine h₁.move ?_ (fun _ => rfl) ?_ ?_ ?_
    · simp [hs₁, State.held, State.setUart, hctx, hi, Call.desc?]
    · intro d' _ t ht
      obtain ⟨t₀, -, rfl⟩ := Option.map_eq_some_iff.1
        (by simpa [hs₁, State.setUart] using ht : (s.uart i).map _ = some t)
      rfl
    · exact fun d' hcount => absurd hcount hzero
    · simp [hs₁, State.setUart, hi]
  refine { hmove with deinit := fun d' hd' => ?_ }
  obtain hd' | hd' := List.mem_append.1 hd'
  · exact hmove.deinit d' hd'
  · obtain rfl : d' = d := by simpa using hd'
    exact .inr ⟨i, by simp [State.setCall]⟩

lemma Inv.callStep (h : Inv log s) {ok : Bool} (hs : s.callStep i ok addr = some (s', out)) :
    Inv (log ++ out) s' := by
  unfold State.callStep at hs
  cases hcall : s.call i <;> simp only [hcall] at hs
  case idle =>
    cases hs
  case initGuard =>
    cases hs
    refine (h.setCall ?_ (by rw [hcall]; rfl) ?_).append (by simp)
    · split <;> rfl
    · intro hoff
      by_contra hne
      simp [Option.isSome_iff_ne_none.2 hne, Call.Off] at hoff
  case serialInit =>
    cases ok with
    | false =>
      cases hs
      exact (h.setCall rfl (by rw [hcall]; rfl) False.elim).append (by simp)
    | true =>
      by_cases hfresh : s.heap.Fresh addr
      · simp only [Bool.not_true, Bool.false_eq_true, if_false, dif_pos hfresh] at hs
        cases hs
        exact (h.serialInit hfresh hcall).append (by simp)
      · simp [hfresh] at hs
  case publish desc =>
    cases hs
    have hctx : s.ctx i = none := h.ctx i (by rw [hcall]; trivial)
    have hmove : Inv log ((s.setCtx i (some desc)).setCall i .idle) := by
      refine h.move ?_ False.elim (by simp) ?_ (by simp [hcall])
      · simp [State.held, hctx, hcall, Call.desc?]
      · simp [hctx, hcall]
    refine Inv.append ?_ (by simp)
    unfold State.publish
    split
    · exact hmove.counters _ _ _
    · exact hmove.counters _ _ _
  case withdraw =>
    cases hctx : s.ctx i with
    | none =>
      simp only [hctx] at hs
      cases hs
      exact (h.setCall rfl (by rw [hcall]; rfl) False.elim).append (by simp)
    | some desc =>
      simp only [hctx] at hs
      cases hs
      have hmove : Inv log ((s.setCtx i none).setCall i (.drain desc)) := by
        refine h.move ?_ (fun _ => rfl) (by simp) ?_ (by simp [hcall])
        · simp [State.held, hctx, Call.desc?]
        · simp [hctx, hcall]
      exact (hmove.counters _ _ _).append (by simp)
  case drain desc =>
    by_cases hpos : 0 < s.inflight i
    · rw [if_pos hpos] at hs
      cases hs
      exact h.append (by simp)
    · rw [if_neg hpos] at hs
      cases hs
      exact h.drained hcall hpos
  case serialDeinit desc =>
    obtain ⟨hu, hs⟩ := Option.ite_none_left_eq_some.1 hs
    cases hs
    exact (h.freed hcall (by simpa using hu)).append (by simp)

lemma Inv.step {e : Event} (h : Inv log s) (hs : s.step e = some (s', out)) :
    Inv (log ++ out) s' := by
  cases e with
  | initPort i | deinitPort i =>
    obtain ⟨hcall, hs⟩ := Option.ite_none_right_eq_some.1 hs
    cases hs
    exact (h.setCall rfl (by rw [hcall]; rfl) False.elim).append (by simp)
  | call i ok addr => exact h.callStep hs
  | receive i job =>
    obtain ⟨t, ht, hs⟩ := Option.bind_eq_some_iff.1 hs
    obtain ⟨hpc, hs⟩ := Option.ite_none_right_eq_some.1 hs
    cases hs
    exact (h.gotoPc ht (by simp [UartPc.sendsOn]) (by simp [hpc, UartPc.target])).append (by simp)
  | uart i flag =>
    obtain ⟨t, ht, hs⟩ := Option.bind_eq_some_iff.1 hs
    obtain ⟨hinv, hout⟩ := h.taskStep ht (taskStep_cases hs)
    exact hinv.append hout

lemma inv_of_run (h : machine.Run Machine.anyStep log s) : Inv log s :=
  h.invariant (P := Inv) inv_init fun _ hinv _ hs => hinv.step hs

/-! ## Progress -/

def Call.work : Call → Nat
  | .idle => 0
  | .serialDeinit _ => 1
  | .publish _ => 1
  | .serialInit => 2
  | .initGuard => 3
  | .drain _ => 3
  | .withdraw => 4

def Uart.work (t : Uart) : Nat := t.pc.work + t.exitReq.toNat

def State.portWork (s : State) (i : Port) : Nat := (s.call i).work + (s.uart i).elim 0 Uart.work

def State.work (s : State) : Nat := ∑ i, s.portWork i

lemma work_lt (hi : s'.portWork i < s.portWork i)
    (hj : ∀ j, j ≠ i → s'.portWork j = s.portWork j) : s'.work < s.work := by
  refine Finset.sum_lt_sum (fun j _ => ?_) ⟨i, Finset.mem_univ i, hi⟩
  by_cases hji : j = i
  · rw [hji]
    exact hi.le
  · exact (hj j hji).le

lemma work_lt_of_update {t : Option Uart} (hcall : s'.call = Function.update s.call i c)
    (huart : s'.uart = Function.update s.uart i t)
    (hlt : c.work + t.elim 0 Uart.work < s.portWork i) : s'.work < s.work := by
  refine work_lt (i := i) ?_ fun j hj => ?_
  · simpa [State.portWork, hcall, huart] using hlt
  · simp [State.portWork, hcall, huart, hj]

lemma work_lt_of_taskStep (ht : s.uart i = some t) (hs : TaskStep s i t s' out) :
    s'.work < s.work := by
  have hgoto : ∀ {s₁ : State} {pc : UartPc}, s₁.call = s.call →
      s₁.uart = Function.update s.uart i (some { t with pc }) →
      pc.work < t.pc.work → s₁.work < s.work := by
    intro s₁ pc hcall huart hlt
    refine work_lt_of_update (i := i) (c := s.call i) ?_ huart ?_
    · rw [hcall, Function.update_eq_self]
    · simpa [State.portWork, ht, Uart.work] using hlt
  cases hs with
  | exit _ hexit =>
    refine work_lt_of_update (i := i) (c := s.call i) (t := none) ?_ rfl ?_
    · rw [Function.update_eq_self]
      rfl
    · simp [State.portWork, ht, Uart.work, hexit]
  | goto pc bytes dropped out _ _ hwork _ => exact hgoto rfl rfl hwork
  | register index peerDesc len hpc _ | finish index len ok bytes dropped hpc =>
    exact hgoto rfl rfl (by simp [hpc, UartPc.work])

lemma exists_taskStep (s : State) (i : Port) (flag : Bool)
    (ht : t.pc ≠ .waitEvent ∨ t.exitReq = true) :
    ∃ s' out, s.taskStep i t flag = some (s', out) := by
  unfold State.taskStep
  cases hpc : t.pc with
  | waitEvent =>
    have hexit : t.exitReq = true := ht.resolve_left fun hne => hne hpc
    exact ⟨_, _, if_pos hexit⟩
  | findIndex rest job =>
    cases rest with
    | nil => exact ⟨_, _, rfl⟩
    | cons k rest => cases job <;> dsimp only <;> split <;> exact ⟨_, _, rfl⟩
  | register index len =>
    dsimp only
    repeat' split
    all_goals exact ⟨_, _, rfl⟩
  | count _ _ | send _ _ _ | sending _ _ _ | finish _ _ _ => exact ⟨_, _, rfl⟩

lemma work_lt_of_callStep {ok : Bool} (hdrain : ∀ d, s.call i = .drain d → s.inflight i = 0)
    (hs : s.callStep i ok addr = some (s', out)) : s'.work < s.work := by
  have hgoto : ∀ {s₁ : State} {c : Call}, s₁.call = s.call → s₁.uart = s.uart →
      c.work < (s.call i).work → (s₁.setCall i c).work < s.work := by
    intro s₁ c hcall huart hlt
    refine work_lt_of_update (i := i) (c := c) (t := s.uart i) ?_ ?_ ?_
    · rw [← hcall]
      rfl
    · rw [Function.update_eq_self]
      exact huart
    · simpa [State.portWork] using hlt
  unfold State.callStep at hs
  cases hcall : s.call i <;> simp only [hcall] at hs
  case idle =>
    cases hs
  case initGuard =>
    cases hs
    refine hgoto rfl rfl ?_
    split <;> simp [hcall, Call.work]
  case serialInit =>
    cases ok with
    | false =>
      cases hs
      exact hgoto rfl rfl (by simp [hcall, Call.work])
    | true =>
      by_cases hfresh : s.heap.Fresh addr
      · simp only [Bool.not_true, Bool.false_eq_true, if_false, dif_pos hfresh] at hs
        cases hs
        refine work_lt_of_update rfl rfl ?_
        simp [State.portWork, hcall, Call.work, Uart.work, UartPc.work]
        omega
      · simp [hfresh] at hs
  case publish desc =>
    cases hs
    refine hgoto ?_ ?_ (by simp [hcall, Call.work])
    · unfold State.publish
      split <;> rfl
    · unfold State.publish
      split <;> rfl
  case withdraw =>
    cases hctx : s.ctx i with
    | none =>
      simp only [hctx] at hs
      cases hs
      exact hgoto rfl rfl (by simp [hcall, Call.work])
    | some desc =>
      simp only [hctx] at hs
      cases hs
      have hlt : (Call.drain desc).work < (s.call i).work := by simp [hcall, Call.work]
      have hwork : (({ s.setCtx i none with activeCount := s.activeCount - 1 } : State).setCall i
        (.drain desc)).work < s.work := hgoto rfl rfl hlt
      exact hwork
  case drain desc =>
    simp only [hdrain desc hcall, lt_irrefl, if_false] at hs
    cases hs
    refine work_lt_of_update rfl rfl ?_
    cases hu : s.uart i with
    | none => simp [State.portWork, hcall, hu, Call.work]
    | some t =>
      have hexit := Bool.toNat_le t.exitReq
      simp [State.portWork, hcall, hu, Call.work, Uart.work]
      omega
  case serialDeinit desc =>
    obtain ⟨hu, hs⟩ := Option.ite_none_left_eq_some.1 hs
    cases hs
    have hwork : (({ s with heap := s.heap.close desc.num } : State).setCall i .idle).work <
      s.work := hgoto rfl rfl (by simp [hcall, Call.work])
    exact hwork

lemma exists_callStep (hcall : s.call i ≠ .idle)
    (hjoin : ∀ d, s.call i = .serialDeinit d → s.uart i = none) (addr : Nat) :
    ∃ s' out, s.callStep i false addr = some (s', out) := by
  unfold State.callStep
  cases hc : s.call i with
  | idle => exact absurd hc hcall
  | initGuard | serialInit | publish _ | withdraw => exact ⟨_, _, rfl⟩
  | drain desc => dsimp only; split <;> exact ⟨_, _, rfl⟩
  | serialDeinit desc => exact ⟨_, _, if_neg (by simp [hjoin desc hc])⟩

lemma Inv.exists_step (h : Inv log s) (hq : ¬ s.Quiet) :
    ∃ e s' out, e.Internal ∧ s.step e = some (s', out) ∧ s'.work < s.work := by
  by_cases hrun : ∃ j t, s.uart j = some t ∧ (t.pc ≠ .waitEvent ∨ t.exitReq = true)
  · obtain ⟨j, t, ht, hpc⟩ := hrun
    obtain ⟨s', out, hs⟩ := exists_taskStep s j true hpc
    refine ⟨.uart j true, s', out, trivial, ?_, work_lt_of_taskStep ht (taskStep_cases hs)⟩
    simpa [State.step, ht] using hs
  · -- no handler runs: nothing is counted, and a task that was told to end has ended
    have hidle : ∀ j t, s.uart j = some t → t.pc = .waitEvent ∧ t.exitReq = false := by
      intro j t ht
      by_contra hne
      refine hrun ⟨j, t, ht, ?_⟩
      by_contra hor
      rw [not_or, not_not] at hor
      exact hne ⟨hor.1, by simpa using hor.2⟩
    have hinflight : ∀ i, s.inflight i = 0 := by
      intro i
      rw [h.inflight, Holding.count, Finset.card_eq_zero, Finset.filter_eq_empty_iff]
      intro j _
      cases hu : s.uart j with
      | none => simp [State.targets, hu]
      | some t => simp [State.targets, hu, (hidle j t hu).1, UartPc.target]
    obtain ⟨i, hi⟩ : ∃ i, s.call i ≠ .idle := by
      by_contra hall
      rw [not_exists] at hall
      exact hq fun i => ⟨not_not.1 (hall i), fun t ht => (hidle i t ht).1⟩
    have hjoin : ∀ d, s.call i = .serialDeinit d → s.uart i = none := by
      intro d hd
      cases hu : s.uart i with
      | none => rfl
      | some t => exact absurd (h.exitReq i d hd t hu) (by simp [(hidle i t hu).2])
    obtain ⟨s', out, hs⟩ := exists_callStep hi hjoin 0
    exact ⟨.call i false 0, s', out, trivial, hs, work_lt_of_callStep (fun _ _ => hinflight i) hs⟩

lemma Inv.exists_exec_quiet (h : Inv log s) :
    ∃ es log' s', (∀ e ∈ es, e.Internal) ∧
      machine.exec Machine.anyStep es log s = some (log', s') ∧ s'.Quiet := by
  refine Machine.exists_exec_of_measure State.work (fun hinv hq => ?_) h
  obtain ⟨e, s', out, he, hs, hlt⟩ := hinv.exists_step hq
  exact ⟨e, s', out, he, trivial, hs, hinv.step hs, hlt⟩

/-- In every run: `serial_send` is not entered with, and does not run on, a descriptor that was
handed to `serial_deinit`; `s_inflight` counts the handlers between the registration and the end of
a send; and the tasks and the calls can come to their end without a new call and new bytes. -/
theorem repeater_teardown (log : List Obs) (s : State)
    (h : machine.Run Machine.anyStep log s) :
    (∀ j t d, s.uart j = some t → t.pc.sendsOn = some d → Obs.serialDeinit d ∉ log) ∧
      (∀ i, s.inflight i = s.targets.count i) ∧
      ∃ es log' s', (∀ e ∈ es, e.Internal) ∧
        machine.exec Machine.anyStep es log s = some (log', s') ∧ s'.Quiet := by
  have hinv := inv_of_run h
  exact ⟨fun _ _ _ => hinv.serialDeinit_notMem, hinv.inflight, hinv.exists_exec_quiet⟩

/-- Port 0 sends into port 1, and the teardown of port 1 waits for it. -/
theorem repeater_teardown_drain :
    ∃ log s, machine.Run Machine.anyStep log s ∧ s.call 1 = .drain ⟨1, 200⟩ ∧
      Obs.serialDeinit ⟨1, 200⟩ ∉ log ∧ s.targets.count 1 = 1 ∧
      ∃ es log' s', (∀ e ∈ es, e.Internal) ∧
        machine.exec Machine.anyStep es log s = some (log', s') ∧ s'.Quiet := by
  obtain ⟨log, s, hrun, hcall, hinflight, huart⟩ :=
    Machine.Run.exists_of_exec machine Machine.anyStep
      [.initPort 0, .call 0 true 0, .call 0 true 100, .call 0 true 0,
        .initPort 1, .call 1 true 0, .call 1 true 200, .call 1 true 0,
        .receive 0 (.rx 3), .uart 0 false, .uart 0 false, .uart 0 false,
        .deinitPort 1, .call 1 true 0, .call 1 true 0]
      (fun _ s => s.call 1 = .drain ⟨1, 200⟩ ∧ s.inflight 1 = 1 ∧
        s.uart 0 = some ⟨⟨0, 100⟩, false, .sending 0 ⟨1, 200⟩ 3⟩)
      (by decide +kernel)
  obtain ⟨hsends, hcount, hquiet⟩ := repeater_teardown log s hrun
  exact ⟨log, s, hrun, hcall, hsends 0 _ _ huart rfl, (hcount 1).symm.trans hinflight, hquiet⟩

end WbMge.Repeater
