import WbMge.Cache.Refinement
import WbMge.Sniffer.Model
import WbMge.ToMathlib.Machine

/-!
# Where cached values come from

One port's sniffer as a system: the bus, the UART task running `sniffer_process_frame`, the timer
task, the packet queue, and the task that feeds the packets to the cache. The bus carries
transactions, a master request followed by at most one answer of the slave. Every queue send and
every timer start may fail.

The cache binds a response to the read request it saw last, by slave and function code. The answer
to a read whose packet was dropped can be filed under the addresses of an earlier one; and an FC01
or FC02 request for addresses from 0x0300 to 0x03FF looks like a response while another request of
that slave and function is latched. In a run without these two situations (`tracked`) every value is
filed where the last request on the bus asked for it. The argument looks at the request the cache
will have pending once the queue is drained.
-/

namespace WbMge.Sniffer

open Cache (PendingReq ReadReq bridgesCount)

/-! ## The bus -/

def readOf (f : Bytes) : ReadReq := ⟨byteAt f 0, byteAt f 1, startReg f, count f⟩

/-- A request: CRC valid, to an address in use or, other than a read, to all; reads have eight
bytes. -/
def isRequest (f : Bytes) : Bool :=
  crcCheck f && byteAt f 0 ≤ 247 && byteAt f 1 < 0x80 &&
    (!Cache.fcIsCacheable (byteAt f 1) || f.length == 8 && byteAt f 0 != 0)

/-- An answer to a request: CRC valid, from the slave that was asked, and either an exception or a
reply with the same function code. The reply to a read is the data it asked for. -/
def answers (req f : Bytes) : Bool :=
  crcCheck f && byteAt req 0 != 0 && byteAt f 0 == byteAt req 0 &&
    (byteAt f 1 == byteAt req 1 ||| 0x80 && f.length == 5 ||
      byteAt f 1 == byteAt req 1 &&
        (!Cache.fcIsCacheable (byteAt req 1) ||
          Cache.requestIsCacheable (byteAt req 1) (startReg req) (count req) &&
            (byteAt f 2).toNat == (readOf req).numBytes &&
            f.length == 5 + (readOf req).numBytes))

/-! ## The system -/

structure Captured where
  pkt : SniffPacket
  isRequest : Bool
  lastReq : Option Bytes
deriving Repr, DecidableEq

/-- Where the UART task is in `sniffer_process_frame`. -/
inductive UartPc where
  | idle
  | decided (d : SniffDecision) (c : Captured)
  | arming
  | abandoning
deriving Repr, DecidableEq

/-- The sniffer of one port, on its way from the bus to the cache. -/
structure State where
  ctx : SniffCtx
  uart : UartPc
  timer : Option Captured
  queue : List Captured
  cache : Cache.State
  lastReq : Option Bytes
  answered : Bool

/-- Values filed by `cache_multimaster_on_response`: the response's place on the bus, and the range
its values go to. The value at offset `i` goes to address `startReg + i`. -/
structure Filed where
  slaveId : UInt8
  function : UInt8
  startReg : UInt16
  count : UInt16
  lastReq : Option Bytes
deriving Repr, DecidableEq

/-- The last request before the response was a read of the slave and function whose range has, at
the offset of each value, the address the value is filed under. -/
def Filed.Sound (o : Filed) : Prop :=
  ∃ req ∈ o.lastReq, (readOf req).slaveId = o.slaveId ∧ (readOf req).function = o.function ∧
    ∀ i < o.count.toNat, i < (readOf req).count.toNat ∧
      (readOf req).startReg + UInt16.ofNat i = o.startReg + UInt16.ofNat i

instance (o : Filed) : Decidable o.Sound := by
  unfold Filed.Sound
  infer_instance

inductive Event where
  | request (f : Bytes) (nowUs : Nat)
  | response (f : Bytes) (nowUs : Nat)
  /-- `xQueueSend` by the UART task. -/
  | send (ok : Bool)
  /-- `xTimerStart` by the UART task. -/
  | arm (ok : Bool)
  | abandon
  | expire
  /-- `xQueueSend` by the timer task. -/
  | sendTimeout (ok : Bool)
  /-- The oldest packet of the queue reaches `sniffer_ws_dispatch`. -/
  | dispatch (nowUs : Nat)
deriving Repr, DecidableEq

variable (port : Fin bridgesCount)

def portByte : UInt8 := UInt8.ofNat port.val

/-- The first critical section of `sniffer_process_frame` for a frame on the bus. -/
def State.hear (s : State) (f : Bytes) (isRequest : Bool) (nowUs : Nat) : State :=
  if s.ctx.takes f then
    let r := s.ctx.decideFrame nowUs f
    { s with
      ctx := r.1
      uart := if r.2.emit then
        .decided r.2 ⟨framePacket (portByte port) nowUs r.2 f, isRequest, s.lastReq⟩ else .idle }
  else s

def State.filing (s : State) (c : Captured) : List Filed :=
  if s.ctx.feeds s.cache && c.pkt.isReadResponse then
    match s.cache.accepts port c.pkt.slaveId c.pkt.function c.pkt.data with
    | none => []
    | some p => [⟨c.pkt.slaveId, c.pkt.function, p.startReg, p.count, c.lastReq⟩]
  else []

def State.step (s : State) : Event → Option (State × List Filed)
  | .request f nowUs =>
    -- a repetition of an unanswered request with the same address and function is not part of the
    -- traffic
    let retry := !s.answered && s.lastReq.any fun l =>
      byteAt l 0 == byteAt f 0 && byteAt l 1 == byteAt f 1
    if s.uart = .idle ∧ isRequest f ∧ !retry then
      some ({ s.hear port f true nowUs with lastReq := some f, answered := false }, [])
    else none
  | .response f nowUs =>
    if s.uart = .idle ∧ !s.answered ∧ s.lastReq.any (answers · f) then
      some ({ s.hear port f false nowUs with answered := true }, [])
    else none
  | .send ok =>
    match s.uart with
    | .decided d c =>
      -- a dropped packet takes the exchange with it, a queued one may need the timer
      if ok then
        some ({ s with
          queue := s.queue ++ [c]
          uart := if d.startTimer then .arming else .idle }, [])
      else some ({ s with uart := .abandoning }, [])
    | _ => none
  | .arm ok =>
    if s.uart = .arming then
      some ({ s with uart := if ok then .idle else .abandoning }, [])
    else none
  | .abandon =>
    if s.uart = .abandoning then some ({ s with ctx := s.ctx.abandon, uart := .idle }, []) else none
  | .expire =>
    -- also when the timer has been stopped meanwhile: the callback may be running already
    if s.timer = none then
      let r := s.ctx.respTimerCb (portByte port)
      some ({ s with ctx := r.1, timer := r.2.map fun pkt => ⟨pkt, false, s.lastReq⟩ }, [])
    else none
  | .sendTimeout ok =>
    match s.timer with
    | some c =>
      some ({ s with timer := none, queue := if ok then s.queue ++ [c] else s.queue }, [])
    | none => none
  | .dispatch nowUs =>
    match s.queue with
    | c :: queue =>
      some ({ s with queue, cache := snifferWsDispatch s.ctx s.cache nowUs c.pkt },
        s.filing port c)
    | [] => none

def machine (ctx : SniffCtx) (cache : Cache.State) : Machine State Event Filed where
  init :=
    { ctx, uart := .idle, timer := none, queue := [], cache, lastReq := none, answered := false }
  step := State.step port

/-! ## The pending request behind the queue -/

def nextPending (p : PendingReq) (pkt : SniffPacket) : PendingReq :=
  if pkt.isReadRequest then
    ⟨Cache.requestIsCacheable pkt.function (startReg pkt.data) (count pkt.data), pkt.slaveId,
      pkt.function, startReg pkt.data, count pkt.data⟩
  else { p with valid := false }

/-- A packet that is dispatched while `p` is pending is filed under `p`. -/
def files (p : PendingReq) (pkt : SniffPacket) : Bool :=
  pkt.isReadResponse && p.matchedBy pkt.slaveId pkt.function &&
    Cache.responseFits pkt.function p.count pkt.data

/-- The answer to `r` would be filed under `p`, at other addresses than `r` asks for. -/
def misfiles (p : PendingReq) (r : ReadReq) : Bool :=
  Cache.requestIsCacheable r.function r.startReg r.count && p.matchedBy r.slaveId r.function &&
    (Cache.expectedBytes r.function p.count).toNat == r.numBytes &&
    !(p.startReg == r.startReg && p.count ≤ r.count)

def State.drained (s : State) : PendingReq :=
  s.queue.foldl (fun p c => nextPending p c.pkt) (s.cache.pending port)

/-- The condition on a step: a request's packet is dropped only if the answer to it would not be
misfiled under what the cache has pending, and is queued only if it would not be filed itself. -/
def tracked (_log : List Filed) (s : State) : Event → Bool
  | .send ok =>
    match s.uart with
    | .decided _ c =>
      !c.isRequest ||
        if ok then !files (s.drained port) c.pkt
        else !misfiles (s.drained port) (readOf c.pkt.data)
    | _ => true
  | _ => true

variable {port}

variable {pkt : SniffPacket} {p : PendingReq} {f : Bytes} {s s' : State} {nowUs : Nat}
  {out : List Filed}

lemma pending_step (cache : Cache.State) (nowUs : Nat) (hport : pkt.port = portByte port) :
    (cache.step (cacheCall nowUs pkt)).pending port = nextPending (cache.pending port) pkt := by
  have hval : pkt.port.toNat = port.val := by
    rw [hport, portByte, UInt8.toNat_ofNat']
    exact Nat.mod_eq_of_lt (port.isLt.trans (by decide))
  have hlt : pkt.port.toNat < bridgesCount := hval ▸ port.isLt
  have hfin : (⟨pkt.port.toNat, hlt⟩ : Fin bridgesCount) = port := Fin.ext hval
  -- one case for each of the three calls into the cache
  rw [cacheCall, nextPending]
  split
  · simp [Cache.State.step, Cache.State.onRequest, Cache.State.setPending, hlt, hfin]
  split
  · rename_i hresp
    have hlen : ¬ pkt.data.length < 4 := by
      simp only [SniffPacket.isReadResponse, Bool.and_eq_true, decide_eq_true_eq] at hresp
      omega
    simp only [Cache.State.step, Cache.State.onResponse, hlt, hlen, dif_pos, if_false, hfin]
    split
    · simp [Cache.State.consume, Cache.State.setPending]
    · rw [Cache.State.store]
      split <;> simp [Cache.State.consume, Cache.State.setPending]
  · simp [Cache.State.step, Cache.State.clearPending, Cache.State.consume,
      Cache.State.setPending, hlt, hfin]

lemma enabled_step (cache : Cache.State) (nowUs : Nat) (pkt : SniffPacket) :
    (cache.step (cacheCall nowUs pkt)).enabled = cache.enabled := by
  rw [cacheCall]
  repeat' split
  all_goals simp only [Cache.State.step, Cache.State.onRequest, Cache.State.onResponse,
    Cache.State.clearPending, Cache.State.store]
  all_goals repeat' split
  all_goals rfl

lemma files_of_accepts {cache : Cache.State} (hresp : pkt.isReadResponse)
    (h : cache.accepts port pkt.slaveId pkt.function pkt.data = some p) :
    p = cache.pending port ∧ files (cache.pending port) pkt := by
  simp only [Cache.State.accepts] at h
  split at h
  · rename_i hcond
    simp only [Bool.and_eq_true] at hcond
    obtain ⟨⟨⟨⟨-, hmatch⟩, -⟩, -⟩, hfits⟩ := hcond
    exact ⟨(Option.some.inj h).symm, by simp [files, hresp, hmatch, hfits]⟩
  · cases h

/-! ## Frames on the bus -/

/-- A packet shows a frame: its address, function and bytes, valid and not a timeout. -/
structure Shows (port : Fin bridgesCount) (pkt : SniffPacket) (f : Bytes) : Prop where
  portByte : pkt.port = portByte port
  slaveId : pkt.slaveId = byteAt f 0
  function : pkt.function = byteAt f 1
  data : pkt.data = f.take maxPacketLen
  crcValid : pkt.crcValid = true
  isTimeout : pkt.isTimeout = false

variable (port) in
lemma hear_cases (s : State) (hcrc : crcCheck f = true) (haddr : byteAt f 0 ≤ 247)
    (hreasons : s.ctx.reasons &&& reasonCache ≠ 0) (isRequest : Bool) (nowUs : Nat) :
    ∃ d pkt ctx, Shows port pkt f ∧ ctx.reasons = s.ctx.reasons ∧
      s.hear port f isRequest nowUs =
        { s with ctx := ctx, uart := .decided d ⟨pkt, isRequest, s.lastReq⟩ } := by
  have hon : s.ctx.reasons ≠ 0 := by
    intro h
    rw [h] at hreasons
    exact hreasons (by decide)
  have hd := s.ctx.decideFrame_snd nowUs haddr
  obtain ⟨hemit, hvalid, hraw⟩ := s.ctx.decideFrame_shown hcrc
  refine ⟨(s.ctx.decideFrame nowUs f).2,
    framePacket (portByte port) nowUs (s.ctx.decideFrame nowUs f).2 f,
    (s.ctx.decideFrame nowUs f).1, ?_, ?_, ?_⟩
  · constructor <;> simp [framePacket, hd, stripArbitration_of_le haddr, hvalid, hraw]
  · simp only [SniffCtx.decideFrame]
    split <;> split <;> rfl
  · rw [State.hear, if_pos (s.ctx.takes_of_crcCheck hon hcrc)]
    simp only [hd, hemit, if_true]

lemma readOf_take (f : Bytes) : readOf (f.take maxPacketLen) = readOf f := by
  simp only [readOf, startReg, count, maxPacketLen]
  simp only [byteAt_take (show 0 < 272 by decide), byteAt_take (show 1 < 272 by decide),
    byteAt_take (show 2 < 272 by decide), byteAt_take (show 3 < 272 by decide),
    byteAt_take (show 4 < 272 by decide), byteAt_take (show 5 < 272 by decide)]

lemma files_ended (p : PendingReq) (pkt : SniffPacket) :
    files { p with valid := false } pkt = false := by
  simp [files, PendingReq.matchedBy]

lemma misfiles_ended (p : PendingReq) (r : ReadReq) :
    misfiles { p with valid := false } r = false := by
  simp [misfiles, PendingReq.matchedBy]

lemma nextPending_timeout (p : PendingReq) (h : pkt.isTimeout = true) :
    nextPending p pkt = { p with valid := false } := by
  simp [nextPending, SniffPacket.isReadRequest, h]

lemma files_timeout (p : PendingReq) (h : pkt.isTimeout = true) : files p pkt = false := by
  simp [files, SniffPacket.isReadResponse, h]

/-! ## The invariant -/

/-- Dispatching `c` while `p` is pending files nothing wrong. -/
def Good (p : PendingReq) (c : Captured) : Prop :=
  files p c.pkt = true →
    Filed.Sound ⟨c.pkt.slaveId, c.pkt.function, p.startReg, p.count, c.lastReq⟩

def QueueOk (port : Fin bridgesCount) : PendingReq → List Captured → Prop
  | _, [] => True
  | p, c :: cs => c.pkt.port = portByte port ∧ Good p c ∧ QueueOk port (nextPending p c.pkt) cs

/-- The answer to the last request, if it is still to come, is not misfiled under `p`. -/
def Safe (p : PendingReq) (s : State) : Prop :=
  ∀ f, s.lastReq = some f → s.answered = false → misfiles p (readOf f) = false

/-- What the UART task is about to send: the packet of the last request, or an answer that is filed
right; between two frames the answer to come is safe. -/
def UartOk (port : Fin bridgesCount) (p : PendingReq) (s : State) : UartPc → Prop
  | .decided _ c =>
    if c.isRequest then ∃ f, s.lastReq = some f ∧ Shows port c.pkt f
    else s.answered = true ∧ c.pkt.port = portByte port ∧ Good p c
  | _ => Safe p s

variable (port) in
structure Inv (s : State) : Prop where
  enabled : s.cache.enabled = true
  reason : s.ctx.reasons &&& reasonCache ≠ 0
  request : ∀ f, s.lastReq = some f → isRequest f = true
  queue : QueueOk port (s.cache.pending port) s.queue
  timer : ∀ c, s.timer = some c → c.pkt.port = portByte port ∧ c.pkt.isTimeout = true
  uart : UartOk port (s.drained port) s s.uart

lemma queueOk_concat {cs : List Captured} {c : Captured} :
    QueueOk port p (cs ++ [c]) ↔
      QueueOk port p cs ∧ c.pkt.port = portByte port ∧
        Good (cs.foldl (fun p c => nextPending p c.pkt) p) c := by
  induction cs generalizing p with
  | nil => simp [QueueOk]
  | cons c' cs ih =>
    rw [List.cons_append, QueueOk, QueueOk, List.foldl_cons, ih]
    simp only [and_assoc]

lemma UartOk.ended {u : UartPc} (h : UartOk port p s u) :
    UartOk port { p with valid := false } s u := by
  cases u with
  | decided d c =>
    rw [UartOk] at h ⊢
    split
    · rename_i hreq
      rwa [if_pos hreq] at h
    rename_i hreq
    rw [if_neg hreq] at h
    -- with nothing pending no answer is filed
    refine ⟨h.1, h.2.1, fun hfiles => ?_⟩
    rw [files_ended] at hfiles
    cases hfiles
  | idle | arming | abandoning => exact fun f _ _ => misfiles_ended p _

lemma fcIsCacheable_exception (fc : UInt8) : Cache.fcIsCacheable (fc ||| 0x80) = false := by
  by_contra h
  have hle : 128 ≤ (fc ||| 0x80).toNat := by
    rw [UInt8.toNat_or]
    exact Nat.right_le_or
  rcases Cache.fcIsCacheable_cases (by simpa using h) with h | h | h | h <;>
    rw [h] at hle <;> exact absurd hle (by decide)

lemma good_of_answers {req : Bytes} {c : Captured} (hans : answers req f = true)
    (hshows : Shows port c.pkt f) (hlast : c.lastReq = some req)
    (hsafe : misfiles p (readOf req) = false) : Good p c := by
  intro hfiles
  simp only [files, SniffPacket.isReadResponse, Cache.responseFits, PendingReq.matchedBy,
    Bool.and_eq_true, beq_iff_eq, hshows.slaveId, hshows.function, hshows.data] at hfiles
  obtain ⟨⟨⟨⟨⟨-, hread⟩, -⟩, -⟩, ⟨hvalid, hslave⟩, hfc⟩, hbytes, -⟩ := hfiles
  rw [byteAt_take (by decide)] at hbytes
  simp only [answers, Bool.and_eq_true, Bool.or_eq_true, beq_iff_eq] at hans
  obtain ⟨⟨-, haddr⟩, ⟨hexc, -⟩ | ⟨hfun, hnormal⟩⟩ := hans
  · -- an exception is not a read response
    rw [hexc, fcIsCacheable_exception] at hread
    cases hread
  -- the declared byte count ties the pending request's size to the one of the last request
  rw [hfun] at hread hfc hbytes
  rw [hread] at hnormal
  simp only [Bool.not_true, Bool.false_eq_true, false_or] at hnormal
  obtain ⟨⟨hlegal, hnum⟩, -⟩ := hnormal
  rw [hbytes] at hnum
  simp only [misfiles, readOf, PendingReq.matchedBy, hlegal, hvalid, hslave, haddr, hfc,
    beq_self_eq_true, Bool.true_and, hnum] at hsafe
  simp only [Bool.not_eq_false', Bool.and_eq_true, beq_iff_eq] at hsafe
  obtain ⟨hstart, hcount⟩ := hsafe
  refine ⟨req, hlast, ?_, ?_, fun i hi => ⟨?_, ?_⟩⟩
  · rw [hshows.slaveId, haddr]
    rfl
  · rw [hshows.function, hfun]
    rfl
  · exact lt_of_lt_of_le hi (UInt16.le_iff_toNat_le.1 (of_decide_eq_true hcount))
  · rw [hstart]
    rfl

lemma Inv.request_step (h : Inv port s) (hs : s.step port (.request f nowUs) = some (s', out)) :
    out = [] ∧ Inv port s' := by
  obtain ⟨⟨-, hreq, -⟩, hs⟩ := Option.ite_none_right_eq_some.1 hs
  have hreq' := hreq
  simp only [isRequest, Bool.and_eq_true, decide_eq_true_eq] at hreq'
  obtain ⟨⟨⟨hcrc, haddr⟩, -⟩, -⟩ := hreq'
  obtain ⟨d, pkt, ctx, hshows, hreasons, hhear⟩ := hear_cases port s hcrc haddr h.reason true nowUs
  rw [hhear] at hs
  cases hs
  refine ⟨rfl, h.enabled, by rw [hreasons]; exact h.reason, ?_, h.queue, h.timer, ?_⟩
  · rintro g hg
    cases hg
    exact hreq
  · exact ⟨f, rfl, hshows⟩

lemma Inv.response_step (h : Inv port s) (hs : s.step port (.response f nowUs) = some (s', out)) :
    out = [] ∧ Inv port s' := by
  obtain ⟨⟨hidle, hopen, hany⟩, hs⟩ := Option.ite_none_right_eq_some.1 hs
  cases hlast : s.lastReq with
  | none => simp [hlast] at hany
  | some req =>
    rw [hlast, Option.any_some] at hany
    -- the answer comes from the address that the request went to
    have haddr : byteAt f 0 ≤ 247 := by
      have hreq := h.request req hlast
      simp only [isRequest, answers, Bool.and_eq_true, decide_eq_true_eq, beq_iff_eq] at hreq hany
      rw [hany.1.2]
      exact hreq.1.1.2
    have hcrc : crcCheck f = true := by
      simp only [answers, Bool.and_eq_true] at hany
      exact hany.1.1.1
    have hsafe : Safe (s.drained port) s := by
      have huart := h.uart
      rwa [hidle] at huart
    obtain ⟨d, pkt, ctx, hshows, hreasons, hhear⟩ :=
      hear_cases port s hcrc haddr h.reason false nowUs
    rw [hhear] at hs
    cases hs
    refine ⟨rfl, h.enabled, by rw [hreasons]; exact h.reason, h.request, h.queue, h.timer, ?_⟩
    refine ⟨rfl, hshows.portByte, ?_⟩
    exact good_of_answers hany hshows hlast (hsafe req hlast (by simpa using hopen))

lemma misfiles_nextPending (hshows : Shows port pkt f) :
    misfiles (nextPending p pkt) (readOf f) = false := by
  rw [nextPending]
  split
  · have hread := readOf_take f
    rw [← hshows.data] at hread
    simp only [readOf, ReadReq.mk.injEq] at hread
    simp [misfiles, readOf, hread.2.2]
  · exact misfiles_ended p _

lemma Inv.send_step {ok : Bool} (h : Inv port s)
    (htracked : tracked port [] s (.send ok) = true)
    (hs : s.step port (.send ok) = some (s', out)) : out = [] ∧ Inv port s' := by
  simp only [State.step] at hs
  split at hs
  swap
  · cases hs
  rename_i d c huart
  have hu := h.uart
  rw [huart] at hu
  simp only [tracked, huart] at htracked
  cases ok with
  | true =>
    simp only [if_true] at hs
    cases hs
    -- the packet is dispatched right, and afterwards the answer to come is safe
    have hsent : c.pkt.port = portByte port ∧ Good (s.drained port) c ∧
        Safe (nextPending (s.drained port) c.pkt) s := by
      rw [UartOk] at hu
      split at hu
      · -- a request: `tracked` excludes that it is filed itself
        rename_i hreq
        obtain ⟨f, hlast, hshows⟩ := hu
        simp only [hreq, Bool.not_true, Bool.false_or, if_true, Bool.not_eq_true'] at htracked
        refine ⟨hshows.portByte, fun hfiles => ?_, fun g hg _ => ?_⟩
        · rw [htracked] at hfiles
          cases hfiles
        · obtain rfl := Option.some.inj (hlast.symm.trans hg)
          exact misfiles_nextPending hshows
      · obtain ⟨hans, hport, hgood⟩ := hu
        exact ⟨hport, hgood, fun _ _ hopen => by rw [hans] at hopen; cases hopen⟩
    have hdrained : ({ s with
        queue := s.queue ++ [c]
        uart := if d.startTimer then .arming else .idle } : State).drained port =
          nextPending (s.drained port) c.pkt := by
      simp [State.drained]
    refine ⟨rfl, h.enabled, h.reason, h.request, ?_, h.timer, ?_⟩
    · exact queueOk_concat.2 ⟨h.queue, hsent.1, hsent.2.1⟩
    · rw [hdrained]
      dsimp only
      split <;> exact hsent.2.2
  | false =>
    simp only [Bool.false_eq_true, if_false] at hs
    cases hs
    refine ⟨rfl, h.enabled, h.reason, h.request, h.queue, h.timer, fun g hg hopen => ?_⟩
    rw [UartOk] at hu
    split at hu
    · -- a dropped request: its answer meets the request that was pending before
      rename_i hreq
      obtain ⟨f, hlast, hshows⟩ := hu
      simp only [hreq, Bool.not_true, Bool.false_or, Bool.false_eq_true, if_false,
        Bool.not_eq_true', hshows.data, readOf_take] at htracked
      obtain rfl := Option.some.inj (hlast.symm.trans hg)
      exact htracked
    · -- a dropped answer: none is to come
      obtain ⟨hans, -⟩ := hu
      exact absurd (hans.symm.trans hopen) (by decide)

lemma Inv.settle_step {e : Event} (h : Inv port s) (he : (∃ ok, e = .arm ok) ∨ e = .abandon)
    (hs : s.step port e = some (s', out)) : out = [] ∧ Inv port s' := by
  rcases he with ⟨ok, rfl⟩ | rfl
  · simp only [State.step] at hs
    split at hs
    · rename_i harming
      have hu := h.uart
      rw [harming] at hu
      cases hs
      refine ⟨rfl, h.enabled, h.reason, h.request, h.queue, h.timer, ?_⟩
      dsimp only
      split <;> exact hu
    · cases hs
  · simp only [State.step] at hs
    split at hs
    · rename_i habandoning
      have hu := h.uart
      rw [habandoning] at hu
      cases hs
      exact ⟨rfl, h.enabled, h.reason, h.request, h.queue, h.timer, hu⟩
    · cases hs

lemma Inv.expire_step (h : Inv port s) (hs : s.step port .expire = some (s', out)) :
    out = [] ∧ Inv port s' := by
  simp only [State.step] at hs
  split at hs
  · cases hs
    have hcb : (s.ctx.respTimerCb (portByte port)).1.reasons = s.ctx.reasons ∧
        ∀ pkt, (s.ctx.respTimerCb (portByte port)).2 = some pkt →
          pkt.port = portByte port ∧ pkt.isTimeout = true := by
      rw [SniffCtx.respTimerCb]
      split
      · refine ⟨rfl, fun pkt hpkt => ?_⟩
        cases hpkt
        exact ⟨rfl, rfl⟩
      · exact ⟨rfl, fun pkt hpkt => by cases hpkt⟩
    refine ⟨rfl, h.enabled, by rw [hcb.1]; exact h.reason, h.request, h.queue, fun c hc => ?_, ?_⟩
    · obtain ⟨pkt, hpkt, rfl⟩ := Option.map_eq_some_iff.1 hc
      exact hcb.2 pkt hpkt
    · exact h.uart
  · cases hs

lemma Inv.sendTimeout_step {ok : Bool} (h : Inv port s)
    (hs : s.step port (.sendTimeout ok) = some (s', out)) : out = [] ∧ Inv port s' := by
  simp only [State.step] at hs
  split at hs
  swap
  · cases hs
  rename_i c hc
  obtain ⟨hport, htimeout⟩ := h.timer c hc
  cases hs
  refine ⟨rfl, h.enabled, h.reason, h.request, ?_, fun _ hnone => (by cases hnone), ?_⟩
  · cases ok with
    | false => exact h.queue
    | true =>
      refine queueOk_concat.2 ⟨h.queue, hport, fun hfiles => ?_⟩
      rw [files_timeout _ htimeout] at hfiles
      cases hfiles
  · cases ok with
    | false => exact h.uart
    | true =>
      -- once dispatched, the timeout packet ends the pending request
      have hdrained : ({ s with timer := none, queue := s.queue ++ [c] } : State).drained port =
          { s.drained port with valid := false } := by
        simp [State.drained, nextPending_timeout _ htimeout]
      have hended := h.uart.ended
      rw [← hdrained] at hended
      exact hended

lemma Inv.dispatch_step (h : Inv port s) (hs : s.step port (.dispatch nowUs) = some (s', out)) :
    (∀ o ∈ out, o.Sound) ∧ Inv port s' := by
  simp only [State.step] at hs
  split at hs
  swap
  · cases hs
  rename_i c cs hqueue
  cases hs
  have hq := h.queue
  rw [hqueue] at hq
  obtain ⟨hport, hgood, hrest⟩ := hq
  have hfeeds : s.ctx.feeds s.cache = true := by simp [SniffCtx.feeds, h.enabled, h.reason]
  have hcache : snifferWsDispatch s.ctx s.cache nowUs c.pkt =
      s.cache.step (cacheCall nowUs c.pkt) := by
    rw [snifferWsDispatch, if_pos hfeeds]
  have hpending := pending_step s.cache nowUs hport
  refine ⟨fun o ho => ?_, ?_, h.reason, h.request, ?_, h.timer, ?_⟩
  · -- what is filed now was found good when the packet was queued
    rw [State.filing, hfeeds, Bool.true_and] at ho
    split at ho
    · rename_i hresp
      split at ho
      · cases ho
      rename_i p hp
      obtain ⟨rfl, hfiles⟩ := files_of_accepts hresp hp
      obtain rfl := List.mem_singleton.1 ho
      exact hgood hfiles
    · cases ho
  · rw [hcache, enabled_step]
    exact h.enabled
  · rw [hcache, hpending]
    exact hrest
  · -- a packet moves from the queue into the cache: the drained state is the same
    have hdrained : ({ s with
        queue := cs
        cache := snifferWsDispatch s.ctx s.cache nowUs c.pkt } : State).drained port =
          s.drained port := by
      simp only [State.drained, hcache, hpending, hqueue, List.foldl_cons]
    rw [hdrained]
    exact h.uart

lemma Inv.step {s s' : State} {e : Event} {out : List Filed} (h : Inv port s)
    (htracked : tracked port [] s e = true) (hs : s.step port e = some (s', out)) :
    (∀ o ∈ out, o.Sound) ∧ Inv port s' := by
  -- every step but the dispatch observes nothing
  have quiet (hq : out = [] ∧ Inv port s') : (∀ o ∈ out, o.Sound) ∧ Inv port s' :=
    ⟨by rw [hq.1]; exact fun _ ho => absurd ho List.not_mem_nil, hq.2⟩
  cases e with
  | request f nowUs => exact quiet (h.request_step hs)
  | response f nowUs => exact quiet (h.response_step hs)
  | send ok => exact quiet (h.send_step htracked hs)
  | arm ok => exact quiet (h.settle_step (Or.inl ⟨ok, rfl⟩) hs)
  | abandon => exact quiet (h.settle_step (Or.inr rfl) hs)
  | expire => exact quiet (h.expire_step hs)
  | sendTimeout ok => exact quiet (h.sendTimeout_step hs)
  | dispatch nowUs => exact h.dispatch_step hs

/-- In every run of a port's sniffer, started with the cache on and its cache reason set, all of
whose steps are tracked, every value is filed under the address that the last request on the bus has
at the offset of the value. -/
theorem filed_sound_of_tracked {ctx : SniffCtx} {cache : Cache.State}
    (hreason : ctx.reasons &&& reasonCache ≠ 0) (henabled : cache.enabled = true)
    {log : List Filed} {s : State}
    (hrun : (machine port ctx cache).Run (tracked port · · ·) log s) : ∀ o ∈ log, o.Sound := by
  refine (hrun.invariant (P := fun log s => (∀ o ∈ log, o.Sound) ∧ Inv port s) ?_ ?_).1
  · refine ⟨fun _ ho => absurd ho List.not_mem_nil, henabled, hreason, ?_, trivial, ?_, ?_⟩
    · exact fun _ hf => by cases hf
    · exact fun _ hc => by cases hc
    · exact fun _ hf => by cases hf
  · intro log s e s' out _ hP htracked hs
    obtain ⟨hout, hinv⟩ := hP.2.step htracked hs
    exact ⟨fun o ho => (List.mem_append.1 ho).elim (hP.1 o) (hout o), hinv⟩

/-! ## Runs -/

def withCrc (b : Bytes) : Bytes := b ++ crcBytes (modbusCrc16 b b.length)

def firstPort : Fin bridgesCount := ⟨0, by decide⟩

def freshCtx : SniffCtx := ⟨.idle, reasonCache, false, 0, 0, 0, false, false⟩

def freshCache : Cache.State := ((Cache.State.init true).enable 0 true).1

/-- A read that is queued, answered and filed under its own address. -/
theorem filed_sound_of_tracked_oneRead :
    ∃ log s, (machine firstPort freshCtx freshCache).Run (tracked firstPort · · ·) log s ∧
      (∀ o ∈ log, o.Sound) ∧ s.cache.lookup 0 1 3 100 0 = .found 0x1234 := by
  obtain ⟨log, s, hrun, hfound⟩ := Machine.Run.exists_of_exec
    (machine firstPort freshCtx freshCache) (tracked firstPort · · ·)
    [.request (withCrc [1, 3, 0, 100, 0, 1]) 0, .send true, .arm true,
      .response (withCrc [1, 3, 2, 0x12, 0x34]) 0, .send true, .dispatch 0, .dispatch 0]
    (fun _ s => s.cache.lookup 0 1 3 100 0 = .found 0x1234) (by decide +kernel)
  exact ⟨log, s, hrun, filed_sound_of_tracked (by decide) (by decide) hrun, hfound⟩

/-- Slave 1 is read at 100; its answer, a transaction with slave 2 and the request of the next read
of slave 1, at 200, are dropped from the queue. The answer to that read is filed at 100. -/
theorem filed_afterDrops :
    ∃ log s, (machine firstPort freshCtx freshCache).Run Machine.anyStep log s ∧
      (∃ o ∈ log, ¬ o.Sound) ∧ s.cache.lookup 0 1 3 100 0 = .found 0x1234 :=
  Machine.Run.exists_of_exec (machine firstPort freshCtx freshCache) Machine.anyStep
    [.request (withCrc [1, 3, 0, 100, 0, 1]) 0, .send true, .arm true, .dispatch 0,
      .response (withCrc [1, 3, 2, 0x11, 0x11]) 0, .send false, .abandon,
      .request (withCrc [2, 3, 0, 10, 0, 1]) 0, .send false, .abandon,
      .response (withCrc [2, 3, 2, 0x22, 0x22]) 0, .send false, .abandon,
      .request (withCrc [1, 3, 0, 200, 0, 1]) 0, .send false, .abandon,
      .response (withCrc [1, 3, 2, 0x12, 0x34]) 0, .send true, .dispatch 0]
    (fun log s => (∃ o ∈ log, ¬ o.Sound) ∧ s.cache.lookup 0 1 3 100 0 = .found 0x1234)
    (by decide +kernel)

-- Without any drop: the answer to a read of 24 coils comes after the response timer expired, is
-- taken for a request, and the next read of that slave, at 0x0320, is then filed as its answer.
example :
    ((machine firstPort freshCtx freshCache).exec Machine.anyStep
      [.request (withCrc [1, 1, 0, 0x10, 0, 24]) 0, .send true, .arm true, .expire,
        .sendTimeout true, .response (withCrc [1, 1, 3, 0, 0, 24]) 0, .send true, .arm true,
        .request (withCrc [1, 1, 3, 0x20, 0, 8]) 0, .send true, .dispatch 0, .dispatch 0,
        .dispatch 0, .dispatch 0] [] (machine firstPort freshCtx freshCache).init).any
      (fun r => decide (∃ o ∈ r.1, ¬ o.Sound)) := by
  decide +kernel

end WbMge.Sniffer
