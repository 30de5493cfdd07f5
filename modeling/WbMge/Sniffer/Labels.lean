import WbMge.Sniffer.Model

/-!
# The labels of conforming traffic

The sniffer tells masters from slaves by the shape of a frame and by whether it is waiting for an
answer. Here the bus is a list of requests, replies, response timeouts and broadcasts, in an order
that masters and slaves keep to (`conforming`). Requests and replies have the shapes of the Modbus
specification; where that leaves a shape open, any length is allowed.

Along such traffic the sniffer is idle when no request is open, and otherwise it waits with that
request latched (`SniffCtx.Tracks`). One step keeps that and emits the frame with the right label.

Fast Modbus frames are known by their command byte at any address and are labelled by their
subcommand, so a broadcast with one of the two command bytes may come out as a slave.
-/

namespace WbMge.Sniffer

/-! ## Running the sniffer -/

/-- `sniffer_process_frame` from its first line to its last, with no other task in between: the
packets that reach the queue. `enqueueOk` and `startOk` are the outcomes of the queue send and of
the timer start. -/
def SniffCtx.processFrame (ctx : SniffCtx) (port : UInt8) (nowUs : Nat) (data : Bytes)
    (enqueueOk startOk : Bool) : SniffCtx × List SniffPacket :=
  if !ctx.takes data then (ctx, [])
  else
    let (ctx, d) := ctx.decideFrame nowUs data
    -- the packet was dropped
    if d.emit && !enqueueOk then (ctx.abandon, [])
    else
      let sent := if d.emit then [framePacket port nowUs d data] else []
      if d.startTimer && !startOk then (ctx.abandon, sent) else (ctx, sent)

/-- What happens on the bus. -/
inductive BusEvent where
  | request (nowUs : Nat) (frame : Bytes)
  | reply (nowUs : Nat) (frame : Bytes)
  | broadcast (nowUs : Nat) (frame : Bytes)
  | timeout
deriving Repr, DecidableEq

def SniffCtx.feed (ctx : SniffCtx) (port : UInt8) : BusEvent → SniffCtx × List SniffPacket
  | .request nowUs frame | .reply nowUs frame | .broadcast nowUs frame =>
    ctx.processFrame port nowUs frame true true
  | .timeout => (ctx.respTimerCb port).map id Option.toList

/-- The packets of all the traffic. -/
def SniffCtx.feedAll (ctx : SniffCtx) (port : UInt8) : List BusEvent → List SniffPacket
  | [] => []
  | ev :: traffic => (ctx.feed port ev).2 ++ (ctx.feed port ev).1.feedAll port traffic

/-! ## Conforming traffic -/

def requestShape (f : Bytes) : Bool :=
  let fc := byteAt f 1
  if 0x01 ≤ fc ∧ fc ≤ 0x06 then f.length = 8
  else if fc = 0x07 ∨ fc = 0x0B ∨ fc = 0x11 then f.length = 4
  else if fc = 0x08 then 6 ≤ f.length
  else if fc = 0x0F ∨ fc = 0x10 then 1 ≤ byteAt f 6 ∧ f.length = 9 + (byteAt f 6).toNat
  else true

def replyShape (f : Bytes) : Bool :=
  let fc := byteAt f 1
  if fc = 0x01 ∨ fc = 0x02 then 1 ≤ byteAt f 2 ∧ f.length = 5 + (byteAt f 2).toNat
  else if fc = 0x03 ∨ fc = 0x04 then
    1 ≤ byteAt f 2 ∧ byteAt f 2 % 2 = 0 ∧ f.length = 5 + (byteAt f 2).toNat
  else if fc = 0x05 ∨ fc = 0x06 ∨ fc = 0x0B ∨ fc = 0x0F ∨ fc = 0x10 then f.length = 8
  else if fc = 0x07 then f.length = 5
  else if fc = 0x08 then 6 ≤ f.length
  else if fc = 0x11 then f.length = 5 + (byteAt f 2).toNat
  else true

def isUnicastRequest (f : Bytes) : Bool :=
  crcCheck f && 1 ≤ byteAt f 0 && byteAt f 0 ≤ 247 && byteAt f 1 < 0x80 &&
    !isFmFunction (byteAt f 1) && requestShape f

def isBroadcast (f : Bytes) : Bool := crcCheck f && byteAt f 0 == 0

/-- Address and function code are those of `req`. -/
def sameTarget (req f : Bytes) : Bool := byteAt f 0 == byteAt req 0 && byteAt f 1 == byteAt req 1

/-- A reply to `req`: of the same slave, with the same function code or an exception. -/
def isReply (req f : Bytes) : Bool :=
  crcCheck f && (sameTarget req f && replyShape f ||
    byteAt f 0 == byteAt req 0 && byteAt f 1 == byteAt req 1 ||| 0x80 && f.length == 5)

/-- The event may happen while `pending` is the request that is waiting for its reply, if there is
one. -/
def BusEvent.admissible (pending : Option Bytes) : BusEvent → Bool
  | .request _ f =>
    -- overtaking a request, it must not be mistakable for the reply
    isUnicastRequest f &&
      pending.all fun req => !(classifyDirection f == .unknown && sameTarget req f)
  | .reply _ f => pending.any fun req => isReply req f
  | .broadcast _ f => isBroadcast f
  | .timeout => pending.isSome

/-- The request that is open after the event. -/
def BusEvent.pending (pending : Option Bytes) : BusEvent → Option Bytes
  | .request _ f => some f
  | .reply _ _ | .timeout => none
  | .broadcast _ _ => pending

/-- The events are in an order that masters and slaves keep to. -/
def conforming : Option Bytes → List BusEvent → Bool
  | _, [] => true
  | pending, ev :: traffic => ev.admissible pending && conforming (ev.pending pending) traffic

/-- The packet that a frame should become. -/
def BusEvent.label (port : UInt8) : BusEvent → Option SniffPacket
  | .request nowUs f | .broadcast nowUs f => some (packet nowUs true f)
  | .reply nowUs f => some (packet nowUs false f)
  | .timeout => none
where
  packet (nowUs : Nat) (isMaster : Bool) (f : Bytes) : SniffPacket :=
    { port, timestampUs := nowUs, isMaster, crcValid := true, isTimeout := false,
      slaveId := byteAt f 0, function := byteAt f 1, data := f.take maxPacketLen }

/-- A broadcast with a Fast Modbus command byte. -/
def BusEvent.isFastBroadcast : BusEvent → Bool
  | .broadcast _ f => isFmFunction (byteAt f 1)
  | .request _ _ | .reply _ _ | .timeout => false

/-! ## Shapes and directions -/

variable {f req : Bytes} {ctx : SniffCtx} {pending : Option Bytes}

lemma classifyDirection_of_requestShape (hfc : byteAt f 1 < 0x80) (h : requestShape f = true) :
    classifyDirection f ≠ .response := by
  have hplain := and_exceptionFlag_eq_zero hfc
  simp only [classifyDirection, requestShape] at *
  grind

lemma classifyDirection_of_replyShape (hfc : byteAt f 1 < 0x80) (h : replyShape f = true) :
    classifyDirection f ≠ .request := by
  have hplain := and_exceptionFlag_eq_zero hfc
  -- the byte count as a number: a frame of eight bytes has three data bytes, an odd number
  have hthree : (byteAt f 2).toNat = 3 → byteAt f 2 = 3 := fun h => UInt8.toNat_inj.1 h
  have hodd : byteAt f 2 = 3 → byteAt f 2 % 2 ≠ 0 := fun h => by rw [h]; decide
  simp only [classifyDirection, replyShape] at *
  grind

lemma classifyDirection_exception {fc : UInt8} (hfc : byteAt f 1 = fc ||| 0x80)
    (hlen : f.length = 5) : classifyDirection f = .response := by
  have hflag : byteAt f 1 &&& 0x80 ≠ 0 := by
    rw [hfc, or_and_exceptionFlag]
    decide
  simp only [classifyDirection]
  rw [if_pos hflag, if_pos hlen]

lemma isFmFunction_exception (fc : UInt8) : isFmFunction (fc ||| 0x80) = false := by
  have hflag := or_and_exceptionFlag fc
  rw [isFmFunction, Bool.or_eq_false_iff, beq_eq_false_iff_ne, beq_eq_false_iff_ne]
  constructor <;> intro h <;> rw [h] at hflag <;> exact absurd hflag (by decide)

lemma sameTarget_iff :
    sameTarget req f = true ↔ byteAt f 0 = byteAt req 0 ∧ byteAt f 1 = byteAt req 1 := by
  rw [sameTarget, Bool.and_eq_true, beq_iff_eq, beq_iff_eq]

/-! ## One event -/

/-- The context follows the traffic: it is idle while no request is pending, and otherwise it waits
with the request latched. -/
def SniffCtx.Tracks (ctx : SniffCtx) (pending : Option Bytes) : Prop :=
  ctx.reasons ≠ 0 ∧ match pending with
    | none => ctx.state = .idle
    | some req => isUnicastRequest req = true ∧ ctx.state = .resWait ∧ ctx.reqValid = true ∧
        ctx.reqSlave = byteAt req 0 ∧ ctx.reqFc = byteAt req 1

section Decisions

variable {i : SniffInput} (hcrc : i.crcValid = true) (hfm : i.isFm = false)
  (hshort : i.shortFrame = false)
include hcrc hfm hshort

lemma snifferDecide_request (hbroadcast : i.broadcast = false) (hdir : i.dir ≠ .response)
    (hover : i.state = .resWait → i.dir = .unknown → i.matchesPending = false) :
    (snifferDecide i).isMaster = true ∧ (snifferDecide i).latchRequest = true ∧
      (snifferDecide i).newState = .resWait := by
  rw [snifferDecide]
  cases hstate : i.state with
  | idle => simp [hcrc, hfm, hbroadcast, hdir]
  | resWait =>
    have hnew : i.dir = .request ∨ (i.dir = .unknown ∧ i.crcValid ∧ !i.matchesPending) := by
      cases hd : i.dir with
      | request => exact .inl rfl
      | response => exact absurd hd hdir
      | unknown => exact .inr ⟨rfl, hcrc, by rw [hover hstate hd]; rfl⟩
    simp only [hfm, hshort, hbroadcast, Bool.and_false, Bool.false_eq_true, if_false, if_pos hnew,
      and_self]

lemma snifferDecide_broadcast (hbroadcast : i.broadcast = true) :
    (snifferDecide i).isMaster = true ∧ (snifferDecide i).latchRequest = false ∧
      (snifferDecide i).newState = i.state := by
  rw [snifferDecide]
  cases i.state with
  | idle => simp [hcrc, hfm, hbroadcast]
  | resWait => simp [hcrc, hfm, hshort, hbroadcast]

omit hcrc in
lemma snifferDecide_reply (hstate : i.state = .resWait) (hbroadcast : i.broadcast = false)
    (hdir : i.dir ≠ .request) (hmatch : i.dir = .unknown → i.matchesPending = true) :
    (snifferDecide i).isMaster = false ∧ (snifferDecide i).latchRequest = false ∧
      (snifferDecide i).newState = .idle := by
  have hnot : ¬ (i.dir = .request ∨ (i.dir = .unknown ∧ i.crcValid ∧ !i.matchesPending)) := by
    rintro (h | ⟨hunknown, -, hother⟩)
    · exact hdir h
    · simp [hmatch hunknown] at hother
  rw [snifferDecide, hstate]
  simp only [hfm, hshort, hbroadcast, Bool.and_false, Bool.false_eq_true, if_false, if_neg hnot,
    and_self]

end Decisions

lemma processFrame_eq (port : UInt8) (nowUs : Nat) (hreasons : ctx.reasons ≠ 0)
    (hcrc : crcCheck f = true) (haddr : byteAt f 0 ≤ 247) :
    ctx.processFrame port nowUs f true true =
      ((ctx.decideFrame nowUs f).1, [BusEvent.label.packet port nowUs
        (snifferDecide (ctx.frameInput f)).isMaster f]) := by
  have hd := ctx.decideFrame_snd nowUs haddr
  obtain ⟨hemit, hshown, hraw⟩ := ctx.decideFrame_shown hcrc
  simp only [SniffCtx.processFrame, ctx.takes_of_crcCheck hreasons hcrc, hd, hemit, Bool.not_true,
    Bool.and_false, Bool.false_eq_true, if_false, if_true, framePacket, hraw,
    stripArbitration_of_le haddr, hshown]
  rfl

lemma decideFrame_fst (ctx : SniffCtx) (nowUs : Nat) (haddr : byteAt f 0 ≤ 247) :
    (ctx.decideFrame nowUs f).1.reasons = ctx.reasons ∧
      (ctx.decideFrame nowUs f).1.state = (snifferDecide (ctx.frameInput f)).newState ∧
      ((snifferDecide (ctx.frameInput f)).latchRequest = true →
        (ctx.decideFrame nowUs f).1.reqValid = true ∧
        (ctx.decideFrame nowUs f).1.reqSlave = byteAt f 0 ∧
        (ctx.decideFrame nowUs f).1.reqFc = byteAt f 1) ∧
      ((snifferDecide (ctx.frameInput f)).latchRequest = false →
        (ctx.decideFrame nowUs f).1.reqValid = ctx.reqValid ∧
        (ctx.decideFrame nowUs f).1.reqSlave = ctx.reqSlave ∧
        (ctx.decideFrame nowUs f).1.reqFc = ctx.reqFc) := by
  simp only [SniffCtx.decideFrame, stripArbitration_of_le haddr]
  cases (snifferDecide (ctx.frameInput f)).latchRequest <;>
    cases (snifferDecide (ctx.frameInput f)).emit <;> simp

lemma SniffCtx.Tracks.matchesPending (h : ctx.Tracks (some req)) (f : Bytes) :
    (ctx.frameInput f).matchesPending = sameTarget req f := by
  obtain ⟨-, -, -, hvalid, hslave, hfc⟩ := h
  simp only [SniffCtx.frameInput, hvalid, hslave, hfc, Bool.true_and, sameTarget]

lemma isUnicastRequest_iff :
    isUnicastRequest f = true ↔ crcCheck f = true ∧
    1 ≤ byteAt f 0 ∧ byteAt f 0 ≤ 247 ∧ byteAt f 1 < 0x80 ∧ isFmFunction (byteAt f 1) = false ∧
      requestShape f = true := by
  simp only [isUnicastRequest, Bool.and_eq_true, decide_eq_true_eq, Bool.not_eq_true', and_assoc]

lemma broadcast_eq_false (ctx : SniffCtx) (h : 1 ≤ byteAt f 0) :
    (ctx.frameInput f).broadcast = false := by
  refine beq_eq_false_iff_ne.2 fun hzero => ?_
  rw [hzero] at h
  exact absurd h (by decide)

lemma SniffCtx.Tracks.request (h : ctx.Tracks pending) (port : UInt8) {nowUs : Nat}
    (hev : (BusEvent.request nowUs f).admissible pending = true) :
    ∃ ctx', ctx.processFrame port nowUs f true true =
      (ctx', [BusEvent.label.packet port nowUs true f]) ∧ ctx'.Tracks (some f) := by
  rw [BusEvent.admissible, Bool.and_eq_true] at hev
  obtain ⟨hreq, hover⟩ := hev
  obtain ⟨hcrc, hlow, hhigh, hfc, hfm, hshape⟩ := isUnicastRequest_iff.1 hreq
  obtain ⟨hvalid, hshort, hdir⟩ := frameInput_of_crcCheck ctx hcrc
  -- either nothing is pending, or the frame cannot be the reply to what is
  have hother : (ctx.frameInput f).state = .resWait → (ctx.frameInput f).dir = .unknown →
      (ctx.frameInput f).matchesPending = false := by
    intro hwait hunknown
    cases pending with
    | none => exact absurd (h.2.symm.trans hwait) (by decide)
    | some req =>
      rw [h.matchesPending]
      rw [hdir] at hunknown
      simpa [hunknown] using hover
  obtain ⟨hmaster, hlatch, hnew⟩ := snifferDecide_request hvalid hfm hshort
    (broadcast_eq_false ctx hlow) (hdir ▸ classifyDirection_of_requestShape hfc hshape) hother
  obtain ⟨hreasons, hstate, hlatched, -⟩ := decideFrame_fst ctx nowUs hhigh
  refine ⟨_, by rw [processFrame_eq port nowUs h.1 hcrc hhigh, hmaster], ?_⟩
  exact ⟨hreasons ▸ h.1, hreq, hstate.trans hnew, hlatched hlatch⟩

lemma SniffCtx.Tracks.reply (h : ctx.Tracks (some req)) (port : UInt8) (nowUs : Nat)
    (hreply : isReply req f = true) :
    ∃ ctx', ctx.processFrame port nowUs f true true =
      (ctx', [BusEvent.label.packet port nowUs false f]) ∧ ctx'.Tracks none := by
  obtain ⟨-, hlow, hhigh, hfc, hfm, -⟩ := isUnicastRequest_iff.1 h.2.1
  simp only [isReply, Bool.and_eq_true, Bool.or_eq_true] at hreply
  obtain ⟨hcrc, hkind⟩ := hreply
  obtain ⟨-, hshort, hdir⟩ := frameInput_of_crcCheck ctx hcrc
  -- a plain reply has the latched target; an exception is known by its shape
  obtain ⟨haddr, hplain, hnew, hmatch⟩ : byteAt f 0 = byteAt req 0 ∧
      isFmFunction (byteAt f 1) = false ∧ classifyDirection f ≠ .request ∧
        (classifyDirection f = .unknown → sameTarget req f = true) := by
    rcases hkind with ⟨htarget, hshape⟩ | ⟨⟨haddr, hfunction⟩, hlen⟩
    · obtain ⟨haddr, hfunction⟩ := sameTarget_iff.1 htarget
      exact ⟨haddr, hfunction ▸ hfm, classifyDirection_of_replyShape (hfunction ▸ hfc) hshape,
        fun _ => htarget⟩
    · rw [beq_iff_eq] at haddr hfunction hlen
      have hexception := classifyDirection_exception hfunction hlen
      exact ⟨haddr, hfunction ▸ isFmFunction_exception _, by simp [hexception],
        by simp [hexception]⟩
  obtain ⟨hslave, hlatch, hidle⟩ := snifferDecide_reply hplain hshort h.2.2.1
    (broadcast_eq_false ctx (haddr ▸ hlow)) (hdir ▸ hnew)
    fun hunknown => (h.matchesPending f).trans (hmatch (hdir ▸ hunknown))
  obtain ⟨hreasons, hstate, -, -⟩ := decideFrame_fst ctx nowUs (haddr ▸ hhigh)
  refine ⟨_, by rw [processFrame_eq port nowUs h.1 hcrc (haddr ▸ hhigh), hslave], ?_⟩
  exact ⟨hreasons ▸ h.1, hstate.trans hidle⟩

lemma SniffCtx.Tracks.broadcast (h : ctx.Tracks pending) (port : UInt8) (nowUs : Nat)
    (hbroadcast : isBroadcast f = true) (hfm : isFmFunction (byteAt f 1) = false) :
    ∃ ctx', ctx.processFrame port nowUs f true true =
      (ctx', [BusEvent.label.packet port nowUs true f]) ∧ ctx'.Tracks pending := by
  rw [isBroadcast, Bool.and_eq_true, beq_iff_eq] at hbroadcast
  obtain ⟨hcrc, haddr⟩ := hbroadcast
  have hhigh : byteAt f 0 ≤ 247 := by
    rw [haddr]
    decide
  obtain ⟨hvalid, hshort, -⟩ := frameInput_of_crcCheck ctx hcrc
  obtain ⟨hmaster, hlatch, hnew⟩ := snifferDecide_broadcast hvalid hfm hshort
    (show (ctx.frameInput f).broadcast = true from beq_iff_eq.2 haddr)
  obtain ⟨hreasons, hstate, -, hkept⟩ := decideFrame_fst ctx nowUs hhigh
  obtain ⟨hreq, hslave, hfunction⟩ := hkept hlatch
  refine ⟨_, by rw [processFrame_eq port nowUs h.1 hcrc hhigh, hmaster], hreasons ▸ h.1, ?_⟩
  -- a broadcast changes neither the state nor the latch, so the open request stays open
  cases pending with
  | none => exact (hstate.trans hnew).trans h.2
  | some req =>
    obtain ⟨-, hunicast, hwait, hvalid, hs, hf⟩ := h
    exact ⟨hunicast, (hstate.trans hnew).trans hwait, hreq.trans hvalid, hslave.trans hs,
      hfunction.trans hf⟩

lemma SniffCtx.Tracks.feed (h : ctx.Tracks pending) (port : UInt8) {ev : BusEvent}
    (hev : ev.admissible pending = true) (hfast : ev.isFastBroadcast = false) :
    (ctx.feed port ev).2.filter (fun pkt => !pkt.isTimeout) = (ev.label port).toList ∧
      (ctx.feed port ev).1.Tracks (ev.pending pending) := by
  cases ev with
  | request nowUs f =>
    obtain ⟨ctx', hrun, htracks⟩ := h.request port hev
    rw [SniffCtx.feed, hrun]
    exact ⟨rfl, htracks⟩
  | reply nowUs f =>
    cases pending with
    | none => cases hev
    | some req =>
      obtain ⟨ctx', hrun, htracks⟩ := h.reply port nowUs hev
      rw [SniffCtx.feed, hrun]
      exact ⟨rfl, htracks⟩
  | broadcast nowUs f =>
    obtain ⟨ctx', hrun, htracks⟩ := h.broadcast port nowUs hev hfast
    rw [SniffCtx.feed, hrun]
    exact ⟨rfl, htracks⟩
  | timeout =>
    cases pending with
    | none => cases hev
    | some req =>
      -- the timer gives the latched request up, and the packet it sends is not a frame
      obtain ⟨hreasons, -, -, hvalid, -, -⟩ := h
      have hexpire : (ctx.reqValid && ctx.reasons != 0) = true := by simp [hvalid, hreasons]
      rw [SniffCtx.feed, SniffCtx.respTimerCb, if_pos hexpire]
      exact ⟨rfl, hreasons, rfl⟩

lemma SniffCtx.Tracks.feedAll (h : ctx.Tracks pending) (port : UInt8) {traffic : List BusEvent}
    (htraffic : conforming pending traffic = true)
    (hfast : ∀ ev ∈ traffic, ev.isFastBroadcast = false) :
    (ctx.feedAll port traffic).filter (fun pkt => !pkt.isTimeout) =
      traffic.filterMap (·.label port) := by
  induction traffic generalizing ctx pending with
  | nil => rfl
  | cons ev traffic ih =>
    rw [conforming, Bool.and_eq_true] at htraffic
    obtain ⟨hlabel, htracks⟩ := h.feed port htraffic.1 (hfast ev List.mem_cons_self)
    have hrest := ih htracks htraffic.2 fun ev hev => hfast ev (List.mem_cons_of_mem _ hev)
    rw [SniffCtx.feedAll, List.filter_append, hlabel, hrest, List.filterMap_cons]
    cases ev.label port <;> rfl

/-- In conforming traffic without broadcasts that have a Fast Modbus command byte, every request
and every broadcast is emitted once as a master, and every reply once as a slave, all as valid, in
the order of the bus; what else is emitted are the timeouts. -/
theorem labels_conforming {ctx : SniffCtx} (port : UInt8) {traffic : List BusEvent}
    (hidle : ctx.state = .idle) (hreasons : ctx.reasons ≠ 0)
    (htraffic : conforming none traffic = true)
    (hfast : ∀ ev ∈ traffic, ev.isFastBroadcast = false) :
    (ctx.feedAll port traffic).filter (fun pkt => !pkt.isTimeout) =
      traffic.filterMap (·.label port) := by
  have htracks : ctx.Tracks none := ⟨hreasons, hidle⟩
  exact htracks.feedAll port htraffic hfast

def SniffCtx.listening : SniffCtx where
  state := .idle
  reasons := reasonDisplay
  reqValid := false
  reqSlave := 0
  reqFc := 0
  reqTimestampUs := 0
  synchronized := false
  lastWasMaster := false

/-- A read with a broadcast before its reply, a write that is overtaken by one that fails, and a
write that is repeated after its timeout. -/
def mixedTraffic : List BusEvent :=
  [.request 0 [1, 3, 0, 0, 0, 1, 0x84, 0x0A],
    .broadcast 1000 [0, 6, 0, 1, 0, 5, 0x19, 0xD8],
    .reply 2000 [1, 3, 2, 0, 7, 0xF9, 0x86],
    .request 3000 [1, 6, 0, 1, 0, 5, 0x18, 0x09],
    .request 4000 [2, 6, 0, 1, 0, 5, 0x18, 0x3A],
    .reply 5000 [2, 0x86, 2, 0x33, 0xA1],
    .request 6000 [1, 6, 0, 1, 0, 5, 0x18, 0x09],
    .timeout,
    .request 7000 [1, 6, 0, 1, 0, 5, 0x18, 0x09]]

theorem labels_conforming_mixedTraffic :
    (SniffCtx.listening.feedAll 0 mixedTraffic).filter (fun pkt => !pkt.isTimeout) =
        mixedTraffic.filterMap (·.label 0) ∧
      (mixedTraffic.filterMap (·.label 0)).map (·.isMaster) =
        [true, true, false, true, true, false, true, true] :=
  ⟨labels_conforming 0 (by decide) (by decide) (by decide +kernel) (by decide +kernel),
    by decide +kernel⟩

def fastBroadcast : BusEvent := .broadcast 0 [0, 0x46, 3, 0x03, 0xA1]

/-- It is emitted as a slave. -/
theorem label_fastBroadcast :
    conforming none [fastBroadcast] = true ∧
      (SniffCtx.listening.feedAll 0 [fastBroadcast]).map (·.isMaster) = [false] ∧
      (SniffCtx.listening.feedAll 0 [fastBroadcast]).filter (fun pkt => !pkt.isTimeout) ≠
        [fastBroadcast].filterMap (·.label 0) := by
  decide +kernel

end WbMge.Sniffer
