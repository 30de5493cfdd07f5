import WbMge.Cache.Model

/-!
# The bus sniffer

The model of `sniffer.c` from one delimited frame to the cache: the direction heuristic, the pure
decision table, the critical sections of `sniffer_process_frame` and of the response timer, and the
part of `sniffer_ws_dispatch` that feeds the cache.

A call of `sniffer_process_frame` is a sequence of pieces with other tasks running in between: the
critical section `SniffCtx.decideFrame`, the queue send, and, when the packet or the timer start was
lost, a second critical section `SniffCtx.abandon`. The pieces are kept apart here, without the
queue, the timers and the clock.

Lengths that the source stores in a `uint16_t` stay below `maxPacketLen`.
-/

namespace WbMge.Sniffer

def maxPacketLen : Nat := 272

def reasonDisplay : UInt8 := 0x01

def reasonCache : UInt8 := 0x02

structure SniffPacket where
  port : UInt8
  timestampUs : Nat
  isMaster : Bool
  crcValid : Bool
  isTimeout : Bool
  slaveId : UInt8
  function : UInt8
  /-- The first `data_len` bytes of `data`. -/
  data : Bytes
deriving Repr, DecidableEq

inductive PduDirection where
  | request
  | response
  | unknown
deriving Repr, DecidableEq

inductive SniffState where
  | idle
  | resWait
deriving Repr, DecidableEq

structure SniffInput where
  state : SniffState
  synchronized : Bool
  lastWasMaster : Bool
  matchesPending : Bool
  isFm : Bool
  fmSlaveSubcmd : Bool
  crcValid : Bool
  shortFrame : Bool
  broadcast : Bool
  dir : PduDirection
deriving Repr, DecidableEq

structure SniffDecision where
  emit : Bool := false
  isMaster : Bool := false
  crcValid : Bool := false
  fromRaw : Bool := false
  latchRequest : Bool := false
  newState : SniffState
  startTimer : Bool := false
  stopTimer : Bool := false
deriving Repr, DecidableEq

/-- `sniff_ctx_t`, without the handles and the port index. -/
structure SniffCtx where
  state : SniffState
  reasons : UInt8
  reqValid : Bool
  reqSlave : UInt8
  reqFc : UInt8
  reqTimestampUs : Nat
  synchronized : Bool
  lastWasMaster : Bool
deriving Repr, DecidableEq

/-! ## The frame -/

/-- The last two bytes are the CRC of the others, low byte first. -/
def crcCheck (data : Bytes) : Bool :=
  let crc := modbusCrc16 data (data.length - 2)
  4 ≤ data.length && byteAt data (data.length - 2) == UInt8.ofNat crc.toNat &&
    byteAt data (data.length - 1) == UInt8.ofNat (crc.toNat / 256)

def isFmFunction (function : UInt8) : Bool := function == 0x46 || function == 0x60

/-- Drop leading 0xFF bytes in front of a Fast Modbus frame, and only there. -/
def stripArbitration (data : Bytes) : Bytes :=
  if data.length = 0 ∨ byteAt data 0 ≠ 0xFF then data
  else
    let t := fastModbusTruncateFf data
    if 4 ≤ t.length && isFmFunction (byteAt t 1) then t else data

variable {f : Bytes}

lemma stripArbitration_of_ne (h : byteAt f 0 ≠ 0xFF) : stripArbitration f = f := by
  rw [stripArbitration, if_pos (Or.inr h)]

lemma stripArbitration_of_le (h : byteAt f 0 ≤ 247) : stripArbitration f = f := by
  refine stripArbitration_of_ne fun hff => ?_
  rw [hff] at h
  exact absurd h (by decide)

def fmIsSlaveSubcmd (subcmd : UInt8) : Bool :=
  subcmd == 0x03 || subcmd == 0x04 || subcmd == 0x09 || subcmd == 0x11 || subcmd == 0x12

def classifyDirection (data : Bytes) : PduDirection :=
  let fc := byteAt data 1
  let len := data.length
  let declared := 5 + (byteAt data 2).toNat
  if fc &&& 0x80 ≠ 0 then if len = 5 then .response else .unknown
  else if fc = 0x01 ∨ fc = 0x02 then
    -- eight bytes with a third byte of 3 fit both formulas
    if len = 8 ∧ byteAt data 2 ≠ 3 then .request
    else if 5 ≤ len ∧ len = declared ∧ len ≠ 8 then .response
    else .unknown
  else if fc = 0x03 ∨ fc = 0x04 then
    if len = 8 then .request
    else if 5 ≤ len ∧ len = declared ∧ byteAt data 2 % 2 = 0 ∧ 0 < byteAt data 2 then .response
    else .unknown
  -- request and response of these have the same length
  else if fc = 0x05 ∨ fc = 0x06 ∨ fc = 0x08 then .unknown
  else if fc = 0x07 then
    if len = 4 then .request else if len = 5 then .response else .unknown
  else if fc = 0x0B then
    if len = 4 then .request else if len = 8 then .response else .unknown
  else if fc = 0x0F ∨ fc = 0x10 then
    if len = 8 then .response
    else if 9 ≤ len ∧ len = 9 + (byteAt data 6).toNat then .request
    else .unknown
  else if fc = 0x11 then
    if len = 4 then .request else if 5 ≤ len ∧ len = declared then .response else .unknown
  else .unknown

/-! ## The decision table -/

def snifferDecide (i : SniffInput) : SniffDecision :=
  match i.state with
  | .idle =>
    if i.isFm then
      { emit := true, isMaster := !i.fmSlaveSubcmd, crcValid := i.crcValid, newState := .idle }
    else if !i.crcValid then
      -- before the first good frame noise is not shown; later it is, with the direction guessed
      if !i.synchronized then { newState := .idle }
      else { emit := true, isMaster := !i.lastWasMaster, newState := .idle }
    else if i.broadcast then
      -- nobody answers a broadcast
      { emit := true, isMaster := true, crcValid := true, newState := .idle }
    else if i.dir = .response then { emit := true, crcValid := true, newState := .idle }
    else
      -- a request, or a frame of unknown direction, which is shown as a master
      { emit := true, isMaster := true, crcValid := true, latchRequest := true,
        newState := .resWait, startTimer := true }
  | .resWait =>
    if i.shortFrame then { emit := true, fromRaw := true, newState := .idle, stopTimer := true }
    else if i.isFm then
      { emit := true, isMaster := !i.fmSlaveSubcmd, crcValid := i.crcValid, newState := .idle,
        stopTimer := true }
    else if i.crcValid && i.broadcast then
      -- the earlier request stays latched and its timer keeps running
      { emit := true, isMaster := true, crcValid := true, newState := .resWait }
    else if i.dir = .request ∨ (i.dir = .unknown ∧ i.crcValid ∧ !i.matchesPending) then
      { emit := true, isMaster := true, crcValid := true, latchRequest := true,
        newState := .resWait, startTimer := true, stopTimer := true }
    -- anything else is taken for the answer, also a frame of unknown direction that matches
    else { emit := true, crcValid := i.crcValid, newState := .idle, stopTimer := true }

lemma snifferDecide_of_crcValid {i : SniffInput} (hcrc : i.crcValid = true)
    (hshort : i.shortFrame = false) :
    (snifferDecide i).emit = true ∧ (snifferDecide i).crcValid = true ∧
      (snifferDecide i).fromRaw = false := by
  -- only noise before the first good frame is not shown
  rw [snifferDecide]
  cases i.state <;> simp only [hcrc, hshort, Bool.not_true, Bool.false_eq_true, if_false]
  all_goals repeat' split
  all_goals exact ⟨rfl, rfl, rfl⟩

/-! ## One frame -/

def SniffCtx.frameInput (ctx : SniffCtx) (effective : Bytes) : SniffInput where
  state := ctx.state
  synchronized := ctx.synchronized
  lastWasMaster := ctx.lastWasMaster
  matchesPending :=
    ctx.reqValid && byteAt effective 0 == ctx.reqSlave && byteAt effective 1 == ctx.reqFc
  isFm := isFmFunction (byteAt effective 1)
  fmSlaveSubcmd := fmIsSlaveSubcmd (if 3 ≤ effective.length then byteAt effective 2 else 0)
  crcValid := crcCheck effective
  shortFrame := effective.length < 4
  broadcast := byteAt effective 0 == 0x00
  dir := if 4 ≤ effective.length then classifyDirection effective else .unknown

/-- The first critical section of `sniffer_process_frame`: decide and apply the transition. -/
def SniffCtx.decideFrame (ctx : SniffCtx) (nowUs : Nat) (data : Bytes) :
    SniffCtx × SniffDecision :=
  let effective := stripArbitration data
  let d := snifferDecide (ctx.frameInput effective)
  let ctx := { ctx with state := d.newState }
  let ctx := if d.emit then { ctx with synchronized := true, lastWasMaster := d.isMaster } else ctx
  let ctx :=
    if d.latchRequest then
      { ctx with
        reqSlave := byteAt effective 0
        reqFc := byteAt effective 1
        reqValid := true
        reqTimestampUs := nowUs }
    else ctx
  (ctx, d)

/-- The packet `sniffer_process_frame` builds for a frame it emits. -/
def framePacket (port : UInt8) (nowUs : Nat) (d : SniffDecision) (data : Bytes) : SniffPacket :=
  let src := if d.fromRaw then data else stripArbitration data
  { port, timestampUs := nowUs, isMaster := d.isMaster, crcValid := d.crcValid, isTimeout := false,
    slaveId := byteAt src 0, function := byteAt src 1, data := src.take maxPacketLen }

/-- The critical section that gives a lost exchange up: the packet was dropped, or the response
timer could not be started. -/
def SniffCtx.abandon (ctx : SniffCtx) : SniffCtx := { ctx with state := .idle, reqValid := false }

/-- `sniffer_process_frame` handles a frame at all. -/
def SniffCtx.takes (ctx : SniffCtx) (data : Bytes) : Bool := ctx.reasons != 0 && 4 ≤ data.length

lemma four_le_length_of_crcCheck (h : crcCheck f = true) : 4 ≤ f.length := by
  simp only [crcCheck, Bool.and_eq_true, decide_eq_true_eq] at h
  exact h.1.1

lemma SniffCtx.takes_of_crcCheck (ctx : SniffCtx) (hreasons : ctx.reasons ≠ 0)
    (hcrc : crcCheck f = true) : ctx.takes f = true := by
  simp [SniffCtx.takes, hreasons, four_le_length_of_crcCheck hcrc]

lemma frameInput_of_crcCheck (ctx : SniffCtx) (h : crcCheck f = true) :
    (ctx.frameInput f).crcValid = true ∧ (ctx.frameInput f).shortFrame = false ∧
      (ctx.frameInput f).dir = classifyDirection f := by
  have hlen := four_le_length_of_crcCheck h
  exact ⟨h, decide_eq_false (by omega), if_pos hlen⟩

lemma SniffCtx.decideFrame_snd (ctx : SniffCtx) (nowUs : Nat) (haddr : byteAt f 0 ≤ 247) :
    (ctx.decideFrame nowUs f).2 = snifferDecide (ctx.frameInput f) := by
  rw [SniffCtx.decideFrame, stripArbitration_of_le haddr]

lemma SniffCtx.decideFrame_shown (ctx : SniffCtx) (hcrc : crcCheck f = true) :
    (snifferDecide (ctx.frameInput f)).emit = true ∧
      (snifferDecide (ctx.frameInput f)).crcValid = true ∧
      (snifferDecide (ctx.frameInput f)).fromRaw = false := by
  obtain ⟨hvalid, hshort, -⟩ := frameInput_of_crcCheck ctx hcrc
  exact snifferDecide_of_crcValid hvalid hshort

/-- A port after `sniffer_init`, once the sniffer runs for `reasons`. -/
def SniffCtx.started (reasons : UInt8) : SniffCtx where
  state := .idle
  reasons := reasons
  reqValid := false
  reqSlave := 0
  reqFc := 0
  reqTimestampUs := 0
  synchronized := false
  lastWasMaster := false

/-! ## The response timer -/

def respTimeoutMs : Nat := 200

/-- The critical section of `resp_timer_cb`, and the timeout packet it goes on to send, if any. The
request stays latched. -/
def SniffCtx.respTimerCb (ctx : SniffCtx) (port : UInt8) : SniffCtx × Option SniffPacket :=
  if ctx.reqValid && ctx.reasons != 0 then
    ({ ctx with synchronized := true, lastWasMaster := true, state := .idle },
      some
        { port, timestampUs := ctx.reqTimestampUs + respTimeoutMs * 1000, isMaster := true,
          crcValid := true, isTimeout := true, slaveId := ctx.reqSlave, function := ctx.reqFc,
          data := [] })
  else ({ ctx with state := .idle }, none)

/-! ## Reasons -/

/-- The sniffer runs for `reason`. -/
def SniffCtx.runsFor (ctx : SniffCtx) (reason : UInt8) : Bool := ctx.reasons &&& reason != 0

/-- `sniffer_enable`; `queue` says that `sniffer_init` created the queue. -/
def SniffCtx.enable (ctx : SniffCtx) (queue : Bool) (reason : UInt8) : SniffCtx :=
  if queue then { ctx with reasons := ctx.reasons ||| reason } else ctx

/-- `sniffer_disable`. The framing state goes with the last reason. -/
def SniffCtx.disable (ctx : SniffCtx) (reason : UInt8) : SniffCtx :=
  let becameIdle := ctx.reasons != 0 && ctx.reasons &&& ~~~reason == 0
  let ctx := { ctx with reasons := ctx.reasons &&& ~~~reason }
  if becameIdle then { ctx with reqValid := false, state := .idle } else ctx

/-- `sniffer_detach`: every reason is disabled. -/
def SniffCtx.detach (ctx : SniffCtx) : SniffCtx :=
  (ctx.disable reasonDisplay).disable reasonCache

@[simp] lemma SniffCtx.reasons_disable (ctx : SniffCtx) (reason : UInt8) :
    (ctx.disable reason).reasons = ctx.reasons &&& ~~~reason := by
  simp only [disable]
  split <;> rfl

@[simp] lemma SniffCtx.runsFor_enable_cache (ctx : SniffCtx) :
    (ctx.enable true reasonCache).runsFor reasonCache = true := by
  have h : ∀ r : BitVec 8, (UInt8.ofBitVec r ||| reasonCache) &&& reasonCache != 0 := by
    decide +kernel
  exact h ctx.reasons.toBitVec

@[simp] lemma SniffCtx.runsFor_disable_self (ctx : SniffCtx) (reason : UInt8) :
    (ctx.disable reason).runsFor reason = false := by
  rw [runsFor, reasons_disable, UInt8.and_assoc, UInt8.not_and_self, UInt8.and_zero]
  rfl

@[simp] lemma SniffCtx.runsFor_detach_cache (ctx : SniffCtx) :
    ctx.detach.runsFor reasonCache = false :=
  runsFor_disable_self _ _

@[simp] lemma SniffCtx.runsFor_cache_enable_display (ctx : SniffCtx) (queue : Bool) :
    (ctx.enable queue reasonDisplay).runsFor reasonCache = ctx.runsFor reasonCache := by
  have h : ∀ r : BitVec 8, (UInt8.ofBitVec r ||| reasonDisplay) &&& reasonCache =
      UInt8.ofBitVec r &&& reasonCache := by decide +kernel
  cases queue with
  | false => rfl
  | true => exact congrArg (· != 0) (h ctx.reasons.toBitVec)

@[simp] lemma SniffCtx.runsFor_cache_disable_display (ctx : SniffCtx) :
    (ctx.disable reasonDisplay).runsFor reasonCache = ctx.runsFor reasonCache := by
  rw [runsFor, reasons_disable, UInt8.and_assoc]
  rfl

/-! ## Feeding the cache -/

/-- `sniffer_ws_dispatch` takes the packet for a read request. -/
def SniffPacket.isReadRequest (pkt : SniffPacket) : Bool :=
  pkt.isMaster && !pkt.isTimeout && Cache.fcIsCacheable pkt.function && pkt.crcValid &&
    8 ≤ pkt.data.length

/-- `sniffer_ws_dispatch` takes the packet for a read response. -/
def SniffPacket.isReadResponse (pkt : SniffPacket) : Bool :=
  !pkt.isMaster && !pkt.isTimeout && Cache.fcIsCacheable pkt.function && pkt.crcValid &&
    5 ≤ pkt.data.length

def startReg (data : Bytes) : UInt16 := UInt16.ofNat (u16be (byteAt data 2) (byteAt data 3))

def count (data : Bytes) : UInt16 := UInt16.ofNat (u16be (byteAt data 4) (byteAt data 5))

/-- The call of `sniffer_ws_dispatch` into the cache for a packet of a port whose cache reason is
set. Whatever is neither a read request nor a read response ends the pending request. -/
def cacheCall (nowUs : Nat) (pkt : SniffPacket) : Cache.Op :=
  if pkt.isReadRequest then
    .onRequest pkt.port pkt.slaveId pkt.function (startReg pkt.data) (count pkt.data)
  else if pkt.isReadResponse then
    .onResponse nowUs pkt.port pkt.slaveId pkt.function pkt.data pkt.timestampUs
  else .clearPending pkt.port

def SniffCtx.feeds (ctx : SniffCtx) (cache : Cache.State) : Bool :=
  cache.enabled && ctx.reasons &&& reasonCache != 0

/-- The cache part of `sniffer_ws_dispatch`. -/
def snifferWsDispatch (ctx : SniffCtx) (cache : Cache.State) (nowUs : Nat) (pkt : SniffPacket) :
    Cache.State :=
  if ctx.feeds cache then cache.step (cacheCall nowUs pkt) else cache

end WbMge.Sniffer
