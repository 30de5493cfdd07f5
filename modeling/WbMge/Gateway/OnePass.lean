import WbMge.Gateway.Model
import WbMge.Reasm.Stream

/-!
# Clients without a reassembly slot

When all reassembly slots are taken, the gateway separates the requests in a receive buffer with a
loop of its own, `separate_and_push_one_pass`. On whole ADUs this loop and the reassembler queue the
same requests: `separateAndPushOnePass_eq_feed`.

The step by step model of the gateway has the frames of that loop as `onePassFrames`;
`onePassLoop_eq_pushWhile` says that the loop pushes them in order until the queue refuses one.
-/

namespace WbMge.Gateway

open Reasm (IsAdu acceptedBy deliver)

/-! ## The packet queue -/

/-- `packet_queue_elem_t`: the bytes of a request and the connection it came from. -/
structure Packet where
  data : Bytes
  clientSock : Int
  connGeneration : Nat
deriving Repr, DecidableEq

/-- The packet queue, and what `malloc` answers when it is asked for the buffer of a packet: the
outcome of each call, and the number of calls so far. -/
structure PacketQueue where
  maxLen : Nat
  elems : List Packet
  malloc : Nat → Bool
  calls : Nat

/-- `packet_queue_push_with_client`. -/
def PacketQueue.pushWithClient (q : PacketQueue) (data : Bytes) (clientSock : Int)
    (connGeneration : Nat) : PacketQueue × Bool :=
  if q.maxLen ≤ q.elems.length then (q, false)
  else if q.malloc q.calls then
    ({ q with
      elems := q.elems ++ [⟨data, clientSock, connGeneration⟩]
      calls := q.calls + 1 }, true)
  else ({ q with calls := q.calls + 1 }, false)

/-- Free space for `n` packets: a place in the queue for each, and memory for its bytes. -/
structure PacketQueue.HasRoom (q : PacketQueue) (n : Nat) : Prop where
  places : q.elems.length + n ≤ q.maxLen
  memory : ∀ i < n, q.malloc (q.calls + i) = true

def PacketQueue.extend (q : PacketQueue) (packets : List Packet) : PacketQueue :=
  { q with elems := q.elems ++ packets, calls := q.calls + packets.length }

/-! ## The two ways of separating requests -/

def onReasmFrame (connGeneration : Nat) (q : PacketQueue) (sock : Int) (frame : Bytes) :
    PacketQueue × Bool :=
  if modbusTcpCheckRequest frame then q.pushWithClient frame sock connGeneration else (q, false)

/-- The loop of `separate_and_push_one_pass`, on the bytes from `pos` on. -/
def onePassLoop (clientSock : Int) (connGeneration : Nat) (rest : Bytes) (q : PacketQueue)
    (count : Nat) : PacketQueue × Nat :=
  -- also the end of the loop: there are bytes left, but not as many as a length field needs
  if _hlen : rest.length < unitIdOffset then (q, count)
  else
    let reqLen := (tcpHeader rest).length + unitIdOffset
    if rest.length < reqLen then (q, count)
    else if ¬ modbusTcpCheckRequest (rest.take reqLen) then (q, count)
    else
      let pushed := q.pushWithClient (rest.take reqLen) clientSock connGeneration
      if pushed.2 then onePassLoop clientSock connGeneration (rest.drop reqLen) pushed.1 (count + 1)
      else (pushed.1, count)
termination_by rest.length
decreasing_by
  simp only [unitIdOffset, List.length_drop] at *
  omega

/-- The queue, and the number of requests pushed. -/
def separateAndPushOnePass (q : PacketQueue) (clientSock : Int) (connGeneration : Nat)
    (data : Bytes) : PacketQueue × Nat :=
  onePassLoop clientSock connGeneration data q 0

def pushWhile (clientSock : Int) (connGeneration : Nat) :
    List Bytes → PacketQueue → Nat → PacketQueue × Nat
  | [], q, count => (q, count)
  | frame :: frames, q, count =>
    let pushed := q.pushWithClient frame clientSock connGeneration
    if pushed.2 then pushWhile clientSock connGeneration frames pushed.1 (count + 1)
    else (pushed.1, count)

lemma onePassLoop_eq_pushWhile (clientSock : Int) (connGeneration : Nat) (rest : Bytes)
    (q : PacketQueue) (count : Nat) :
    onePassLoop clientSock connGeneration rest q count =
      pushWhile clientSock connGeneration (onePassFrames rest) q count := by
  -- the cases are the ways out of the loop, and the turn that goes on
  fun_induction onePassLoop clientSock connGeneration rest q count with
  | case1 rest q count hlen =>
    rw [onePassFrames, dif_pos hlen]
    rfl
  | case2 rest q count hlen reqLen hshort =>
    rw [onePassFrames, dif_neg hlen]
    simp only
    rw [if_pos (.inl hshort)]
    rfl
  | case3 rest q count hlen reqLen hshort hcheck =>
    rw [onePassFrames, dif_neg hlen]
    simp only
    rw [if_pos (.inr hcheck)]
    rfl
  | case4 rest q count hlen reqLen hshort hcheck pushed hpushed ih =>
    rw [onePassFrames, dif_neg hlen]
    simp only
    rw [if_neg (by tauto), pushWhile, ih]
    exact (if_pos hpushed).symm
  | case5 rest q count hlen reqLen hshort hcheck pushed hpushed =>
    rw [onePassFrames, dif_neg hlen]
    simp only
    rw [if_neg (by tauto), pushWhile]
    exact (if_neg hpushed).symm

/-! ## Whole ADUs -/

/-- The packets that the ADUs of one client become. -/
def packetsOf (clientSock : Int) (connGeneration : Nat) (adus : List Bytes) : List Packet :=
  adus.map fun adu => ⟨adu, clientSock, connGeneration⟩

section WholeAdus

variable {q : PacketQueue} {n : Nat}

lemma PacketQueue.extend_nil (q : PacketQueue) : q.extend [] = q := by
  simp [PacketQueue.extend]

lemma PacketQueue.extend_extend (q : PacketQueue) (ps ps' : List Packet) :
    (q.extend ps).extend ps' = q.extend (ps ++ ps') := by
  simp [PacketQueue.extend, Nat.add_assoc]

lemma PacketQueue.HasRoom.pushWithClient (h : q.HasRoom (n + 1)) (data : Bytes)
    (clientSock : Int) (connGeneration : Nat) :
    q.pushWithClient data clientSock connGeneration =
      (q.extend [⟨data, clientSock, connGeneration⟩], true) := by
  have hplaces := h.places
  have hmemory := h.memory 0 (Nat.succ_pos n)
  rw [Nat.add_zero] at hmemory
  rw [PacketQueue.pushWithClient, if_neg (by omega), if_pos hmemory]
  rfl

lemma PacketQueue.HasRoom.extend (h : q.HasRoom (n + 1)) (p : Packet) :
    (q.extend [p]).HasRoom n where
  places := by
    have hplaces := h.places
    simp only [PacketQueue.extend, List.length_append, List.length_singleton]
    omega
  memory i hi := by
    have hmemory := h.memory (i + 1) (Nat.succ_lt_succ hi)
    rwa [Nat.add_comm i 1, ← Nat.add_assoc] at hmemory

variable {adu : Bytes}

lemma modbusTcpCheckRequest_of_isAdu (h : IsAdu adu) : modbusTcpCheckRequest adu = true := by
  obtain ⟨hpid, hlen, hmin, hmax⟩ := h
  have hfield : ((tcpHeader adu).length + 6) % 65536 = adu.length := by omega
  simp [modbusTcpCheckRequest, tcpHeaderSize, unitIdOffset, hpid, hmin, hfield]

variable (clientSock : Int) (connGeneration : Nat)

lemma onePassLoop_adu (hadu : IsAdu adu) (hroom : q.HasRoom (n + 1)) (rest : Bytes)
    (count : Nat) :
    onePassLoop clientSock connGeneration (adu ++ rest) q count =
      onePassLoop clientSock connGeneration rest
        (q.extend [⟨adu, clientSock, connGeneration⟩]) (count + 1) := by
  have hmin : 8 ≤ adu.length := hadu.2.2.1
  have htotal : (tcpHeader (adu ++ rest)).length + unitIdOffset = adu.length := by
    rw [Reasm.tcpHeader_append hmin]
    exact hadu.2.1.symm
  rw [onePassLoop, dif_neg (by rw [List.length_append, unitIdOffset]; omega)]
  simp only [htotal, List.take_left, List.drop_left, hroom.pushWithClient]
  rw [if_neg (by rw [List.length_append]; omega),
    if_neg (not_not.2 (modbusTcpCheckRequest_of_isAdu hadu)), if_pos trivial]

lemma onePassLoop_adus {adus : List Bytes} (hadus : ∀ adu ∈ adus, IsAdu adu)
    (hroom : q.HasRoom adus.length) (count : Nat) :
    onePassLoop clientSock connGeneration adus.flatten q count =
      (q.extend (packetsOf clientSock connGeneration adus), count + adus.length) := by
  -- along the ADUs: after a push there is room for the others
  induction adus generalizing q count with
  | nil =>
    rw [onePassLoop, dif_pos (by decide), packetsOf, List.map_nil, q.extend_nil]
    rfl
  | cons adu adus ih =>
    have hadu := hadus adu List.mem_cons_self
    rw [List.flatten_cons, onePassLoop_adu clientSock connGeneration hadu hroom,
      ih (fun a ha => hadus a (List.mem_cons_of_mem adu ha)) (hroom.extend _), q.extend_extend,
      List.length_cons, Nat.add_assoc, Nat.add_comm 1]
    rfl

lemma deliver_adus {adus : List Bytes} (hadus : ∀ adu ∈ adus, IsAdu adu)
    (hroom : q.HasRoom adus.length) :
    deliver (onReasmFrame connGeneration) clientSock q adus =
        q.extend (packetsOf clientSock connGeneration adus) ∧
      acceptedBy (onReasmFrame connGeneration) clientSock q adus = adus.length := by
  induction adus generalizing q with
  | nil => exact ⟨q.extend_nil.symm, rfl⟩
  | cons adu adus ih =>
    have hframe : onReasmFrame connGeneration q clientSock adu =
        (q.extend [⟨adu, clientSock, connGeneration⟩], true) := by
      have hadu := modbusTcpCheckRequest_of_isAdu (hadus adu List.mem_cons_self)
      rw [onReasmFrame, if_pos hadu, hroom.pushWithClient]
    obtain ⟨hqueue, hcount⟩ :=
      ih (fun a ha => hadus a (List.mem_cons_of_mem adu ha)) (hroom.extend _)
    constructor
    · rw [deliver, List.foldl_cons, hframe, ← deliver, hqueue, q.extend_extend]
      rfl
    · rw [acceptedBy, hframe, hcount, List.length_cons, Nat.add_comm]
      rfl

end WholeAdus

/-- A client without a reassembly slot is served like one with a fresh slot: of a receive buffer of
whole ADUs both ways queue the same requests, in the same order and with the same identity, and
return their number. -/
theorem separateAndPushOnePass_eq_feed (adus : List Bytes) (hadus : ∀ adu ∈ adus, IsAdu adu)
    (q : PacketQueue) (hroom : q.HasRoom adus.length) (clientSock : Int) (hsock : 0 ≤ clientSock)
    (connGeneration : Nat) (r : Reasm.State) (hfresh : r.current clientSock = some []) :
    let fed := r.feed clientSock adus.flatten (onReasmFrame connGeneration) q
    let onePass := separateAndPushOnePass q clientSock connGeneration adus.flatten
    fed.2 = (onePass.1, some onePass.2) ∧ onePass.2 = adus.length ∧
      onePass.1.elems = q.elems ++ packetsOf clientSock connGeneration adus := by
  intro fed onePass
  -- both ways end with the packets of all ADUs behind those that the queue had
  have hone : onePass = (q.extend (packetsOf clientSock connGeneration adus), 0 + adus.length) :=
    onePassLoop_adus clientSock connGeneration hadus hroom 0
  obtain ⟨hbuf, hctx, hcount, -, -⟩ :=
    Reasm.State.feed_of_current (onReasmFrame connGeneration) hsock hfresh adus.flatten q
  have hfill := Reasm.fill_words (onReasmFrame connGeneration) clientSock hadus hbuf q 0
  obtain ⟨hqueue, haccepted⟩ := deliver_adus clientSock connGeneration hadus hroom
  rw [hfill, hqueue] at hctx
  rw [hfill, haccepted] at hcount
  rw [hone]
  exact ⟨Prod.ext hctx hcount, Nat.zero_add _, rfl⟩

/-- Two ADUs for a queue of ten and a table that is free. -/
theorem separateAndPushOnePass_eq_feed_two :
    let adus : List Bytes := [[0, 1, 0, 0, 0, 2, 5, 3], [0, 2, 0, 0, 0, 3, 5, 3, 9]]
    let q : PacketQueue := ⟨queueLen, [], fun _ => true, 0⟩
    (Reasm.init.feed 3 adus.flatten (onReasmFrame 7) q).2.2 = some 2 ∧
      (separateAndPushOnePass q 3 7 adus.flatten).1.elems = packetsOf 3 7 adus := by
  intro adus q
  have h := separateAndPushOnePass_eq_feed adus (by decide) q ⟨by decide, fun _ _ => rfl⟩ 3
    (by decide) 7 Reasm.init (by decide +kernel)
  refine ⟨?_, h.2.2⟩
  rw [h.1, h.2.1]
  rfl

end WbMge.Gateway
