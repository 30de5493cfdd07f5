import WbMge.Gateway.Identity

/-!
# Requests and replies

The serial handler answers with whatever the port has pending: the transaction id of the last
request an RTU frame was built from and the captured pair of the last request taken from the queue.
It compares a received frame with neither, and an answer retires nothing. So a late, repeated or
foreign frame goes to a client under a transaction it does not belong to (`pairing_lateReply`), and
one transaction can be answered twice (`duplicate_secondFrame`).

Both properties hold of the runs whose bus frames keep to the request in flight:

* `inTurn`: a frame that the handler would send arrives while the pending transaction id is that of
  a forwarded request of the same connection, with its unit id and function code;
* `singleAnswer`: at most one frame passes the checks of the handler per transaction.
-/

namespace WbMge.Gateway

variable {device : Bytes → Bytes} {s s' : State} {e : Event} {out log : List Obs}

/-! ## The request whose transaction id is pending -/

/-- The pending transaction id is the one of the request recorded for it, which the connection
of its capture enqueued. -/
def TxnPending (log : List Obs) (s : State) : Prop :=
  ∀ t, s.txn = some t → .enqueued t.req.capture.conn t.req ∈ log ∧
    s.pendingTid = (tcpHeader t.req.data).transactionId

lemma TxnPending.of_same (h : TxnPending log s) (htid : s'.pendingTid = s.pendingTid)
    (htxn : s'.txn = s.txn) (out : List Obs) : TxnPending (log ++ out) s' := by
  intro t ht
  obtain ⟨henq, htid'⟩ := h t (htxn ▸ ht)
  exact ⟨List.mem_append_left out henq, htid.trans htid'⟩

lemma txnPending_step (hid : Identity log s) (hi : TxnPending log s)
    (h : step device s e = some (s', out)) : TxnPending (log ++ out) s' := by
  by_cases hnet : e.isNet
  · obtain ⟨-, -, -, -, hpend, -⟩ := net_frame hnet h
    rcases hpend with ⟨htid, -, -, -, htxn⟩ | ⟨-, -, -, -, htxn⟩
    · exact hi.of_same htid htxn out
    · intro t ht
      rw [htxn] at ht
      cases ht
  · obtain ⟨-, -, -, -, -, -, ⟨htid, htxn⟩ | ⟨t, hserver, htxn, htid⟩, -⟩ := task_frame hnet h
    · exact hi.of_same htid htxn out
    · -- the request built from is the one the server task has fetched
      intro t' ht'
      obtain rfl : t = t' := by simpa [htxn] using ht'
      have hvalid := hid.server t (by simp [hserver, ServerPc.txn?])
      exact ⟨List.mem_append_left out hvalid.enqueued, htid⟩

lemma txnPending_invariant {ok : List Obs → State → Event → Prop}
    (hrun : (machine device).Run ok log s) : TxnPending log s :=
  hrun.invariant (by simp [TxnPending, machine, init])
    fun hrun hi _ h => txnPending_step (identity_invariant hrun) hi h

/-! ## Pairing -/

/-- `adu` answers `req`: same transaction id and unit id, and the function code of the request
up to the exception bit. -/
def Answers (adu req : Bytes) : Prop :=
  (tcpHeader adu).transactionId = (tcpHeader req).transactionId ∧
    (tcpHeader adu).unitId = (tcpHeader req).unitId ∧
    plainFunction (tcpHeader adu).function = plainFunction (tcpHeader req).function
deriving Decidable

/-- Every ADU the serial handler sends answers a request that the receiving client sent and
that was forwarded to RS-485. -/
def PairedReplies (log : List Obs) : Prop :=
  ∀ txn req retired owner adu, .written (.serial txn) req retired owner adu ∈ log →
    ∃ c t rtu, owner = .conn c ∧ .enqueued c t.req ∈ log ∧ .forwarded t rtu ∈ log ∧
      Answers adu t.req.data

def Event.isUartPhase : Event → Bool
  | .uartFrame _ _ | .uartSignal | .uartReadPair | .uartSend _ _ => true
  | _ => false

/-- The serial handler runs in one go. -/
def atomicHandler (_log : List Obs) (_s : State) (e : Event) : Bool := !e.isUartPhase

/-- The handler would send the answer it builds from `data`: all checks pass and the pending
pair is current. -/
def State.wouldSend (s : State) (data : Bytes) (mallocOk : Bool) : Bool :=
  (s.serialReply data mallocOk).isSome && 0 ≤ s.pendingClientSock &&
    s.pendingConnGeneration == s.connGeneration

/-- The observation that the request `t` was forwarded. -/
def Obs.forwards (t : Txn) : Obs → Bool
  | .forwarded t' _ => t' == t
  | _ => false

/-- The frame `data` belongs to the request whose transaction id is pending: that request was
forwarded, the pending pair is one of the same connection, captured less than `2 ^ 32`
retirements ago, and unit id and function code are those of the request. -/
def frameInTurn (log : List Obs) (s : State) (data : Bytes) : Bool :=
  match s.txn, s.pendingReq with
  | some t, some req =>
    log.any (Obs.forwards t) && req.capture.conn == t.req.capture.conn &&
      s.retired < req.capture.retired + 2 ^ 32 &&
      (rtuHeader (fastModbusTruncateFf data)).slaveId == (tcpHeader t.req.data).unitId &&
      plainFunction (rtuHeader (fastModbusTruncateFf data)).function ==
        plainFunction (tcpHeader t.req.data).function
  | _, _ => false

/-- Each call of the serial handler is one step, and a frame that it would send belongs to the
request whose transaction id is pending. -/
def inTurn (log : List Obs) (s : State) (e : Event) : Bool :=
  match e with
  | .serial data mallocOk _ _ => !s.wouldSend data mallocOk || frameInTurn log s data
  | e => !e.isUartPhase

variable {data : Bytes} {t : Txn}

lemma frameInTurn_iff :
    frameInTurn log s data ↔ ∃ t req rtu, s.txn = some t ∧ s.pendingReq = some req ∧
      .forwarded t rtu ∈ log ∧ req.capture.conn = t.req.capture.conn ∧
      s.retired < req.capture.retired + 2 ^ 32 ∧
      (rtuHeader (fastModbusTruncateFf data)).slaveId = (tcpHeader t.req.data).unitId ∧
      plainFunction (rtuHeader (fastModbusTruncateFf data)).function =
        plainFunction (tcpHeader t.req.data).function := by
  have hforwards : ∀ t, log.any (Obs.forwards t) = true ↔ ∃ rtu, .forwarded t rtu ∈ log := by
    intro t
    rw [List.any_eq_true]
    constructor
    · rintro ⟨o, ho, hfwd⟩
      cases o with
      | forwarded t' rtu =>
        obtain rfl : t' = t := by simpa [Obs.forwards] using hfwd
        exact ⟨rtu, ho⟩
      | _ => simp [Obs.forwards] at hfwd
    · rintro ⟨rtu, ho⟩
      exact ⟨_, ho, by simp [Obs.forwards]⟩
  cases htxn : s.txn with
  | none => simp [frameInTurn, htxn]
  | some t =>
    cases hreq : s.pendingReq with
    | none => simp [frameInTurn, htxn, hreq]
    | some req =>
      simp only [frameInTurn, htxn, hreq, Bool.and_eq_true, beq_iff_eq, decide_eq_true_eq,
        hforwards]
      constructor
      · rintro ⟨⟨⟨⟨⟨rtu, hfwd⟩, hconn⟩, hret⟩, hunit⟩, hfun⟩
        exact ⟨t, req, rtu, rfl, rfl, hfwd, hconn, hret, hunit, hfun⟩
      · rintro ⟨t', req', rtu, ht', hreq', hfwd, hconn, hret, hunit, hfun⟩
        obtain rfl := Option.some.inj ht'
        obtain rfl := Option.some.inj hreq'
        exact ⟨⟨⟨⟨⟨rtu, hfwd⟩, hconn⟩, hret⟩, hunit⟩, hfun⟩

lemma serialReply_header {adu : Bytes} {mallocOk : Bool} (htid : s.pendingTid < 65536)
    (h : s.serialReply data mallocOk = some adu) :
    (tcpHeader adu).transactionId = s.pendingTid ∧
      (tcpHeader adu).unitId = (rtuHeader (fastModbusTruncateFf data)).slaveId ∧
      (tcpHeader adu).function = (rtuHeader (fastModbusTruncateFf data)).function := by
  simp only [State.serialReply] at h
  repeat' split at h
  all_goals first
    | exact modbusTcpFromRtu_header htid (by decide) h
    | cases h

/-- In every run whose bus frames belong to the request in flight, every ADU the serial handler
sends answers a forwarded request of the client that receives it. -/
theorem pairedReplies_of_inTurn (hrun : (machine device).Run (inTurn · · ·) log s) :
    PairedReplies log := by
  induction hrun with
  | init => simp [PairedReplies]
  | @step log s e s' out hrun hok h ih =>
    intro txn req retired owner adu hmem
    rcases List.mem_append.mp hmem with hold | hnew
    · obtain ⟨c, t, rtu, rfl, henq, hfwd, hans⟩ := ih txn req retired owner adu hold
      exact ⟨c, t, rtu, rfl, List.mem_append_left _ henq, List.mem_append_left _ hfwd, hans⟩
    -- the write is of this step: who sent it, and under which pair
    have hid := identity_invariant hrun
    obtain ⟨elem, hreq, -, howner⟩ := written_of_step hid h hnew
    obtain ⟨rfl, hsender⟩ := written_cases h hnew
    rcases hsender with ⟨reply, t, -, hpath, -⟩ | ⟨lockOk, sendOk, txn', sock, generation, rfl, -⟩ |
      ⟨data, mallocOk, lockOk, sendOk, rfl, hreply, -, rfl, -, hgen, hsock⟩
    · cases hpath
    · -- the phases of the handler are not taken one by one here
      simp [inTurn, Event.isUartPhase] at hok
    · -- the frame is sent, so it is in turn
      have hturn : frameInTurn log s data := by
        simpa [inTurn, State.wouldSend, hreply, hgen, hsock] using hok
      obtain ⟨t, req, rtu, htxn, hpend, hfwd, hconn, hret, hunit, hfun⟩ :=
        frameInTurn_iff.mp hturn
      obtain ⟨henq, htid⟩ := txnPending_invariant hrun t htxn
      obtain ⟨hadu₁, hadu₂, hadu₃⟩ :=
        serialReply_header (by rw [htid]; exact transactionId_lt _) hreply
      obtain rfl : req = elem := by simpa [hpend] using hreq
      refine ⟨t.req.capture.conn, t, rtu, ?_, List.mem_append_left _ henq,
        List.mem_append_left _ hfwd, ?_⟩
      · rw [howner hret, hconn]
      · exact ⟨hadu₁.trans htid, hadu₂.trans hunit, by rw [hadu₃, hfun]⟩

/-- A request of one client is forwarded and answered in turn. -/
theorem pairedReplies_of_inTurn_oneRequest :
    ∃ log s, (machine id).Run (inTurn · · ·) log s ∧
      (∃ path req retired adu, .written path req retired (.conn 0) adu ∈ log) ∧
      PairedReplies log := by
  obtain ⟨log, s, hrun, hmem⟩ := Machine.Run.exists_of_exec (machine id) (inTurn · · ·)
    (asks 1 firstElem.data ++ awaits ++
      [.serial [5, 3, 2, 0, 7, 8, 70] true true true, .resume])
    (fun log _ => .written (.serial (some ⟨0, firstElem⟩)) (some firstElem) 0 (.conn 0)
      [0, 1, 0, 0, 0, 5, 5, 3, 2, 0, 7] ∈ log)
    (by decide +kernel)
  exact ⟨log, s, hrun, ⟨_, _, _, _, hmem⟩, pairedReplies_of_inTurn hrun⟩

/-- Client 0 asks unit 5 and the wait for it times out. Client 1 asks unit 6, and then the late
answer of unit 5 arrives: it is sent to client 1 under the transaction id of the request to
unit 6. -/
theorem pairing_lateReply :
    ∃ log s, (machine id).Run (atomicHandler · · ·) log s ∧ ¬ PairedReplies log := by
  let req₁ : Bytes := [0, 2, 0, 0, 0, 6, 6, 3, 0, 0, 0, 1]
  let adu : Bytes := [0, 2, 0, 0, 0, 5, 5, 3, 2, 0, 7]
  let elem₁ : PacketQueueElem := ⟨req₁, 4, 0, ⟨1, 0⟩⟩
  obtain ⟨log, s, hrun, hmem, hfwd⟩ := Machine.Run.exists_of_exec (machine id) (atomicHandler · · ·)
    (asks 1 firstElem.data ++
      [.accept 4, .register true, .spawn true, .receive 1 req₁, .push 1 true, .handled 1] ++
      awaits ++ [.expire, .resume] ++ awaits ++ [.serial [5, 3, 2, 0, 7, 8, 70] true true true])
    (fun log _ => .written (.serial (some ⟨1, elem₁⟩)) (some elem₁) 0 (.conn 1) adu ∈ log ∧
      log.all (fun o => match o with
        | .forwarded t _ => !decide (Answers adu t.req.data)
        | _ => true))
    (by decide +kernel)
  refine ⟨log, s, hrun, fun hpaired => ?_⟩
  obtain ⟨c, t, rtu, -, -, hmem', hans⟩ := hpaired _ _ _ _ _ hmem
  simpa [hans] using List.all_eq_true.mp hfwd _ hmem'

/-! ## Uniqueness -/

/-- The observation that the serial handler sent an ADU under the transaction of `t`. -/
def Obs.isReplyTo (t : Txn) : Obs → Bool
  | .written (.serial (some t')) _ _ _ _ => t' == t
  | _ => false

/-- The observation that the serial handler built an answer to `t`. -/
def Obs.isAnswerTo (t : Txn) : Obs → Bool
  | .answered (some t') _ => t' == t
  | _ => false

/-- No request is answered twice. -/
def UniqueReplies (log : List Obs) : Prop :=
  ∀ t rtu, .forwarded t rtu ∈ log → log.countP (Obs.isReplyTo t) ≤ 1

/-- If `data` passes the checks of the handler, it is the first frame to do so since the pending
transaction id was set. -/
def firstAnswer (log : List Obs) (s : State) (data : Bytes) (mallocOk : Bool) : Bool :=
  match s.txn, s.serialReply data mallocOk with
  | some t, some _ => !log.any (Obs.isAnswerTo t)
  | _, _ => true

/-- At most one frame per transaction passes the checks. -/
def singleAnswer (log : List Obs) (s : State) (e : Event) : Bool :=
  match e with
  | .serial data mallocOk _ _ => firstAnswer log s data mallocOk
  | .uartFrame data mallocOk => firstAnswer log s data mallocOk
  | _ => true

def UartPc.txn? : UartPc → Option Txn
  | .framed _ txn _ | .signalled txn _ | .sending txn _ _ _ _ => txn
  | .idle => none

/-- 1 for the request `t` itself, 0 otherwise. -/
def one (t : Txn) (txn : Option Txn) : Nat := if txn = some t then 1 else 0

@[simp] lemma one_none (t : Txn) : one t none = 0 := by simp [one]

/-- Answers to `t` that were sent or are about to be sent come from different frames, and at
most one frame made an answer. -/
def AnsweredOnce (t : Txn) (log : List Obs) (s : State) : Prop :=
  log.countP (Obs.isReplyTo t) + one t s.uart.txn? ≤ log.countP (Obs.isAnswerTo t) ∧
    log.countP (Obs.isAnswerTo t) ≤ 1

lemma countP_reply_serial (t : Txn) (txn : Option Txn) (req : Option PacketQueueElem)
    (sock : Int) (generation : UInt32) (adu : Bytes) (lockOk sendOk : Bool) :
    (s.sendToCapturedClient (.serial txn) req sock generation adu lockOk sendOk).countP
      (Obs.isReplyTo t) ≤ one t txn := by
  simp only [State.sendToCapturedClient]
  split
  · split
    · cases txn with
      | none => simp [Obs.isReplyTo]
      | some t' => simp [Obs.isReplyTo, one]
    · simp
  · simp

lemma countP_send {p : Obs → Bool} {path : ReplyPath} {req : Option PacketQueueElem} {sock : Int}
    {generation : UInt32} {adu : Bytes} {lockOk sendOk : Bool}
    (hp : ∀ owner, p (.written path req s.retired owner adu) = false) :
    (s.sendToCapturedClient path req sock generation adu lockOk sendOk).countP p = 0 := by
  simp only [State.sendToCapturedClient]
  split
  · split <;> simp [hp]
  · simp

lemma isAnswerTo_answered (t : Txn) (txn : Option Txn) (adu : Bytes) :
    [Obs.answered txn adu].countP (Obs.isAnswerTo t) = one t txn := by
  cases txn with
  | none => simp [Obs.isAnswerTo]
  | some t' =>
    by_cases h : t' = t <;> simp [Obs.isAnswerTo, one, h]

lemma AnsweredOnce.of_sends (hi : AnsweredOnce t log s)
    (hreply : out.countP (Obs.isReplyTo t) + one t s'.uart.txn? ≤ one t s.uart.txn?)
    (hanswer : out.countP (Obs.isAnswerTo t) = 0) : AnsweredOnce t (log ++ out) s' := by
  obtain ⟨hle, hone⟩ := hi
  simp only [AnsweredOnce, List.countP_append, hanswer]
  omega

lemma AnsweredOnce.of_answers (hi : AnsweredOnce t log s)
    (hnew : one t s.txn = 1 → log.countP (Obs.isAnswerTo t) = 0)
    (hreply : out.countP (Obs.isReplyTo t) + one t s'.uart.txn? ≤ one t s.txn)
    (hanswer : out.countP (Obs.isAnswerTo t) = one t s.txn) : AnsweredOnce t (log ++ out) s' := by
  obtain ⟨hle, hone⟩ := hi
  have hbound : one t s.txn = 0 ∨ one t s.txn = 1 := by
    simp only [one]
    split <;> simp
  simp only [AnsweredOnce, List.countP_append, hanswer]
  -- either the frame answers another request, or this one had no answer before
  rcases hbound with h0 | h1
  · omega
  · have := hnew h1
    omega

lemma countP_answer_eq_zero {adu : Bytes} {mallocOk : Bool}
    (hfirst : firstAnswer log s data mallocOk) (hreply : s.serialReply data mallocOk = some adu)
    (hone : one t s.txn = 1) : log.countP (Obs.isAnswerTo t) = 0 := by
  have htxn : s.txn = some t := by
    by_contra hne
    simp [one, hne] at hone
  simp only [firstAnswer, htxn, hreply, Bool.not_eq_true', List.any_eq_false] at hfirst
  exact List.countP_eq_zero.mpr hfirst

lemma answeredOnce_step (hi : AnsweredOnce t log s) (hok : singleAnswer log s e)
    (h : step device s e = some (s', out)) : AnsweredOnce t (log ++ out) s' := by
  by_cases hnet : e.isNet
  · obtain ⟨-, huart, -, -, -, ⟨rfl, -⟩ | ⟨c, elem, frames, onePass, -, rfl, -⟩⟩ := net_frame hnet h
    · exact hi.of_sends (by simp [huart]) (by simp)
    · exact hi.of_sends (by simp [huart, Obs.isReplyTo]) (by simp [Obs.isAnswerTo])
  cases Step.of_step h with
  | fetchTcpRequest | drop | answer | build | sendRtuRequest | sendFail | clearBits | waitTxDone
  | expire | resume | uartRefuse | serialRefuse =>
    exact hi.of_sends (by simp [Obs.isReplyTo]) (by simp [Obs.isAnswerTo])
  | sendLocalReply =>
    refine hi.of_sends ?_ (countP_send fun _ => rfl)
    rw [countP_send (p := Obs.isReplyTo t) fun _ => rfl, Nat.zero_add]
  | @uartFrame _ _ adu _ hreply =>
    -- the handler now works on the answer it has built
    have hnew := countP_answer_eq_zero (t := t) hok hreply
    refine hi.of_answers hnew (by simp [Obs.isReplyTo, UartPc.txn?]) ?_
    rw [← isAnswerTo_answered t s.txn adu]
    simp [List.countP_cons, Obs.isAnswerTo]
  | uartSignal huart =>
    exact hi.of_sends (by simp [Obs.isReplyTo, huart, UartPc.txn?]) (by simp [Obs.isAnswerTo])
  | uartReadPair huart => exact hi.of_sends (by simp [huart, UartPc.txn?]) (by simp)
  | @uartSend lockOk sendOk txn adu sock generation req huart =>
    refine hi.of_sends ?_ (countP_send fun _ => rfl)
    simpa [huart, UartPc.txn?] using countP_reply_serial (s := s) t txn req sock generation adu
      lockOk sendOk
  | @serial _ _ lockOk sendOk adu huart hreply =>
    -- built and sent in one step, nothing stays with the handler
    have hnew := countP_answer_eq_zero (t := t) hok hreply
    refine hi.of_answers hnew ?_ ?_
    · have hsend := countP_reply_serial (s := s) t s.txn s.pendingReq s.pendingClientSock
        s.pendingConnGeneration adu lockOk sendOk
      simpa [List.countP_append, Obs.isReplyTo, huart, UartPc.txn?] using hsend
    · rw [List.countP_append, countP_send (p := Obs.isAnswerTo t) fun _ => rfl,
        ← isAnswerTo_answered t s.txn adu]
      simp [List.countP_cons, Obs.isAnswerTo]
  | _ => simp [Event.isNet] at hnet

/-- In every run in which at most one frame per transaction passes the checks of the serial
handler, each forwarded request is answered by at most one ADU. -/
theorem uniqueReplies_of_singleAnswer (hrun : (machine device).Run (singleAnswer · · ·) log s) :
    UniqueReplies log := by
  intro t rtu _
  have hi : AnsweredOnce t log s :=
    hrun.invariant (by simp [AnsweredOnce, machine, init, UartPc.txn?])
      fun _ hi hok h => answeredOnce_step hi hok h
  exact (Nat.le_add_right _ _).trans (hi.1.trans hi.2)

/-- A request is forwarded and answered once. -/
theorem uniqueReplies_of_singleAnswer_oneRequest :
    ∃ log s t rtu, (machine id).Run (singleAnswer · · ·) log s ∧ .forwarded t rtu ∈ log ∧
      log.countP (Obs.isReplyTo t) = 1 := by
  let t : Txn := ⟨0, firstElem⟩
  let rtu : Bytes := [5, 3, 0, 0, 0, 1, 133, 142]
  obtain ⟨log, s, hrun, hfwd, hpos⟩ := Machine.Run.exists_of_exec (machine id) (singleAnswer · · ·)
    (asks 1 firstElem.data ++ awaits ++
      [.uartFrame [5, 3, 2, 0, 7, 8, 70] true, .uartSignal, .resume, .uartReadPair,
        .uartSend true true])
    (fun log _ => .forwarded t rtu ∈ log ∧ 0 < log.countP (Obs.isReplyTo t))
    (by decide +kernel)
  have hle := uniqueReplies_of_singleAnswer hrun t rtu hfwd
  exact ⟨log, s, t, rtu, hrun, hfwd, by omega⟩

/-- The slave repeats its answer: both frames are sent under the same transaction. -/
theorem duplicate_secondFrame :
    ∃ log s, (machine id).Run (atomicHandler · · ·) log s ∧ ¬ UniqueReplies log := by
  let t : Txn := ⟨0, firstElem⟩
  let rtu : Bytes := [5, 3, 0, 0, 0, 1, 133, 142]
  obtain ⟨log, s, hrun, hfwd, htwo⟩ := Machine.Run.exists_of_exec (machine id) (atomicHandler · · ·)
    (asks 1 firstElem.data ++ awaits ++
      [.serial [5, 3, 2, 0, 7, 8, 70] true true true, .resume,
        .serial [5, 3, 2, 0, 7, 8, 70] true true true])
    (fun log _ => .forwarded t rtu ∈ log ∧ 1 < log.countP (Obs.isReplyTo t))
    (by decide +kernel)
  refine ⟨log, s, hrun, fun hunique => ?_⟩
  have hle := hunique t rtu hfwd
  omega

end WbMge.Gateway
