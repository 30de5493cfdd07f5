import WbMge.Gateway.Steps

/-!
# The wait for a response

`wait_rtu_send_receive` clears the response bit after the request has been handed to the UART and
then waits for the bit. `answersAwaited` and `signalsAfterClear` are the conditions on the steps
that set the bit under which two properties of whole histories hold. Both proofs follow the stretch
of the log since the last forwarded request, with an invariant for each place the server task can
stand at.
-/

namespace WbMge.Gateway

variable {device : Bytes → Bytes} {s s' : State} {e : Event} {out log mid mid' : List Obs}

/-- A request goes out to the bus. -/
def Obs.IsForward (o : Obs) : Prop := ∃ t rtu, o = .forwarded t rtu

def Obs.IsWaited (o : Obs) : Prop := ∃ ok, o = .waited ok

def Obs.deliveredFrame : Obs → Option Bytes
  | .delivered data => some data
  | _ => none

instance : DecidablePred Obs.IsForward := fun o =>
  match o with
  | .forwarded t rtu => .isTrue ⟨t, rtu, rfl⟩
  | .enqueued .. | .delivered .. | .answered .. | .signalled .. | .expired | .waited ..
  | .written .. => .isFalse (by rintro ⟨t, rtu, h⟩; cases h)

/-! ## Spacing of requests -/

/-- `data` is a CRC-valid frame with the unit id of the request `req` and its function code up
to the exception bit. -/
def frameAnswers (data req : Bytes) : Bool :=
  modbusRtuCheckResponse (fastModbusTruncateFf data) none &&
    (rtuHeader (fastModbusTruncateFf data)).slaveId == (tcpHeader req).unitId &&
    plainFunction (rtuHeader (fastModbusTruncateFf data)).function ==
      plainFunction (tcpHeader req).function

/-- The UART task delivered a frame that answers `t`. -/
def Heard (t : Txn) (mid : List Obs) : Prop :=
  ∃ data, .delivered data ∈ mid ∧ frameAnswers data t.req.data

lemma Heard.mono {t : Txn} (h : Heard t mid) (hsub : mid ⊆ mid') : Heard t mid' := by
  obtain ⟨data, hmem, hans⟩ := h
  exact ⟨data, hsub hmem, hans⟩

/-- Between two consecutive forwarded requests the UART task delivered an answer to the first
one or its wait timed out. -/
def Spaced (log : List Obs) : Prop :=
  Segments Obs.IsForward Obs.IsForward
    (fun a mid _ => ∀ t rtu, a = .forwarded t rtu → Heard t mid ∨ .expired ∈ mid) log

def sinceForward (log : List Obs) : List Obs := log.rtakeWhile fun o => ¬ o.IsForward

/-- If the server task is between `xEventGroupClearBits` and the return of `xEventGroupWaitBits`,
the frame `data` is `fresh` and answers the request it waits for. -/
def State.awaits (s : State) (data : Bytes) (fresh : Bool) : Bool :=
  match s.server with
  | .cleared t | .waiting t _ => fresh && frameAnswers data t.req.data
  | _ => true

/-- A frame that sets the response bit while the server task waits answers the request it waits
for, and was delivered after that request was forwarded. -/
def answersAwaited (log : List Obs) (s : State) (e : Event) : Bool :=
  match e with
  | .serial data mallocOk _ _ => (s.serialReply data mallocOk).isNone || s.awaits data true
  | .uartSignal =>
    match s.uart with
    | .framed data _ _ => s.awaits data ((sinceForward log).contains (.delivered data))
    | _ => true
  | _ => true

/-- What the stretch `mid` since the forwarded request `a` has shown, by the place the server
task stands at. -/
def SpacedAt (s : State) (a : Obs) (mid : List Obs) : Prop :=
  match s.server with
  | .handed t => ∃ rtu, a = .forwarded t rtu
  | .cleared t => ∃ rtu, a = .forwarded t rtu ∧ (s.responseReceived → Heard t mid)
  | .waiting t expired => ∃ rtu, a = .forwarded t rtu ∧ (s.responseReceived → Heard t mid) ∧
      (expired → .expired ∈ mid)
  | _ => ∃ t rtu, a = .forwarded t rtu ∧ (Heard t mid ∨ .expired ∈ mid)

/-- The server task is in the wait for `t`, after the clear. -/
def State.waitsFor (s : State) (t : Txn) : Prop :=
  s.server = .cleared t ∨ ∃ expired, s.server = .waiting t expired

lemma SpacedAt.of_server_eq {a : Obs} (h : SpacedAt s a mid) (hserver : s'.server = s.server)
    (hsub : mid ⊆ mid')
    (hbit : s'.responseReceived → s.responseReceived ∨ ∀ t, s.waitsFor t → Heard t mid') :
    SpacedAt s' a mid' := by
  have hbit' : ∀ t, s.waitsFor t → (s.responseReceived → Heard t mid) →
      s'.responseReceived → Heard t mid' := by
    intro t hwait hheard hset
    rcases hbit hset with hold | hnew
    · exact (hheard hold).mono hsub
    · exact hnew t hwait
  -- by the place the server task stands at
  unfold SpacedAt at h ⊢
  rw [hserver]
  split at h <;> rename_i hpc
  · exact h
  · obtain ⟨rtu, ha, hheard⟩ := h
    exact ⟨rtu, ha, hbit' _ (.inl hpc) hheard⟩
  · obtain ⟨rtu, ha, hheard, hexp⟩ := h
    exact ⟨rtu, ha, hbit' _ (.inr ⟨_, hpc⟩) hheard, fun hx => hsub (hexp hx)⟩
  · obtain ⟨t, rtu, ha, hheard | hexp⟩ := h
    · exact ⟨t, rtu, ha, .inl (hheard.mono hsub)⟩
    · exact ⟨t, rtu, ha, .inr (hsub hexp)⟩

lemma spacedAt_of_idle {a : Obs} (hserver : ∀ t, s.server ≠ .handed t ∧ ¬ s.waitsFor t) :
    SpacedAt s a mid ↔ ∃ t rtu, a = .forwarded t rtu ∧ (Heard t mid ∨ .expired ∈ mid) := by
  unfold SpacedAt
  split <;> rename_i hpc
  · exact absurd hpc (hserver _).1
  · exact absurd (.inl hpc) (hserver _).2
  · exact absurd (.inr ⟨_, hpc⟩) (hserver _).2
  · exact Iff.rfl

/-- The history so far is spaced, and the stretch since the last forwarded request is as the
server task needs it. -/
def SpacedRun (log : List Obs) (s : State) : Prop :=
  Spaced log ∧ Current Obs.IsForward (SpacedAt s) log

lemma SpacedRun.quiet (hi : SpacedRun log s) (hout : ∀ o ∈ out, ¬ o.IsForward)
    (hat : ∀ a mid, SpacedAt s a mid → SpacedAt s' a (mid ++ out)) : SpacedRun (log ++ out) s' :=
  ⟨hi.1.append hout, hi.2.append hout hat⟩

lemma SpacedRun.aside (hi : SpacedRun log s) (hout : ∀ o ∈ out, ¬ o.IsForward)
    (hserver : s'.server = s.server) (hbit : s'.responseReceived = s.responseReceived) :
    SpacedRun (log ++ out) s' := by
  refine hi.quiet hout fun a mid hat => ?_
  refine hat.of_server_eq hserver (List.subset_append_left mid out) fun hset => ?_
  exact .inl (hbit ▸ hset)

lemma SpacedRun.outside (hi : SpacedRun log s) (hout : ∀ o ∈ out, ¬ o.IsForward)
    (hserver : ∀ t, s.server ≠ .handed t ∧ ¬ s.waitsFor t)
    (hserver' : ∀ t, s'.server ≠ .handed t ∧ ¬ s'.waitsFor t) : SpacedRun (log ++ out) s' := by
  refine hi.quiet hout fun a mid hat => ?_
  obtain ⟨t, rtu, ha, hend⟩ := (spacedAt_of_idle hserver).mp hat
  refine (spacedAt_of_idle hserver').mpr ⟨t, rtu, ha, ?_⟩
  exact hend.imp (fun hheard => hheard.mono (by simp)) (List.mem_append_left out)

variable {adu data : Bytes}

lemma not_forward_of_mem_send {path : ReplyPath} {req : Option PacketQueueElem} {sock : Int}
    {generation : UInt32} {lockOk sendOk : Bool} {o : Obs}
    (ho : o ∈ s.sendToCapturedClient path req sock generation adu lockOk sendOk) :
    ¬ o.IsForward ∧ ¬ o.IsWaited ∧ (∀ data, o ≠ .signalled data) := by
  simp only [State.sendToCapturedClient] at ho
  split at ho
  · split at ho
    · obtain rfl := List.mem_singleton.mp ho
      simp [Obs.IsForward, Obs.IsWaited]
    · simp at ho
  · simp at ho

lemma not_forward_of_mem_handler {data : Bytes} {txn : Option Txn} {path : ReplyPath}
    {req : Option PacketQueueElem} {sock : Int} {generation : UInt32} {adu : Bytes}
    {lockOk sendOk : Bool} {o : Obs}
    (ho : o ∈ [.delivered data, .answered txn adu, .signalled data] ++
      s.sendToCapturedClient path req sock generation adu lockOk sendOk) :
    ¬ o.IsForward ∧ ¬ o.IsWaited := by
  rcases List.mem_append.mp ho with ho | ho
  · simp only [List.mem_cons, List.not_mem_nil, or_false] at ho
    rcases ho with rfl | rfl | rfl <;> simp [Obs.IsForward, Obs.IsWaited]
  · exact ⟨(not_forward_of_mem_send ho).1, (not_forward_of_mem_send ho).2.1⟩

lemma frameAnswers_of_awaits {t : Txn} {fresh : Bool} (h : s.awaits data fresh)
    (hwait : s.waitsFor t) : fresh ∧ frameAnswers data t.req.data := by
  rw [State.awaits] at h
  rcases hwait with hpc | ⟨expired, hpc⟩
  · simpa [hpc] using h
  · simpa [hpc] using h

lemma SpacedRun.signal (hi : SpacedRun log s) {txn : Option Txn}
    (huart : s.uart = .framed data txn adu) (hok : answersAwaited log s .uartSignal) :
    SpacedRun (log ++ [.signalled data])
      { s with responseReceived := true, uart := .signalled txn adu } := by
  simp only [answersAwaited, huart] at hok
  -- during a wait the frame came in after the request was forwarded
  have hheard : Current Obs.IsForward (fun _ mid => ∀ t, s.waitsFor t → Heard t mid) log := by
    apply Current.of_rtakeWhile
    intro a t hwait
    obtain ⟨hmem, hans⟩ := frameAnswers_of_awaits hok hwait
    exact ⟨data, by simpa [sinceForward] using hmem, hans⟩
  have hboth : Current Obs.IsForward
      (fun a mid => SpacedAt s a mid ∧ ∀ t, s.waitsFor t → Heard t mid) log :=
    fun l₁ a mid heq ha hmid => ⟨hi.2 l₁ a mid heq ha hmid, hheard l₁ a mid heq ha hmid⟩
  refine ⟨hi.1.append (by simp [Obs.IsForward]), ?_⟩
  refine hboth.append (by simp [Obs.IsForward]) fun a mid hat => ?_
  exact hat.1.of_server_eq rfl (by simp) fun _ =>
    .inr fun t hwait => (hat.2 t hwait).mono (by simp)

lemma spacedRun_step (hi : SpacedRun log s) (hok : answersAwaited log s e)
    (h : step device s e = some (s', out)) : SpacedRun (log ++ out) s' := by
  by_cases hnet : e.isNet
  · obtain ⟨hserver, -, hbit, -, -, hout⟩ := net_frame hnet h
    refine hi.aside ?_ hserver hbit
    rcases hout with ⟨rfl, -⟩ | ⟨c, elem, frames, onePass, -, rfl, -⟩ <;> simp [Obs.IsForward]
  cases Step.of_step h with
  | fetchTcpRequest hpc | drop hpc | answer hpc | build hpc | sendFail hpc =>
    exact hi.outside (by simp) (by simp [State.waitsFor, hpc]) (by simp [State.waitsFor])
  | sendLocalReply hpc =>
    exact hi.outside (fun o ho => (not_forward_of_mem_send ho).1)
      (by simp [State.waitsFor, hpc]) (by simp [State.waitsFor])
  | @sendRtuRequest _ t rtu hpc =>
    -- the stretch of the previous request ends here, and it has ended well
    refine ⟨hi.1.concat fun _ => hi.2.imp ?_, Current.concat_opens ⟨t, rtu, rfl⟩ ⟨rtu, rfl⟩⟩
    intro a mid hat _ t' rtu' ha
    obtain ⟨t'', rtu'', ha', hend⟩ :=
      (spacedAt_of_idle (by simp [State.waitsFor, hpc])).mp hat
    cases ha.symm.trans ha'
    exact hend
  | clearBits hpc =>
    -- whatever has set the bit before is forgotten here
    refine hi.quiet (by simp) fun a mid hat => ?_
    simp only [SpacedAt, hpc] at hat
    obtain ⟨rtu, ha⟩ := hat
    exact ⟨rtu, ha, by simp⟩
  | waitTxDone hpc =>
    refine hi.quiet (by simp) fun a mid hat => ?_
    simp only [SpacedAt, hpc] at hat
    obtain ⟨rtu, ha, hheard⟩ := hat
    exact ⟨rtu, ha, by simpa using hheard, by simp⟩
  | expire hpc =>
    refine hi.quiet (by simp [Obs.IsForward]) fun a mid hat => ?_
    simp only [SpacedAt, hpc] at hat
    obtain ⟨rtu, ha, hheard, -⟩ := hat
    exact ⟨rtu, ha, fun hset => (hheard hset).mono (by simp), by simp⟩
  | @resume t expired hpc hwake =>
    refine hi.quiet (by simp [Obs.IsForward]) fun a mid hat => ?_
    simp only [SpacedAt, hpc] at hat
    obtain ⟨rtu, ha, hheard, hexp⟩ := hat
    -- the wait has ended for the bit or for the timeout, and the stretch shows which
    refine ⟨t, rtu, ha, ?_⟩
    rcases hwake with hset | hexpired
    · exact .inl ((hheard hset).mono (by simp))
    · exact .inr (List.mem_append_left _ (hexp hexpired))
  | uartSignal huart => exact hi.signal huart hok
  | uartFrame | uartRefuse | uartReadPair | serialRefuse =>
    exact hi.aside (by simp [Obs.IsForward]) rfl rfl
  | uartSend => exact hi.aside (fun o ho => (not_forward_of_mem_send ho).1) rfl rfl
  | @serial data _ _ _ _ _ hreply =>
    simp only [answersAwaited, hreply, Option.isNone_some, Bool.false_or] at hok
    refine hi.quiet ?_ fun a mid hat => hat.of_server_eq rfl (by simp) fun _ => .inr ?_
    · exact fun o ho => (not_forward_of_mem_handler ho).1
    · exact fun t hwait => ⟨data, by simp, (frameAnswers_of_awaits hok hwait).2⟩
  | _ => simp [Event.isNet] at hnet

/-- In every run in which only an answer to the awaited request sets the response bit during a
wait, consecutive forwarded requests are separated by an answer to the first one or by its
timeout. -/
theorem spaced_of_answersAwaited (hrun : (machine device).Run (answersAwaited · · ·) log s) :
    Spaced log := by
  have hi : SpacedRun log s :=
    hrun.invariant ⟨Segments.nil, Current.nil⟩ fun _ hi hok h => spacedRun_step hi hok h
  exact hi.1

/-- Two requests of one client: the answer to the first one arrives during its wait, and then the
second one is forwarded. -/
theorem spaced_of_answersAwaited_twoRequests :
    ∃ log s, (machine id).Run (answersAwaited · · ·) log s ∧
      1 < log.countP (fun o => o.IsForward) ∧ Spaced log := by
  obtain ⟨log, s, hrun, htwo⟩ := Machine.Run.exists_of_exec (machine id) (answersAwaited · · ·)
    (asks 2 [0, 1, 0, 0, 0, 6, 5, 3, 0, 0, 0, 1, 0, 2, 0, 0, 0, 6, 6, 3, 0, 0, 0, 1] ++ awaits ++
      [.uartFrame [5, 3, 2, 0, 7, 8, 70] true, .uartSignal, .resume] ++ awaits)
    (fun log _ => 1 < log.countP (fun o => o.IsForward))
    (by decide +kernel)
  exact ⟨log, s, hrun, htwo, spaced_of_answersAwaited hrun⟩

/-- Unit 5 is asked and the wait for it times out. Unit 6 is asked, the late answer of unit 5
ends the wait, and unit 7 is asked although unit 6 has neither answered nor timed out. -/
theorem spacing_lateReply :
    ∃ log s, (machine id).Run Machine.anyStep log s ∧ ¬ Spaced log := by
  let req : UInt8 → Bytes := fun unit => [0, unit, 0, 0, 0, 6, unit, 3, 0, 0, 0, 1]
  let elem : UInt8 → PacketQueueElem := fun unit => ⟨req unit, 3, 0, ⟨0, 0⟩⟩
  let rtu₆ : Bytes := [6, 3, 0, 0, 0, 1, 133, 189]
  let rtu₇ : Bytes := [7, 3, 0, 0, 0, 1, 132, 108]
  obtain ⟨log, s, hrun, hlog, hmid⟩ := Machine.Run.exists_of_exec (machine id) Machine.anyStep
    (asks 3 (req 5 ++ req 6 ++ req 7) ++ awaits ++ [.expire, .resume] ++ awaits ++
      [.serial [5, 3, 2, 0, 7, 8, 70] true true true, .resume, .fetchTcpRequest, .dispatch true,
        .sendRtuRequest true])
    (fun log _ => log = log.take 6 ++ .forwarded ⟨1, elem 6⟩ rtu₆ ::
        ((log.drop 7).take 5 ++ .forwarded ⟨2, elem 7⟩ rtu₇ :: []) ∧
      ∀ o ∈ (log.drop 7).take 5, ¬ o.IsForward ∧ o ≠ .expired ∧
        o.deliveredFrame.all (fun data => !frameAnswers data (req 6)))
    (by decide +kernel)
  refine ⟨log, s, hrun, fun hspaced => ?_⟩
  -- the stretch between the requests to units 6 and 7
  have hend := hspaced _ _ _ _ _ hlog ⟨_, _, rfl⟩ ⟨_, _, rfl⟩
    (fun o ho => ⟨(hmid o ho).1, (hmid o ho).1⟩) _ _ rfl
  rcases hend with ⟨data, hmem, hans⟩ | hexp
  · have hans' : frameAnswers data (req 6) = true := hans
    simpa [Obs.deliveredFrame, hans'] using (hmid _ hmem).2.2
  · exact (hmid _ hexp).2.1 rfl

/-! ## Wake-ups -/

/-- A response is signalled before the timeout. -/
def InTime (mid : List Obs) : Prop :=
  ∃ m₁ data m₂, mid = m₁ ++ .signalled data :: m₂ ∧ .expired ∉ m₁

lemma not_inTime_of_not_signalled (h : ∀ data, .signalled data ∉ mid) : ¬ InTime mid := by
  rintro ⟨m₁, data, m₂, rfl, -⟩
  exact h data (by simp)

lemma inTime_append (hout : ∀ data, .signalled data ∉ out) (h : InTime (mid ++ out)) :
    InTime mid := by
  obtain ⟨m₁, data, m₂, heq, hexp⟩ := h
  rcases List.append_eq_append_iff.mp heq with ⟨l, -, hout'⟩ | ⟨l, hmid, hl⟩
  · exact absurd (by rw [hout']; simp) (hout data)
  cases l with
  | nil => exact absurd (by rw [← List.nil_append out, ← hl]; simp) (hout data)
  | cons o l =>
    obtain ⟨rfl, -⟩ : .signalled data = o ∧ m₂ = l ++ out := by simpa using hl
    exact ⟨m₁, data, l, hmid, hexp⟩

/-- If the response bit is set after a request was handed to the UART and before its timeout,
the wait for that request returns true. -/
def Woken (log : List Obs) : Prop :=
  Segments Obs.IsForward Obs.IsWaited (fun _ mid b => InTime mid → b = .waited true) log

/-- No response is signalled between `serial_send` and the clearing of the bits. -/
def signalsAfterClear (_log : List Obs) (s : State) (e : Event) : Bool :=
  match s.server, e with
  | .handed _, .serial data mallocOk _ _ => (s.serialReply data mallocOk).isNone
  | .handed _, .uartSignal => false
  | _, _ => true

/-- What the stretch since the last forwarded request has shown, by the place the server task
stands at. -/
def WokenAt (s : State) (mid : List Obs) : Prop :=
  match s.server with
  | .handed _ => ∀ data, .signalled data ∉ mid
  | .cleared _ | .waiting _ _ => InTime mid → s.responseReceived
  | _ => True

lemma WokenAt.of_server_eq (h : WokenAt s mid) (hserver : s'.server = s.server)
    (hbit : s'.responseReceived = s.responseReceived) (hout : ∀ data, .signalled data ∉ out) :
    WokenAt s' (mid ++ out) := by
  unfold WokenAt at h ⊢
  rw [hserver, hbit]
  split at h
  · intro data hmem
    exact (List.mem_append.mp hmem).elim (h data) (hout data)
  · exact fun hin => h (inTime_append hout hin)
  · exact fun hin => h (inTime_append hout hin)
  · trivial

lemma wokenAt_of_set (hserver : ∀ t, s.server ≠ .handed t) (hbit : s.responseReceived = true) :
    WokenAt s mid := by
  unfold WokenAt
  split
  · exact absurd ‹_› (hserver _)
  · exact fun _ => hbit
  · exact fun _ => hbit
  · trivial

/-- The waits so far ended as they should, and the stretch since the last forwarded request is
as the server task needs it. -/
def WokenRun (log : List Obs) (s : State) : Prop :=
  Woken log ∧ Current Obs.IsForward (fun _ mid => WokenAt s mid) log

lemma WokenRun.quiet (hi : WokenRun log s) (hout : ∀ o ∈ out, ¬ o.IsForward ∧ ¬ o.IsWaited)
    (hat : ∀ mid, WokenAt s mid → WokenAt s' (mid ++ out)) : WokenRun (log ++ out) s' :=
  ⟨hi.1.append fun o ho => (hout o ho).2,
    hi.2.append (fun o ho => (hout o ho).1) fun _ mid h => hat mid h⟩

lemma WokenRun.aside (hi : WokenRun log s)
    (hout : ∀ o ∈ out, ¬ o.IsForward ∧ ¬ o.IsWaited ∧ ∀ data, o ≠ .signalled data)
    (hserver : s'.server = s.server) (hbit : s'.responseReceived = s.responseReceived) :
    WokenRun (log ++ out) s' := by
  refine hi.quiet (fun o ho => ⟨(hout o ho).1, (hout o ho).2.1⟩) fun mid hat => ?_
  exact hat.of_server_eq hserver hbit fun data hmem => (hout _ hmem).2.2 data rfl

lemma wokenRun_step (hi : WokenRun log s) (hok : signalsAfterClear log s e)
    (h : step device s e = some (s', out)) : WokenRun (log ++ out) s' := by
  by_cases hnet : e.isNet
  · obtain ⟨hserver, -, hbit, -, -, hout⟩ := net_frame hnet h
    refine hi.aside ?_ hserver hbit
    rcases hout with ⟨rfl, -⟩ | ⟨c, elem, frames, onePass, -, rfl, -⟩
    · simp
    · simp [Obs.IsForward, Obs.IsWaited]
  cases Step.of_step h with
  | fetchTcpRequest | drop | answer | build | sendFail =>
    exact hi.quiet (by simp) fun _ _ => trivial
  | sendLocalReply =>
    refine hi.quiet (fun o ho => ?_) fun _ _ => trivial
    exact ⟨(not_forward_of_mem_send ho).1, (not_forward_of_mem_send ho).2.1⟩
  | @sendRtuRequest _ t rtu =>
    -- a new stretch begins, with nothing signalled in it
    exact ⟨hi.1.append (by simp [Obs.IsWaited]),
      Current.concat_opens ⟨t, rtu, rfl⟩ (show ∀ data, _ ∉ [] by simp)⟩
  | clearBits hpc =>
    refine hi.quiet (by simp) fun mid hat hin => ?_
    simp only [WokenAt, hpc] at hat
    -- this is where a response would be lost, but none has been signalled yet
    exact absurd hin (not_inTime_of_not_signalled (by simpa using hat))
  | waitTxDone hpc =>
    refine hi.quiet (by simp) fun mid hat hin => ?_
    simp only [WokenAt, hpc] at hat
    exact hat (by simpa using hin)
  | expire hpc =>
    refine hi.quiet (by simp [Obs.IsForward, Obs.IsWaited]) fun mid hat hin => ?_
    simp only [WokenAt, hpc] at hat
    exact hat (inTime_append (by simp) hin)
  | resume hpc =>
    -- the wait closes the stretch with the value of the bit
    refine ⟨hi.1.concat fun _ => hi.2.imp fun a mid hat _ hin => ?_,
      hi.2.append (by simp [Obs.IsForward]) fun _ _ _ => trivial⟩
    simp only [WokenAt, hpc] at hat
    rw [hat hin]
  | uartFrame | uartRefuse | uartReadPair | serialRefuse =>
    exact hi.aside (by simp [Obs.IsForward, Obs.IsWaited]) rfl rfl
  | uartSignal =>
    refine hi.quiet (by simp [Obs.IsForward, Obs.IsWaited]) fun mid _ => wokenAt_of_set ?_ rfl
    intro t hpc
    have hpc' : s.server = .handed t := hpc
    simp [signalsAfterClear, hpc'] at hok
  | uartSend => exact hi.aside (fun o ho => not_forward_of_mem_send ho) rfl rfl
  | serial _ hreply =>
    refine hi.quiet (fun o ho => not_forward_of_mem_handler ho) fun mid _ => wokenAt_of_set ?_ rfl
    intro t hpc
    have hpc' : s.server = .handed t := hpc
    simp [signalsAfterClear, hpc', hreply] at hok
  | _ => simp [Event.isNet] at hnet

/-- In every run in which the response bit is not set between the hand-over of a request and
the clear that follows, a response signalled before the timeout ends the wait with success. -/
theorem woken_of_signalsAfterClear
    (hrun : (machine device).Run (signalsAfterClear · · ·) log s) : Woken log := by
  have hi : WokenRun log s :=
    hrun.invariant ⟨Segments.nil, Current.nil⟩ fun _ hi hok h => wokenRun_step hi hok h
  exact hi.1

/-- The response arrives while the transmission is still being waited for, and the wait that
follows returns at once. -/
theorem woken_of_signalsAfterClear_oneRequest :
    ∃ log s, (machine id).Run (signalsAfterClear · · ·) log s ∧ .waited true ∈ log ∧
      Woken log := by
  obtain ⟨log, s, hrun, hmem⟩ := Machine.Run.exists_of_exec (machine id) (signalsAfterClear · · ·)
    (asks 1 firstElem.data ++ [.fetchTcpRequest, .dispatch true, .sendRtuRequest true, .clearBits,
      .uartFrame [5, 3, 2, 0, 7, 8, 70] true, .uartSignal, .waitTxDone, .uartReadPair, .resume,
      .uartSend true true])
    (fun log _ => .waited true ∈ log)
    (by decide +kernel)
  exact ⟨log, s, hrun, hmem, woken_of_signalsAfterClear hrun⟩

/-- The server task is held up after `serial_send`. Meanwhile the slave answers and the response
bit is set; then the server task clears it and waits until the timeout. -/
theorem wakeUp_earlyReply :
    ∃ log s, (machine id).Run Machine.anyStep log s ∧ ¬ Woken log := by
  let frame : Bytes := [5, 3, 2, 0, 7, 8, 70]
  obtain ⟨log, s, hrun, hlog, hmid⟩ := Machine.Run.exists_of_exec (machine id) Machine.anyStep
    (asks 1 firstElem.data ++ [.fetchTcpRequest, .dispatch true, .sendRtuRequest true,
      .uartFrame frame true, .uartSignal, .uartReadPair, .uartSend true true, .clearBits,
      .waitTxDone, .expire, .resume])
    (fun log _ => log = log.take 1 ++ .forwarded ⟨0, firstElem⟩ [5, 3, 0, 0, 0, 1, 133, 142] ::
        (((log.drop 2).take 2 ++ .signalled frame :: (log.drop 5).take 2) ++ .waited false :: []) ∧
      ∀ o ∈ (log.drop 2).take 2 ++ .signalled frame :: (log.drop 5).take 2,
        ¬ o.IsForward ∧ (∀ ok, o ≠ .waited ok) ∧ (o = .expired → o ∉ (log.drop 2).take 2))
    (by decide +kernel)
  refine ⟨log, s, hrun, fun hwoken => ?_⟩
  -- the response was signalled before the timeout, so the wait should have returned true
  have hfalse := hwoken _ _ _ _ _ hlog ⟨_, _, rfl⟩ ⟨_, rfl⟩
    (fun o ho => ⟨(hmid o ho).1, fun ⟨ok, hok⟩ => (hmid o ho).2.1 ok hok⟩)
    ⟨_, _, _, rfl, fun hexp => (hmid _ (List.mem_append_left _ hexp)).2.2 rfl hexp⟩
  cases hfalse

end WbMge.Gateway
