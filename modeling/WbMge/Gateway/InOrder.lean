import WbMge.Gateway.Identity

/-!
# Requests in order

The receiver tasks of all clients push into one packet queue, the server task takes from it, and
what it does not answer itself goes to RS-485. `InOrder` follows a request by its place among all
that were queued. The `seq` of a transaction is that place, so no request is taken twice or
overtaken by another.
-/

namespace WbMge.Gateway

/-- The requests that the receiver tasks have queued, first to last. -/
def requests (log : List Obs) : List PacketQueueElem :=
  log.filterMap fun
    | .enqueued _ elem => some elem
    | _ => none

/-- The requests that went to RS-485, with their RTU frames, first to last. -/
def forwards (log : List Obs) : List (Txn × Bytes) :=
  log.filterMap fun
    | .forwarded t rtu => some (t, rtu)
    | _ => none

/-- The request that the server task has taken and not yet sent. -/
def ServerPc.unsent? : ServerPc → Option Txn
  | .fetched t | .built t _ => some t
  | _ => none

/-- The frame on RS-485 is the one of the request at the place of the transaction. -/
def Faithful (log : List Obs) (f : Txn × Bytes) : Prop :=
  (requests log)[f.1.seq]? = some f.1.req ∧ modbusRtuFromTcp f.1.req.data sendBufferSize = some f.2

/-- The places of what went to RS-485, of what is on its way there and of what is taken next. -/
def State.places (s : State) (log : List Obs) : List Nat :=
  (forwards log).map (·.1.seq) ++ (s.server.unsent?.toList.map (·.seq) ++ [s.popped])

structure InOrder (log : List Obs) (s : State) : Prop where
  le : s.popped ≤ (requests log).length
  queue : s.tcpQueue = (requests log).drop s.popped
  server : ∀ t, s.server.txn? = some t → (requests log)[t.seq]? = some t.req
  built : ∀ t rtu, s.server = .built t rtu → modbusRtuFromTcp t.req.data sendBufferSize = some rtu
  sorted : (s.places log).Pairwise (· < ·)
  faithful : ∀ f ∈ forwards log, Faithful log f

section Run

variable {device : Bytes → Bytes} {log out : List Obs} {s s' : State} {e : Event}

lemma requests_append (log out : List Obs) : requests (log ++ out) = requests log ++ requests out :=
  List.filterMap_append

lemma forwards_append (log out : List Obs) : forwards (log ++ out) = forwards log ++ forwards out :=
  List.filterMap_append

lemma getElem?_requests_append {i : Nat} {elem : PacketQueueElem} (out : List Obs)
    (h : (requests log)[i]? = some elem) : (requests (log ++ out))[i]? = some elem := by
  have hi : i < (requests log).length := (List.getElem?_eq_some_iff.1 h).1
  rw [requests_append, List.getElem?_append_left hi, h]

/-- A step that takes nothing from the queue and forwards nothing. -/
lemma InOrder.frame (hi : InOrder log s) (hout : forwards out = [])
    (hqueue : s'.tcpQueue = s.tcpQueue ++ requests out) (hpopped : s'.popped = s.popped)
    (hserver : ∀ t, s'.server.txn? = some t → s.server.txn? = some t)
    (hunsent : s'.server.unsent? = none ∨ s'.server.unsent? = s.server.unsent?)
    (hbuilt : ∀ t rtu, s'.server = .built t rtu →
      s.server = .built t rtu ∨ modbusRtuFromTcp t.req.data sendBufferSize = some rtu) :
    InOrder (log ++ out) s' := by
  have hsame : forwards (log ++ out) = forwards log := by
    rw [forwards_append, hout, List.append_nil]
  refine ⟨?_, ?_, fun t ht => ?_, fun t rtu ht => ?_, ?_, fun f hf => ?_⟩
  · rw [hpopped, requests_append, List.length_append]
    exact hi.le.trans (Nat.le_add_right ..)
  · rw [hqueue, hi.queue, hpopped, requests_append, List.drop_append_of_le_length hi.le]
  · exact getElem?_requests_append out (hi.server t (hserver t ht))
  · exact (hbuilt t rtu ht).elim (hi.built t rtu) id
  · refine hi.sorted.sublist ?_
    rw [State.places, State.places, hsame, hpopped]
    obtain hnone | hsent := hunsent
    · rw [hnone]
      exact (List.sublist_append_right ..).append_left _
    · rw [hsent]
  · rw [hsame] at hf
    exact (hi.faithful f hf).imp_left (getElem?_requests_append out)

/-- The UART task works, or the server task goes on with a request that it has sent or answered. -/
lemma InOrder.goOn (hi : InOrder log s) (hout : requests out = [] ∧ forwards out = [])
    (hqueue : s'.tcpQueue = s.tcpQueue) (hpopped : s'.popped = s.popped)
    (hserver : s'.server = s.server ∨ s'.server.unsent? = none ∧
      ∀ t, s'.server.txn? = some t → s.server.txn? = some t) : InOrder (log ++ out) s' := by
  have hqueue' : s'.tcpQueue = s.tcpQueue ++ requests out := by
    rw [hqueue, hout.1, List.append_nil]
  obtain hsame | ⟨hunsent, htxn⟩ := hserver
  · exact hi.frame hout.2 hqueue' hpopped (by simp [hsame]) (by simp [hsame])
      (by simp +contextual [hsame])
  · refine hi.frame hout.2 hqueue' hpopped htxn (.inl hunsent) fun t rtu ht => ?_
    simp [ht, ServerPc.unsent?] at hunsent

lemma InOrder.fetch (hi : InOrder log s) {elem : PacketQueueElem} {queue : List PacketQueueElem}
    (hpc : s.server = .idle) (hqueue : s.tcpQueue = elem :: queue)
    (hpopped : s'.popped = s.popped + 1)
    (hqueue' : s'.tcpQueue = queue) (hserver : s'.server = .fetched ⟨s.popped, elem⟩) :
    InOrder log s' := by
  have hdrop : (requests log).drop s.popped = elem :: queue := hi.queue.symm.trans hqueue
  have hget : (requests log)[s.popped]? = some elem := by
    rw [← List.head?_drop, hdrop]
    rfl
  refine ⟨?_, ?_, ?_, by simp [hserver], ?_, hi.faithful⟩
  · rw [hpopped]
    exact (List.getElem?_eq_some_iff.1 hget).1
  · rw [hqueue', hpopped, ← List.tail_drop, hdrop]
    rfl
  · rw [hserver]
    rintro _ ⟨⟩
    exact hget
  · -- the place that was next is on its way, and the one after it is next
    have hsorted : ((forwards log).map (·.1.seq) ++ [s.popped]).Pairwise (· < ·) := by
      simpa [State.places, hpc, ServerPc.unsent?] using hi.sorted
    rw [State.places, hserver, hpopped]
    change ((forwards log).map (·.1.seq) ++ [s.popped, s.popped + 1]).Pairwise (· < ·)
    rw [List.append_cons, List.pairwise_append]
    refine ⟨hsorted, List.pairwise_singleton .., ?_⟩
    grind

lemma nothing_of_send (s : State) (path : ReplyPath) (req : Option PacketQueueElem) (sock : Int)
    (generation : UInt32) (adu : Bytes) (lockOk sendOk : Bool) :
    requests (s.sendToCapturedClient path req sock generation adu lockOk sendOk) = [] ∧
      forwards (s.sendToCapturedClient path req sock generation adu lockOk sendOk) = [] := by
  unfold State.sendToCapturedClient
  split
  · split <;> exact ⟨rfl, rfl⟩
  · exact ⟨rfl, rfl⟩

lemma InOrder.forward (hi : InOrder log s) {t : Txn} {rtu : Bytes}
    (hpc : s.server = .built t rtu) :
    InOrder (log ++ [.forwarded t rtu]) { s with server := .handed t } := by
  have hget := hi.server t (by rw [hpc]; rfl)
  have hreq : requests (log ++ [.forwarded t rtu]) = requests log := by
    rw [requests_append]
    exact List.append_nil _
  have hfwd : forwards (log ++ [.forwarded t rtu]) = forwards log ++ [(t, rtu)] :=
    forwards_append ..
  refine ⟨?_, ?_, ?_, by simp, ?_, ?_⟩
  · rw [hreq]
    exact hi.le
  · rw [hreq]
    exact hi.queue
  · rintro _ ⟨⟩
    rwa [hreq]
  · simpa [State.places, hfwd, hpc, ServerPc.unsent?] using hi.sorted
  · rw [hfwd, List.forall_mem_append]
    refine ⟨fun f hf => ?_, List.forall_mem_singleton.2 ⟨?_, hi.built t rtu hpc⟩⟩
    · exact (hi.faithful f hf).imp_left (getElem?_requests_append _)
    · rwa [hreq]

lemma InOrder.step (hi : InOrder log s) (h : step device s e = some (s', out)) :
    InOrder (log ++ out) s' := by
  by_cases hnet : e.isNet
  · obtain ⟨hserver, -, -, hpopped, -, hout⟩ := net_frame hnet h
    refine hi.frame ?_ ?_ hpopped (by simp [hserver]) (by simp [hserver])
      (by simp +contextual [hserver])
    all_goals obtain ⟨rfl, hqueue⟩ | ⟨c, elem, frames, onePass, -, rfl, hqueue⟩ := hout
    all_goals simp [hqueue, requests, forwards]
  cases Step.of_step h with
  | fetchTcpRequest hpc hqueue =>
    rw [List.append_nil]
    exact hi.fetch hpc hqueue rfl rfl rfl
  | build hpc hrtu =>
    refine hi.frame rfl (by simp [requests]) rfl (by simp [hpc, ServerPc.txn?])
      (by simp [hpc, ServerPc.unsent?]) ?_
    rintro _ _ ⟨⟩
    exact .inr hrtu
  | sendRtuRequest hpc => exact hi.forward hpc
  | sendLocalReply =>
    exact hi.goOn (nothing_of_send ..) rfl rfl (.inr ⟨rfl, by simp [ServerPc.txn?]⟩)
  | drop hpc | answer hpc | sendFail hpc | clearBits hpc | waitTxDone hpc | expire hpc
  | resume hpc =>
    exact hi.goOn ⟨rfl, rfl⟩ rfl rfl (.inr ⟨rfl, by simp [hpc, ServerPc.txn?]⟩)
  | uartFrame | uartRefuse | uartSignal | uartReadPair | serialRefuse =>
    exact hi.goOn ⟨rfl, rfl⟩ rfl rfl (.inl rfl)
  | uartSend | serial => exact hi.goOn (nothing_of_send ..) rfl rfl (.inl rfl)
  | _ => simp [Event.isNet] at hnet

/-- In every run, the requests that go to RS-485 are requests that were queued, in the order in
which they were queued and each at most once, as their RTU frames. What was queued and not yet
taken is what the queue holds. -/
theorem forwarded_inOrder (hrun : (machine device).Run Machine.anyStep log s) :
    (forwards log).Pairwise (fun f g => f.1.seq < g.1.seq) ∧ (∀ f ∈ forwards log, Faithful log f) ∧
      s.tcpQueue = (requests log).drop s.popped := by
  have hi : InOrder log s := by
    refine hrun.invariant ?_ fun _ hi _ h => hi.step h
    exact ⟨Nat.zero_le _, rfl, by simp [machine, init, ServerPc.txn?], by simp [machine, init],
      List.pairwise_singleton .., by simp [forwards]⟩
  exact ⟨List.pairwise_map.1 (List.pairwise_append.1 hi.sorted).1, hi.faithful, hi.queue⟩

end Run

/-- Two requests of one client: the first one is answered, and then the second one is sent. -/
theorem forwarded_inOrder_twoRequests : ∃ log s, (machine id).Run Machine.anyStep log s ∧
    (forwards log).length = 2 ∧ (forwards log).Pairwise (fun f g => f.1.seq < g.1.seq) ∧
      ∀ f ∈ forwards log, Faithful log f := by
  obtain ⟨log, s, hrun, htwo⟩ := Machine.Run.exists_of_exec (machine id) Machine.anyStep
    (asks 2 [0, 1, 0, 0, 0, 6, 5, 3, 0, 0, 0, 1, 0, 2, 0, 0, 0, 6, 6, 3, 0, 0, 0, 1] ++ awaits ++
      [.serial [5, 3, 2, 0, 7, 8, 70] true true true, .resume] ++ awaits)
    (fun log _ => (forwards log).length = 2)
    (by decide +kernel)
  obtain ⟨hsorted, hfaithful, -⟩ := forwarded_inOrder hrun
  exact ⟨log, s, hrun, htwo, hsorted, hfaithful⟩

end WbMge.Gateway
