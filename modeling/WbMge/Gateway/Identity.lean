import WbMge.Gateway.Steps

/-!
# Replies reach the connection that asked

A captured pair of a socket number and a connection generation travels with a request from the
receiver task that enqueued it to the task that replies. In between the client may hang up and the
TCP stack may hand its socket number to someone else. The argument:

* the generation counts retirements modulo `2 ^ 32`, and a socket of a connection is closed only
  together with a retirement (`Extends`), so a pair captured after the last retirement still names
  its connection (`Valid`);
* every pair in the packet queue, in the pending fields and in the two tasks is valid in this sense,
  along every run (`identity_invariant`);
* a write needs the generation to match, so with fewer than `2 ^ 32` retirements since the capture
  there was none.
-/

namespace WbMge.Gateway

variable {device : Bytes → Bytes} {s s' : State} {e : Event} {out log log' : List Obs}

/-! ## Who owns which socket -/

def AcceptorPc.holds? : AcceptorPc → Option (Nat × Int)
  | .accepted c sock | .registered c sock => some (c, sock)
  | .listening | .rollback => none

def ReceiverPc.sock? : ReceiverPc → Option Int
  | .recv sock | .pushing sock _ _ _ _ | .hooked sock => some sock
  | .absent | .retired | .finished => none

/-- The connection layer is in order: the generation counts the retirements, each task owns
the socket it works on, and a receive handler holds the generation it sampled. -/
structure Owned (s : State) : Prop where
  generation : s.connGeneration = UInt32.ofNat s.retired
  acceptor : ∀ c sock, s.acceptor.holds? = some (c, sock) →
    s.socks sock = some (.conn c) ∧ c < s.nextConn ∧ s.receivers c = .absent
  receiver : ∀ c sock, (s.receivers c).sock? = some sock → s.socks sock = some (.conn c)
  fresh : ∀ c, s.nextConn ≤ c → s.receivers c = .absent
  capture : ∀ c sock generation capture frames onePass,
    s.receivers c = .pushing sock generation capture frames onePass →
      capture.conn = c ∧ capture.retired ≤ s.retired ∧
        generation = UInt32.ofNat capture.retired

lemma owned_init : Owned init where
  generation := rfl
  acceptor := by simp [init, AcceptorPc.holds?]
  receiver := by simp [init, ReceiverPc.sock?]
  fresh := by simp [init]
  capture := by simp [init]

variable {sock : Int} {c : Nat}

lemma Owned.updateFree (h : Owned s) (hsock : ∀ c, s.socks sock ≠ some (.conn c))
    (owner : Option Owner) : Owned { s with socks := Function.update s.socks sock owner } where
  generation := h.generation
  acceptor c sk hc := by
    obtain ⟨howner, hrest⟩ := h.acceptor c sk hc
    have hne : sk ≠ sock := by rintro rfl; exact hsock c howner
    exact ⟨by simpa [hne] using howner, hrest⟩
  receiver c sk hc := by
    have howner := h.receiver c sk hc
    have hne : sk ≠ sock := by rintro rfl; exact hsock c howner
    simpa [hne] using howner
  fresh := h.fresh
  capture := h.capture

lemma Owned.updateReceiver (h : Owned s) (c : Nat) (pc : ReceiverPc)
    (hsock : ∀ sk, pc.sock? = some sk → (s.receivers c).sock? = some sk)
    (hpresent : s.receivers c ≠ .absent)
    (hcapture : ∀ sock generation capture frames onePass,
      pc = .pushing sock generation capture frames onePass →
        capture.conn = c ∧ capture.retired ≤ s.retired ∧
          generation = UInt32.ofNat capture.retired) :
    Owned { s with receivers := Function.update s.receivers c pc } where
  generation := h.generation
  acceptor c' sk hc := by
    obtain ⟨howner, hlt, habs⟩ := h.acceptor c' sk hc
    have hne : c' ≠ c := by rintro rfl; exact hpresent habs
    exact ⟨howner, hlt, by simpa [hne] using habs⟩
  receiver c' sk hc := by
    by_cases hne : c' = c
    · subst hne
      exact h.receiver c' sk (hsock sk (by simpa using hc))
    · exact h.receiver c' sk (by simpa [hne] using hc)
  fresh c' hc' := by
    have hne : c' ≠ c := by rintro rfl; exact hpresent (h.fresh c' hc')
    simpa [hne] using h.fresh c' hc'
  capture c' sk g cap frames onePass hc := by
    by_cases hne : c' = c
    · subst hne
      exact hcapture sk g cap frames onePass (by simpa using hc)
    · exact h.capture c' sk g cap frames onePass (by simpa [hne] using hc)

lemma Owned.retire (h : Owned s) (hsock : s.socks sock = some (.conn c))
    (hacc : ∀ sk, s.acceptor.holds? ≠ some (c, sk)) (hrecv : (s.receivers c).sock? = none) :
    Owned (s.retireClientConn sock) where
  generation := by
    simp only [State.retireClientConn, h.generation]
    simp [UInt32.ofNat_add]
  acceptor c' sk hc := by
    obtain ⟨howner, hrest⟩ := h.acceptor c' sk hc
    -- the closed socket belonged to `c`, which the acceptor does not work on
    have hne : sk ≠ sock := by
      rintro rfl
      obtain rfl : c' = c := by simpa [howner] using hsock
      exact hacc sk hc
    exact ⟨by simpa [State.retireClientConn, hne] using howner, hrest⟩
  receiver c' sk hc := by
    have howner := h.receiver c' sk hc
    have hne : sk ≠ sock := by
      rintro rfl
      obtain rfl : c' = c := by simpa [howner] using hsock
      simp [State.retireClientConn, hrecv] at hc
    simpa [State.retireClientConn, hne] using howner
  fresh := h.fresh
  capture c' sk g cap frames onePass hc := by
    obtain ⟨hconn, hle, hgen⟩ := h.capture c' sk g cap frames onePass hc
    exact ⟨hconn, Nat.le_succ_of_le hle, hgen⟩

lemma Owned.updateAcceptor (h : Owned s) (pc : AcceptorPc)
    (hpc : ∀ c sock, pc.holds? = some (c, sock) → s.acceptor.holds? = some (c, sock)) :
    Owned { s with acceptor := pc } where
  generation := h.generation
  acceptor c sock hc := h.acceptor c sock (hpc c sock hc)
  receiver := h.receiver
  fresh := h.fresh
  capture := h.capture

lemma Owned.of_frame (h : Owned s) (hacc : s'.acceptor = s.acceptor)
    (hrecv : s'.receivers = s.receivers) (hnext : s'.nextConn = s.nextConn)
    (hsocks : s'.socks = s.socks) (hgen : s'.connGeneration = s.connGeneration)
    (hret : s'.retired = s.retired) : Owned s' where
  generation := by rw [hgen, hret, h.generation]
  acceptor := by rw [hacc, hrecv, hnext, hsocks]; exact h.acceptor
  receiver := by rw [hrecv, hsocks]; exact h.receiver
  fresh := by rw [hnext, hrecv]; exact h.fresh
  capture := by rw [hrecv, hret]; exact h.capture

lemma Owned.accept (h : Owned s) (hfree : s.socks sock = none) :
    Owned { s with
      socks := Function.update s.socks sock (some (.conn s.nextConn))
      acceptor := .accepted s.nextConn sock
      nextConn := s.nextConn + 1 } where
  generation := h.generation
  acceptor c sk hc := by
    simp only [AcceptorPc.holds?, Option.some.injEq, Prod.mk.injEq] at hc
    obtain ⟨rfl, rfl⟩ := hc
    exact ⟨by simp, by simp, h.fresh _ (le_refl _)⟩
  receiver c sk hc := by
    have howner := h.receiver c sk hc
    have hne : sk ≠ sock := by rintro rfl; simp [hfree] at howner
    simpa [hne] using howner
  fresh c hc := h.fresh c (Nat.le_of_succ_le hc)
  capture := h.capture

lemma Owned.spawn (h : Owned s) (hacc : s.acceptor.holds? = some (c, sock)) :
    Owned { s with
      acceptor := .listening
      receivers := Function.update s.receivers c (.recv sock) } where
  generation := h.generation
  acceptor c' sk hc := by simp [AcceptorPc.holds?] at hc
  receiver c' sk hc := by
    by_cases hne : c' = c
    · subst hne
      obtain rfl : sock = sk := by simpa [ReceiverPc.sock?] using hc
      exact (h.acceptor c' sock hacc).1
    · exact h.receiver c' sk (by simpa [hne] using hc)
  fresh c' hc' := by
    have hlt := (h.acceptor c sock hacc).2.1
    have hc'' : s.nextConn ≤ c' := hc'
    have hne : c' ≠ c := by omega
    simpa [hne] using h.fresh c' hc''
  capture c' sk g cap frames onePass hc := by
    by_cases hne : c' = c
    · subst hne
      simp at hc
    · exact h.capture c' sk g cap frames onePass (by simpa [hne] using hc)

/-- Queued or dropped, the handler goes on with the pair it has. -/
lemma Owned.pushing (h : Owned s) {generation : UInt32} {capture : Capture} {frames : List Bytes}
    {onePass : Bool} (hpush : s.receivers c = .pushing sock generation capture frames onePass)
    (rest : List Bytes) : Owned { s with
      receivers :=
        Function.update s.receivers c (.pushing sock generation capture rest onePass) } := by
  refine h.updateReceiver c _ (by simp [hpush, ReceiverPc.sock?]) (by simp [hpush]) ?_
  rintro sk g cap fs op heq
  cases heq
  exact h.capture c sock generation capture frames onePass hpush

/-- The acceptor gives a connection up and retires it: nobody works on it any more. -/
lemma Owned.giveUp (h : Owned s) (hacc : s.acceptor.holds? = some (c, sock)) (pc : AcceptorPc)
    (hpc : pc.holds? = none) : Owned { s.retireClientConn sock with acceptor := pc } := by
  obtain ⟨howner, -, habs⟩ := h.acceptor c sock hacc
  have h' := h.updateAcceptor pc (by simp [hpc])
  exact h'.retire howner (by simp [hpc]) (by simp [habs, ReceiverPc.sock?])

lemma owned_step (hi : Owned s) (h : step device s e = some (s', out)) : Owned s' := by
  by_cases hnet : e.isNet
  swap
  · -- the server and the UART task own no socket
    obtain ⟨hacc, hrecv, hnext, hsocks, hgen, hret, -⟩ := task_frame hnet h
    exact hi.of_frame hacc hrecv hnext hsocks hgen hret
  cases Step.of_step h with
  | foreignOpen hfree => exact hi.updateFree (by simp [hfree]) _
  | foreignClose hforeign => exact hi.updateFree (by simp [hforeign]) _
  | accept _ hsock => exact hi.accept hsock.2
  | @register c sock _ hacc =>
    have hi' := hi.updateAcceptor (.registered c sock) (by simp [AcceptorPc.holds?, hacc])
    exact hi'.of_frame rfl rfl rfl rfl rfl rfl
  | registerFail hacc => exact hi.giveUp (by rw [hacc]; rfl) .listening rfl
  | spawn hacc => exact hi.spawn (by rw [hacc]; rfl)
  | spawnFail hacc => exact hi.giveUp (by rw [hacc]; rfl) .rollback rfl
  | rollback =>
    have hi' := hi.updateAcceptor .listening (by simp [AcceptorPc.holds?])
    exact hi'.of_frame rfl rfl rfl rfl rfl rfl
  | @receive c data sock frames onePass reasm hrecv =>
    -- the handler samples the generation now, after exactly `s.retired` retirements
    have hi' := hi.updateReceiver c
      (.pushing sock s.connGeneration ⟨c, s.retired⟩ frames onePass)
      (by simp [hrecv, ReceiverPc.sock?]) (by simp [hrecv]) (by
        rintro sk g cap fs op heq
        cases heq
        exact ⟨rfl, le_refl _, hi.generation⟩)
    exact hi'.of_frame rfl rfl rfl rfl rfl rfl
  | push hpush => exact (hi.pushing hpush _).of_frame rfl rfl rfl rfl rfl rfl
  | pushFail hpush => exact hi.pushing hpush _
  | handled hpush =>
    exact hi.updateReceiver _ _ (by simp [hpush, ReceiverPc.sock?]) (by simp [hpush]) (by simp)
  | @close c sock hrecv | @closePending c sock hrecv =>
    have hi' := hi.updateReceiver c (.hooked sock) (by simp [hrecv, ReceiverPc.sock?])
      (by simp [hrecv]) (by simp)
    exact hi'.of_frame rfl rfl rfl rfl rfl rfl
  | @retire c sock hhook =>
    have howner := hi.receiver c sock (by simp [hhook, ReceiverPc.sock?])
    have hi' := hi.updateReceiver c .retired (by simp [ReceiverPc.sock?]) (by simp [hhook])
      (by simp)
    refine hi'.retire howner ?_ (by simp [ReceiverPc.sock?])
    -- the acceptor is not at it: its receiver task exists
    intro sk hacc
    have habs := (hi.acceptor c sk hacc).2.2
    simp [hhook] at habs
  | @leave c hret =>
    have hi' := hi.updateReceiver c .finished (by simp [ReceiverPc.sock?]) (by simp [hret])
      (by simp)
    exact hi'.of_frame rfl rfl rfl rfl rfl rfl
  | _ => simp [Event.isNet] at hnet

/-! ## Captured pairs -/

/-- From `s` to `s'` the socket of a connection was closed only with a retirement. -/
structure Extends (s s' : State) : Prop where
  retired_le : s.retired ≤ s'.retired
  socks : s'.retired = s.retired → ∀ sock c, s.socks sock = some (.conn c) →
    s'.socks sock = some (.conn c)

lemma extends_of_frame (hsocks : s'.socks = s.socks) (hret : s'.retired = s.retired) :
    Extends s s' :=
  ⟨hret.ge, fun _ sock c hsock => by rw [hsocks]; exact hsock⟩

lemma extends_updateFree (hsock : ∀ c, s.socks sock ≠ some (.conn c)) {owner : Option Owner}
    (hsocks : s'.socks = Function.update s.socks sock owner) (hret : s'.retired = s.retired) :
    Extends s s' := by
  refine ⟨hret.ge, fun _ sk c hsk => ?_⟩
  have hne : sk ≠ sock := by rintro rfl; exact hsock c hsk
  rw [hsocks]
  simpa [hne] using hsk

lemma extends_of_retired_lt (hret : s'.retired = s.retired + 1) : Extends s s' :=
  ⟨by omega, fun heq => by omega⟩

lemma step_extends (h : step device s e = some (s', out)) : Extends s s' := by
  by_cases hnet : e.isNet
  swap
  · -- the other tasks do not touch the sockets
    obtain ⟨-, -, -, hsocks, -, hret, -⟩ := task_frame hnet h
    exact extends_of_frame hsocks hret
  cases Step.of_step h with
  | foreignOpen hfree => exact extends_updateFree (by simp [hfree]) rfl rfl
  | foreignClose hforeign => exact extends_updateFree (by simp [hforeign]) rfl rfl
  | accept _ hsock => exact extends_updateFree (by simp [hsock.2]) rfl rfl
  | registerFail | spawnFail | retire => exact extends_of_retired_lt rfl
  | register | spawn | rollback | receive | push | pushFail | handled | close | closePending
  | leave => exact extends_of_frame rfl rfl
  | _ => simp [Event.isNet] at hnet

/-- A request that was queued by the connection of its capture, with the generation of that
moment, and whose socket is still that connection's unless there was a retirement since. -/
structure Valid (log : List Obs) (s : State) (elem : PacketQueueElem) : Prop where
  enqueued : .enqueued elem.capture.conn elem ∈ log
  sampled : elem.capture.retired ≤ s.retired
  generation : elem.connGeneration = UInt32.ofNat elem.capture.retired
  live : elem.capture.retired = s.retired →
    s.socks elem.clientSock = some (.conn elem.capture.conn)

lemma Valid.step {elem : PacketQueueElem} (h : Valid log s elem) (hext : Extends s s')
    (out : List Obs) : Valid (log ++ out) s' elem where
  enqueued := List.mem_append_left out h.enqueued
  sampled := h.sampled.trans hext.retired_le
  generation := h.generation
  live hret := by
    -- no retirement since the capture means none in this step either
    have hle := h.sampled
    have hle' := hext.retired_le
    exact hext.socks (by omega) _ _ (h.live (by omega))

/-- A pair of socket and generation that travelled with `req`; without a request it is not a
valid descriptor. -/
def PairOf (log : List Obs) (s : State) (sock : Int) (generation : UInt32) :
    Option PacketQueueElem → Prop
  | some elem => sock = elem.clientSock ∧ generation = elem.connGeneration ∧ Valid log s elem
  | none => sock < 0

lemma PairOf.step {sock : Int} {generation : UInt32} {req : Option PacketQueueElem}
    (h : PairOf log s sock generation req) (hext : Extends s s') (out : List Obs) :
    PairOf (log ++ out) s' sock generation req := by
  cases req with
  | none => exact h
  | some elem => exact ⟨h.1, h.2.1, h.2.2.step hext out⟩

def ServerPc.txn? : ServerPc → Option Txn
  | .idle => none
  | .fetched t | .replying _ t _ | .built t _ | .handed t | .cleared t | .waiting t _ => some t

/-- Every captured pair of the port is the one its request travelled with, and valid. -/
structure Identity (log : List Obs) (s : State) : Prop where
  owned : Owned s
  queued : ∀ elem ∈ s.tcpQueue, Valid log s elem
  pending : PairOf log s s.pendingClientSock s.pendingConnGeneration s.pendingReq
  server : ∀ t, s.server.txn? = some t → Valid log s t.req
  uart : ∀ txn adu sock generation req, s.uart = .sending txn adu sock generation req →
    PairOf log s sock generation req

lemma identity_init : Identity [] init where
  owned := owned_init
  queued := by simp [init]
  pending := by simp [init, PairOf]
  server := by simp [init, ServerPc.txn?]
  uart := by simp [init]

lemma Identity.valid_enqueued (hi : Identity log s) (hext : Extends s s') {c : Nat}
    {elem : PacketQueueElem} {frames : List Bytes} {onePass : Bool}
    (hpush : s.receivers c = .pushing elem.clientSock elem.connGeneration elem.capture
      (elem.data :: frames) onePass) : Valid (log ++ [.enqueued c elem]) s' elem := by
  obtain ⟨hconn, hle, hgen⟩ := hi.owned.capture c _ _ _ _ _ hpush
  have hle' := hext.retired_le
  refine ⟨by simp [hconn], hle.trans hle', hgen, fun hret => ?_⟩
  -- the receiver task runs the handler, so its socket is open
  have howner := hi.owned.receiver c elem.clientSock (by simp [hpush, ReceiverPc.sock?])
  rw [hconn]
  exact hext.socks (by omega) _ _ howner

structure SamePair (s s' : State) : Prop where
  clientSock : s'.pendingClientSock = s.pendingClientSock
  connGeneration : s'.pendingConnGeneration = s.pendingConnGeneration
  req : s'.pendingReq = s.pendingReq

lemma Identity.task (hi : Identity log s) (hext : Extends s s') (howned : Owned s')
    (hqueue : ∀ elem ∈ s'.tcpQueue, elem ∈ s.tcpQueue)
    (hpending : SamePair s s' ∨
      ∃ elem ∈ s.tcpQueue, s'.pendingClientSock = elem.clientSock ∧
        s'.pendingConnGeneration = elem.connGeneration ∧ s'.pendingReq = some elem)
    (hserver : ∀ t, s'.server.txn? = some t → s.server.txn? = some t ∨ t.req ∈ s.tcpQueue)
    (huart : ∀ txn adu sock generation req, s'.uart = .sending txn adu sock generation req →
      s.uart = .sending txn adu sock generation req ∨
        (sock = s.pendingClientSock ∧ generation = s.pendingConnGeneration ∧ req = s.pendingReq)) :
    Identity (log ++ out) s' where
  owned := howned
  queued elem helem := (hi.queued elem (hqueue elem helem)).step hext out
  pending := by
    rcases hpending with ⟨hsock, hgen, hreq⟩ | ⟨elem, helem, hsock, hgen, hreq⟩
    · rw [hsock, hgen, hreq]
      exact hi.pending.step hext out
    · -- socket and generation were copied from one queue element
      rw [hsock, hgen, hreq]
      exact ⟨rfl, rfl, (hi.queued elem helem).step hext out⟩
  server t ht := by
    rcases hserver t ht with hold | hnew
    · exact (hi.server t hold).step hext out
    · exact (hi.queued t.req hnew).step hext out
  uart txn adu sock generation req hu := by
    rcases huart txn adu sock generation req hu with hold | ⟨rfl, rfl, rfl⟩
    · exact (hi.uart txn adu sock generation req hold).step hext out
    · exact hi.pending.step hext out

lemma Identity.uartStep (hi : Identity log s) (hext : Extends s s') (howned : Owned s')
    (hqueue : ∀ elem ∈ s'.tcpQueue, elem ∈ s.tcpQueue)
    (hpending : SamePair s s')
    (hserver : s'.server = s.server)
    (huart : ∀ txn adu sock generation req, s'.uart = .sending txn adu sock generation req →
      sock = s.pendingClientSock ∧ generation = s.pendingConnGeneration ∧ req = s.pendingReq) :
    Identity (log ++ out) s' :=
  hi.task hext howned hqueue (.inl hpending) (fun _ ht => .inl (hserver ▸ ht))
    fun _ _ _ _ _ hu => .inr (huart _ _ _ _ _ hu)

lemma identity_net (hi : Identity log s) (hnet : e.isNet)
    (h : step device s e = some (s', out)) : Identity (log ++ out) s' := by
  have hext := step_extends h
  obtain ⟨hserver, huart, -, -, hpend, hout⟩ := net_frame hnet h
  refine ⟨owned_step hi.owned h, ?_, ?_, ?_, ?_⟩
  · rcases hout with ⟨rfl, hqueue⟩ | ⟨c, elem, frames, onePass, hpush, rfl, hqueue⟩
    · intro elem helem
      exact (hi.queued elem (hqueue ▸ helem)).step hext []
    · intro elem' helem'
      rw [hqueue, List.mem_append, List.mem_singleton] at helem'
      rcases helem' with hold | rfl
      · exact (hi.queued elem' hold).step hext _
      · exact hi.valid_enqueued hext hpush
  · rcases hpend with ⟨-, hsock, hgen, hreq, -⟩ | ⟨-, hsock, -, hreq, -⟩
    · rw [hsock, hgen, hreq]
      exact hi.pending.step hext out
    · -- cleared by the close handler: the descriptor is -1
      rw [hsock, hreq]
      simp [PairOf]
  · intro t ht
    exact (hi.server t (hserver ▸ ht)).step hext out
  · intro txn adu sock generation req hu
    exact (hi.uart txn adu sock generation req (huart ▸ hu)).step hext out

lemma identity_step (hi : Identity log s) (h : step device s e = some (s', out)) :
    Identity (log ++ out) s' := by
  by_cases hnet : e.isNet
  · exact identity_net hi hnet h
  have hext := step_extends h
  have howned := owned_step hi.owned h
  obtain ⟨-, -, -, -, -, -, -, hqueue⟩ := task_frame hnet h
  cases Step.of_step h with
  | @fetchTcpRequest elem queue _ hq =>
    -- the pair of the fetched request becomes the pending one
    refine hi.task hext howned hqueue (.inr ⟨elem, by simp [hq], rfl, rfl, rfl⟩) ?_
      fun _ _ _ _ _ hu => .inl hu
    intro t ht
    obtain rfl : (⟨s.popped, elem⟩ : Txn) = t := by simpa [ServerPc.txn?] using ht
    exact .inr (by simp [hq])
  | drop hpc | answer hpc | build hpc | sendLocalReply hpc | sendRtuRequest hpc | sendFail hpc
  | clearBits hpc | waitTxDone hpc | expire hpc | resume hpc =>
    exact hi.task hext howned hqueue (.inl ⟨rfl, rfl, rfl⟩)
      (by simp [ServerPc.txn?, hpc]) fun _ _ _ _ _ hu => .inl hu
  | uartReadPair =>
    -- the only step in which the handler captures a pair
    refine hi.uartStep hext howned hqueue ⟨rfl, rfl, rfl⟩ rfl ?_
    rintro txn' adu' sock generation req hu
    cases hu
    exact ⟨rfl, rfl, rfl⟩
  | uartFrame huart | uartRefuse huart | uartSignal huart | uartSend huart | serial huart
  | serialRefuse huart =>
    exact hi.uartStep hext howned hqueue ⟨rfl, rfl, rfl⟩ rfl (by simp [huart])
  | _ => simp [Event.isNet] at hnet

lemma identity_invariant {ok : List Obs → State → Event → Prop}
    (hrun : (machine device).Run ok log s) : Identity log s :=
  hrun.invariant identity_init fun _ hi _ h => identity_step hi h

/-! ## Writes -/

lemma retired_eq_of_generation_eq {a b : Nat} (hle : a ≤ b) (hlt : b < a + 2 ^ 32)
    (h : UInt32.ofNat a = UInt32.ofNat b) : a = b := by
  have hmod : a % 2 ^ 32 = b % 2 ^ 32 := by simpa using congrArg UInt32.toNat h
  omega

lemma PairOf.owner_eq {generation : UInt32} {req : Option PacketQueueElem} {owner : Owner}
    (h : PairOf log s sock generation req) (howned : Owned s)
    (hsends : s.Sends sock generation owner) :
    ∃ elem, req = some elem ∧ Valid log s elem ∧
      (s.retired < elem.capture.retired + 2 ^ 32 → owner = .conn elem.capture.conn) := by
  obtain ⟨howner, rfl, hsock⟩ := hsends
  cases req with
  | none =>
    have hneg : sock < 0 := h
    omega
  | some elem =>
    obtain ⟨rfl, hgen, hvalid⟩ := h
    refine ⟨elem, rfl, hvalid, fun hlt => ?_⟩
    -- equal generations mean that nothing was retired since the capture
    have heq : elem.capture.retired = s.retired := by
      apply retired_eq_of_generation_eq hvalid.sampled hlt
      rw [← hvalid.generation, ← howned.generation, hgen]
    simpa [howner] using hvalid.live heq

lemma written_of_step (hi : Identity log s) (h : step device s e = some (s', out))
    {path : ReplyPath} {req : Option PacketQueueElem} {retired : Nat} {owner : Owner} {adu : Bytes}
    (hmem : .written path req retired owner adu ∈ out) :
    ∃ elem, req = some elem ∧ Valid log s elem ∧
      (retired < elem.capture.retired + 2 ^ 32 → owner = .conn elem.capture.conn) := by
  obtain ⟨rfl, hsender⟩ := written_cases h hmem
  rcases hsender with ⟨reply, t, hserver, -, rfl, hsends⟩ |
    ⟨lockOk, sendOk, txn, sock, generation, -, huart, -, hsends⟩ |
    ⟨data, mallocOk, lockOk, sendOk, -, -, -, rfl, hsends⟩
  · have hpair : PairOf log s t.req.clientSock t.req.connGeneration (some t.req) :=
      ⟨rfl, rfl, hi.server t (by simp [hserver, ServerPc.txn?])⟩
    exact hpair.owner_eq hi.owned hsends
  · exact (hi.uart txn adu sock generation req huart).owner_eq hi.owned hsends
  · exact hi.pending.owner_eq hi.owned hsends

/-- Connection identity: in every run of the port, for every write of
`tcp_server_send_to_captured_client`, the pair it used had travelled with a request that the
receiver task of some connection `c` enqueued, and unless `2 ^ 32` or more retirements
happened between the capture and the write, the bytes went into the socket of `c`. -/
theorem written_to_requester (hrun : (machine device).Run Machine.anyStep log s)
    {path : ReplyPath} {req : Option PacketQueueElem} {retired : Nat} {owner : Owner} {adu : Bytes}
    (hmem : .written path req retired owner adu ∈ log) :
    ∃ c elem, req = some elem ∧ .enqueued c elem ∈ log ∧
      (retired < elem.capture.retired + 2 ^ 32 → owner = .conn c) := by
  induction hrun with
  | init => simp at hmem
  | step hrun _ h ih =>
    rcases List.mem_append.mp hmem with hold | hnew
    · obtain ⟨c, elem, hreq, henq, howner⟩ := ih hold
      exact ⟨c, elem, hreq, List.mem_append_left _ henq, howner⟩
    · obtain ⟨elem, hreq, hvalid, howner⟩ := written_of_step (identity_invariant hrun) h hnew
      exact ⟨elem.capture.conn, elem, hreq, List.mem_append_left _ hvalid.enqueued, howner⟩

/-- A client connects on socket 3 after another one has come and gone on it, and the answer to
its request is written into its own connection. -/
theorem written_to_requester_socketReuse :
    ∃ log s c elem path adu, (machine id).Run Machine.anyStep log s ∧ .enqueued c elem ∈ log ∧
      .written path (some elem) 1 (.conn c) adu ∈ log := by
  let elem : PacketQueueElem := ⟨[0, 1, 0, 0, 0, 6, 5, 3, 0, 0, 0, 1], 3, 1, ⟨1, 1⟩⟩
  obtain ⟨log, s, hrun, hmem⟩ := Machine.Run.exists_of_exec (machine id) Machine.anyStep
    (List.flatten [[.accept 3, .register true, .spawn true, .onTcpConnClose 0, .retire 0, .leave 0,
      .accept 3, .register true, .spawn true, .receive 1 elem.data, .push 1 true, .handled 1],
      awaits, [.uartFrame [5, 3, 2, 0, 7, 8, 70] true, .uartSignal, .uartReadPair,
        .uartSend true true]])
    (fun log _ => .written (.serial (some ⟨0, elem⟩)) (some elem) 1 (.conn 1)
      [0, 1, 0, 0, 0, 5, 5, 3, 2, 0, 7] ∈ log)
    (by decide +kernel)
  obtain ⟨c, elem', heq, henq, howner⟩ := written_to_requester hrun hmem
  obtain rfl := Option.some.inj heq
  rw [howner (by decide)] at hmem
  exact ⟨log, s, c, elem, _, _, hrun, henq, hmem⟩

end WbMge.Gateway
