import WbMge.TcpServer.Teardown

/-!
# A server for one client

`transparent_tcp_init_port` calls `tcp_server_init` and then limits the clients to one with
`tcp_server_set_max_connections`. Once the limit is set, the acceptor admits a client only when
there is none, and the field `last_client_sock`, to which the bytes from the serial port go, has the
socket of the client whose bytes go to the serial port.

The acceptor runs before the limit is set. Until then clients that wait on the listen socket are all
let in: `two_clients_admitted`.
-/

namespace WbMge.TcpServer

open Handles Tcp

def ReceiverPc.serves : ReceiverPc → Option Handle
  | .register _ sock _ | .recv sock | .handle sock | .checkExit sock | .closeHandler sock
  | .retire .acquire sock | .retire .clear sock => some sock
  | .retire .close _ | .retire .release _ | .decrement | .ended => none

def AcceptorPc.published : AcceptorPc → Option Handle
  | .register .release sock | .increment sock | .createReceiver sock => some sock
  | .register .acquire _ | .register .store _ | .notCreated | .checkExit | .loadListen | .accept
  | .acceptFailed _ | .recheckExit | .exchange _ | .closeListen _ _ | .create _ | .storeListen _
  | .checkLimit _ | .allocArgs _ | .retire _ _ _ | .decrement | .finish | .ended => none

def AcceptorPc.admitting : AcceptorPc → Nat
  | .allocArgs _ | .register _ _ | .increment _ => 1
  | .notCreated | .checkExit | .loadListen | .accept | .acceptFailed _ | .recheckExit | .exchange _
  | .closeListen _ _ | .create _ | .storeListen _ | .checkLimit _ | .createReceiver _
  | .retire _ _ _ | .decrement | .finish | .ended => 0

/-- The acceptor is about to compare `active_connections` with the limit. -/
def AcceptorPc.checksLimit : AcceptorPc → Bool
  | .checkLimit _ => true
  | _ => false

section

variable {n : Nat}

/-- The socket has a receiver or is about to get one. -/
def State.Serves (s : State n) (sock : Handle) : Prop :=
  s.acceptor = .createReceiver sock ∨
    ∃ (k : Nat) (r : ReceiverPc), s.receivers[k]? = some r ∧ r.serves = some sock

/-- The limit is set when a second client comes to the check. -/
def LimitInTime (_ : List Obs) (s : State n) : Event n → Prop
  | .acceptor _ => s.acceptor.checksLimit = true → 0 < s.activeConnections → s.init = .done
  | .init _ | .receiver _ _ | .deinit | .call _ _ | .sender _ | .timeout _ | .others _ => True

instance (log : List Obs) (s : State n) (e : Event n) : Decidable (LimitInTime log s e) := by
  cases e <;> unfold LimitInTime <;> infer_instance

/-! ## The invariant -/

structure Single (s : State n) : Prop where
  limit : s.init = .done → s.maxConnections = 1
  limitToCome : ∀ m, s.init = .setMaxConnections m → m = 1
  one : s.activeConnections + s.acceptor.admitting ≤ 1
  acceptor : ∀ sock, s.acceptor.published = some sock → s.lastClientSock = some sock
  receiver : ∀ (k : Nat) (r : ReceiverPc) (sock : Handle), s.receivers[k]? = some r →
    r.serves = some sock → s.lastClientSock = some sock
  sender : ∀ k num, s.sender k = .send .current num → s.lastClientSock.map Handle.num = some num

lemma single_init (limit : Option Nat) : Single (machine n limit).init where
  limit h := by cases h
  limitToCome m h := by cases h
  one := Nat.zero_le 1
  acceptor := by simp [machine, AcceptorPc.published]
  receiver := by simp [machine]
  sender := by simp [machine]

variable {log : List Obs} {s s' : State n} {out : List Obs}

variable {r : ReceiverPc} {k : Nat} {result : Result}

lemma ne_ended_of_serves {sock : Handle} (h : r.serves = some sock) : r ≠ .ended := by
  rintro rfl
  cases h

lemma eq_of_running_le_one {receivers : List ReceiverPc} {j : Nat} {r' : ReceiverPc}
    (hone : running receivers ≤ 1) (hk : receivers[k]? = some r) (hr : r ≠ .ended)
    (hj : receivers[j]? = some r') (hr' : r' ≠ .ended) : j = k := by
  by_contra hjk
  have hset := running_set (p := .ended) hk hr
  have hj' : (receivers.set k .ended)[j]? = some r' := by
    rwa [List.getElem?_set_ne (Ne.symm hjk)]
  have hpos := running_pos hj' hr'
  rw [if_pos rfl] at hset
  omega

lemma Single.of_receiver (h : Single s) (hinv : Inv log s) (hk : s.receivers[k]? = some r)
    (hr : r ≠ .ended) : running s.receivers ≤ 1 ∧ s.acceptor.published = none := by
  have hone := h.one
  have hcount := hinv.count
  have hpos := running_pos hk hr
  refine ⟨by omega, ?_⟩
  have hadmit : s.acceptor.admitting = 0 := by omega
  have hcounted : s.acceptor.counted = 0 := by omega
  cases ha : s.acceptor with
  | increment sock | register pc sock =>
    rw [ha] at hadmit
    cases hadmit
  | createReceiver sock =>
    rw [ha] at hcounted
    cases hcounted
  | notCreated | checkExit | loadListen | accept | acceptFailed _ | recheckExit | exchange _
  | closeListen _ _ | create _ | storeListen _ | checkLimit _ | allocArgs _ | retire _ _ _
  | decrement | finish | ended => rfl

lemma Inv.not_send (hinv : Inv log s) {who : Owner n} (hwho : s.Inside who)
    (hne : ∀ k, who ≠ .sender k) (k : Fin n) (call : SendCall) (num : Nat) :
    s.sender k ≠ .send call num := by
  intro hk
  have hin : s.Inside (.sender k) := by
    simp only [State.Inside, hk]
    trivial
  exact hne k (hinv.lock.eq hwho hin)

/-! ## Steps of the acceptor -/

inductive AcceptorStep (s : State n) : State n → Prop
  | quiet (p : AcceptorPc) (w : Estate) (c : Option Handle) (l : Option (Owner n)) (b : Bool) :
      p.admitting ≤ s.acceptor.admitting →
      (∀ sock, p.published = some sock → s.acceptor.published = some sock) →
      AcceptorStep s { s with
        acceptor := p, sockets := w, listenSock := c, connLock := l, finished := b }
  | pass (sock : Handle) : s.acceptor = .checkLimit sock →
      ¬ (s.maxConnections ≠ 0 ∧ s.maxConnections ≤ s.activeConnections) →
      AcceptorStep s { s with acceptor := .allocArgs sock }
  | store (sock : Handle) : s.acceptor = .register .store sock →
      AcceptorStep s { s with acceptor := .register .release sock, lastClientSock := some sock }
  | clear (sock : Handle) (counted : Bool) (g : UInt32) : s.acceptor = .retire .clear sock counted →
      AcceptorStep s { s with
        acceptor := .retire .close sock counted, lastClientSock := s.clearLast sock,
        connGeneration := g }
  | increment (sock : Handle) : s.acceptor = .increment sock →
      AcceptorStep s { s with
        activeConnections := s.activeConnections + 1, acceptor := .createReceiver sock }
  | createReceiver (sock : Handle) : s.acceptor = .createReceiver sock →
      AcceptorStep s { s with
        receivers := s.receivers ++ [.register .acquire sock false], acceptor := .checkExit }
  | decrement : s.acceptor = .decrement →
      AcceptorStep s { s with
        activeConnections := s.activeConnections - 1, acceptor := .checkExit }

lemma create_frame {pc : CreatePc} {r : CreatePc ⊕ Option Handle}
    (hs : s.create result pc = some (s', r, out)) : ∃ w, s' = { s with sockets := w } := by
  unfold State.create at hs
  repeat' split at hs
  all_goals cases hs
  all_goals exact ⟨_, rfl⟩

lemma acceptorStep_cases (hs : s.acceptorStep result = some (s', out)) : AcceptorStep s s' := by
  -- a step to where the acceptor has no client
  have hquiet : ∀ {p : AcceptorPc} {w : Estate} {c : Option Handle} {l : Option (Owner n)}
      {b : Bool}, p.admitting ≤ s.acceptor.admitting → p.published = none →
      AcceptorStep s { s with
        acceptor := p, sockets := w, listenSock := c, connLock := l, finished := b } := by
    intro p w c l b hadmit hpub
    exact .quiet p w c l b hadmit (by simp [hpub])
  cases ha : s.acceptor with
  | create pc =>
    simp only [State.acceptorStep, ha] at hs
    obtain ⟨⟨s₁, r, out₁⟩, hcreate, hs⟩ := Option.map_eq_some_iff.1 hs
    obtain ⟨w, rfl⟩ := create_frame hcreate
    cases hs
    rcases r with _ | _ | _ <;> exact hquiet (Nat.zero_le _) rfl
  | exchange after =>
    simp only [State.acceptorStep, ha] at hs
    cases hs
    cases s.listenSock <;> cases after <;> exact hquiet (Nat.zero_le _) rfl
  | closeListen sock after =>
    simp only [State.acceptorStep, ha] at hs
    cases hs
    cases after <;> exact hquiet (Nat.zero_le _) rfl
  | _ =>
    simp only [State.acceptorStep, ha, State.register, State.retire] at hs
    repeat' split at hs
    all_goals cases hs
    all_goals first
      | exact .pass _ ha ‹_›
      | exact .store _ ha
      | exact .clear _ _ _ ha
      | exact .increment _ ha
      | exact .createReceiver _ ha
      | exact .decrement ha
      | exact hquiet (Nat.zero_le _) rfl
      | exact hquiet (by rw [ha]; exact Nat.le_refl 1) rfl
      | exact .quiet (.increment _) _ _ none _ (by rw [ha]; exact Nat.le_refl 1)
          (by rw [ha]; exact fun _ h => h)

lemma Single.acceptorMove (h : Single s) {p : AcceptorPc} {w : Estate} {c f : Option Handle}
    {g : UInt32} {l : Option (Owner n)} {a : Nat} {b : Bool} (hone : a + p.admitting ≤ 1)
    (hpub : ∀ sock, p.published = some sock → f = some sock)
    (hserved : ∀ (k : Nat) (r : ReceiverPc) (sock : Handle), s.receivers[k]? = some r →
      r.serves = some sock → f = some sock)
    (hf : f = s.lastClientSock ∨ ∀ k call num, s.sender k ≠ .send call num) :
    Single { s with
      acceptor := p, sockets := w, listenSock := c, lastClientSock := f, connGeneration := g,
      connLock := l, activeConnections := a, finished := b } where
  limit := h.limit
  limitToCome := h.limitToCome
  one := hone
  acceptor := hpub
  receiver := hserved
  sender k num hk := by
    obtain rfl | hsend := hf
    · exact h.sender k num hk
    · exact absurd hk (hsend k _ _)

lemma Single.clearLast_eq (h : Single s) (hinv : Inv log s) {sock x : Handle}
    (ha : s.acceptor.sock? = some sock) (hk : s.receivers[k]? = some r) (hr : r.serves = some x) :
    s.clearLast sock = some x := by
  have hlast : s.lastClientSock = some x := h.receiver k r x hk hr
  have hheld : s.held (.receiver k) = some x := by
    have hsock : r.sock? = some x := by
      cases r with
      | retire pc y => cases pc <;> first | exact hr | cases hr
      | register _ _ _ | recv _ | handle _ | checkExit _ | closeHandler _ => exact hr
      | decrement | ended => cases hr
    simp [State.held, holds, hk, hsock]
  have hheld' : s.held .acceptor = some sock := ha
  have hnum : x.num ≠ sock.num := by
    intro hnum
    have hmem := hinv.accounts.ledger.owned.mem
    obtain rfl := Pool.eq_of_num_eq (hmem hheld) (hmem hheld') hnum
    cases hinv.accounts.ledger.owned.exclusive hheld hheld'
  simp [State.clearLast, hlast, hnum]

lemma Single.acceptorStep (h : Single s) (hinv : Inv log s)
    (hok : LimitInTime log s (.acceptor result)) (hs : AcceptorStep s s') : Single s' := by
  -- when there is no receiver, nobody is served
  have hnobody : running s.receivers = 0 → ∀ {f : Option Handle} (k : Nat) (r : ReceiverPc)
      (sock : Handle), s.receivers[k]? = some r → r.serves = some sock → f = some sock := by
    intro hzero f k r sock hk hr
    exact absurd hzero (Nat.ne_of_gt (running_pos hk (ne_ended_of_serves hr)))
  have hone := h.one
  have hcount := hinv.count
  cases hs with
  | quiet p w c l b hadmit hpub =>
    exact h.acceptorMove (by omega) (fun sock hp => h.acceptor sock (hpub sock hp)) h.receiver
      (.inl rfl)
  | pass sock ha hlimit =>
    refine h.acceptorMove ?_ (by simp [AcceptorPc.published]) h.receiver (.inl rfl)
    -- a client that is there would have been seen: the limit is set
    have hzero : s.activeConnections = 0 := by
      by_contra hne
      have hpos : 0 < s.activeConnections := Nat.pos_of_ne_zero hne
      have hmax : s.maxConnections = 1 := h.limit (hok (by rw [ha]; rfl) hpos)
      exact hlimit ⟨by simp [hmax], by omega⟩
    rw [hzero]
    exact Nat.le_refl 1
  | store sock ha =>
    have hin : s.Inside .acceptor := by
      simp only [State.Inside, ha]
      trivial
    rw [ha] at hone
    simp only [AcceptorPc.admitting] at hone
    refine h.acceptorMove (a := s.activeConnections) hone ?_ (hnobody (by omega))
      (.inr fun k call num => hinv.not_send hin (by simp) k call num)
    intro x hx
    exact hx
  | clear sock counted g ha =>
    have hin : s.Inside .acceptor := by
      simp only [State.Inside, ha]
      trivial
    refine h.acceptorMove (a := s.activeConnections) (by simp [AcceptorPc.admitting]; omega)
      (by simp [AcceptorPc.published]) ?_
      (.inr fun k call num => hinv.not_send hin (by simp) k call num)
    intro k r x hk hr
    exact h.clearLast_eq hinv (by rw [ha]; rfl) hk hr
  | increment sock ha =>
    rw [ha] at hone
    simp only [AcceptorPc.admitting] at hone
    refine h.acceptorMove (by simpa [AcceptorPc.admitting] using hone) ?_ h.receiver (.inl rfl)
    intro x hx
    exact h.acceptor x (by rw [ha]; exact hx)
  | createReceiver sock ha =>
    refine ⟨h.limit, h.limitToCome, ?_, by simp [AcceptorPc.published], ?_, h.sender⟩
    · simp only [AcceptorPc.admitting]
      omega
    · intro k r x hk hr
      rcases Nat.lt_or_ge k s.receivers.length with hlt | hge
      · rw [List.getElem?_append_left hlt] at hk
        exact h.receiver k r x hk hr
      -- the new receiver serves the client that the acceptor has published
      rw [List.getElem?_append_right hge] at hk
      obtain rfl := List.mem_singleton.1 (List.mem_of_getElem? hk)
      exact h.acceptor x (by rw [ha]; exact hr)
  | decrement ha =>
    refine h.acceptorMove (p := .checkExit) ?_ (by simp [AcceptorPc.published]) h.receiver
      (.inl rfl)
    simp only [AcceptorPc.admitting]
    omega

/-! ## Steps of a receiver -/

inductive ReceiverStep (s : State n) (k : Nat) (r : ReceiverPc) : State n → Prop
  | quiet (p : ReceiverPc) (w : Estate) (l : Option (Owner n)) :
      (∀ sock, p.serves = some sock → r.serves = some sock) →
      ReceiverStep s k r { s.setReceiver k p with sockets := w, connLock := l }
  | store (sock : Handle) (packet : Bool) : r = .register .store sock packet →
      ReceiverStep s k r { s.setReceiver k (.register .release sock packet) with
        lastClientSock := some sock }
  | clear (sock : Handle) (g : UInt32) : r = .retire .clear sock →
      ReceiverStep s k r { s.setReceiver k (.retire .close sock) with
        lastClientSock := s.clearLast sock, connGeneration := g }
  | decrement : r = .decrement →
      ReceiverStep s k r
        { s.setReceiver k .ended with activeConnections := s.activeConnections - 1 }

lemma receiverStep_cases (hs : s.receiverStep k r result = some (s', out)) :
    ReceiverStep s k r s' := by
  simp only [State.receiverStep, State.register, State.retire] at hs
  repeat' split at hs
  all_goals cases hs
  all_goals first
    | exact .store _ _ rfl
    | exact .clear _ _ rfl
    | exact .decrement rfl
    | exact .quiet _ _ _ fun _ h => h

lemma serves_setReceiver {j : Nat} {p : ReceiverPc}
    (hj : (s.setReceiver k p).receivers[j]? = some r) :
    j = k ∧ r = p ∨ j ≠ k ∧ s.receivers[j]? = some r := by
  by_cases hjk : j = k
  · subst hjk
    refine .inl ⟨rfl, ?_⟩
    have hmem := List.getElem?_set (l := s.receivers) (i := j) (j := j) (a := p)
    rw [if_pos rfl] at hmem
    split at hmem
    · exact Option.some.inj (hj.symm.trans hmem)
    · cases hj.symm.trans hmem
  · refine .inr ⟨hjk, ?_⟩
    rwa [State.setReceiver, List.getElem?_set_ne (Ne.symm hjk)] at hj

lemma Single.receiverStep (h : Single s) (hinv : Inv log s) (hk : s.receivers[k]? = some r)
    (hr : r ≠ .ended) (hs : ReceiverStep s k r s') : Single s' := by
  obtain ⟨hrunning, hpub⟩ := h.of_receiver hinv hk hr
  -- a change of `last_client_sock`: there is nobody else who could be served
  have hchange : ∀ {p : ReceiverPc} {f : Option Handle} {g : UInt32}, r.Inside →
      (∀ sock, p.serves = some sock → f = some sock) →
      Single { s.setReceiver k p with lastClientSock := f, connGeneration := g } := by
    intro p f g hin hserves
    refine ⟨h.limit, h.limitToCome, h.one, fun x hx => ?_, fun j r' x hj hr' => ?_,
      fun j num hj => ?_⟩
    · cases hpub.symm.trans hx
    · obtain ⟨rfl, rfl⟩ | ⟨hjk, hj⟩ := serves_setReceiver hj
      · exact hserves x hr'
      · exact absurd (eq_of_running_le_one hrunning hk hr hj (ne_ended_of_serves hr')) hjk
    · have hwho : s.Inside (.receiver k) := ⟨r, hk, hin⟩
      exact absurd hj (hinv.not_send hwho (by simp) j _ _)
  cases hs with
  | quiet p w l hserves =>
    refine ⟨h.limit, h.limitToCome, h.one, h.acceptor, fun j r' sock hj hr' => ?_, h.sender⟩
    obtain ⟨rfl, rfl⟩ | ⟨hjk, hj⟩ := serves_setReceiver hj
    · exact h.receiver j r sock hk (hserves sock hr')
    · exact h.receiver j r' sock hj hr'
  | store sock packet hr =>
    subst hr
    exact hchange trivial fun _ h => h
  | clear sock g hr =>
    subst hr
    exact hchange trivial (by simp [ReceiverPc.serves])
  | decrement hr =>
    subst hr
    refine ⟨h.limit, h.limitToCome, ?_, h.acceptor, fun j r' x hj hr' => ?_, h.sender⟩
    · have hone := h.one
      simp only [State.setReceiver]
      omega
    · obtain ⟨rfl, rfl⟩ | ⟨hjk, hj⟩ := serves_setReceiver hj
      · cases hr'
      · exact h.receiver j r' x hj hr'

/-! ## The other steps -/

lemma Single.senderMove (h : Single s) {k : Fin n} {p : SenderPc} {l : Option (Owner n)}
    (hsend : ∀ num, p = .send .current num → s.lastClientSock.map Handle.num = some num) :
    Single { s.setSender k p with connLock := l } where
  limit := h.limit
  limitToCome := h.limitToCome
  one := h.one
  acceptor := h.acceptor
  receiver := h.receiver
  sender j num hj := by
    by_cases hjk : j = k
    · subst hjk
      exact hsend num (by simpa [State.setSender] using hj)
    · exact h.sender j num (by simpa [State.setSender, hjk] using hj)

lemma Single.senderStep (h : Single s) {k : Fin n} (hs : s.senderStep k = some (s', out)) :
    Single s' := by
  unfold State.senderStep at hs
  cases hk : s.sender k <;> simp only [hk] at hs
  case read call =>
    cases hs
    refine h.senderMove (l := s.connLock) fun num hp => ?_
    cases htarget : s.sendTarget call <;> rw [htarget] at hp <;> cases hp
    exact htarget
  all_goals try split at hs
  all_goals cases hs
  all_goals exact h.senderMove (by simp)

lemma Single.initStep (h : Single s) (hs : s.initStep (some 1) result = some (s', out))
    (hinv : Inv log s) : Single s' := by
  -- a step after which the limit is not set yet
  have hgoto : ∀ {p : InitPc} {w : Estate}, p ≠ .done → (∀ m, p = .setMaxConnections m → m = 1) →
      Single { s with init := p, sockets := w } :=
    fun hdone hcome => { h with limit := fun hp => absurd hp hdone, limitToCome := hcome }
  unfold State.initStep at hs
  cases hinit : s.init <;> simp only [hinit] at hs
  case create pc =>
    obtain ⟨⟨s₁, r, out₁⟩, hcreate, hs⟩ := Option.map_eq_some_iff.1 hs
    obtain ⟨w, rfl⟩ := create_frame hcreate
    cases hs
    rcases r with _ | _ | _ <;> exact hgoto (by simp) (by simp)
  case setMaxConnections m =>
    cases hs
    exact { h with limit := fun _ => h.limitToCome m hinit, limitToCome := by simp }
  case setTaskHandle =>
    cases hs
    exact hgoto (p := .setMaxConnections 1) (by simp) (by simp)
  case createTask sock =>
    have hnew : s.acceptor = .notCreated := hinv.early (by rw [hinit]; trivial)
    have hone := h.one
    cases result with
    | ok fd =>
      cases hs
      refine ⟨by simp, by simp, ?_, by simp [AcceptorPc.published], h.receiver, h.sender⟩
      rwa [hnew] at hone
    | again | noResource | error =>
      cases hs
      exact hgoto (by simp) (by simp)
  all_goals try split at hs
  all_goals cases hs
  all_goals exact hgoto (by simp) (by simp)

lemma deinitStep_frame (hs : s.deinitStep = some (s', out)) :
    ∃ p w c e, s' = { s with deinit := p, sockets := w, listenSock := c, exitReq := e } := by
  unfold State.deinitStep at hs
  repeat' split at hs
  all_goals cases hs
  all_goals exact ⟨_, _, _, _, rfl⟩

lemma Single.step (h : Single s) (hinv : Inv log s) {e : Event n} (hok : LimitInTime log s e)
    (hs : s.step (some 1) e = some (s', out)) : Single s' := by
  cases e with
  | init result => exact h.initStep hs hinv
  | acceptor result => exact h.acceptorStep hinv hok (acceptorStep_cases hs)
  | receiver k result =>
    obtain ⟨r, hk, hs⟩ := Option.bind_eq_some_iff.1 hs
    have hr : r ≠ .ended := by
      rintro rfl
      cases hs
    exact h.receiverStep hinv hk hr (receiverStep_cases hs)
  | deinit =>
    obtain ⟨p, w, c, e, rfl⟩ := deinitStep_frame hs
    exact ⟨h.limit, h.limitToCome, h.one, h.acceptor, h.receiver, h.sender⟩
  | call k call =>
    obtain ⟨-, hs⟩ := Option.ite_none_right_eq_some.1 hs
    cases hs
    exact h.senderMove (l := s.connLock) (by simp)
  | sender k => exact h.senderStep hs
  | timeout k =>
    simp only [State.step] at hs
    split at hs
    · cases hs
      exact h.senderMove (l := s.connLock) (by simp)
    all_goals cases hs
  | others deed =>
    obtain ⟨w, hw, hs⟩ := Option.map_eq_some_iff.1 hs
    cases hs
    exact ⟨h.limit, h.limitToCome, h.one, h.acceptor, h.receiver, h.sender⟩

lemma single_of_run (h : (machine n (some 1)).Run LimitInTime log s) : Single s :=
  Machine.Run.invariant (P := fun _ s => Single s) (single_init (some 1))
    (fun hrun hsingle hok hs => hsingle.step (inv_of_run hrun) hok hs) h

end

/-- A server with the limit of `transparent_tcp_init_port`, whatever its clients do: if the acceptor
does not look at the limit before it is set while a client is there, then there is at most one
client, and while it is served, `last_client_sock` and every producer on its way into `send()` have
its socket. -/
theorem single_client (n : Nat) (log : List Obs) (s : State n)
    (h : (machine n (some 1)).Run LimitInTime log s) :
    s.activeConnections ≤ 1 ∧ ∀ sock, s.Serves sock → s.lastClientSock = some sock ∧
      ∀ k num, s.sender k = .send .current num → num = sock.num := by
  have hsingle := single_of_run h
  refine ⟨Nat.le_of_add_right_le hsingle.one, fun sock hserves => ?_⟩
  have hlast : s.lastClientSock = some sock := by
    obtain ha | ⟨k, r, hk, hr⟩ := hserves
    · exact hsingle.acceptor sock (by rw [ha]; rfl)
    · exact hsingle.receiver k r sock hk hr
  refine ⟨hlast, fun k num hk => ?_⟩
  have hnum := hsingle.sender k num hk
  rw [hlast] at hnum
  exact (Option.some.inj hnum).symm

/-- A client comes while another one is served, and is turned away. -/
theorem single_client_rejected :
    ∃ log s, (machine 1 (some 1)).Run LimitInTime log s ∧ Obs.close (some ⟨2, 6⟩) ∈ log ∧
      s.activeConnections ≤ 1 ∧ s.Serves ⟨1, 5⟩ ∧ s.lastClientSock = some ⟨1, 5⟩ := by
  obtain ⟨log, s, hrun, hclose, hserves⟩ :=
    Machine.Run.exists_of_exec (machine 1 (some 1)) LimitInTime
      (List.flatten [serverInit, [.init (.ok 0)], admits 5,
        [.acceptor .again, .acceptor .again, .acceptor (.ok 6)],
        List.replicate 4 (.acceptor .again)])
      (fun log s => Obs.close (some ⟨2, 6⟩) ∈ log ∧
        s.receivers[0]? = some (.register .acquire ⟨1, 5⟩ false))
      (by decide +kernel)
  obtain ⟨hone, hserved⟩ := single_client 1 log s hrun
  have hserves' : s.Serves ⟨1, 5⟩ := .inr ⟨0, _, hserves, rfl⟩
  exact ⟨log, s, hrun, hclose, hone, hserves', (hserved _ hserves').1⟩

/-- Two clients wait on the listen socket. The acceptor lets both in before the limit is set, and
the bytes from the serial port go to the second one while the first one is served too. -/
theorem two_clients_admitted :
    ∃ log s, (machine 1 (some 1)).Run Machine.anyStep log s ∧ s.maxConnections = 1 ∧
      s.activeConnections = 2 ∧ s.Serves ⟨1, 5⟩ ∧ s.Serves ⟨2, 6⟩ ∧
      s.lastClientSock = some ⟨2, 6⟩ := by
  obtain ⟨log, s, hrun, hmax, hactive, hfirst, hsecond, hlast⟩ :=
    Machine.Run.exists_of_exec (machine 1 (some 1)) Machine.anyStep
      (List.flatten [serverInit.dropLast, admits 5, admits 6,
        -- `tcp_server_init` returns, and the limit comes too late
        [.init (.ok 0), .init (.ok 0)]])
      (fun _ s => s.maxConnections = 1 ∧ s.activeConnections = 2 ∧
        s.receivers[0]? = some (.register .acquire ⟨1, 5⟩ false) ∧
        s.receivers[1]? = some (.register .acquire ⟨2, 6⟩ false) ∧
        s.lastClientSock = some ⟨2, 6⟩)
      (by decide +kernel)
  exact ⟨log, s, hrun, hmax, hactive, .inr ⟨0, _, hfirst, rfl⟩, .inr ⟨1, _, hsecond, rfl⟩, hlast⟩

end WbMge.TcpServer
