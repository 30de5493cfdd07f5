import WbMge.Auth.Model

/-!
# Which sessions are accepted

An accepted session was issued by a login after which nothing but software resets happened, and was
not logged out since. This needs a login between a reset of another kind and the next software
reset, which otherwise loads a backup from before.

Without resets, the accepted sessions are those of a queue that drops the oldest login when an
eleventh one comes. This needs the ring to start with the oldest session when a logout closes a gap
in it: closing the gap follows the slots, and puts the index on whatever session is in the first
slot.
-/

namespace WbMge.Auth

open Device (ResetReason)
open SlotRing (used)
open State (Obs Event)

/-! ## Histories -/

/-- The history has issued the session, and since then there were no resets but software resets and
no logout of the session. -/
def Justified (log : List Obs) (sessionId : UInt32) : Prop :=
  ∃ before after, log = before ++ .issued sessionId :: after ∧
    (∀ reason, .reset reason ∈ after → reason = .sw) ∧ .loggedOut sessionId ∉ after

section Justified

variable {log : List Obs} {sessionId sessionId' : UInt32}

lemma justified_issued (log : List Obs) (sessionId : UInt32) :
    Justified (log ++ [.issued sessionId]) sessionId :=
  ⟨log, [], rfl, by simp, by simp⟩

lemma Justified.concat {o : Obs} (h : Justified log sessionId)
    (hreset : ∀ reason, o = .reset reason → reason = .sw) (hlogout : o ≠ .loggedOut sessionId) :
    Justified (log ++ [o]) sessionId := by
  obtain ⟨before, after, rfl, hresets, hlogouts⟩ := h
  refine ⟨before, after ++ [o], by simp, ?_, ?_⟩
  · intro reason hmem
    rcases List.mem_append.1 hmem with hmem | hmem
    · exact hresets reason hmem
    · exact hreset reason (List.mem_singleton.1 hmem).symm
  · intro hmem
    rcases List.mem_append.1 hmem with hmem | hmem
    · exact hlogouts hmem
    · exact hlogout (List.mem_singleton.1 hmem).symm

end Justified

def issuedSinceReset (log : List Obs) : Bool :=
  log.foldl (fun issued o =>
    match o with
    | .reset reason => issued && reason == .sw
    | .issued _ => true
    | .loggedOut _ => issued) false

section IssuedSinceReset

variable {log : List Obs}

@[simp] lemma issuedSinceReset_reset (reason : ResetReason) :
    issuedSinceReset (log ++ [.reset reason]) = (issuedSinceReset log && reason == .sw) := by
  simp [issuedSinceReset]

@[simp] lemma issuedSinceReset_loggedOut (sessionId : UInt32) :
    issuedSinceReset (log ++ [.loggedOut sessionId]) = issuedSinceReset log := by
  simp [issuedSinceReset]

end IssuedSinceReset

/-! ## Provenance -/

/-- A software reset comes only after a login since the reset before. -/
def RestartAfterLogin (log : List Obs) (_ : State) : Event → Prop
  | .reset reason _ => reason = .sw → issuedSinceReset log = true
  | _ => True

instance (log : List Obs) (s : State) (e : Event) : Decidable (RestartAfterLogin log s e) := by
  unfold RestartAfterLogin
  split <;> infer_instance

/-- The sessions in some slots are different, and the history justifies each of them. -/
structure Accounted (log : List Obs) (slots : Vector UInt32 maxSessions) : Prop where
  nodup : (used 0 slots.toList).Nodup
  justified : ∀ sessionId ∈ slots, sessionId ≠ 0 → Justified log sessionId

section Accounted

variable {log : List Obs} {r : SessionBuffer} {sessionId : UInt32}

lemma accounted_init (log : List Obs) : Accounted log SessionBuffer.init.slots where
  nodup := by decide
  justified sessionId hmem hne := by
    rw [SessionBuffer.init, ← Vector.mem_toList_iff, Vector.toList_replicate] at hmem
    exact absurd (List.eq_of_mem_replicate hmem) hne

lemma Accounted.restart {slots : Vector UInt32 maxSessions} (h : Accounted log slots) :
    Accounted (log ++ [.reset .sw]) slots where
  nodup := h.nodup
  justified sessionId hmem hne := by
    apply (h.justified sessionId hmem hne).concat
    · rintro reason ⟨⟩
      rfl
    · rintro ⟨⟩

lemma Accounted.push (h : Accounted log r.slots) (hnew : sessionId ∉ r.slots) :
    Accounted (log ++ [.issued sessionId]) (r.push sessionId).slots where
  nodup := SlotRing.nodup_used_push h.nodup hnew
  justified sessionId' hmem hne := by
    rcases SlotRing.mem_push hmem with rfl | hold
    · exact justified_issued log sessionId'
    · apply (h.justified sessionId' hold hne).concat
      · rintro reason ⟨⟩
      · rintro ⟨⟩

lemma Accounted.remove (h : Accounted log r.slots) (hne : sessionId ≠ 0) :
    Accounted (log ++ [.loggedOut sessionId]) (r.remove 0 sessionId).slots := by
  have hused := SlotRing.used_remove (r := r) hne
  refine ⟨by rw [hused]; exact h.nodup.erase _, fun sessionId' hmem hne' => ?_⟩
  have hmem' : sessionId' ∈ (used 0 r.slots.toList).erase sessionId := by
    rw [← hused, SlotRing.mem_used, Vector.mem_toList_iff]
    exact ⟨hmem, hne'⟩
  obtain ⟨hother, hold⟩ := h.nodup.mem_erase_iff.1 hmem'
  rw [SlotRing.mem_used, Vector.mem_toList_iff] at hold
  apply (h.justified sessionId' hold.1 hne').concat
  · rintro reason ⟨⟩
  · rintro ⟨⟩
    exact hother rfl

end Accounted

structure Inv (log : List Obs) (s : State) : Prop where
  buffer : Accounted log s.sessionBuffer.slots
  backup : issuedSinceReset log = true → Accounted log s.backup.sessionIds
  saved : issuedSinceReset log = true → s.sessionMutex = true →
    s.backup.sessionIds = s.sessionBuffer.slots
  /-- The backup that `auth_init` will load is one that was written. -/
  load : s.sessionMutex = false → (s.resetReason = .sw ↔ issuedSinceReset log = true)

lemma Inv.init (rtc : Backup) : Inv [] (machine rtc).init where
  buffer := accounted_init []
  backup h := absurd h Bool.false_ne_true
  saved h := absurd h Bool.false_ne_true
  load _ := by simp [machine, issuedSinceReset]

section Provenance

variable {log : List Obs} {s : State}

lemma Inv.reset (h : Inv log s) {reason : ResetReason} (rtc : Backup)
    (hok : reason = .sw → issuedSinceReset log = true) :
    Inv (log ++ [.reset reason]) (s.reset reason rtc) := by
  refine ⟨accounted_init _, fun hissued => ?_, fun _ hmutex => ?_, fun _ => ?_⟩
  · rw [issuedSinceReset_reset, Bool.and_eq_true, beq_iff_eq] at hissued
    obtain ⟨hissued, rfl⟩ := hissued
    exact (h.backup hissued).restart
  · exact absurd hmutex Bool.false_ne_true
  · rw [issuedSinceReset_reset, Bool.and_eq_true, beq_iff_eq]
    exact ⟨fun hsw => ⟨hok hsw, hsw⟩, fun hissued => hissued.2⟩

lemma Inv.authInit (h : Inv log s) : Inv log s.authInit := by
  rw [State.authInit]
  split
  · exact h
  rename_i hmutex
  have hload := h.load (Bool.eq_false_iff.2 hmutex)
  dsimp only
  split
  · -- the backup becomes the ring
    rename_i hsw
    have hissued := hload.1 hsw
    exact ⟨h.backup hissued, h.backup, fun _ _ => rfl, fun hdown => absurd hdown.symm
      Bool.false_ne_true⟩
  · -- no login since that reset, so nothing is asked of the backup
    rename_i hsw
    have hissued : issuedSinceReset log ≠ true := fun hissued => hsw (hload.2 hissued)
    exact ⟨h.buffer, h.backup, fun hissued' => absurd hissued' hissued, fun hdown => absurd
      hdown.symm Bool.false_ne_true⟩

lemma Inv.of_saved (hbuffer : Accounted log s.sessionBuffer.slots)
    (hmutex : s.sessionMutex = true)
    (hsaved : issuedSinceReset log = true → s.backup.sessionIds = s.sessionBuffer.slots) :
    Inv log s where
  buffer := hbuffer
  backup hissued := by
    rw [hsaved hissued]
    exact hbuffer
  saved hissued _ := hsaved hissued
  load hdown := by
    rw [hmutex] at hdown
    cases hdown

lemma Inv.findAndRemoveSessionId (h : Inv log s) (hmutex : s.sessionMutex = true)
    {sessionId : UInt32} (hne : sessionId ≠ 0) :
    Inv (log ++ [.loggedOut sessionId]) (s.findAndRemoveSessionId sessionId) := by
  apply Inv.of_saved
  · rw [State.sessionBuffer_findAndRemoveSessionId]
    exact h.buffer.remove hne
  · rw [(s.frame_findAndRemoveSessionId sessionId).1, hmutex]
  · intro hissued
    rw [issuedSinceReset_loggedOut] at hissued
    by_cases hmem : sessionId ∈ s.sessionBuffer.slots
    · rw [State.findAndRemoveSessionId, if_pos hmem]
      simp only [State.saveSessionBuf]
    · -- nothing is saved when the session is not found
      rw [State.findAndRemoveSessionId, if_neg hmem]
      exact h.saved hissued hmutex

lemma Inv.step {e : Event} {s' : State} {out : List Obs} (h : Inv log s)
    (hok : RestartAfterLogin log s e) (hstep : s.step e = some (s', out)) :
    Inv (log ++ out) s' := by
  cases Step.of_step hstep with
  | reset reason rtc => exact h.reset rtc hok
  | init =>
    rw [List.append_nil]
    exact h.authInit
  | refused | noCookie =>
    rw [List.append_nil]
    exact h
  | login sessionId hmutex hne hnew => exact .of_saved (h.buffer.push hnew) hmutex fun _ => rfl
  | logout sessionId hmutex hne => exact h.findAndRemoveSessionId hmutex hne

end Provenance

/-- A session that is accepted was issued by a login since which every reset was a software reset,
and there was no logout of it since, as long as no software reset follows a reset of another kind
without a login in between. -/
theorem session_provenance (rtc : Backup) {log : List Obs} {s : State}
    (hrun : (machine rtc).Run RestartAfterLogin log s) {sessionId : UInt32}
    (h : s.authMiddlewareCheck sessionId = true) :
    ∃ before after, log = before ++ .issued sessionId :: after ∧
      (∀ reason, .reset reason ∈ after → reason = .sw) ∧ .loggedOut sessionId ∉ after := by
  have hinv : Inv log s := by
    apply Machine.Run.invariant (P := Inv) (Inv.init rtc) ?_ hrun
    intro _ _ _ _ _ _ hs hok hstep
    exact hs.step hok hstep
  obtain ⟨hmem, hne⟩ := State.authMiddlewareCheck_iff.1 h
  exact hinv.buffer.justified sessionId hmem hne

/-- The operator logs in with the default credentials, and `esp_random` returns the number of the
session at once. -/
def defaultLogin (sessionId : UInt32) : Event :=
  .login ⟨none, none⟩ (fun _ => none) "admin".toList "admin".toList [sessionId]

def clearedRtc : Backup := ⟨Vector.replicate maxSessions 0, 0⟩

def restartBetweenLogins : List Event :=
  [.init, defaultLogin 7, .reset .sw clearedRtc, .init, defaultLogin 8]

theorem session_provenance_restartBetweenLogins :
    ∃ log s, (machine clearedRtc).Run RestartAfterLogin log s ∧
      s.authMiddlewareCheck 7 = true ∧
      ∃ before after, log = before ++ .issued 7 :: after ∧
        (∀ reason, .reset reason ∈ after → reason = .sw) ∧ .loggedOut 7 ∉ after := by
  obtain ⟨log, s, hrun, hcheck⟩ := Machine.Run.exists_of_exec (machine clearedRtc)
    RestartAfterLogin restartBetweenLogins (fun _ s => s.authMiddlewareCheck 7 = true)
    (by decide +kernel)
  exact ⟨log, s, hrun, hcheck, session_provenance clearedRtc hrun hcheck⟩

def restartAfterWatchdog : List Event :=
  [.init, defaultLogin 7, .reset .taskWdt clearedRtc, .init, .reset .sw clearedRtc, .init]

/-- The software reset brings back the session that the watchdog had ended. -/
theorem session_revived_restartAfterWatchdog :
    ∃ log s, (machine clearedRtc).Run Machine.anyStep log s ∧
      s.authMiddlewareCheck 7 = true ∧
      ¬ ∃ before after, log = before ++ .issued 7 :: after ∧
        (∀ reason, .reset reason ∈ after → reason = .sw) ∧ .loggedOut 7 ∉ after := by
  obtain ⟨log, s, hrun, hcheck, hlog⟩ := Machine.Run.exists_of_exec (machine clearedRtc)
    Machine.anyStep restartAfterWatchdog (fun log s => s.authMiddlewareCheck 7 = true ∧
      log = [.issued 7, .reset .taskWdt, .reset .sw]) (by decide +kernel)
  refine ⟨log, s, hrun, hcheck, ?_⟩
  rintro ⟨before, after, heq, hresets, -⟩
  -- the only login is the first entry, and the watchdog's reset follows it
  rw [hlog] at heq
  cases before with
  | nil =>
    cases heq
    cases hresets .taskWdt (by simp)
  | cons o before =>
    rw [List.cons_append, List.cons.injEq] at heq
    have hmem : Obs.issued 7 ∈ [Obs.reset .taskWdt, Obs.reset .sw] := by
      rw [heq.2]
      simp
    simp at hmem

/-! ## Eviction -/

/-- What a login and a logout are for, on the sessions with the oldest login first: a login that
finds ten sessions ends the first of them, a logout ends its own. -/
def liveAfter (live : List UInt32) : Obs → List UInt32
  | .reset _ => []
  | .issued sessionId =>
    (if live.length < maxSessions then live else live.tail) ++ [sessionId]
  | .loggedOut sessionId => live.erase sessionId

/-- The sessions that the history leaves open, the oldest first. -/
def liveSessions (log : List Obs) : List UInt32 := log.foldl liveAfter []

/-- There is no reset, and a logout that removes a session finds a free slot, or the index of the
ring on the first slot. -/
def LogoutInOrder (_ : List Obs) (s : State) : Event → Prop
  | .reset .. => False
  | .logout sessionId => sessionId ∈ s.sessionBuffer.slots →
      0 ∈ s.sessionBuffer.slots ∨ s.sessionBuffer.next.val = 0
  | _ => True

instance (log : List Obs) (s : State) (e : Event) : Decidable (LogoutInOrder log s e) := by
  unfold LogoutInOrder
  split <;> infer_instance

structure InOrder (log : List Obs) (s : State) : Prop where
  regular : s.sessionBuffer.Regular 0
  byAge : s.sessionBuffer.byAge 0 = liveSessions log
  resetReason : s.resetReason = .poweron

lemma holds_init : SessionBuffer.init.Holds 0 [] := ⟨by decide, by decide, by decide⟩

lemma InOrder.init (rtc : Backup) : InOrder [] (machine rtc).init where
  regular := .inr ⟨[], holds_init⟩
  byAge := holds_init.byAge_eq
  resetReason := rfl

section Eviction

variable {log : List Obs} {s : State} {sessionId : UInt32}

lemma InOrder.authInit (h : InOrder log s) : InOrder log s.authInit := by
  rw [State.authInit]
  split
  · exact h
  · rw [if_neg (by rw [h.resetReason]; decide)]
    exact ⟨h.regular, h.byAge, h.resetReason⟩

lemma InOrder.addSessionId (h : InOrder log s) (hne : sessionId ≠ 0) :
    InOrder (log ++ [.issued sessionId]) (s.addSessionId sessionId) where
  regular := h.regular.push hne
  byAge := by
    change (s.sessionBuffer.push sessionId).byAge 0 = _
    rw [h.regular.byAge_push hne, h.byAge, liveSessions, liveSessions, List.foldl_concat]
    rfl
  resetReason := h.resetReason

lemma InOrder.findAndRemoveSessionId (h : InOrder log s) (hne : sessionId ≠ 0)
    (hok : sessionId ∈ s.sessionBuffer.slots →
      0 ∈ s.sessionBuffer.slots ∨ s.sessionBuffer.next.val = 0) :
    InOrder (log ++ [.loggedOut sessionId]) (s.findAndRemoveSessionId sessionId) := by
  refine ⟨?_, ?_, ?_⟩
  · rw [State.sessionBuffer_findAndRemoveSessionId]
    exact h.regular.remove hne
  · rw [State.sessionBuffer_findAndRemoveSessionId, liveSessions, List.foldl_concat]
    change _ = (liveSessions log).erase sessionId
    rw [← h.byAge]
    by_cases hmem : sessionId ∈ s.sessionBuffer.slots
    · -- the ring starts with the oldest session, so closing the gap keeps the order of the ages
      apply SlotRing.Aligned.byAge_remove _ hne
      apply h.regular.aligned
      intro hfull
      exact (hok hmem).resolve_left fun hfree => hfull (Vector.mem_toList_iff.2 hfree)
    · rw [SlotRing.remove_of_notMem hmem, List.erase_of_not_mem]
      exact fun hlive => hmem (SlotRing.mem_byAge.1 hlive).1
  · rw [(s.frame_findAndRemoveSessionId sessionId).2, h.resetReason]

lemma InOrder.step {e : Event} {s' : State} {out : List Obs} (h : InOrder log s)
    (hok : LogoutInOrder log s e) (hstep : s.step e = some (s', out)) :
    InOrder (log ++ out) s' := by
  cases Step.of_step hstep with
  | reset reason rtc => exact hok.elim
  | init =>
    rw [List.append_nil]
    exact h.authInit
  | refused | noCookie =>
    rw [List.append_nil]
    exact h
  | login sessionId hmutex hne hnew => exact h.addSessionId hne
  | logout sessionId hmutex hne => exact h.findAndRemoveSessionId hne hok

end Eviction

/-- The sessions that are accepted are those that remain when a login ends at most one session, only
if ten are live, and then the one with the oldest login; as long as each logout that removes a
session finds the ring in the order of the logins. -/
theorem sessions_evicted_by_age (rtc : Backup) {log : List Obs} {s : State}
    (hrun : (machine rtc).Run LogoutInOrder log s) (sessionId : UInt32) :
    s.authMiddlewareCheck sessionId = true ↔ sessionId ∈ liveSessions log := by
  have hinv : InOrder log s := by
    apply Machine.Run.invariant (P := InOrder) (InOrder.init rtc) ?_ hrun
    intro _ _ _ _ _ _ hs hok hstep
    exact hs.step hok hstep
  rw [State.authMiddlewareCheck_iff, ← hinv.byAge, SlotRing.mem_byAge]

def tenLogins : List Event :=
  .init :: [1, 2, 3, 4, 5, 6, 7, 8, 9, 10].map defaultLogin

def logoutBeforeWrap : List Event :=
  tenLogins ++ [.logout 5, defaultLogin 11, defaultLogin 12]

theorem sessions_evicted_by_age_logoutBeforeWrap :
    ∃ log s, (machine clearedRtc).Run LogoutInOrder log s ∧
      liveSessions log = [2, 3, 4, 6, 7, 8, 9, 10, 11, 12] ∧
      s.authMiddlewareCheck 2 = true ∧ s.authMiddlewareCheck 1 = false := by
  obtain ⟨log, s, hrun, hlive⟩ := Machine.Run.exists_of_exec (machine clearedRtc)
    LogoutInOrder logoutBeforeWrap
    (fun log _ => liveSessions log = [2, 3, 4, 6, 7, 8, 9, 10, 11, 12]) (by decide +kernel)
  have hiff := sessions_evicted_by_age clearedRtc hrun
  rw [hlive] at hiff
  refine ⟨log, s, hrun, hlive, (hiff 2).2 (by decide), ?_⟩
  rw [Bool.eq_false_iff]
  exact fun hcheck => absurd ((hiff 1).1 hcheck) (by decide)

def logoutAfterWrap : List Event :=
  tenLogins ++ [defaultLogin 11, .logout 5, defaultLogin 12, defaultLogin 13]

/-- The last login ends the session of the eleventh, although the second has the oldest one. -/
theorem newer_session_evicted_logoutAfterWrap :
    ∃ log s, (machine clearedRtc).Run Machine.anyStep log s ∧
      (∀ reason, .reset reason ∉ log) ∧
      liveSessions log = [3, 4, 6, 7, 8, 9, 10, 11, 12, 13] ∧
      s.authMiddlewareCheck 11 = false ∧ s.authMiddlewareCheck 2 = true := by
  obtain ⟨log, s, hrun, hresets, h⟩ := Machine.Run.exists_of_exec (machine clearedRtc)
    Machine.anyStep logoutAfterWrap
    (fun log s => (log.all fun o => match o with | .reset _ => false | _ => true) = true ∧
      liveSessions log = [3, 4, 6, 7, 8, 9, 10, 11, 12, 13] ∧
      s.authMiddlewareCheck 11 = false ∧ s.authMiddlewareCheck 2 = true) (by decide +kernel)
  refine ⟨log, s, hrun, fun reason hmem => ?_, h⟩
  exact absurd (List.all_eq_true.1 hresets _ hmem) Bool.false_ne_true

end WbMge.Auth
