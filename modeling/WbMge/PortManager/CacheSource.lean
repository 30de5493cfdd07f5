import WbMge.PortManager.Model

/-!
# One port feeds the cache

Two ports that fed the cache at once would mix the registers of two buses. Whatever the tasks do, at
most one port carries the overlay flag, and the sniffer runs for the cache on exactly the port that
carries it, as long as the port is open.

The second half is a fact about one port that every section under its `pm_lock` restores, the lemmas
`Port.Synced.…`. The first half crosses the ports: the flag is written by moves only, the move mutex
makes them take turns, and a move to a port sets the flag of that port only after it has cleared all
others, `Stage.passed`.
-/

namespace WbMge.PortManager

open Cache (bridgesCount)
open Sniffer (SniffCtx reasonCache)

/-! ## One port -/

/-- The sniffer of the port runs for the cache. -/
def Port.feedsCache (p : Port) : Bool := p.sniff.runsFor reasonCache

/-- The port feeds the cache if and only if it is told to and is open. -/
def Port.Synced (p : Port) : Prop := p.feedsCache = (p.cacheOverlay && p.getPortSerialDesc)

section Port

variable {p p' : Port} {mode : PmMode} {e : InitEnv}

lemma Port.getPortSerialDesc_of_disabled (h : p.mode = .disabled) :
    p.getPortSerialDesc = false := by
  rw [getPortSerialDesc, h]

lemma Port.Synced.feedsCache_of_disabled (h : p.Synced) (hmode : p.mode = .disabled) :
    p.feedsCache = false := by
  rw [h, getPortSerialDesc_of_disabled hmode, Bool.and_false]

@[simp] lemma Port.mode_deinitMode (p : Port) : p.deinitMode.mode = .disabled := by
  unfold deinitMode
  split <;> rfl

@[simp] lemma Port.cacheOverlay_deinitMode (p : Port) :
    p.deinitMode.cacheOverlay = p.cacheOverlay := by
  unfold deinitMode
  split <;> rfl

lemma Port.Synced.feedsCache_deinitMode (h : p.Synced) : p.deinitMode.feedsCache = false := by
  unfold Synced getPortSerialDesc at h
  unfold deinitMode
  -- an open transport is detached, and without one there was nothing to feed from
  split <;> simp_all [feedsCache]

lemma Port.Synced.deinitMode (h : p.Synced) : p.deinitMode.Synced := by
  rw [Synced, h.feedsCache_deinitMode, getPortSerialDesc_of_disabled (mode_deinitMode p),
    Bool.and_false]

lemma Port.openTransport_ok (h : p.openTransport mode e = .ok p') :
    p'.cacheOverlay = p.cacheOverlay ∧ p'.sniff = p.sniff := by
  unfold openTransport at h
  split at h
  all_goals (try split at h) <;> (try split at h) <;> cases h <;> exact ⟨rfl, rfl⟩

@[simp] lemma Port.cacheOverlay_armCache (p : Port) (queue : Bool) :
    (p.armCache queue).cacheOverlay = p.cacheOverlay := by
  unfold armCache
  split <;> rfl

@[simp] lemma Port.mode_armCache (p : Port) (queue : Bool) :
    (p.armCache queue).mode = p.mode := by
  unfold armCache
  split <;> rfl

lemma Port.synced_armCache (h : p.feedsCache = false) : (p.armCache true).Synced := by
  unfold armCache
  split
  · rename_i hopen
    -- the descriptor does not depend on the sniffer
    change (p.sniff.enable true reasonCache).runsFor reasonCache =
      (p.cacheOverlay && p.getPortSerialDesc)
    rw [hopen, SniffCtx.runsFor_enable_cache]
  · rename_i hopen
    rw [Synced, h, Bool.eq_false_iff.2 hopen]

@[simp] lemma Port.cacheOverlay_overlayApply (p : Port) (queue enabled : Bool) :
    (p.overlayApply queue enabled).cacheOverlay = enabled := by
  simp only [overlayApply]
  split <;> rfl

lemma Port.Synced.overlayApply (h : p.Synced) (enabled : Bool) :
    (p.overlayApply true enabled).Synced := by
  simp only [Port.overlayApply]
  split
  · rename_i hopen
    cases enabled with
    | true =>
      change (p.sniff.enable true reasonCache).runsFor reasonCache = p.getPortSerialDesc
      rw [SniffCtx.runsFor_enable_cache]
      exact hopen.symm
    | false => exact SniffCtx.runsFor_disable_self _ _
  · rename_i hclosed
    have hdesc : p.getPortSerialDesc = false := Bool.eq_false_iff.2 hclosed
    change p.feedsCache = (enabled && p.getPortSerialDesc)
    rw [h, hdesc, Bool.and_false, Bool.and_false]

end Port

/-! ## The sections of one port

Each of them leaves the overlays alone and keeps every port in sync. -/

def State.overlay (s : State) (i : Fin bridgesCount) : Bool := (s.ports i).cacheOverlay

/-- Both ports are, and the queue of the sniffer exists. -/
structure State.Synced (s : State) : Prop where
  queue : s.sniffQueue = true
  port : ∀ i, (s.ports i).Synced

/-- `s'` has the overlays of `s`, and is in sync. -/
structure State.Keeps (s s' : State) : Prop where
  overlay : s'.overlay = s.overlay
  synced : s'.Synced

section Sections

variable {s s' : State} {i : Fin bridgesCount} {mode : PmMode} {e : InitEnv}

lemma State.Synced.keeps (h : s.Synced) : s.Keeps s := ⟨rfl, h⟩

lemma State.Keeps.trans {s'' : State} (h : s.Keeps s') (h' : s'.Keeps s'') : s.Keeps s'' :=
  ⟨h'.overlay.trans h.overlay, h'.synced⟩

lemma State.Synced.setPort (h : s.Synced) {p : Port} (hp : p.Synced) :
    (s.setPort i p).Synced where
  queue := h.queue
  port := (Function.forall_update_iff s.ports fun _ p => p.Synced).2 ⟨hp, fun j _ => h.port j⟩

lemma State.overlay_setPort (s : State) (i : Fin bridgesCount) (p : Port) :
    (s.setPort i p).overlay = Function.update s.overlay i p.cacheOverlay := by
  funext j
  rcases eq_or_ne j i with rfl | hj
  · simp [overlay, setPort]
  · simp [overlay, setPort, hj]

lemma State.Synced.keeps_setPort (h : s.Synced) {p : Port} (hp : p.Synced)
    (hoverlay : p.cacheOverlay = (s.ports i).cacheOverlay) : s.Keeps (s.setPort i p) := by
  refine ⟨?_, h.setPort hp⟩
  rw [State.overlay_setPort, hoverlay]
  exact Function.update_eq_self i s.overlay

@[simp] lemma State.ports_cacheSyncGlobal (s : State) (e : CacheEnv) :
    (s.cacheSyncGlobal e).1.ports = s.ports := by
  simp only [cacheSyncGlobal]
  split
  · rfl
  · split <;> rfl

@[simp] lemma State.sniffQueue_cacheSyncGlobal (s : State) (e : CacheEnv) :
    (s.cacheSyncGlobal e).1.sniffQueue = s.sniffQueue := by
  simp only [cacheSyncGlobal]
  split
  · rfl
  · split <;> rfl

@[simp] lemma State.portsFrozen_cacheSyncGlobal (s : State) (e : CacheEnv) :
    (s.cacheSyncGlobal e).1.portsFrozen = s.portsFrozen := by
  simp only [cacheSyncGlobal]
  split
  · rfl
  · split <;> rfl

lemma State.Synced.keeps_of_ports_eq (h : s.Synced) (hports : s'.ports = s.ports)
    (hqueue : s'.sniffQueue = s.sniffQueue) : s.Keeps s' := by
  refine ⟨?_, hqueue.trans h.queue, fun i => ?_⟩
  · funext i
    rw [overlay, overlay, hports]
  · rw [hports]
    exact h.port i

lemma State.Synced.keeps_portDeinitMode (h : s.Synced) (i : Fin bridgesCount) :
    s.Keeps (s.portDeinitMode i) :=
  h.keeps_setPort (h.port i).deinitMode (Port.cacheOverlay_deinitMode _)

@[simp] lemma State.mode_portDeinitMode (s : State) (i : Fin bridgesCount) :
    ((s.portDeinitMode i).ports i).mode = .disabled := by
  simp [portDeinitMode, setPort]

lemma State.mode_portDeinitMode_of_ne {j : Fin bridgesCount} (h : j ≠ i) :
    ((s.portDeinitMode i).ports j).mode = (s.ports j).mode := by
  simp only [portDeinitMode, setPort, Function.update_of_ne h]

lemma State.portInitMode_ok (h : s.portInitMode i mode e = .ok s') :
    ∃ p, (s.ports i).openTransport mode e = .ok p ∧
      s'.ports = Function.update s.ports i (Port.armCache { p with mode } s.sniffQueue) ∧
      s'.sniffQueue = s.sniffQueue := by
  unfold portInitMode at h
  split at h
  · cases h
  rename_i p hopen
  cases h
  refine ⟨p, hopen, ?_, sniffQueue_cacheSyncGlobal _ _⟩
  simp [setPort]

lemma State.mode_of_portInitMode_ok (h : s.portInitMode i mode e = .ok s') :
    (s'.ports i).mode = mode ∧ (∀ j ≠ i, (s'.ports j).mode = (s.ports j).mode) ∧
      s'.portsFrozen = s.portsFrozen := by
  obtain ⟨p, -, hports, -⟩ := portInitMode_ok h
  refine ⟨?_, fun j hj => ?_, ?_⟩
  · rw [hports, Function.update_self, Port.mode_armCache]
  · rw [hports, Function.update_of_ne hj]
  · unfold portInitMode at h
    split at h
    · cases h
    · cases h
      exact portsFrozen_cacheSyncGlobal _ _

lemma State.Synced.keeps_portInitMode (h : s.Synced) (hmode : (s.ports i).mode = .disabled)
    (hinit : s.portInitMode i mode e = .ok s') : s.Keeps s' := by
  obtain ⟨p, hopen, hports, hqueue⟩ := portInitMode_ok hinit
  obtain ⟨hoverlay, hsniff⟩ := Port.openTransport_ok hopen
  -- the sniffer of a closed port does not run for the cache, so arming it is all there is to do
  have hfeeds : Port.feedsCache { p with mode } = false := by
    change p.sniff.runsFor reasonCache = false
    rw [hsniff]
    exact (h.port i).feedsCache_of_disabled hmode
  have hkeeps := h.keeps_setPort (i := i) (Port.synced_armCache hfeeds) <| by
    rw [Port.cacheOverlay_armCache]
    exact hoverlay
  rw [h.queue] at hports
  exact hkeeps.trans (hkeeps.synced.keeps_of_ports_eq hports hqueue)

lemma State.Synced.keeps_orElse (h : s.Synced) (hmode : (s.ports i).mode = .disabled) :
    s.Keeps (s.orElse (s.portInitMode i mode e)).1 :=
  State.orElse_rule (P := s.Keeps) h.keeps fun _ hinit => h.keeps_portInitMode hmode hinit

lemma State.Synced.keeps_portSetModeImpl (h : s.Synced) (persist : Bool) (e : SetModeEnv) :
    s.Keeps (s.portSetModeImpl i mode persist e).1 := by
  have hdeinit := h.keeps_portDeinitMode i
  apply State.portSetModeImpl_rule (P := s.Keeps) h.keeps hdeinit
  intro mode e s' hinit
  exact hdeinit.trans (hdeinit.synced.keeps_portInitMode (State.mode_portDeinitMode s i) hinit)

lemma State.Synced.keeps_applySettings (h : s.Synced) :
    s.Keeps (s.applySettings i mode e).1 := by
  unfold applySettings
  split
  · exact h.keeps
  · have hdeinit := h.keeps_portDeinitMode i
    exact hdeinit.trans (hdeinit.synced.keeps_orElse (State.mode_portDeinitMode s i))

lemma State.Synced.keeps_release (h : s.Synced) : s.Keeps (s.release i) := by
  unfold release
  split
  · exact h.keeps
  · exact h.keeps_portDeinitMode i

lemma State.Synced.keeps_bootPort (h : s.Synced) : s.Keeps (s.bootPort i mode e) := by
  unfold bootPort
  split
  · exact h.keeps
  split
  · exact h.keeps
  · rename_i hmode
    exact h.keeps_orElse (not_not.1 hmode)

end Sections

/-! ## Moves -/

def AtMostOne (overlay : Fin bridgesCount → Bool) : Prop :=
  ∀ i j, overlay i = true → overlay j = true → i = j

def Stage.passed : Stage → Fin bridgesCount → Prop
  | .release i, j => j.val < i
  | .apply, _ => True
  | .sync, _ | .clear, _ => False

def Move.Cleared (m : Move) (stage : Stage) (overlay : Fin bridgesCount → Bool) : Prop :=
  m.enabled = true → ∀ j, j ≠ m.port → stage.passed j → overlay j = false

section Moves

variable {overlay : Fin bridgesCount → Bool} {i : Fin bridgesCount} {m : Move}

lemma AtMostOne.update_false (h : AtMostOne overlay) (i : Fin bridgesCount) :
    AtMostOne (Function.update overlay i false) := by
  have hof {j} (hj : Function.update overlay i false j = true) : overlay j = true := by
    rcases eq_or_ne j i with rfl | hne
    · simp at hj
    · rwa [Function.update_of_ne hne] at hj
  intro j k hj hk
  exact h j k (hof hj) (hof hk)

lemma atMostOne_update_true (h : ∀ j, j ≠ i → overlay j = false) :
    AtMostOne (Function.update overlay i true) := by
  have hof {j} (hj : Function.update overlay i true j = true) : j = i := by
    by_contra hne
    rw [Function.update_of_ne hne, h j hne] at hj
    cases hj
  intro j k hj hk
  rw [hof hj, hof hk]

lemma Move.cleared_firstStage (m : Move) : m.Cleared m.firstStage overlay := by
  intro henabled j _ hpassed
  rw [firstStage, if_pos henabled] at hpassed
  exact absurd hpassed (Nat.not_lt_zero j.val)

lemma Move.Cleared.next {overlay' : Fin bridgesCount → Bool} {k : Nat}
    (h : m.Cleared (.release k) overlay) (hframe : ∀ j, j.val ≠ k → overlay' j = overlay j)
    (hk : ∀ j, j.val = k → j ≠ m.port → overlay' j = false) :
    m.Cleared (.release (k + 1)) overlay' := by
  intro henabled j hj hpassed
  by_cases hjk : j.val = k
  · exact hk j hjk hj
  rw [hframe j hjk]
  have hlt : j.val < k := by
    have : j.val < k + 1 := hpassed
    omega
  exact h henabled j hj hlt

end Moves

structure State.Moved (s' : State) (stage' : Option Stage) (m' : Move) : Prop where
  synced : s'.Synced
  atMostOne : AtMostOne s'.overlay
  cleared : ∀ stage, stage' = some stage → m'.Cleared stage s'.overlay

lemma State.overlay_overlayApply (s : State) (i : Fin bridgesCount) (enabled : Bool) :
    (s.overlayApply i enabled).overlay = Function.update s.overlay i enabled := by
  rw [overlayApply, overlay_setPort, Port.cacheOverlay_overlayApply]

variable {s : State}

lemma State.Synced.overlayApply (h : s.Synced) (i : Fin bridgesCount) (enabled : Bool) :
    (s.overlayApply i enabled).Synced := by
  rw [State.overlayApply, h.queue]
  exact h.setPort ((h.port i).overlayApply enabled)

lemma State.Keeps.moved {s' : State} (h : s.Keeps s') (hone : AtMostOne s.overlay)
    {stage' : Option Stage} (hstage : ∀ stage, stage' = some stage → ∀ j, ¬ stage.passed j)
    (m' : Move) : s'.Moved stage' m' where
  synced := h.synced
  atMostOne := by
    rw [h.overlay]
    exact hone
  cleared stage heq _ j _ hpassed := absurd hpassed (hstage stage heq j)

lemma State.Synced.release_step (h : s.Synced) (hone : AtMostOne s.overlay) (e : MoveEnv)
    {m : Move} {k : Nat} (hm : m.Cleared (.release k) s.overlay) :
    let r := s.moveStep e m (.release k)
    r.1.Moved r.2.1 r.2.2.1 := by
  simp only [State.moveStep]
  split
  · rename_i hk
    split
    · -- the port carries the overlay: it is taken away
      rename_i hcarries
      refine ⟨h.overlayApply _ _, ?_, ?_⟩
      · rw [overlay_overlayApply]
        exact hone.update_false _
      · rintro _ ⟨⟩
        rw [overlay_overlayApply]
        apply Move.Cleared.next (m := { m with moved := true, releaseRet := _ }) hm
        · intro j hj
          exact Function.update_of_ne (fun heq => hj (congrArg Fin.val heq)) _ _
        · rintro j rfl -
          exact Function.update_self _ _ _
    · -- the port is the target of the move, or does not carry the overlay
      rename_i hfree
      refine ⟨h, hone, ?_⟩
      rintro _ ⟨⟩
      apply hm.next (fun _ _ => rfl)
      rintro j rfl hj
      exact Bool.eq_false_iff.2 fun hoverlay => hfree ⟨hj, hoverlay⟩
  · -- the loop is over
    rename_i hk
    refine ⟨h, hone, ?_⟩
    rintro _ ⟨⟩ henabled j hj -
    exact hm henabled j hj (lt_of_lt_of_le j.isLt (not_lt.1 hk))

lemma State.Synced.moveStep {s : State} (h : s.Synced) (hone : AtMostOne s.overlay) (e : MoveEnv)
    {m : Move} {stage : Stage} (hm : m.Cleared stage s.overlay) :
    let r := s.moveStep e m stage
    r.1.Moved r.2.1 r.2.2.1 := by
  cases stage with
  | release k => exact h.release_step hone e hm
  | apply =>
    refine ⟨h.overlayApply _ _, ?_, ?_⟩
    · change AtMostOne (s.overlayApply m.port m.enabled).overlay
      rw [overlay_overlayApply]
      cases henabled : m.enabled with
      | false => exact hone.update_false _
      | true => exact atMostOne_update_true fun j hj => hm henabled j hj trivial
    · rintro _ ⟨⟩ - _ _ hpassed
      exact hpassed.elim
  | sync =>
    -- the last two sections leave the ports alone
    have hkeeps : s.Keeps (s.cacheSyncGlobal e.cache).1 :=
      h.keeps_of_ports_eq (ports_cacheSyncGlobal _ _) (sniffQueue_cacheSyncGlobal _ _)
    exact hkeeps.moved hone (by rintro _ ⟨⟩ _ hpassed; exact hpassed) _
  | clear =>
    have hkeeps : s.Keeps (s.moveStep e m .clear).1 := by
      simp only [State.moveStep]
      split
      · exact h.keeps_of_ports_eq rfl rfl
      · exact h.keeps
    exact hkeeps.moved hone (by rintro _ ⟨⟩) _

/-! ## Start -/

lemma State.Synced.claimOverlay (want : Fin bridgesCount → Bool) {is : List (Fin bridgesCount)}
    {cacheClaimed : Bool} (hqueue : s.sniffQueue = true)
    (hinit : ∀ i, (s.ports i).mode = .disabled ∧ (s.ports i).feedsCache = false)
    (hone : AtMostOne s.overlay) (hfree : cacheClaimed = false → ∀ i, s.overlay i = false) :
    (State.claimOverlay want is cacheClaimed s).Synced ∧
      AtMostOne (State.claimOverlay want is cacheClaimed s).overlay := by
  induction is generalizing cacheClaimed s with
  | nil =>
    refine ⟨⟨hqueue, fun i => ?_⟩, hone⟩
    change (s.ports i).Synced
    rw [Port.Synced, (hinit i).2, Port.getPortSerialDesc_of_disabled (hinit i).1, Bool.and_false]
  | cons i is ih =>
    apply ih
    · exact hqueue
    · exact (Function.forall_update_iff s.ports
        fun _ p => p.mode = .disabled ∧ p.feedsCache = false).2 ⟨hinit i, fun j _ => hinit j⟩
    · -- the first port that wants the overlay gets it
      rw [overlay_setPort]
      cases hclaim : want i && !cacheClaimed with
      | false => exact hone.update_false i
      | true =>
        have hunclaimed : cacheClaimed = false := by simp_all
        exact atMostOne_update_true fun j _ => hfree hunclaimed j
    · intro hclaimed j
      obtain ⟨hunclaimed, hwant⟩ := Bool.or_eq_false_iff.1 hclaimed
      rw [overlay_setPort, hwant, Bool.false_and]
      rcases eq_or_ne j i with rfl | hj
      · exact Function.update_self _ _ _
      · rw [Function.update_of_ne hj]
        exact hfree hunclaimed j

/-! ## The system -/

def Pc.holdsMove : Pc → Bool
  | .settings | .move .. => true
  | .idle | .boot _ => false

structure System.Inv (s : System) : Prop where
  synced : s.pm.Synced
  atMostOne : AtMostOne s.pm.overlay
  owner : ∀ t, (s.tasks t).holdsMove = true → s.moveMutex = some t
  cleared : ∀ t stage m, s.tasks t = .move stage m → m.Cleared stage s.pm.overlay

section System

variable {s s' : System} {t : Nat} {pc : Pc}

lemma System.Inv.frame (h : s.Inv) (hpm : s.pm.Keeps s'.pm)
    (hmutex : s'.moveMutex = s.moveMutex)
    (htasks : ∀ t, (s'.tasks t).holdsMove = true → s'.tasks t = s.tasks t) : s'.Inv where
  synced := hpm.synced
  atMostOne := by
    rw [hpm.overlay]
    exact h.atMostOne
  owner t ht := by
    rw [hmutex]
    exact h.owner t (htasks t ht ▸ ht)
  cleared t stage m ht := by
    rw [hpm.overlay]
    exact h.cleared t stage m (htasks t (by rw [ht]; rfl) ▸ ht)

variable {pm : State}

lemma System.Inv.goto_frame (h : s.Inv) (hpm : s.pm.Keeps pm) (hpc : pc.holdsMove = false) :
    System.Inv { s.goto t pc with pm } := by
  refine h.frame hpm rfl fun t' ht' => ?_
  rcases eq_or_ne t' t with rfl | hne
  · simp [System.goto, hpc] at ht'
  · exact Function.update_of_ne hne _ _

lemma System.Inv.not_holdsMove (h : s.Inv) (ht : s.moveMutex = none ∨ s.moveMutex = some t)
    {t' : Nat} (hne : t' ≠ t) : (s.tasks t').holdsMove = false := by
  by_contra hholds
  have howner := h.owner t' (Bool.not_eq_false _ ▸ hholds)
  rcases ht with hnone | hsome
  · rw [hnone] at howner
    cases howner
  · rw [hsome] at howner
    exact hne (Option.some.inj howner).symm

lemma System.Inv.move_step (h : s.Inv) (ht : s.moveMutex = none ∨ s.moveMutex = some t)
    {mutex : Option Nat} (hsynced : pm.Synced) (hone : AtMostOne pm.overlay)
    (howner : pc.holdsMove = true → mutex = some t)
    (hcleared : ∀ stage m, pc = .move stage m → m.Cleared stage pm.overlay) :
    System.Inv ⟨pm, Function.update s.tasks t pc, mutex⟩ := by
  -- a task that is in a move after the step is `t` itself
  have hself {t'} (ht' : (Function.update s.tasks t pc t').holdsMove = true) : t' = t := by
    by_contra hne
    rw [Function.update_of_ne hne, h.not_holdsMove ht hne] at ht'
    cases ht'
  refine ⟨hsynced, hone, fun t' ht' => ?_, fun t' stage m ht' => ?_⟩
  · obtain rfl := hself ht'
    exact howner (by simpa using ht')
  · obtain rfl : t' = t := hself (congrArg Pc.holdsMove ht')
    exact hcleared stage m (by simpa using ht')

lemma System.Inv.of_keeps (h : s.Inv) (hpm : s.pm.Keeps pm) : System.Inv { s with pm } :=
  h.frame hpm rfl fun _ _ => rfl

lemma System.Inv.start_move (h : s.Inv) (ht : s.moveMutex = none ∨ s.moveMutex = some t)
    (m : Move) : System.Inv { s.goto t (.move m.firstStage m) with moveMutex := some t } := by
  refine h.move_step ht h.synced h.atMostOne (fun _ => rfl) ?_
  rintro _ _ ⟨⟩
  exact m.cleared_firstStage

lemma System.Inv.moved (h : s.Inv) {e : MoveEnv} {stage : Stage} {m m' : Move}
    {stage' : Option Stage} {out : List Obs} (hpc : s.tasks t = .move stage m)
    (hmove : s.pm.moveStep e m stage = (pm, stage', m', out)) : pm.Moved stage' m' := by
  have hmoved := h.synced.moveStep h.atMostOne e (h.cleared t stage m hpc)
  rw [hmove] at hmoved
  exact hmoved

lemma System.Inv.step (h : s.Inv) {e : Event} {out : List Obs}
    (hstep : s.step e = some (s', out)) : s'.Inv := by
  have howner {t pc} (hpc : s.tasks t = pc) (hholds : pc.holdsMove = true) :
      s.moveMutex = some t := h.owner t (hpc ▸ hholds)
  cases Step.of_step hstep with
  | noPort => exact h
  | setCache _ hfree => exact h.start_move (.inl hfree) _
  | applyCacheSettings _ hfree =>
    exact h.move_step (.inl hfree) h.synced h.atMostOne (fun _ => rfl) (by rintro _ _ ⟨⟩)
  | planMove hpc =>
    have hmove := h.start_move (.inr (howner hpc rfl))
    rw [← howner hpc rfl] at hmove
    exact hmove _
  | planNothing hpc =>
    exact h.move_step (.inr (howner hpc rfl)) h.synced h.atMostOne (by rintro ⟨⟩)
      (by rintro _ _ ⟨⟩)
  | moveStep hpc hmove =>
    have hmoved := h.moved hpc hmove
    refine h.move_step (.inr (howner hpc rfl)) hmoved.synced hmoved.atMostOne
      (fun _ => howner hpc rfl) ?_
    rintro _ _ ⟨⟩
    exact hmoved.cleared _ rfl
  | moveEnd hpc hmove =>
    -- the mutex is given back
    have hmoved := h.moved hpc hmove
    exact h.move_step (.inr (howner hpc rfl)) hmoved.synced hmoved.atMostOne (by rintro ⟨⟩)
      (by rintro _ _ ⟨⟩)
  | setMode i mode persist e => exact h.of_keeps (h.synced.keeps_portSetModeImpl persist e)
  | applySettings => exact h.of_keeps h.synced.keeps_applySettings
  | release => exact h.of_keeps h.synced.keeps_release
  | boot | bootEnd => exact h.goto_frame h.synced.keeps rfl
  | bootPort => exact h.goto_frame h.synced.keeps_bootPort rfl
  | setPortsFrozen => exact h.of_keeps (h.synced.keeps_of_ports_eq rfl rfl)
  | display i sniff enabled hsniff =>
    refine h.of_keeps (h.synced.keeps_setPort ?_ rfl)
    -- the display does not touch the bit of the cache
    have hport := h.synced.port i
    subst hsniff
    cases enabled with
    | true => exact (SniffCtx.runsFor_cache_enable_display _ _).trans hport
    | false => exact (SniffCtx.runsFor_cache_disable_display _).trans hport

end System

/-- Whatever the tasks do, at most one port carries the cache overlay, and a port feeds the cache
exactly when it carries the overlay and has an open serial descriptor. Every section under the
`pm_lock` of a port is one step, so no port is locked in the states of a run. -/
theorem cache_single_source (want : Fin bridgesCount → Bool) (mutex : Bool) {log : List Obs}
    {s : System} (hrun : (machine want true mutex).Run Machine.anyStep log s) :
    (∀ i j, (s.pm.ports i).cacheOverlay = true → (s.pm.ports j).cacheOverlay = true → i = j) ∧
      ∀ i, (s.pm.ports i).sniff.runsFor reasonCache = true ↔
        (s.pm.ports i).cacheOverlay = true ∧ (s.pm.ports i).getPortSerialDesc = true := by
  have hinv : s.Inv := by
    apply Machine.Run.invariant (P := fun _ s => System.Inv s) ?_ ?_ hrun
    · obtain ⟨hsynced, hone⟩ : (State.initSubsystems want true mutex).Synced ∧ _ := by
        apply State.Synced.claimOverlay
        · rfl
        · exact fun _ => ⟨rfl, (by decide : Port.init.feedsCache = false)⟩
        · rintro _ _ ⟨⟩
        · exact fun _ _ => rfl
      refine ⟨hsynced, hone, ?_, ?_⟩
      · rintro _ ⟨⟩
      · rintro _ _ _ ⟨⟩
    · intro _ _ _ _ _ _ hs _ hstep
      exact hs.step hstep
  refine ⟨hinv.atMostOne, fun i => ?_⟩
  have hport : (s.pm.ports i).sniff.runsFor reasonCache =
      ((s.pm.ports i).cacheOverlay && (s.pm.ports i).getPortSerialDesc) := hinv.synced.port i
  rw [hport, Bool.and_eq_true]

/-- Every driver call succeeds, at one second. -/
def opens : InitEnv := ⟨espOk, espOk, true, ⟨1000000, true⟩⟩

/-- Both ports come up as listeners, the first one with the overlay. One task moves the overlay to
the second port; after it has taken it from the first, another one tries to turn the first into a
TCP bridge, fails and rolls back. -/
def moveAcrossRollback : List Event :=
  let cache : CacheEnv := ⟨1000000, true⟩
  let up : InitEnv := ⟨espOk, espOk, true, cache⟩
  let refused : InitEnv := ⟨espOk, espErrInvalidState, false, cache⟩
  let saved : MoveEnv := ⟨espOk, cache⟩
  [.boot 0, .bootPort 0 .passive up, .bootPort 0 .passive up, .bootPort 0 .passive up,
    .setCache 1 1 true, .moveStep 1 saved, .setMode 2 0 .tcpBridge true ⟨refused, up, espOk⟩,
    .moveStep 1 saved, .moveStep 1 saved, .moveStep 1 saved, .moveStep 1 saved, .moveStep 1 saved]

theorem cache_single_source_moveAcrossRollback :
    ∃ log s, (machine (· = 0) true true).Run Machine.anyStep log s ∧
      log.getLast? = some (.returned 1 espOk) ∧
      (s.pm.ports 0).getPortSerialDesc = true ∧
      (s.pm.ports 1).sniff.runsFor reasonCache = true ∧
      ¬ (s.pm.ports 0).sniff.runsFor reasonCache = true := by
  obtain ⟨log, s, hrun, hlog, hopen, hfeeds⟩ := Machine.Run.exists_of_exec
    (machine (· = 0) true true) Machine.anyStep moveAcrossRollback
    (fun log s => log.getLast? = some (.returned 1 espOk) ∧
      (s.pm.ports 0).getPortSerialDesc = true ∧
      (s.pm.ports 1).sniff.runsFor reasonCache = true) (by decide +kernel)
  obtain ⟨hone, hiff⟩ := cache_single_source _ _ hrun
  refine ⟨log, s, hrun, hlog, hopen, hfeeds, fun hfeeds' => ?_⟩
  have heq := hone _ _ ((hiff _).1 hfeeds).1 ((hiff _).1 hfeeds').1
  cases heq

end WbMge.PortManager
