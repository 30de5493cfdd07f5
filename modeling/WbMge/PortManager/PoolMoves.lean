import WbMge.PortManager.CacheSource

/-!
# The pool of the cache across a move

Moving the overlay from one port to the other is meant to keep the pool: `cache_move_locked` takes
the overlay from the old port, gives it to the new one and calls `cache_sync_global` at the end,
when it finds nothing to do.

Other tasks call `cache_sync_global` as well, at the end of each `port_init_mode`. Every section
calls it at most once; `System.syncPoint` is the state it is called in and `State.syncCalls` the
call to the pool that it makes there. Before the old port is released and after the new one is set,
some port carries the overlay. In between none does, and a `port_init_mode` of another task frees
the pool.
-/

namespace WbMge.PortManager

open Cache (bridgesCount)

/-! ## The calls -/

/-- The calls that change the pool. -/
inductive PoolCall where
  /-- `cache_multimaster_enable`. -/
  | enable
  /-- `cache_multimaster_disable`. -/
  | disable
deriving Repr, DecidableEq

def PoolCall.run (e : CacheEnv) (c : Cache.State) : PoolCall → Cache.State
  | .enable => (c.enable e.nowUs e.allocOk).1
  | .disable => c.disable e.nowUs

/-- The call `cache_sync_global` makes, if any. -/
def State.syncCalls (s : State) : List PoolCall :=
  let want := (List.finRange bridgesCount).any fun i => (s.ports i).cacheOverlay
  let enabled := s.cache.enabled
  if want && !enabled then [.enable] else if !want && enabled then [.disable] else []

/-- The calls of a section that runs `cache_sync_global` in this state, or not at all. -/
def poolCalls (sync : Option State) : List PoolCall := sync.elim [] State.syncCalls

section Calls

variable {s s' : State}

lemma State.cacheSyncGlobal_eq (s : State) (e : CacheEnv) :
    (s.cacheSyncGlobal e).1 = { s with cache := s.syncCalls.foldl (PoolCall.run e) s.cache } := by
  simp only [cacheSyncGlobal, syncCalls]
  split
  · rfl
  · split <;> rfl

lemma State.syncCalls_eq_nil (henabled : s.cache.enabled = true) {i : Fin bridgesCount}
    (hi : s.overlay i = true) : s.syncCalls = [] := by
  have hwant : ((List.finRange bridgesCount).any fun i => (s.ports i).cacheOverlay) = true :=
    List.any_eq_true.2 ⟨i, List.mem_finRange i, hi⟩
  simp [syncCalls, hwant, henabled]

end Calls

/-! ## Where the pool is synchronised -/

/-- The state in which `port_init_mode` calls `cache_sync_global`. -/
def State.initSync (s : State) (i : Fin bridgesCount) (mode : PmMode) (e : InitEnv) :
    Option State :=
  ((s.ports i).openTransport mode e).toOption.map fun p => s.setPort i { p with mode }

/-- The state in which `port_set_mode_impl` calls `cache_sync_global`. The first `port_init_mode`
does so if it succeeds, and only otherwise there is a second one. -/
def State.setModeSync (s : State) (i : Fin bridgesCount) (mode : PmMode) (persist : Bool)
    (e : SetModeEnv) : Option State :=
  if persist && s.portsFrozen then none
  else
    let prevMode := (s.ports i).mode
    let s := s.portDeinitMode i
    if (s.portInitMode i mode e.init).isOk then s.initSync i mode e.init
    else if prevMode = .disabled then none
    else s.initSync i prevMode e.rollback

/-- The state in which `port_manager_apply_settings` calls `cache_sync_global`. -/
def State.applySync (s : State) (i : Fin bridgesCount) (stored : PmMode) (e : InitEnv) :
    Option State :=
  if s.portsFrozen then none else (s.portDeinitMode i).initSync i stored e

/-- The state in which an iteration of the loop of `port_manager_init` calls
`cache_sync_global`. -/
def State.bootSync (s : State) (i : Fin bridgesCount) (stored : PmMode) (e : InitEnv) :
    Option State :=
  if s.portsFrozen then none
  else if (s.ports i).mode ≠ .disabled then none
  else s.initSync i stored e

def onPort (port : Nat) (sync : Fin bridgesCount → Option State) : Option State :=
  if h : port < bridgesCount then sync ⟨port, h⟩ else none

@[simp] lemma onPort_val (i : Fin bridgesCount) (sync : Fin bridgesCount → Option State) :
    onPort i sync = sync i := dif_pos i.isLt

lemma onPort_of_not_lt {port : Nat} (h : ¬ port < bridgesCount)
    (sync : Fin bridgesCount → Option State) : onPort port sync = none := dif_neg h

/-- The index a task in the loop of `port_manager_init` has reached. -/
def Pc.bootIndex : Pc → Option Nat
  | .idle | .settings | .move .. => none
  | .boot i => some i

/-- The state in which a step of the system calls `cache_sync_global`. -/
def System.syncPoint (s : System) : Event → Option State
  | .moveStep t _ =>
    match s.tasks t with
    | .move .sync _ => some s.pm
    | _ => none
  | .setMode _ port mode persist e => onPort port fun i => s.pm.setModeSync i mode persist e
  | .applySettings _ port stored e => onPort port fun i => s.pm.applySync i stored e
  | .bootPort t stored e =>
    (s.tasks t).bootIndex.bind fun i => onPort i fun i => s.pm.bootSync i stored e
  | .setCache .. | .applyCacheSettings _ | .planMove .. | .release .. | .boot _
  | .setPortsFrozen _ | .display .. => none

lemma System.syncPoint_of_noPort (s : System) {e : Event} {port : Nat} (he : e.port = some port)
    (hport : ¬ port < bridgesCount) : s.syncPoint e = none := by
  cases e with
  | setMode | applySettings =>
    obtain rfl := Option.some.inj he
    simp only [System.syncPoint, onPort_of_not_lt hport]
  | setCache | release => rfl
  | applyCacheSettings | planMove | moveStep | boot | bootPort | setPortsFrozen | display =>
    cases he

/-- The system from `s` on, with its calls that change the pool. -/
def poolMachine (s : System) : Machine System Event PoolCall where
  init := s
  step s e := (s.step e).map fun r => (r.1, poolCalls (s.syncPoint e))

/-! ## The sections of one port

Each of them keeps the overlays, and does to the cache what its calls do. -/

/-- A section that is not part of a move, with the state in which it calls `cache_sync_global`. -/
structure State.SyncsAt (s : State) (sync : Option State) (s' : State) : Prop where
  overlay : s'.overlay = s.overlay
  /-- Nothing that `cache_sync_global` reads has changed when it is called. -/
  point : ∀ s₁ ∈ sync, s₁.overlay = s.overlay ∧ s₁.cache = s.cache
  cache : ∃ e, s'.cache = (poolCalls sync).foldl (PoolCall.run e) s.cache

section Sections

variable {s s' : State} {i : Fin bridgesCount} {mode : PmMode} {e : InitEnv} {sync : Option State}

lemma State.syncsAt_none (hoverlay : s'.overlay = s.overlay) (hcache : s'.cache = s.cache) :
    s.SyncsAt none s' where
  overlay := hoverlay
  point := by simp
  cache := ⟨⟨0, true⟩, hcache⟩

lemma State.syncsAt_refl (s : State) : s.SyncsAt none s := syncsAt_none rfl rfl

lemma State.SyncsAt.after {s₁ : State} (h : s₁.SyncsAt sync s')
    (hoverlay : s₁.overlay = s.overlay) (hcache : s₁.cache = s.cache) : s.SyncsAt sync s' where
  overlay := h.overlay.trans hoverlay
  point := by
    rw [← hoverlay, ← hcache]
    exact h.point
  cache := by
    rw [← hcache]
    exact h.cache

lemma State.SyncsAt.cache_eq (h : s.SyncsAt sync s') (hcalls : poolCalls sync = []) :
    s'.cache = s.cache := by
  obtain ⟨e, hcache⟩ := h.cache
  rw [hcache, hcalls, List.foldl_nil]

lemma State.SyncsAt.poolCalls_eq_nil (h : s.SyncsAt sync s') (henabled : s.cache.enabled = true)
    {j : Fin bridgesCount} (hj : s.overlay j = true) : poolCalls sync = [] := by
  cases sync with
  | none => rfl
  | some s₁ =>
    obtain ⟨hoverlay, hcache⟩ := h.point s₁ rfl
    apply State.syncCalls_eq_nil
    · rw [hcache]
      exact henabled
    · rw [hoverlay]
      exact hj

lemma State.overlay_setPort_of_eq {p : Port} (hp : p.cacheOverlay = (s.ports i).cacheOverlay) :
    (s.setPort i p).overlay = s.overlay := by
  rw [overlay_setPort, hp]
  exact Function.update_eq_self i s.overlay

lemma State.syncsAt_portDeinitMode (s : State) (i : Fin bridgesCount) :
    s.SyncsAt none (s.portDeinitMode i) :=
  syncsAt_none (overlay_setPort_of_eq (Port.cacheOverlay_deinitMode _)) rfl

lemma State.syncsAt_portInitMode (h : s.portInitMode i mode e = .ok s') :
    s.SyncsAt (s.initSync i mode e) s' := by
  unfold portInitMode at h
  split at h
  · cases h
  rename_i p hopen
  cases h
  have hoverlay : (s.setPort i { p with mode }).overlay = s.overlay :=
    overlay_setPort_of_eq (Port.openTransport_ok hopen).1
  have hsync : s.initSync i mode e = some (s.setPort i { p with mode }) := by
    rw [initSync, hopen]
    rfl
  rw [hsync]
  refine ⟨?_, ?_, e.cache, ?_⟩
  · -- arming the sniffer comes last and leaves the overlay alone
    rw [overlay_setPort_of_eq (Port.cacheOverlay_armCache _ _), cacheSyncGlobal_eq]
    exact hoverlay
  · rintro _ ⟨⟩
    exact ⟨hoverlay, rfl⟩
  · show (cacheSyncGlobal _ e.cache).1.cache = _
    rw [cacheSyncGlobal_eq]
    rfl

lemma State.initSync_of_error {err : EspErr} (h : s.portInitMode i mode e = .error err) :
    s.initSync i mode e = none := by
  unfold portInitMode at h
  split at h
  · rename_i hopen
    rw [initSync, hopen]
    rfl
  · cases h

lemma State.syncsAt_orElse (s : State) (i : Fin bridgesCount) (mode : PmMode) (e : InitEnv) :
    s.SyncsAt (s.initSync i mode e) (s.orElse (s.portInitMode i mode e)).1 := by
  cases hinit : s.portInitMode i mode e with
  | error err =>
    rw [initSync_of_error hinit]
    exact s.syncsAt_refl
  | ok s' => exact syncsAt_portInitMode hinit

lemma State.syncsAt_portSetModeImpl (s : State) (i : Fin bridgesCount) (mode : PmMode)
    (persist : Bool) (e : SetModeEnv) :
    s.SyncsAt (s.setModeSync i mode persist e) (s.portSetModeImpl i mode persist e).1 := by
  have hdeinit := s.syncsAt_portDeinitMode i
  unfold portSetModeImpl setModeSync
  split
  · exact s.syncsAt_refl
  cases hinit : (s.portDeinitMode i).portInitMode i mode e.init with
  | ok s₁ =>
    have hsync := (syncsAt_portInitMode hinit).after hdeinit.overlay rfl
    simp only [hinit, Except.isOk, Except.toBool, if_true]
    split <;> exact hsync
  | error err =>
    -- the rollback, to a mode that was up
    simp only [hinit, Except.isOk, Except.toBool, Bool.false_eq_true, if_false]
    split
    · exact hdeinit
    · exact (syncsAt_orElse _ _ _ _).after hdeinit.overlay rfl

lemma State.syncsAt_applySettings (s : State) (i : Fin bridgesCount) (stored : PmMode)
    (e : InitEnv) : s.SyncsAt (s.applySync i stored e) (s.applySettings i stored e).1 := by
  unfold applySettings applySync
  split
  · exact s.syncsAt_refl
  · exact (syncsAt_orElse _ _ _ _).after (s.syncsAt_portDeinitMode i).overlay rfl

lemma State.syncsAt_release (s : State) (i : Fin bridgesCount) :
    s.SyncsAt none (s.release i) := by
  unfold release
  split
  · exact s.syncsAt_refl
  · exact s.syncsAt_portDeinitMode i

lemma State.syncsAt_bootPort (s : State) (i : Fin bridgesCount) (stored : PmMode)
    (e : InitEnv) : s.SyncsAt (s.bootSync i stored e) (s.bootPort i stored e) := by
  unfold bootPort bootSync
  split
  · exact s.syncsAt_refl
  · split
    · exact s.syncsAt_refl
    · exact s.syncsAt_orElse i stored e

end Sections

/-! ## The tasks -/

def System.Owned (s : System) : Prop :=
  ∀ t, (s.tasks t).holdsMove = true → s.moveMutex = some t

/-- How the move mutex changes hands when a task goes on to `pc`. -/
inductive System.Passes (s : System) (t : Nat) (pc : Pc) : Option Nat → Prop
  | keeps (h : pc.holdsMove = true → (s.tasks t).holdsMove = true) : Passes s t pc s.moveMutex
  | takes (h : s.moveMutex = none) : Passes s t pc (some t)
  | gives (h : (s.tasks t).holdsMove = true) (h' : pc.holdsMove = false) : Passes s t pc none

/-- A step outside of moves: the task that makes it goes on to `pc`, and the pool is called at
`sync`. -/
structure System.Outside (s : System) (sync : Option State) (s' : System) (t : Nat) (pc : Pc) :
    Prop where
  pm : s.pm.SyncsAt sync s'.pm
  tasks : s'.tasks = Function.update s.tasks t pc
  mutex : s.Passes t pc s'.moveMutex
  stays : pc = s.tasks t ∨ ∀ stage m, s.tasks t ≠ .move stage m

section Tasks

variable {s s' : System} {t : Nat} {pc : Pc} {e : Event} {out : List Obs}

lemma System.outside_section {sync : Option State} {pm : State} (hpm : s.pm.SyncsAt sync pm) :
    ∃ t pc, s.Outside sync { s with pm } t pc :=
  ⟨0, s.tasks 0, hpm, (Function.update_eq_self ..).symm, .keeps id, .inl rfl⟩

lemma System.outside_goto {mutex : Option Nat} (hmutex : s.Passes t pc mutex)
    (hpc : ∀ stage m, s.tasks t ≠ .move stage m) :
    ∃ t' pc', s.Outside none { s.goto t pc with moveMutex := mutex } t' pc' :=
  ⟨t, pc, s.pm.syncsAt_refl, rfl, hmutex, .inr hpc⟩

lemma System.outside_of_step (hstep : s.step e = some (s', out))
    (hmove : ∀ t e', e ≠ .moveStep t e') : ∃ t pc, s.Outside (s.syncPoint e) s' t pc := by
  cases Step.of_step hstep with
  | noPort he hport =>
    rw [s.syncPoint_of_noPort he hport]
    exact outside_section s.pm.syncsAt_refl
  | setCache hidle hfree | applyCacheSettings hidle hfree =>
    exact outside_goto (.takes hfree) (by simp [hidle])
  | planMove hpc => exact outside_goto (.keeps fun _ => by rw [hpc]; rfl) (by simp [hpc])
  | planNothing hpc => exact outside_goto (.gives (by rw [hpc]; rfl) rfl) (by simp [hpc])
  | moveStep | moveEnd => exact absurd rfl (hmove _ _)
  | setMode i mode persist e =>
    simp only [System.syncPoint, onPort_val]
    exact outside_section (s.pm.syncsAt_portSetModeImpl i mode persist e)
  | applySettings i stored e =>
    simp only [System.syncPoint, onPort_val]
    exact outside_section (s.pm.syncsAt_applySettings i stored e)
  | release i => exact outside_section (s.pm.syncsAt_release i)
  | boot hidle => exact outside_goto (.keeps (by rintro ⟨⟩)) (by simp [hidle])
  | bootPort stored e hpc =>
    simp only [System.syncPoint, hpc, Pc.bootIndex, Option.bind_some, onPort_val]
    exact ⟨_, _, s.pm.syncsAt_bootPort _ stored e, rfl, .keeps (by rintro ⟨⟩),
      .inr (by simp [hpc])⟩
  | bootEnd hpc hi =>
    simp only [System.syncPoint, hpc, Pc.bootIndex, Option.bind_some, onPort_of_not_lt hi]
    exact outside_goto (.keeps (by rintro ⟨⟩)) (by simp [hpc])
  | setPortsFrozen frozen => exact outside_section (State.syncsAt_none rfl rfl)
  | display =>
    exact outside_section (State.syncsAt_none (State.overlay_setPort_of_eq rfl) rfl)

lemma System.Owned.of_passes (h : s.Owned) (htasks : s'.tasks = Function.update s.tasks t pc)
    (hmutex : s.Passes t pc s'.moveMutex) : s'.Owned := by
  intro t' ht'
  rw [htasks] at ht'
  rcases eq_or_ne t' t with rfl | hne
  · rw [Function.update_self] at ht'
    generalize s'.moveMutex = mutex at hmutex ⊢
    cases hmutex with
    | keeps hkeeps => exact h t' (hkeeps ht')
    | takes => rfl
    | gives _ hleaves => rw [hleaves] at ht'; cases ht'
  · rw [Function.update_of_ne hne] at ht'
    have howner := h t' ht'
    generalize s'.moveMutex = mutex at hmutex ⊢
    cases hmutex with
    | keeps => exact howner
    | takes hnone => rw [hnone] at howner; cases howner
    | gives hholds => exact absurd (Option.some.inj (howner.symm.trans (h t hholds))) hne

lemma System.Owned.step (h : s.Owned) (hstep : s.step e = some (s', out)) : s'.Owned := by
  by_cases hmove : ∃ t e', e = .moveStep t e'
  · obtain ⟨t, e', rfl⟩ := hmove
    cases Step.of_step hstep with
    | noPort he => cases he
    | moveStep hpc => exact h.of_passes rfl (.keeps fun _ => by rw [hpc]; rfl)
    | moveEnd hpc => exact h.of_passes rfl (.gives (by rw [hpc]; rfl) rfl)
  · push Not at hmove
    obtain ⟨t, pc, houtside⟩ := outside_of_step hstep hmove
    exact h.of_passes houtside.tasks houtside.mutex

end Tasks

/-! ## One move -/

def Pc.betweenHolders : Pc → Bool
  | .move (.release _) m | .move .apply m => m.moved
  | .move .sync _ | .move .clear _ | .idle | .settings | .boot _ => false

/-- The task is in its call. -/
def duringMove (t : Nat) : List PoolCall → System → Event → Prop := fun _ s _ => s.tasks t ≠ .idle

instance (t : Nat) (calls : List PoolCall) (s : System) (e : Event) :
    Decidable (duringMove t calls s e) := by
  unfold duringMove
  infer_instance

/-- The move of the task is not over, and between the old port and the new one nothing calls
`cache_sync_global`. -/
def undisturbed (t : Nat) : List PoolCall → System → Event → Prop := fun _ s e =>
  s.tasks t ≠ .idle ∧ ((s.tasks t).betweenHolders = true → (s.syncPoint e).isNone = true)

instance (t : Nat) (calls : List PoolCall) (s : System) (e : Event) :
    Decidable (undisturbed t calls s e) := by
  unfold undisturbed
  infer_instance

/-- A move that takes the overlay from the port `q`, and what carries the overlay at a stage of it:
first `q`, then the port of the move. -/
def Move.TakesFrom (m : Move) (q : Fin bridgesCount) (overlay : Fin bridgesCount → Bool) :
    Stage → Prop
  | .release i =>
    m.enabled = true ∧ m.port ≠ q ∧ (m.moved = false → i ≤ q.val ∧ overlay q = true)
  | .apply => m.enabled = true ∧ m.moved = true
  | .sync | .clear => overlay m.port = true

section Moves

variable {s : State} {m : Move} {q : Fin bridgesCount} {stage : Stage}

lemma Move.TakesFrom.exists_overlay {overlay : Fin bridgesCount → Bool}
    (h : m.TakesFrom q overlay stage) (hgap : (Pc.move stage m).betweenHolders = false) :
    ∃ i, overlay i = true := by
  cases stage with
  | release i => exact ⟨q, (h.2.2 hgap).2⟩
  | apply => exact absurd (h.2.symm.trans hgap) Bool.false_ne_true.symm
  | sync | clear => exact ⟨m.port, h⟩

lemma Move.TakesFrom.release_step {i : Nat} (h : m.TakesFrom q s.overlay (.release i))
    (e : MoveEnv) :
    let r := s.moveStep e m (.release i)
    r.1.cache = s.cache ∧ ∀ stage, r.2.1 = some stage → r.2.2.1.TakesFrom q r.1.overlay stage := by
  obtain ⟨henabled, hport, hholder⟩ := h
  simp only [State.moveStep]
  split
  · split
    · -- a port loses the overlay, and the move knows it
      refine ⟨rfl, ?_⟩
      rintro _ ⟨⟩
      exact ⟨henabled, hport, fun hmoved => absurd hmoved.symm Bool.false_ne_true⟩
    · rename_i hfree
      refine ⟨rfl, ?_⟩
      rintro _ ⟨⟩
      refine ⟨henabled, hport, fun hmoved => ?_⟩
      obtain ⟨hle, hq⟩ := hholder hmoved
      -- the port just passed does not carry the overlay, so it is not `q`
      have hne : i ≠ q.val := by
        rintro rfl
        exact hfree ⟨hport.symm, hq⟩
      exact ⟨Nat.succ_le_of_lt (lt_of_le_of_ne hle hne), hq⟩
  · rename_i hi
    refine ⟨rfl, ?_⟩
    rintro _ ⟨⟩
    refine ⟨henabled, ?_⟩
    -- the loop has been through all ports, `q` among them
    by_contra hmoved
    obtain ⟨hle, -⟩ := hholder (Bool.eq_false_iff.2 hmoved)
    exact hi (lt_of_le_of_lt hle q.isLt)

lemma Move.TakesFrom.step (h : m.TakesFrom q s.overlay stage)
    (henabled : s.cache.enabled = true) (e : MoveEnv) :
    let r := s.moveStep e m stage
    r.1.cache.enabled = true ∧
      ∀ stage', r.2.1 = some stage' → r.2.2.1.TakesFrom q r.1.overlay stage' := by
  cases stage with
  | release i =>
    obtain ⟨hcache, hnext⟩ := h.release_step e
    exact ⟨hcache ▸ henabled, hnext⟩
  | apply =>
    refine ⟨henabled, ?_⟩
    rintro _ ⟨⟩
    show (s.overlayApply m.port m.enabled).overlay m.port = true
    rw [State.overlay_overlayApply, Function.update_self]
    exact h.1
  | sync =>
    have hsync : (s.cacheSyncGlobal e.cache).1 = s := by
      rw [State.cacheSyncGlobal_eq, State.syncCalls_eq_nil henabled h, List.foldl_nil]
    refine ⟨(congrArg (·.cache.enabled) hsync).trans henabled, ?_⟩
    rintro _ ⟨⟩
    show (s.cacheSyncGlobal e.cache).1.overlay m.port = true
    rw [hsync]
    exact h
  | clear =>
    refine ⟨?_, by rintro _ ⟨⟩⟩
    simp only [State.moveStep, Cache.State.clear]
    split
    · split <;> exact henabled
    · exact henabled

end Moves

/-- The pool while a task makes a move that takes the overlay from `q`. -/
structure System.KeepsPool (s : System) (t : Nat) (q : Fin bridgesCount) : Prop where
  owned : s.Owned
  enabled : s.pm.cache.enabled = true
  takes : ∀ stage m, s.tasks t = .move stage m → m.TakesFrom q s.pm.overlay stage
  moves : s.tasks t = .idle ∨ ∃ stage m, s.tasks t = .move stage m

section Run

variable {s s' : System} {t : Nat} {q : Fin bridgesCount} {e : Event} {out : List Obs}
  {calls : List PoolCall}

lemma System.KeepsPool.own_step (h : s.KeepsPool t q) {e : MoveEnv}
    (hstep : s.step (.moveStep t e) = some (s', out)) :
    poolCalls (s.syncPoint (.moveStep t e)) = [] ∧ s'.KeepsPool t q := by
  have howned := h.owned.step hstep
  -- the `cache_sync_global` of the move finds the pool and the overlay
  have hcalls {stage m} (hpc : s.tasks t = .move stage m) :
      poolCalls (s.syncPoint (.moveStep t e)) = [] := by
    have htakes := h.takes stage m hpc
    simp only [System.syncPoint, hpc]
    cases stage with
    | sync => exact State.syncCalls_eq_nil h.enabled htakes
    | release | apply | clear => rfl
  cases Step.of_step hstep with
  | noPort he => cases he
  | moveStep hpc hmove =>
    obtain ⟨henabled, htakes⟩ := (h.takes _ _ hpc).step h.enabled e
    rw [hmove] at henabled htakes
    refine ⟨hcalls hpc, howned, henabled, ?_, .inr ⟨_, _, Function.update_self _ _ _⟩⟩
    intro stage m hpc'
    change Function.update s.tasks t _ t = _ at hpc'
    rw [Function.update_self] at hpc'
    cases hpc'
    exact htakes _ rfl
  | moveEnd hpc hmove =>
    obtain ⟨henabled, -⟩ := (h.takes _ _ hpc).step h.enabled e
    rw [hmove] at henabled
    have hidle : Function.update s.tasks t .idle t = .idle := Function.update_self _ _ _
    exact ⟨hcalls hpc, howned, henabled, fun _ _ hpc' => absurd (hidle.symm.trans hpc') (by simp),
      .inl hidle⟩

lemma System.KeepsPool.other_step (h : s.KeepsPool t q) (hmove : ∀ e', e ≠ .moveStep t e')
    (hok : undisturbed t calls s e) (hstep : s.step e = some (s', out)) :
    poolCalls (s.syncPoint e) = [] ∧ s'.KeepsPool t q := by
  have howned := h.owned.step hstep
  obtain ⟨stage, m, hpc⟩ := h.moves.resolve_left hok.1
  have htakes := h.takes stage m hpc
  -- the mutex keeps the other tasks out of moves
  have hmove' : ∀ t' e', e ≠ .moveStep t' e' := by
    rintro t' e' rfl
    have hholds : (s.tasks t').holdsMove = true := by
      cases Step.of_step hstep with
      | noPort he => cases he
      | moveStep hpc' | moveEnd hpc' => rw [hpc']; rfl
    have hmutex := h.owned t (by rw [hpc]; rfl)
    obtain rfl : t = t' := Option.some.inj (hmutex.symm.trans (h.owned t' hholds))
    exact hmove e' rfl
  obtain ⟨t', pc', houtside⟩ := outside_of_step hstep hmove'
  have hcalls : poolCalls (s.syncPoint e) = [] := by
    cases hgap : (s.tasks t).betweenHolders with
    | true => rw [Option.isNone_iff_eq_none.1 (hok.2 hgap)]; rfl
    | false =>
      rw [hpc] at hgap
      obtain ⟨i, hi⟩ := htakes.exists_overlay hgap
      exact houtside.pm.poolCalls_eq_nil h.enabled hi
  have htasks : s'.tasks t = .move stage m := by
    rw [houtside.tasks]
    rcases eq_or_ne t t' with rfl | hne
    · rw [Function.update_self]
      exact (houtside.stays.resolve_right fun hstays => hstays stage m hpc).trans hpc
    · rw [Function.update_of_ne hne, hpc]
  refine ⟨hcalls, howned, ?_, ?_, .inr ⟨stage, m, htasks⟩⟩
  · rw [houtside.pm.cache_eq hcalls]
    exact h.enabled
  · intro stage' m' hpc'
    rw [htasks] at hpc'
    cases hpc'
    rw [houtside.pm.overlay]
    exact htakes

lemma System.Owned.keepsPool_setCache (h : s.Owned) (henabled : s.pm.cache.enabled = true)
    {p : Fin bridgesCount} (hq : (s.pm.ports q).cacheOverlay = true) (hne : p ≠ q)
    (hstep : s.step (.setCache t p true) = some (s', out)) : s'.KeepsPool t q := by
  have howned := h.step hstep
  simp only [System.step, dif_pos p.isLt] at hstep
  split at hstep
  · split at hstep
    · cases hstep
      refine ⟨howned, henabled, ?_, .inr ⟨_, _, Function.update_self _ _ _⟩⟩
      intro stage m hpc
      change Function.update s.tasks t _ t = _ at hpc
      rw [Function.update_self] at hpc
      cases hpc
      exact ⟨rfl, hne, fun _ => ⟨Nat.zero_le _, hq⟩⟩
    · cases hstep
  · cases hstep

end Run

/-- A `port_manager_set_cache` that takes the overlay from the other port keeps the pool, whatever
the other tasks do meanwhile, as long as none of them comes to `cache_sync_global` between the
release of the old port and the section of the new one. -/
theorem pool_kept_by_move (want : Fin bridgesCount → Bool) (queue mutex : Bool) {log : List Obs}
    {s₀ : System} (hrun : (machine want queue mutex).Run Machine.anyStep log s₀)
    (henabled : s₀.pm.cache.enabled = true) {p q : Fin bridgesCount}
    (hq : (s₀.pm.ports q).cacheOverlay = true) (hne : p ≠ q) {t : Nat} {s₁ : System}
    {out : List Obs} (hstart : s₀.step (.setCache t p true) = some (s₁, out))
    {calls : List PoolCall} {s : System}
    (hmove : (poolMachine s₁).Run (undisturbed t) calls s) :
    calls = [] ∧ s.pm.cache.enabled = true := by
  have howned : s₀.Owned := by
    apply Machine.Run.invariant (P := fun _ s => System.Owned s) ?_ ?_ hrun
    · rintro _ ⟨⟩
    · intro _ _ _ _ _ _ hs _ hstep
      exact hs.step hstep
  have hkept : calls = [] ∧ s.KeepsPool t q := by
    apply Machine.Run.invariant (P := fun calls s => calls = [] ∧ System.KeepsPool s t q) ?_ ?_
      hmove
    · exact ⟨rfl, howned.keepsPool_setCache henabled hq hne hstart⟩
    · rintro calls s e s' out - ⟨rfl, hs⟩ hok hstep
      obtain ⟨⟨s'', obs⟩, hstep', heq⟩ := Option.map_eq_some_iff.1 hstep
      cases heq
      by_cases hown : ∃ e', e = .moveStep t e'
      · obtain ⟨e', rfl⟩ := hown
        exact hs.own_step hstep'
      · push Not at hown
        exact hs.other_step hown hok hstep'
  exact ⟨hkept.1, hkept.2.enabled⟩

def nextSection : Event := .moveStep 1 ⟨espOk, ⟨1000000, true⟩⟩

def bootListeners : List Event :=
  [.boot 0, .bootPort 0 .passive opens, .bootPort 0 .passive opens, .bootPort 0 .passive opens]

/-- Another task brings a port up again before the old port is released and after the new one is
set, and releases it in between. -/
def aroundGap : List Event :=
  [.applySettings 2 0 .passive opens, nextSection, .release 2 0, nextSection, nextSection,
    nextSection, .setMode 2 0 .tcpBridge true ⟨opens, opens, espOk⟩, nextSection, nextSection]

def insideGap : List Event :=
  [nextSection, .applySettings 2 1 .passive opens, nextSection, nextSection, nextSection,
    nextSection, nextSection]

/-- From this state on, a task moves the overlay from the first port to the second, with these steps
of all tasks and these calls to the pool. -/
def movesWith (ok : List PoolCall → System → Event → Prop)
    [∀ calls s e, Decidable (ok calls s e)] (events : List Event) (calls : List PoolCall)
    (s : System) : Prop :=
  s.pm.cache.enabled = true ∧ (s.pm.ports 0).cacheOverlay = true ∧
    (s.step (.setCache 1 1 true)).any fun r =>
      ((poolMachine r.1).exec ok events [] r.1).any fun r => r.1 = calls ∧ r.2.tasks 1 = .idle

instance (ok : List PoolCall → System → Event → Prop) [∀ calls s e, Decidable (ok calls s e)]
    (events : List Event) (calls : List PoolCall) (s : System) :
    Decidable (movesWith ok events calls s) := by
  unfold movesWith
  infer_instance

lemma exists_move (ok : List PoolCall → System → Event → Prop)
    [∀ calls s e, Decidable (ok calls s e)] (events : List Event) (calls : List PoolCall)
    (h : ((machine (· = 0) true true).exec Machine.anyStep bootListeners []
      (machine (· = 0) true true).init).any fun r => movesWith ok events calls r.2) :
    ∃ log s₀ s₁ out s, (machine (· = 0) true true).Run Machine.anyStep log s₀ ∧
      s₀.pm.cache.enabled = true ∧ (s₀.pm.ports 0).cacheOverlay = true ∧
      s₀.step (.setCache 1 1 true) = some (s₁, out) ∧
      (poolMachine s₁).Run ok calls s ∧ s.tasks 1 = .idle := by
  obtain ⟨log, s₀, hrun, henabled, hq, hmove⟩ := Machine.Run.exists_of_exec _ Machine.anyStep
    bootListeners (fun _ s => movesWith ok events calls s) h
  cases hstart : s₀.step (.setCache 1 1 true) with
  | none => simp [hstart] at hmove
  | some r =>
    rw [hstart] at hmove
    obtain ⟨calls', s, hmove', rfl, hidle⟩ := Machine.Run.exists_of_exec (poolMachine r.1) ok events
      (fun calls' s => calls' = calls ∧ s.tasks 1 = .idle) hmove
    exact ⟨log, s₀, r.1, r.2, s, hrun, henabled, hq, hstart, hmove', hidle⟩

theorem pool_kept_by_move_aroundGap :
    ∃ s₁ calls s, (poolMachine s₁).Run (undisturbed 1) calls s ∧ s.tasks 1 = .idle ∧
      calls = [] ∧ s.pm.cache.enabled = true := by
  obtain ⟨log, s₀, s₁, out, s, hrun, henabled, hq, hstart, hmove, hidle⟩ :=
    exists_move (undisturbed 1) aroundGap [] (by decide +kernel)
  have hkept := pool_kept_by_move (p := 1) _ _ _ hrun henabled hq (by decide) hstart
    hmove
  exact ⟨s₁, [], s, hmove, hidle, hkept⟩

/-- Between the old port and the new one nobody wants the pool: a port brought up there frees it,
and the move allocates a new one. -/
theorem pool_freed_insideGap :
    ∃ log s₀ s₁ out s, (machine (· = 0) true true).Run Machine.anyStep log s₀ ∧
      s₀.pm.cache.enabled = true ∧ (s₀.pm.ports 0).cacheOverlay = true ∧
      s₀.step (.setCache 1 1 true) = some (s₁, out) ∧
      (poolMachine s₁).Run (duringMove 1) [.disable, .enable] s ∧ s.tasks 1 = .idle :=
  exists_move (duringMove 1) insideGap [.disable, .enable] (by decide +kernel)

end WbMge.PortManager
