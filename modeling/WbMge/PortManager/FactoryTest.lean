import WbMge.PortManager.CacheSource
import WbMge.ToMathlib.CJson

/-!
# The factory test

While the factory test drives the pins of the serial ports with a clock, the ports have to stay
closed. `wb_test.c` sets a flag, `s_ports_frozen`, and then closes both ports with the one call that
the flag does not stop. The flag is set outside of every lock, but read under the `pm_lock` of the
port.

The handler of a request is a sequence of sections like those of the other tasks, and `machine`
interleaves the two. After `port_manager_set_ports_frozen(true)`, both ports closed, and no call
since that clears the flag (`TakesPorts`), the ports are closed and no task writes their mode to the
settings storage. A clock that runs is such a state.
-/

namespace WbMge.PortManager

open Cache (bridgesCount)

/-! ## Descriptors -/

/-- A descriptor belongs to the mode of the port. -/
structure Port.Tidy (p : Port) : Prop where
  serial : p.serialDesc = true → p.mode = .passive ∨ p.mode = .repeater
  bridge : p.bridgeDesc = true → p.mode = .tcpBridge

/-- The port is disabled and has no descriptor. -/
structure Port.Closed (p : Port) : Prop where
  mode : p.mode = .disabled
  serialDesc : p.serialDesc = false
  bridgeDesc : p.bridgeDesc = false

section Port

variable {p p' : Port} {mode : PmMode} {e : InitEnv}

lemma Port.Tidy.serialDesc_of_ne (h : p.Tidy) (hpassive : p.mode ≠ .passive)
    (hrepeater : p.mode ≠ .repeater) : p.serialDesc = false := by
  by_contra hserial
  rcases h.serial (Bool.not_eq_false _ ▸ hserial) with hmode | hmode
  · exact hpassive hmode
  · exact hrepeater hmode

lemma Port.Tidy.bridgeDesc_of_ne (h : p.Tidy) (hbridge : p.mode ≠ .tcpBridge) :
    p.bridgeDesc = false :=
  Bool.eq_false_iff.2 fun hdesc => hbridge (h.bridge hdesc)

lemma Port.Tidy.closed (h : p.Tidy) (hmode : p.mode = .disabled) : p.Closed :=
  ⟨hmode, h.serialDesc_of_ne (by simp [hmode]) (by simp [hmode]),
    h.bridgeDesc_of_ne (by simp [hmode])⟩

lemma Port.Closed.tidy (h : p.Closed) : p.Tidy := by
  refine ⟨fun hserial => ?_, fun hbridge => ?_⟩
  · exact absurd (h.serialDesc.symm.trans hserial) Bool.false_ne_true
  · exact absurd (h.bridgeDesc.symm.trans hbridge) Bool.false_ne_true

lemma Port.Tidy.closed_deinitMode (h : p.Tidy) : p.deinitMode.Closed := by
  have hserial := h.serialDesc_of_ne
  have hbridge := h.bridgeDesc_of_ne
  unfold deinitMode
  split
  all_goals rename_i hmode
  all_goals rw [hmode] at hserial hbridge
  · exact ⟨rfl, hserial (by simp) (by simp), rfl⟩
  · exact ⟨rfl, rfl, hbridge (by simp)⟩
  · exact ⟨rfl, rfl, hbridge (by simp)⟩
  · exact ⟨rfl, hserial (by simp) (by simp), hbridge (by simp)⟩
  · exact ⟨rfl, hserial (by simp) (by simp), hbridge (by simp)⟩

lemma Port.Closed.tidy_openTransport (h : p.Closed) (hopen : p.openTransport mode e = .ok p') :
    Port.Tidy { p' with mode } := by
  have hserial {P : Prop} : p.serialDesc = true → P := by simp [h.serialDesc]
  have hbridge {P : Prop} : p.bridgeDesc = true → P := by simp [h.bridgeDesc]
  unfold openTransport at hopen
  repeat' split at hopen
  all_goals cases hopen
  -- nothing is opened, a bridge, a listener, a repeater
  · exact ⟨hserial, hbridge⟩
  · exact ⟨hserial, fun _ => rfl⟩
  · exact ⟨fun _ => .inl rfl, hbridge⟩
  · exact ⟨fun _ => .inr rfl, hbridge⟩

lemma Port.Tidy.armCache (h : p.Tidy) (queue : Bool) : (p.armCache queue).Tidy := by
  unfold Port.armCache
  split
  · exact ⟨h.serial, h.bridge⟩
  · exact h

lemma Port.Tidy.overlayApply (h : p.Tidy) (queue enabled : Bool) :
    (p.overlayApply queue enabled).Tidy := by
  simp only [Port.overlayApply]
  split <;> exact ⟨h.serial, h.bridge⟩

lemma Port.mode_overlayApply (p : Port) (queue enabled : Bool) :
    (p.overlayApply queue enabled).mode = p.mode := by
  simp only [Port.overlayApply]
  split <;> rfl

end Port

/-! ## Sections that see the flag -/

def State.Tidy (s : State) : Prop := ∀ i, (s.ports i).Tidy

/-- A section respects the flag: it does not change it, and if it is set, it leaves the modes
alone. -/
structure State.Respects (s s' : State) : Prop where
  tidy : s.Tidy → s'.Tidy
  flag : s'.portsFrozen = s.portsFrozen
  modes : s.portsFrozen = true → ∀ i, (s'.ports i).mode = (s.ports i).mode

section Sections

variable {s s' : State} {i : Fin bridgesCount} {mode : PmMode} {e : InitEnv}

lemma State.respects_refl (s : State) : s.Respects s := ⟨id, rfl, fun _ _ => rfl⟩

lemma State.Tidy.setPort (h : s.Tidy) {p : Port} (hp : p.Tidy) : (s.setPort i p).Tidy :=
  (Function.forall_update_iff s.ports fun _ p => p.Tidy).2 ⟨hp, fun j _ => h j⟩

lemma State.respects_setPort {p : Port} (hp : (s.ports i).Tidy → p.Tidy)
    (hmode : p.mode = (s.ports i).mode) : s.Respects (s.setPort i p) := by
  refine ⟨fun h => h.setPort (hp (h i)), rfl, fun _ j => ?_⟩
  show (Function.update s.ports i p j).mode = (s.ports j).mode
  rcases eq_or_ne j i with rfl | hne
  · rw [Function.update_self, hmode]
  · rw [Function.update_of_ne hne]

lemma State.respects_of_not_frozen (hfrozen : ¬ s.portsFrozen = true)
    (htidy : s.Tidy → s'.Tidy) (hflag : s'.portsFrozen = s.portsFrozen) : s.Respects s' :=
  ⟨htidy, hflag, fun h => absurd h hfrozen⟩

lemma State.Tidy.portDeinitMode (h : s.Tidy) (i : Fin bridgesCount) :
    (s.portDeinitMode i).Tidy ∧ ((s.portDeinitMode i).ports i).Closed := by
  have hclosed := (h i).closed_deinitMode
  refine ⟨h.setPort hclosed.tidy, ?_⟩
  simpa only [State.portDeinitMode, State.setPort, Function.update_self] using hclosed

lemma State.Tidy.portInitMode (h : s.Tidy) (hclosed : (s.ports i).Closed)
    (hinit : s.portInitMode i mode e = .ok s') : s'.Tidy := by
  obtain ⟨p, hopen, hports, -⟩ := portInitMode_ok hinit
  have htidy := (hclosed.tidy_openTransport hopen).armCache s.sniffQueue
  intro j
  rw [hports]
  exact (h.setPort htidy : (s.setPort i _).Tidy) j

lemma State.Tidy.orElse (h : s.Tidy) (hclosed : (s.ports i).Closed) :
    (s.orElse (s.portInitMode i mode e)).1.Tidy :=
  State.orElse_rule h fun _ hinit => h.portInitMode hclosed hinit

lemma State.portsFrozen_orElse (s : State) (i : Fin bridgesCount) (mode : PmMode) (e : InitEnv) :
    (s.orElse (s.portInitMode i mode e)).1.portsFrozen = s.portsFrozen :=
  State.orElse_rule (P := fun s' => s'.portsFrozen = s.portsFrozen) rfl
    fun _ hinit => (mode_of_portInitMode_ok hinit).2.2

lemma State.Tidy.portSetModeImpl (h : s.Tidy) (persist : Bool) (e : SetModeEnv) :
    (s.portSetModeImpl i mode persist e).1.Tidy := by
  obtain ⟨htidy, hclosed⟩ := h.portDeinitMode i
  apply State.portSetModeImpl_rule h htidy
  intro mode e s' hinit
  exact htidy.portInitMode hclosed hinit

lemma State.portsFrozen_portSetModeImpl (s : State) (i : Fin bridgesCount) (mode : PmMode)
    (persist : Bool) (e : SetModeEnv) :
    (s.portSetModeImpl i mode persist e).1.portsFrozen = s.portsFrozen :=
  State.portSetModeImpl_rule (P := fun s' => s'.portsFrozen = s.portsFrozen) rfl rfl
    fun _ _ _ hinit => (mode_of_portInitMode_ok hinit).2.2

lemma State.portSetModeImpl_frozen (hfrozen : s.portsFrozen = true) (e : SetModeEnv) :
    s.portSetModeImpl i mode true e = (s, pmErrPortsFrozen, []) := by
  rw [State.portSetModeImpl, hfrozen]
  rfl

lemma State.respects_portSetModeImpl (s : State) (i : Fin bridgesCount) (mode : PmMode)
    (e : SetModeEnv) : s.Respects (s.portSetModeImpl i mode true e).1 := by
  by_cases hfrozen : s.portsFrozen = true
  · rw [portSetModeImpl_frozen hfrozen]
    exact s.respects_refl
  · exact respects_of_not_frozen hfrozen (fun h => h.portSetModeImpl true e)
      (portsFrozen_portSetModeImpl ..)

lemma State.respects_applySettings (s : State) (i : Fin bridgesCount) (stored : PmMode)
    (e : InitEnv) : s.Respects (s.applySettings i stored e).1 := by
  unfold State.applySettings
  split
  · exact s.respects_refl
  rename_i hfrozen
  refine respects_of_not_frozen hfrozen (fun h => ?_) (portsFrozen_orElse _ _ _ _)
  obtain ⟨htidy, hclosed⟩ := h.portDeinitMode i
  exact htidy.orElse hclosed

lemma State.respects_release (s : State) (i : Fin bridgesCount) : s.Respects (s.release i) := by
  unfold State.release
  split
  · exact s.respects_refl
  · rename_i hfrozen
    exact respects_of_not_frozen hfrozen (fun h => (h.portDeinitMode i).1) rfl

lemma State.respects_bootPort (s : State) (i : Fin bridgesCount) (stored : PmMode)
    (e : InitEnv) : s.Respects (s.bootPort i stored e) := by
  unfold State.bootPort
  split
  · exact s.respects_refl
  rename_i hfrozen
  split
  · exact s.respects_refl
  · rename_i hmode
    refine respects_of_not_frozen hfrozen (fun h => ?_) (portsFrozen_orElse _ _ _ _)
    exact h.orElse ((h i).closed (not_not.1 hmode))

lemma State.respects_overlayApply (s : State) (i : Fin bridgesCount) (enabled : Bool) :
    s.Respects (s.overlayApply i enabled) :=
  respects_setPort (fun h => h.overlayApply _ _) (Port.mode_overlayApply _ _ _)

lemma State.respects_of_ports_eq (hports : s'.ports = s.ports)
    (hflag : s'.portsFrozen = s.portsFrozen) : s.Respects s' := by
  refine ⟨fun h i => ?_, hflag, fun _ i => ?_⟩
  · rw [hports]
    exact h i
  · rw [hports]

lemma State.respects_moveStep (s : State) (e : MoveEnv) (m : Move) (stage : Stage) :
    s.Respects (s.moveStep e m stage).1 ∧
      ∀ i mode, .savePortMode i mode ∉ (s.moveStep e m stage).2.2.2 := by
  cases stage with
  | release k =>
    simp only [State.moveStep]
    split
    · split
      · exact ⟨s.respects_overlayApply _ _, by simp⟩
      · exact ⟨s.respects_refl, by simp⟩
    · exact ⟨s.respects_refl, by simp⟩
  | apply => exact ⟨s.respects_overlayApply _ _, by simp [State.moveStep]⟩
  | sync =>
    exact ⟨respects_of_ports_eq (ports_cacheSyncGlobal _ _) (portsFrozen_cacheSyncGlobal _ _),
      by simp [State.moveStep]⟩
  | clear =>
    simp only [State.moveStep]
    split
    · exact ⟨respects_of_ports_eq rfl rfl, by simp⟩
    · exact ⟨s.respects_refl, by simp⟩

lemma State.savePortMode_notMem_planMove (s : State) (e : SettingsEnv) (i : Fin bridgesCount)
    (mode : PmMode) : .savePortMode i mode ∉ (s.planMove e).2.2 := by
  simp [State.planMove]

end Sections

lemma State.Tidy.claimOverlay (want : Fin bridgesCount → Bool) {is : List (Fin bridgesCount)}
    {cacheClaimed : Bool} {s : State} (h : s.Tidy) :
    (State.claimOverlay want is cacheClaimed s).Tidy := by
  induction is generalizing cacheClaimed s with
  | nil => exact h
  | cons i is ih => exact ih (h.setPort ⟨(h i).serial, (h i).bridge⟩)

lemma Port.closed_init : Port.init.Closed := ⟨rfl, rfl, rfl⟩

lemma State.portSetModeImpl_transient (s : State) (i : Fin bridgesCount) (e : SetModeEnv) :
    ∃ s', s.portSetModeImpl i .disabled false e = (s', espOk, []) ∧
      (s'.ports i).mode = .disabled ∧ ∀ j ≠ i, (s'.ports j).mode = (s.ports j).mode := by
  -- there is no transport to open, so no error and no rollback
  obtain ⟨s', hinit⟩ : ∃ s', (s.portDeinitMode i).portInitMode i .disabled e.init = .ok s' :=
    ⟨_, rfl⟩
  have himpl : s.portSetModeImpl i .disabled false e = (s', espOk, []) := by
    simp only [State.portSetModeImpl, Bool.false_and, hinit]
    rfl
  obtain ⟨hmode, hothers, -⟩ := State.mode_of_portInitMode_ok hinit
  refine ⟨s', himpl, hmode, fun j hj => ?_⟩
  rw [hothers j hj, State.mode_portDeinitMode_of_ne hj]

def Event.isTest : Event → Bool
  | .setPortsFrozen _ => true
  | .setMode _ _ _ persist _ => !persist
  | .setCache .. | .applyCacheSettings _ | .planMove .. | .moveStep .. | .applySettings ..
  | .release .. | .boot _ | .bootPort .. | .display .. => false

section System

variable {s s' : System} {out : List Obs}

/-- What a step of another task leaves: the flag is respected, and while it is set no mode is
written to the storage. -/
def System.Respects (s s' : System) (out : List Obs) : Prop :=
  s.pm.Respects s'.pm ∧
    (s.pm.portsFrozen = true → ∀ i mode, .savePortMode i mode ∉ out)

lemma System.respects_of_pm_eq (hpm : s'.pm = s.pm)
    (hout : ∀ i mode, .savePortMode i mode ∉ out) : s.Respects s' out :=
  ⟨hpm ▸ s.pm.respects_refl, fun _ => hout⟩

lemma System.respects_step {e : Event} (hstep : s.step e = some (s', out))
    (he : e.isTest = false) : s.Respects s' out := by
  cases Step.of_step hstep with
  | noPort | setCache | applyCacheSettings | boot | bootEnd => exact respects_of_pm_eq rfl (by simp)
  | @planMove _ e _ _ _ _ hplan =>
    have hout := s.pm.savePortMode_notMem_planMove e
    rw [hplan] at hout
    exact respects_of_pm_eq rfl hout
  | @planNothing _ e _ _ _ hplan =>
    have hout := s.pm.savePortMode_notMem_planMove e
    rw [hplan] at hout
    exact respects_of_pm_eq rfl fun i mode => by simpa using hout i mode
  | @moveStep _ e stage _ m _ _ _ _ hmove =>
    obtain ⟨hpm, hout⟩ := s.pm.respects_moveStep e m stage
    rw [hmove] at hpm hout
    exact ⟨hpm, fun _ => hout⟩
  | @moveEnd _ e stage m _ _ _ _ hmove =>
    obtain ⟨hpm, hout⟩ := s.pm.respects_moveStep e m stage
    rw [hmove] at hpm hout
    exact ⟨hpm, fun _ i mode => by simpa using hout i mode⟩
  | setMode i mode persist e =>
    -- a change that is not to be kept is the test's own
    obtain rfl : persist = true := by simpa [Event.isTest] using he
    refine ⟨s.pm.respects_portSetModeImpl i mode e, fun hfrozen => ?_⟩
    simp [State.portSetModeImpl_frozen hfrozen]
  | applySettings i stored e => exact ⟨s.pm.respects_applySettings i stored e, by simp⟩
  | release i => exact ⟨s.pm.respects_release i, by simp⟩
  | bootPort stored e => exact ⟨s.pm.respects_bootPort _ stored e, by simp⟩
  | setPortsFrozen => cases he
  | display => exact ⟨State.respects_setPort (fun h => ⟨h.serial, h.bridge⟩) rfl, by simp⟩

end System

end WbMge.PortManager

namespace WbMge.FactoryTest

open Cache (bridgesCount)
open PortManager (EspErr espOk espErrInvalidArg espErrInvalidState PmMode InitEnv SetModeEnv opens)

/-! ## The handler -/

def espErrNotFound : EspErr := 0x105

def clkOutJsonField : Json.Text := "clock_out".toList

def bridgePortIndex : Fin bridgesCount := 0

def bridgePortIndex2 : Fin bridgesCount := ⟨1, Cache.one_lt_bridgesCount⟩

lemma eq_bridgePortIndex (i : Fin bridgesCount) : i = bridgePortIndex ∨ i = bridgePortIndex2 := by
  revert i
  decide

/-- Where `process_request_json` stands: the call it makes next. -/
inductive Pc where
  | idle
  /-- `port_manager_set_ports_frozen(true)`. -/
  | freeze
  /-- `port_manager_set_mode_transient` on the first port. -/
  | disable
  /-- `port_manager_set_mode_transient` on the second port, after this answer for the first. -/
  | disable2 (err : EspErr)
  /-- `start_clock_out`. -/
  | startClockOut
  /-- `port_manager_set_ports_frozen(false)`, on the way to this answer. -/
  | unfreeze (ret : EspErr)
  /-- `port_manager_apply_settings` on the first port. -/
  | restore (ret : EspErr)
  /-- `port_manager_apply_settings` on the second port. -/
  | restore2 (ret : EspErr)
deriving Repr, DecidableEq

/-- The ports and the handler of the factory test. -/
structure State where
  system : PortManager.System
  pc : Pc
  clockOutEn : Bool

/-- The calls of the test that have returned, what `process_request_json` returns, and what the
other tasks show. -/
inductive Obs where
  | pm (o : PortManager.Obs)
  | setPortsFrozen (frozen : Bool)
  /-- `port_manager_set_mode_transient(port, PM_MODE_DISABLED)`. -/
  | setModeTransient (port : Fin bridgesCount) (err : EspErr)
  | returned (err : EspErr)
deriving Repr, DecidableEq

structure Env where
  setMode : SetModeEnv
  /-- The answer of `start_clock_out`. -/
  clockErr : EspErr
  /-- The mode that `port_manager_apply_settings` reads. -/
  stored : PmMode
  init : InitEnv

/-- `process_request_json` up to its first call. -/
def State.processRequestJson (s : State) (json : CJson) : State × List Obs :=
  if !json.hasObjectItem clkOutJsonField then (s, [.returned espErrNotFound])
  else
    match json.getObjectItem clkOutJsonField with
    | some (.bool true) =>
      if !s.clockOutEn then ({ s with pc := .freeze }, []) else (s, [.returned espOk])
    | some (.bool false) =>
      if s.clockOutEn then ({ s with clockOutEn := false, pc := .unfreeze espOk }, [])
      else (s, [.returned espOk])
    | _ => (s, [.returned espErrInvalidArg])

def State.setPm (s : State) (pm : PortManager.State) : State :=
  { s with system := { s.system with pm } }

def State.setPortsFrozen (s : State) (frozen : Bool) : State :=
  s.setPm { s.system.pm with portsFrozen := frozen }

/-- `port_manager_set_mode_transient(i, PM_MODE_DISABLED)`. -/
def State.setModeTransient (s : State) (i : Fin bridgesCount) (e : SetModeEnv) :
    State × EspErr × List Obs :=
  let r := s.system.pm.portSetModeImpl i .disabled false e
  (s.setPm r.1, r.2.1, r.2.2.map .pm ++ [.setModeTransient i r.2.1])

/-- `port_manager_apply_settings`, whose error is only logged. -/
def State.applySettings (s : State) (i : Fin bridgesCount) (e : Env) : State :=
  s.setPm (s.system.pm.applySettings i e.stored e.init).1

lemma State.setModeTransient_eq (s : State) (i : Fin bridgesCount) (e : SetModeEnv) :
    s.setModeTransient i e = (s.setPm (s.system.pm.portSetModeImpl i .disabled false e).1, espOk,
      [.setModeTransient i espOk]) := by
  obtain ⟨pm, himpl, -⟩ := s.system.pm.portSetModeImpl_transient i e
  simp only [State.setModeTransient, himpl]
  rfl

/-- The next call of `process_request_json` and what follows it. -/
def State.next (s : State) (e : Env) : Option (State × List Obs) :=
  match s.pc with
  | .idle => none
  | .freeze => some ({ s.setPortsFrozen true with pc := .disable }, [.setPortsFrozen true])
  | .disable =>
    let r := s.setModeTransient bridgePortIndex e.setMode
    some ({ r.1 with pc := .disable2 r.2.1 }, r.2.2)
  | .disable2 err =>
    let r := s.setModeTransient bridgePortIndex2 e.setMode
    -- a port that could not be closed has been rolled back, the pins are not free
    let pc := if err ≠ espOk ∨ r.2.1 ≠ espOk then .unfreeze espErrInvalidState else .startClockOut
    some ({ r.1 with pc }, r.2.2)
  | .startClockOut =>
    if e.clockErr ≠ espOk then some ({ s with pc := .unfreeze espErrInvalidState }, [])
    else some ({ s with clockOutEn := true, pc := .idle }, [.returned espOk])
  | .unfreeze ret =>
    some ({ s.setPortsFrozen false with pc := .restore ret }, [.setPortsFrozen false])
  | .restore ret => some ({ s.applySettings bridgePortIndex e with pc := .restore2 ret }, [])
  | .restore2 ret =>
    some ({ s.applySettings bridgePortIndex2 e with pc := .idle }, [.returned ret])

lemma State.pm_notMem_next {s s' : State} {e : Env} {out : List Obs}
    (hstep : s.next e = some (s', out)) (o : PortManager.Obs) : .pm o ∉ out := by
  unfold State.next at hstep
  simp only [State.setModeTransient_eq] at hstep
  split at hstep
  case h_1 => cases hstep
  case h_5 => split at hstep <;> cases hstep <;> simp
  all_goals cases hstep; simp

lemma State.pm_notMem_processRequestJson (s : State) (json : CJson) (o : PortManager.Obs) :
    .pm o ∉ (s.processRequestJson json).2 := by
  unfold State.processRequestJson
  repeat' split
  all_goals simp

inductive Event where
  | other (e : PortManager.Event)
  | request (json : CJson)
  | next (e : Env)

/-- One step. The flag and the transient mode change belong to the test, and one task handles the
requests one after the other. -/
def State.step (s : State) : Event → Option (State × List Obs)
  | .other e =>
    if e.isTest then none
    else (s.system.step e).map fun r => ({ s with system := r.1 }, r.2.map .pm)
  | .request json => if s.pc = .idle then some (s.processRequestJson json) else none
  | .next e => s.next e

/-- The device from the state `port_manager_init_subsystems` leaves on. -/
def machine (want : Fin bridgesCount → Bool) (queue mutex : Bool) : Machine State Event Obs where
  init := ⟨(PortManager.machine want queue mutex).init, .idle, false⟩
  step := State.step

/-! ## Between the calls -/

/-- `port_manager_set_ports_frozen(true)` was the last call to change the flag, and what came after
it satisfies `P`. -/
def FrozenSince (P : List Obs → Prop) (log : List Obs) : Prop :=
  ∃ before mid, log = before ++ .setPortsFrozen true :: mid ∧
    (∀ frozen, .setPortsFrozen frozen ∉ mid) ∧ P mid

/-- The test has frozen the ports, and after that both calls that disable a port have returned
`ESP_OK`. -/
def TakesPorts (log : List Obs) : Prop :=
  FrozenSince (fun mid => ∀ i, .setModeTransient i espOk ∈ mid) log

def ChangesFlag (o : Obs) : Prop := ∃ frozen, o = .setPortsFrozen frozen

def Held (pm : PortManager.State) : List Obs → Prop :=
  Current ChangesFlag fun o mid => o = .setPortsFrozen true →
    pm.portsFrozen = true ∧
      ∀ i, .setModeTransient i espOk ∈ mid → (pm.ports i).mode = .disabled

section Log

variable {P Q : List Obs → Prop} {log out : List Obs} {pm pm' : PortManager.State}

lemma FrozenSince.append (h : FrozenSince P log) (hout : ∀ o ∈ out, ¬ ChangesFlag o)
    (hPQ : ∀ mid, P mid → Q (mid ++ out)) : FrozenSince Q (log ++ out) := by
  obtain ⟨before, mid, rfl, hmid, hP⟩ := h
  refine ⟨before, mid ++ out, by simp, fun frozen hmem => ?_, hPQ mid hP⟩
  rcases List.mem_append.1 hmem with hmem | hmem
  · exact hmid frozen hmem
  · exact hout _ hmem ⟨frozen, rfl⟩

lemma TakesPorts.append (h : TakesPorts log) (hout : ∀ o ∈ out, ¬ ChangesFlag o) :
    TakesPorts (log ++ out) :=
  FrozenSince.append h hout fun _ hmid i => List.mem_append_left _ (hmid i)

lemma frozenSince_freeze (log : List Obs) :
    FrozenSince (fun _ => True) (log ++ [.setPortsFrozen true]) :=
  ⟨log, [], rfl, by simp, trivial⟩

lemma Held.append (h : Held pm log) (hpm : pm.Respects pm')
    (hout : ∀ o ∈ out, ¬ ChangesFlag o) (htransient : ∀ i, .setModeTransient i espOk ∉ out) :
    Held pm' (log ++ out) := by
  refine Current.append h hout fun o mid hmid ho => ?_
  obtain ⟨hfrozen, hmode⟩ := hmid ho
  refine ⟨hpm.flag.trans hfrozen, fun i hi => ?_⟩
  rw [hpm.modes hfrozen]
  exact hmode i ((List.mem_append.1 hi).resolve_right (htransient i))

lemma held_setPortsFrozen (pm : PortManager.State) (frozen : Bool) (log : List Obs) :
    Held { pm with portsFrozen := frozen } (log ++ [.setPortsFrozen frozen]) := by
  refine Current.concat_opens ⟨frozen, rfl⟩ fun hfrozen => ?_
  injection hfrozen with hfrozen
  exact ⟨hfrozen, by simp⟩

lemma Held.transient (h : Held pm log) {i : Fin bridgesCount} {err : EspErr}
    (hflag : pm'.portsFrozen = pm.portsFrozen) (hmode : (pm'.ports i).mode = .disabled)
    (hothers : ∀ j ≠ i, (pm'.ports j).mode = (pm.ports j).mode) :
    Held pm' (log ++ [.setModeTransient i err]) := by
  refine Current.append h (by simp [ChangesFlag]) fun o mid hmid ho => ?_
  obtain ⟨hfrozen, hdisabled⟩ := hmid ho
  refine ⟨hflag.trans hfrozen, fun j hj => ?_⟩
  rcases eq_or_ne j i with rfl | hne
  · exact hmode
  · rw [hothers j hne]
    apply hdisabled
    simpa [hne] using hj

end Log

/-! ## Runs -/

def Pc.Reached (log : List Obs) : Pc → Prop
  | .disable => FrozenSince (fun _ => True) log
  | .disable2 err => FrozenSince (fun mid => .setModeTransient bridgePortIndex err ∈ mid) log
  | .startClockOut => TakesPorts log
  | .idle | .freeze | .unfreeze _ | .restore _ | .restore2 _ => True

structure Inv (log : List Obs) (s : State) : Prop where
  tidy : s.system.pm.Tidy
  held : Held s.system.pm log
  reached : s.pc.Reached log
  clock : s.clockOutEn = true → s.pc = .idle ∧ TakesPorts log

section Run

variable {log out : List Obs} {s s' : State}

variable {pc : Pc}

lemma Pc.Reached.append (h : pc.Reached log) (hout : ∀ o ∈ out, ¬ ChangesFlag o) :
    pc.Reached (log ++ out) := by
  cases pc with
  | disable => exact FrozenSince.append h hout fun _ _ => trivial
  | disable2 err => exact FrozenSince.append h hout fun _ hmem => List.mem_append_left _ hmem
  | startClockOut => exact TakesPorts.append h hout
  | idle | freeze | unfreeze | restore | restore2 => trivial

lemma Inv.other_step (h : Inv log s) {e : PortManager.Event} (he : e.isTest = false)
    {system : PortManager.System} {obs : List PortManager.Obs}
    (hstep : s.system.step e = some (system, obs)) :
    Inv (log ++ obs.map .pm) { s with system } := by
  obtain ⟨hpm, -⟩ := PortManager.System.respects_step hstep he
  have hout : ∀ o ∈ obs.map Obs.pm, ¬ ChangesFlag o := by simp [ChangesFlag]
  refine ⟨hpm.tidy h.tidy, h.held.append hpm hout (by simp), h.reached.append hout, ?_⟩
  intro hclock
  obtain ⟨hidle, htakes⟩ := h.clock hclock
  exact ⟨hidle, htakes.append hout⟩

lemma Inv.local_step (h : Inv log s) {clockOutEn : Bool}
    (hout : ∀ o ∈ out, ∃ err, o = .returned err) (hreached : pc.Reached log)
    (hclock : clockOutEn = true → pc = .idle ∧ TakesPorts log) :
    Inv (log ++ out) { s with pc, clockOutEn } := by
  have hflag : ∀ o ∈ out, ¬ ChangesFlag o := by
    rintro o ho ⟨frozen, rfl⟩
    obtain ⟨err, herr⟩ := hout _ ho
    cases herr
  refine ⟨h.tidy, ?_, hreached.append hflag, fun hen => ?_⟩
  · apply h.held.append (PortManager.State.respects_refl _) hflag
    intro i hi
    obtain ⟨err, herr⟩ := hout _ hi
    cases herr
  · exact ⟨(hclock hen).1, (hclock hen).2.append hflag⟩

lemma Inv.request_step (h : Inv log s) (json : CJson) :
    Inv (log ++ (s.processRequestJson json).2) (s.processRequestJson json).1 := by
  have hstay (out : List Obs) (hout : ∀ o ∈ out, ∃ err, o = .returned err) : Inv (log ++ out) s :=
    h.local_step hout h.reached h.clock
  unfold State.processRequestJson
  split
  · exact hstay _ (by simp)
  -- a request that asks for the state the clock is in returns at once
  split
  · split
    · rename_i hoff
      refine h.local_step (by simp) trivial fun hclock => ?_
      simp [hclock] at hoff
    · exact hstay _ (by simp)
  · split
    · exact h.local_step (by simp) trivial fun hclock => absurd hclock Bool.false_ne_true
    · exact hstay _ (by simp)
  · exact hstay _ (by simp)

lemma Inv.not_clockOutEn (h : Inv log s) (hpc : s.pc ≠ .idle) : ¬ s.clockOutEn = true :=
  fun hclock => hpc (h.clock hclock).1

lemma Inv.setPortsFrozen (h : Inv log s) (hpc : s.pc ≠ .idle) (frozen : Bool)
    (hreached : pc.Reached (log ++ [.setPortsFrozen frozen])) :
    Inv (log ++ [.setPortsFrozen frozen]) { s.setPortsFrozen frozen with pc } where
  tidy := h.tidy
  held := held_setPortsFrozen s.system.pm frozen log
  reached := hreached
  clock hclock := absurd hclock (h.not_clockOutEn hpc)

lemma Inv.setModeTransient (h : Inv log s) (hpc : s.pc ≠ .idle) (i : Fin bridgesCount)
    (e : SetModeEnv) (hreached : pc.Reached (log ++ [.setModeTransient i espOk])) :
    Inv (log ++ [.setModeTransient i espOk])
      { s.setPm (s.system.pm.portSetModeImpl i .disabled false e).1 with pc } where
  tidy := h.tidy.portSetModeImpl false e
  held := by
    have hflag := s.system.pm.portsFrozen_portSetModeImpl i .disabled false e
    obtain ⟨pm, himpl, hmode, hothers⟩ := s.system.pm.portSetModeImpl_transient i e
    rw [himpl] at hflag ⊢
    exact h.held.transient hflag hmode hothers
  reached := hreached
  clock hclock := absurd hclock (h.not_clockOutEn hpc)

lemma Inv.applySettings (h : Inv log s) (hpc : s.pc ≠ .idle) (i : Fin bridgesCount) (e : Env)
    (hout : ∀ o ∈ out, ∃ err, o = .returned err) (hreached : pc.Reached log) :
    Inv (log ++ out) { s.applySettings i e with pc } := by
  have hpm := s.system.pm.respects_applySettings i e.stored e.init
  have happlied : Inv log (s.applySettings i e) := by
    refine ⟨hpm.tidy h.tidy, ?_, h.reached, h.clock⟩
    rw [← List.append_nil log]
    exact h.held.append hpm (by simp) (by simp)
  exact happlied.local_step hout hreached fun hclock => absurd hclock (h.not_clockOutEn hpc)

lemma Inv.next_step (h : Inv log s) {e : Env} (hstep : s.next e = some (s', out)) :
    Inv (log ++ out) s' := by
  have hreached := h.reached
  cases hpc : s.pc <;> simp only [State.next, hpc] at hstep hreached
  case idle => cases hstep
  case freeze =>
    cases hstep
    exact h.setPortsFrozen (by simp [hpc]) true (frozenSince_freeze log)
  case disable =>
    rw [State.setModeTransient_eq] at hstep
    cases hstep
    apply h.setModeTransient (by simp [hpc])
    exact FrozenSince.append hreached (by simp [ChangesFlag]) (by simp)
  case disable2 err =>
    rw [State.setModeTransient_eq] at hstep
    cases hstep
    apply h.setModeTransient (by simp [hpc])
    split
    · trivial
    -- both calls have returned `ESP_OK`
    rename_i hok
    obtain rfl : err = espOk := by
      by_contra herr
      exact hok (.inl herr)
    refine FrozenSince.append hreached (by simp [ChangesFlag]) fun mid hmem i => ?_
    rcases eq_bridgePortIndex i with rfl | rfl
    · exact List.mem_append_left _ hmem
    · exact List.mem_append_right _ (List.mem_singleton_self _)
  case startClockOut =>
    split at hstep
    · -- the clock did not start, and the handler goes on to give the ports back
      obtain ⟨rfl, rfl⟩ : _ = s' ∧ [] = out := by simpa using hstep
      have hoff := h.not_clockOutEn (by simp [hpc])
      exact h.local_step (by simp) trivial fun hclock => absurd hclock hoff
    · obtain ⟨rfl, rfl⟩ : _ = s' ∧ [Obs.returned espOk] = out := by simpa using hstep
      exact h.local_step (by simp) trivial fun _ => ⟨rfl, hreached⟩
  case unfreeze ret =>
    cases hstep
    exact h.setPortsFrozen (by simp [hpc]) false trivial
  case restore ret =>
    cases hstep
    exact h.applySettings (by simp [hpc]) bridgePortIndex e (by simp) trivial
  case restore2 ret =>
    cases hstep
    exact h.applySettings (by simp [hpc]) bridgePortIndex2 e (by simp) trivial

lemma Inv.step (h : Inv log s) {e : Event} (hstep : s.step e = some (s', out)) :
    Inv (log ++ out) s' := by
  cases e with
  | other e =>
    simp only [State.step] at hstep
    split at hstep
    · cases hstep
    rename_i he
    obtain ⟨⟨system, obs⟩, hstep', heq⟩ := Option.map_eq_some_iff.1 hstep
    cases heq
    exact h.other_step (Bool.eq_false_iff.2 he) hstep'
  | request json =>
    simp only [State.step] at hstep
    split at hstep
    · have hinv := h.request_step json
      rw [Option.some.inj hstep] at hinv
      exact hinv
    · cases hstep
  | next e => exact h.next_step hstep

lemma Inv.closed_of_takesPorts (h : Inv log s) (htakes : TakesPorts log) :
    s.system.pm.portsFrozen = true ∧ ∀ i, (s.system.pm.ports i).Closed := by
  obtain ⟨before, mid, hlog, hmid, hcalls⟩ := htakes
  have hflag : ∀ o ∈ mid, ¬ ChangesFlag o := by
    rintro o ho ⟨frozen, rfl⟩
    exact hmid frozen ho
  obtain ⟨hfrozen, hmode⟩ := h.held before _ mid hlog ⟨true, rfl⟩ hflag rfl
  exact ⟨hfrozen, fun i => (h.tidy i).closed (hmode i (hcalls i))⟩

lemma State.savePortMode_notMem_step (hfrozen : s.system.pm.portsFrozen = true) {e : Event}
    (hstep : s.step e = some (s', out)) (i : Fin bridgesCount) (mode : PmMode) :
    .pm (.savePortMode i mode) ∉ out := by
  cases e with
  | other e =>
    simp only [State.step] at hstep
    split at hstep
    · cases hstep
    rename_i he
    obtain ⟨⟨system, obs⟩, hstep', heq⟩ := Option.map_eq_some_iff.1 hstep
    cases heq
    have hout := (PortManager.System.respects_step hstep' (Bool.eq_false_iff.2 he)).2 hfrozen
    simpa using hout i mode
  | request json =>
    have hout := s.pm_notMem_processRequestJson json (.savePortMode i mode)
    simp only [State.step] at hstep
    split at hstep
    · rwa [Option.some.inj hstep] at hout
    · cases hstep
  | next e => exact State.pm_notMem_next hstep _

end Run

section Main

variable (want : Fin bridgesCount → Bool) (queue mutex : Bool) {log : List Obs} {s : State}

lemma inv_init : Inv [] (machine want queue mutex).init where
  tidy := PortManager.State.Tidy.claimOverlay want fun _ => PortManager.Port.closed_init.tidy
  held := Current.nil
  reached := trivial
  clock hclock := absurd hclock Bool.false_ne_true

lemma inv_of_run (hrun : (machine want queue mutex).Run Machine.anyStep log s) : Inv log s := by
  apply Machine.Run.invariant (P := Inv) ?_ ?_ hrun
  · exact inv_init want queue mutex
  · intro _ _ _ _ _ _ hs _ hstep
    exact hs.step hstep

/-- From the moment the flag is set and both calls that disable a port have returned `ESP_OK` until
the flag is cleared, whatever the other tasks do, both ports are disabled and without a descriptor,
and no step of any task writes the mode of a port to the settings storage. -/
theorem frozen_ports_stay_disabled (hrun : (machine want queue mutex).Run Machine.anyStep log s)
    (htakes : TakesPorts log) :
    (∀ i, (s.system.pm.ports i).mode = .disabled ∧ (s.system.pm.ports i).serialDesc = false ∧
        (s.system.pm.ports i).bridgeDesc = false) ∧
      ∀ e s' out, s.step e = some (s', out) → ∀ i mode, .pm (.savePortMode i mode) ∉ out := by
  have hinv := inv_of_run want queue mutex hrun
  obtain ⟨hfrozen, hclosed⟩ := hinv.closed_of_takesPorts htakes
  refine ⟨fun i => ⟨(hclosed i).mode, (hclosed i).serialDesc, (hclosed i).bridgeDesc⟩, ?_⟩
  intro e s' out hstep
  exact State.savePortMode_notMem_step hfrozen hstep

/-- In every run, no descriptor outlives the mode of its port, and while the test clock drives the
pins of the ports, the ports are frozen and neither of them has a transport open, whatever the other
tasks do and whichever calls of the handler fail. -/
theorem clockOut_excludes_ports (hrun : (machine want queue mutex).Run Machine.anyStep log s) :
    (∀ i, (s.system.pm.ports i).Tidy) ∧ (s.clockOutEn = true →
      s.system.pm.portsFrozen = true ∧ ∀ i, (s.system.pm.ports i).Closed) := by
  have hinv := inv_of_run want queue mutex hrun
  exact ⟨hinv.tidy, fun hclock => hinv.closed_of_takesPorts (hinv.clock hclock).2⟩

end Main

def nextCall : Event := .next ⟨⟨opens, opens, espOk⟩, espOk, .passive, opens⟩

/-- The boot loop has brought the first port up when the test starts. The second port, a mode change
and an update of the settings come too late. -/
def testDuringBoot : List Event :=
  [.other (.boot 0), .other (.bootPort 0 .passive opens),
    .request (.obj [(clkOutJsonField, .bool true)]), nextCall, nextCall, nextCall,
    .other (.bootPort 0 .passive opens), .other (.setMode 1 0 .repeater true ⟨opens, opens, espOk⟩),
    nextCall, .other (.applySettings 2 1 .passive opens)]

/-- What the calls of `testDuringBoot` return. -/
def testDuringBootLog : List Obs :=
  [.setPortsFrozen true, .setModeTransient bridgePortIndex espOk,
    .setModeTransient bridgePortIndex2 espOk, .pm (.returned 1 PortManager.pmErrPortsFrozen),
    .returned espOk, .pm (.returned 2 espOk)]

lemma takesPorts_testDuringBootLog : TakesPorts testDuringBootLog := by
  refine ⟨[], testDuringBootLog.tail, rfl, ?_, ?_⟩
  · decide
  · decide

theorem frozen_ports_stay_disabled_testDuringBoot :
    ∃ s, (machine (fun _ => false) true true).Run Machine.anyStep testDuringBootLog s ∧
      s.clockOutEn = true ∧
      ∀ i, (s.system.pm.ports i).mode = .disabled ∧ (s.system.pm.ports i).serialDesc = false ∧
        (s.system.pm.ports i).bridgeDesc = false := by
  obtain ⟨log, s, hrun, rfl, hclock⟩ := Machine.Run.exists_of_exec
    (machine (fun _ => false) true true) Machine.anyStep testDuringBoot
    (fun log s => log = testDuringBootLog ∧ s.clockOutEn = true) (by decide +kernel)
  have hports := frozen_ports_stay_disabled _ _ _ hrun takesPorts_testDuringBootLog
  exact ⟨s, hrun, hclock, hports.1⟩

theorem clockOut_excludes_ports_testDuringBoot :
    ∃ log s, (machine (fun _ => false) true true).Run Machine.anyStep log s ∧
      s.clockOutEn = true ∧ ∀ i, (s.system.pm.ports i).Closed := by
  obtain ⟨log, s, hrun, hclock⟩ := Machine.Run.exists_of_exec
    (machine (fun _ => false) true true) Machine.anyStep testDuringBoot
    (fun _ s => s.clockOutEn = true) (by decide +kernel)
  exact ⟨log, s, hrun, hclock, ((clockOut_excludes_ports _ _ _ hrun).2 hclock).2⟩

end WbMge.FactoryTest
