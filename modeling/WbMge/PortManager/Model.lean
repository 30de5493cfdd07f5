import WbMge.Sniffer.Model
import WbMge.ToMathlib.Machine

/-!
# The port manager

The model of `port_manager.c`: the transport mode of each port, the cache overlay that at most one
port carries, and the tasks that change them.

The functions that run under `pm_lock` are functions on the state. What the drivers, the settings
storage and the allocator answer is an argument, collected in the `…Env` structures, so that every
call may fail.

`cache_move_locked` is not one section. It holds `s_cache_move_mutex` throughout, but takes the
`pm_lock` of one port after the other. `Stage` is the place such a move has reached and
`State.moveStep` its next section. `machine` interleaves the sections of any number of tasks.
-/

namespace WbMge.PortManager

open Cache (bridgesCount)
open Sniffer (SniffCtx reasonCache reasonDisplay)

/-- `pm_mode_t`, and any value outside of the enumeration. -/
inductive PmMode where
  | disabled
  | tcpBridge
  | passive
  | repeater
  | unknown
deriving Repr, DecidableEq

abbrev EspErr := Int

def espOk : EspErr := 0

def espErrNoMem : EspErr := 0x101

def espErrInvalidArg : EspErr := 0x102

def espErrInvalidState : EspErr := 0x103

def pmErrPortsFrozen : EspErr := 0x10000

def cacheErr : Cache.EspErr → EspErr
  | .ok => espOk
  | .noMem => espErrNoMem
  | .invalidState => espErrInvalidState

/-- One entry of `pm_ctx`, together with what the bridge and the sniffer keep for the port. -/
structure Port where
  mode : PmMode
  cacheOverlay : Bool
  /-- `pm_ctx[i].serial_desc` is not NULL. -/
  serialDesc : Bool
  /-- `bridge_get_serial_desc(i)` is not NULL. -/
  bridgeDesc : Bool
  sniff : SniffCtx
deriving Repr, DecidableEq

/-- The port has an open serial descriptor. -/
def Port.getPortSerialDesc (p : Port) : Bool :=
  match p.mode with
  | .tcpBridge => p.bridgeDesc
  | .passive | .repeater => p.serialDesc
  | .disabled | .unknown => false

/-- The ports, the cache and the sniffer. -/
structure State where
  ports : Fin bridgesCount → Port
  cache : Cache.State
  portsFrozen : Bool
  /-- `sniffer_init` created the queue. -/
  sniffQueue : Bool

def State.setPort (s : State) (i : Fin bridgesCount) (p : Port) : State :=
  { s with ports := Function.update s.ports i p }

/-! ## The cache pool -/

structure CacheEnv where
  nowUs : Nat
  allocOk : Bool

/-- The pool exists while some port carries the overlay. -/
def State.cacheSyncGlobal (s : State) (e : CacheEnv) : State × EspErr :=
  let want := (List.finRange bridgesCount).any fun i => (s.ports i).cacheOverlay
  let enabled := s.cache.enabled
  if want && !enabled then
    let r := s.cache.enable e.nowUs e.allocOk
    ({ s with cache := r.1 }, cacheErr r.2)
  else if !want && enabled then ({ s with cache := s.cache.disable e.nowUs }, espOk)
  else (s, espOk)

/-! ## Bringing a port up and down -/

/-- What `port_init_mode` meets. -/
structure InitEnv where
  /-- The answer of `bridge_read_serial_config`, read for the repeater. -/
  configErr : EspErr
  transportErr : EspErr
  bridgeDesc : Bool
  cache : CacheEnv

/-- The `switch` of `port_init_mode`: open the transport. -/
def Port.openTransport (p : Port) (mode : PmMode) (e : InitEnv) : Except EspErr Port :=
  match mode with
  | .disabled => .ok p
  | .tcpBridge =>
    -- an initialised bridge without a descriptor is accepted with a warning
    if e.transportErr ≠ espOk then .error e.transportErr
    else .ok { p with bridgeDesc := e.bridgeDesc }
  | .passive =>
    if e.transportErr ≠ espOk then .error e.transportErr else .ok { p with serialDesc := true }
  | .repeater =>
    if e.configErr ≠ espOk then .error e.configErr
    else if e.transportErr ≠ espOk then .error e.transportErr
    else .ok { p with serialDesc := true }
  | .unknown => .error espErrInvalidArg

/-- The end of `port_init_mode`: the sniffer feeds the cache from a port with the overlay. -/
def Port.armCache (p : Port) (queue : Bool) : Port :=
  if p.cacheOverlay && p.getPortSerialDesc then { p with sniff := p.sniff.enable queue reasonCache }
  else p

/-- The state of a port whose transport does not open is left alone. An error of the cache pool is
only logged. -/
def State.portInitMode (s : State) (i : Fin bridgesCount) (mode : PmMode) (e : InitEnv) :
    Except EspErr State :=
  match (s.ports i).openTransport mode e with
  | .error err => .error err
  | .ok p =>
    -- the mode is set before the descriptor is asked for below
    let s := (s.setPort i { p with mode }).cacheSyncGlobal e.cache |>.1
    .ok (s.setPort i ((s.ports i).armCache s.sniffQueue))

/-- `port_deinit_mode` on one port. The overlay outlives the transport. -/
def Port.deinitMode (p : Port) : Port :=
  match p.mode with
  | .tcpBridge => { p with mode := .disabled, bridgeDesc := false, sniff := p.sniff.detach }
  | .passive | .repeater =>
    { p with mode := .disabled, serialDesc := false, sniff := p.sniff.detach }
  -- no transport, and the sniffer is not touched
  | .disabled | .unknown => { p with mode := .disabled }

def State.portDeinitMode (s : State) (i : Fin bridgesCount) : State :=
  s.setPort i (s.ports i).deinitMode

/-! ## The sections of one port -/

/-- What an observer sees: writes to the settings storage, whether or not they succeed, and what
the calls of the interface return. -/
inductive Obs where
  | savePortMode (port : Fin bridgesCount) (mode : PmMode)
  | saveCacheEn (port : Fin bridgesCount) (enabled : Bool)
  | returned (task : Nat) (err : EspErr)
deriving Repr, DecidableEq

/-- What `port_set_mode_impl` meets. -/
structure SetModeEnv where
  init : InitEnv
  rollback : InitEnv
  saveErr : EspErr

/-- Keep the state from before a `port_init_mode` that failed. -/
def State.orElse (s : State) : Except EspErr State → State × EspErr
  | .ok s' => (s', espOk)
  | .error err => (s, err)

/-- `port_set_mode_impl`, from taking `pm_lock` to giving it back. -/
def State.portSetModeImpl (s : State) (i : Fin bridgesCount) (mode : PmMode) (persist : Bool)
    (e : SetModeEnv) : State × EspErr × List Obs :=
  -- a transient change is the factory test's own
  if persist && s.portsFrozen then (s, pmErrPortsFrozen, [])
  else
    let prevMode := (s.ports i).mode
    let s := s.portDeinitMode i
    match s.portInitMode i mode e.init with
    | .ok s => if persist then (s, e.saveErr, [.savePortMode i mode]) else (s, espOk, [])
    | .error err =>
      -- the error of the rollback is only logged
      if prevMode = .disabled then (s, err, [])
      else ((s.orElse (s.portInitMode i prevMode e.rollback)).1, err, [])

/-- `port_manager_apply_settings`; `stored` is the mode read from the settings storage. -/
def State.applySettings (s : State) (i : Fin bridgesCount) (stored : PmMode) (e : InitEnv) :
    State × EspErr :=
  if s.portsFrozen then (s, espOk)
  else
    let s := s.portDeinitMode i
    s.orElse (s.portInitMode i stored e)

def State.release (s : State) (i : Fin bridgesCount) : State :=
  if s.portsFrozen then s else s.portDeinitMode i

/-- One iteration of the loop of `port_manager_init`. A port that something else has brought up
in the meantime is left as it is. -/
def State.bootPort (s : State) (i : Fin bridgesCount) (stored : PmMode) (e : InitEnv) : State :=
  if s.portsFrozen then s
  else if (s.ports i).mode ≠ .disabled then s
  else (s.orElse (s.portInitMode i stored e)).1

/-- `cache_overlay_apply_locked`, without the write to the settings storage. -/
def Port.overlayApply (p : Port) (queue enabled : Bool) : Port :=
  let p := { p with cacheOverlay := enabled }
  -- a closed port only remembers the overlay, `port_init_mode` arms the sniffer later
  if p.getPortSerialDesc then
    { p with
      sniff := if enabled then p.sniff.enable queue reasonCache else p.sniff.disable reasonCache }
  else p

/-- `cache_overlay_apply_locked` on the state. -/
def State.overlayApply (s : State) (i : Fin bridgesCount) (enabled : Bool) : State :=
  s.setPort i ((s.ports i).overlayApply s.sniffQueue enabled)

/-! ## Moving the overlay -/

/-- The arguments and local variables of `cache_move_locked`, and the `surplus_ret` of a caller. -/
structure Move where
  port : Fin bridgesCount
  enabled : Bool
  moved : Bool := false
  releaseRet : EspErr := espOk
  ret : EspErr := espOk
  syncRet : EspErr := espOk
  surplusRet : EspErr := espOk
deriving Repr, DecidableEq

/-- Where a move stands: the iteration of the loop that takes the overlay from the other ports, the
section of the port itself, `cache_sync_global`, and the end. -/
inductive Stage where
  | release (i : Nat)
  | apply
  | sync
  | clear
deriving Repr, DecidableEq

structure MoveEnv where
  saveErr : EspErr
  cache : CacheEnv

def firstErr (err err' : EspErr) : EspErr := if err ≠ espOk then err else err'

/-- What the caller of `cache_move_locked` returns: an error of the pool goes before one of the
storage, and one of the move before one of the clean-up ahead of it. -/
def Move.result (m : Move) : EspErr :=
  firstErr (if m.syncRet ≠ espOk then m.syncRet else firstErr m.ret m.releaseRet) m.surplusRet

/-- The stage `cache_move_locked` starts in. -/
def Move.firstStage (m : Move) : Stage := if m.enabled then .release 0 else .apply

def State.moveStep (s : State) (e : MoveEnv) (m : Move) :
    Stage → State × Option Stage × Move × List Obs
  | .release i =>
    if h : i < bridgesCount then
      if ⟨i, h⟩ ≠ m.port ∧ (s.ports ⟨i, h⟩).cacheOverlay then
        (s.overlayApply ⟨i, h⟩ false, some (.release (i + 1)),
          { m with moved := true, releaseRet := firstErr m.releaseRet e.saveErr },
          [.saveCacheEn ⟨i, h⟩ false])
      else (s, some (.release (i + 1)), m, [])
    else (s, some .apply, m, [])
  | .apply =>
    (s.overlayApply m.port m.enabled, some .sync, { m with ret := e.saveErr },
      [.saveCacheEn m.port m.enabled])
  | .sync =>
    let r := s.cacheSyncGlobal e.cache
    (r.1, some .clear, { m with syncRet := r.2 }, [])
  | .clear => (if m.moved then { s with cache := s.cache.clear e.cache.nowUs } else s, none, m, [])

/-- What `port_manager_apply_cache_settings` reads from the storage, and how its writes end. Each
key is read in the search for the wanted port and again when the surplus is cleared. -/
structure SettingsEnv where
  cacheEn : Fin bridgesCount → Bool
  cacheEnAgain : Fin bridgesCount → Bool
  saveErr : Fin bridgesCount → EspErr

/-- The ports past the wanted one whose key `port_manager_apply_cache_settings` clears. -/
def SettingsEnv.surplus (e : SettingsEnv) (wanted : Option (Fin bridgesCount)) :
    List (Fin bridgesCount) :=
  (List.finRange bridgesCount).filter fun i => wanted.any (· < i) && e.cacheEnAgain i

/-- The part of `port_manager_apply_cache_settings` before the move: the move to make, if any, the
error of the clean-up, and its writes. -/
def State.planMove (s : State) (e : SettingsEnv) : Option Move × EspErr × List Obs :=
  let wanted := (List.finRange bridgesCount).find? e.cacheEn
  let surplusRet := (e.surplus wanted).foldl (fun r i => firstErr r (e.saveErr i)) espOk
  -- read without `pm_lock`: the flags change under the move mutex only
  let holder := (List.finRange bridgesCount).find? fun i => (s.ports i).cacheOverlay
  let plan : Option Move :=
    if holder = wanted then none
    else
      match wanted with
      | some port => some { port, enabled := true, surplusRet }
      | none => holder.map fun port => { port, enabled := false, surplusRet }
  (plan, surplusRet, (e.surplus wanted).map fun i => .saveCacheEn i false)

/-! ## Start -/

def sniffCtxInit : SniffCtx where
  state := .idle
  reasons := 0
  reqValid := false
  reqSlave := 0
  reqFc := 0
  reqTimestampUs := 0
  synchronized := false
  lastWasMaster := false

def Port.init : Port where
  mode := .disabled
  cacheOverlay := false
  serialDesc := false
  bridgeDesc := false
  sniff := sniffCtxInit

/-- The loop of `port_manager_init_subsystems`: the first port whose stored key asks for the overlay
gets it. -/
def State.claimOverlay (want : Fin bridgesCount → Bool) :
    List (Fin bridgesCount) → (cacheClaimed : Bool) → State → State
  | [], _, s => s
  | i :: is, cacheClaimed, s =>
    claimOverlay want is (cacheClaimed || want i)
      (s.setPort i { s.ports i with cacheOverlay := want i && !cacheClaimed })

/-- `port_manager_init_subsystems`: the state it leaves, given the stored keys and whether the
sniffer's queue and the cache's mutex could be created. -/
def State.initSubsystems (want : Fin bridgesCount → Bool) (queue mutex : Bool) : State :=
  State.claimOverlay want (List.finRange bridgesCount) false
    { ports := fun _ => .init
      cache := .init mutex
      portsFrozen := false
      sniffQueue := queue }

/-! ## Tasks -/

inductive Pc where
  | idle
  /-- In `port_manager_apply_cache_settings`, holding the move mutex. -/
  | settings
  /-- In `cache_move_locked`, holding the move mutex. -/
  | move (stage : Stage) (m : Move)
  /-- In the loop of `port_manager_init`, at this index. -/
  | boot (i : Nat)
deriving Repr, DecidableEq

/-- The tasks that call the port manager. -/
structure System where
  pm : State
  tasks : Nat → Pc
  /-- The task that holds `s_cache_move_mutex`. -/
  moveMutex : Option Nat

/-- A step of one task, up to the end of the section it runs; and the changes that come from the
factory test and from the live display. -/
inductive Event where
  | setCache (task : Nat) (port : Nat) (enabled : Bool)
  | applyCacheSettings (task : Nat)
  | planMove (task : Nat) (e : SettingsEnv)
  | moveStep (task : Nat) (e : MoveEnv)
  | setMode (task : Nat) (port : Nat) (mode : PmMode) (persist : Bool) (e : SetModeEnv)
  | applySettings (task : Nat) (port : Nat) (stored : PmMode) (e : InitEnv)
  | release (task : Nat) (port : Nat)
  | boot (task : Nat)
  | bootPort (task : Nat) (stored : PmMode) (e : InitEnv)
  | setPortsFrozen (frozen : Bool)
  | display (port : Fin bridgesCount) (enabled : Bool)

def System.goto (s : System) (task : Nat) (pc : Pc) : System :=
  { s with tasks := Function.update s.tasks task pc }

def System.portSection (s : System) (task port : Nat)
    (body : Fin bridgesCount → State × EspErr × List Obs) : Option (System × List Obs) :=
  if s.tasks task = .idle then
    if h : port < bridgesCount then
      let r := body ⟨port, h⟩
      some ({ s with pm := r.1 }, r.2.2 ++ [.returned task r.2.1])
    else some (s, [.returned task espErrInvalidArg])
  else none

def System.finish (s : System) (task : Nat) : System := { s.goto task .idle with moveMutex := none }

def System.step (s : System) : Event → Option (System × List Obs)
  | .setCache t port enabled =>
    if s.tasks t = .idle then
      if h : port < bridgesCount then
        if s.moveMutex = none then
          let m : Move := { port := ⟨port, h⟩, enabled }
          some ({ s.goto t (.move m.firstStage m) with moveMutex := some t }, [])
        else none
      else some (s, [.returned t espErrInvalidArg])
    else none
  | .applyCacheSettings t =>
    if s.tasks t = .idle ∧ s.moveMutex = none then
      some ({ s.goto t .settings with moveMutex := some t }, [])
    else none
  | .planMove t e =>
    if s.tasks t = .settings then
      match s.pm.planMove e with
      | (some m, _, out) => some (s.goto t (.move m.firstStage m), out)
      | (none, err, out) => some (s.finish t, out ++ [.returned t err])
    else none
  | .moveStep t e =>
    match s.tasks t with
    | .move stage m =>
      match s.pm.moveStep e m stage with
      | (pm, some stage, m, out) => some ({ s.goto t (.move stage m) with pm }, out)
      | (pm, none, m, out) => some ({ s.finish t with pm }, out ++ [.returned t m.result])
    | _ => none
  | .setMode t port mode persist e =>
    s.portSection t port fun i => s.pm.portSetModeImpl i mode persist e
  | .applySettings t port stored e =>
    s.portSection t port fun i =>
      let r := s.pm.applySettings i stored e
      (r.1, r.2, [])
  | .release t port => s.portSection t port fun i => (s.pm.release i, espOk, [])
  | .boot t => if s.tasks t = .idle then some (s.goto t (.boot 0), []) else none
  | .bootPort t stored e =>
    match s.tasks t with
    | .boot i =>
      if h : i < bridgesCount then
        some ({ s.goto t (.boot (i + 1)) with pm := s.pm.bootPort ⟨i, h⟩ stored e }, [])
      else some (s.goto t .idle, [.returned t espOk])
    | _ => none
  | .setPortsFrozen frozen => some ({ s with pm := { s.pm with portsFrozen := frozen } }, [])
  | .display i enabled =>
    let p := s.pm.ports i
    let sniff :=
      if enabled then p.sniff.enable s.pm.sniffQueue reasonDisplay
      else p.sniff.disable reasonDisplay
    some ({ s with pm := s.pm.setPort i { p with sniff } }, [])

/-- The system from the state `port_manager_init_subsystems` leaves on. -/
def machine (want : Fin bridgesCount → Bool) (queue mutex : Bool) : Machine System Event Obs where
  init :=
    { pm := .initSubsystems want queue mutex
      tasks := fun _ => .idle
      moveMutex := none }
  step := System.step

/-! ## What the sections do

Rules for everything that closes a port and brings it up again, perhaps in two attempts: what holds
of the closed port and of each mode that comes up holds afterwards. -/

section Rules

variable {s : State} {i : Fin bridgesCount} {mode : PmMode} {P : State → Prop}

lemma State.orElse_rule {e : InitEnv} (hdown : P s)
    (hup : ∀ s', s.portInitMode i mode e = .ok s' → P s') :
    P (s.orElse (s.portInitMode i mode e)).1 := by
  cases hinit : s.portInitMode i mode e with
  | error err => exact hdown
  | ok s' => exact hup s' hinit

lemma State.portSetModeImpl_rule {persist : Bool} {e : SetModeEnv} (hrefused : P s)
    (hdown : P (s.portDeinitMode i))
    (hup : ∀ mode e s', (s.portDeinitMode i).portInitMode i mode e = .ok s' → P s') :
    P (s.portSetModeImpl i mode persist e).1 := by
  unfold portSetModeImpl
  split
  · exact hrefused
  cases hinit : (s.portDeinitMode i).portInitMode i mode e.init with
  | ok s' =>
    have hs' := hup mode e.init s' hinit
    simp only [hinit]
    split <;> exact hs'
  | error err =>
    simp only [hinit]
    split
    · exact hdown
    · -- back to the mode before, which may fail as well
      exact orElse_rule hdown fun s' => hup _ _ s'

end Rules

/-! ## Steps -/

def Event.port : Event → Option Nat
  | .setCache _ port _ | .setMode _ port .. | .applySettings _ port .. | .release _ port =>
    some port
  | .applyCacheSettings _ | .planMove .. | .moveStep .. | .boot _ | .bootPort .. | .setPortsFrozen _
  | .display .. => none

/-- The steps by their cases. -/
inductive System.Step (s : System) : Event → System → List Obs → Prop
  | noPort {e : Event} {t port : Nat} (he : e.port = some port) (hport : ¬ port < bridgesCount) :
      Step s e s [.returned t espErrInvalidArg]
  | setCache {t : Nat} {i : Fin bridgesCount} {enabled : Bool} {m : Move}
      (hidle : s.tasks t = .idle) (hfree : s.moveMutex = none)
      (hm : m = { port := i, enabled }) :
      Step s (.setCache t i enabled)
        { s.goto t (.move m.firstStage m) with moveMutex := some t } []
  | applyCacheSettings {t : Nat} (hidle : s.tasks t = .idle) (hfree : s.moveMutex = none) :
      Step s (.applyCacheSettings t) { s.goto t .settings with moveMutex := some t } []
  | planMove {t : Nat} {e : SettingsEnv} {m : Move} {err : EspErr} {out : List Obs}
      (hpc : s.tasks t = .settings) (hplan : s.pm.planMove e = (some m, err, out)) :
      Step s (.planMove t e) (s.goto t (.move m.firstStage m)) out
  | planNothing {t : Nat} {e : SettingsEnv} {err : EspErr} {out : List Obs}
      (hpc : s.tasks t = .settings) (hplan : s.pm.planMove e = (none, err, out)) :
      Step s (.planMove t e) (s.finish t) (out ++ [.returned t err])
  | moveStep {t : Nat} {e : MoveEnv} {stage stage' : Stage} {m m' : Move} {pm : State}
      {out : List Obs} (hpc : s.tasks t = .move stage m)
      (hmove : s.pm.moveStep e m stage = (pm, some stage', m', out)) :
      Step s (.moveStep t e) { s.goto t (.move stage' m') with pm } out
  | moveEnd {t : Nat} {e : MoveEnv} {stage : Stage} {m m' : Move} {pm : State} {out : List Obs}
      (hpc : s.tasks t = .move stage m)
      (hmove : s.pm.moveStep e m stage = (pm, none, m', out)) :
      Step s (.moveStep t e) { s.finish t with pm } (out ++ [.returned t m'.result])
  | setMode {t : Nat} (i : Fin bridgesCount) (mode : PmMode) (persist : Bool) (e : SetModeEnv) :
      Step s (.setMode t i mode persist e)
        { s with pm := (s.pm.portSetModeImpl i mode persist e).1 }
        ((s.pm.portSetModeImpl i mode persist e).2.2 ++
          [.returned t (s.pm.portSetModeImpl i mode persist e).2.1])
  | applySettings {t : Nat} (i : Fin bridgesCount) (stored : PmMode) (e : InitEnv) :
      Step s (.applySettings t i stored e) { s with pm := (s.pm.applySettings i stored e).1 }
        [.returned t (s.pm.applySettings i stored e).2]
  | release {t : Nat} (i : Fin bridgesCount) :
      Step s (.release t i) { s with pm := s.pm.release i } [.returned t espOk]
  | boot {t : Nat} (hidle : s.tasks t = .idle) : Step s (.boot t) (s.goto t (.boot 0)) []
  | bootPort {t : Nat} {i : Fin bridgesCount} (stored : PmMode) (e : InitEnv)
      (hpc : s.tasks t = .boot i) :
      Step s (.bootPort t stored e)
        { s.goto t (.boot (i + 1)) with pm := s.pm.bootPort i stored e } []
  | bootEnd {t i : Nat} {stored : PmMode} {e : InitEnv} (hpc : s.tasks t = .boot i)
      (hi : ¬ i < bridgesCount) :
      Step s (.bootPort t stored e) (s.goto t .idle) [.returned t espOk]
  | setPortsFrozen (frozen : Bool) :
      Step s (.setPortsFrozen frozen) { s with pm := { s.pm with portsFrozen := frozen } } []
  | display (i : Fin bridgesCount) (sniff : SniffCtx) (enabled : Bool)
      (hsniff : sniff = if enabled then (s.pm.ports i).sniff.enable s.pm.sniffQueue reasonDisplay
        else (s.pm.ports i).sniff.disable reasonDisplay) :
      Step s (.display i enabled) { s with pm := s.pm.setPort i { s.pm.ports i with sniff } } []

lemma System.Step.of_step {s s' : System} {e : Event} {out : List Obs}
    (h : s.step e = some (s', out)) : s.Step e s' out := by
  cases e <;> simp only [System.step, System.portSection] at h
  all_goals repeat' split at h
  all_goals cases h
  all_goals first
    | exact .noPort rfl ‹_›
    | exact .setCache (i := ⟨_, ‹_›⟩) ‹_› ‹_› rfl
    | exact .applyCacheSettings (And.left ‹_›) (And.right ‹_›)
    | exact .planMove ‹_› ‹_›
    | exact .planNothing ‹_› ‹_›
    | exact .moveStep ‹_› ‹_›
    | exact .moveEnd ‹_› ‹_›
    | exact .setMode ⟨_, ‹_›⟩ _ _ _
    | exact .applySettings ⟨_, ‹_›⟩ _ _
    | exact .release ⟨_, ‹_›⟩
    | exact .boot ‹_›
    | exact .bootPort (i := ⟨_, ‹_›⟩) _ _ ‹_›
    | exact .bootEnd ‹_› ‹_›
    | exact .setPortsFrozen _
    | exact .display _ _ _ (by simp [*])

end WbMge.PortManager
