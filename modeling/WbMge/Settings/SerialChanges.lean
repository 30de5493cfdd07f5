import WbMge.Settings.HandOver

/-!
# Changes of the serial parameters

A port in passive or repeater mode keeps a snapshot of the parameters of its serial line, to find
out later if they have changed in the storage. The parameters are read for the UART first and then
once more for the snapshot, each time one key after the other, while the task of the web server may
write any of them in between.

The machine interleaves the writes with the steps of one task at a time that brings the port up
under `pm_lock`. A port that runs has its UART open with the parameters of the snapshot, if none of
them is written from the first read for the UART to the last one for the snapshot:
`uart_of_not_changed`.
-/

namespace WbMge.Settings.SerialChanges

open Json (Text)
open PortManager (PmMode EspErr espOk)

/-! ## Reading one key after the other -/

/-- The settings that `read_serial_port_config` reads. -/
inductive SerialKey where
  | baudrate
  | parity
  | stopbits
  | databits
deriving Repr, DecidableEq

def SerialKey.key (p : Port) : SerialKey → Key
  | baudrate => .baudrate p
  | parity => .parity p
  | stopbits => .stopbits p
  | databits => .databits p

def serialKeys : List SerialKey := [.baudrate, .parity, .stopbits, .databits]

lemma mem_serialKeys (key : SerialKey) : key ∈ serialKeys := by cases key <;> decide

section Read

variable (f : Factory) (nvs : Nvs) (p : Port)

/-- One read of `read_serial_port_config`, with the configuration it writes over. -/
def readKey (c : SerialConfig) : SerialKey → SerialConfig × EspErr
  | .baudrate =>
    let baudrate := (settingItemsReadInt f nvs (.baudrate p) % 2 ^ 32).toNat
    ({ c with baudrate }, if baudrate = 0 then espFail else espOk)
  | .parity =>
    ({ c with
       parity := lookupStrToInt (settingItemsRead f nvs (.parity p))
        [("none".toList, .disable), ("even".toList, .even), ("odd".toList, .odd)] .disable }, espOk)
  | .stopbits =>
    ({ c with
       stopbits := lookupStrToInt (settingItemsRead f nvs (.stopbits p))
        [("1".toList, .one), ("1.5".toList, .onePointFive), ("2".toList, .two)] .two }, espOk)
  | .databits =>
    ({ c with
       databits := lookupStrToInt (settingItemsRead f nvs (.databits p))
        [("5".toList, .five), ("6".toList, .six), ("7".toList, .seven), ("8".toList, .eight)]
        .eight }, espOk)

def readKeys : List SerialKey → SerialConfig → SerialConfig × EspErr
  | [], c => (c, espOk)
  | k :: todo, c =>
    let r := readKey f nvs p c k
    if r.2 ≠ espOk then r else readKeys todo r.1

end Read

section Read

variable {f : Factory} {nvs : Nvs} {p : Port}

lemma readKeys_serialKeys (c : SerialConfig) :
    readKeys f nvs p serialKeys c = readSerialPortConfig f nvs p c := by
  by_cases hbaudrate : (settingItemsReadInt f nvs (.baudrate p) % 2 ^ 32).toNat = 0
  · simp only [serialKeys, readKeys, readKey, readSerialPortConfig, if_pos hbaudrate]
    exact if_pos (by decide)
  · simp only [serialKeys, readKeys, readKey, readSerialPortConfig, if_neg hbaudrate, ne_eq,
      not_true_eq_false, if_false]

lemma readKeys_of_ok {c cfg : SerialConfig} (h : readKeys f nvs p serialKeys c = (cfg, espOk))
    (c' : SerialConfig) : readKeys f nvs p serialKeys c' = (cfg, espOk) := by
  rw [readKeys_serialKeys, readSerialPortConfig] at h ⊢
  split at h
  · cases h
  · rename_i hbaudrate
    rw [if_neg hbaudrate]
    exact h

lemma readKey_congr {nvs' : Nvs} {key : SerialKey} (h : nvs' (key.key p) = nvs (key.key p))
    (c : SerialConfig) : readKey f nvs' p c key = readKey f nvs p c key := by
  cases key with
  | baudrate =>
    have hread :
        settingItemsReadInt f nvs' (.baudrate p) = settingItemsReadInt f nvs (.baudrate p) :=
      settingItemsReadInt_congr h
    simp only [readKey, hread]
  | parity =>
    have hread : settingItemsRead f nvs' (.parity p) = settingItemsRead f nvs (.parity p) :=
      settingItemsRead_congr h
    simp only [readKey, hread]
  | stopbits =>
    have hread : settingItemsRead f nvs' (.stopbits p) = settingItemsRead f nvs (.stopbits p) :=
      settingItemsRead_congr h
    simp only [readKey, hread]
  | databits =>
    have hread : settingItemsRead f nvs' (.databits p) = settingItemsRead f nvs (.databits p) :=
      settingItemsRead_congr h
    simp only [readKey, hread]

lemma readKeys_write {k : Key} (hk : ∀ key : SerialKey, key.key p ≠ k) (value : Text)
    (todo : List SerialKey) (c : SerialConfig) :
    readKeys f (nvs.write k value) p todo c = readKeys f nvs p todo c := by
  have hread (key : SerialKey) (c : SerialConfig) :
      readKey f (nvs.write k value) p c key = readKey f nvs p c key :=
    readKey_congr (Nvs.write_of_ne (hk key) nvs value) c
  induction todo generalizing c with
  | nil => rfl
  | cons key todo ih => simp only [readKeys, hread, ih]

end Read

/-! ## The system -/

structure BringUp where
  mode : PmMode
  persist : Bool
  prevMode : PmMode
deriving Repr, DecidableEq

/-- Where the task that holds `pm_lock` is. -/
inductive Pc where
  | idle
  /-- Before `port_init_mode`. -/
  | init (b : BringUp)
  | opening (b : BringUp) (todo : List SerialKey) (cfg : SerialConfig)
  | snapshot (b : BringUp) (todo : List SerialKey)
deriving Repr, DecidableEq

/-- One port and the settings in storage. -/
structure State where
  nvs : Nvs
  device : Device
  /-- The parameters of the UART behind `pm_ctx[p].serial_desc`, while it is open. -/
  uart : Option SerialConfig
  pc : Pc

inductive Call where
  | applySettings
  | setMode (mode : PmMode)
  | boot
deriving Repr, DecidableEq

inductive Event where
  | write (k : Key) (value : Text)
  | call (c : Call)
  | step (e : UpdateEnv) (saveOk : Bool)

namespace State

variable (inet : Inet) (f : Factory) (p : Port) (s : State)

/-- `port_deinit_mode`, and on to `port_init_mode`. -/
def reinit (b : BringUp) : State :=
  { s with device := s.device.portDeinitMode p, uart := none, pc := .init b }

/-- The beginning of a call, up to `port_init_mode`. -/
def call : Call → State
  | .applySettings =>
    if s.device.pm.portsFrozen then s
    else s.reinit p ⟨readPortModeFromNvs f s.nvs p, false, .disabled⟩
  | .setMode mode =>
    if s.device.pm.portsFrozen then s else s.reinit p ⟨mode, true, (s.device.pm.ports p).mode⟩
  | .boot =>
    if s.device.pm.portsFrozen then s
    else if (s.device.pm.ports p).mode ≠ .disabled then s
    else { s with pc := .init ⟨readPortModeFromNvs f s.nvs p, false, .disabled⟩ }

def succeed (b : BringUp) (saveOk : Bool) : State :=
  { s with
    nvs := if b.persist && saveOk then s.nvs.write (.portMode p) (modeToStr b.mode) else s.nvs
    pc := .idle }

def fail (b : BringUp) : State :=
  { s with pc := if b.prevMode = .disabled then .idle else .init ⟨b.prevMode, false, .disabled⟩ }

/-- The next part of `port_init_mode`. -/
def initStep (e : UpdateEnv) (saveOk : Bool) : Option State :=
  match s.pc with
  | .idle => none
  | .init b =>
    match b.mode with
    | .passive | .repeater => some { s with pc := .opening b serialKeys .zero }
    | mode =>
      -- no UART of the port manager's own
      let r := s.device.portInitMode inet f s.nvs e p mode
      let s := { s with device := r.1 }
      some (if r.2 = espOk then s.succeed p b saveOk else s.fail b)
  | .opening b (k :: todo) cfg =>
    let r := readKey f s.nvs p cfg k
    some (if r.2 ≠ espOk then s.fail b else { s with pc := .opening b todo r.1 })
  | .opening b [] cfg =>
    some (if e.transportErr p ≠ espOk then s.fail b
      else { s with uart := some cfg, pc := .snapshot b serialKeys })
  | .snapshot b (k :: todo) =>
    let r := readKey f s.nvs p (s.device.serialCfgAtInit p) k
    -- an error is not looked at
    some { s with
      device := { s.device with
        serialCfgAtInit := Function.update s.device.serialCfgAtInit p r.1 }
      pc := .snapshot b (if r.2 ≠ espOk then [] else todo) }
  | .snapshot b [] =>
    let r := s.device.openMode e p b.mode espOk espOk (s.device.serialCfgAtInit p)
    some ({ s with device := r.1 }.succeed p b saveOk)

/-- One step of the system. Only one task holds `pm_lock`. -/
def step : Event → Option (State × List Empty)
  | .write k value => some ({ s with nvs := s.nvs.write k value }, [])
  | .call c => if s.pc = .idle then some (s.call f p c, []) else none
  | .step e saveOk => (s.initStep inet f p e saveOk).map fun s => (s, [])

end State

def machine (inet : Inet) (f : Factory) (p : Port) (nvs : Nvs) (device : Device) :
    Machine State Event Empty where
  init := { nvs, device, uart := none, pc := .idle }
  step := State.step inet f p

def Runs (d : Device) (p : Port) : Prop :=
  (d.pm.ports p).mode = .passive ∨ (d.pm.ports p).mode = .repeater

def Pc.isReading : Pc → Bool
  | opening _ todo _ => todo ≠ serialKeys
  | snapshot _ todo => todo ≠ []
  | idle | init _ => false

/-- No serial setting is written while the settings are being read. -/
def Undisturbed (p : Port) (_ : List Empty) (s : State) : Event → Prop
  | .write k _ => k ∈ serialKeys.map (SerialKey.key p) → s.pc.isReading = false
  | .call _ | .step .. => True

instance (p : Port) (log : List Empty) (s : State) (ev : Event) :
    Decidable (Undisturbed p log s ev) := by
  unfold Undisturbed
  split <;> infer_instance

/-! ## What holds along a run -/

section Run

variable {inet : Inet} {f : Factory} {p : Port} {s s' : State} {b : BringUp} {e : UpdateEnv}

/-- What is known at each point. Completing the reads that are left, without further writes, gives
the parameters of the UART. -/
def Coherent (f : Factory) (p : Port) (s : State) : Prop :=
  match s.pc with
  | .idle => Runs s.device p → s.uart = some (s.device.serialCfgAtInit p)
  | .init _ => ¬ Runs s.device p
  | .opening _ todo cfg =>
    ¬ Runs s.device p ∧ ∃ c, readKeys f s.nvs p todo cfg = readKeys f s.nvs p serialKeys c
  | .snapshot _ todo =>
    ¬ Runs s.device p ∧ ∃ cfg, s.uart = some cfg ∧
      readKeys f s.nvs p todo (s.device.serialCfgAtInit p) = (cfg, espOk)

variable {d : Device} {nvs : Nvs}

lemma not_runs_of_disabled (h : (d.pm.ports p).mode = .disabled) : ¬ Runs d p := by
  rw [Runs, h]
  simp

lemma not_runs_portInitMode {mode : PmMode} (hpassive : mode ≠ .passive)
    (hrepeater : mode ≠ .repeater) (h : ¬ Runs d p) :
    ¬ Runs (d.portInitMode inet f nvs e p mode).1 p := by
  have hopen (d' : Device) (transportErr : EspErr) (hpm : d'.pm = d.pm) :
      ¬ Runs (d'.openMode e p mode espOk transportErr (d.serialCfgAtInit p)).1 p := by
    rcases Device.openMode_cases d' with heq | ⟨pm, cfgs, hinit, heq⟩
    · rw [heq, Runs, hpm]
      exact h
    · rw [heq, Runs, (PortManager.State.mode_of_portInitMode_ok hinit).1]
      exact not_or.2 ⟨hpassive, hrepeater⟩
  cases mode with
  | tcpBridge => exact hopen _ _ (Device.pm_bridgePortInit inet f nvs e d p)
  | passive => exact absurd rfl hpassive
  | repeater => exact absurd rfl hrepeater
  | disabled | unknown => exact hopen d espOk rfl

lemma coherent_fail (h : ¬ Runs s.device p) : Coherent f p (s.fail b) := by
  rw [State.fail]
  split
  · exact fun hruns => absurd hruns h
  · exact h

lemma coherent_succeed (h : Runs s.device p → s.uart = some (s.device.serialCfgAtInit p))
    (saveOk : Bool) : Coherent f p (s.succeed p b saveOk) := h

lemma Coherent.write (h : Coherent f p s) {k : Key} {value : Text}
    (hk : ∀ key : SerialKey, key.key p = k → s.pc.isReading = false) :
    Coherent f p { s with nvs := s.nvs.write k value } := by
  by_cases hother : ∀ key : SerialKey, key.key p ≠ k
  · -- the reads do not see it
    unfold Coherent at h ⊢
    simp only [readKeys_write hother]
    exact h
  · obtain ⟨key, hkey⟩ := not_forall.1 hother
    have hreading := hk key (not_not.1 hkey)
    unfold Coherent at h ⊢
    cases hpc : s.pc with
    | idle | init b =>
      rw [hpc] at h
      exact h
    | opening b todo cfg =>
      rw [hpc] at h hreading
      -- the first read is still to come, and sees the new value
      obtain rfl : todo = serialKeys := by simpa [Pc.isReading] using hreading
      exact ⟨h.1, cfg, rfl⟩
    | snapshot b todo =>
      rw [hpc] at h hreading
      -- the last read is over, and the change will be found
      obtain rfl : todo = [] := by simpa [Pc.isReading] using hreading
      exact h

lemma State.call_cases (f : Factory) (p : Port) (s : State) (c : Call) :
    s.call f p c = s ∨ (∃ b, s.call f p c = s.reinit p b) ∨
      (s.device.pm.ports p).mode = .disabled ∧ ∃ b, s.call f p c = { s with pc := .init b } := by
  cases c with
  | applySettings | setMode mode =>
    rw [State.call]
    split
    · exact .inl rfl
    · exact .inr (.inl ⟨_, rfl⟩)
  | boot =>
    rw [State.call]
    split
    · exact .inl rfl
    split
    · exact .inl rfl
    · -- a port that something else has brought up is left as it is
      rename_i hmode
      exact .inr (.inr ⟨not_not.1 hmode, _, rfl⟩)

lemma Coherent.call (h : Coherent f p s) (c : Call) : Coherent f p (s.call f p c) := by
  obtain heq | ⟨b, heq⟩ | ⟨hmode, b, heq⟩ := s.call_cases f p c
  · rw [heq]
    exact h
  · rw [heq]
    exact not_runs_of_disabled (Device.mode_portDeinitMode s.device p)
  · rw [heq]
    exact not_runs_of_disabled hmode

lemma readKeys_cons {k : SerialKey} {todo : List SerialKey} {c : SerialConfig}
    (h : (readKey f nvs p c k).2 = espOk) :
    readKeys f nvs p (k :: todo) c = readKeys f nvs p todo (readKey f nvs p c k).1 := by
  rw [readKeys, if_neg (not_not.2 h)]

lemma readKeys_cons_eq_ok {k : SerialKey} {todo : List SerialKey} {c cfg : SerialConfig}
    (h : readKeys f nvs p (k :: todo) c = (cfg, espOk)) :
    (readKey f nvs p c k).2 = espOk ∧
      readKeys f nvs p todo (readKey f nvs p c k).1 = (cfg, espOk) := by
  have hok : (readKey f nvs p c k).2 = espOk := by
    by_contra hfail
    rw [readKeys, if_pos hfail] at h
    exact hfail (congrArg Prod.snd h)
  rw [readKeys_cons hok] at h
  exact ⟨hok, h⟩

lemma serialCfgAtInit_openMode (d : Device) (mode : PmMode) :
    (d.openMode e p mode espOk espOk (d.serialCfgAtInit p)).1.serialCfgAtInit =
      d.serialCfgAtInit := by
  rw [Device.openMode]
  split
  · exact Function.update_eq_self p d.serialCfgAtInit
  · rfl

lemma Coherent.initStep (h : Coherent f p s) {saveOk : Bool}
    (hstep : s.initStep inet f p e saveOk = some s') : Coherent f p s' := by
  unfold Coherent at h
  rw [State.initStep] at hstep
  split at hstep
  · cases hstep
  · -- before `port_init_mode`
    rename_i b hpc
    rw [hpc] at h
    split at hstep
    · cases hstep
      exact ⟨h, .zero, rfl⟩
    · cases hstep
      exact ⟨h, .zero, rfl⟩
    · rename_i hpassive hrepeater
      have hruns : ¬ Runs (s.device.portInitMode inet f s.nvs e p b.mode).1 p :=
        not_runs_portInitMode hpassive hrepeater h
      cases hstep
      split
      · exact coherent_succeed (fun hruns' => absurd hruns' hruns) saveOk
      · exact coherent_fail hruns
  · -- a read for the UART
    rename_i b k todo cfg hpc
    rw [hpc] at h
    obtain ⟨hruns, c, hread⟩ := h
    cases hstep
    split
    · exact coherent_fail hruns
    · rename_i hok
      rw [readKeys_cons (not_not.1 hok)] at hread
      exact ⟨hruns, c, hread⟩
  · -- the UART is opened, with the parameters that are stored
    rename_i b cfg hpc
    rw [hpc] at h
    obtain ⟨hruns, c, hread⟩ := h
    cases hstep
    split
    · exact coherent_fail hruns
    · exact ⟨hruns, cfg, rfl, readKeys_of_ok hread.symm _⟩
  · -- a read for the snapshot
    rename_i b k todo hpc
    rw [hpc] at h
    obtain ⟨hruns, cfg, huart, hread⟩ := h
    obtain ⟨hok, hread'⟩ := readKeys_cons_eq_ok hread
    cases hstep
    rw [if_neg (not_not.2 hok)]
    refine ⟨hruns, cfg, huart, ?_⟩
    show readKeys f s.nvs p todo (Function.update s.device.serialCfgAtInit p _ p) = (cfg, espOk)
    rw [Function.update_self]
    exact hread'
  · -- the snapshot is complete, and the mode is set
    rename_i b hpc
    rw [hpc] at h
    obtain ⟨-, cfg, huart, hread⟩ := h
    cases hstep
    refine coherent_succeed (fun _ => ?_) saveOk
    rw [serialCfgAtInit_openMode, huart]
    exact congrArg some (congrArg Prod.fst hread).symm

lemma frozen_call (c : Call) :
    (s.call f p c).device.pm.portsFrozen = s.device.pm.portsFrozen := by
  obtain heq | ⟨b, heq⟩ | ⟨-, b, heq⟩ := s.call_cases f p c
  · rw [heq]
  · rw [heq]
    exact (Device.only_portDeinitMode s.device p).frozen
  · rw [heq]

lemma frozen_initStep {saveOk : Bool} (hstep : s.initStep inet f p e saveOk = some s') :
    s'.device.pm.portsFrozen = s.device.pm.portsFrozen := by
  rw [State.initStep] at hstep
  repeat' split at hstep
  all_goals cases hstep
  all_goals repeat' split
  all_goals first
    | rfl
    | exact (Device.only_portInitMode inet f s.nvs e s.device p _).frozen
    | exact (Device.only_openMode _).frozen

structure Inv (f : Factory) (p : Port) (s : State) : Prop where
  coherent : Coherent f p s
  frozen : s.device.pm.portsFrozen = false

lemma Inv.step (h : Inv f p s) {log : List Empty} {ev : Event} {out : List Empty}
    (hok : Undisturbed p log s ev) (hstep : s.step inet f p ev = some (s', out)) :
    Inv f p s' := by
  cases ev with
  | write k value =>
    obtain rfl : _ = s' := congrArg Prod.fst (Option.some.inj hstep)
    refine ⟨h.coherent.write fun key hkey => hok ?_, h.frozen⟩
    exact List.mem_map.2 ⟨key, mem_serialKeys key, hkey⟩
  | call c =>
    rw [State.step] at hstep
    split at hstep
    · obtain rfl : _ = s' := congrArg Prod.fst (Option.some.inj hstep)
      exact ⟨h.coherent.call c, (frozen_call c).trans h.frozen⟩
    · cases hstep
  | step e saveOk =>
    obtain ⟨s'', hinit, heq⟩ := Option.map_eq_some_iff.1 hstep
    obtain rfl : s'' = s' := congrArg Prod.fst heq
    exact ⟨h.coherent.initStep hinit, (frozen_initStep hinit).trans h.frozen⟩

lemma serialCfgAtInit_of_not_changed (hruns : Runs d p)
    (h : d.portSettingsChangedLocked inet f nvs p = false) :
    (readSerialPortConfig f nvs p .zero).2 = espOk ∧
      d.serialCfgAtInit p = (readSerialPortConfig f nvs p .zero).1 := by
  have hcompare : (if (readSerialPortConfig f nvs p .zero).2 ≠ espOk then true
      else decide (d.serialCfgAtInit p ≠ (readSerialPortConfig f nvs p .zero).1)) = false := by
    simp only [Device.portSettingsChangedLocked] at h
    split at h
    · cases h
    rcases hruns with hmode | hmode
    · rw [hmode] at h
      exact h
    · rw [hmode] at h
      exact h
  split at hcompare
  · cases hcompare
  · rename_i hok
    exact ⟨not_not.1 hok, not_not.1 (of_decide_eq_false hcompare)⟩

end Run

/-- A change of the serial parameters is noticed. Whenever a port runs in passive or repeater mode,
with `pm_lock` free, and is not found changed, its UART is open with the parameters that are stored.
None of them is written from the first read for the UART to the last one for the snapshot. -/
theorem uart_of_not_changed (inet : Inet) (f : Factory) (p : Port) (nvs : Nvs) {device : Device}
    (hclosed : (device.pm.ports p).mode = .disabled) (hfrozen : device.pm.portsFrozen = false)
    {log : List Empty} {s : State}
    (hrun : (machine inet f p nvs device).Run (Undisturbed p) log s) (hidle : s.pc = .idle)
    (hruns : (s.device.pm.ports p).mode = .passive ∨ (s.device.pm.ports p).mode = .repeater)
    (hcheck : s.device.portManagerCheckSettingsChanged inet f s.nvs p = false) :
    (readSerialPortConfig f s.nvs p .zero).2 = espOk ∧
      s.uart = some (readSerialPortConfig f s.nvs p .zero).1 := by
  have hinv : Inv f p s := by
    apply Machine.Run.invariant (P := fun _ => Inv f p) ?_ ?_ hrun
    · exact ⟨fun hruns => absurd hruns (not_runs_of_disabled hclosed), hfrozen⟩
    · exact fun _ h hok hstep => h.step hok hstep
  have huart : s.uart = some (s.device.serialCfgAtInit p) := by
    have hcoherent := hinv.coherent
    rw [Coherent, hidle] at hcoherent
    exact hcoherent hruns
  -- the comparison found the snapshot to be what is stored
  have hsame : (readSerialPortConfig f s.nvs p .zero).2 = espOk ∧
      s.device.serialCfgAtInit p = (readSerialPortConfig f s.nvs p .zero).1 := by
    rw [Device.portManagerCheckSettingsChanged, hinv.frozen, if_neg Bool.false_ne_true] at hcheck
    exact serialCfgAtInit_of_not_changed hruns hcheck
  rw [huart, hsame.2]
  exact ⟨hsame.1, rfl⟩

def passiveNvs : Nvs :=
  Nvs.write (fun _ => none) (.portMode 0) portModePassive

/-- A step of `port_init_mode` that meets no error. -/
def quietStep : Event := .step ⟨fun _ => espOk, espOk, espOk, ⟨0, true⟩⟩ true

def writeBefore : List Event :=
  [.write (.baudrate 0) "115200".toList, .call .boot] ++
    List.replicate 11 quietStep

def writeBetween : List Event :=
  .call .boot :: List.replicate 6 quietStep ++
    [.write (.baudrate 0) "115200".toList] ++
    List.replicate 5 quietStep

theorem uart_of_not_changed_writeBefore :
    ∃ log s, (machine strictInet ⟨none, none⟩ 0 passiveNvs closedDevice).Run
        (Undisturbed 0) log s ∧
      s.uart = some (readSerialPortConfig ⟨none, none⟩ s.nvs 0 .zero).1 := by
  obtain ⟨log, s, hrun, hidle, hmode, hcheck⟩ := Machine.Run.exists_of_exec
    (machine strictInet ⟨none, none⟩ 0 passiveNvs closedDevice)
    (Undisturbed 0) writeBefore (fun _ s => s.pc = .idle ∧
      (s.device.pm.ports 0).mode = .passive ∧
      s.device.portManagerCheckSettingsChanged strictInet ⟨none, none⟩ s.nvs 0 = false)
    (by decide +kernel)
  exact ⟨log, s, hrun, (uart_of_not_changed strictInet ⟨none, none⟩ 0 passiveNvs rfl
    rfl hrun hidle (.inl hmode) hcheck).2⟩

/-- The UART has the old baud rate, and the port is not found changed. -/
theorem unnoticed_writeBetween :
    ∃ log s, (machine strictInet ⟨none, none⟩ 0 passiveNvs closedDevice).Run
        Machine.anyStep log s ∧
      s.pc = .idle ∧ (s.device.pm.ports 0).mode = .passive ∧
      s.device.portManagerCheckSettingsChanged strictInet ⟨none, none⟩ s.nvs 0 =
        false ∧
      s.uart.map (·.baudrate) = some 9600 ∧
      (readSerialPortConfig ⟨none, none⟩ s.nvs 0 .zero).1.baudrate = 115200 := by
  obtain ⟨log, s, hrun, h⟩ := Machine.Run.exists_of_exec
    (machine strictInet ⟨none, none⟩ 0 passiveNvs closedDevice) Machine.anyStep
    writeBetween (fun log s => s.pc = .idle ∧
      (s.device.pm.ports 0).mode = .passive ∧
      s.device.portManagerCheckSettingsChanged strictInet ⟨none, none⟩ s.nvs 0 =
        false ∧
      s.uart.map (·.baudrate) = some 9600 ∧
      (readSerialPortConfig ⟨none, none⟩ s.nvs 0 .zero).1.baudrate = 115200)
    (by decide +kernel)
  exact ⟨log, s, hrun, h⟩

end WbMge.Settings.SerialChanges
