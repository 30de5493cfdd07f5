import WbMge.ToMathlib.Machine
import WbMge.Device.Ticks

/-!
# The supply of the bus

`voltage_monitor` watches the supply of the device and tells `rs485_bus_vout_set_allowed` whether
the bus may be powered from it. It takes the power away at once and gives it back after a delay.
What the exponential filter computes is the voltage of a sample here, and may be anything.

The delay is the business of `sys_voltage_prot_engine`, which begins with the first sample and not
with the reading of `voltage_monitor_init`. If the supply is in order by then, the engine begins
with the power given, although it had been taken away.
-/

namespace WbMge.VoltageMonitor

/-! ## The model -/

/-- A voltage as comparisons of `float` see it. There is none if it is not a number. -/
abbrev Volts := Option Rat

def sysVoltageMinOk : Rat := 8
def sysVoltageMinFail : Rat := 15 / 2
def sysVoltageMaxOk : Rat := 28
def sysVoltageMaxFail : Rat := 29
def sysVoltageProtReleaseDelayMs : Nat := 2000

/-- The voltage is one that ends an undervoltage or an overvoltage. -/
def InBounds (v : Volts) : Prop := ∃ x ∈ v, sysVoltageMinOk ≤ x ∧ x ≤ sysVoltageMaxOk
deriving Decidable

def checkSysVoltageBounds (sysVoltage : Volts) (okState : Bool) : Bool :=
  if okState then
    if sysVoltage.any (· < sysVoltageMinFail) || sysVoltage.any (sysVoltageMaxFail < ·) then false
    else okState
  else
    if sysVoltage.any (sysVoltageMinOk ≤ ·) && sysVoltage.any (· ≤ sysVoltageMaxOk) then true
    else okState

/-- The state of `sys_voltage_prot_engine`. -/
structure ProtEngine where
  initialized : Bool
  protState : Bool
  releaseWait : Bool
  timeStamp : UInt32
deriving Repr, DecidableEq

/-- `sys_voltage_prot_engine`, with the value of `xTaskGetTickCount`. It returns `protState`. -/
def ProtEngine.sysVoltageProtEngine (e : ProtEngine) (boundsOk : Bool) (tickCount : UInt32) :
    ProtEngine :=
  let e := if e.initialized then e else
    { initialized := true, protState := boundsOk, releaseWait := false, timeStamp := tickCount }
  if !boundsOk then { e with protState := false, releaseWait := false }
  else if !e.protState then
    if !e.releaseWait then { e with timeStamp := tickCount, releaseWait := true }
    else if pdMsToTicks sysVoltageProtReleaseDelayMs ≤ tickCount - e.timeStamp then
      { e with protState := true, releaseWait := false }
    else e
  else e

/-- The statics of the voltage monitor. -/
structure State where
  sysVoltage : Volts
  sysVoltageIsOk : Bool
  engine : ProtEngine
  /-- `voltage_monitor_task` runs. -/
  taskHandle : Bool
deriving Repr, DecidableEq

/-- What is sampled and decided. -/
inductive Obs where
  | sample (sysVoltage : Volts) (now : Nat)
  | voutSetAllowed (allowed : Bool)
deriving Repr, DecidableEq

/-- How the calls of `voltage_monitor_init` end. -/
structure InitEnv where
  systemVoltageInitOk : Bool
  mutexOk : Bool
  taskOk : Bool
deriving Repr, DecidableEq

inductive Event where
  | init (e : InitEnv) (sysVoltage : Volts)
  | sample (sysVoltage : Volts) (now : Nat)
deriving Repr, DecidableEq

namespace State

def sysVoltageEventCallback (isOk : Bool) : List Obs := [.voutSetAllowed isOk]

def voltageMonitorInit (s : State) (e : InitEnv) (sysVoltage : Volts) : State × List Obs :=
  if s.taskHandle then (s, [])
  else if !e.systemVoltageInitOk then (s, [])
  else if !e.mutexOk then (s, [])
  else
    let isOk := checkSysVoltageBounds sysVoltage false
    let out := if !isOk then sysVoltageEventCallback isOk else []
    ({ s with sysVoltage, sysVoltageIsOk := isOk, taskHandle := e.taskOk }, out)

/-- The loop body of `voltage_monitor_task`. -/
def voltageMonitorTask (s : State) (sysVoltage : Volts) (now : Nat) : State × List Obs :=
  let boundsOk := checkSysVoltageBounds sysVoltage s.sysVoltageIsOk
  let engine := s.engine.sysVoltageProtEngine boundsOk (UInt32.ofNat now)
  let out := if s.sysVoltageIsOk ≠ engine.protState then sysVoltageEventCallback engine.protState
    else []
  ({ s with sysVoltage, sysVoltageIsOk := engine.protState, engine },
    .sample sysVoltage now :: out)

def step (s : State) : Event → Option (State × List Obs)
  | .init e sysVoltage => some (s.voltageMonitorInit e sysVoltage)
  | .sample sysVoltage now =>
    if s.taskHandle then some (s.voltageMonitorTask sysVoltage now) else none

end State

def machine : Machine State Event Obs where
  init := ⟨some 0, false, ⟨false, false, false, 0⟩, false⟩
  step := State.step

/-! ## Histories -/

def samples (log : List Obs) : List (Volts × Nat) :=
  log.filterMap fun
    | .sample sysVoltage now => some (sysVoltage, now)
    | .voutSetAllowed _ => none

@[simp] lemma samples_append (log log' : List Obs) :
    samples (log ++ log') = samples log ++ samples log' := List.filterMap_append

@[simp] lemma samples_sample (sysVoltage : Volts) (now : Nat) (log : List Obs) :
    samples (.sample sysVoltage now :: log) = (sysVoltage, now) :: samples log := rfl

@[simp] lemma samples_voutSetAllowed (allowed : Bool) (log : List Obs) :
    samples (.voutSetAllowed allowed :: log) = samples log := rfl

@[simp] lemma samples_nil : samples [] = [] := rfl

/-- The last samples of the log, over at least the release delay, are all in bounds. -/
def StableSupply (log : List Obs) : Prop :=
  ∃ before first mid last, samples log = before ++ first :: (mid ++ [last]) ∧
    (∀ x ∈ first :: (mid ++ [last]), InBounds x.1) ∧
    sysVoltageProtReleaseDelayMs * configTickRateHz ≤ (last.2 - first.2) * 1000

/-- The ticks of the samples do not go back. -/
def TicksInOrder (log : List Obs) (_ : State) : Event → Prop
  | .init _ _ => True
  | .sample _ now => ∀ x ∈ samples log, x.2 ≤ now

/-- The ticks do not go back, and a supply that `voltage_monitor_init` has found out of order is so
at the first sample as well. -/
def OutAtFirstSample (log : List Obs) (s : State) : Event → Prop
  | .init _ _ => True
  | .sample sysVoltage now => (∀ x ∈ samples log, x.2 ≤ now) ∧
      (s.engine.initialized = false → s.sysVoltageIsOk = false → ¬ InBounds sysVoltage)

instance (log : List Obs) (s : State) (e : Event) : Decidable (TicksInOrder log s e) := by
  unfold TicksInOrder
  split <;> infer_instance

instance (log : List Obs) (s : State) (e : Event) : Decidable (OutAtFirstSample log s e) := by
  unfold OutAtFirstSample
  split <;> infer_instance

/-! ## One sample -/

section Engine

variable {e : ProtEngine} {v : Volts} {tickCount : UInt32}

lemma checkSysVoltageBounds_false : checkSysVoltageBounds v false = true ↔ InBounds v := by
  cases v with
  | none | some x => simp [checkSysVoltageBounds, InBounds]

inductive ProtEngine.Turn (e : ProtEngine) (boundsOk : Bool) (tickCount : UInt32) :
    ProtEngine → Prop
  | first (timeStamp : UInt32) : e.initialized = false →
      Turn e boundsOk tickCount ⟨true, boundsOk, false, timeStamp⟩
  | fail : e.initialized = true → boundsOk = false →
      Turn e boundsOk tickCount { e with protState := false, releaseWait := false }
  | hold : e.initialized = true → boundsOk = true → e.protState = true →
      Turn e boundsOk tickCount e
  | begin : e.initialized = true → boundsOk = true → e.protState = false → e.releaseWait = false →
      Turn e boundsOk tickCount { e with timeStamp := tickCount, releaseWait := true }
  | wait : e.initialized = true → boundsOk = true → e.protState = false → e.releaseWait = true →
      Turn e boundsOk tickCount e
  | release : e.initialized = true → boundsOk = true → e.protState = false →
      e.releaseWait = true →
      pdMsToTicks sysVoltageProtReleaseDelayMs ≤ tickCount - e.timeStamp →
      Turn e boundsOk tickCount { e with protState := true, releaseWait := false }

lemma ProtEngine.Turn.of_sysVoltageProtEngine (e : ProtEngine) (boundsOk : Bool)
    (tickCount : UInt32) :
    Turn e boundsOk tickCount (e.sysVoltageProtEngine boundsOk tickCount) := by
  obtain ⟨initialized, protState, releaseWait, timeStamp⟩ := e
  cases initialized with
  | false =>
    cases boundsOk with
    | false | true => exact .first tickCount rfl
  | true =>
    cases boundsOk with
    | false => exact .fail rfl rfl
    | true =>
      cases protState with
      | true => exact .hold rfl rfl rfl
      | false =>
        cases releaseWait with
        | false => exact .begin rfl rfl rfl rfl
        | true =>
          by_cases hdelay : pdMsToTicks sysVoltageProtReleaseDelayMs ≤ tickCount - timeStamp
          · have hrelease : sysVoltageProtEngine ⟨true, false, true, timeStamp⟩ true tickCount =
                ⟨true, true, false, timeStamp⟩ := by
              simp [sysVoltageProtEngine, hdelay]
            rw [hrelease]
            exact .release rfl rfl rfl rfl hdelay
          · have hwait : sysVoltageProtEngine ⟨true, false, true, timeStamp⟩ true tickCount =
                ⟨true, false, true, timeStamp⟩ := by
              simp [sysVoltageProtEngine, hdelay]
            rw [hwait]
            exact .wait rfl rfl rfl rfl

end Engine

/-! ## All samples -/

def Waits (taken : List (Volts × Nat)) (e : ProtEngine) : Prop :=
  e.protState = false ∧ ∃ before first rest, taken = before ++ first :: rest ∧
    (∀ x ∈ first :: rest, InBounds x.1) ∧ e.timeStamp = UInt32.ofNat first.2

structure Inv (log : List Obs) (s : State) : Prop where
  allowed : Entries (fun earlier o => o = .voutSetAllowed true → StableSupply earlier) log
  isOk : s.engine.initialized = true → s.sysVoltageIsOk = s.engine.protState
  wait : s.engine.releaseWait = true → Waits (samples log) s.engine
  start : s.engine.initialized = false → s.engine.releaseWait = false
  task : s.engine.initialized = true → s.taskHandle = true

section Inv

variable {log out : List Obs} {s s' : State} {v : Volts} {now : Nat}

lemma Inv.init : Inv [] machine.init where
  allowed := .nil
  isOk h := by cases h
  wait h := by cases h
  start _ := rfl
  task h := by cases h

lemma Inv.voltageMonitorInit (h : Inv log s) (e : InitEnv) (v : Volts) :
    Inv (log ++ (s.voltageMonitorInit e v).2) (s.voltageMonitorInit e v).1 := by
  unfold State.voltageMonitorInit
  split
  · rwa [List.append_nil]
  split
  · rwa [List.append_nil]
  split
  · rwa [List.append_nil]
  · rename_i htask _ _
    have hstart : s.engine.initialized = false := Bool.eq_false_iff.2 fun hinit =>
      htask (h.task hinit)
    have hwait : s.engine.releaseWait = false := h.start hstart
    refine ⟨?_, fun hinit => ?_, fun hw => ?_, h.start, fun hinit => ?_⟩
    · dsimp only
      split
      · rename_i hfail
        refine h.allowed.concat fun hallowed => ?_
        rw [Obs.voutSetAllowed.injEq] at hallowed
        simp [hallowed] at hfail
      · rw [List.append_nil]
        exact h.allowed
    · exact absurd hinit (Bool.eq_false_iff.1 hstart)
    · exact absurd hw (Bool.eq_false_iff.1 hwait)
    · exact absurd hinit (Bool.eq_false_iff.1 hstart)

lemma Inv.turn (h : Inv log s) (hok : OutAtFirstSample log s (.sample v now)) {e : ProtEngine}
    (hturn : s.engine.Turn (checkSysVoltageBounds v s.sysVoltageIsOk) (UInt32.ofNat now) e) :
    e.initialized = true ∧
      (e.protState = true → s.sysVoltageIsOk = false → StableSupply (log ++ [.sample v now])) ∧
      (e.releaseWait = true → Waits (samples log ++ [(v, now)]) e) := by
  obtain ⟨hticks, hfirst⟩ := hok
  -- without power, a sample that passes is in bounds
  have hbounds (hpass : checkSysVoltageBounds v s.sysVoltageIsOk = true)
      (hoff : s.sysVoltageIsOk = false) : InBounds v := by
    rw [hoff] at hpass
    exact checkSysVoltageBounds_false.1 hpass
  cases hturn with
  | first timeStamp hinit =>
    refine ⟨rfl, fun hpass hoff => ?_, fun hwait => absurd hwait Bool.false_ne_true⟩
    exact absurd (hbounds hpass hoff) (hfirst hinit hoff)
  | fail hinit hfail =>
    exact ⟨hinit, fun hprot => absurd hprot Bool.false_ne_true,
      fun hwait => absurd hwait Bool.false_ne_true⟩
  | hold hinit hpass hprot =>
    have hisOk := h.isOk hinit
    refine ⟨hinit, fun _ hoff => ?_, fun hwait => ?_⟩
    · rw [hisOk, hprot] at hoff
      cases hoff
    · rw [(h.wait hwait).1] at hprot
      cases hprot
  | begin hinit hpass hprot hwait =>
    have hin : InBounds v := hbounds hpass ((h.isOk hinit).trans hprot)
    refine ⟨hinit, fun hprot' => ?_, fun _ => ⟨hprot, samples log, (v, now), [], rfl, ?_, rfl⟩⟩
    · rw [hprot] at hprot'
      cases hprot'
    · simpa using hin
  | wait hinit hpass hprot hwait =>
    have hin : InBounds v := hbounds hpass ((h.isOk hinit).trans hprot)
    obtain ⟨-, before, first, rest, hsamples, hall, hstamp⟩ := h.wait hwait
    refine ⟨hinit, fun hprot' => ?_, fun _ => ⟨hprot, before, first, rest ++ [(v, now)], ?_, ?_,
      hstamp⟩⟩
    · rw [hprot] at hprot'
      cases hprot'
    · rw [hsamples]
      simp
    · rw [← List.cons_append]
      exact List.forall_mem_append.2 ⟨hall, by simpa using hin⟩
  | release hinit hpass hprot hwait hdelay =>
    have hin : InBounds v := hbounds hpass ((h.isOk hinit).trans hprot)
    obtain ⟨-, before, first, rest, hsamples, hall, hstamp⟩ := h.wait hwait
    refine ⟨hinit, fun _ _ => ⟨before, first, rest, (v, now), ?_, ?_, ?_⟩,
      fun hwait' => absurd hwait' Bool.false_ne_true⟩
    · rw [samples_append, hsamples]
      simp
    · rw [← List.cons_append]
      exact List.forall_mem_append.2 ⟨hall, by simpa using hin⟩
    · rw [hstamp] at hdelay
      have hfirst : first.2 ≤ now := hticks first (by simp [hsamples])
      have hsub := le_sub_of_pdMsToTicks_le (by decide) hfirst hdelay
      simp only [sysVoltageProtReleaseDelayMs, configTickRateHz] at hsub ⊢
      omega

lemma Inv.voltageMonitorTask (h : Inv log s) (hok : OutAtFirstSample log s (.sample v now))
    (htask : s.taskHandle = true) :
    Inv (log ++ (s.voltageMonitorTask v now).2) (s.voltageMonitorTask v now).1 := by
  obtain ⟨hinit, hstable, hwait⟩ := h.turn hok (.of_sysVoltageProtEngine s.engine _ _)
  simp only [State.voltageMonitorTask]
  generalize s.engine.sysVoltageProtEngine _ (UInt32.ofNat now) = e at hinit hstable hwait ⊢
  have hsample : Entries (fun earlier o => o = .voutSetAllowed true → StableSupply earlier)
      (log ++ [.sample v now]) := h.allowed.concat fun heq => Obs.noConfusion heq
  split
  · -- the power is given or taken
    rename_i hchange
    rw [State.sysVoltageEventCallback, List.append_cons]
    refine ⟨hsample.concat fun heq => ?_, fun _ => rfl, ?_, ?_, fun _ => htask⟩
    · rw [Obs.voutSetAllowed.injEq] at heq
      exact hstable heq (by simpa [heq] using hchange)
    · simpa using hwait
    · simp [hinit]
  · refine ⟨hsample, fun _ => rfl, ?_, ?_, fun _ => htask⟩
    · simpa using hwait
    · simp [hinit]

lemma Inv.step (h : Inv log s) {e : Event} (hok : OutAtFirstSample log s e)
    (hstep : s.step e = some (s', out)) : Inv (log ++ out) s' := by
  cases e with
  | init e v =>
    have hinit := h.voltageMonitorInit e v
    rwa [Option.some.inj hstep] at hinit
  | sample v now =>
    rw [State.step] at hstep
    split at hstep
    · rename_i htask
      have hsample := h.voltageMonitorTask hok htask
      rwa [Option.some.inj hstep] at hsample
    · cases hstep

end Inv

/-- The bus is powered again only at a sample such that this one and all before it, for the whole
delay, were in bounds. -/
theorem vout_allowed_after_stable_supply {log : List Obs} {s : State}
    (h : machine.Run OutAtFirstSample log s) {earlier later : List Obs}
    (hlog : log = earlier ++ .voutSetAllowed true :: later) : StableSupply earlier := by
  have hinv : Inv log s := h.invariant Inv.init fun _ hinv hok hstep => hinv.step hok hstep
  exact hinv.allowed earlier _ later hlog rfl

def initOk : InitEnv := ⟨true, true, true⟩

def lowAtBootLog : List Obs :=
  [.voutSetAllowed false, .sample (some 7) 0, .sample (some 12) 2, .sample (some 12) 1002]

/-- The supply is too low for `voltage_monitor_init` and still so at the first sample. -/
theorem vout_allowed_after_stable_supply_lowAtBoot : StableSupply lowAtBootLog := by
  have hrun : machine.Run OutAtFirstSample (lowAtBootLog ++ [.voutSetAllowed true])
      ⟨some 12, true, ⟨true, true, false, 2⟩, true⟩ :=
    .of_exec (show machine.exec OutAtFirstSample [.init initOk (some 6), .sample (some 7) 0,
      .sample (some 12) 2, .sample (some 12) 1002] [] machine.init = _ by decide +kernel)
  exact vout_allowed_after_stable_supply hrun rfl

/-- The supply comes up while the device boots: it is out of order for `voltage_monitor_init` and in
order for the first sample, which gives the power back. -/
theorem vout_allowed_at_first_sample :
    (∃ s, machine.Run TicksInOrder
      [.voutSetAllowed false, .sample (some 9) 1, .voutSetAllowed true] s) ∧
      ¬ StableSupply [.voutSetAllowed false, .sample (some 9) 1] := by
  constructor
  · exact ⟨⟨some 9, true, ⟨true, true, false, 1⟩, true⟩, .of_exec
      (show machine.exec TicksInOrder [.init initOk (some 6), .sample (some 9) 1] []
        machine.init = _ by decide +kernel)⟩
  · -- there is only one sample
    rintro ⟨before, first, mid, last, hsamples, -⟩
    have hlength := congrArg List.length hsamples
    simp at hlength
    omega

end WbMge.VoltageMonitor
