import WbMge.Settings.Items
import WbMge.ToMathlib.Crash

/-!
# The settings at a boot

The model of `setting_items_init`. An older firmware used `bridge_mode_N` for the role of a bridge
and for switching a port off as well, where this one has `port_mode_N` for the latter. At a boot the
mode of a port is derived from the older record where there is none, a record that is no role any
more is erased, and the settings without a record get their defaults.

The device may lose power between any two of these writes. `settled` says what the settings come to
in the end. Every write and erase leaves that alone.
-/

namespace WbMge.Settings

open Cache (bridgesCount)
open CText (strncmpEq strncmpEq_iff snprintf)
open Json (Text)
open CrashM (read commit)

/-! ## The model -/

/-- The size includes the terminator. -/
def nvsHasKey (nvs : Nvs) (k : Key) : Bool :=
  (nvs k).any fun value => decide (value.length + 1 ≤ settingItemMaxStrLen)

def Nvs.erase (nvs : Nvs) (k : Key) : Nvs := Function.update nvs k none

lemma Nvs.erase_self (nvs : Nvs) (k : Key) : nvs.erase k k = none := by
  rw [erase, Function.update_self]

lemma Nvs.erase_of_ne {k k' : Key} (h : k' ≠ k) (nvs : Nvs) : nvs.erase k k' = nvs k' := by
  rw [erase, Function.update_of_ne h]

/-- `nvs_erase_str`; `io` is how the erase of each record ends. A record that is missing is no
error. -/
def nvsEraseStr (io : Key → WriteOutcome) (k : Key) : StorageM Unit Unit := do
  if (← get) k = none then return ()
  else
    match io k with
    | .ok => modify fun nvs => nvs.erase k
    | .setFailed => throw ()
    | .commitFailed => do
      modify fun nvs => nvs.erase k
      throw ()

/-- How the storage operations of a boot end. `nvs_has_key` returns `false` if it does not reach the
storage. The migration and the defaults may both write a record, and not both need to fail. -/
structure BootIo where
  /-- `nvs_has_key` in `setting_items_migrate_port_mode` reaches the storage. -/
  migrateHasKey : Key → Bool
  /-- `nvs_read_str` in `setting_items_migrate_port_mode` reaches the storage. -/
  migrateReadStr : Key → Bool
  /-- `setting_items_save` in `setting_items_migrate_port_mode`. -/
  save : Key → WriteOutcome
  erase : Key → WriteOutcome
  /-- `nvs_has_key` in `setting_items_set_defaults` reaches the storage. -/
  defaultHasKey : Key → Bool
  /-- `nvs_write_str` in `setting_items_set_defaults`. -/
  write : Key → WriteOutcome

def BootIo.quiet : BootIo where
  migrateHasKey _ := true
  migrateReadStr _ := true
  save _ := .ok
  erase _ := .ok
  defaultHasKey _ := true
  write _ := .ok

def legacyBridgeModeDisabled : Text := "disabled".toList

/-- The mode of a port that an older firmware ran with the given `bridge_mode_N`. -/
def mappedPortMode (legacyValue : Text) : Text :=
  if strncmpEq settingItemMaxStrLen legacyValue legacyBridgeModeDisabled then portModeDisabled
  else portModeTcpBridge

/-- The part of `setting_items_migrate_port_mode` that derives the mode of a port; whether the loop
goes on with the record. -/
def derivePortMode (io : BootIo) (p : Port) (legacyValue : Text) : CrashM Nvs Bool := do
  if io.migrateHasKey (.portMode p) && nvsHasKey (← read) (.portMode p) then return true
  else
    let saveRet ← commit (settingItemsSave io.save (.portMode p) (mappedPortMode legacyValue)).run
    return saveRet.isOk

/-- The part of `setting_items_migrate_port_mode` that erases a record which is no role. -/
def eraseStale (io : BootIo) (p : Port) (legacyValue : Text) : CrashM Nvs Unit := do
  let legacyIsStale := !validateBridgeMode legacyValue
  if legacyIsStale then
    -- a record that cannot be erased is left behind
    let _ ← commit (nvsEraseStr io.erase (.bridgeMode p)).run

/-- The loop body of `setting_items_migrate_port_mode`. -/
def migratePort (io : BootIo) (p : Port) : CrashM Nvs Unit := do
  let nvs ← read
  if io.migrateHasKey (.bridgeMode p) && nvsHasKey nvs (.bridgeMode p) then
    match if io.migrateReadStr (.bridgeMode p) then nvsReadStr nvs (.bridgeMode p) else none with
    | none => return ()
    | some legacyValue =>
      if ← derivePortMode io p legacyValue then eraseStale io p legacyValue

def settingItemsMigratePortMode (io : BootIo) : CrashM Nvs Unit :=
  (List.finRange bridgesCount).forM (migratePort io)

/-- The loop body of `setting_items_set_defaults`; whether the loop goes on. -/
def setDefault (f : Factory) (io : BootIo) (onlyUninitialized : Bool) (k : Key) :
    CrashM Nvs Bool := do
  if !onlyUninitialized || !(io.defaultHasKey k && nvsHasKey (← read) k) then
    let ret ← commit (nvsWriteStr io.write k (getSettingDefaultValue f k)).run
    return ret.isOk
  else return true

def settingItemsSetDefaults (f : Factory) (io : BootIo) (onlyUninitialized : Bool) :
    CrashM Nvs Bool :=
  settingKeys.allM (setDefault f io onlyUninitialized)

def settingItemsInit (f : Factory) (io : BootIo) : CrashM Nvs Bool := do
  settingItemsMigratePortMode io
  settingItemsSetDefaults f io true

/-! ## What the settings come to -/

def settled (f : Factory) (nvs : Nvs) : Nvs
  | .portMode p => (nvs (.portMode p)).or (some
      (if nvs (.bridgeMode p) = some legacyBridgeModeDisabled then portModeDisabled
        else portModeTcpBridge))
  | .bridgeMode p => ((nvs (.bridgeMode p)).filter validateBridgeMode).or (some bridgeModeServer)
  | k => (nvs k).or (some (getSettingDefaultValue f k))

/-- Every record can be read. -/
def Fits (nvs : Nvs) : Prop := ∀ k value, nvs k = some value → value.length < settingItemMaxStrLen

def Migrated (nvs : Nvs) (p : Port) : Prop :=
  ∀ value, nvs (.bridgeMode p) = some value → validateBridgeMode value = true

section Settled

variable {f : Factory} {nvs : Nvs} {k : Key} {p : Port} {value : Text}

lemma validateBridgeMode_server : validateBridgeMode bridgeModeServer = true := by decide

lemma not_validateBridgeMode_disabled :
    ¬ validateBridgeMode legacyBridgeModeDisabled = true := by decide

lemma settled_write (hnone : nvs k = none) (hvalue : settled f nvs k = some value) :
    settled f (nvs.write k value) = settled f nvs := by
  have hself := nvs.write_self k value
  have hother {k' : Key} (hne : k' ≠ k) := Nvs.write_of_ne hne nvs value
  ext1 k'
  by_cases hk : k' = k
  · subst hk
    rw [hvalue]
    cases k' with
    | bridgeMode p =>
      -- the record that is filled in is a role
      obtain rfl : bridgeModeServer = value := by simpa [settled, hnone] using hvalue
      simp [settled, hself, Option.filter_some_pos validateBridgeMode_server]
    | _ => simp [settled, hself]
  · cases k' with
    | portMode p =>
      by_cases hbridge : Key.bridgeMode p = k
      · -- a role in place of no record means that the port was not switched off
        subst hbridge
        obtain rfl : bridgeModeServer = value := by simpa [settled, hnone] using hvalue
        have hne : bridgeModeServer ≠ legacyBridgeModeDisabled := by decide
        simp [settled, hself, hother hk, hnone, hne]
      · simp only [settled, hother hk, hother hbridge]
    | _ => simp only [settled, hother hk]

lemma settled_erase (hmode : nvs (.portMode p) ≠ none)
    (hvalue : nvs (.bridgeMode p) = some value) (hstale : validateBridgeMode value = false) :
    settled f (nvs.erase (.bridgeMode p)) = settled f nvs := by
  have hother {k' : Key} (hne : k' ≠ .bridgeMode p) := Nvs.erase_of_ne hne nvs
  obtain ⟨mode, hmode⟩ := Option.ne_none_iff_exists'.1 hmode
  ext1 k'
  by_cases hk : k' = .bridgeMode p
  · subst hk
    simp [settled, nvs.erase_self, hvalue, Option.filter_some_neg hstale]
  cases k' with
  | portMode q =>
    by_cases hq : q = p
    · subst hq
      simp [settled, hother hk, hmode]
    · have hne : Key.bridgeMode q ≠ .bridgeMode p := fun h => hq (Key.bridgeMode.inj h)
      simp only [settled, hother hk, hother hne]
  | _ => simp only [settled, hother hk]

lemma exists_role (f : Factory) (nvs : Nvs) (p : Port) :
    ∃ role, settled f nvs (.bridgeMode p) = some role ∧ validateBridgeMode role = true := by
  cases hrole : (nvs (.bridgeMode p)).filter validateBridgeMode with
  | none =>
    refine ⟨bridgeModeServer, ?_, validateBridgeMode_server⟩
    simp only [settled, hrole]
    rfl
  | some role =>
    refine ⟨role, ?_, (Option.filter_eq_some_iff.1 hrole).2⟩
    simp only [settled, hrole]
    rfl

lemma settled_of_none (hmigrated : ∀ p, Migrated nvs p) (hnone : nvs k = none) :
    settled f nvs k = some (getSettingDefaultValue f k) := by
  cases k with
  | portMode p =>
    have hne : nvs (.bridgeMode p) ≠ some legacyBridgeModeDisabled :=
      fun h => not_validateBridgeMode_disabled (hmigrated p _ h)
    simp only [settled, hnone, if_neg hne]
    rfl
  | bridgeMode p =>
    simp only [settled, hnone]
    rfl
  | _ =>
    simp only [settled, hnone]
    rfl

lemma Migrated.write (h : Migrated nvs p) (hnone : nvs k = none)
    (hvalue : settled f nvs k = some value) : Migrated (nvs.write k value) p := by
  intro value' hvalue'
  by_cases hk : Key.bridgeMode p = k
  · subst hk
    obtain rfl : bridgeModeServer = value := by simpa [settled, hnone] using hvalue
    rw [nvs.write_self] at hvalue'
    rw [← Option.some.inj hvalue']
    exact validateBridgeMode_server
  · rw [Nvs.write_of_ne hk] at hvalue'
    exact h value' hvalue'

lemma settled_eq_self (hmigrated : ∀ p, Migrated nvs p) (hall : ∀ k, nvs k ≠ none) :
    settled f nvs = nvs := by
  ext1 k
  obtain ⟨value, hvalue⟩ := Option.ne_none_iff_exists'.1 (hall k)
  cases k with
  | bridgeMode p => simp [settled, hvalue, Option.filter_some_pos (hmigrated p value hvalue)]
  | _ => simp [settled, hvalue]

end Settled

/-! ## One boot -/

structure ComesTo (f : Factory) (target nvs : Nvs) : Prop where
  settled_eq : settled f nvs = target
  fits : Fits nvs

section Boot

variable {f : Factory} {target nvs : Nvs} {k : Key} {p : Port} {value : Text}

lemma nvsHasKey_eq (h : Fits nvs) (k : Key) : nvsHasKey nvs k = (nvs k).isSome := by
  rw [nvsHasKey]
  cases hk : nvs k with
  | none => rfl
  | some value => exact decide_eq_true (h k value hk)

lemma migrateHasKey_quiet (h : Fits nvs) (k : Key) :
    (BootIo.quiet.migrateHasKey k && nvsHasKey nvs k) = (nvs k).isSome := nvsHasKey_eq h k

lemma defaultHasKey_quiet (h : Fits nvs) (k : Key) :
    (BootIo.quiet.defaultHasKey k && nvsHasKey nvs k) = (nvs k).isSome := nvsHasKey_eq h k

lemma nvsReadStr_eq (h : Fits nvs) (k : Key) : nvsReadStr nvs k = nvs k := by
  rw [nvsReadStr]
  cases hk : nvs k with
  | none => rfl
  | some value => exact Option.filter_some_pos (decide_eq_true (h k value hk))

lemma migrateReadStr_quiet (h : Fits nvs) (k : Key) :
    (if BootIo.quiet.migrateReadStr k then nvsReadStr nvs k else none) = nvs k := nvsReadStr_eq h k

lemma run_nvsWriteStr (k : Key) (value : Text) (nvs : Nvs) :
    (nvsWriteStr BootIo.quiet.write k value).run.run nvs = (.ok (), nvs.write k value) := rfl

lemma run_settingItemsSave (h : k.validate value = true) (nvs : Nvs) :
    (settingItemsSave BootIo.quiet.save k value).run.run nvs = (.ok (), nvs.write k value) := by
  rw [settingItemsSave, if_pos h]
  exact run_nvsWriteStr k value nvs

lemma run_nvsEraseStr (h : nvs k = some value) :
    (nvsEraseStr BootIo.quiet.erase k).run.run nvs = (.ok (), nvs.erase k) := by
  have hne : ¬ nvs k = none := by
    rw [h]
    exact Option.some_ne_none value
  show (ite (nvs k = none) _ _ : StorageM Unit Unit).run.run nvs = _
  rw [if_neg hne]
  rfl

lemma Fits.update {value : Option Text} (h : Fits nvs)
    (hlen : ∀ v, value = some v → v.length < settingItemMaxStrLen) :
    Fits (Function.update nvs k value) := by
  intro k' value' hk'
  by_cases hne : k' = k
  · subst hne
    rw [Function.update_self] at hk'
    exact hlen value' hk'
  · rw [Function.update_of_ne hne] at hk'
    exact h k' value' hk'

lemma ComesTo.write (h : ComesTo f target nvs) (hnone : nvs k = none)
    (hvalue : settled f nvs k = some value) (hlen : value.length < settingItemMaxStrLen) :
    ComesTo f target (nvs.write k value) where
  settled_eq := (settled_write hnone hvalue).trans h.settled_eq
  fits := h.fits.update (by rintro _ ⟨⟩; exact hlen)

lemma ComesTo.erase (h : ComesTo f target nvs) (hmode : nvs (.portMode p) ≠ none)
    (hvalue : nvs (.bridgeMode p) = some value) (hstale : validateBridgeMode value = false) :
    ComesTo f target (nvs.erase (.bridgeMode p)) where
  settled_eq := (settled_erase hmode hvalue hstale).trans h.settled_eq
  fits := h.fits.update (by rintro _ ⟨⟩)

lemma settled_portMode (hnone : nvs (.portMode p) = none)
    (hlegacy : nvs (.bridgeMode p) = some value) :
    settled f nvs (.portMode p) = some (mappedPortMode value) := by
  have hiff : strncmpEq settingItemMaxStrLen value legacyBridgeModeDisabled = true ↔
      some value = some legacyBridgeModeDisabled :=
    (strncmpEq_iff (by decide)).trans Option.some_inj.symm
  simp only [settled, hnone, hlegacy, mappedPortMode, hiff]
  rfl

lemma validate_mappedPortMode (value : Text) :
    (Key.portMode p).validate (mappedPortMode value) = true := by
  rw [mappedPortMode]
  split
  · exact (by decide : validatePortMode portModeDisabled = true)
  · exact (by decide : validatePortMode portModeTcpBridge = true)

lemma length_mappedPortMode (value : Text) :
    (mappedPortMode value).length < settingItemMaxStrLen := by
  rw [mappedPortMode]
  split
  · decide
  · decide

lemma length_getDynamicApPassDefault (f : Factory) :
    (getDynamicApPassDefault f).length < settingItemMaxStrLen := by
  have hsnprintf (text : Text) : (snprintf 16 text).length < settingItemMaxStrLen :=
    (List.length_take_le 15 text).trans_lt (by decide)
  rw [getDynamicApPassDefault]
  split
  · rename_i pass hpass
    unfold readWifiPassFromEfuse at hpass
    split at hpass
    · cases hpass
    rename_i data _
    dsimp only at hpass
    split at hpass
    · cases hpass
    obtain rfl := Option.some.inj hpass
    have hle : ((data.take 12).takeWhile (· != 0)).length ≤ 12 :=
      (List.takeWhile_sublist _).length_le.trans (List.length_take_le 12 data)
    rw [List.length_map]
    exact hle.trans_lt (by decide)
  · unfold generateMacBasedPassword
    split
    · exact hsnprintf _
    · exact hsnprintf _

lemma length_getDynamicHostnameDefault (f : Factory) :
    (getDynamicHostnameDefault f).length < settingItemMaxStrLen := by
  have hsnprintf (text : Text) : (snprintf 32 text).length < settingItemMaxStrLen :=
    (List.length_take_le 31 text).trans_lt (by decide)
  rw [getDynamicHostnameDefault]
  split
  · exact hsnprintf _
  · exact hsnprintf _

lemma length_getSettingDefaultValue (f : Factory) (k : Key) :
    (getSettingDefaultValue f k).length < settingItemMaxStrLen := by
  have htable : ∀ k ∈ settingKeys, k.item.defaultValue.length < settingItemMaxStrLen := by
    decide +kernel
  unfold getSettingDefaultValue
  split
  · exact length_getDynamicApPassDefault f
  · exact length_getDynamicHostnameDefault f
  · exact length_getDynamicHostnameDefault f
  · exact htable k (mem_settingKeys k)

lemma wp_derivePortMode (h : ComesTo f target nvs) (hlegacy : nvs (.bridgeMode p) = some value) :
    CrashM.wp (derivePortMode .quiet p value)
      (fun goesOn nvs' => goesOn = true ∧ ComesTo f target nvs' ∧ nvs' (.portMode p) ≠ none ∧
        ∀ q, nvs' (.bridgeMode q) = nvs (.bridgeMode q))
      (ComesTo f target) nvs := by
  apply CrashM.wp_read_bind
  rw [migrateHasKey_quiet h.fits]
  split
  · rename_i hmode
    exact CrashM.wp_pure ⟨rfl, h, Option.isSome_iff_ne_none.1 hmode, fun _ => rfl⟩
  -- the role is still there, so the mode that is written is the one it comes to
  rename_i hmode
  have hnone : nvs (.portMode p) = none := Option.not_isSome_iff_eq_none.1 hmode
  apply CrashM.wp_bind
  apply CrashM.wp_commit h (run_settingItemsSave (validate_mappedPortMode value) nvs)
  refine CrashM.wp_pure ⟨rfl, ?_, ?_, fun q => ?_⟩
  · exact h.write hnone (settled_portMode hnone hlegacy) (length_mappedPortMode value)
  · rw [nvs.write_self]
    exact Option.some_ne_none _
  · exact Nvs.write_of_ne Key.noConfusion nvs _

lemma wp_eraseStale (h : ComesTo f target nvs) (hmode : nvs (.portMode p) ≠ none)
    (hlegacy : nvs (.bridgeMode p) = some value) :
    CrashM.wp (eraseStale .quiet p value)
      (fun _ nvs' => ComesTo f target nvs' ∧ Migrated nvs' p ∧
        ∀ q ≠ p, nvs' (.bridgeMode q) = nvs (.bridgeMode q))
      (ComesTo f target) nvs := by
  rw [eraseStale]
  split
  · rename_i hstale
    rw [Bool.not_eq_true'] at hstale
    apply CrashM.wp_bind
    apply CrashM.wp_commit h (run_nvsEraseStr hlegacy)
    refine CrashM.wp_pure ⟨h.erase hmode hlegacy hstale, ?_, fun q hq => ?_⟩
    · intro value' hvalue'
      rw [nvs.erase_self] at hvalue'
      cases hvalue'
    · exact Nvs.erase_of_ne (fun h => hq (Key.bridgeMode.inj h)) nvs
  · rename_i hvalid
    refine CrashM.wp_pure ⟨h, ?_, fun _ _ => rfl⟩
    intro value' hvalue'
    obtain rfl := Option.some.inj (hlegacy.symm.trans hvalue')
    simpa using hvalid

lemma wp_migratePort (h : ComesTo f target nvs) (p : Port) :
    CrashM.wp (migratePort .quiet p)
      (fun _ nvs' => ComesTo f target nvs' ∧ Migrated nvs' p ∧
        ∀ q ≠ p, nvs' (.bridgeMode q) = nvs (.bridgeMode q))
      (ComesTo f target) nvs := by
  apply CrashM.wp_read_bind
  rw [migrateHasKey_quiet h.fits, migrateReadStr_quiet h.fits]
  cases hlegacy : nvs (.bridgeMode p) with
  | none =>
    refine CrashM.wp_pure ⟨h, ?_, fun _ _ => rfl⟩
    intro value hvalue
    rw [hlegacy] at hvalue
    cases hvalue
  | some value =>
    apply CrashM.wp_bind
    refine CrashM.wp_mono ?_ (wp_derivePortMode h hlegacy)
    rintro goesOn nvs' ⟨rfl, h', hmode, hbridge⟩
    refine CrashM.wp_mono ?_ (wp_eraseStale h' hmode ((hbridge p).trans hlegacy))
    rintro _ nvs'' ⟨h'', hmigrated, hother⟩
    exact ⟨h'', hmigrated, fun q hq => (hother q hq).trans (hbridge q)⟩

lemma wp_settingItemsMigratePortMode (h : ComesTo f target nvs) :
    CrashM.wp (settingItemsMigratePortMode .quiet)
      (fun _ nvs' => ComesTo f target nvs' ∧ ∀ p, Migrated nvs' p) (ComesTo f target) nvs := by
  -- the rounds before have left roles, and this one does not touch those
  have hround (done : List Port) (p : Port) (nvs' : Nvs)
      (hinv : ComesTo f target nvs' ∧ ∀ q ∈ done, Migrated nvs' q) :
      CrashM.wp (migratePort .quiet p)
        (fun _ nvs'' => ComesTo f target nvs'' ∧ ∀ q ∈ done ++ [p], Migrated nvs'' q)
        (ComesTo f target) nvs' := by
    obtain ⟨h', hdone⟩ := hinv
    refine CrashM.wp_mono ?_ (wp_migratePort h' p)
    rintro _ nvs'' ⟨h'', hmigrated, hother⟩
    refine ⟨h'', fun q hq => ?_⟩
    by_cases hqp : q = p
    · rwa [hqp]
    rcases List.mem_append.1 hq with hq | hq
    · intro value hvalue
      exact hdone q hq value ((hother q hqp).symm.trans hvalue)
    · exact absurd (List.mem_singleton.1 hq) hqp
  have hloop := CrashM.wp_forM (List.finRange bridgesCount)
    (fun done p _ nvs' _ => hround done p nvs') ⟨h, fun p hp => absurd hp List.not_mem_nil⟩
  refine CrashM.wp_mono ?_ hloop
  rintro _ nvs' ⟨h', hall⟩
  exact ⟨h', fun p => hall p (List.mem_finRange p)⟩

lemma wp_setDefault (h : ComesTo f target nvs) (hmigrated : ∀ p, Migrated nvs p) (k : Key) :
    CrashM.wp (setDefault f .quiet true k)
      (fun ok nvs' => ok = true ∧ ComesTo f target nvs' ∧ (∀ p, Migrated nvs' p) ∧
        nvs' k ≠ none ∧ ∀ k', nvs k' ≠ none → nvs' k' ≠ none)
      (ComesTo f target) nvs := by
  apply CrashM.wp_read_bind
  rw [defaultHasKey_quiet h.fits]
  cases hk : nvs k with
  | some value =>
    exact CrashM.wp_pure ⟨rfl, h, hmigrated, by rw [hk]; exact Option.some_ne_none _, fun _ => id⟩
  | none =>
    have hdefault : settled f nvs k = _ := settled_of_none hmigrated hk
    apply CrashM.wp_bind
    apply CrashM.wp_commit h (run_nvsWriteStr k (getSettingDefaultValue f k) nvs)
    refine CrashM.wp_pure ⟨rfl, h.write hk hdefault (length_getSettingDefaultValue f k), ?_, ?_, ?_⟩
    · exact fun p => (hmigrated p).write hk hdefault
    · rw [nvs.write_self]
      exact Option.some_ne_none _
    · intro k' hk'
      by_cases hne : k' = k
      · rw [hne, nvs.write_self]
        exact Option.some_ne_none _
      · rwa [Nvs.write_of_ne hne]

lemma wp_settingItemsSetDefaults (h : ComesTo f target nvs) (hmigrated : ∀ p, Migrated nvs p) :
    CrashM.wp (settingItemsSetDefaults f .quiet true)
      (fun ok nvs' => ok = true ∧ nvs' = target ∧ ComesTo f target nvs')
      (ComesTo f target) nvs := by
  have hround (done : List Key) (k : Key) (nvs' : Nvs) (hinv : ComesTo f target nvs' ∧
      (∀ p, Migrated nvs' p) ∧ ∀ k ∈ done, nvs' k ≠ none) :
      CrashM.wp (setDefault f .quiet true k)
        (fun ok nvs'' => if ok then ComesTo f target nvs'' ∧ (∀ p, Migrated nvs'' p) ∧
          ∀ k' ∈ done ++ [k], nvs'' k' ≠ none else False) (ComesTo f target) nvs' := by
    obtain ⟨h', hmigrated', hdone⟩ := hinv
    refine CrashM.wp_mono ?_ (wp_setDefault h' hmigrated' k)
    rintro ok nvs'' ⟨rfl, h'', hmigrated'', hk, hold⟩
    refine ⟨h'', hmigrated'', fun k' hk' => ?_⟩
    rcases List.mem_append.1 hk' with hk' | hk'
    · exact hold k' (hdone k' hk')
    · rwa [List.mem_singleton.1 hk']
  have hloop := CrashM.wp_allM settingKeys (fun done k _ nvs' _ => hround done k nvs')
    ⟨h, hmigrated, fun k hk => absurd hk List.not_mem_nil⟩
  refine CrashM.wp_mono ?_ hloop
  intro ok nvs' hok
  cases ok with
  | false => exact hok.elim
  | true =>
    -- with every record there nothing is left to come to
    obtain ⟨h', hmigrated', hall⟩ := hok
    have hself : settled f nvs' = nvs' :=
      settled_eq_self hmigrated' fun k => hall k (mem_settingKeys k)
    exact ⟨rfl, hself.symm.trans h'.settled_eq, h'⟩

lemma wp_settingItemsInit (h : ComesTo f target nvs) :
    CrashM.wp (settingItemsInit f .quiet)
      (fun ok nvs' => ok = true ∧ nvs' = target ∧ ComesTo f target nvs')
      (ComesTo f target) nvs := by
  apply CrashM.wp_bind
  refine CrashM.wp_mono ?_ (wp_settingItemsMigratePortMode h)
  rintro _ nvs' ⟨h', hmigrated⟩
  exact wp_settingItemsSetDefaults h' hmigrated

end Boot

/-! ## Interrupted boots -/

lemma complete_foldl_interrupted (f : Factory) {nvs : Nvs} (h : Fits nvs) (boots : List Nat) :
    (settingItemsInit f .quiet).complete (boots.foldl (settingItemsInit f .quiet).interrupted nvs) =
      settled f nvs := by
  -- a boot that comes to its end before the power is lost may be followed by others as well
  have hrepeat (nvs' : Nvs) (h' : ComesTo f (settled f nvs) nvs') :
      CrashM.wp (settingItemsInit f .quiet) (fun _ => ComesTo f (settled f nvs))
        (ComesTo f (settled f nvs)) nvs' := by
    refine CrashM.wp_mono ?_ (wp_settingItemsInit h')
    rintro _ nvs'' ⟨_, _, h''⟩
    exact h''
  have hboots := CrashM.crash_foldl_interrupted hrepeat ⟨rfl, h⟩ boots
  obtain ⟨_, _, hcomplete, _⟩ := CrashM.post_complete (wp_settingItemsInit hboots)
  exact hcomplete

/-- An upgrade that is interrupted any number of times, each time between any two writes or erases,
comes to the same settings as one that is not. The mode of a port stays as it is, or else follows
from the older record. A role that is one stays as it is, and there is a role in the end. -/
theorem settingItemsInit_interrupted (f : Factory) {nvs : Nvs} (h : Fits nvs) (boots : List Nat) :
    let final := (settingItemsInit f .quiet).complete
      (boots.foldl (settingItemsInit f .quiet).interrupted nvs)
    final = (settingItemsInit f .quiet).complete nvs ∧
      ∀ p,
        (∀ mode, nvs (.portMode p) = some mode → final (.portMode p) = some mode) ∧
        (nvs (.portMode p) = none → final (.portMode p) =
          some (if nvs (.bridgeMode p) = some legacyBridgeModeDisabled then portModeDisabled
            else portModeTcpBridge)) ∧
        (∃ role, final (.bridgeMode p) = some role ∧ validateBridgeMode role = true) ∧
        ∀ role, nvs (.bridgeMode p) = some role → validateBridgeMode role = true →
          final (.bridgeMode p) = some role := by
  intro final
  have hfinal : final = settled f nvs := complete_foldl_interrupted f h boots
  have hsingle : (settingItemsInit f .quiet).complete nvs = settled f nvs :=
    complete_foldl_interrupted f h []
  refine ⟨hfinal.trans hsingle.symm, fun p => ?_⟩
  rw [hfinal]
  refine ⟨fun mode hmode => ?_, fun hnone => ?_, ?_, fun role hrole hvalid => ?_⟩
  · simp [settled, hmode]
  · simp [settled, hnone]
  · exact exists_role f nvs p
  · simp [settled, hrole, Option.filter_some_pos hvalid]

def legacyNvs : Nvs :=
  Nvs.write (fun _ => none) (.bridgeMode 0) legacyBridgeModeDisabled

lemma fits_legacyNvs : Fits legacyNvs := by
  refine Fits.update (by rintro _ _ ⟨⟩) ?_
  rintro _ ⟨⟩
  decide

/-- The power is lost after deriving the mode of the port, and again after erasing the record. -/
theorem settingItemsInit_interrupted_legacy :
    (settingItemsInit ⟨none, none⟩ .quiet).complete
      ([1, 1].foldl (settingItemsInit ⟨none, none⟩ .quiet).interrupted legacyNvs)
        (.portMode 0) = some portModeDisabled := by
  have h := settingItemsInit_interrupted ⟨none, none⟩ fits_legacyNvs [1, 1]
  exact (h.2 0).2.1 rfl

end WbMge.Settings
