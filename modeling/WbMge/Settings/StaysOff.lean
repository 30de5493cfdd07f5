import WbMge.Settings.Migration

/-!
# Ports that were switched off

What an upgrade does to a port that was switched off by an older firmware, when storage operations
fail and the power is lost. The migration leaves the older record alone where it cannot store the
mode that follows from it, so that the next boot can. The defaults that are filled in next do not
know about that. `Trusted` names the operations that must not fail for the port to stay off.
-/

namespace WbMge.Settings

open Cache (bridgesCount)
open Json (Text)

/-- A boot: how its storage operations end, and how many of them there are before the power is lost,
if it is. -/
structure Boot where
  io : BootIo
  left : Option Nat

def Boot.run (f : Factory) (nvs : Nvs) (b : Boot) : Nvs :=
  ((settingItemsInit f b.io).run.run ⟨nvs, b.left⟩).2.store

/-- The operations that decide about a port that was switched off: the ones of the migration on its
two records but for the erase, and the look of the defaults at the mode of the port. -/
structure Trusted (io : BootIo) (p : Port) : Prop where
  hasBridgeMode : io.migrateHasKey (.bridgeMode p) = true
  readBridgeMode : io.migrateReadStr (.bridgeMode p) = true
  hasPortMode : io.migrateHasKey (.portMode p) = true
  save : io.save (.portMode p) = .ok
  hasPortModeDefault : io.defaultHasKey (.portMode p) = true

instance (io : BootIo) (p : Port) : Decidable (Trusted io p) :=
  decidable_of_iff (io.migrateHasKey (.bridgeMode p) = true ∧
    io.migrateReadStr (.bridgeMode p) = true ∧ io.migrateHasKey (.portMode p) = true ∧
    io.save (.portMode p) = .ok ∧ io.defaultHasKey (.portMode p) = true)
    ⟨fun ⟨h₁, h₂, h₃, h₄, h₅⟩ => ⟨h₁, h₂, h₃, h₄, h₅⟩,
      fun ⟨h₁, h₂, h₃, h₄, h₅⟩ => ⟨h₁, h₂, h₃, h₄, h₅⟩⟩

def Off (p : Port) (nvs : Nvs) : Prop := nvs (.portMode p) = some portModeDisabled

def WasOff (p : Port) (nvs : Nvs) : Prop :=
  Off p nvs ∨ nvs (.portMode p) = none ∧ nvs (.bridgeMode p) = some legacyBridgeModeDisabled

section Frame

variable {nvs nvs' : Nvs} {k : Key} {p q : Port} {value : Text} {r : Option Text}

lemma Off.update (h : Off p nvs) (hk : k ≠ .portMode p) : Off p (Function.update nvs k r) := by
  rw [Off, Function.update_of_ne hk.symm]
  exact h

lemma WasOff.update (h : WasOff p nvs) (hk : k ≠ .portMode p) (hk' : k ≠ .bridgeMode p) :
    WasOff p (Function.update nvs k r) := by
  rcases h with hoff | hlegacy
  · exact .inl (hoff.update hk)
  · right
    rwa [Function.update_of_ne hk.symm, Function.update_of_ne hk'.symm]

/-! ### What the operations touch -/

lemma keeps_nvsWriteStr {P : Nvs → Prop} (io : Key → WriteOutcome) (h : P nvs)
    (hwrite : P (nvs.write k value)) : P ((nvsWriteStr io k value).run.run nvs).2 := by
  rw [nvsWriteStr]
  split
  · exact hwrite
  · exact h
  · exact hwrite

lemma keeps_settingItemsSave {P : Nvs → Prop} (io : Key → WriteOutcome) (h : P nvs)
    (hwrite : P (nvs.write k value)) : P ((settingItemsSave io k value).run.run nvs).2 := by
  rw [settingItemsSave]
  split
  · exact keeps_nvsWriteStr io h hwrite
  · exact h

lemma keeps_nvsEraseStr {P : Nvs → Prop} (io : Key → WriteOutcome) (h : P nvs)
    (herase : P (nvs.erase k)) : P ((nvsEraseStr io k).run.run nvs).2 := by
  show P ((ite (nvs k = none) _ _ : StorageM Unit Unit).run.run nvs).2
  split
  · exact h
  split
  · exact herase
  · exact h
  · exact herase

end Frame

/-! ## One boot -/

section Boot

variable {f : Factory} {io : BootIo} {nvs : Nvs} {k : Key} {p q : Port} {value : Text}

lemma wp_migratePort_of_keeps {P : Nvs → Prop}
    (hmode : (io.migrateHasKey (.portMode q) && nvsHasKey nvs (.portMode q)) = false →
      ∀ value, P (nvs.write (.portMode q) value))
    (herase : (∀ nvs', P nvs' → P (nvs'.erase (.bridgeMode q))) ∨
      ∀ value, nvsReadStr nvs (.bridgeMode q) = some value → validateBridgeMode value = true)
    (h : P nvs) : CrashM.wp (migratePort io q) (fun _ => P) P nvs := by
  have hderive (legacyValue : Text) :
      CrashM.wp (derivePortMode io q legacyValue) (fun _ => P) P nvs := by
    apply CrashM.wp_read_bind
    split
    · exact CrashM.wp_pure h
    rename_i hhas
    apply CrashM.wp_bind
    refine CrashM.wp_commit_of_forall h fun ret nvs' hrun => CrashM.wp_pure ?_
    have hkept : P ((settingItemsSave io.save (.portMode q)
        (mappedPortMode legacyValue)).run.run nvs).2 :=
      keeps_settingItemsSave io.save h (hmode (Bool.eq_false_iff.2 hhas) _)
    rwa [hrun] at hkept
  have hstale (legacyValue : Text) (hread : nvsReadStr nvs (.bridgeMode q) = some legacyValue)
      (nvs' : Nvs) (h' : P nvs') :
      CrashM.wp (eraseStale io q legacyValue) (fun _ => P) P nvs' := by
    rw [eraseStale]
    split
    · rename_i hnoRole
      obtain herase | hrole := herase
      · apply CrashM.wp_bind
        refine CrashM.wp_commit_of_forall h' fun ret nvs'' hrun => CrashM.wp_pure ?_
        have hkept := keeps_nvsEraseStr io.erase h' (herase nvs' h')
        rwa [hrun] at hkept
      · rw [hrole legacyValue hread] at hnoRole
        cases hnoRole
    · exact CrashM.wp_pure h'
  apply CrashM.wp_read_bind
  split
  · split
    · exact CrashM.wp_pure h
    · rename_i legacyValue hread
      apply CrashM.wp_bind
      refine CrashM.wp_mono (fun goesOn nvs' h' => ?_) (hderive legacyValue)
      split
      · exact hstale legacyValue (Option.ite_none_right_eq_some.1 hread).2 nvs' h'
      · exact CrashM.wp_pure h'
  · exact CrashM.wp_pure h

lemma wp_setDefault_of_keeps {P : Nvs → Prop} (k : Key)
    (hwrite : (io.defaultHasKey k && nvsHasKey nvs k) = false →
      P (nvs.write k (getSettingDefaultValue f k)))
    (h : P nvs) : CrashM.wp (setDefault f io true k) (fun _ => P) P nvs := by
  apply CrashM.wp_read_bind
  split
  · rename_i hhas
    rw [Bool.not_true, Bool.false_or, Bool.not_eq_true'] at hhas
    apply CrashM.wp_bind
    refine CrashM.wp_commit_of_forall h fun ret nvs' hrun => CrashM.wp_pure ?_
    have hkept : P ((nvsWriteStr io.write k (getSettingDefaultValue f k)).run.run nvs).2 :=
      keeps_nvsWriteStr io.write h (hwrite hhas)
    rwa [hrun] at hkept
  · exact CrashM.wp_pure h

lemma wp_settingItemsSetDefaults_of_keeps {P : Nvs → Prop}
    (hwrite : ∀ nvs k, P nvs → (io.defaultHasKey k && nvsHasKey nvs k) = false →
      P (nvs.write k (getSettingDefaultValue f k)))
    (h : P nvs) : CrashM.wp (settingItemsSetDefaults f io true) (fun _ => P) P nvs := by
  have hround (k : Key) (nvs' : Nvs) (h' : P nvs') :
      CrashM.wp (setDefault f io true k) (fun ok nvs'' => if ok then P nvs'' else P nvs'') P
        nvs' := by
    refine CrashM.wp_mono (fun ok nvs'' h'' => ?_)
      (wp_setDefault_of_keeps k (hwrite nvs' k h') h')
    rwa [ite_self]
  have hloop := CrashM.wp_allM settingKeys (fun _ k _ nvs' _ => hround k nvs') h
  refine CrashM.wp_mono (fun ok nvs' h' => ?_) hloop
  rwa [ite_self] at h'

lemma nvsHasKey_of_eq_some (h : nvs k = some value) (hlen : value.length < settingItemMaxStrLen) :
    nvsHasKey nvs k = true := by
  rw [nvsHasKey, h]
  exact decide_eq_true hlen

lemma wp_migratePort_wasOff (hio : Trusted io p) (h : WasOff p nvs) :
    CrashM.wp (migratePort io p) (fun _ => Off p) (WasOff p) nvs := by
  rcases h with hoff | ⟨hnone, hlegacy⟩
  · -- the mode is there already
    have hhas := nvsHasKey_of_eq_some hoff (by decide)
    refine CrashM.wp_mono_crash (fun _ => .inl) (wp_migratePort_of_keeps ?_ (.inl ?_) hoff)
    · intro hhasNot
      rw [hio.hasPortMode, hhas] at hhasNot
      cases hhasNot
    · exact fun nvs' h' => h'.update Key.noConfusion
  · have hhas := nvsHasKey_of_eq_some hlegacy (by decide)
    have hread : nvsReadStr nvs (.bridgeMode p) = some legacyBridgeModeDisabled := by
      rw [nvsReadStr, hlegacy]
      decide
    have hhasMode : nvsHasKey nvs (.portMode p) = false := by
      rw [nvsHasKey, hnone]
      rfl
    have hmapped : mappedPortMode legacyBridgeModeDisabled = portModeDisabled := by decide
    have hsave : (settingItemsSave io.save (.portMode p) portModeDisabled).run.run nvs =
        (.ok (), nvs.write (.portMode p) portModeDisabled) := by
      have hvalid := validate_mappedPortMode (p := p) legacyBridgeModeDisabled
      rw [hmapped] at hvalid
      rw [settingItemsSave, if_pos hvalid, nvsWriteStr, hio.save]
      rfl
    apply CrashM.wp_read_bind
    rw [hio.hasBridgeMode, hio.readBridgeMode, hhas, hread]
    apply CrashM.wp_bind
    apply CrashM.wp_read_bind
    rw [hio.hasPortMode, hhasMode, hmapped]
    apply CrashM.wp_bind
    apply CrashM.wp_commit (.inr ⟨hnone, hlegacy⟩) hsave
    apply CrashM.wp_pure
    -- once the mode is stored, it is not touched any more
    rw [Except.isOk, Except.toBool, if_pos rfl, eraseStale]
    have hoff : Off p (nvs.write (.portMode p) portModeDisabled) := nvs.write_self _ _
    split
    · apply CrashM.wp_bind
      refine CrashM.wp_commit_of_forall (.inl hoff) fun ret nvs' hrun => CrashM.wp_pure ?_
      have hkept : Off p ((nvsEraseStr io.erase (.bridgeMode p)).run.run _).2 :=
        keeps_nvsEraseStr io.erase hoff (hoff.update Key.noConfusion)
      rwa [hrun] at hkept
    · exact CrashM.wp_pure hoff

lemma wp_settingItemsMigratePortMode_wasOff (hio : Trusted io p) (h : WasOff p nvs) :
    CrashM.wp (settingItemsMigratePortMode io) (fun _ => Off p) (WasOff p) nvs := by
  have hround (done : List Port) (q : Port) (nvs' : Nvs)
      (hinv : WasOff p nvs' ∧ (p ∈ done → Off p nvs')) :
      CrashM.wp (migratePort io q) (fun _ nvs'' => WasOff p nvs'' ∧ (p ∈ done ++ [q] → Off p nvs''))
        (WasOff p) nvs' := by
    obtain ⟨h', hdone⟩ := hinv
    by_cases hq : q = p
    · subst hq
      exact CrashM.wp_mono (fun _ _ hoff => ⟨.inl hoff, fun _ => hoff⟩)
        (wp_migratePort_wasOff hio h')
    have hmode : Key.portMode q ≠ .portMode p := fun h => hq (Key.portMode.inj h)
    have hbridge : Key.bridgeMode q ≠ .bridgeMode p := fun h => hq (Key.bridgeMode.inj h)
    have hframe : CrashM.wp (migratePort io q)
        (fun _ nvs'' => WasOff p nvs'' ∧ (p ∈ done → Off p nvs''))
        (fun nvs'' => WasOff p nvs'' ∧ (p ∈ done → Off p nvs'')) nvs' := by
      refine wp_migratePort_of_keeps (fun _ value => ?_) (.inl fun nvs'' hkept => ?_) ⟨h', hdone⟩
      · exact ⟨h'.update hmode Key.noConfusion, fun hmem => (hdone hmem).update hmode⟩
      · exact ⟨hkept.1.update Key.noConfusion hbridge,
          fun hmem => (hkept.2 hmem).update Key.noConfusion⟩
    refine CrashM.wp_mono_crash (fun _ hkept => hkept.1) (CrashM.wp_mono ?_ hframe)
    rintro _ nvs'' ⟨h'', hdone'⟩
    refine ⟨h'', fun hmem => hdone' ?_⟩
    exact (List.mem_append.1 hmem).resolve_right fun h => hq (List.mem_singleton.1 h).symm
  have hloop := CrashM.wp_forM (List.finRange bridgesCount)
    (fun done q _ nvs' _ => hround done q nvs') ⟨h, fun hp => absurd hp List.not_mem_nil⟩
  exact CrashM.wp_mono (fun _ nvs' hinv => hinv.2 (List.mem_finRange p)) hloop

lemma wp_settingItemsSetDefaults_off (hio : Trusted io p) (h : Off p nvs) :
    CrashM.wp (settingItemsSetDefaults f io true) (fun _ => Off p) (WasOff p) nvs := by
  refine CrashM.wp_mono_crash (fun _ => .inl) (wp_settingItemsSetDefaults_of_keeps ?_ h)
  intro nvs' k h' hhas
  by_cases hk : k = .portMode p
  · subst hk
    rw [hio.hasPortModeDefault, nvsHasKey_of_eq_some h' (by decide)] at hhas
    cases hhas
  · exact h'.update hk

lemma wp_settingItemsInit_wasOff (hio : Trusted io p) (h : WasOff p nvs) :
    CrashM.wp (settingItemsInit f io) (fun _ => WasOff p) (WasOff p) nvs := by
  apply CrashM.wp_bind
  refine CrashM.wp_mono (fun _ nvs' hoff => ?_) (wp_settingItemsMigratePortMode_wasOff hio h)
  exact CrashM.wp_mono (fun _ _ hoff' => .inl hoff') (wp_settingItemsSetDefaults_off hio hoff)

end Boot

/-! ## All boots -/

lemma portModeDisabled_ne_tcpBridge : portModeDisabled ≠ portModeTcpBridge := by decide

/-- A port that an older firmware had switched off is not turned on by the boots after the upgrade,
whatever storage operations fail and wherever the power is lost, as long as the operations that
decide about it do not fail. -/
theorem portMode_ne_tcpBridge_of_boots (f : Factory) (p : Port) {nvs : Nvs}
    (hlegacy : nvs (.bridgeMode p) = some legacyBridgeModeDisabled)
    (hnone : nvs (.portMode p) = none) (boots : List Boot) (hio : ∀ b ∈ boots, Trusted b.io p) :
    boots.foldl (Boot.run f) nvs (.portMode p) ≠ some portModeTcpBridge := by
  have hboots : WasOff p (boots.foldl (Boot.run f) nvs) := by
    refine List.foldlRecOn boots (Boot.run f) (motive := WasOff p) (.inr ⟨hnone, hlegacy⟩) ?_
    intro nvs' h' b hb
    exact CrashM.crash_store (wp_settingItemsInit_wasOff (hio b hb) h') b.left
  rcases hboots with hoff | ⟨hnone', -⟩
  · rw [hoff]
    exact fun h => portModeDisabled_ne_tcpBridge (Option.some.inj h)
  · rw [hnone']
    exact (Option.some_ne_none _).symm

/-- The storage refuses to erase anything, and the power is lost after the first write. -/
theorem portMode_ne_tcpBridge_of_boots_legacy :
    [(⟨{ BootIo.quiet with erase := fun _ => .setFailed }, some 1⟩ : Boot), ⟨.quiet, none⟩].foldl
      (Boot.run ⟨none, none⟩) legacyNvs (.portMode 0) ≠ some portModeTcpBridge := by
  apply portMode_ne_tcpBridge_of_boots
  · rfl
  · rfl
  · decide

/-- The mode cannot be stored by the migration, and can a moment later by the defaults: the port
comes up as a gateway. -/
theorem portMode_tcpBridge_saveFailed :
    legacyNvs (.bridgeMode 0) = some legacyBridgeModeDisabled ∧
      legacyNvs (.portMode 0) = none ∧
      Boot.run ⟨none, none⟩ legacyNvs
        ⟨{ BootIo.quiet with save := fun _ => .setFailed }, none⟩ (.portMode 0) =
          some portModeTcpBridge := by
  decide +kernel

end WbMge.Settings
