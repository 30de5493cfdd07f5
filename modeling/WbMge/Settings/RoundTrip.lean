import WbMge.PortManager.CacheSource
import WbMge.Settings.Collisions

/-!
# Settings read and written back

The answer to GET /settings can be posted back: it is accepted, and a second GET gives the same
tree. The values may be stored in another spelling by then, a port as `80` instead of ` +080`, but
they are read as before (`SameReads`).

The tree has a field for every setting that counts (`field_response`), and the text of a field
passes the validator of its setting (`exists_settingText`). At the end of a request the port manager
may write the flags of the cache overlay; with at most one flag set, it writes what is there.
-/

namespace WbMge.Settings

open Cache (bridgesCount)
open CText (strtol renderInt)
open Json (Text)
open PortManager (Move MoveEnv Obs SettingsEnv Stage espOk)

section Response

variable {f : Factory} {nvs : Nvs}

/-! ## The fields of the response -/

def responseMembers (f : Factory) (nvs : Nvs) (disabled : Bool) : List (Text × CJson) :=
  groupMembers f nvs topLevelMappings ++ [("wifi_perm_disable".toList, .bool disabled)] ++
    (if disabled then [] else [("wifi".toList, .obj (groupMembers f nvs wifiMappings))]) ++
    [("ethernet".toList, .obj (groupMembers f nvs ethernetMappings))] ++
    (List.finRange bridgesCount).map fun p => (rs485JsonName p, rs485Json f nvs p)

lemma nodup_responseMembers (f : Factory) (nvs : Nvs) (disabled : Bool) :
    (((responseMembers f nvs disabled).map Prod.fst).map (List.map Char.toLower)).Nodup := by
  have hnames : (responseMembers f nvs disabled).map Prod.fst =
      topLevelMappings.map Prod.fst ++ ["wifi_perm_disable".toList] ++
        (if disabled then [] else ["wifi".toList]) ++ ["ethernet".toList] ++
        (List.finRange bridgesCount).map rs485JsonName := by
    cases disabled <;> rfl
  rw [hnames]
  cases disabled <;> decide +kernel

lemma getObjectItem_response {name : Text} {t : CJson}
    (h : (name, t) ∈ responseMembers f nvs (settingItemsReadBool f nvs .wifiPermDisable)) :
    (settingsBuildResponseJson f nvs).getObjectItem name = some t :=
  CJson.getObjectItem_of_mem (nodup_responseMembers f nvs _) h

def responseGroup (f : Factory) (nvs : Nvs) : Group → CJson
  | .topLevel => settingsBuildResponseJson f nvs
  | .wifi => .obj (groupMembers f nvs wifiMappings)
  | .ethernet => .obj (groupMembers f nvs ethernetMappings)
  | .rs485 p => rs485Json f nvs p
  | .bridge p => .obj (groupMembers f nvs (rs485BridgeMappings p))

lemma map_fst_groupMembers (mappings : Mappings) :
    (groupMembers f nvs mappings).map Prod.fst = mappings.map Prod.fst := by
  rw [groupMembers, List.map_map]
  rfl

lemma Group.nodup_mappings (g : Group) :
    ((g.mappings.map Prod.fst).map (List.map Char.toLower)).Nodup := by
  cases g with
  | topLevel | wifi | ethernet => decide +kernel
  | rs485 p | bridge p =>
    revert p
    decide +kernel

lemma nodup_rs485Json (p : Port) :
    (((rs485BaseMappings p).map Prod.fst ++ ["bridge".toList]).map
      (List.map Char.toLower)).Nodup := by
  revert p
  decide +kernel

lemma getObjectItem_obj_groupMembers {mappings : Mappings} {rest : List (Text × CJson)}
    {name : Text} {t : CJson}
    (hnames : ((mappings.map Prod.fst ++ rest.map Prod.fst).map (List.map Char.toLower)).Nodup)
    (h : (name, t) ∈ groupMembers f nvs mappings ++ rest) :
    (CJson.obj (groupMembers f nvs mappings ++ rest)).getObjectItem name = some t := by
  refine CJson.getObjectItem_of_mem ?_ h
  rwa [List.map_append, map_fst_groupMembers]

variable {k : Key} {nvs' : Nvs}

lemma getObjectItem_responseGroup (hk : k ≠ .wifiPermDisable) :
    (responseGroup f nvs k.group).getObjectItem k.jsonKey = some (settingJson f nvs k) := by
  have hrow : (k.jsonKey, settingJson f nvs k) ∈ groupMembers f nvs k.group.mappings :=
    List.mem_map.2 ⟨(k.jsonKey, k), Group.mem_mappings.2 ⟨hk, rfl, rfl⟩, rfl⟩
  have hnames := k.group.nodup_mappings
  cases hg : k.group with
  | topLevel =>
    rw [hg] at hrow
    refine getObjectItem_response ?_
    simp only [responseMembers, List.mem_append]
    exact .inl (.inl (.inl (.inl hrow)))
  | wifi | ethernet | bridge =>
    rw [hg] at hrow hnames
    refine CJson.getObjectItem_of_mem ?_ hrow
    rwa [map_fst_groupMembers]
  | rs485 p =>
    rw [hg] at hrow
    exact getObjectItem_obj_groupMembers (nodup_rs485Json p) (List.mem_append_left _ hrow)

lemma shouldSetWifiPermDisable_response :
    shouldSetWifiPermDisable (settingsBuildResponseJson f nvs) =
      settingItemsReadBool f nvs .wifiPermDisable := by
  have hflag : (settingsBuildResponseJson f nvs).getObjectItem "wifi_perm_disable".toList =
      some (.bool (settingItemsReadBool f nvs .wifiPermDisable)) := by
    refine getObjectItem_response ?_
    simp only [responseMembers, List.mem_append]
    exact .inl (.inl (.inl (.inr List.mem_cons_self)))
  rw [shouldSetWifiPermDisable, hflag]

lemma wifiPermDisabled_response :
    wifiPermDisabled f nvs (settingsBuildResponseJson f nvs) =
      settingItemsReadBool f nvs .wifiPermDisable := by
  rw [wifiPermDisabled, shouldSetWifiPermDisable_response, Bool.or_self]

lemma getObjectItem_response_rs485 (p : Port) :
    (settingsBuildResponseJson f nvs).getObjectItem (rs485JsonName p) =
      some (rs485Json f nvs p) := by
  refine getObjectItem_response ?_
  simp only [responseMembers, List.mem_append]
  exact .inr (List.mem_map_of_mem (List.mem_finRange p))

lemma groupAt_response {g : Group}
    (hg : ¬ (g = .wifi ∧ settingItemsReadBool f nvs .wifiPermDisable = true)) :
    groupAt f nvs (settingsBuildResponseJson f nvs) g = some (responseGroup f nvs g) := by
  cases g with
  | topLevel => exact groupAt_topLevel
  | wifi =>
    have henabled : settingItemsReadBool f nvs .wifiPermDisable = false :=
      Bool.eq_false_iff.2 fun hdisabled => hg ⟨rfl, hdisabled⟩
    rw [groupAt_wifi, wifiGroup, wifiPermDisabled_response, henabled, if_neg (by simp)]
    refine getObjectItem_response ?_
    simp only [responseMembers, List.mem_append, henabled]
    exact .inl (.inl (.inr List.mem_cons_self))
  | ethernet =>
    rw [groupAt_ethernet]
    refine getObjectItem_response ?_
    simp only [responseMembers, List.mem_append]
    exact .inl (.inr List.mem_cons_self)
  | rs485 p => exact (groupAt_rs485 p).trans (getObjectItem_response_rs485 p)
  | bridge p =>
    rw [groupAt_bridge, getObjectItem_response_rs485, Option.bind_some]
    exact getObjectItem_obj_groupMembers (nodup_rs485Json p)
      (List.mem_append_right _ List.mem_cons_self)

/-! ## Reading back what is written -/

def SameReads (f : Factory) (nvs nvs' : Nvs) : Prop :=
  ∀ k, settingJson f nvs' k = settingJson f nvs k

lemma settingJson_congr (h : nvs' k = nvs k) : settingJson f nvs' k = settingJson f nvs k := by
  unfold settingJson
  rw [settingItemsRead_congr h, settingItemsReadBool_congr h, settingItemsReadInt_congr h]

lemma SameReads.read (h : SameReads f nvs nvs') (hk : k.type = .string) :
    settingItemsRead f nvs' k = settingItemsRead f nvs k := by
  have heq := h k
  simp only [settingJson, hk] at heq
  exact CJson.str.inj heq

lemma SameReads.readBool (h : SameReads f nvs nvs') (hk : k.type = .bool) :
    settingItemsReadBool f nvs' k = settingItemsReadBool f nvs k := by
  have heq := h k
  simp only [settingJson, hk] at heq
  exact CJson.bool.inj heq

lemma SameReads.readInt (h : SameReads f nvs nvs') (hk : k.type = .int) :
    settingItemsReadInt f nvs' k = settingItemsReadInt f nvs k := by
  have heq := h k
  simp only [settingJson, hk] at heq
  exact Rat.intCast_inj.1 (CJson.Double.finite.inj (CJson.num.inj heq))

lemma SameReads.port (h : SameReads f nvs nvs') (s : Service) : s.port f nvs' = s.port f nvs := by
  cases s with
  | web => rw [Service.port, Service.port, h.readInt rfl]
  | cache => rw [Service.port, Service.port, h.readInt rfl, h.readBool rfl]
  | bridge p =>
    rw [Service.port, Service.port, h.readInt rfl, h.read (k := .portMode p) rfl,
      h.read (k := .bridgeMode p) rfl]

lemma SameReads.settingsBuildResponseJson (h : SameReads f nvs nvs') :
    settingsBuildResponseJson f nvs' = settingsBuildResponseJson f nvs := by
  have hgroup (mappings : Mappings) :
      groupMembers f nvs' mappings = groupMembers f nvs mappings :=
    List.map_congr_left fun m _ => by rw [h m.2]
  have hrs485 (p : Port) : rs485Json f nvs' p = rs485Json f nvs p := by
    rw [rs485Json, rs485Json, hgroup, hgroup]
  change CJson.obj (responseMembers ..) = .obj (responseMembers ..)
  simp only [responseMembers, hgroup, hrs485, h.readBool (k := .wifiPermDisable) rfl]

/-- A storage in which every setting holds a value that its validator accepts and the reader's
buffer can take. -/
def Nvs.Valid (nvs : Nvs) : Prop :=
  ∀ k, ∃ value, nvs k = some value ∧ value.length < settingItemMaxStrLen ∧ k.validate value = true

lemma inRange_renderInt {min max : Int} {value : Text} (h : inRange min max value = true) :
    inRange min max (renderInt (strtol value).1) = true := by
  obtain ⟨hmin, hmax⟩ := CText.strtol_mem value
  simp only [inRange, Bool.and_eq_true, decide_eq_true_eq] at h ⊢
  rw [CText.strtol_renderInt hmin hmax]
  exact ⟨⟨rfl, h.1.2⟩, h.2⟩

lemma validate_renderInt (hk : k.type = .int) {value : Text} (h : k.validate value = true) :
    k.validate (renderInt (strtol value).1) = true := by
  cases k with
  | webPort | cacheModbusPort | baudrate | bridgePort => exact inRange_renderInt h
  | cacheValueTimeoutS =>
    obtain ⟨-, hrange⟩ := Bool.and_eq_true_iff.1 h
    refine Bool.and_eq_true_iff.2 ⟨?_, inRange_renderInt hrange⟩
    simpa using CText.renderInt_ne_nil _
  | _ => cases hk

lemma validate_boolText (hk : k.type = .bool) (b : Bool) : k.validate (boolText b) = true := by
  have hvalidator : k.validate = validateBool := by
    cases k with
    | ioBusEnabled | vout | wifiPermDisable | staDhcpc | ethDhcpc | term | failSafe | txDisabled
    | cacheEn | bridgeMb | cacheModbusServerEnabled => rfl
    | _ => cases hk
  rw [hvalidator]
  cases b <;> decide

lemma exists_settingText (h : nvs.Valid) :
    ∃ value, settingText k (settingJson f nvs k) = some value ∧ k.validate value = true ∧
      ∀ nvs', nvs' k = some value → settingJson f nvs' k = settingJson f nvs k := by
  obtain ⟨value, hvalue, hlen, hvalid⟩ := h k
  have hread : settingItemsRead f nvs k = value := settingItemsRead_of_eq_some hvalue hlen
  cases htype : k.type with
  | string =>
    refine ⟨value, ?_, hvalid, fun nvs' h' => ?_⟩
    · simp only [settingText, settingJson, htype, hread]
    · simp only [settingJson, htype, hread, settingItemsRead_of_eq_some h' hlen]
  | bool =>
    refine ⟨boolText (settingItemsReadBool f nvs k), ?_, validate_boolText htype _,
      fun nvs' h' => ?_⟩
    · simp only [settingText, settingJson, htype]
    · simp only [settingJson, htype, settingItemsReadBool_of_eq_some htype h']
  | int =>
    have hnum : settingItemsReadInt f nvs k = (strtol value).1 := by
      rw [settingItemsReadInt, if_pos htype, hread]
    obtain ⟨hmin, hmax⟩ := CText.strtol_mem value
    refine ⟨renderInt (strtol value).1, ?_, validate_renderInt htype hvalid, fun nvs' h' => ?_⟩
    · simp only [settingText, settingJson, htype, hnum, CJson.ofInt,
        CJson.Double.toInt_intCast hmin hmax, Option.map_some, snprintf_renderInt hmin hmax]
    · simp only [settingJson, htype, hnum, settingItemsReadInt_of_eq_some htype h' hmin hmax]

lemma groupAt_response_eq_some {g : Group} {group : CJson}
    (h : groupAt f nvs (settingsBuildResponseJson f nvs) g = some group) :
    group = responseGroup f nvs g := by
  have hg : ¬ (g = .wifi ∧ settingItemsReadBool f nvs .wifiPermDisable = true) := by
    rintro ⟨rfl, hdisabled⟩
    rw [groupAt, if_pos ⟨rfl, wifiPermDisabled_response.trans hdisabled⟩] at h
    cases h
  rw [groupAt_response hg, Option.some.injEq] at h
  exact h.symm

lemma fieldsValid_response (h : nvs.Valid) :
    fieldsValid f nvs (settingsBuildResponseJson f nvs) = true := by
  refine fieldsValid_of_groups fun g group hgroup => ?_
  obtain rfl := groupAt_response_eq_some hgroup
  refine ⟨fun _ => ?_, validateFields_iff.2 fun m hm item hitem => ?_⟩
  · cases g <;> rfl
  · obtain ⟨hk, rfl, hname⟩ := Group.mem_mappings.1 hm
    rw [← hname, getObjectItem_responseGroup hk, Option.some.injEq] at hitem
    subst hitem
    obtain ⟨value, htext, hvalid, -⟩ := exists_settingText (f := f) (k := m.2) h
    exact validateSettingFromJson_iff.2 ⟨value, htext, hvalid⟩

lemma sameReads_produced_response (h : nvs.Valid) :
    SameReads f nvs (produced f nvs (settingsBuildResponseJson f nvs)) := by
  intro k
  by_cases hk : k = .wifiPermDisable
  · subst hk
    have hflag := settingItemsReadBool_produced_wifiPermDisable f nvs
      (settingsBuildResponseJson f nvs)
    rw [shouldSetWifiPermDisable_response, Bool.or_self] at hflag
    exact congrArg CJson.bool hflag
  · by_cases hg : k.group = .wifi ∧ settingItemsReadBool f nvs .wifiPermDisable = true
    · -- the group does not count, so the record is as it was
      apply settingJson_congr
      rw [produced, requested, if_neg hk, if_pos ⟨hg.1, wifiPermDisabled_response.trans hg.2⟩,
        Option.none_or]
    · obtain ⟨value, htext, -, hreads⟩ := exists_settingText (f := f) (k := k) h
      apply hreads
      rw [produced, requested_of_ne hk, groupAt_response hg, Option.bind_some,
        getObjectItem_responseGroup hk, Option.bind_some, itemText_of_settingText htext,
        Option.some_or]

lemma validateRequest_response (h : nvs.Valid) (hfree : ∀ a b, ¬ Collide f nvs a b) :
    (validateRequest f nvs (settingsBuildResponseJson f nvs)).1 = true := by
  refine Bool.eq_true_of_not_eq_false fun hrejected => ?_
  obtain ⟨a, b, hcollide, -⟩ := (validateRequest_collision (fieldsValid_response h)).1 hrejected
  rw [Collide, (sameReads_produced_response h).port, (sameReads_produced_response h).port]
    at hcollide
  exact hfree a b hcollide

end Response

/-! ## Applying the cache overlay -/

def moveWrites (e : Stage → MoveEnv) : Nat → PortManager.State → Move → Stage → List Obs
  | 0, _, _, _ => []
  | n + 1, s, m, stage =>
    match s.moveStep (e stage) m stage with
    | (s, some stage, m, out) => out ++ moveWrites e n s m stage
    | (_, none, _, out) => out

def Nvs.observe (nvs : Nvs) : Obs → Nvs
  | .saveCacheEn p enabled => nvs.write (.cacheEn p) (boolText enabled)
  | .savePortMode p mode => nvs.write (.portMode p) (modeToStr mode)
  | .returned _ _ => nvs

/-- What `port_manager_apply_cache_settings` reads. -/
def settingsEnv (f : Factory) (nvs : Nvs) : SettingsEnv where
  cacheEn p := settingItemsReadBool f nvs (.cacheEn p)
  cacheEnAgain p := settingItemsReadBool f nvs (.cacheEn p)
  saveErr _ := espOk

/-- The writes of `port_manager_apply_cache_settings`. A move has a round for each port and the end
of the loop, and three further sections. -/
def applyCacheWrites (f : Factory) (s : PortManager.State) (e : Stage → MoveEnv) (nvs : Nvs) :
    List Obs :=
  let r := s.planMove (settingsEnv f nvs)
  match r.1 with
  | some m => r.2.2 ++ moveWrites e (bridgesCount + 4) s m m.firstStage
  | none => r.2.2

/-- `port_manager_apply_cache_settings` on the storage, without a failing write. -/
def applyCacheSettings (f : Factory) (s : PortManager.State) (e : Stage → MoveEnv) (nvs : Nvs) :
    Nvs :=
  (applyCacheWrites f s e nvs).foldl Nvs.observe nvs

def Confirms (cacheEn : Port → Bool) : Obs → Prop
  | .saveCacheEn p enabled => enabled = cacheEn p
  | .savePortMode _ _ => False
  | .returned _ _ => True

section Move

variable {cacheEn : Port → Bool} {e : Stage → MoveEnv}

/-- A move that makes the flags what they are: its own port has the flag it sets, and while it takes
the overlay from others, they have none. -/
structure Agrees (m : Move) (stage : Stage) (cacheEn : Port → Bool) : Prop where
  own : m.enabled = cacheEn m.port
  others : ∀ i, stage = .release i → ∀ p, p ≠ m.port → cacheEn p = false

lemma Agrees.moveStep {m : Move} {stage : Stage} (h : Agrees m stage cacheEn)
    (s : PortManager.State) (e : MoveEnv) :
    let r := s.moveStep e m stage
    (∀ o ∈ r.2.2.2, Confirms cacheEn o) ∧
      ∀ stage', r.2.1 = some stage' → Agrees r.2.2.1 stage' cacheEn := by
  cases stage with
  | release i =>
    simp only [PortManager.State.moveStep]
    split
    · split
      · rename_i htaken
        refine ⟨fun o ho => ?_, fun _ _ => ⟨h.own, fun _ _ => h.others i rfl⟩⟩
        rw [List.mem_singleton.1 ho]
        exact (h.others i rfl _ htaken.1).symm
      · exact ⟨fun _ ho => absurd ho List.not_mem_nil,
          fun _ _ => ⟨h.own, fun _ _ => h.others i rfl⟩⟩
    · exact ⟨fun _ ho => absurd ho List.not_mem_nil,
        fun _ _ => ⟨h.own, fun _ _ => h.others i rfl⟩⟩
  | apply =>
    refine ⟨fun o ho => ?_, ?_⟩
    · rw [List.mem_singleton.1 ho]
      exact h.own
    · rintro _ ⟨⟩
      exact ⟨h.own, fun _ hrelease => by cases hrelease⟩
  | sync =>
    refine ⟨fun _ ho => absurd ho List.not_mem_nil, ?_⟩
    rintro _ ⟨⟩
    exact ⟨h.own, fun _ hrelease => by cases hrelease⟩
  | clear => exact ⟨fun _ ho => absurd ho List.not_mem_nil, fun _ hend => by cases hend⟩

lemma Agrees.moveWrites {m : Move} {stage : Stage} (h : Agrees m stage cacheEn) (n : Nat)
    (s : PortManager.State) : ∀ o ∈ moveWrites e n s m stage, Confirms cacheEn o := by
  induction n generalizing s m stage with
  | zero => exact fun o ho => absurd ho List.not_mem_nil
  | succ n ih =>
    obtain ⟨hout, hnext⟩ := h.moveStep s (e stage)
    intro o ho
    rw [Settings.moveWrites] at ho
    split at ho
    · rename_i heq
      rw [heq] at hout hnext
      rcases List.mem_append.1 ho with ho | ho
      · exact hout o ho
      · exact ih (hnext _ rfl) _ o ho
    · rename_i heq
      rw [heq] at hout
      exact hout o ho

lemma agrees_planMove (s : PortManager.State) (env : SettingsEnv)
    (hagain : env.cacheEnAgain = env.cacheEn)
    (hone : ∀ p q, env.cacheEn p = true → env.cacheEn q = true → p = q) :
    let r := s.planMove env
    (∀ o ∈ r.2.2, Confirms env.cacheEn o) ∧
      ∀ m, r.1 = some m → Agrees m m.firstStage env.cacheEn := by
  constructor
  · intro o ho
    obtain ⟨i, hi, rfl⟩ := List.mem_map.1 ho
    -- a surplus port would be a second one
    simp only [SettingsEnv.surplus, List.mem_filter, Bool.and_eq_true, Option.any_eq_true,
      hagain] at hi
    obtain ⟨-, ⟨w, hw, hlt⟩, hi⟩ := hi
    have heq := hone w i (List.find?_some hw) hi
    subst heq
    exact absurd (of_decide_eq_true hlt) (Nat.lt_irrefl _)
  · intro m hm
    simp only [PortManager.State.planMove] at hm
    split at hm
    · cases hm
    split at hm
    · rename_i port hwanted
      cases hm
      have hport : env.cacheEn port = true := List.find?_some hwanted
      refine ⟨hport.symm, fun _ _ p hp => Bool.eq_false_iff.2 fun henabled => ?_⟩
      exact hp (hone p port henabled hport)
    · rename_i hwanted
      obtain ⟨port, -, rfl⟩ := Option.map_eq_some_iff.1 hm
      have hport := List.find?_eq_none.1 hwanted port (List.mem_finRange port)
      exact ⟨(Bool.eq_false_iff.2 hport).symm, fun _ hrelease => by cases hrelease⟩

lemma confirms_applyCacheWrites (f : Factory) (s : PortManager.State) (e : Stage → MoveEnv)
    (nvs : Nvs)
    (hone : ∀ p q, settingItemsReadBool f nvs (.cacheEn p) = true →
      settingItemsReadBool f nvs (.cacheEn q) = true → p = q) :
    ∀ o ∈ applyCacheWrites f s e nvs,
      Confirms (fun p => settingItemsReadBool f nvs (.cacheEn p)) o := by
  obtain ⟨hout, hplan⟩ := agrees_planMove s (settingsEnv f nvs) rfl hone
  intro o ho
  simp only [applyCacheWrites] at ho
  split at ho
  · rename_i m hm
    rcases List.mem_append.1 ho with ho | ho
    · exact hout o ho
    · exact (hplan m hm).moveWrites _ s o ho
  · exact hout o ho

end Move

section Apply

variable {f : Factory} {nvs nvs' : Nvs}

lemma SameReads.observe (h : SameReads f nvs nvs') {o : Obs}
    (ho : Confirms (fun p => settingItemsReadBool f nvs (.cacheEn p)) o) :
    SameReads f nvs (nvs'.observe o) := by
  cases o with
  | saveCacheEn p enabled =>
    intro k
    by_cases hk : k = .cacheEn p
    · subst hk
      have hflag : settingItemsReadBool f (nvs'.observe (.saveCacheEn p enabled)) (.cacheEn p) =
          enabled := settingItemsReadBool_of_eq_some rfl (Function.update_self _ _ _)
      exact congrArg CJson.bool (hflag.trans ho)
    · exact (settingJson_congr (Function.update_of_ne hk _ _)).trans (h k)
  | savePortMode p mode => exact ho.elim
  | returned task err => exact h

lemma SameReads.foldl_observe (h : SameReads f nvs nvs') {out : List Obs}
    (hout : ∀ o ∈ out, Confirms (fun p => settingItemsReadBool f nvs (.cacheEn p)) o) :
    SameReads f nvs (out.foldl Nvs.observe nvs') := by
  induction out generalizing nvs' with
  | nil => exact h
  | cons o out ih =>
    rw [List.foldl_cons]
    exact ih (h.observe (hout o List.mem_cons_self)) fun o' ho' =>
      hout o' (List.mem_cons_of_mem o ho')

end Apply

/-- What is read can be written back. The answer to GET /settings is accepted as a request and, the
storage working, the answer after it is the same. -/
theorem processRequest_response (f : Factory) (nvs : Nvs) (hvalid : nvs.Valid)
    (hfree : ∀ a b, ¬ Collide f nvs a b)
    (hone : ∀ p q, settingItemsReadBool f nvs (.cacheEn p) = true →
      settingItemsReadBool f nvs (.cacheEn q) = true → p = q)
    (s : PortManager.State) (e : Stage → MoveEnv) :
    let r := processRequest f (fun _ => .ok) nvs (settingsBuildResponseJson f nvs)
    r.1.error = none ∧
      settingsBuildResponseJson f (applyCacheSettings f s e r.2) =
        settingsBuildResponseJson f nvs := by
  have haccepted := validateRequest_response hvalid hfree
  have hreads : SameReads f nvs (produced f nvs (settingsBuildResponseJson f nvs)) :=
    sameReads_produced_response hvalid
  rcases processRequest_of_valid (fun _ => .ok) haccepted with hok | ⟨⟨k, hk⟩, -⟩
  · simp only [hok]
    refine ⟨trivial, SameReads.settingsBuildResponseJson ?_⟩
    -- the flags that the port manager finds are the old ones
    have hflag (p : Port) := hreads.readBool (k := .cacheEn p) rfl
    have hout := confirms_applyCacheWrites f s e (produced f nvs (settingsBuildResponseJson f nvs))
    simp only [hflag] at hout
    exact hreads.foldl_observe (hout hone)
  · exact absurd rfl hk

def spelledNvs : Nvs :=
  Nvs.write (fun k => some (getSettingDefaultValue ⟨none, none⟩ k)) .webPort " +080".toList

theorem processRequest_response_spelledNvs :
    let s := PortManager.State.initSubsystems (fun _ => false) true true
    let r := processRequest ⟨none, none⟩ (fun _ => .ok) spelledNvs
      (settingsBuildResponseJson ⟨none, none⟩ spelledNvs)
    r.1.error = none ∧
      settingsBuildResponseJson ⟨none, none⟩
          (applyCacheSettings ⟨none, none⟩ s (fun _ => ⟨espOk, 0, true⟩) r.2) =
        settingsBuildResponseJson ⟨none, none⟩ spelledNvs := by
  have hvalid : ∀ k ∈ settingKeys, (spelledNvs k).any fun value =>
      value.length < settingItemMaxStrLen ∧ k.validate value = true := by
    decide +kernel
  have hfree : ∀ a ∈ services, ∀ b ∈ services, a ≠ b →
      a.port ⟨none, none⟩ spelledNvs ≠ b.port ⟨none, none⟩ spelledNvs := by
    decide +kernel
  apply processRequest_response
  · intro k
    obtain ⟨value, hvalue, h⟩ := (Option.any_eq_true _ _).1 (hvalid k (mem_settingKeys k))
    exact ⟨value, hvalue, of_decide_eq_true h⟩
  · rintro a b ⟨hne, port, ha, hb⟩
    exact hfree a (mem_services a) b (mem_services b) hne (ha.trans hb.symm)
  · decide +kernel

end WbMge.Settings
