import WbMge.Settings.Manager

/-!
# What a request changes

A settings request is all or nothing, but for failing writes: a request that is rejected leaves the
storage as it is, and one that is accepted overwrites exactly the settings whose fields it has.

The code reaches the fields through five tables, once to validate and once to write. `Key.path` says
for each setting where its field is, and `requested` what a request wants of a setting. The fields
of an accepted request have passed the validators (`fieldsValid_field`), so that every table writes
what is requested (`mem_requestRecords`).
-/

namespace WbMge.Settings

open Cache (bridgesCount)
open CText (renderInt)
open Json (Text)

/-! ## Where the field of a setting is -/

inductive Group where
  | topLevel
  | wifi
  | ethernet
  | rs485 (port : Port)
  | bridge (port : Port)
deriving Repr, DecidableEq

def Group.path : Group → List Text
  | topLevel => []
  | wifi => ["wifi".toList]
  | ethernet => ["ethernet".toList]
  | rs485 p => [rs485JsonName p]
  | bridge p => [rs485JsonName p, "bridge".toList]

def Group.mappings : Group → Mappings
  | topLevel => topLevelMappings
  | wifi => wifiMappings
  | ethernet => ethernetMappings
  | rs485 p => rs485BaseMappings p
  | bridge p => rs485BridgeMappings p

def Key.group : Key → Group
  | hostname | login | pass | webPort | ioBusEnabled | vout | wifiPermDisable | cacheModbusPort
  | cacheModbusServerEnabled | cacheValueTimeoutS | updateChannel => .topLevel
  | wifiMode | wifiAuthAp | wifiAuthSta | apSsid | apPass | apIpStatic | apMaskStatic | apGwStatic
  | staSsid | staPass | staDhcpc | staIpStatic | staMaskStatic | staGwStatic => .wifi
  | ethIpStatic | ethMaskStatic | ethGwStatic | ethDhcpc => .ethernet
  | baudrate p | stopbits p | parity p | databits p | term p | failSafe p | txDisabled p
  | cacheEn p | portMode p => .rs485 p
  | bridgeMode p | bridgePort p | bridgeIp p | bridgeMb p => .bridge p

def Key.jsonKey : Key → Text
  | hostname => "hostname".toList
  | login => "login".toList
  | pass => "pass".toList
  | webPort => "web_port".toList
  | ioBusEnabled => "io_bus".toList
  | vout => "vout".toList
  | wifiPermDisable => "wifi_perm_disable".toList
  | wifiMode => "mode".toList
  | wifiAuthAp => "ap_auth".toList
  | wifiAuthSta => "sta_auth".toList
  | apSsid => "ap_ssid".toList
  | apPass => "ap_pass".toList
  | apIpStatic => "ap_ip_static".toList
  | apMaskStatic => "ap_mask_static".toList
  | apGwStatic => "ap_gw_static".toList
  | staSsid => "sta_ssid".toList
  | staPass => "sta_pass".toList
  | staDhcpc => "sta_dhcpc".toList
  | staIpStatic => "sta_ip_static".toList
  | staMaskStatic => "sta_mask_static".toList
  | staGwStatic => "sta_gw_static".toList
  | ethIpStatic => "ip_static".toList
  | ethMaskStatic => "mask_static".toList
  | ethGwStatic => "gw_static".toList
  | ethDhcpc => "dhcpc".toList
  | baudrate _ => "baudrate".toList
  | stopbits _ => "stopbits".toList
  | parity _ => "parity".toList
  | databits _ => "databits".toList
  | term _ => "term".toList
  | failSafe _ => "fail_safe".toList
  | txDisabled _ => "tx_disabled".toList
  | cacheEn _ => "cache_en".toList
  | portMode _ => "port_mode".toList
  | bridgeMode _ => "mode".toList
  | bridgePort _ => "port".toList
  | bridgeIp _ => "ip".toList
  | bridgeMb _ => "modbus".toList
  | cacheModbusPort => "cache_modbus_port".toList
  | cacheModbusServerEnabled => "cache_modbus_server_enabled".toList
  | cacheValueTimeoutS => "cache_value_timeout_s".toList
  | updateChannel => "update_channel".toList

def Key.path (k : Key) : List Text := k.group.path ++ [k.jsonKey]

def field (request : CJson) (k : Key) : Option CJson := request.getPath k.path

lemma Group.mem_mappings {g : Group} {k : Key} {name : Text} :
    (name, k) ∈ g.mappings ↔ k ≠ .wifiPermDisable ∧ k.group = g ∧ k.jsonKey = name := by
  constructor
  · have hrows : ∀ m ∈ g.mappings, m.2 ≠ .wifiPermDisable ∧ m.2.group = g ∧ m.2.jsonKey = m.1 := by
      cases g with
      | topLevel | wifi | ethernet => decide +kernel
      | rs485 p | bridge p =>
        revert p
        decide +kernel
    exact hrows (name, k)
  · have hkeys : ∀ k ∈ settingKeys, k ≠ .wifiPermDisable → (k.jsonKey, k) ∈ k.group.mappings := by
      decide +kernel
    rintro ⟨hne, rfl, rfl⟩
    exact hkeys k (mem_settingKeys k) hne

/-! ## What a request asks for -/

def itemText : CJson → Option Text
  | .str value => some value
  | .bool b => some (boolText b)
  | .num d => d.toInt.map renderInt
  | _ => none

section Requested

variable (f : Factory) (nvs : Nvs) (request : CJson)

def groupAt (g : Group) : Option CJson :=
  if g = .wifi ∧ wifiPermDisabled f nvs request = true then none else request.getPath g.path

/-- The text that the request saves under a key. -/
def requested (k : Key) : Option Text :=
  if k = .wifiPermDisable then
    if shouldSetWifiPermDisable request then some (boolText true) else none
  else if k.group = .wifi ∧ wifiPermDisabled f nvs request = true then none
  else (field request k).bind itemText

/-- The storage after the request. -/
def produced : Nvs := fun k => (requested f nvs request k).or (nvs k)

def fieldRecord (group : CJson) (m : Text × Key) : List (Key × Text) :=
  match group.getObjectItem m.1 with
  | some item => ((settingText m.2 item).map fun value => (m.2, value)).toList
  | none => []

def groupRecords (g : Group) : List (Key × Text) :=
  match groupAt f nvs request g with
  | some group => g.mappings.flatMap (fieldRecord group)
  | none => []

def requestRecords : List (Key × Text) :=
  (if shouldSetWifiPermDisable request then [(.wifiPermDisable, boolText true)] else []) ++
    (groupRecords f nvs request .topLevel ++ (groupRecords f nvs request .wifi ++
      (groupRecords f nvs request .ethernet ++ (List.finRange bridgesCount).flatMap fun p =>
        groupRecords f nvs request (.rs485 p) ++ groupRecords f nvs request (.bridge p))))

end Requested

section Fields

variable {f : Factory} {nvs : Nvs} {request group item : CJson} {k : Key} {value : Text}
  {mappings : Mappings} {g : Group}

lemma groupAt_of_ne (hg : g ≠ .wifi) : groupAt f nvs request g = request.getPath g.path :=
  if_neg fun h => hg h.1

lemma groupAt_topLevel : groupAt f nvs request .topLevel = some request := groupAt_of_ne (by simp)

lemma groupAt_wifi : groupAt f nvs request .wifi = wifiGroup f nvs request := by
  rw [groupAt, wifiGroup, Group.path, CJson.getPath_singleton]
  exact if_congr (and_iff_right rfl) rfl rfl

lemma groupAt_ethernet :
    groupAt f nvs request .ethernet = request.getObjectItem "ethernet".toList :=
  (groupAt_of_ne (by simp)).trans (CJson.getPath_singleton _ _)

lemma groupAt_rs485 (p : Port) :
    groupAt f nvs request (.rs485 p) = request.getObjectItem (rs485JsonName p) :=
  (groupAt_of_ne (by simp)).trans (CJson.getPath_singleton _ _)

lemma groupAt_bridge (p : Port) :
    groupAt f nvs request (.bridge p) =
      (request.getObjectItem (rs485JsonName p)).bind (·.getObjectItem "bridge".toList) :=
  (groupAt_of_ne (by simp)).trans (CJson.getPath_concat [rs485JsonName p] _ _ |>.trans
    (congrArg (Option.bind · _) (CJson.getPath_singleton _ _)))

/-! ### Validated fields -/

lemma validateSettingFromJson_iff : validateSettingFromJson item k = true ↔
    ∃ value, settingText k item = some value ∧ k.validate value = true := by
  unfold validateSettingFromJson
  cases settingText k item <;> simp

lemma validateFields_iff : validateFields group mappings = true ↔
    ∀ m ∈ mappings, ∀ item, group.getObjectItem m.1 = some item →
      validateSettingFromJson item m.2 = true := by
  rw [validateFields, List.all_eq_true]
  refine forall₂_congr fun m _ => ?_
  cases group.getObjectItem m.1 <;> simp

lemma validateGroupSettings_iff {group : Option CJson} :
    validateGroupSettings group mappings = true ↔
      ∀ t, group = some t → t.isObject = true ∧ validateFields t mappings = true := by
  cases group <;> simp [validateGroupSettings]

lemma validateRs485Port_iff {p : Port} : validateRs485Port request p = true ↔
    ∀ t, request.getObjectItem (rs485JsonName p) = some t →
      (t.isObject = true ∧ validateFields t (rs485BaseMappings p) = true) ∧
        validateGroupSettings (t.getObjectItem "bridge".toList) (rs485BridgeMappings p) = true := by
  unfold validateRs485Port
  cases request.getObjectItem (rs485JsonName p) <;> simp

lemma fieldsValid_group (h : fieldsValid f nvs request = true)
    (hg : groupAt f nvs request g = some group) :
    (g ≠ .topLevel → group.isObject = true) ∧ validateFields group g.mappings = true := by
  simp only [fieldsValid, Bool.and_eq_true, validateTopLevelSettings, validateGroupSettings_iff,
    validateRs485Settings, List.all_eq_true, validateRs485Port_iff] at h
  obtain ⟨⟨⟨htop, hwifi⟩, heth⟩, hrs485⟩ := h
  cases g with
  | topLevel =>
    rw [groupAt_topLevel, Option.some.injEq] at hg
    subst hg
    exact ⟨fun hne => absurd rfl hne, htop⟩
  | wifi =>
    have hgroup := hwifi group (groupAt_wifi.symm.trans hg)
    exact ⟨fun _ => hgroup.1, hgroup.2⟩
  | ethernet =>
    have hgroup := heth group (groupAt_ethernet.symm.trans hg)
    exact ⟨fun _ => hgroup.1, hgroup.2⟩
  | rs485 p =>
    have hgroup := hrs485 p (List.mem_finRange p) group ((groupAt_rs485 p).symm.trans hg)
    exact ⟨fun _ => hgroup.1.1, hgroup.1.2⟩
  | bridge p =>
    rw [groupAt_bridge, Option.bind_eq_some_iff] at hg
    obtain ⟨rs485, hrs, hbridge⟩ := hg
    have hgroup := (hrs485 p (List.mem_finRange p) rs485 hrs).2 group hbridge
    exact ⟨fun _ => hgroup.1, hgroup.2⟩

lemma fieldsValid_of_groups
    (h : ∀ g group, groupAt f nvs request g = some group →
      (g ≠ .topLevel → group.isObject = true) ∧ validateFields group g.mappings = true) :
    fieldsValid f nvs request = true := by
  simp only [fieldsValid, Bool.and_eq_true, validateTopLevelSettings, validateGroupSettings_iff,
    validateRs485Settings, List.all_eq_true, validateRs485Port_iff]
  refine ⟨⟨⟨(h .topLevel request groupAt_topLevel).2, fun t ht => ?_⟩, fun t ht => ?_⟩,
    fun p _ t ht => ⟨?_, fun bridge hbridge => ?_⟩⟩
  · obtain ⟨hobj, hfields⟩ := h .wifi t (groupAt_wifi.trans ht)
    exact ⟨hobj (by simp), hfields⟩
  · obtain ⟨hobj, hfields⟩ := h .ethernet t (groupAt_ethernet.trans ht)
    exact ⟨hobj (by simp), hfields⟩
  · obtain ⟨hobj, hfields⟩ := h (.rs485 p) t ((groupAt_rs485 p).trans ht)
    exact ⟨hobj (by simp), hfields⟩
  · obtain ⟨hobj, hfields⟩ := h (.bridge p) bridge <| by
      rw [groupAt_bridge, ht]
      exact hbridge
    exact ⟨hobj (by simp), hfields⟩

lemma field_eq_bind_getPath (request : CJson) (k : Key) :
    field request k = (request.getPath k.group.path).bind (·.getObjectItem k.jsonKey) :=
  CJson.getPath_concat _ _ _

lemma requested_of_ne (hk : k ≠ .wifiPermDisable) :
    requested f nvs request k =
      ((groupAt f nvs request k.group).bind (·.getObjectItem k.jsonKey)).bind itemText := by
  rw [requested, if_neg hk, groupAt]
  split
  · rfl
  · rw [field_eq_bind_getPath]

inductive Stands : ItemType → CJson → Text → Prop
  | string (value : Text) : Stands .string (.str value) value
  | bool (b : Bool) : Stands .bool (.bool b) (boolText b)
  | int {d : CJson.Double} {n : Int} (hn : d.toInt = some n) : Stands .int (.num d) (renderInt n)

lemma stands_of_settingText (h : settingText k item = some value) :
    Stands k.type item value := by
  unfold settingText at h
  split at h
  · rename_i htype
    cases h
    rw [htype]
    exact .string value
  · rename_i b htype
    cases h
    rw [htype]
    exact .bool b
  · rename_i d htype
    obtain ⟨n, hn, rfl⟩ := Option.map_eq_some_iff.1 h
    obtain ⟨hmin, hmax⟩ := CJson.Double.toInt_mem hn
    rw [htype, snprintf_renderInt hmin hmax]
    exact .int hn
  · cases h

lemma itemText_of_settingText (h : settingText k item = some value) :
    itemText item = some value := by
  have hstands := stands_of_settingText h
  generalize k.type = type at hstands
  cases hstands with
  | string | bool => rfl
  | int hn => rw [itemText, hn, Option.map_some]

lemma fieldsValid_field (h : fieldsValid f nvs request = true) (hk : k ≠ .wifiPermDisable)
    (hg : groupAt f nvs request k.group = some group)
    (hitem : group.getObjectItem k.jsonKey = some item) :
    ∃ value, settingText k item = some value ∧ k.validate value = true := by
  have hvalid := validateFields_iff.1 (fieldsValid_group h hg).2
  exact validateSettingFromJson_iff.1
    (hvalid (k.jsonKey, k) (Group.mem_mappings.2 ⟨hk, rfl, rfl⟩) item hitem)

/-! ### The records of a request -/

lemma mem_fieldRecord {m : Text × Key} : (k, value) ∈ fieldRecord group m ↔
    m.2 = k ∧ ∃ item, group.getObjectItem m.1 = some item ∧ settingText k item = some value := by
  unfold fieldRecord
  cases group.getObjectItem m.1 with
  | none => simp
  | some item =>
    simp only [Option.mem_toList, Option.map_eq_some_iff, Prod.mk.injEq,
      Option.some.injEq, exists_eq_left']
    constructor
    · rintro ⟨_, hvalue, rfl, rfl⟩
      exact ⟨rfl, hvalue⟩
    · rintro ⟨rfl, hvalue⟩
      exact ⟨value, hvalue, rfl, rfl⟩

lemma mem_groupRecords : (k, value) ∈ groupRecords f nvs request g ↔
    k ≠ .wifiPermDisable ∧ k.group = g ∧ ∃ group item, groupAt f nvs request g = some group ∧
      group.getObjectItem k.jsonKey = some item ∧ settingText k item = some value := by
  unfold groupRecords
  cases groupAt f nvs request g with
  | none => simp
  | some group =>
    simp only [List.mem_flatMap, Prod.exists, mem_fieldRecord, Group.mem_mappings,
      Option.some.injEq]
    constructor
    · rintro ⟨_, _, ⟨hk, hg, rfl⟩, rfl, item, hitem, hvalue⟩
      exact ⟨hk, hg, group, item, rfl, hitem, hvalue⟩
    · rintro ⟨hk, hg, _, item, rfl, hitem, hvalue⟩
      exact ⟨k.jsonKey, k, ⟨hk, hg, rfl⟩, rfl, item, hitem, hvalue⟩

lemma mem_requestRecords_of_group (h : (k, value) ∈ groupRecords f nvs request g) :
    (k, value) ∈ requestRecords f nvs request := by
  simp only [requestRecords, List.mem_append, List.mem_flatMap]
  cases g with
  | topLevel => exact .inr (.inl h)
  | wifi => exact .inr (.inr (.inl h))
  | ethernet => exact .inr (.inr (.inr (.inl h)))
  | rs485 p => exact .inr (.inr (.inr (.inr ⟨p, List.mem_finRange p, .inl h⟩)))
  | bridge p => exact .inr (.inr (.inr (.inr ⟨p, List.mem_finRange p, .inr h⟩)))

lemma mem_requestRecords_cases (h : (k, value) ∈ requestRecords f nvs request) :
    (k = .wifiPermDisable ∧ value = boolText true ∧ shouldSetWifiPermDisable request = true) ∨
      ∃ g, (k, value) ∈ groupRecords f nvs request g := by
  simp only [requestRecords, List.mem_append, List.mem_flatMap] at h
  rcases h with h | h | h | h | ⟨p, -, h | h⟩
  · left
    split at h
    · rename_i hset
      cases List.mem_singleton.1 h
      exact ⟨rfl, rfl, hset⟩
    · cases h
  all_goals exact .inr ⟨_, h⟩

lemma mem_requestRecords (h : fieldsValid f nvs request = true) :
    (k, value) ∈ requestRecords f nvs request ↔ requested f nvs request k = some value := by
  constructor
  · intro hmem
    rcases mem_requestRecords_cases hmem with ⟨rfl, rfl, hset⟩ | ⟨g, hrecord⟩
    · rw [requested, if_pos rfl, if_pos hset]
    · obtain ⟨hk, rfl, group, item, hgroup, hitem, hvalue⟩ := mem_groupRecords.1 hrecord
      rw [requested_of_ne hk, hgroup, Option.bind_some, hitem, Option.bind_some]
      exact itemText_of_settingText hvalue
  · intro hreq
    by_cases hk : k = .wifiPermDisable
    · subst hk
      rw [requested, if_pos rfl, Option.ite_none_right_eq_some] at hreq
      obtain ⟨hset, hvalue⟩ := hreq
      cases hvalue
      simp [requestRecords, hset]
    · rw [requested_of_ne hk, Option.bind_eq_some_iff] at hreq
      obtain ⟨item, hitem, hvalue⟩ := hreq
      obtain ⟨group, hgroup, hitem⟩ := Option.bind_eq_some_iff.1 hitem
      -- the field was validated, so it is of the type of the setting
      obtain ⟨value', htext, -⟩ := fieldsValid_field h hk hgroup hitem
      obtain rfl : value' = value := by
        have := itemText_of_settingText htext
        rw [hvalue] at this
        exact (Option.some.inj this).symm
      exact mem_requestRecords_of_group
        (mem_groupRecords.2 ⟨hk, rfl, group, item, hgroup, hitem, htext⟩)

lemma writeAll_requestRecords (h : fieldsValid f nvs request = true) :
    nvs.writeAll (requestRecords f nvs request) = produced f nvs request := by
  funext k
  rw [produced]
  cases hreq : requested f nvs request k with
  | some value =>
    refine Nvs.writeAll_of_mem ((mem_requestRecords h).2 hreq) (fun value' hmem => ?_) nvs
    rw [mem_requestRecords h, hreq] at hmem
    exact (Option.some.inj hmem).symm
  | none =>
    refine Nvs.writeAll_of_notMem (fun hkey => ?_) nvs
    obtain ⟨⟨_, value⟩, hmem, rfl⟩ := List.mem_map.1 hkey
    rw [mem_requestRecords h, hreq] at hmem
    cases hmem

lemma validate_of_requested (h : fieldsValid f nvs request = true)
    (hreq : requested f nvs request k = some value) : k.validate value = true := by
  rcases mem_requestRecords_cases ((mem_requestRecords h).2 hreq) with ⟨rfl, rfl, -⟩ | ⟨g, hrecord⟩
  · decide
  obtain ⟨hk, rfl, group, item, hgroup, hitem, hvalue⟩ := mem_groupRecords.1 hrecord
  obtain ⟨value', htext, hvalid⟩ := fieldsValid_field h hk hgroup hitem
  rw [hvalue, Option.some.injEq] at htext
  rwa [htext]

end Fields

/-! ## The writes -/

section Apply

variable {f : Factory} {io : Key → WriteOutcome} {nvs : Nvs} {request group item : CJson} {k : Key}
  {value : Text} {mappings : Mappings}

lemma writes_saveSettingFromJson (htext : settingText k item = some value)
    (hvalid : k.validate value = true) :
    Writes io (saveSettingFromJson io item k) [(k, value)] := by
  have hjson : validateSettingFromJson item k = true :=
    validateSettingFromJson_iff.2 ⟨value, htext, hvalid⟩
  unfold saveSettingFromJson
  rw [if_pos hjson]
  have hstands := stands_of_settingText htext
  generalize k.type = type at hstands ⊢
  cases hstands with
  | string | bool => exact writes_settingItemsSave hvalid
  | @int d n hn =>
    obtain ⟨hmin, hmax⟩ := CJson.Double.toInt_mem hn
    have hsave : settingItemsSaveInt io k n = settingItemsSave io k (renderInt n) :=
      if_neg (not_le.2 (length_renderInt_lt hmin hmax))
    simp only [hn, hsave]
    exact writes_settingItemsSave hvalid

lemma writes_saveFields (h : validateFields group mappings = true) :
    Writes io (saveFields io group mappings) (mappings.flatMap (fieldRecord group)) := by
  refine Writes.forM fun m hm => ?_
  have hfield := validateFields_iff.1 h m hm
  unfold fieldRecord
  cases hitem : group.getObjectItem m.1 with
  | none => exact .pure
  | some item =>
    obtain ⟨value, htext, hvalid⟩ := validateSettingFromJson_iff.1 (hfield item hitem)
    simp only [htext]
    exact writes_saveSettingFromJson htext hvalid

lemma writes_saveGroupSettings (io : Key → WriteOutcome) (h : fieldsValid f nvs request = true)
    {g : Group} (hg : g ≠ .topLevel) :
    Writes io (saveGroupSettings io (groupAt f nvs request g) g.mappings)
      (groupRecords f nvs request g) := by
  unfold groupRecords saveGroupSettings
  cases hgroup : groupAt f nvs request g with
  | none => exact .pure
  | some group =>
    obtain ⟨hobj, hvalid⟩ := fieldsValid_group h hgroup
    simp only [hobj hg, if_true]
    exact writes_saveFields hvalid

lemma writes_processRs485Port (io : Key → WriteOutcome) (h : fieldsValid f nvs request = true)
    (p : Port) :
    Writes io (processRs485Port io request p)
      (groupRecords f nvs request (.rs485 p) ++ groupRecords f nvs request (.bridge p)) := by
  have hbridge := writes_saveGroupSettings io h (g := .bridge p) (by simp)
  rw [groupAt_bridge] at hbridge
  unfold processRs485Port
  cases hrs485 : request.getObjectItem (rs485JsonName p) with
  | none =>
    rw [groupRecords, groupAt_rs485, hrs485, groupRecords, groupAt_bridge, hrs485]
    exact .pure
  | some rs485 =>
    have hgroup : groupAt f nvs request (.rs485 p) = some rs485 := (groupAt_rs485 p).trans hrs485
    obtain ⟨hobj, hvalid⟩ := fieldsValid_group h hgroup
    rw [hrs485] at hbridge
    simp only [hobj (by simp), if_true, groupRecords, hgroup]
    exact (writes_saveFields hvalid).bind hbridge

lemma writes_applyRequest (io : Key → WriteOutcome) (h : fieldsValid f nvs request = true) :
    Writes io (applyRequest f io nvs request) (requestRecords f nvs request) := by
  have hperm : Writes io (saveWifiPermDisable io request)
      (if shouldSetWifiPermDisable request then [(.wifiPermDisable, boolText true)] else []) := by
    unfold saveWifiPermDisable
    split
    · exact writes_settingItemsSave (by decide)
    · exact .pure
  have htop : Writes io (saveFields io request topLevelMappings)
      (groupRecords f nvs request .topLevel) := by
    rw [groupRecords, groupAt_topLevel]
    exact writes_saveFields (fieldsValid_group h groupAt_topLevel).2
  have hwifi := writes_saveGroupSettings io h (g := .wifi) (by simp)
  have heth := writes_saveGroupSettings io h (g := .ethernet) (by simp)
  rw [groupAt_wifi] at hwifi
  rw [groupAt_ethernet] at heth
  have hrs485 : Writes io (processRs485Settings io request) _ :=
    Writes.forM fun p _ => writes_processRs485Port io h p
  exact (hperm.adapt _).bind ((htop.adapt _).bind ((hwifi.adapt _).bind ((heth.adapt _).bind
    (hrs485.adapt _))))

lemma fieldsValid_of_validateRequest (h : (validateRequest f nvs request).1 = true) :
    fieldsValid f nvs request = true := by
  unfold validateRequest at h
  split at h
  · assumption
  · cases h

lemma processRequest_of_invalid (io : Key → WriteOutcome)
    (h : (validateRequest f nvs request).1 = false) :
    processRequest f io nvs request =
      (⟨some invalidSettingsValue, (validateRequest f nvs request).2⟩, nvs) := by
  simp [processRequest, h]

lemma processRequest_of_valid (io : Key → WriteOutcome)
    (h : (validateRequest f nvs request).1 = true) :
    processRequest f io nvs request =
        (⟨none, (validateRequest f nvs request).2⟩, produced f nvs request) ∨
      (∃ k, io k ≠ .ok) ∧ ∃ e, (processRequest f io nvs request).1.error = some e := by
  have hfields := fieldsValid_of_validateRequest h
  rcases writes_applyRequest io hfields nvs with hok | ⟨⟨r, -, hio⟩, e, herr⟩
  · left
    rw [writeAll_requestRecords hfields] at hok
    simp [processRequest, h, hok]
  · right
    obtain ⟨nvs', hrun⟩ : ∃ nvs', (applyRequest f io nvs request).run.run nvs = (.error e, nvs') :=
      ⟨_, Prod.ext herr rfl⟩
    exact ⟨⟨r.1, hio⟩, e, by simp [processRequest, h, hrun]⟩

lemma settingItemsReadBool_produced_wifiPermDisable (f : Factory) (nvs : Nvs) (request : CJson) :
    settingItemsReadBool f (produced f nvs request) .wifiPermDisable =
      (settingItemsReadBool f nvs .wifiPermDisable || shouldSetWifiPermDisable request) := by
  cases hset : shouldSetWifiPermDisable request with
  | false =>
    have hreq : requested f nvs request .wifiPermDisable = none := by
      rw [requested, if_pos rfl, hset]
      rfl
    rw [Bool.or_false]
    apply settingItemsReadBool_congr
    rw [produced, hreq, Option.none_or]
  | true =>
    have hreq : requested f nvs request .wifiPermDisable = some (boolText true) := by
      rw [requested, if_pos rfl, hset]
      rfl
    rw [Bool.or_true]
    apply settingItemsReadBool_of_eq_some rfl
    rw [produced, hreq, Option.some_or]

end Apply

/-- A request is all or nothing. One that is rejected changes nothing. One that is accepted, if no
write fails, changes the storage to its old contents with the values that are asked for, each of
which passes the validator of its key; and it can set the flag that disables WiFi, but not clear
it. -/
theorem processRequest_allOrNothing (f : Factory) (io : Key → WriteOutcome) (nvs : Nvs)
    (request : CJson) :
    let r := processRequest f io nvs request
    ((validateRequest f nvs request).1 = false →
      r.1.error = some invalidSettingsValue ∧ r.2 = nvs) ∧
    ((validateRequest f nvs request).1 = true → (∀ k, io k = .ok) →
      r.1.error = none ∧ (∀ k, r.2 k = (requested f nvs request k).or (nvs k)) ∧
      (∀ k value, requested f nvs request k = some value → k.validate value = true) ∧
      settingItemsReadBool f r.2 .wifiPermDisable =
        (settingItemsReadBool f nvs .wifiPermDisable || shouldSetWifiPermDisable request)) := by
  refine ⟨fun h => ?_, fun h hio => ?_⟩
  · rw [processRequest_of_invalid io h]
    exact ⟨rfl, rfl⟩
  · rcases processRequest_of_valid io h with hok | ⟨⟨k, hk⟩, -⟩
    · rw [hok]
      exact ⟨rfl, fun _ => rfl, fun _ _ => validate_of_requested (fieldsValid_of_validateRequest h),
        settingItemsReadBool_produced_wifiPermDisable f nvs request⟩
    · exact absurd (hio k) hk

/-- A request with a name in other case, a number with a fraction, a WiFi group that does not count
and a nested group. -/
def mixedRequest : CJson :=
  .obj
    [("Web_Port".toList, .num (.finite (16161 / 2))),
     ("wifi_perm_disable".toList, .bool true),
     ("wifi".toList, .num (.finite 0)),
     ("rs485_2".toList, .obj [("bridge".toList, .obj [("modbus".toList, .bool true)])])]

theorem processRequest_mixedRequest :
    let r := processRequest ⟨none, none⟩ (fun _ => .ok) (fun _ => none) mixedRequest
    r.1.error = none ∧ r.2 .webPort = some "8080".toList ∧
      r.2 .wifiPermDisable = some (boolText true) ∧ r.2 .wifiMode = none ∧
      r.2 (.bridgeMb ⟨1, by decide⟩) = some (boolText true) := by
  obtain ⟨herror, hnvs, -⟩ :=
    (processRequest_allOrNothing ⟨none, none⟩ (fun _ => .ok) (fun _ => none) mixedRequest).2
      (by decide +kernel) fun _ => rfl
  refine ⟨herror, (hnvs _).trans ?_, (hnvs _).trans ?_, (hnvs _).trans ?_, (hnvs _).trans ?_⟩
  all_goals decide +kernel

end WbMge.Settings
