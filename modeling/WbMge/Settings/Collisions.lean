import Mathlib.Data.List.Pairwise
import WbMge.Settings.Request

/-!
# Listener collisions

Two local listeners on one TCP port keep each other down. The settings manager rejects a request
after which that would be so, if the request has a hand in it. It looks at the fields of the request
and, where one is missing, at the stored value; the writes are made later, by another pass.

`Service.port` says on which port a service listens under a stored configuration, and `Collide` that
two services share one. `validateRequest_collision` compares the verdict with the configuration that
the request would produce.
-/

namespace WbMge.Settings

open Cache (bridgesCount)
open CText (strncmpEq strncmpEq_iff strncmpEq_eq_decide)
open Json (Text)
open PortManager (PmMode espOk)

/-! ## Services -/

/-- What listens on a TCP port. -/
inductive Service where
  | web
  | cache
  | bridge (port : Port)
deriving Repr, DecidableEq

/-- The port that a service is configured for, if it is switched on. -/
def Service.port (f : Factory) (nvs : Nvs) : Service → Option Int
  | web => some (settingItemsReadInt f nvs .webPort)
  | cache =>
    if settingItemsReadBool f nvs .cacheModbusServerEnabled then
      some (settingItemsReadInt f nvs .cacheModbusPort)
    else none
  | bridge p =>
    if settingItemsRead f nvs (.portMode p) = portModeTcpBridge ∧
        settingItemsRead f nvs (.bridgeMode p) = bridgeModeServer then
      some (settingItemsReadInt f nvs (.bridgePort p))
    else none

def Service.fields : Service → List Key
  | web => [.webPort]
  | cache => [.cacheModbusPort, .cacheModbusServerEnabled]
  | bridge p => [.bridgePort p, .portMode p, .bridgeMode p]

/-- The request sets a field of the service. -/
def Service.touchedBy (request : CJson) (s : Service) : Bool :=
  s.fields.any fun k => (field request k).isSome

/-- Two services are configured for one port. -/
def Collide (f : Factory) (nvs : Nvs) (a b : Service) : Prop :=
  a ≠ b ∧ ∃ port, a.port f nvs = some port ∧ b.port f nvs = some port

lemma Service.port_congr {f : Factory} {nvs nvs' : Nvs} {s : Service}
    (h : ∀ k ∈ s.fields, nvs' k = nvs k) : s.port f nvs' = s.port f nvs := by
  cases s with
  | web => rw [port, port, settingItemsReadInt_congr (h _ (by simp [fields]))]
  | cache =>
    rw [port, port, settingItemsReadInt_congr (h _ (by simp [fields])),
      settingItemsReadBool_congr (h _ (by simp [fields]))]
  | bridge p =>
    rw [port, port, settingItemsReadInt_congr (h _ (by simp [fields])),
      settingItemsRead_congr (h (.portMode p) (by simp [fields])),
      settingItemsRead_congr (h (.bridgeMode p) (by simp [fields]))]

/-! ## Effective values

For a request with valid fields, the effective value of a setting is the one it would be read as
after the request. -/

section Effective

variable {f : Factory} {nvs : Nvs} {request : CJson} {k : Key} {parent : Option CJson}

lemma produced_of_field_none (hg : k.group ≠ .wifi) (hk : k ≠ .wifiPermDisable)
    (h : field request k = none) : produced f nvs request k = nvs k := by
  rw [produced, requested, if_neg hk, if_neg fun hw => hg hw.1, h, Option.bind_none, Option.none_or]

lemma exists_produced_of_field (hvalid : fieldsValid f nvs request = true)
    (hg : k.group ≠ .wifi) (hk : k ≠ .wifiPermDisable) {item : CJson}
    (h : field request k = some item) :
    ∃ value, Stands k.type item value ∧ k.validate value = true ∧
      produced f nvs request k = some value := by
  rw [field_eq_bind_getPath, Option.bind_eq_some_iff] at h
  obtain ⟨group, hgroup, hitem⟩ := h
  obtain ⟨value, htext, hvalue⟩ :=
    fieldsValid_field hvalid hk ((groupAt_of_ne hg).trans hgroup) hitem
  refine ⟨value, stands_of_settingText htext, hvalue, ?_⟩
  rw [produced, requested_of_ne hk, groupAt_of_ne hg, hgroup, Option.bind_some, hitem,
    Option.bind_some, itemText_of_settingText htext, Option.some_or]

lemma effectiveInt_eq (hvalid : fieldsValid f nvs request = true) (hg : k.group ≠ .wifi)
    (hk : k.type = .int) (hparent : parent.bind (·.getObjectItem k.jsonKey) = field request k) :
    effectiveInt f nvs parent k.jsonKey k =
      settingItemsReadInt f (produced f nvs request) k := by
  have hne : k ≠ .wifiPermDisable := by
    rintro rfl
    cases hk
  rw [effectiveInt, hparent]
  cases hfield : field request k with
  | none => exact (settingItemsReadInt_congr (produced_of_field_none hg hne hfield)).symm
  | some item =>
    obtain ⟨value, hstands, -, hproduced⟩ := exists_produced_of_field hvalid hg hne hfield
    rw [hk] at hstands
    cases hstands with
    | int hn =>
      obtain ⟨hmin, hmax⟩ := CJson.Double.toInt_mem hn
      rw [settingItemsReadInt_of_eq_some hk hproduced hmin hmax]
      exact CJson.Double.valueint_of_toInt hn

lemma effectiveBool_eq (hvalid : fieldsValid f nvs request = true) (hg : k.group ≠ .wifi)
    (hne : k ≠ .wifiPermDisable) (hk : k.type = .bool)
    (hparent : parent.bind (·.getObjectItem k.jsonKey) = field request k) :
    effectiveBool f nvs parent k.jsonKey k =
      settingItemsReadBool f (produced f nvs request) k := by
  rw [effectiveBool, hparent]
  cases hfield : field request k with
  | none => exact (settingItemsReadBool_congr (produced_of_field_none hg hne hfield)).symm
  | some item =>
    obtain ⟨value, hstands, -, hproduced⟩ := exists_produced_of_field hvalid hg hne hfield
    rw [hk] at hstands
    cases hstands with
    | bool b => exact (settingItemsReadBool_of_eq_some hk hproduced).symm

lemma effectiveStrEquals_eq (hvalid : fieldsValid f nvs request = true) (hg : k.group ≠ .wifi)
    (hk : k.type = .string)
    (hshort : ∀ value, k.validate value = true → value.length < settingItemMaxStrLen)
    (hparent : parent.bind (·.getObjectItem k.jsonKey) = field request k) (expected : Text) :
    effectiveStrEquals f nvs parent k.jsonKey k expected =
      strncmpEq settingItemMaxStrLen (settingItemsRead f (produced f nvs request) k) expected := by
  have hne : k ≠ .wifiPermDisable := by
    rintro rfl
    cases hk
  rw [effectiveStrEquals, hparent]
  cases hfield : field request k with
  | none => rw [settingItemsRead_congr (produced_of_field_none hg hne hfield)]
  | some item =>
    obtain ⟨value, hstands, hvalue, hproduced⟩ := exists_produced_of_field hvalid hg hne hfield
    rw [hk] at hstands
    cases hstands with
    | string => rw [settingItemsRead_of_eq_some hproduced (hshort value hvalue)]

end Effective

/-! ## Listeners -/

section Listeners

variable {f : Factory} {nvs : Nvs} {request : CJson}

lemma jsonHas_eq_isSome (parent : Option CJson) (name : Text) :
    jsonHas parent name = (parent.bind (·.getObjectItem name)).isSome := by
  cases parent <;> rfl

lemma bind_getObjectOrNull (parent : Option CJson) (name name' : Text) :
    (getObjectOrNull parent name).bind (·.getObjectItem name') =
      (parent.bind (·.getObjectItem name)).bind (·.getObjectItem name') := by
  unfold getObjectOrNull
  cases parent.bind (·.getObjectItem name) with
  | none => rfl
  | some t => cases t <;> rfl

lemma bind_rs485 (request : CJson) (p : Port) (k : Key) (hg : k.group = .rs485 p) :
    (getObjectOrNull request (rs485JsonName p)).bind (·.getObjectItem k.jsonKey) =
      field request k := by
  rw [bind_getObjectOrNull, field_eq_bind_getPath, hg, Group.path, CJson.getPath_singleton]
  rfl

lemma bind_bridge (request : CJson) (p : Port) (k : Key) (hg : k.group = .bridge p) :
    (getObjectOrNull (getObjectOrNull request (rs485JsonName p)) "bridge".toList).bind
        (·.getObjectItem k.jsonKey) = field request k := by
  rw [bind_getObjectOrNull, bind_getObjectOrNull, field_eq_bind_getPath, hg, Group.path,
    CJson.getPath, Option.bind_some]
  simp only [CJson.getPath_singleton]

def services : List Service := .web :: .cache :: (List.finRange bridgesCount).map .bridge

lemma mem_services (s : Service) : s ∈ services := by
  cases s <;> simp [services]

lemma nodup_services : services.Nodup := by decide

def Service.listener (f : Factory) (nvs : Nvs) (request : CJson) : Service → Option Listener
  | web => some (webListener f nvs request)
  | cache => cacheListener f nvs request
  | bridge p => bridgeListener f nvs request p

lemma listeners_eq_filterMap :
    listeners f nvs request = services.filterMap (Service.listener f nvs request) := by
  have hweb : Service.web.listener f nvs request = some (webListener f nvs request) := rfl
  rw [listeners, services, List.filterMap_cons_some hweb, List.cons_append, List.filterMap_cons,
    List.filterMap_map]
  simp only [Service.listener]
  cases cacheListener f nvs request <;> rfl

variable {value : Text}

lemma length_lt_of_oneOf {allowed : List Text}
    (hallowed : ∀ t ∈ allowed, t.length < settingItemMaxStrLen) (h : oneOf allowed value = true) :
    value.length < settingItemMaxStrLen := by
  obtain ⟨t, ht, heq⟩ := List.any_eq_true.1 h
  rw [(strncmpEq_iff (hallowed t ht)).1 heq]
  exact hallowed t ht

lemma length_lt_of_validate_portMode {p : Port} (h : (Key.portMode p).validate value = true) :
    value.length < settingItemMaxStrLen :=
  length_lt_of_oneOf (by decide) h

lemma length_lt_of_validate_bridgeMode {p : Port} (h : (Key.bridgeMode p).validate value = true) :
    value.length < settingItemMaxStrLen :=
  length_lt_of_oneOf (by decide) h

def Service.name : Service → Text
  | web => "web_port".toList
  | cache => "cache_modbus_port".toList
  | bridge p => rs485JsonName p

lemma bind_topLevel (request : CJson) (k : Key) (hg : k.group = .topLevel) :
    (some request).bind (·.getObjectItem k.jsonKey) = field request k := by
  rw [field_eq_bind_getPath, hg]
  rfl

lemma webListener_eq (hvalid : fieldsValid f nvs request = true) :
    webListener f nvs request =
      ⟨Service.web.name, settingItemsReadInt f (produced f nvs request) .webPort,
        Service.web.touchedBy request⟩ := by
  have hfield := bind_topLevel request .webPort rfl
  change Listener.mk _ (effectiveInt f nvs request Key.webPort.jsonKey _)
    (jsonHas request Key.webPort.jsonKey) = _
  rw [effectiveInt_eq hvalid (by decide) rfl hfield, jsonHas_eq_isSome, hfield]
  simp only [Service.touchedBy, Service.fields, List.any_cons, List.any_nil, Bool.or_false]
  rfl

lemma cacheListener_eq (hvalid : fieldsValid f nvs request = true) :
    cacheListener f nvs request =
      (Service.cache.port f (produced f nvs request)).map fun port =>
        ⟨Service.cache.name, port, Service.cache.touchedBy request⟩ := by
  have henabled := bind_topLevel request .cacheModbusServerEnabled rfl
  have hport := bind_topLevel request .cacheModbusPort rfl
  change (if effectiveBool f nvs request Key.cacheModbusServerEnabled.jsonKey _ = true then
    some (Listener.mk _ (effectiveInt f nvs request Key.cacheModbusPort.jsonKey _)
      (jsonHas request Key.cacheModbusPort.jsonKey ||
        jsonHas request Key.cacheModbusServerEnabled.jsonKey)) else none) = _
  rw [effectiveBool_eq hvalid (by decide) (by decide) rfl henabled,
    effectiveInt_eq hvalid (by decide) rfl hport, jsonHas_eq_isSome, jsonHas_eq_isSome, hport,
    henabled, Service.port, apply_ite (Option.map _)]
  simp only [Service.touchedBy, Service.fields, List.any_cons, List.any_nil, Bool.or_false]
  rfl

lemma bridgeListener_eq (hvalid : fieldsValid f nvs request = true) (p : Port) :
    bridgeListener f nvs request p =
      ((Service.bridge p).port f (produced f nvs request)).map fun port =>
        ⟨(Service.bridge p).name, port, (Service.bridge p).touchedBy request⟩ := by
  have hmode := bind_rs485 request p (.portMode p) rfl
  have hrole := bind_bridge request p (.bridgeMode p) rfl
  have hport := bind_bridge request p (.bridgePort p) rfl
  change (if (!effectiveStrEquals f nvs _ (Key.portMode p).jsonKey _ _) = true then none
    else if (!effectiveStrEquals f nvs _ (Key.bridgeMode p).jsonKey _ _) = true then none
    else some (Listener.mk _ (effectiveInt f nvs _ (Key.bridgePort p).jsonKey _)
      (jsonHas _ (Key.bridgePort p).jsonKey || jsonHas _ (Key.portMode p).jsonKey ||
        jsonHas _ (Key.bridgeMode p).jsonKey))) = _
  rw [effectiveStrEquals_eq (k := .portMode p) hvalid (by simp [Key.group]) rfl
      (fun _ => length_lt_of_validate_portMode) hmode,
    effectiveStrEquals_eq (k := .bridgeMode p) hvalid (by simp [Key.group]) rfl
      (fun _ => length_lt_of_validate_bridgeMode) hrole,
    effectiveInt_eq (k := .bridgePort p) hvalid (by simp [Key.group]) rfl hport,
    jsonHas_eq_isSome, jsonHas_eq_isSome, jsonHas_eq_isSome, hmode, hrole, hport,
    strncmpEq_eq_decide (by decide), strncmpEq_eq_decide (by decide)]
  by_cases hm : settingItemsRead f (produced f nvs request) (.portMode p) = portModeTcpBridge
  · by_cases hr : settingItemsRead f (produced f nvs request) (.bridgeMode p) = bridgeModeServer
    · have hlistens : (Service.bridge p).port f (produced f nvs request) = some _ :=
        if_pos ⟨hm, hr⟩
      rw [hlistens, decide_eq_true hm, decide_eq_true hr, Bool.or_assoc]
      simp only [Service.touchedBy, Service.fields, List.any_cons, List.any_nil, Bool.or_false]
      rfl
    · have hsilent : (Service.bridge p).port f (produced f nvs request) = none :=
        if_neg fun h => hr h.2
      rw [hsilent, decide_eq_true hm, decide_eq_false hr]
      rfl
  · have hsilent : (Service.bridge p).port f (produced f nvs request) = none :=
      if_neg fun h => hm h.1
    rw [hsilent, decide_eq_false hm]
    rfl

lemma Service.listener_eq (hvalid : fieldsValid f nvs request = true) (s : Service) :
    s.listener f nvs request =
      (s.port f (produced f nvs request)).map fun port => ⟨s.name, port, s.touchedBy request⟩ := by
  cases s with
  | web => exact congrArg some (webListener_eq hvalid)
  | cache => exact cacheListener_eq hvalid
  | bridge p => exact bridgeListener_eq hvalid p

/-! ## The verdict -/

def Tolerated (a b : Listener) : Prop :=
  a.port = b.port → a.touched = false ∧ b.touched = false

lemma collideWith_fst (a : Listener) (rest : List Listener) (warnings : List Warning) :
    (collideWith a rest warnings).1 = true ↔ ∀ b ∈ rest, Tolerated a b := by
  induction rest generalizing warnings with
  | nil => simp [collideWith]
  | cons b rest ih =>
    rw [List.forall_mem_cons, collideWith]
    split
    · rename_i hne
      rw [ih]
      exact (and_iff_right fun heq => absurd heq hne).symm
    rename_i heq
    have htolerated : Tolerated a b ↔ (!a.touched && !b.touched) = true := by
      simp [Tolerated, not_not.1 heq]
    split
    · rename_i huntouched
      rw [ih]
      exact (and_iff_right (htolerated.2 huntouched)).symm
    · rename_i htouched
      refine iff_of_false (by simp) fun h => htouched (htolerated.1 h.1)

lemma collideAll_fst (ls : List Listener) (warnings : List Warning) :
    (collideAll ls warnings).1 = true ↔ ls.Pairwise Tolerated := by
  induction ls generalizing warnings with
  | nil => simp [collideAll]
  | cons a rest ih =>
    have hinner := collideWith_fst a rest warnings
    rw [List.pairwise_cons, collideAll, ← hinner]
    cases hres : collideWith a rest warnings with
    | mk ok warnings' =>
      cases ok with
      | true => simpa using ih warnings'
      | false => simp

/-- Two services may be configured as they would be: they would not share a port, or the request
touches neither. -/
def Allowed (f : Factory) (nvs : Nvs) (request : CJson) (a b : Service) : Prop :=
  ∀ port, a.port f (produced f nvs request) = some port →
    b.port f (produced f nvs request) = some port →
      a.touchedBy request = false ∧ b.touchedBy request = false

instance : Std.Symm (Allowed f nvs request) where
  symm _ _ h port hb ha := (h port ha hb).symm

lemma tolerated_listeners_iff (hvalid : fieldsValid f nvs request = true) (a b : Service) :
    (∀ l, a.listener f nvs request = some l → ∀ l', b.listener f nvs request = some l' →
      Tolerated l l') ↔ Allowed f nvs request a b := by
  rw [Service.listener_eq hvalid, Service.listener_eq hvalid]
  constructor
  · intro h port ha hb
    rw [ha, hb] at h
    exact h _ rfl _ rfl rfl
  · intro h l hl l' hl' heq
    obtain ⟨port, ha, rfl⟩ := Option.map_eq_some_iff.1 hl
    obtain ⟨port', hb, rfl⟩ := Option.map_eq_some_iff.1 hl'
    obtain rfl : port = port' := heq
    exact h port ha hb

lemma validatePortCollisions_fst (hvalid : fieldsValid f nvs request = true) :
    (validatePortCollisions f nvs request).1 = true ↔
      ∀ a b, Collide f (produced f nvs request) a b →
        a.touchedBy request = false ∧ b.touchedBy request = false := by
  rw [validatePortCollisions, collideAll_fst, listeners_eq_filterMap, List.pairwise_filterMap]
  simp only [tolerated_listeners_iff hvalid]
  constructor
  · rintro h a b ⟨hne, port, ha, hb⟩
    exact h.forall (mem_services a) (mem_services b) hne port ha hb
  · intro h
    refine nodup_services.pairwise_of_forall_ne fun a _ b _ hne port ha hb => ?_
    exact h a b ⟨hne, port, ha, hb⟩

lemma validateRequest_collision (hvalid : fieldsValid f nvs request = true) :
    (validateRequest f nvs request).1 = false ↔
      ∃ a b, Collide f (produced f nvs request) a b ∧
        (a.touchedBy request = true ∨ b.touchedBy request = true) := by
  rw [validateRequest, if_pos hvalid, ← Bool.not_eq_true, validatePortCollisions_fst hvalid]
  simp only [not_forall, exists_prop, not_and_or, Bool.not_eq_false]

lemma Service.port_produced {s : Service} (h : s.touchedBy request = false) :
    s.port f (produced f nvs request) = s.port f nvs := by
  refine port_congr fun k hk => ?_
  have hfield : field request k = none := by
    rw [touchedBy, List.any_eq_false] at h
    simpa using h k hk
  have hkey : k.group ≠ .wifi ∧ k ≠ .wifiPermDisable := by
    cases s <;> simp only [fields, List.mem_cons, List.not_mem_nil, or_false] at hk
    · subst hk
      decide
    · rcases hk with rfl | rfl <;> decide
    · rcases hk with rfl | rfl | rfl <;> simp [Key.group]
  exact produced_of_field_none hkey.1 hkey.2 hfield

lemma collide_of_validateRequest (h : (validateRequest f nvs request).1 = true) {a b : Service}
    (hcollide : Collide f (produced f nvs request) a b) : Collide f nvs a b := by
  have hvalid := fieldsValid_of_validateRequest h
  rw [validateRequest, if_pos hvalid, validatePortCollisions_fst hvalid] at h
  obtain ⟨ha, hb⟩ := h a b hcollide
  rw [Collide, Service.port_produced ha, Service.port_produced hb] at hcollide
  exact hcollide

end Listeners

/-! ## The mode of a port -/

section PortMode

variable {f : Factory} {nvs : Nvs} {p : Port} {mode : PmMode}

lemma getPath_portModeRequest (str : Text) (g : Group) :
    (portModeRequest p str).getPath g.path =
      if g = .topLevel then some (portModeRequest p str)
      else if g = .rs485 p then some (.obj [("port_mode".toList, .str str)])
      else none := by
  have hnames : ∀ p : Port, CText.caseEq "wifi".toList (rs485JsonName p) = false ∧
      CText.caseEq "ethernet".toList (rs485JsonName p) = false ∧
      ∀ q : Port, CText.caseEq (rs485JsonName q) (rs485JsonName p) = decide (q = p) := by
    decide +kernel
  obtain ⟨hwifi, heth, hport⟩ := hnames p
  have hbridge : CText.caseEq "bridge".toList "port_mode".toList = false := by decide
  unfold portModeRequest
  cases g with
  | topLevel => rfl
  | wifi =>
    rw [Group.path, CJson.getPath_singleton, CJson.getObjectItem_singleton, hwifi]
    rfl
  | ethernet =>
    rw [Group.path, CJson.getPath_singleton, CJson.getObjectItem_singleton, heth]
    rfl
  | rs485 q =>
    rw [Group.path, CJson.getPath_singleton, CJson.getObjectItem_singleton, hport,
      if_neg (by simp : Group.rs485 q ≠ .topLevel)]
    simp only [decide_eq_true_eq, Group.rs485.injEq]
  | bridge q =>
    rw [Group.path, CJson.getPath, CJson.getObjectItem_singleton, hport]
    split
    · rw [Option.bind_some, CJson.getPath_singleton, CJson.getObjectItem_singleton, hbridge]
      rfl
    · rfl

lemma field_portModeRequest (str : Text) (k : Key) :
    field (portModeRequest p str) k = if k = .portMode p then some (.str str) else none := by
  have hnames : ∀ p : Port, ∀ k ∈ settingKeys,
      (k.group = .topLevel → CText.caseEq k.jsonKey (rs485JsonName p) = false) ∧
        (k.group = .rs485 p →
          CText.caseEq k.jsonKey "port_mode".toList = decide (k = .portMode p)) := by
    decide +kernel
  obtain ⟨htop, hport⟩ := hnames p k (mem_settingKeys k)
  rw [field_eq_bind_getPath, getPath_portModeRequest]
  split
  · rename_i hg
    have hk : k ≠ .portMode p := by
      rintro rfl
      cases hg
    rw [Option.bind_some, portModeRequest, CJson.getObjectItem_singleton, htop hg, if_neg hk]
    rfl
  · split
    · rename_i hg
      rw [Option.bind_some, CJson.getObjectItem_singleton, hport hg]
      simp only [decide_eq_true_eq]
    · rename_i hg
      have hk : k ≠ .portMode p := by
        rintro rfl
        exact hg rfl
      rw [if_neg hk]
      rfl

lemma touchedBy_portModeRequest (str : Text) (s : Service) :
    s.touchedBy (portModeRequest p str) = decide (s = .bridge p) := by
  have hfield (k : Key) : (field (portModeRequest p str) k).isSome = decide (k = .portMode p) := by
    rw [field_portModeRequest]
    split <;> simp [*]
  simp only [Service.touchedBy, hfield]
  cases s <;> simp [Service.fields]

lemma produced_portModeRequest (str : Text) :
    produced f nvs (portModeRequest p str) = nvs.write (.portMode p) str := by
  have hflag : (portModeRequest p str).getObjectItem "wifi_perm_disable".toList = none := by
    have hfield := field_portModeRequest (p := p) str .wifiPermDisable
    rwa [if_neg (by simp), field_eq_bind_getPath] at hfield
  have hset : shouldSetWifiPermDisable (portModeRequest p str) = false := by
    rw [shouldSetWifiPermDisable, hflag]
  funext k
  rw [produced, requested, hset, field_portModeRequest, Nvs.write]
  by_cases hk : k = .portMode p
  · subst hk
    rw [if_neg (by simp), if_neg (by simp [Key.group]), if_pos rfl, Function.update_self]
    rfl
  · rw [if_neg hk, Function.update_of_ne hk]
    split
    · exact Option.none_or
    · split <;> exact Option.none_or

lemma fieldsValid_portModeRequest {str : Text} (h : (Key.portMode p).validate str = true) :
    fieldsValid f nvs (portModeRequest p str) = true := by
  refine fieldsValid_of_groups fun g group hgroup => ?_
  rw [groupAt] at hgroup
  split at hgroup
  · cases hgroup
  refine ⟨fun hg => ?_, validateFields_iff.2 fun m hm item hitem => ?_⟩
  · rw [getPath_portModeRequest, if_neg hg] at hgroup
    split at hgroup
    · cases hgroup
      rfl
    · cases hgroup
  · obtain ⟨-, rfl, hname⟩ := Group.mem_mappings.1 hm
    -- the only field there is is the one of the mode
    have hfield : field (portModeRequest p str) m.2 = some item := by
      rw [field_eq_bind_getPath, hgroup, hname]
      exact hitem
    rw [field_portModeRequest] at hfield
    split at hfield
    · rename_i hk
      cases hfield
      rw [hk]
      exact validateSettingFromJson_iff.2 ⟨str, rfl, h⟩
    · cases hfield

lemma validate_modeToStr (hmode : mode ≠ .unknown) (p : Port) :
    (Key.portMode p).validate (modeToStr mode) = true := by
  cases mode with
  | unknown => exact absurd rfl hmode
  | _ => rfl

lemma checkPortModeCollision_eq_false (hmode : mode ≠ .unknown) :
    checkPortModeCollision f nvs p (modeToStr mode) = false ↔
      ∃ a b, Collide f (nvs.write (.portMode p) (modeToStr mode)) a b ∧
        (a = .bridge p ∨ b = .bridge p) := by
  have hvalid : fieldsValid f nvs (portModeRequest p (modeToStr mode)) = true :=
    fieldsValid_portModeRequest (validate_modeToStr hmode p)
  have hverdict := validateRequest_collision hvalid
  rw [validateRequest, if_pos hvalid] at hverdict
  simp only [produced_portModeRequest, touchedBy_portModeRequest, decide_eq_true_eq] at hverdict
  exact hverdict

lemma strToPmMode_ne_unknown (str : Text) : strToPmMode str ≠ .unknown := by
  unfold strToPmMode
  split
  · simp
  · split
    · simp
    · split <;> simp

lemma strToPmMode_modeToStr (hmode : mode ≠ .unknown) : strToPmMode (modeToStr mode) = mode := by
  cases mode with
  | unknown => exact absurd rfl hmode
  | _ => decide

def portModeCollision : PortModeResponse :=
  .conflict "Selected mode would bind a TCP port already used by another listener".toList

variable {e : SetModeEnv}

lemma portSetModeHandler_eq_collision {request : CJson} (hmode : mode ≠ .unknown)
    (hrequest : request.getObjectItem "mode".toList = some (.str (modeToStr mode))) :
    (portSetModeHandler f e nvs p request).1 = portModeCollision ↔
      checkPortModeCollision f nvs p (modeToStr mode) = false := by
  unfold portSetModeHandler
  rw [hrequest]
  dsimp only
  rw [strToPmMode_modeToStr hmode, if_neg (by rintro ⟨rfl, h⟩; exact absurd h (by decide))]
  cases checkPortModeCollision f nvs p (modeToStr mode) with
  | false => exact iff_of_true rfl rfl
  | true =>
    refine iff_of_false ?_ (by simp)
    rw [if_neg (by simp)]
    -- what follows the check has other answers
    split
    · exact fun h => absurd (PortModeResponse.conflict.inj h) (by decide +kernel)
    · split <;> simp [portModeCollision]

lemma portManagerSetMode_ok (hmode : mode ≠ .unknown)
    (h : (portManagerSetMode e nvs p mode).1 = espOk) :
    (portManagerSetMode e nvs p mode).2 = nvs.write (.portMode p) (modeToStr mode) := by
  unfold portManagerSetMode at h ⊢
  split at h
  · rename_i hinit
    exact absurd h hinit
  rename_i hinit
  rw [if_neg hinit]
  rcases writes_settingItemsSave (validate_modeToStr hmode p) nvs with hok | ⟨-, err, herror⟩
  · rw [hok]
    rfl
  obtain ⟨nvs', hrun⟩ : ∃ nvs', (settingItemsSave e.io (.portMode p)
      (modeToStr mode)).run.run nvs = (.error err, nvs') := ⟨_, Prod.ext herror rfl⟩
  rw [hrun] at h
  exact absurd h e.saveErr_ne

lemma portSetModeHandler_ok {request : CJson}
    (h : (portSetModeHandler f e nvs p request).1 = .ok mode) :
    mode ≠ .unknown ∧ checkPortModeCollision f nvs p (modeToStr mode) = true ∧
      (portSetModeHandler f e nvs p request).2 = nvs.write (.portMode p) (modeToStr mode) := by
  unfold portSetModeHandler at h ⊢
  split at h
  · rename_i str hrequest
    dsimp only at h ⊢
    split at h
    · cases h
    split at h
    · cases h
    split at h
    · cases h
    · split at h
      · cases h
      · rename_i hknown hcheck hfrozen hret
        cases h
        rw [Bool.not_eq_true, Bool.not_eq_false'] at hcheck
        refine ⟨strToPmMode_ne_unknown str, hcheck, ?_⟩
        rw [if_neg hknown, if_neg (by simp [hcheck]), if_neg hfrozen, if_neg hret]
        exact portManagerSetMode_ok (strToPmMode_ne_unknown str) (not_not.1 hret)
  · cases h

end PortMode

/-! ## Sequences of requests -/

/-- The storage changes by an accepted request. Between two of them, the cache overlay may move from
one port to the other. -/
inductive Step (f : Factory) : Nvs → Nvs → Prop
  | settings {nvs : Nvs} (io : Key → WriteOutcome) (request : CJson)
      (h : (processRequest f io nvs request).1.error = none) :
      Step f nvs (processRequest f io nvs request).2
  | portMode {nvs : Nvs} (e : SetModeEnv) (p : Port) (request : CJson) (mode : PmMode)
      (h : (portSetModeHandler f e nvs p request).1 = .ok mode) :
      Step f nvs (portSetModeHandler f e nvs p request).2
  | cacheEn {nvs : Nvs} (p : Port) (value : Text) : Step f nvs (nvs.write (.cacheEn p) value)

section Steps

variable {f : Factory} {nvs nvs' : Nvs} {a b : Service}

lemma Step.collide_of_collide (h : Step f nvs nvs') (hcollide : Collide f nvs' a b) :
    Collide f nvs a b := by
  cases h with
  | settings io request h =>
    cases hverdict : (validateRequest f nvs request).1 with
    | false =>
      rw [processRequest_of_invalid io hverdict] at h
      cases h
    | true =>
      rcases processRequest_of_valid io hverdict with hok | ⟨-, e, herror⟩
      · rw [hok] at hcollide
        exact collide_of_validateRequest hverdict hcollide
      · rw [herror] at h
        cases h
  | portMode e p request mode h =>
    obtain ⟨hmode, hcheck, hnvs⟩ := portSetModeHandler_ok h
    have hvalid : fieldsValid f nvs (portModeRequest p (modeToStr mode)) = true :=
      fieldsValid_portModeRequest (validate_modeToStr hmode p)
    rw [hnvs, ← produced_portModeRequest] at hcollide
    refine collide_of_validateRequest ?_ hcollide
    rw [validateRequest, if_pos hvalid]
    exact hcheck
  | cacheEn p value =>
    have hport (s : Service) : s.port f (nvs.write (.cacheEn p) value) = s.port f nvs := by
      refine Service.port_congr fun k hk => Function.update_of_ne ?_ _ _
      rintro rfl
      cases s <;> simp [Service.fields] at hk
    rwa [Collide, hport, hport] at hcollide

lemma not_collide_of_steps (h : Relation.ReflTransGen (Step f) nvs nvs')
    (hfree : ∀ a b, ¬ Collide f nvs a b) (a b : Service) : ¬ Collide f nvs' a b := by
  induction h with
  | refl => exact hfree a b
  | tail _ hstep ih => exact fun hcollide => ih (hstep.collide_of_collide hcollide)

end Steps

/-- Requests and collisions. A request with valid fields, and a request for the mode of a port, is
rejected for a collision exactly if two services would then share a port and the request has a field
of one of them. So an accepted request leaves no collision that was not there before, and a
configuration without collisions stays without. -/
theorem rejects_collisions (f : Factory) :
    (∀ nvs request, fieldsValid f nvs request = true →
      ((validateRequest f nvs request).1 = false ↔
        ∃ a b, Collide f (produced f nvs request) a b ∧
          (a.touchedBy request = true ∨ b.touchedBy request = true))) ∧
    (∀ e nvs p request mode, mode ≠ .unknown →
      request.getObjectItem "mode".toList = some (.str (modeToStr mode)) →
      ((portSetModeHandler f e nvs p request).1 = portModeCollision ↔
        ∃ a b, Collide f (nvs.write (.portMode p) (modeToStr mode)) a b ∧
          (a = .bridge p ∨ b = .bridge p))) ∧
    (∀ nvs nvs', Step f nvs nvs' → ∀ a b, Collide f nvs' a b → Collide f nvs a b) ∧
    ∀ nvs nvs', Relation.ReflTransGen (Step f) nvs nvs' → (∀ a b, ¬ Collide f nvs a b) →
      ∀ a b, ¬ Collide f nvs' a b := by
  refine ⟨fun _ _ => validateRequest_collision, ?_, ?_, ?_⟩
  · intro e nvs p request mode hmode hrequest
    rw [portSetModeHandler_eq_collision hmode hrequest, checkPortModeCollision_eq_false hmode]
  · intro nvs nvs' hstep a b hcollide
    exact hstep.collide_of_collide hcollide
  · intro nvs nvs' hsteps hfree
    exact not_collide_of_steps hsteps hfree

def webPortRequest : CJson := .obj [("web_port".toList, .num (.finite 504))]

theorem rejects_collisions_webPortRequest :
    fieldsValid ⟨none, none⟩ (fun _ => none) webPortRequest = true ∧
      (validateRequest ⟨none, none⟩ (fun _ => none) webPortRequest).1 = false := by
  have hvalid : fieldsValid ⟨none, none⟩ (fun _ => none) webPortRequest = true := by decide +kernel
  refine ⟨hvalid, ((rejects_collisions ⟨none, none⟩).1 _ _ hvalid).2 ?_⟩
  refine ⟨.web, .cache, ⟨by decide, 504, ?_, ?_⟩, .inl ?_⟩
  all_goals decide +kernel

end WbMge.Settings
