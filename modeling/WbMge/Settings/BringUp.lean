import WbMge.Settings.HandOver

/-!
# Ports come up as configured

A request is checked field by field, and the mode of a port reads the fields together when it is
initialised. `portInitMode_of_steps` says that what was accepted comes up, with one exception: a
gateway that is to dial out is refused in combination with Modbus TCP.

What a port runs with is compared later with what is stored. `portManagerApplySettings_stable` says
that a port which was just initialised is found unchanged, and that it dials the address that is
stored, provided that the address is strict. One that `inet_pton` refuses leaves the address the
port had before.
-/

namespace WbMge.PortManager

variable {mode : PmMode}

@[simp] lemma Port.getPortSerialDesc_armCache (p : Port) (queue : Bool) :
    (p.armCache queue).getPortSerialDesc = p.getPortSerialDesc := by
  unfold armCache
  split <;> rfl

lemma State.exists_portInitMode (s : State) (i : Fin Cache.bridgesCount) (e : InitEnv)
    (hmode : mode ≠ .unknown) (hconfig : e.configErr = espOk) (htransport : e.transportErr = espOk)
    (hdesc : e.bridgeDesc = true) :
    ∃ s', s.portInitMode i mode e = .ok s' ∧ (s'.ports i).mode = mode ∧
      (mode ≠ .disabled → (s'.ports i).getPortSerialDesc = true) := by
  have hopen : ∃ p, (s.ports i).openTransport mode e = .ok p ∧
      (mode ≠ .disabled → ({ p with mode } : Port).getPortSerialDesc = true) := by
    cases mode with
    | unknown => exact absurd rfl hmode
    | disabled => exact ⟨_, rfl, fun h => absurd rfl h⟩
    | tcpBridge => exact ⟨_, if_neg (not_not.2 htransport), fun _ => hdesc⟩
    | passive => exact ⟨_, if_neg (not_not.2 htransport), fun _ => rfl⟩
    | repeater =>
      refine ⟨{ s.ports i with serialDesc := true }, ?_, fun _ => rfl⟩
      rw [Port.openTransport, if_neg (not_not.2 hconfig), if_neg (not_not.2 htransport)]
  obtain ⟨p, hp, hserial⟩ := hopen
  obtain ⟨s', hs'⟩ : ∃ s', s.portInitMode i mode e = .ok s' := by
    rw [portInitMode, hp]
    exact ⟨_, rfl⟩
  obtain ⟨p', hp', hports, -⟩ := portInitMode_ok hs'
  obtain rfl := Except.ok.inj (hp.symm.trans hp')
  refine ⟨s', hs', ?_, ?_⟩
  · rw [hports, Function.update_self, Port.mode_armCache]
  · rw [hports, Function.update_self, Port.getPortSerialDesc_armCache]
    exact hserial

lemma State.portInitMode_error {s : State} {i : Fin Cache.bridgesCount} {e : InitEnv}
    {err : EspErr} (h : s.portInitMode i mode e = .error err) : err ≠ espOk := by
  rw [portInitMode] at h
  split at h
  · rename_i err' hopen
    obtain rfl := Except.error.inj h
    unfold Port.openTransport at hopen
    split at hopen
    all_goals (try split at hopen) <;> (try split at hopen) <;> cases hopen
    all_goals first | assumption | decide
  · cases h

end WbMge.PortManager

namespace WbMge.Settings

open Json (Text)
open PortManager (PmMode EspErr espOk espErrInvalidArg)

/-! ## Accepted requests -/

section Records

variable {f : Factory} {nvs nvs' : Nvs} {k : Key} {p : Port}

/-- Every setting has its default value. -/
def defaults (f : Factory) : Nvs := fun k => some (getSettingDefaultValue f k)

/-- What is stored for the gateway of the port passes its checks. -/
def RecordsAccepted (nvs : Nvs) (p : Port) : Prop :=
  ∀ k ∈ gatewayKeys p, ∀ value, nvs k = some value → k.validate value = true

lemma validate_default_gateway (f : Factory) (hk : k ∈ gatewayKeys p) :
    k.validate (getSettingDefaultValue f k) = true ∧
      (getSettingDefaultValue f k).length < settingItemMaxStrLen := by
  have hdefault : getSettingDefaultValue f k = k.item.defaultValue := by
    simp only [gatewayKeys, List.mem_cons, List.not_mem_nil, or_false] at hk
    rcases hk with rfl | rfl | rfl | rfl | rfl | rfl | rfl | rfl <;> rfl
  have htable : ∀ p : Port, ∀ k ∈ gatewayKeys p, k.validate k.item.defaultValue = true ∧
      k.item.defaultValue.length < settingItemMaxStrLen := by
    decide +kernel
  rw [hdefault]
  exact htable p k hk

lemma RecordsAccepted.acceptedPort (h : RecordsAccepted nvs p) : AcceptedPort f nvs p := by
  intro k hk
  obtain ⟨hdefault, hlen⟩ := validate_default_gateway f hk
  rw [settingItemsRead]
  split
  · rename_i value hread
    exact h k hk value (Option.filter_eq_some_iff.1 hread).1
  · rwa [List.take_of_length_le (Nat.le_sub_one_of_lt hlen)]

lemma recordsAccepted_defaults (f : Factory) (p : Port) : RecordsAccepted (defaults f) p := by
  intro k hk value hvalue
  obtain rfl := Option.some.inj hvalue
  exact (validate_default_gateway f hk).1

lemma RecordsAccepted.write (h : RecordsAccepted nvs p) (hk : k ∉ gatewayKeys p) (value : Text) :
    RecordsAccepted (nvs.write k value) p := by
  intro k' hk' value' hvalue'
  have hne : k' ≠ k := by
    rintro rfl
    exact hk hk'
  rw [Nvs.write_of_ne hne] at hvalue'
  exact h k' hk' value' hvalue'

lemma Step.recordsAccepted (hstep : Step f nvs nvs') (h : RecordsAccepted nvs p) :
    RecordsAccepted nvs' p := by
  cases hstep with
  | settings io request hok =>
    cases hverdict : (validateRequest f nvs request).1 with
    | false =>
      rw [processRequest_of_invalid io hverdict] at hok
      cases hok
    | true =>
      rcases processRequest_of_valid io hverdict with hrun | ⟨-, e, herror⟩
      · -- a record is one that the request has written, or is as it was
        rw [hrun]
        intro k hk value hvalue
        rcases Option.or_eq_some_iff.1 hvalue with hrequested | ⟨-, hstored⟩
        · exact validate_of_requested (fieldsValid_of_validateRequest hverdict) hrequested
        · exact h k hk value hstored
      · rw [herror] at hok
        cases hok
  | portMode e q request mode hok =>
    -- the mode of a port is not one of the records of its gateway
    rw [(portSetModeHandler_ok hok).2.2]
    exact h.write (by simp [gatewayKeys]) _
  | cacheEn q value => exact h.write (by simp [gatewayKeys]) value

lemma not_collide_defaults (f : Factory) (a b : Service) : ¬ Collide f (defaults f) a b := by
  -- none of the settings of a service has a default from the hardware
  have hport (s : Service) :
      s.port f (defaults f) = s.port ⟨none, none⟩ (defaults ⟨none, none⟩) := by
    cases s <;> rfl
  have hfree : ∀ a ∈ services, ∀ b ∈ services, a ≠ b →
      a.port ⟨none, none⟩ (defaults ⟨none, none⟩) ≠
        b.port ⟨none, none⟩ (defaults ⟨none, none⟩) := by
    decide +kernel
  rintro ⟨hne, port, ha, hb⟩
  rw [hport] at ha hb
  exact hfree a (mem_services a) b (mem_services b) hne (ha.trans hb.symm)

end Records

/-! ## Coming up -/

section ComesUp

variable {inet : Inet} {f : Factory} {nvs : Nvs} {e : UpdateEnv} {d : Device} {p : Port}
  {mode : PmMode} {serialCfg : SerialConfig}

/-- The gateway of the port is a client with Modbus framing. -/
def ModbusClient (f : Factory) (nvs : Nvs) (p : Port) : Prop :=
  readPortModeFromNvs f nvs p = .tcpBridge ∧
    stringToBridgeMode (settingItemsRead f nvs (.bridgeMode p)) = .client ∧
      settingItemsReadBool f nvs (.bridgeMb p) = true
deriving Decidable

/-- The port is in the mode, with a descriptor unless the mode is disabled. -/
structure Up (d : Device) (p : Port) (mode : PmMode) : Prop where
  mode_eq : (d.pm.ports p).mode = mode
  serialDesc : mode ≠ .disabled → (d.pm.ports p).getPortSerialDesc = true

lemma Device.openMode_up (hmode : mode ≠ .unknown) (d : Device) :
    (d.openMode e p mode espOk espOk serialCfg).2 = espOk ∧
      Up (d.openMode e p mode espOk espOk serialCfg).1 p mode := by
  obtain ⟨pm, hpm, hmode', hdesc⟩ :=
    d.pm.exists_portInitMode p ⟨espOk, espOk, true, e.pool⟩ hmode rfl rfl rfl
  rw [openMode, hpm]
  exact ⟨rfl, hmode', hdesc⟩

lemma Device.free_bridgePort (hclosed : (d.pm.ports p).mode = .disabled)
    (hothers : ∀ s ≠ .bridge p, ∀ port, d.bound s = some port → s.port f nvs = some port)
    (hcollide : ∀ a b, ¬ Collide f nvs a b) {port : Int}
    (hport : (Service.bridge p).port f nvs = some port) : d.bound.Free port := by
  intro s hs
  by_cases hsp : s = .bridge p
  · rw [hsp, bound_bridge_of_ne (by rw [hclosed]; decide)] at hs
    cases hs
  · exact hcollide s (.bridge p) ⟨hsp, port, hothers s hsp port hs, hport⟩

lemma Device.initPort_ok {cfg : BridgeConfig} (he : e.Quiet) (hrole : cfg.bridgeMode ≠ .disabled)
    (hframing : ¬ (cfg.bridgeMode = .client ∧ cfg.bridgeMb = true))
    (hbind : cfg.bridgeMode = .server → d.canBind cfg.bridgePort = true) :
    (if cfg.bridgeMb then d.modbusTcpInitPort e p cfg else d.transparentTcpInitPort e p cfg) =
      espOk := by
  cases hcfg : cfg.bridgeMode with
  | disabled => exact absurd hcfg hrole
  | server => exact initPort_server he hcfg (hbind hcfg)
  | client =>
    have hmb : cfg.bridgeMb = false := by
      by_contra hmb
      exact hframing ⟨hcfg, Bool.eq_true_of_not_eq_false hmb⟩
    rw [hmb, if_neg Bool.false_ne_true, transparentTcpInitPort, hcfg]
    exact he.transportErr p

lemma Device.portInitMode_tcpBridge_up (hvalid : AcceptedPort f nvs p) (he : e.Quiet)
    (hclosed : (d.pm.ports p).mode = .disabled)
    (hframing : ¬ (stringToBridgeMode (settingItemsRead f nvs (.bridgeMode p)) = .client ∧
      settingItemsReadBool f nvs (.bridgeMb p) = true))
    (hfree : stringToBridgeMode (settingItemsRead f nvs (.bridgeMode p)) = .server →
      d.bound.Free (settingItemsReadInt f nvs (.bridgePort p))) :
    (d.portInitMode inet f nvs e p .tcpBridge).2 = espOk ∧
      Up (d.portInitMode inet f nvs e p .tcpBridge).1 p .tcpBridge := by
  obtain ⟨cfg, d', hcfg, hd', hinit⟩ := exists_bridgePortInit inet e hvalid hclosed
  rw [hvalid.readBridgeConfig_eq] at hcfg
  have honly := only_bridgePortInit inet f nvs e d p
  rw [hinit] at honly
  have hbind : cfg.bridgeMode = .server → d'.canBind cfg.bridgePort = true := by
    intro hserver
    have hnone : d'.bound (.bridge p) = none := by
      apply bound_bridge_of_ne
      rw [hd', hclosed]
      decide
    apply canBind_of_free
    rw [honly.bound_eq_update hnone]
    rw [hcfg] at hserver ⊢
    exact (hfree hserver).update_none
  have hrole : cfg.bridgeMode ≠ .disabled := by
    rw [hcfg]
    exact hvalid.bridgeMode
  have hframing' : ¬ (cfg.bridgeMode = .client ∧ cfg.bridgeMb = true) := by
    rw [hcfg]
    exact hframing
  have hok : (if cfg.bridgeMb then d'.modbusTcpInitPort e p cfg
      else d'.transparentTcpInitPort e p cfg) = espOk := initPort_ok he hrole hframing' hbind
  simp only [portInitMode, hinit, hok]
  exact openMode_up (by decide) d'

lemma Device.portInitMode_up (hvalid : AcceptedPort f nvs p) (he : e.Quiet)
    (hclosed : (d.pm.ports p).mode = .disabled) (hmode : mode ≠ .unknown)
    (hframing : ¬ (mode = .tcpBridge ∧
      stringToBridgeMode (settingItemsRead f nvs (.bridgeMode p)) = .client ∧
        settingItemsReadBool f nvs (.bridgeMb p) = true))
    (hfree : mode = .tcpBridge ∧
        stringToBridgeMode (settingItemsRead f nvs (.bridgeMode p)) = .server →
      d.bound.Free (settingItemsReadInt f nvs (.bridgePort p))) :
    (d.portInitMode inet f nvs e p mode).2 = espOk ∧
      Up (d.portInitMode inet f nvs e p mode).1 p mode := by
  have hserial : (readSerialPortConfig f nvs p .zero).2 = espOk := by
    rw [hvalid.readSerialPortConfig_eq]
  cases mode with
  | unknown => exact absurd rfl hmode
  | disabled => exact openMode_up hmode d
  | tcpBridge =>
    exact portInitMode_tcpBridge_up hvalid he hclosed (fun h => hframing ⟨rfl, h⟩)
      (fun h => hfree ⟨rfl, h⟩)
  | passive =>
    rw [portInitMode, hserial, if_neg (not_not.2 rfl), he.transportErr]
    exact openMode_up hmode d
  | repeater =>
    rw [portInitMode, hserial, he.transportErr]
    exact openMode_up hmode d

lemma Device.portInitMode_of_modbusClient (hvalid : AcceptedPort f nvs p)
    (hclosed : (d.pm.ports p).mode = .disabled) (hclient : ModbusClient f nvs p) :
    let r := d.portInitMode inet f nvs e p (readPortModeFromNvs f nvs p)
    r.2 = espErrInvalidArg ∧ (r.1.pm.ports p).mode = .disabled := by
  obtain ⟨hmode, hrole, hmb⟩ := hclient
  obtain ⟨cfg, d', hcfg, hd', hinit⟩ := exists_bridgePortInit inet e hvalid hclosed
  have hinit : d.bridgePortInit inet f nvs e p = (d', espErrInvalidArg) := by
    rw [hinit, hcfg, hvalid.readBridgeConfig_eq]
    simp [hrole, hmb, modbusTcpInitPort]
  have herr : d'.pm.portInitMode p .tcpBridge ⟨espOk, espErrInvalidArg, true, e.pool⟩ =
      .error espErrInvalidArg := rfl
  rw [hmode]
  simp only [portInitMode, hinit, openMode, herr, true_and]
  rw [hd']
  exact hclosed

end ComesUp

/-- Every configuration that was accepted comes up. From the defaults on and after any accepted
requests, and with nothing but a taken port to keep a service from coming up, `port_init_mode` of a
closed port in the mode that is stored returns `ESP_OK` and leaves the port in that mode, with a
descriptor unless the mode is disabled. The other services listen where they are configured to, if
they listen. The exception is a gateway that is a client with Modbus framing, which is always
refused. -/
theorem portInitMode_of_steps (inet : Inet) (f : Factory) {nvs : Nvs}
    (hsteps : Relation.ReflTransGen (Step f) (defaults f) nvs) {e : UpdateEnv} (he : e.Quiet)
    {d : Device} {p : Port} (hclosed : (d.pm.ports p).mode = .disabled)
    (hothers : ∀ s ≠ .bridge p, ∀ port, d.bound s = some port → s.port f nvs = some port) :
    let r := d.portInitMode inet f nvs e p (readPortModeFromNvs f nvs p)
    (¬ ModbusClient f nvs p →
      r.2 = espOk ∧ (r.1.pm.ports p).mode = readPortModeFromNvs f nvs p ∧
        (readPortModeFromNvs f nvs p ≠ .disabled → (r.1.pm.ports p).getPortSerialDesc = true)) ∧
      (ModbusClient f nvs p →
        r.2 = espErrInvalidArg ∧ (r.1.pm.ports p).mode = .disabled) := by
  intro r
  have hrecords : RecordsAccepted nvs p := by
    clear hothers r
    induction hsteps with
    | refl => exact recordsAccepted_defaults f p
    | tail _ hstep ih => exact hstep.recordsAccepted ih
  have hvalid : AcceptedPort f nvs p := hrecords.acceptedPort
  have hcollide := not_collide_of_steps hsteps (not_collide_defaults f)
  have hfree : readPortModeFromNvs f nvs p = .tcpBridge ∧
      stringToBridgeMode (settingItemsRead f nvs (.bridgeMode p)) = .server →
        d.bound.Free (settingItemsReadInt f nvs (.bridgePort p)) := by
    intro hserver
    have hport : (Service.bridge p).port f nvs = _ := Service.port_bridge.trans (if_pos hserver)
    exact Device.free_bridgePort hclosed hothers hcollide hport
  refine ⟨fun hframing => ?_, Device.portInitMode_of_modbusClient hvalid hclosed⟩
  obtain ⟨hret, hmode, hdesc⟩ : r.2 = espOk ∧ Up r.1 p (readPortModeFromNvs f nvs p) :=
    Device.portInitMode_up hvalid he hclosed (strToPmMode_ne_unknown _) hframing hfree
  exact ⟨hret, hmode, hdesc⟩

lemma configured_closedDevice {f : Factory} {nvs : Nvs} {p : Port}
    (h : ∀ s ∈ services, s ≠ .bridge p →
      closedDevice.bound s = none ∨ s.port f nvs = closedDevice.bound s) :
    ∀ s ≠ .bridge p, ∀ port, closedDevice.bound s = some port → s.port f nvs = some port := by
  intro s hne port hport
  rcases h s (mem_services s) hne with hnone | hsome
  · rw [hnone] at hport
    cases hport
  · exact hsome.trans hport

def clientRequest (modbus : Bool) : CJson :=
  .obj [("rs485_1".toList, .obj [("bridge".toList,
    .obj [("mode".toList, .str "client".toList), ("modbus".toList, .bool modbus)])])]

/-- A client without Modbus framing comes up after the request that asked for it. -/
theorem portInitMode_of_steps_client :
    let nvs :=
      (processRequest ⟨none, none⟩ (fun _ => .ok) (defaults ⟨none, none⟩) (clientRequest false)).2
    let r := closedDevice.portInitMode strictInet ⟨none, none⟩ nvs quietEnv 0
      (readPortModeFromNvs ⟨none, none⟩ nvs 0)
    stringToBridgeMode (settingItemsRead ⟨none, none⟩ nvs (.bridgeMode 0)) = .client ∧
      r.2 = espOk ∧ (r.1.pm.ports 0).getPortSerialDesc = true := by
  intro nvs r
  have hstep : Step ⟨none, none⟩ (defaults ⟨none, none⟩) nvs :=
    .settings _ (clientRequest false) (by decide +kernel)
  obtain ⟨hup, -⟩ := portInitMode_of_steps strictInet ⟨none, none⟩ (.single hstep) quiet_quietEnv
    (d := closedDevice) (p := 0) rfl (configured_closedDevice (by decide +kernel))
  obtain ⟨hret, -, hdesc⟩ := hup (by decide +kernel)
  exact ⟨by decide +kernel, hret, hdesc (by decide +kernel)⟩

/-- The request is accepted, and the port it is about does not come up. -/
theorem dead_clientRequest :
    let nvs :=
      (processRequest ⟨none, none⟩ (fun _ => .ok) (defaults ⟨none, none⟩) (clientRequest true)).2
    let r := closedDevice.portInitMode strictInet ⟨none, none⟩ nvs quietEnv 0
      (readPortModeFromNvs ⟨none, none⟩ nvs 0)
    Relation.ReflTransGen (Step ⟨none, none⟩) (defaults ⟨none, none⟩) nvs ∧
      (∀ s ≠ .bridge 0, ∀ port, closedDevice.bound s = some port →
        s.port ⟨none, none⟩ nvs = some port) ∧
      r.2 = espErrInvalidArg ∧ (r.1.pm.ports 0).mode = .disabled := by
  intro nvs r
  refine ⟨.single (.settings _ (clientRequest true) ?_), configured_closedDevice ?_, ?_, ?_⟩
  all_goals decide +kernel

/-! ## Staying as it is -/

section Applied

variable {inet : Inet} {f : Factory} {nvs : Nvs} {e : UpdateEnv} {d d' : Device} {p : Port}
  {mode : PmMode} {configErr transportErr : EspErr} {serialCfg : SerialConfig}

lemma Device.openMode_of_ok
    (h : (d.openMode e p mode configErr transportErr serialCfg).2 = espOk) :
    ((d.openMode e p mode configErr transportErr serialCfg).1.pm.ports p).mode = mode ∧
      (d.openMode e p mode configErr transportErr serialCfg).1.serialCfgAtInit p = serialCfg := by
  rw [openMode] at h ⊢
  cases hinit : d.pm.portInitMode p mode ⟨configErr, transportErr, true, e.pool⟩ with
  | ok pm =>
    refine ⟨(PortManager.State.mode_of_portInitMode_ok hinit).1, ?_⟩
    exact Function.update_self ..
  | error err =>
    rw [hinit] at h
    exact absurd h (PortManager.State.portInitMode_error hinit)

lemma Device.portSettingsChangedLocked_eq_false (hvalid : AcceptedPort f nvs p)
    (hmode : (d.pm.ports p).mode = readPortModeFromNvs f nvs p)
    (hgateway : readPortModeFromNvs f nvs p = .tcpBridge →
      d.bridgeCfg p = (readBridgeConfig inet f nvs p .zero).1)
    (hserial : readPortModeFromNvs f nvs p = .passive ∨ readPortModeFromNvs f nvs p = .repeater →
      d.serialCfgAtInit p = (readSerialPortConfig f nvs p .zero).1) :
    d.portSettingsChangedLocked inet f nvs p = false := by
  have hok : (readBridgeConfig inet f nvs p .zero).2 = espOk := by rw [hvalid.readBridgeConfig_eq]
  have hok' : (readSerialPortConfig f nvs p .zero).2 = espOk := by
    rw [hvalid.readSerialPortConfig_eq]
  rw [portSettingsChangedLocked, hmode, if_neg (not_not.2 rfl)]
  cases hstored : readPortModeFromNvs f nvs p with
  | tcpBridge =>
    have hinit : d.initialized p = true := decide_eq_true (hmode.trans hstored)
    simp [bridgePortCheckSettingsChanged, hok, hinit, hgateway hstored]
  | passive => simp [hok', hserial (.inl hstored)]
  | repeater => simp [hok', hserial (.inr hstored)]
  | disabled => rfl
  | unknown => rfl

lemma Device.portInitMode_of_ok (hvalid : AcceptedPort f nvs p)
    (hclosed : (d.pm.ports p).mode = .disabled)
    (h : (d.portInitMode inet f nvs e p mode).2 = espOk) :
    let d' := (d.portInitMode inet f nvs e p mode).1
    (d'.pm.ports p).mode = mode ∧
      (mode = .tcpBridge → d'.bridgeCfg p = (readBridgeConfig inet f nvs p (d.bridgeCfg p)).1) ∧
      (mode = .passive ∨ mode = .repeater →
        d'.serialCfgAtInit p = (readSerialPortConfig f nvs p .zero).1) := by
  cases mode with
  | tcpBridge =>
    refine ⟨(openMode_of_ok h).1, fun _ => ?_, fun h' => ?_⟩
    · obtain ⟨cfg, d', hcfg, hd', hinit⟩ := exists_bridgePortInit inet e hvalid hclosed
      simp only [portInitMode, bridgeCfg_openMode, hinit]
      rw [hd', ← hcfg]
      exact Function.update_self ..
    · rcases h' with h' | h' <;> cases h'
  | passive | repeater => exact ⟨(openMode_of_ok h).1, by rintro ⟨⟩, fun _ => (openMode_of_ok h).2⟩
  | disabled | unknown => exact ⟨(openMode_of_ok h).1, by rintro ⟨⟩, by rintro (⟨⟨⟩⟩ | ⟨⟨⟩⟩)⟩

lemma Device.portInitMode_stable (hvalid : AcceptedPort f nvs p)
    (hip : readPortModeFromNvs f nvs p = .tcpBridge →
      (inet.pton (settingItemsRead f nvs (.bridgeIp p))).isSome)
    (hclosed : (d.pm.ports p).mode = .disabled)
    (h : (d.portInitMode inet f nvs e p (readPortModeFromNvs f nvs p)).2 = espOk) :
    let d' := (d.portInitMode inet f nvs e p (readPortModeFromNvs f nvs p)).1
    d'.portSettingsChangedLocked inet f nvs p = false ∧
      ((d'.pm.ports p).mode = .tcpBridge →
        inet.pton (settingItemsRead f nvs (.bridgeIp p)) = some (d'.bridgeCfg p).bridgeIp) := by
  intro d'
  obtain ⟨hmode, hgateway, hserial⟩ := portInitMode_of_ok hvalid hclosed h
  refine ⟨portSettingsChangedLocked_eq_false hvalid hmode (fun hstored => ?_) hserial, ?_⟩
  · -- an address that is not refused replaces whatever was there
    rw [hgateway hstored, hvalid.readBridgeConfig_congr (hip hstored) (d.bridgeCfg p) .zero]
  · intro hmode'
    have hstored : readPortModeFromNvs f nvs p = .tcpBridge := hmode.symm.trans hmode'
    obtain ⟨ip, hpton⟩ := Option.isSome_iff_exists.1 (hip hstored)
    have hcfg : (d'.bridgeCfg p).bridgeIp = ip := by
      rw [hgateway hstored, hvalid.readBridgeConfig_eq, hpton]
      rfl
    rw [hcfg, hpton]

/-- Configurations whose values pass their validators are applied to a port one after the other,
and each of them comes up. -/
inductive Applied (inet : Inet) (f : Factory) (p : Port) (d : Device) : List Nvs → Device → Prop
  | nil : Applied inet f p d [] d
  | concat {stored : List Nvs} {d' : Device} {nvs : Nvs} {e : UpdateEnv} :
      Applied inet f p d stored d' → Accepted f nvs →
      (d'.portManagerApplySettings inet f nvs e p).2 = espOk →
      Applied inet f p d (stored ++ [nvs]) (d'.portManagerApplySettings inet f nvs e p).1

lemma Applied.portsFrozen {stored : List Nvs} (h : Applied inet f p d stored d')
    (hfrozen : d.pm.portsFrozen = false) : d'.pm.portsFrozen = false := by
  induction h with
  | nil => exact hfrozen
  | concat _ _ _ ih => exact (Device.only_portManagerApplySettings ..).frozen.trans ih

end Applied

/-- Applied settings are stable. After configurations that pass their validators were applied to a
port one after the other, the port is found unchanged under the last of them, and a gateway that is
a client has the address that is stored. The ports are not frozen for a factory test, and
`inet_pton` does not refuse the address of a gateway. -/
theorem portManagerApplySettings_stable (inet : Inet) (f : Factory) (p : Port) {d d' : Device}
    (hfrozen : d.pm.portsFrozen = false) {stored : List Nvs} {nvs : Nvs}
    (h : Applied inet f p d (stored ++ [nvs]) d')
    (hip : readPortModeFromNvs f nvs p = .tcpBridge →
      (inet.pton (settingItemsRead f nvs (.bridgeIp p))).isSome) :
    d'.portManagerCheckSettingsChanged inet f nvs p = false ∧
      ((d'.pm.ports p).mode = .tcpBridge → (d'.bridgeCfg p).bridgeMode = .client →
        inet.pton (settingItemsRead f nvs (.bridgeIp p)) = some (d'.bridgeCfg p).bridgeIp) := by
  have hfrozen' := h.portsFrozen hfrozen
  generalize hstored : stored ++ [nvs] = l at h
  cases h with
  | nil => simp at hstored
  | @concat stored' d₀ nvs' e h hvalid hok =>
    obtain ⟨-, hlast⟩ := List.append_inj' hstored rfl
    obtain rfl : nvs = nvs' := List.singleton_inj.1 hlast
    have hunfrozen := h.portsFrozen hfrozen
    have happly : d₀.portManagerApplySettings inet f nvs e p =
        (d₀.portDeinitMode p).portInitMode inet f nvs e p (readPortModeFromNvs f nvs p) := by
      rw [Device.portManagerApplySettings, hunfrozen, if_neg Bool.false_ne_true]
    rw [Device.portManagerCheckSettingsChanged, hfrozen', if_neg Bool.false_ne_true]
    rw [happly] at hok ⊢
    obtain ⟨hsame, haddress⟩ := Device.portInitMode_stable (hvalid.gateway p) hip
      (Device.mode_portDeinitMode d₀ p) hok
    exact ⟨hsame, fun hmode _ => haddress hmode⟩

/-! ### Two configurations -/

def clientNvs (ip : Text) : Nvs :=
  ((defaults ⟨none, none⟩).write (.bridgeMode 0) bridgeModeClient).write
    (.bridgeIp 0) ip

lemma applied_pair {inet : Inet} {f : Factory} {p : Port} {d : Device} {e : UpdateEnv}
    {nvs nvs' : Nvs} (hvalid : ∀ k ∈ settingKeys, k.validate (settingItemsRead f nvs k) = true)
    (hvalid' : ∀ k ∈ settingKeys, k.validate (settingItemsRead f nvs' k) = true)
    (hok : (d.portManagerApplySettings inet f nvs e p).2 = espOk)
    (hok' : ((d.portManagerApplySettings inet f nvs e p).1.portManagerApplySettings inet f nvs' e
      p).2 = espOk) :
    Applied inet f p d [nvs, nvs'] ((d.portManagerApplySettings inet f nvs e
      p).1.portManagerApplySettings inet f nvs' e p).1 :=
  .concat (.concat .nil (fun k => hvalid k (mem_settingKeys k)) hok)
    (fun k => hvalid' k (mem_settingKeys k)) hok'

theorem portManagerApplySettings_stable_clientNvs :
    ∃ d', Applied strictInet ⟨none, none⟩ 0 closedDevice
        [clientNvs "192.168.1.1".toList, clientNvs "10.0.0.1".toList] d' ∧
      d'.portManagerCheckSettingsChanged strictInet ⟨none, none⟩ (clientNvs "10.0.0.1".toList)
        0 = false := by
  have h : Applied strictInet ⟨none, none⟩ 0 closedDevice
      ([clientNvs "192.168.1.1".toList] ++ [clientNvs "10.0.0.1".toList]) _ :=
    applied_pair (e := quietEnv) (by decide +kernel) (by decide +kernel) (by decide +kernel)
      (by decide +kernel)
  exact ⟨_, h, (portManagerApplySettings_stable strictInet ⟨none, none⟩ 0 rfl h
    (by decide +kernel)).1⟩

/-- The second address has a blank in front, which its validator lets through and `inet_pton` does
not. The gateway still dials the first one, and is found changed. -/
theorem unstable_clientNvs :
    (∀ value, (strictInet.pton value).isSome → IsDottedQuad value) ∧
      ∃ d', Applied strictInet ⟨none, none⟩ 0 closedDevice
          [clientNvs "192.168.1.1".toList, clientNvs " 10.0.0.1".toList] d' ∧
        d'.portManagerCheckSettingsChanged strictInet ⟨none, none⟩ (clientNvs " 10.0.0.1".toList)
          0 = true ∧
        (d'.pm.ports 0).mode = .tcpBridge ∧
        (d'.bridgeCfg 0).bridgeMode = .client ∧
        strictInet.pton "192.168.1.1".toList = some (d'.bridgeCfg 0).bridgeIp := by
  have h : Applied strictInet ⟨none, none⟩ 0 closedDevice
      [clientNvs "192.168.1.1".toList, clientNvs " 10.0.0.1".toList] _ :=
    applied_pair (e := quietEnv) (by decide +kernel) (by decide +kernel) (by decide +kernel)
      (by decide +kernel)
  refine ⟨fun _ => isDottedQuad_of_strictPton, _, h, ?_⟩
  decide +kernel

end WbMge.Settings
