import WbMge.Settings.Update

/-!
# Listeners change hands

The settings may give the port of one service to another, or send ports around in a circle. The
update task has two phases for that: whatever has to change gives up its socket, and then everything
that has to change binds a new one.

Each part of the task is about one service, `Device.Only`. A release leaves the service without a
socket, and an acquire with the one that is configured, if the port is free at that moment. That it
is free is the argument of `Holding.foldl_acquire`. The cache overlay outlives all of this.
-/

namespace WbMge.Settings

open Cache (bridgesCount)
open CText (strncmpEq_iff)
open Json (Text)
open PortManager (PmMode EspErr espOk)

/-! ## One service at a time -/

namespace Device

variable {d d' d'' : Device} {s t : Service} {p q : Port}

lemma bound_bridge_congr (hmode : (d'.pm.ports p).mode = (d.pm.ports p).mode)
    (hcfg : d'.bridgeCfg p = d.bridgeCfg p) : d'.bound (.bridge p) = d.bound (.bridge p) := by
  have hinit : d'.initialized p = d.initialized p := by rw [initialized, initialized, hmode]
  rw [bound, bound, hinit, hcfg]

lemma bound_bridge_of_ne (hmode : (d.pm.ports p).mode ≠ .tcpBridge) :
    d.bound (.bridge p) = none := by
  simp [bound, initialized, hmode]

lemma bound_bridge_of_client (hcfg : (d.bridgeCfg p).bridgeMode ≠ .server) :
    d.bound (.bridge p) = none := by
  simp [bound, hcfg]

lemma bound_bridge_of_tcpBridge (hmode : (d.pm.ports p).mode = .tcpBridge) :
    d.bound (.bridge p) =
      if (d.bridgeCfg p).bridgeMode = .server then some (d.bridgeCfg p).bridgePort else none := by
  simp [bound, initialized, hmode]

lemma canBind_of_free {port : Int} (h : d.bound.Free port) : d.canBind port = true := by
  rw [canBind, List.all_eq_true]
  exact fun s _ => decide_eq_true (h s)

/-- What happened between `d` and `d'` is about the listener of one service. -/
structure Only (s : Service) (d d' : Device) : Prop where
  bound : ∀ t ≠ s, d'.bound t = d.bound t
  pm : (∀ p, s ≠ .bridge p) → d'.pm = d.pm
  frozen : d'.pm.portsFrozen = d.pm.portsFrozen
  closed : ∀ t ≠ s, d'.closed.count t = d.closed.count t

lemma Only.refl (s : Service) (d : Device) : Only s d d :=
  ⟨fun _ _ => rfl, fun _ => rfl, rfl, fun _ _ => rfl⟩

lemma Only.trans (h : Only s d d') (h' : Only s d' d'') : Only s d d'' where
  bound t ht := (h'.bound t ht).trans (h.bound t ht)
  pm hs := (h'.pm hs).trans (h.pm hs)
  frozen := h'.frozen.trans h.frozen
  closed t ht := (h'.closed t ht).trans (h.closed t ht)

lemma Only.bound_eq_update (h : Only s d d') {port : Option Int} (hs : d'.bound s = port) :
    d'.bound = Function.update d.bound s port := by
  funext t
  by_cases hts : t = s
  · rw [hts, Function.update_self, hs]
  · rw [Function.update_of_ne hts, h.bound t hts]

lemma exists_logClose (d : Device) (s : Service) :
    ∃ closed, d.logClose s = { d with closed } ∧
      ∀ t ≠ s, closed.count t = d.closed.count t := by
  unfold logClose
  split
  · refine ⟨_, rfl, fun t ht => ?_⟩
    rw [List.count_append, List.count_singleton, if_neg (by simpa using ht.symm), Nat.add_zero]
  · exact ⟨_, rfl, fun _ _ => rfl⟩

/-! ### The ports -/

lemma only_bridge (hmode : ∀ q ≠ p, (d'.pm.ports q).mode = (d.pm.ports q).mode)
    (hcfg : ∀ q ≠ p, d'.bridgeCfg q = d.bridgeCfg q) (hhttp : d'.http = d.http)
    (hcache : d'.cachePort = d.cachePort) (hfrozen : d'.pm.portsFrozen = d.pm.portsFrozen)
    (hclosed : ∀ t ≠ .bridge p, d'.closed.count t = d.closed.count t) :
    Only (.bridge p) d d' where
  pm hs := absurd rfl (hs p)
  frozen := hfrozen
  closed := hclosed
  bound t ht := by
    cases t with
    | web => exact hhttp
    | cache => simp only [bound, hcache]
    | bridge q =>
      have hq : q ≠ p := fun h => ht (congrArg Service.bridge h)
      exact bound_bridge_congr (hmode q hq) (hcfg q hq)

lemma exists_portDeinitMode (d : Device) (p : Port) :
    ∃ serialCfgAtInit closed,
      d.portDeinitMode p = { d with pm := d.pm.portDeinitMode p, serialCfgAtInit, closed } ∧
        ∀ t ≠ .bridge p, closed.count t = d.closed.count t := by
  simp only [portDeinitMode]
  split
  · rw [bridgePortDeinit]
    split
    · obtain ⟨closed, hclose, hclosed⟩ := exists_logClose d (.bridge p)
      rw [hclose]
      exact ⟨_, closed, rfl, hclosed⟩
    · exact ⟨_, _, rfl, fun _ _ => rfl⟩
  all_goals exact ⟨_, _, rfl, fun _ _ => rfl⟩

lemma only_portDeinitMode (d : Device) (p : Port) :
    Only (.bridge p) d (d.portDeinitMode p) := by
  obtain ⟨serialCfgAtInit, closed, hdeinit, hclosed⟩ := exists_portDeinitMode d p
  rw [hdeinit]
  exact only_bridge (fun q hq => PortManager.State.mode_portDeinitMode_of_ne hq) (fun _ _ => rfl)
    rfl rfl rfl hclosed

lemma mode_portDeinitMode (d : Device) (p : Port) :
    ((d.portDeinitMode p).pm.ports p).mode = .disabled := by
  obtain ⟨serialCfgAtInit, closed, hdeinit, -⟩ := exists_portDeinitMode d p
  rw [hdeinit]
  exact PortManager.State.mode_portDeinitMode d.pm p

section Open

variable {inet : Inet} {f : Factory} {nvs : Nvs} {e : UpdateEnv} {mode : PmMode}
  {configErr transportErr : EspErr} {serialCfg : SerialConfig}

lemma openMode_cases (d : Device) :
    (d.openMode e p mode configErr transportErr serialCfg).1 = d ∨
      ∃ pm serialCfgAtInit,
        d.pm.portInitMode p mode ⟨configErr, transportErr, true, e.pool⟩ = .ok pm ∧
          (d.openMode e p mode configErr transportErr serialCfg).1 =
            { d with pm, serialCfgAtInit } := by
  unfold openMode
  split
  · rename_i pm hinit
    exact .inr ⟨pm, _, hinit, rfl⟩
  · exact .inl rfl

lemma bridgeCfg_openMode (d : Device) :
    (d.openMode e p mode configErr transportErr serialCfg).1.bridgeCfg = d.bridgeCfg := by
  rcases openMode_cases d with h | ⟨pm, serialCfgAtInit, -, h⟩ <;> rw [h]

lemma only_openMode (d : Device) :
    Only (.bridge p) d (d.openMode e p mode configErr transportErr serialCfg).1 := by
  rcases openMode_cases d with h | ⟨pm, serialCfgAtInit, hinit, h⟩ <;> rw [h]
  · exact .refl _ d
  · obtain ⟨-, hmode, hfrozen⟩ := PortManager.State.mode_of_portInitMode_ok hinit
    exact only_bridge hmode (fun _ _ => rfl) rfl rfl hfrozen fun _ _ => rfl

variable (inet f nvs e) in
lemma only_bridgePortInit (d : Device) (p : Port) :
    Only (.bridge p) d (d.bridgePortInit inet f nvs e p).1 := by
  have honly (cfg : BridgeConfig) :
      Only (.bridge p) d { d with bridgeCfg := Function.update d.bridgeCfg p cfg } :=
    only_bridge (fun _ _ => rfl) (fun q hq => Function.update_of_ne hq _ _) rfl rfl rfl
      fun _ _ => rfl
  simp only [bridgePortInit]
  repeat' split
  all_goals first | exact .refl _ d | exact honly _

variable (inet f nvs e) in
lemma only_portInitMode (d : Device) (p : Port) (mode : PmMode) :
    Only (.bridge p) d (d.portInitMode inet f nvs e p mode).1 := by
  cases mode with
  | tcpBridge => exact (only_bridgePortInit inet f nvs e d p).trans (only_openMode _)
  | passive | repeater | disabled | unknown => exact only_openMode d

lemma only_portManagerRelease (d : Device) (p : Port) :
    Only (.bridge p) d (d.portManagerRelease p) := by
  unfold portManagerRelease
  split
  · exact .refl _ d
  · exact only_portDeinitMode d p

variable (inet f nvs e) in
lemma only_portManagerApplySettings (d : Device) (p : Port) :
    Only (.bridge p) d (d.portManagerApplySettings inet f nvs e p).1 := by
  unfold portManagerApplySettings
  split
  · exact .refl _ d
  · exact (only_portDeinitMode d p).trans (only_portInitMode inet f nvs e _ p _)

end Open

/-! ### The servers -/

section Servers

variable {f : Factory} {nvs : Nvs} {e : UpdateEnv}

lemma only_cache {cachePort : Int} {closed : List Service}
    (hclosed : ∀ t ≠ .cache, closed.count t = d.closed.count t) :
    Only .cache d { d with cachePort, closed } where
  pm _ := rfl
  frozen := rfl
  closed := hclosed
  bound t ht := by
    cases t with
    | web => rfl
    | cache => exact absurd rfl ht
    | bridge p => rfl

lemma only_web {http : Option Int} {closed : List Service}
    (hclosed : ∀ t ≠ .web, closed.count t = d.closed.count t) :
    Only .web d { d with http, closed } where
  pm _ := rfl
  frozen := rfl
  closed := hclosed
  bound t ht := by
    cases t with
    | web => exact absurd rfl ht
    | cache => rfl
    | bridge p => rfl

lemma only_cacheModbusServerDeinit (d : Device) : Only .cache d d.cacheModbusServerDeinit.1 := by
  obtain ⟨closed, hclose, hclosed⟩ := exists_logClose d .cache
  rw [cacheModbusServerDeinit, hclose]
  exact only_cache hclosed

variable (e) in
lemma only_cacheModbusServerInit (d : Device) (port : Int) :
    Only .cache d (d.cacheModbusServerInit e port).1 := by
  unfold cacheModbusServerInit
  split
  · exact .refl _ d
  -- a server on another port is stopped first
  have hstop : Only .cache d (if 0 < d.cachePort then d.cacheModbusServerDeinit.1 else d) := by
    split
    · exact only_cacheModbusServerDeinit d
    · exact .refl _ d
  dsimp only
  generalize (if 0 < d.cachePort then d.cacheModbusServerDeinit.1 else d) = d' at hstop ⊢
  repeat' split
  all_goals first | exact hstop | exact hstop.trans (only_cache fun _ _ => rfl)

lemma only_cacheModbusServerRelease (d : Device) :
    Only .cache d (d.cacheModbusServerRelease f nvs).1 := by
  simp only [cacheModbusServerRelease]
  split
  · exact .refl _ d
  · exact only_cacheModbusServerDeinit d

lemma only_cacheModbusServerAcquire (d : Device) (releasedPort : Int) :
    Only .cache d (d.cacheModbusServerAcquire f nvs e releasedPort) := by
  have hinit := only_cacheModbusServerInit e d (cacheModbusWantedPort f nvs)
  simp only [cacheModbusServerAcquire]
  repeat' split
  all_goals first
    | exact .refl _ d
    | exact hinit
    | exact hinit.trans (only_cacheModbusServerInit ..)

variable (e) in
lemma only_httpServerInitPort (d : Device) (port : Int) :
    Only .web d (d.httpServerInitPort e port).1 := by
  unfold httpServerInitPort
  repeat' split
  all_goals first | exact .refl _ d | exact only_web fun _ _ => rfl

lemma only_httpServerRelease (d : Device) : Only .web d d.httpServerRelease.1 := by
  obtain ⟨closed, hclose, hclosed⟩ := exists_logClose d .web
  simp only [httpServerRelease, httpServerDeinit, hclose]
  exact only_web hclosed

lemma only_httpServerFallBack (d : Device) (releasedPort : Int) :
    Only .web d (d.httpServerFallBack e releasedPort) := by
  unfold httpServerFallBack
  split
  · exact only_httpServerInitPort e d _
  · exact .refl _ d

lemma only_httpServerAcquire (d : Device) (releasedPort : Int) :
    Only .web d (d.httpServerAcquire f nvs e releasedPort) := by
  have hinit := only_httpServerInitPort e d (getWebPortSetting f nvs)
  simp only [httpServerAcquire]
  split
  · exact hinit
  split
  · have hinit' := hinit.trans (only_httpServerInitPort e _ releasedPort)
    split
    · exact hinit'
    · exact hinit'.trans (only_httpServerFallBack _ _)
  · exact hinit.trans (only_httpServerFallBack _ _)

end Servers

end Device

/-! ## Accepted values -/

/-- What is read passes its checks. -/
def Accepted (f : Factory) (nvs : Nvs) : Prop :=
  ∀ k : Key, k.validate (settingItemsRead f nvs k) = true

def gatewayKeys (p : Port) : List Key :=
  [.baudrate p, .parity p, .stopbits p, .databits p, .bridgeMode p, .bridgeIp p, .bridgePort p,
    .bridgeMb p]

def AcceptedPort (f : Factory) (nvs : Nvs) (p : Port) : Prop :=
  ∀ k ∈ gatewayKeys p, k.validate (settingItemsRead f nvs k) = true

section Accepted

variable {f : Factory} {nvs : Nvs} {p : Port}

lemma Accepted.gateway (h : Accepted f nvs) (p : Port) : AcceptedPort f nvs p := fun k _ => h k

lemma strToPmMode_eq_tcpBridge {str : Text} :
    strToPmMode str = .tcpBridge ↔ str = portModeTcpBridge := by
  rw [← strncmpEq_iff (n := settingItemMaxStrLen) (t := portModeTcpBridge) (by decide), strToPmMode]
  split
  · exact iff_of_true rfl ‹_›
  · refine iff_of_false ?_ ‹_›
    repeat' split
    all_goals decide

lemma stringToBridgeMode_eq_server {str : Text} :
    stringToBridgeMode str = .server ↔ str = bridgeModeServer := by
  rw [← strncmpEq_iff (n := settingItemMaxStrLen) (t := bridgeModeServer) (by decide),
    stringToBridgeMode]
  split
  · exact iff_of_true rfl ‹_›
  · refine iff_of_false ?_ ‹_›
    split <;> decide

lemma Service.port_bridge :
    (Service.bridge p).port f nvs =
      if readPortModeFromNvs f nvs p = .tcpBridge ∧
          stringToBridgeMode (settingItemsRead f nvs (.bridgeMode p)) = .server then
        some (settingItemsReadInt f nvs (.bridgePort p))
      else none := by
  simp only [port, readPortModeFromNvs, strToPmMode_eq_tcpBridge, stringToBridgeMode_eq_server]

lemma inRange_strtol {min max : Int} {value : Text} (h : inRange min max value = true) :
    min ≤ (CText.strtol value).1 ∧ (CText.strtol value).1 ≤ max := by
  simp only [inRange, Bool.and_eq_true, decide_eq_true_eq] at h
  exact ⟨h.1.2, h.2⟩

lemma Accepted.webPort (h : Accepted f nvs) :
    1 ≤ settingItemsReadInt f nvs .webPort ∧ settingItemsReadInt f nvs .webPort ≤ 65535 :=
  inRange_strtol (h .webPort)

lemma Accepted.getWebPortSetting_eq (h : Accepted f nvs) :
    Device.getWebPortSetting f nvs = settingItemsReadInt f nvs .webPort := by
  obtain ⟨hmin, hmax⟩ := h.webPort
  have hmod : settingItemsReadInt f nvs .webPort % 2 ^ 16 = settingItemsReadInt f nvs .webPort :=
    Int.emod_eq_of_lt (by omega) (by omega)
  simp only [Device.getWebPortSetting, hmod]
  exact if_neg (by omega)

lemma Accepted.cacheModbusPort (h : Accepted f nvs) :
    1 ≤ settingItemsReadInt f nvs .cacheModbusPort :=
  (inRange_strtol (h .cacheModbusPort)).1

lemma Accepted.port_cache (h : Accepted f nvs) :
    Service.cache.port f nvs =
      if 0 < Device.cacheModbusWantedPort f nvs then some (Device.cacheModbusWantedPort f nvs)
      else none := by
  have hpos : 0 < settingItemsReadInt f nvs .cacheModbusPort := h.cacheModbusPort
  cases henabled : settingItemsReadBool f nvs .cacheModbusServerEnabled with
  | false => simp [Service.port, Device.cacheModbusWantedPort, henabled]
  | true => simp [Service.port, Device.cacheModbusWantedPort, henabled, hpos, Int.not_le.2 hpos]

lemma AcceptedPort.bridgePort (h : AcceptedPort f nvs p) :
    1 ≤ settingItemsReadInt f nvs (.bridgePort p) :=
  (inRange_strtol (h (.bridgePort p) (by simp [gatewayKeys]))).1

lemma AcceptedPort.baudrate (h : AcceptedPort f nvs p) :
    1200 ≤ settingItemsReadInt f nvs (.baudrate p) ∧
      settingItemsReadInt f nvs (.baudrate p) ≤ 115200 :=
  inRange_strtol (h (.baudrate p) (by simp [gatewayKeys]))

lemma AcceptedPort.bridgeMode (h : AcceptedPort f nvs p) :
    stringToBridgeMode (settingItemsRead f nvs (.bridgeMode p)) ≠ .disabled := by
  obtain ⟨t, ht, heq⟩ := List.any_eq_true.1 (h (.bridgeMode p) (by simp [gatewayKeys]))
  unfold stringToBridgeMode
  rcases List.mem_pair.1 ht with rfl | rfl
  · rw [if_pos heq]
    decide
  · simp only [heq]
    split <;> decide

lemma AcceptedPort.readSerialPortConfig_eq (h : AcceptedPort f nvs p) (c : SerialConfig) :
    readSerialPortConfig f nvs p c = ((readSerialPortConfig f nvs p .zero).1, espOk) := by
  have hbaudrate : (settingItemsReadInt f nvs (.baudrate p) % 2 ^ 32).toNat ≠ 0 := by
    obtain ⟨hmin, hmax⟩ := h.baudrate
    omega
  simp only [readSerialPortConfig, if_neg hbaudrate]

lemma AcceptedPort.readBridgeConfig_eq (h : AcceptedPort f nvs p) (inet : Inet)
    (c : BridgeConfig) :
    readBridgeConfig inet f nvs p c =
      ({ serialConfig := (readSerialPortConfig f nvs p .zero).1
         bridgeMode := stringToBridgeMode (settingItemsRead f nvs (.bridgeMode p))
         bridgeIp := (inet.pton (settingItemsRead f nvs (.bridgeIp p))).getD c.bridgeIp
         bridgePort := settingItemsReadInt f nvs (.bridgePort p)
         bridgeMb := settingItemsReadBool f nvs (.bridgeMb p) }, espOk) := by
  have hport : settingItemsReadInt f nvs (.bridgePort p) ≠ 0 := by
    have := h.bridgePort
    omega
  -- neither of the two ways to fail is open
  rw [readBridgeConfig, h.readSerialPortConfig_eq]
  simp only [ne_eq, not_true_eq_false, if_false, readTcpBridgeConfig, if_neg hport]

end Accepted

/-! ## Acquiring -/

namespace Device

variable {inet : Inet} {f : Factory} {nvs : Nvs} {e : UpdateEnv} {d : Device} {p : Port}

lemma initPort_server {cfg : BridgeConfig} (he : e.Quiet) (hcfg : cfg.bridgeMode = .server)
    (hbind : d.canBind cfg.bridgePort = true) :
    (if cfg.bridgeMb then d.modbusTcpInitPort e p cfg else d.transparentTcpInitPort e p cfg) =
      espOk := by
  simp [modbusTcpInitPort, transparentTcpInitPort, hcfg, hbind, he.transportErr p]

lemma mode_openMode_tcpBridge {serialCfg : SerialConfig} :
    ((d.openMode e p .tcpBridge espOk espOk serialCfg).1.pm.ports p).mode = .tcpBridge := by
  unfold openMode
  split
  · rename_i pm hinit
    exact (PortManager.State.mode_of_portInitMode_ok hinit).1
  · rename_i err hinit
    simp [PortManager.State.portInitMode, PortManager.Port.openTransport] at hinit

lemma bound_openMode_of_ne {mode : PmMode} {configErr transportErr : EspErr}
    {serialCfg : SerialConfig} (hclosed : (d.pm.ports p).mode ≠ .tcpBridge)
    (hmode : mode ≠ .tcpBridge) :
    (d.openMode e p mode configErr transportErr serialCfg).1.bound (.bridge p) = none := by
  apply bound_bridge_of_ne
  rcases openMode_cases d with h | ⟨pm, serialCfgAtInit, hinit, h⟩ <;> rw [h]
  · exact hclosed
  · exact (PortManager.State.mode_of_portInitMode_ok hinit).1 ▸ hmode

variable (inet e) in
lemma exists_bridgePortInit (hvalid : AcceptedPort f nvs p)
    (hmode : (d.pm.ports p).mode = .disabled) :
    ∃ cfg d', cfg = (readBridgeConfig inet f nvs p (d.bridgeCfg p)).1 ∧
      d' = { d with bridgeCfg := Function.update d.bridgeCfg p cfg } ∧
        d.bridgePortInit inet f nvs e p =
          (d', if cfg.bridgeMb then d'.modbusTcpInitPort e p cfg
            else d'.transparentTcpInitPort e p cfg) := by
  have hinit : d.initialized p = false := by simp [initialized, hmode]
  refine ⟨_, _, rfl, rfl, ?_⟩
  rw [bridgePortInit, hinit, hvalid.readBridgeConfig_eq inet (d.bridgeCfg p)]
  simp only [Bool.false_eq_true, ne_eq, not_true_eq_false, if_false, hvalid.bridgeMode]

lemma bound_portInitMode_tcpBridge (hvalid : Accepted f nvs) (he : e.Quiet)
    (hmode : (d.pm.ports p).mode = .disabled)
    (hfree : stringToBridgeMode (settingItemsRead f nvs (.bridgeMode p)) = .server →
      d.bound.Free (settingItemsReadInt f nvs (.bridgePort p))) :
    (d.portInitMode inet f nvs e p .tcpBridge).1.bound (.bridge p) =
      if stringToBridgeMode (settingItemsRead f nvs (.bridgeMode p)) = .server then
        some (settingItemsReadInt f nvs (.bridgePort p))
      else none := by
  obtain ⟨cfg, d', hread, hd', hinit⟩ := exists_bridgePortInit inet e (hvalid.gateway p) hmode
  have hcfg : cfg.bridgeMode = stringToBridgeMode (settingItemsRead f nvs (.bridgeMode p)) := by
    rw [hread, (hvalid.gateway p).readBridgeConfig_eq]
  have hport : cfg.bridgePort = settingItemsReadInt f nvs (.bridgePort p) := by
    rw [hread, (hvalid.gateway p).readBridgeConfig_eq]
  have honly := only_bridgePortInit inet f nvs e d p
  have hmode' : (d'.pm.ports p).mode = .disabled := by rw [hd', hmode]
  have hcfg' : d'.bridgeCfg p = cfg := by
    rw [hd']
    exact Function.update_self ..
  simp only [portInitMode]
  rw [hinit] at honly ⊢
  by_cases hserver : cfg.bridgeMode = .server
  · -- the new configuration is in place before the socket is asked for, without an effect on it
    have hfree' : d'.bound.Free cfg.bridgePort := by
      rw [honly.bound_eq_update (bound_bridge_of_ne (by rw [hmode']; decide)), hport]
      exact (hfree (hcfg ▸ hserver)).update_none
    rw [initPort_server he hserver (canBind_of_free hfree'),
      bound_bridge_of_tcpBridge mode_openMode_tcpBridge, bridgeCfg_openMode, hcfg', hcfg, hport]
  · have hclient : stringToBridgeMode (settingItemsRead f nvs (.bridgeMode p)) ≠ .server :=
      hcfg ▸ hserver
    rw [if_neg hclient]
    apply bound_bridge_of_client
    rw [bridgeCfg_openMode, hcfg']
    exact hserver

lemma bound_portManagerApplySettings (hvalid : Accepted f nvs) (he : e.Quiet)
    (hfrozen : d.pm.portsFrozen = false)
    (hfree : ∀ port, (Service.bridge p).port f nvs = some port → d.bound.Free port) :
    (d.portManagerApplySettings inet f nvs e p).1.bound (.bridge p) =
      (Service.bridge p).port f nvs := by
  have hmode := mode_portDeinitMode d p
  have hbound : (d.portDeinitMode p).bound = Function.update d.bound (.bridge p) none :=
    (only_portDeinitMode d p).bound_eq_update (bound_bridge_of_ne (by rw [hmode]; decide))
  rw [Service.port_bridge] at hfree ⊢
  rw [portManagerApplySettings, hfrozen, if_neg Bool.false_ne_true]
  cases hstored : readPortModeFromNvs f nvs p with
  | tcpBridge =>
    simp only [hstored, true_and] at hfree ⊢
    refine bound_portInitMode_tcpBridge hvalid he hmode fun hserver => ?_
    rw [hbound]
    exact (hfree _ (if_pos hserver)).update_none
  | passive | repeater | disabled | unknown =>
    simp only [reduceCtorEq, false_and, if_false]
    exact bound_openMode_of_ne (by rw [hmode]; decide) (by decide)

lemma cacheModbusWantedPort_nonneg (f : Factory) (nvs : Nvs) :
    0 ≤ cacheModbusWantedPort f nvs := by
  simp only [cacheModbusWantedPort]
  repeat' split
  all_goals first | omega | decide

lemma bound_cacheModbusServerAcquire (hvalid : Accepted f nvs) (he : e.Quiet)
    (hstopped : d.bound .cache = none)
    (hfree : ∀ port, Service.cache.port f nvs = some port → d.bound.Free port)
    (releasedPort : Int) :
    (d.cacheModbusServerAcquire f nvs e releasedPort).bound .cache =
      Service.cache.port f nvs := by
  have hrunning : ¬ 0 < d.cachePort := by
    intro hpos
    simp [bound, hpos] at hstopped
  rw [hvalid.port_cache] at hfree ⊢
  simp only [cacheModbusServerAcquire]
  split
  · rename_i hkeep
    rw [hstopped, if_neg]
    omega
  rename_i hstart
  have hwanted : 0 < cacheModbusWantedPort f nvs := by
    have hnonneg := cacheModbusWantedPort_nonneg f nvs
    omega
  have hbind := canBind_of_free (hfree _ (if_pos hwanted))
  have hinit : d.cacheModbusServerInit e (cacheModbusWantedPort f nvs) =
      ({ d with cachePort := cacheModbusWantedPort f nvs }, espOk) := by
    rw [cacheModbusServerInit, if_neg fun h => hrunning h.1]
    simp [hrunning, he.cacheErr, hbind]
  rw [hinit]
  simp only [ne_eq, not_true_eq_false, false_and, if_false]
  rfl

lemma bound_httpServerAcquire (hvalid : Accepted f nvs) (he : e.Quiet)
    (hfree : ∀ port, Service.web.port f nvs = some port → d.bound.Free port)
    (releasedPort : Int) :
    (d.httpServerAcquire f nvs e releasedPort).bound .web = Service.web.port f nvs := by
  have hport : getWebPortSetting f nvs = settingItemsReadInt f nvs .webPort :=
    hvalid.getWebPortSetting_eq
  have hinit : d.httpServerInitPort e (getWebPortSetting f nvs) =
      ({ d with http := some (settingItemsReadInt f nvs .webPort) }, espOk) := by
    rw [httpServerInitPort, hport, canBind_of_free (hfree _ rfl)]
    simp [he.httpErr]
  rw [httpServerAcquire, hinit]
  rfl

/-! ## Releasing -/

lemma bound_portManagerRelease (hfrozen : d.pm.portsFrozen = false) :
    (d.portManagerRelease p).bound (.bridge p) = none := by
  rw [portManagerRelease, hfrozen, if_neg Bool.false_ne_true]
  exact bound_bridge_of_ne (by rw [mode_portDeinitMode]; decide)

lemma bound_cacheModbusServerRelease
    (hport : d.bound .cache ≠ some (cacheModbusWantedPort f nvs)) :
    (d.cacheModbusServerRelease f nvs).1.bound .cache = none := by
  simp only [cacheModbusServerRelease]
  split
  · rename_i hkeep
    refine if_neg fun (hpos : 0 < d.cachePort) => hport ?_
    have hwanted : d.cachePort = cacheModbusWantedPort f nvs := hkeep.resolve_left (by omega)
    rw [← hwanted]
    exact if_pos hpos
  · rfl

lemma bound_httpServerRelease : d.httpServerRelease.1.bound .web = none := rfl

end Device

/-! ## The phases -/

section Phases

variable (inet : Inet) (f : Factory) (nvs : Nvs) (e : UpdateEnv)

lemma Phase.only_release (r : Locals × Device) (s : Service) :
    Device.Only s r.2 (Phase.run inet f nvs e r (.release s)).2 := by
  cases s with
  | web => exact Device.only_httpServerRelease r.2
  | cache => exact Device.only_cacheModbusServerRelease r.2
  | bridge p => exact Device.only_portManagerRelease r.2 p

lemma Phase.only_acquire (r : Locals × Device) (s : Service) :
    Device.Only s r.2 (Phase.run inet f nvs e r (.acquire s)).2 := by
  cases s with
  | web => exact Device.only_httpServerAcquire r.2 _
  | cache => exact Device.only_cacheModbusServerAcquire r.2 _
  | bridge p => exact Device.only_portManagerApplySettings inet f nvs e r.2 p

variable {nvs} in
lemma Phase.bound_release {r : Locals × Device} {s : Service}
    (hfrozen : r.2.pm.portsFrozen = false)
    (hcache : s = .cache → r.2.bound .cache ≠ some (Device.cacheModbusWantedPort f nvs)) :
    (Phase.run inet f nvs e r (.release s)).2.bound = Function.update r.2.bound s none := by
  refine (only_release inet f nvs e r s).bound_eq_update ?_
  cases s with
  | web => exact Device.bound_httpServerRelease
  | cache => exact Device.bound_cacheModbusServerRelease (hcache rfl)
  | bridge p => exact Device.bound_portManagerRelease hfrozen

variable {f nvs e} in
lemma Phase.bound_acquire {r : Locals × Device} {s : Service} (hvalid : Accepted f nvs)
    (he : e.Quiet) (hfrozen : r.2.pm.portsFrozen = false) (hnone : r.2.bound s = none)
    (hfree : ∀ port, s.port f nvs = some port → r.2.bound.Free port) :
    (Phase.run inet f nvs e r (.acquire s)).2.bound =
      Function.update r.2.bound s (s.port f nvs) := by
  refine (only_acquire inet f nvs e r s).bound_eq_update ?_
  cases s with
  | web => exact Device.bound_httpServerAcquire hvalid he hfree _
  | cache => exact Device.bound_cacheModbusServerAcquire hvalid he hnone hfree _
  | bridge p => exact Device.bound_portManagerApplySettings hvalid he hfrozen hfree

lemma count_closed_foldl {act : Locals × Device → Service → Locals × Device}
    (hact : ∀ r s, Device.Only s r.2 (act r s).2) {l : List Service} {s : Service} (hs : s ∉ l)
    (r : Locals × Device) : (l.foldl act r).2.closed.count s = r.2.closed.count s := by
  induction l generalizing r with
  | nil => rfl
  | cons t l ih =>
    rw [List.mem_cons, not_or] at hs
    exact (ih hs.2 _).trans ((hact r t).closed s hs.1)

end Phases

/-! ## The port manager underneath

The ports of the device change as the port manager changes them, so that what is known about its
state is known after an update. -/

section Manager

variable (inet : Inet) (f : Factory) (nvs : Nvs) (e : UpdateEnv)

lemma Device.pm_portManagerRelease (d : Device) (p : Port) :
    (d.portManagerRelease p).pm = d.pm.release p := by
  unfold portManagerRelease PortManager.State.release
  split
  · rfl
  · obtain ⟨serialCfgAtInit, closed, hdeinit, -⟩ := exists_portDeinitMode d p
    rw [hdeinit]

lemma Device.pm_openMode (d : Device) (p : Port) (mode : PmMode) (configErr transportErr : EspErr)
    (serialCfg : SerialConfig) :
    (d.openMode e p mode configErr transportErr serialCfg).1.pm =
      (d.pm.orElse (d.pm.portInitMode p mode ⟨configErr, transportErr, true, e.pool⟩)).1 := by
  unfold openMode
  split <;> rename_i hinit <;> rw [hinit] <;> rfl

lemma Device.pm_bridgePortInit (d : Device) (p : Port) :
    (d.bridgePortInit inet f nvs e p).1.pm = d.pm := by
  simp only [bridgePortInit]
  repeat' split
  all_goals rfl

lemma Device.exists_pm_portManagerApplySettings (d : Device) (p : Port) :
    ∃ env, (d.portManagerApplySettings inet f nvs e p).1.pm =
      (d.pm.applySettings p (readPortModeFromNvs f nvs p) env).1 := by
  unfold portManagerApplySettings PortManager.State.applySettings
  split
  · exact ⟨⟨espOk, espOk, true, e.pool⟩, rfl⟩
  obtain ⟨serialCfgAtInit, closed, hdeinit, -⟩ := exists_portDeinitMode d p
  have hpm : (d.portDeinitMode p).pm = d.pm.portDeinitMode p := by rw [hdeinit]
  cases readPortModeFromNvs f nvs p with
  | tcpBridge =>
    exact ⟨_, (pm_openMode ..).trans (by rw [pm_bridgePortInit, hpm])⟩
  | passive | repeater | disabled | unknown =>
    exact ⟨_, (pm_openMode ..).trans (by rw [hpm])⟩

lemma Phase.keeps_run {r : Locals × Device} (h : r.2.pm.Synced) (ph : Phase) :
    r.2.pm.Keeps (Phase.run inet f nvs e r ph).2.pm := by
  have hserver {s : Service} {d : Device} (h' : Device.Only s r.2 d) (hs : ∀ p, s ≠ .bridge p) :
      r.2.pm.Keeps d.pm := by
    rw [h'.pm hs]
    exact h.keeps
  cases ph with
  | release s =>
    cases s with
    | web => exact hserver (only_release inet f nvs e r .web) fun _ => Service.noConfusion
    | cache => exact hserver (only_release inet f nvs e r .cache) fun _ => Service.noConfusion
    | bridge p =>
      change r.2.pm.Keeps (r.2.portManagerRelease p).pm
      rw [Device.pm_portManagerRelease]
      exact h.keeps_release
  | acquire s =>
    cases s with
    | web => exact hserver (only_acquire inet f nvs e r .web) fun _ => Service.noConfusion
    | cache => exact hserver (only_acquire inet f nvs e r .cache) fun _ => Service.noConfusion
    | bridge p =>
      obtain ⟨env, happly⟩ := Device.exists_pm_portManagerApplySettings inet f nvs e r.2 p
      change r.2.pm.Keeps (r.2.portManagerApplySettings inet f nvs e p).1.pm
      rw [happly]
      exact h.keeps_applySettings
  | delay | mdns | ethernet | wifi => exact h.keeps

end Manager

/-! ## The flags -/

def UpdateFlags.flag (fl : UpdateFlags) : Service → Bool
  | .web => fl.httpServer
  | .cache => fl.cacheModbus
  | .bridge p => fl.bridge p

section Flags

variable {fl : UpdateFlags} {s : Service}

lemma UpdateFlags.mem_ports {p : Port} : p ∈ fl.ports ↔ fl.bridge p = true := by
  simp [ports]

lemma UpdateFlags.mem_released : s ∈ fl.released ↔ fl.flag s = true := by
  cases s <;> simp [released, flag, mem_ports]

lemma UpdateFlags.mem_acquired : s ∈ fl.acquired ↔ fl.flag s = true := by
  cases s <;> simp [acquired, flag, mem_ports]

lemma UpdateFlags.nodup_acquired : fl.acquired.Nodup := by
  have hports : (fl.ports.map Service.bridge).Nodup :=
    ((List.nodup_finRange bridgesCount).filter _).map fun _ _ => Service.bridge.inj
  unfold acquired
  cases fl.cacheModbus <;> cases fl.httpServer <;> simp [List.nodup_append, hports]

variable (inet : Inet) (f : Factory) (nvs : Nvs) (e : UpdateEnv) (network : NetworkFlags)
  (d : Device)

lemma settingsUpdateTask_eq :
    settingsUpdateTask inet f nvs e fl d =
      (fl.acquired.foldl (fun r s => Phase.run inet f nvs e r (.acquire s))
        (fl.released.foldl (fun r s => Phase.run inet f nvs e r (.release s)) ({}, d))).2 := by
  -- a phase without an effect on the listeners can be left out, whatever its flag
  have hidle (c : Bool) (ph : Phase) (hph : ∀ r, Phase.run inet f nvs e r ph = r)
      (r : Locals × Device) :
      (if c then [ph] else []).foldl (Phase.run inet f nvs e) r = r := by
    cases c with
    | false => rfl
    | true => exact hph r
  simp only [settingsUpdateTask, UpdateFlags.phases, List.foldl_append, List.foldl_map]
  rw [hidle _ .delay fun _ => rfl, hidle _ .mdns fun _ => rfl, hidle _ .ethernet fun _ => rfl,
    hidle _ .wifi fun _ => rfl]

lemma settingsUpdate_eq :
    settingsUpdate inet f nvs e network d =
      settingsUpdateTask inet f nvs e (updateFlags inet f nvs network d) d := by
  simp only [settingsUpdate]
  split
  · rename_i hzero
    simp only [UpdateFlags.isZero, Bool.and_eq_true, Bool.not_eq_true', List.isEmpty_iff] at hzero
    obtain ⟨⟨⟨⟨⟨hports, hcache⟩, hhttp⟩, -⟩, -⟩, -⟩ := hzero
    simp [settingsUpdateTask_eq, UpdateFlags.released, UpdateFlags.acquired, hports, hcache, hhttp]
  · rfl

/-- The service is as it is configured. -/
def Service.Unchanged : Service → Prop
  | .web => d.bound .web = Service.web.port f nvs
  | .cache => d.bound .cache = Service.cache.port f nvs
  | .bridge p =>
    readPortModeFromNvs f nvs p = .tcpBridge ∧
      (readBridgeConfig inet f nvs p (d.bridgeCfg p)).1 = d.bridgeCfg p

variable {inet f nvs d}

lemma AcceptedPort.readBridgeConfig_congr {p : Port} (hvalid : AcceptedPort f nvs p)
    (hip : (inet.pton (settingItemsRead f nvs (.bridgeIp p))).isSome) (c c' : BridgeConfig) :
    readBridgeConfig inet f nvs p c = readBridgeConfig inet f nvs p c' := by
  obtain ⟨ip, hpton⟩ := Option.isSome_iff_exists.1 hip
  rw [hvalid.readBridgeConfig_eq, hvalid.readBridgeConfig_eq, hpton, Option.getD_some,
    Option.getD_some]

lemma Accepted.bridgePortCheckSettingsChanged_iff (hvalid : Accepted f nvs) {p : Port}
    (hip : IsDottedQuad (settingItemsRead f nvs (.bridgeIp p)))
    (hmode : (d.pm.ports p).mode = .tcpBridge) :
    d.bridgePortCheckSettingsChanged inet f nvs p = true ↔
      (readBridgeConfig inet f nvs p (d.bridgeCfg p)).1 ≠ d.bridgeCfg p := by
  have hok : (readBridgeConfig inet f nvs p .zero).2 = espOk := by
    rw [(hvalid.gateway _).readBridgeConfig_eq]
  have hinit : d.initialized p = true := decide_eq_true hmode
  rw [(hvalid.gateway p).readBridgeConfig_congr (inet.isSome_of_isDottedQuad _ hip) (d.bridgeCfg p)
    .zero]
  simp only [Device.bridgePortCheckSettingsChanged, hok, hinit, ne_eq, not_true_eq_false, if_false,
    Bool.not_true, Bool.false_eq_true, decide_eq_true_iff]
  exact ne_comm

lemma Accepted.bound_bridge_of_not_changed (hvalid : Accepted f nvs) {p : Port}
    (hip : IsDottedQuad (settingItemsRead f nvs (.bridgeIp p)))
    (h : d.portSettingsChangedLocked inet f nvs p = false) :
    d.bound (.bridge p) = (Service.bridge p).port f nvs := by
  simp only [Device.portSettingsChangedLocked] at h
  split at h
  · cases h
  rename_i hmode
  rw [not_not] at hmode
  rw [Service.port_bridge, hmode]
  by_cases hgateway : (d.pm.ports p).mode = .tcpBridge
  · rw [hgateway] at h
    have hcfg : (readBridgeConfig inet f nvs p (d.bridgeCfg p)).1 = d.bridgeCfg p := by
      by_contra hne
      rw [(hvalid.bridgePortCheckSettingsChanged_iff hip hgateway).2 hne] at h
      cases h
    rw [(hvalid.gateway _).readBridgeConfig_eq] at hcfg
    rw [Device.bound_bridge_of_tcpBridge hgateway, hgateway, ← hcfg]
    simp only [true_and]
  · rw [Device.bound_bridge_of_ne hgateway, if_neg fun h => hgateway h.1]

lemma bound_of_flag_eq_false (hvalid : Accepted f nvs)
    (hip : ∀ p, IsDottedQuad (settingItemsRead f nvs (.bridgeIp p))) (hweb : d.http.isSome)
    (hfrozen : d.pm.portsFrozen = false)
    (hflag : (updateFlags inet f nvs network d).flag s = false) :
    d.bound s = s.port f nvs := by
  cases s with
  | web =>
    obtain ⟨port, hport⟩ := Option.isSome_iff_exists.1 hweb
    simp only [UpdateFlags.flag, updateFlags, Device.httpServerCheckSettingsChanged, hport,
      hvalid.getWebPortSetting_eq, decide_eq_false_iff_not, ne_eq, not_not] at hflag
    change d.http = some _
    rw [hport, hflag]
  | cache =>
    simp only [UpdateFlags.flag, updateFlags, Device.cacheModbusServerCheckSettingsChanged,
      decide_eq_false_iff_not, ne_eq, not_not] at hflag
    rw [hvalid.port_cache, hflag]
    rfl
  | bridge p =>
    simp only [UpdateFlags.flag, updateFlags, Device.portManagerCheckSettingsChanged, hfrozen,
      Bool.false_eq_true, if_false] at hflag
    exact hvalid.bound_bridge_of_not_changed (hip p) hflag

lemma flag_eq_false_of_unchanged (hvalid : Accepted f nvs)
    (hip : ∀ p, IsDottedQuad (settingItemsRead f nvs (.bridgeIp p)))
    (hlistens : (d.bound s).isSome) (hunchanged : s.Unchanged inet f nvs d) :
    (updateFlags inet f nvs network d).flag s = false := by
  cases s with
  | web =>
    have hport : d.http = some (settingItemsReadInt f nvs .webPort) := hunchanged
    simp [UpdateFlags.flag, updateFlags, Device.httpServerCheckSettingsChanged, hport,
      hvalid.getWebPortSetting_eq]
  | cache =>
    have hpos : 0 < d.cachePort := by
      by_contra hle
      simp [Device.bound, hle] at hlistens
    have hport : some d.cachePort = Service.cache.port f nvs :=
      (if_pos hpos).symm.trans hunchanged
    rw [hvalid.port_cache] at hport
    split at hport
    · simpa [UpdateFlags.flag, updateFlags, Device.cacheModbusServerCheckSettingsChanged] using
        (Option.some.inj hport).symm
    · cases hport
  | bridge p =>
    obtain ⟨hmode, hcfg⟩ := hunchanged
    have hgateway : (d.pm.ports p).mode = .tcpBridge := by
      by_contra hne
      rw [Device.bound_bridge_of_ne hne] at hlistens
      cases hlistens
    have hsame : d.bridgePortCheckSettingsChanged inet f nvs p = false := by
      rw [Bool.eq_false_iff, Ne, hvalid.bridgePortCheckSettingsChanged_iff (hip p) hgateway,
        not_not]
      exact hcfg
    simp only [UpdateFlags.flag, updateFlags, Device.portManagerCheckSettingsChanged,
      Device.portSettingsChangedLocked, hmode, hgateway, hsame]
    split <;> rfl

end Flags

/-! ## The hand-over -/

section HandOver

variable (inet : Inet) {f : Factory} {nvs : Nvs} (e : UpdateEnv) {fl : UpdateFlags} {d : Device}

/-- During the release phase, the ports can be taken down, and a cache server with a flag does not
run as wanted. -/
def Releasable (f : Factory) (nvs : Nvs) (fl : UpdateFlags) (r : Locals × Device) : Prop :=
  r.2.pm.portsFrozen = false ∧
    (fl.cacheModbus = true → r.2.bound .cache ≠ some (Device.cacheModbusWantedPort f nvs))

lemma releasable_updateFlags (network : NetworkFlags) (hfrozen : d.pm.portsFrozen = false) :
    Releasable f nvs (updateFlags inet f nvs network d) ({}, d) := by
  refine ⟨hfrozen, fun hflag hbound => ?_⟩
  have hchanged : Device.cacheModbusWantedPort f nvs ≠ d.cachePort := of_decide_eq_true hflag
  simp only [Device.bound] at hbound
  split at hbound
  · exact hchanged (Option.some.inj hbound).symm
  · cases hbound

lemma Releasable.bound_release {r : Locals × Device} (h : Releasable f nvs fl r) {s : Service}
    (hs : s ∈ fl.released) :
    (Phase.run inet f nvs e r (.release s)).2.bound = Function.update r.2.bound s none ∧
      Releasable f nvs fl (Phase.run inet f nvs e r (.release s)) := by
  have hbound : (Phase.run inet f nvs e r (.release s)).2.bound =
      Function.update r.2.bound s none := by
    refine Phase.bound_release inet f e h.1 fun hcache => h.2 ?_
    rw [hcache] at hs
    exact UpdateFlags.mem_released.1 hs
  refine ⟨hbound, (Phase.only_release inet f nvs e r s).frozen.trans h.1, fun hcache => ?_⟩
  rw [hbound]
  -- no release binds a port, so the cache server does not get to run as wanted
  by_cases hs' : Service.cache = s
  · rw [hs', Function.update_self]
    exact fun hnone => Option.some_ne_none _ hnone.symm
  · rw [Function.update_of_ne hs']
    exact h.2 hcache

lemma towards_released (h : Releasable f nvs fl ({}, d))
    (hstay : ∀ s : Service, s ∉ fl.released → d.bound s = s.port f nvs) :
    let r := fl.released.foldl (fun r s => Phase.run inet f nvs e r (.release s)) ({}, d)
    Holding.Towards (fun s : Service => s.port f nvs) {s | s ∈ fl.released} r.2.bound ∧
      Releasable f nvs fl r :=
  Holding.towards_foldl_release (fun r : Locals × Device => r.2.bound) (Releasable f nvs fl)
    (fun r s => Phase.run inet f nvs e r (.release s))
    (fun _ hr _ hs => hr.bound_release inet e hs) h hstay

variable {e} in
lemma bound_acquired (hvalid : Accepted f nvs) (he : e.Quiet)
    (htarget : Holding.Exclusive fun s : Service => s.port f nvs) {r : Locals × Device}
    (hfrozen : r.2.pm.portsFrozen = false)
    (h : Holding.Towards (fun s : Service => s.port f nvs) {s | s ∈ fl.acquired} r.2.bound) :
    (fl.acquired.foldl (fun r s => Phase.run inet f nvs e r (.acquire s)) r).2.bound =
      fun s : Service => s.port f nvs := by
  refine (Holding.foldl_acquire (fun r : Locals × Device => r.2.bound)
    (fun r => r.2.pm.portsFrozen = false) (fun r s => Phase.run inet f nvs e r (.acquire s))
    (fun r hfrozen s _ hnone hfree => ?_) htarget UpdateFlags.nodup_acquired hfrozen h).1
  exact ⟨Phase.bound_acquire inet hvalid he hfrozen hnone hfree,
    (Phase.only_acquire inet f nvs e r s).frozen.trans hfrozen⟩

end HandOver

/-- From a running web server on, the update leaves exactly the configured listeners, on exactly
their ports, and a listener whose configuration is the one it runs with is not closed. -/
theorem settingsUpdate_handOver (inet : Inet) (f : Factory) (nvs : Nvs) (e : UpdateEnv)
    (network : NetworkFlags) (d : Device) (hweb : d.http.isSome)
    (hfrozen : d.pm.portsFrozen = false) (hvalid : Accepted f nvs)
    (hip : ∀ p, IsDottedQuad (settingItemsRead f nvs (.bridgeIp p)))
    (hconfigured : ∀ a b, ¬ Collide f nvs a b) (he : e.Quiet) :
    (∀ s : Service, (settingsUpdate inet f nvs e network d).bound s = s.port f nvs) ∧
      ∀ s : Service, (d.bound s).isSome → s.Unchanged inet f nvs d →
        (settingsUpdate inet f nvs e network d).closed.count s = d.closed.count s := by
  -- what the configuration asks for can be held by all at once
  have htarget : Holding.Exclusive fun s : Service => s.port f nvs := by
    intro a b port ha hb
    by_contra hne
    exact hconfigured a b ⟨hne, port, ha, hb⟩
  rw [settingsUpdate_eq, settingsUpdateTask_eq]
  constructor
  · have hstay (s : Service) (hs : s ∉ (updateFlags inet f nvs network d).released) :
        d.bound s = s.port f nvs := by
      rw [UpdateFlags.mem_released, Bool.not_eq_true] at hs
      exact bound_of_flag_eq_false network hvalid hip hweb hfrozen hs
    obtain ⟨hreleased, hfrozen', -⟩ :=
      towards_released inet e (releasable_updateFlags inet network hfrozen) hstay
    -- the two phases are about the same services, in opposite orders
    have hsame : {s | s ∈ (updateFlags inet f nvs network d).released} =
        {s | s ∈ (updateFlags inet f nvs network d).acquired} := by
      ext s
      exact UpdateFlags.mem_released.trans UpdateFlags.mem_acquired.symm
    rw [hsame] at hreleased
    exact congrFun (bound_acquired inet hvalid he htarget hfrozen' hreleased)
  · intro s hlistens hunchanged
    -- without a flag, the service is in neither of the phases
    have hflag := flag_eq_false_of_unchanged network hvalid hip hlistens hunchanged
    have hs : s ∉ (updateFlags inet f nvs network d).released := by
      rw [UpdateFlags.mem_released, hflag]
      exact Bool.false_ne_true
    have hs' : s ∉ (updateFlags inet f nvs network d).acquired := by
      rw [UpdateFlags.mem_acquired, hflag]
      exact Bool.false_ne_true
    rw [count_closed_foldl (fun r s => Phase.only_acquire inet f nvs e r s) hs',
      count_closed_foldl (fun r s => Phase.only_release inet f nvs e r s) hs]

def circleNvs : Nvs
  | .webPort => some "502".toList
  | .cacheModbusPort => some "80".toList
  | .bridgePort p => if p.val = 0 then some "504".toList else none
  | _ => none

def closedDevice : Device where
  pm :=
    { ports := fun _ => .init
      cache := .init true
      portsFrozen := false
      sniffQueue := true }
  bridgeCfg _ := .zero
  serialCfgAtInit _ := .zero
  http := some 80
  cachePort := 504
  closed := []

def freshDevice : Device where
  pm :=
    { ports := fun _ => { PortManager.Port.init with mode := .tcpBridge, bridgeDesc := true }
      cache := .init true
      portsFrozen := false
      sniffQueue := true }
  bridgeCfg p := (readBridgeConfig strictInet ⟨none, none⟩ (fun _ => none) p .zero).1
  serialCfgAtInit _ := .zero
  http := some 80
  cachePort := 504
  closed := []

theorem settingsUpdate_handOver_circleNvs :
    let d := settingsUpdate strictInet ⟨none, none⟩ circleNvs
      ⟨fun _ => espOk, espOk, espOk, ⟨0, true⟩⟩ ⟨false, false, false⟩ freshDevice
    services.map d.bound = [some 502, some 80, some 504, some 503] ∧
      d.closed.count (.bridge 1) = 0 := by
  have hvalid : ∀ k ∈ settingKeys,
      k.validate (settingItemsRead ⟨none, none⟩ circleNvs k) = true := by
    decide +kernel
  have hfree : ∀ a ∈ services, ∀ b ∈ services, a ≠ b →
      a.port ⟨none, none⟩ circleNvs ≠ b.port ⟨none, none⟩ circleNvs := by
    decide +kernel
  obtain ⟨hbound, hclosed⟩ := settingsUpdate_handOver strictInet ⟨none, none⟩ circleNvs
    ⟨fun _ => espOk, espOk, espOk, ⟨0, true⟩⟩ ⟨false, false, false⟩ freshDevice rfl rfl
    (fun k => hvalid k (mem_settingKeys k))
    (fun p => ⟨192, 168, 5, 2, by revert p; decide +kernel⟩)
    (fun a b ⟨hne, port, ha, hb⟩ =>
      hfree a (mem_services a) b (mem_services b) hne (ha.trans hb.symm))
    ⟨fun _ => rfl, rfl, rfl⟩
  constructor
  · rw [funext hbound]
    decide +kernel
  · exact hclosed (.bridge 1) (by decide +kernel)
      ⟨by decide +kernel, by decide +kernel⟩

/-! ## The cache overlay -/

/-- The task leaves the cache overlay where it is. Whatever fails, the sniffers of exactly the ports
that carry it and have a serial line open feed the cache afterwards. -/
theorem settingsUpdateTask_keeps_overlays (inet : Inet) (f : Factory) (nvs : Nvs) (e : UpdateEnv)
    (fl : UpdateFlags) {d : Device} (h : d.pm.Synced) :
    d.pm.Keeps (settingsUpdateTask inet f nvs e fl d).pm := by
  -- phase by phase, from any locals on
  have hfold (l : List Phase) (r : Locals × Device) (hr : r.2.pm.Synced) :
      r.2.pm.Keeps (l.foldl (Phase.run inet f nvs e) r).2.pm := by
    induction l generalizing r with
    | nil => exact hr.keeps
    | cons ph l ih =>
      have hph := Phase.keeps_run inet f nvs e hr ph
      exact hph.trans (ih _ hph.synced)
  exact hfold fl.phases ({}, d) h

def overlayDevice : Device :=
  { freshDevice with
    pm := freshDevice.pm.setPort 0
      { PortManager.Port.init with cacheOverlay := true } }

/-- The port with the overlay was disabled, and the task opens it. -/
theorem settingsUpdateTask_keeps_overlays_opened :
    let d := settingsUpdateTask strictInet ⟨none, none⟩ (fun _ => none)
      ⟨fun _ => espOk, espOk, espOk, ⟨0, true⟩⟩ ⟨fun _ => true, true, true, ⟨true, true, true⟩⟩
      overlayDevice
    (∃ i, (d.pm.ports i).feedsCache = true) ∧ overlayDevice.pm.Keeps d.pm := by
  have hsynced : overlayDevice.pm.Synced := ⟨rfl, by unfold PortManager.Port.Synced; decide +kernel⟩
  exact ⟨by decide +kernel, settingsUpdateTask_keeps_overlays _ _ _ _ _ hsynced⟩

end WbMge.Settings
