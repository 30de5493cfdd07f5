import WbMge.PortManager.CacheSource
import WbMge.Settings.Collisions
import WbMge.ToMathlib.Holding

/-!
# Applying the settings

The model of `settings_update.c`, and of what it drives in `bridge.c`, `http_server.c` and
`cache_modbus_server.c`: the listeners of the device, the comparison of what runs with what is
stored, and the phases of `settings_update_task`.

`Device` is what runs. `Device.bound` is the TCP port that each service listens on; a socket can be
bound if no service listens on its port. What else can keep a service from coming up is an argument,
`UpdateEnv`. The settings are read from the storage whenever a phase needs them.
-/

namespace WbMge.Settings

open Cache (bridgesCount)
open CText (strncmpEq)
open Json (Text)
open PortManager (PmMode EspErr espOk espErrInvalidArg espErrInvalidState CacheEnv)

def espFail : EspErr := -1

def espErrNotAllowed : EspErr := 0x10D

/-! ## Configurations of a port -/

/-- `uart_parity_t`. -/
inductive Parity where
  | disable
  | even
  | odd
deriving Repr, DecidableEq

/-- `uart_stop_bits_t`. -/
inductive StopBits where
  | one
  | onePointFive
  | two
deriving Repr, DecidableEq

/-- `uart_word_length_t`. -/
inductive DataBits where
  | five
  | six
  | seven
  | eight
deriving Repr, DecidableEq

/-- `serial_config_t`, without the UART and the pins, which a port always has the same. -/
structure SerialConfig where
  baudrate : Nat
  parity : Parity
  stopbits : StopBits
  databits : DataBits
deriving Repr, DecidableEq

/-- What stands for the zeroes of `{0}` and of `memset`, which nothing reads. -/
def SerialConfig.zero : SerialConfig := ⟨0, .disable, .one, .five⟩

inductive BridgeMode where
  | disabled
  | server
  | client
deriving Repr, DecidableEq

structure BridgeConfig where
  serialConfig : SerialConfig
  bridgeMode : BridgeMode
  bridgeIp : UInt32
  bridgePort : Int
  bridgeMb : Bool
deriving Repr, DecidableEq

/-- The zeroes of `{0}`. -/
def BridgeConfig.zero : BridgeConfig := ⟨.zero, .disabled, 0, 0, false⟩

def stringToBridgeMode (str : Text) : BridgeMode :=
  if strncmpEq settingItemMaxStrLen str bridgeModeServer then .server
  else if strncmpEq settingItemMaxStrLen str bridgeModeClient then .client
  else .disabled

def lookupStrToInt {α : Type} (str : Text) (table : List (Text × α)) (default : α) : α :=
  ((table.find? fun entry => strncmpEq settingItemMaxStrLen str entry.1).map Prod.snd).getD default

/-- Four numbers up to 255 without leading zeroes. -/
def IsDottedQuad (value : Text) : Prop :=
  ∃ a b c d : Fin 256,
    value = Nat.toDigits 10 a ++ '.' :: Nat.toDigits 10 b ++ '.' :: Nat.toDigits 10 c ++
      '.' :: Nat.toDigits 10 d

/-- `inet_pton` for IPv4 addresses. Only what it makes of an address in its strict form is
known. -/
structure Inet where
  pton : Text → Option UInt32
  isSome_of_isDottedQuad : ∀ value, IsDottedQuad value → (pton value).isSome

def octet (t : Text) : Option (Fin 256) :=
  (List.finRange 256).find? fun a => decide (Nat.toDigits 10 a.val = t)

def strictPton (value : Text) : Option UInt32 :=
  match (value.splitOn '.').map octet with
  | [some a, some b, some c, some d] =>
    some (UInt32.ofNat (a.val + 256 * (b.val + 256 * (c.val + 256 * d.val))))
  | _ => none

lemma octet_toDigits (a : Fin 256) : ∃ a', octet (Nat.toDigits 10 a.val) = some a' := by
  apply Option.isSome_iff_exists.1
  rw [octet, List.find?_isSome]
  exact ⟨a, List.mem_finRange a, decide_eq_true rfl⟩

lemma isSome_strictPton {value : Text} (h : IsDottedQuad value) :
    (strictPton value).isSome := by
  obtain ⟨a, b, c, d, rfl⟩ := h
  have hdot : ∀ a : Fin 256, '.' ∉ Nat.toDigits 10 a.val := by decide +kernel
  have hsplit : (['.'].intercalate ([a, b, c, d].map fun n => Nat.toDigits 10 n.val)).splitOn '.' =
      [a, b, c, d].map fun n => Nat.toDigits 10 n.val :=
    List.splitOn_intercalate '.' (by simp [hdot]) (by simp)
  obtain ⟨a', ha⟩ := octet_toDigits a
  obtain ⟨b', hb⟩ := octet_toDigits b
  obtain ⟨c', hc⟩ := octet_toDigits c
  obtain ⟨d', hd⟩ := octet_toDigits d
  simp only [List.map_cons, List.map_nil, List.intercalate_cons_cons, List.intercalate_singleton,
    List.append_assoc, List.cons_append, List.nil_append] at hsplit
  simp [strictPton, hsplit, ha, hb, hc, hd]

lemma isDottedQuad_of_strictPton {value : Text} (h : (strictPton value).isSome) :
    IsDottedQuad value := by
  have hoctet {t : Text} {a : Fin 256} (ha : octet t = some a) : t = Nat.toDigits 10 a.val := by
    have hfound := List.find?_some ha
    exact (of_decide_eq_true hfound).symm
  rw [strictPton] at h
  split at h
  · rename_i a b c d hparts
    obtain ⟨t₁, rest₁, hsplit, h₁, hrest₁⟩ := List.map_eq_cons_iff.1 hparts
    obtain ⟨t₂, rest₂, rfl, h₂, hrest₂⟩ := List.map_eq_cons_iff.1 hrest₁
    obtain ⟨t₃, rest₃, rfl, h₃, hrest₃⟩ := List.map_eq_cons_iff.1 hrest₂
    obtain ⟨t₄, rest₄, rfl, h₄, hrest₄⟩ := List.map_eq_cons_iff.1 hrest₃
    obtain rfl := List.map_eq_nil_iff.1 hrest₄
    refine ⟨a, b, c, d, ?_⟩
    rw [← hoctet h₁, ← hoctet h₂, ← hoctet h₃, ← hoctet h₄]
    have hvalue : ['.'].intercalate (value.splitOn '.') = value := List.intercalate_splitOn '.'
    rw [hsplit] at hvalue
    simpa [List.intercalate_cons_cons] using hvalue.symm
  · cases h

/-- An `inet_pton` that accepts strict dotted quads and nothing else. -/
def strictInet : Inet := ⟨strictPton, fun _ => isSome_strictPton⟩

section Config

variable (inet : Inet) (f : Factory) (nvs : Nvs) (p : Port)

/-- `read_serial_port_config`, with the configuration it writes over. -/
def readSerialPortConfig (c : SerialConfig) : SerialConfig × EspErr :=
  -- the field is unsigned, the setting is an `int`
  let baudrate := (settingItemsReadInt f nvs (.baudrate p) % 2 ^ 32).toNat
  if baudrate = 0 then ({ c with baudrate }, espFail)
  else
    ({ baudrate
       parity := lookupStrToInt (settingItemsRead f nvs (.parity p))
        [("none".toList, .disable), ("even".toList, .even), ("odd".toList, .odd)] .disable
       stopbits := lookupStrToInt (settingItemsRead f nvs (.stopbits p))
        [("1".toList, .one), ("1.5".toList, .onePointFive), ("2".toList, .two)] .two
       databits := lookupStrToInt (settingItemsRead f nvs (.databits p))
        [("5".toList, .five), ("6".toList, .six), ("7".toList, .seven), ("8".toList, .eight)]
        .eight }, espOk)

/-- `read_tcp_bridge_config`, with the configuration it writes over. An address that `inet_pton`
refuses leaves the one from before. -/
def readTcpBridgeConfig (c : BridgeConfig) : BridgeConfig × EspErr :=
  let c := { c with
    bridgeMode := stringToBridgeMode (settingItemsRead f nvs (.bridgeMode p))
    bridgeIp := (inet.pton (settingItemsRead f nvs (.bridgeIp p))).getD c.bridgeIp
    bridgePort := settingItemsReadInt f nvs (.bridgePort p) }
  if c.bridgePort = 0 then (c, espFail)
  else ({ c with bridgeMb := settingItemsReadBool f nvs (.bridgeMb p) }, espOk)

def readBridgeConfig (c : BridgeConfig) : BridgeConfig × EspErr :=
  let serial := readSerialPortConfig f nvs p c.serialConfig
  if serial.2 ≠ espOk then ({ c with serialConfig := serial.1 }, serial.2)
  else readTcpBridgeConfig inet f nvs p { c with serialConfig := serial.1 }

def readPortModeFromNvs : PmMode := strToPmMode (settingItemsRead f nvs (.portMode p))

end Config

/-! ## What runs -/

/-- What the settings are applied to. -/
structure Device where
  pm : PortManager.State
  /-- `bridge_current_cfg`. -/
  bridgeCfg : Port → BridgeConfig
  /-- `pm_ctx[].serial_cfg_at_init`. -/
  serialCfgAtInit : Port → SerialConfig
  /-- The port of the web server while `http_server` is not NULL. -/
  http : Option Int
  /-- `s_port` of the cache server, 0 while it is stopped. -/
  cachePort : Int
  closed : List Service

/-- What the calls out of the update answer. -/
structure UpdateEnv where
  transportErr : Port → EspErr
  /-- The answer of `cache_modbus_server_init` apart from its socket. -/
  cacheErr : EspErr
  /-- The answer of `http_server_init_port` apart from its socket. -/
  httpErr : EspErr
  pool : CacheEnv

/-- No call fails but for a socket that is taken. -/
structure UpdateEnv.Quiet (e : UpdateEnv) : Prop where
  transportErr : ∀ p, e.transportErr p = espOk
  cacheErr : e.cacheErr = espOk
  httpErr : e.httpErr = espOk

/-- Everything succeeds. -/
def quietEnv : UpdateEnv := ⟨fun _ => espOk, espOk, espOk, ⟨0, true⟩⟩

lemma quiet_quietEnv : quietEnv.Quiet := ⟨fun _ => rfl, rfl, rfl⟩

namespace Device

/-- `bridge_ctx[p].initialized`: `port_init_mode` and `port_deinit_mode` keep the mode of the port
in step with it. -/
def initialized (d : Device) (p : Port) : Bool := (d.pm.ports p).mode = .tcpBridge

/-- The ports that are listened on. -/
def bound (d : Device) : Holding Service Int
  | .web => d.http
  | .cache => if 0 < d.cachePort then some d.cachePort else none
  | .bridge p =>
    if d.initialized p ∧ (d.bridgeCfg p).bridgeMode = .server then some (d.bridgeCfg p).bridgePort
    else none

def canBind (d : Device) (port : Int) : Bool := services.all fun s => d.bound s ≠ some port

def logClose (d : Device) (s : Service) : Device :=
  if (d.bound s).isSome then { d with closed := d.closed ++ [s] } else d

/-! ### RS-485 ports -/

section Ports

variable (inet : Inet) (f : Factory) (nvs : Nvs) (e : UpdateEnv) (d : Device) (p : Port)

def bridgePortDeinit : Device := if d.initialized p then d.logClose (.bridge p) else d

def modbusTcpInitPort (cfg : BridgeConfig) : EspErr :=
  if cfg.bridgeMode ≠ .server then espErrInvalidArg
  else if e.transportErr p ≠ espOk then e.transportErr p
  else if d.canBind cfg.bridgePort then espOk
  else espFail

def transparentTcpInitPort (cfg : BridgeConfig) : EspErr :=
  match cfg.bridgeMode with
  | .server => if d.canBind cfg.bridgePort then e.transportErr p else espFail
  | .client => e.transportErr p
  | .disabled => espFail

def bridgePortInit : Device × EspErr :=
  if d.initialized p then (d, espErrNotAllowed)
  else
    -- read straight into `bridge_current_cfg`, where it stays if the start fails
    let r := readBridgeConfig inet f nvs p (d.bridgeCfg p)
    let d := { d with bridgeCfg := Function.update d.bridgeCfg p r.1 }
    if r.2 ≠ espOk then (d, r.2)
    else if r.1.bridgeMode = .disabled then (d, espErrInvalidState)
    else
      (d, if r.1.bridgeMb then d.modbusTcpInitPort e p r.1 else d.transparentTcpInitPort e p r.1)

def portDeinitMode : Device :=
  let d :=
    match (d.pm.ports p).mode with
    | .tcpBridge => d.bridgePortDeinit p
    | .passive | .repeater =>
      { d with serialCfgAtInit := Function.update d.serialCfgAtInit p .zero }
    | .disabled | .unknown => d
  { d with pm := d.pm.portDeinitMode p }

/-- The end of `port_init_mode`, once it is known how the transport came up. -/
def openMode (mode : PmMode) (configErr transportErr : EspErr) (serialCfg : SerialConfig) :
    Device × EspErr :=
  match d.pm.portInitMode p mode ⟨configErr, transportErr, true, e.pool⟩ with
  | .ok pm =>
    ({ d with pm, serialCfgAtInit := Function.update d.serialCfgAtInit p serialCfg }, espOk)
  | .error err => (d, err)

def portInitMode (mode : PmMode) : Device × EspErr :=
  match mode with
  | .tcpBridge =>
    let r := d.bridgePortInit inet f nvs e p
    r.1.openMode e p mode espOk r.2 (d.serialCfgAtInit p)
  | .passive =>
    let r := readSerialPortConfig f nvs p .zero
    d.openMode e p mode espOk (if r.2 ≠ espOk then r.2 else e.transportErr p) r.1
  | .repeater =>
    let r := readSerialPortConfig f nvs p .zero
    d.openMode e p mode r.2 (e.transportErr p) r.1
  | .disabled | .unknown => d.openMode e p mode espOk espOk (d.serialCfgAtInit p)

def portManagerRelease : Device := if d.pm.portsFrozen then d else d.portDeinitMode p

def portManagerApplySettings : Device × EspErr :=
  if d.pm.portsFrozen then (d, espOk)
  else (d.portDeinitMode p).portInitMode inet f nvs e p (readPortModeFromNvs f nvs p)

def bridgePortCheckSettingsChanged : Bool :=
  let r := readBridgeConfig inet f nvs p .zero
  if r.2 ≠ espOk then false
  else if !d.initialized p then r.1.bridgeMode ≠ .disabled
  else d.bridgeCfg p ≠ r.1

def portSettingsChangedLocked : Bool :=
  let currentMode := (d.pm.ports p).mode
  if readPortModeFromNvs f nvs p ≠ currentMode then true
  else
    match currentMode with
    | .tcpBridge => d.bridgePortCheckSettingsChanged inet f nvs p
    | .passive | .repeater =>
      let r := readSerialPortConfig f nvs p .zero
      if r.2 ≠ espOk then true else d.serialCfgAtInit p ≠ r.1
    | .disabled | .unknown => false

def portManagerCheckSettingsChanged : Bool :=
  if d.pm.portsFrozen then false else d.portSettingsChangedLocked inet f nvs p

end Ports

/-! ### The cache Modbus TCP server -/

section CacheServer

variable (f : Factory) (nvs : Nvs) (e : UpdateEnv) (d : Device)

def cacheModbusServerPort : Int := 504

/-- `cache_modbus_wanted_port`; 0 means that the server must be stopped. -/
def cacheModbusWantedPort : Int :=
  if !settingItemsReadBool f nvs .cacheModbusServerEnabled then 0
  else
    let port := settingItemsReadInt f nvs .cacheModbusPort
    if port ≤ 0 then cacheModbusServerPort else port

def cacheModbusServerCheckSettingsChanged : Bool := cacheModbusWantedPort f nvs ≠ d.cachePort

/-- The server has its descriptor and its task, so that `tcp_server_deinit` does not refuse. -/
def cacheModbusServerDeinit : Device × EspErr :=
  ({ d.logClose .cache with cachePort := 0 }, espOk)

def cacheModbusServerInit (port : Int) : Device × EspErr :=
  if 0 < d.cachePort ∧ port = d.cachePort then (d, espOk)
  else
    -- a server on another port is stopped first
    let d := if 0 < d.cachePort then d.cacheModbusServerDeinit.1 else d
    if e.cacheErr ≠ espOk then (d, e.cacheErr)
    else if d.canBind port then ({ d with cachePort := port }, espOk)
    else (d, espFail)

/-- `cache_modbus_server_release`, with the port that was given up. -/
def cacheModbusServerRelease : Device × Int :=
  let runningPort := d.cachePort
  if runningPort ≤ 0 ∨ runningPort = cacheModbusWantedPort f nvs then (d, 0)
  else
    let r := d.cacheModbusServerDeinit
    (r.1, if r.2 ≠ espOk then 0 else runningPort)

def cacheModbusServerAcquire (releasedPort : Int) : Device :=
  let wantedPort := cacheModbusWantedPort f nvs
  let runningPort := d.cachePort
  if wantedPort = 0 ∨ wantedPort = runningPort then d
  -- a listener that could not be stopped is not started a second time
  else if 0 < runningPort then d
  else
    let r := d.cacheModbusServerInit e wantedPort
    -- the rollback to the port from before
    if r.2 ≠ espOk ∧ 0 < releasedPort then (r.1.cacheModbusServerInit e releasedPort).1 else r.1

end CacheServer

/-! ### The web server -/

section WebServer

variable (f : Factory) (nvs : Nvs) (e : UpdateEnv) (d : Device)

def httpServerDefaultPort : Int := 80

def getWebPortSetting : Int :=
  let webPort := settingItemsReadInt f nvs .webPort % 2 ^ 16
  if webPort = 0 then httpServerDefaultPort else webPort

def httpServerCheckSettingsChanged : Bool :=
  match d.http with
  | none => false
  | some port => getWebPortSetting f nvs ≠ port

/-- A server that cannot be started is not missed while another one is there. -/
def httpServerInitPort (port : Int) : Device × EspErr :=
  if e.httpErr ≠ espOk then (d, espFail)
  else if d.canBind port then ({ d with http := some port }, espOk)
  else (d, if d.http.isSome then espOk else espFail)

/-- `httpd_stop` only refuses a handle that is NULL. -/
def httpServerDeinit : Device × EspErr := ({ d.logClose .web with http := none }, espOk)

/-- `http_server_release`, with the port that was given up. -/
def httpServerRelease : Device × Int :=
  let runningPort := d.http.getD 0
  let r := d.httpServerDeinit
  (r.1, if r.2 ≠ espOk then 0 else runningPort)

/-- The second fallback of `http_server_acquire`. -/
def httpServerFallBack (releasedPort : Int) : Device :=
  if releasedPort ≠ httpServerDefaultPort then (d.httpServerInitPort e httpServerDefaultPort).1
  else d

def httpServerAcquire (releasedPort : Int) : Device :=
  let r := d.httpServerInitPort e (getWebPortSetting f nvs)
  if r.2 = espOk then r.1
  -- the first fallback is the port that was given up
  else if releasedPort ≠ 0 then
    let r := r.1.httpServerInitPort e releasedPort
    if r.2 = espOk then r.1 else r.1.httpServerFallBack e releasedPort
  else r.1.httpServerFallBack e releasedPort

end WebServer

end Device

/-! ## The update -/

/-- The flags of `network.c`. -/
structure NetworkFlags where
  mdns : Bool
  ethernet : Bool
  wifi : Bool
deriving Repr, DecidableEq

/-- The flags `settings_update_task` gets. -/
structure UpdateFlags where
  bridge : Port → Bool
  cacheModbus : Bool
  httpServer : Bool
  network : NetworkFlags

/-- The flags `settings_update_with_status` collects; those of the network are given. -/
def updateFlags (inet : Inet) (f : Factory) (nvs : Nvs) (network : NetworkFlags) (d : Device) :
    UpdateFlags where
  bridge p := d.portManagerCheckSettingsChanged inet f nvs p
  cacheModbus := d.cacheModbusServerCheckSettingsChanged f nvs
  httpServer := d.httpServerCheckSettingsChanged f nvs
  network := network

/-- A part of `settings_update_task`. -/
inductive Phase where
  | delay
  /-- `http_server_release`, `cache_modbus_server_release`, `port_manager_release`. -/
  | release (s : Service)
  /-- `http_server_acquire`, `cache_modbus_server_acquire`, `port_manager_apply_settings`. -/
  | acquire (s : Service)
  /-- `network_update_mdns_settings`. -/
  | mdns
  /-- `network_update_eth_settings`. -/
  | ethernet
  /-- `network_update_wifi_settings`. -/
  | wifi
deriving Repr, DecidableEq

namespace UpdateFlags

variable (fl : UpdateFlags)

def ports : List Port := (List.finRange bridgesCount).filter fl.bridge

def released : List Service :=
  (if fl.httpServer then [.web] else []) ++ (if fl.cacheModbus then [.cache] else []) ++
    fl.ports.map .bridge

def acquired : List Service :=
  fl.ports.map .bridge ++ (if fl.cacheModbus then [.cache] else []) ++
    (if fl.httpServer then [.web] else [])

/-- What `settings_update_task` does, in its order. -/
def phases : List Phase :=
  (if fl.httpServer || fl.network.ethernet || fl.network.wifi then [.delay] else []) ++
    fl.released.map .release ++ fl.acquired.map .acquire ++
    (if fl.network.mdns then [.mdns] else []) ++
    (if fl.network.ethernet then [.ethernet] else []) ++
    (if fl.network.wifi then [.wifi] else [])

def isZero : Bool :=
  fl.ports.isEmpty && !fl.cacheModbus && !fl.httpServer && !fl.network.mdns &&
    !fl.network.ethernet && !fl.network.wifi

end UpdateFlags

/-- The local variables of `settings_update_task`. -/
structure Locals where
  httpReleasedPort : Int := 0
  cacheReleasedPort : Int := 0
deriving Repr, DecidableEq

def Phase.run (inet : Inet) (f : Factory) (nvs : Nvs) (e : UpdateEnv) (r : Locals × Device) :
    Phase → Locals × Device
  | .release .web =>
    let r' := r.2.httpServerRelease
    ({ r.1 with httpReleasedPort := r'.2 }, r'.1)
  | .release .cache =>
    let r' := r.2.cacheModbusServerRelease f nvs
    ({ r.1 with cacheReleasedPort := r'.2 }, r'.1)
  | .release (.bridge p) => (r.1, r.2.portManagerRelease p)
  | .acquire (.bridge p) => (r.1, (r.2.portManagerApplySettings inet f nvs e p).1)
  | .acquire .cache => (r.1, r.2.cacheModbusServerAcquire f nvs e r.1.cacheReleasedPort)
  | .acquire .web => (r.1, r.2.httpServerAcquire f nvs e r.1.httpReleasedPort)
  | .delay | .mdns | .ethernet | .wifi => r

def settingsUpdateTask (inet : Inet) (f : Factory) (nvs : Nvs) (e : UpdateEnv) (fl : UpdateFlags)
    (d : Device) : Device :=
  (fl.phases.foldl (Phase.run inet f nvs e) ({}, d)).2

/-- `settings_update_with_status` and the task it creates, if it creates one. -/
def settingsUpdate (inet : Inet) (f : Factory) (nvs : Nvs) (e : UpdateEnv)
    (network : NetworkFlags) (d : Device) : Device :=
  let fl := updateFlags inet f nvs network d
  if fl.isZero then d else settingsUpdateTask inet f nvs e fl d

end WbMge.Settings
