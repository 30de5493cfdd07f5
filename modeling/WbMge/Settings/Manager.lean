import WbMge.PortManager.Model
import WbMge.Settings.Items
import WbMge.ToMathlib.CJson

/-!
# The settings requests

The model of `settings_manager.c`: the tables that map the fields of a request to settings, the
validation of a request, the writes, and the answer to GET /settings.

A request is validated as a whole before the first write. Its fields are then written one by one, by
a second pass through the same tables. `processRequest` is `settings_process_request_json` of the
hardware build up to the call of `settings_update_with_status`.
-/

namespace WbMge.Settings

open Cache (bridgesCount)
open CText (strncmpEq renderInt snprintf)
open Json (Text)
open PortManager (PmMode EspErr espOk)

/-! ## Mapping tables -/

abbrev Mappings := List (Text × Key)

def topLevelMappings : Mappings :=
  [("hostname".toList, .hostname),
   ("login".toList, .login),
   ("pass".toList, .pass),
   ("web_port".toList, .webPort),
   ("io_bus".toList, .ioBusEnabled),
   ("vout".toList, .vout),
   ("cache_modbus_port".toList, .cacheModbusPort),
   ("cache_modbus_server_enabled".toList, .cacheModbusServerEnabled),
   ("cache_value_timeout_s".toList, .cacheValueTimeoutS),
   ("update_channel".toList, .updateChannel)]

def wifiMappings : Mappings :=
  [("mode".toList, .wifiMode),
   ("ap_auth".toList, .wifiAuthAp),
   ("sta_auth".toList, .wifiAuthSta),
   ("ap_ssid".toList, .apSsid),
   ("ap_pass".toList, .apPass),
   ("sta_ssid".toList, .staSsid),
   ("sta_pass".toList, .staPass),
   ("ap_ip_static".toList, .apIpStatic),
   ("ap_mask_static".toList, .apMaskStatic),
   ("ap_gw_static".toList, .apGwStatic),
   ("sta_dhcpc".toList, .staDhcpc),
   ("sta_ip_static".toList, .staIpStatic),
   ("sta_mask_static".toList, .staMaskStatic),
   ("sta_gw_static".toList, .staGwStatic)]

def ethernetMappings : Mappings :=
  [("ip_static".toList, .ethIpStatic),
   ("mask_static".toList, .ethMaskStatic),
   ("gw_static".toList, .ethGwStatic),
   ("dhcpc".toList, .ethDhcpc)]

/-- `rs485_base_mappings`, with the suffix of the port. -/
def rs485BaseMappings (p : Port) : Mappings :=
  [("baudrate".toList, .baudrate p),
   ("stopbits".toList, .stopbits p),
   ("parity".toList, .parity p),
   ("databits".toList, .databits p),
   ("term".toList, .term p),
   ("fail_safe".toList, .failSafe p),
   ("tx_disabled".toList, .txDisabled p),
   ("port_mode".toList, .portMode p),
   ("cache_en".toList, .cacheEn p)]

/-- `rs485_bridge_mappings`, with the suffix of the port. -/
def rs485BridgeMappings (p : Port) : Mappings :=
  [("mode".toList, .bridgeMode p),
   ("port".toList, .bridgePort p),
   ("ip".toList, .bridgeIp p),
   ("modbus".toList, .bridgeMb p)]

def rs485JsonName (p : Port) : Text := portKey "rs485".toList p

/-! ## The answer to GET /settings -/

section Build

variable (f : Factory) (nvs : Nvs)

/-- `add_setting_to_json`: the item that is added. -/
def settingJson (k : Key) : CJson :=
  match k.type with
  | .string => .str (settingItemsRead f nvs k)
  | .bool => .bool (settingItemsReadBool f nvs k)
  | .int => .ofInt (settingItemsReadInt f nvs k)

def groupMembers (mappings : Mappings) : List (Text × CJson) :=
  mappings.map fun m => (m.1, settingJson f nvs m.2)

/-- `add_rs485_settings_to_json`: the object of one port. -/
def rs485Json (p : Port) : CJson :=
  .obj (groupMembers f nvs (rs485BaseMappings p) ++
    [("bridge".toList, .obj (groupMembers f nvs (rs485BridgeMappings p)))])

def settingsBuildResponseJson : CJson :=
  let wifiPermDisabled := settingItemsReadBool f nvs .wifiPermDisable
  .obj (groupMembers f nvs topLevelMappings ++
    [("wifi_perm_disable".toList, .bool wifiPermDisabled)] ++
    (if wifiPermDisabled then [] else [("wifi".toList, .obj (groupMembers f nvs wifiMappings))]) ++
    [("ethernet".toList, .obj (groupMembers f nvs ethernetMappings))] ++
    (List.finRange bridgesCount).map fun p => (rs485JsonName p, rs485Json f nvs p))

end Build

/-! ## Validation -/

def settingText (k : Key) (item : CJson) : Option Text :=
  match k.type, item with
  | .string, .str value => some value
  | .bool, .bool b => some (boolText b)
  -- the conversion of a double beyond `int` is rejected before it is made
  | .int, .num d => d.toInt.map fun n => snprintf settingItemMaxStrLen (renderInt n)
  | _, _ => none

def validateSettingFromJson (item : CJson) (k : Key) : Bool :=
  match settingText k item with
  | some value => k.validate value
  | none => false

def validateFields (group : CJson) (mappings : Mappings) : Bool :=
  mappings.all fun m =>
    match group.getObjectItem m.1 with
    | some item => validateSettingFromJson item m.2
    | none => true

def validateGroupSettings (group : Option CJson) (mappings : Mappings) : Bool :=
  match group with
  | none => true
  | some group => group.isObject && validateFields group mappings

def validateTopLevelSettings (request : CJson) : Bool := validateFields request topLevelMappings

/-- One round of `validate_rs485_settings`. -/
def validateRs485Port (request : CJson) (p : Port) : Bool :=
  match request.getObjectItem (rs485JsonName p) with
  | none => true
  | some rs485 =>
    rs485.isObject && validateFields rs485 (rs485BaseMappings p) &&
      validateGroupSettings (rs485.getObjectItem "bridge".toList) (rs485BridgeMappings p)

def validateRs485Settings (request : CJson) : Bool :=
  (List.finRange bridgesCount).all (validateRs485Port request)

/-! ### Port collisions -/

section Collisions

variable (f : Factory) (nvs : Nvs)

def effectiveInt (parent : Option CJson) (jsonKey : Text) (k : Key) : Int :=
  match parent.bind (·.getObjectItem jsonKey) with
  | some (.num d) => d.valueint
  | _ => settingItemsReadInt f nvs k

def effectiveBool (parent : Option CJson) (jsonKey : Text) (k : Key) : Bool :=
  match parent.bind (·.getObjectItem jsonKey) with
  | some (.bool b) => b
  | _ => settingItemsReadBool f nvs k

def effectiveStrEquals (parent : Option CJson) (jsonKey : Text) (k : Key) (expected : Text) :
    Bool :=
  match parent.bind (·.getObjectItem jsonKey) with
  | some (.str value) => strncmpEq settingItemMaxStrLen value expected
  | _ => strncmpEq settingItemMaxStrLen (settingItemsRead f nvs k) expected

def getObjectOrNull (parent : Option CJson) (name : Text) : Option CJson :=
  (parent.bind (·.getObjectItem name)).filter CJson.isObject

def jsonHas (parent : Option CJson) (name : Text) : Bool := parent.any (·.hasObjectItem name)

structure Listener where
  name : Text
  port : Int
  touched : Bool
deriving Repr, DecidableEq

def webListener (request : CJson) : Listener where
  name := "web_port".toList
  port := effectiveInt f nvs request "web_port".toList .webPort
  touched := jsonHas request "web_port".toList

def cacheListener (request : CJson) : Option Listener :=
  if effectiveBool f nvs request "cache_modbus_server_enabled".toList .cacheModbusServerEnabled then
    some
      { name := "cache_modbus_port".toList
        port := effectiveInt f nvs request "cache_modbus_port".toList .cacheModbusPort
        touched := jsonHas request "cache_modbus_port".toList ||
          jsonHas request "cache_modbus_server_enabled".toList }
  else none

def bridgeListener (request : CJson) (p : Port) : Option Listener :=
  let rs485 := getObjectOrNull request (rs485JsonName p)
  let bridge := getObjectOrNull rs485 "bridge".toList
  if !effectiveStrEquals f nvs rs485 "port_mode".toList (.portMode p) portModeTcpBridge then none
  else if !effectiveStrEquals f nvs bridge "mode".toList (.bridgeMode p) bridgeModeServer then none
  else
    some
      { name := rs485JsonName p
        port := effectiveInt f nvs bridge "port".toList (.bridgePort p)
        touched := jsonHas bridge "port".toList || jsonHas rs485 "port_mode".toList ||
          jsonHas bridge "mode".toList }

/-- The array that `validate_port_collisions` fills. -/
def listeners (request : CJson) : List Listener :=
  webListener f nvs request :: (cacheListener f nvs request).toList ++
    (List.finRange bridgesCount).filterMap (bridgeListener f nvs request)

structure Warning where
  code : Text
  message : Text
deriving Repr, DecidableEq

def warningMsgBufSize : Nat := 224

def collisionWarning (a b : Listener) : Warning where
  code := "port_collision".toList
  message := snprintf warningMsgBufSize <|
    a.name ++ " and ".toList ++ b.name ++ " are both configured on TCP port ".toList ++
      renderInt a.port ++ (" in the saved configuration; one of them will fail to bind and stay " ++
        "down until the conflict is resolved").toList

/-- The inner loop of `validate_port_collisions`: one listener against those behind it. -/
def collideWith (a : Listener) : List Listener → List Warning → Bool × List Warning
  | [], warnings => (true, warnings)
  | b :: rest, warnings =>
    if a.port ≠ b.port then collideWith a rest warnings
    else if !a.touched && !b.touched then
      collideWith a rest (warnings ++ [collisionWarning a b])
    else (false, warnings)

/-- The outer loop of `validate_port_collisions`. -/
def collideAll : List Listener → List Warning → Bool × List Warning
  | [], warnings => (true, warnings)
  | a :: rest, warnings =>
    match collideWith a rest warnings with
    | (true, warnings) => collideAll rest warnings
    | (false, warnings) => (false, warnings)

/-- The verdict, and the warnings. -/
def validatePortCollisions (request : CJson) : Bool × List Warning :=
  collideAll (listeners f nvs request) []

end Collisions

/-! ## Processing a request -/

section Process

variable (f : Factory) (io : Key → WriteOutcome)

def saveSettingFromJson (item : CJson) (k : Key) : StorageM Unit Unit :=
  if validateSettingFromJson item k then
    match k.type, item with
    | .string, .str value => settingItemsSave io k value
    | .bool, .bool b => settingItemsSaveBool io k b
    | .int, .num d =>
      match d.toInt with
      | some n => settingItemsSaveInt io k n
      | none => throw ()
    | _, _ => throw ()
  else throw ()

def saveFields (group : CJson) (mappings : Mappings) : StorageM Unit Unit :=
  mappings.forM fun m =>
    match group.getObjectItem m.1 with
    | some item => saveSettingFromJson io item m.2
    | none => pure ()

def saveGroupSettings (group : Option CJson) (mappings : Mappings) : StorageM Unit Unit :=
  match group with
  | none => pure ()
  | some group => if group.isObject then saveFields io group mappings else pure ()

/-- One round of `process_rs485_settings`. -/
def processRs485Port (request : CJson) (p : Port) : StorageM Unit Unit :=
  match request.getObjectItem (rs485JsonName p) with
  | none => pure ()
  | some rs485 =>
    if rs485.isObject then do
      saveFields io rs485 (rs485BaseMappings p)
      saveGroupSettings io (rs485.getObjectItem "bridge".toList) (rs485BridgeMappings p)
    else pure ()

def processRs485Settings (request : CJson) : StorageM Unit Unit :=
  (List.finRange bridgesCount).forM (processRs485Port io request)

def shouldSetWifiPermDisable (request : CJson) : Bool :=
  match request.getObjectItem "wifi_perm_disable".toList with
  | some (.bool b) => b
  | _ => false

def wifiPermDisabled (nvs : Nvs) (request : CJson) : Bool :=
  settingItemsReadBool f nvs .wifiPermDisable || shouldSetWifiPermDisable request

def wifiGroup (nvs : Nvs) (request : CJson) : Option CJson :=
  if wifiPermDisabled f nvs request then none else request.getObjectItem "wifi".toList

def fieldsValid (nvs : Nvs) (request : CJson) : Bool :=
  validateTopLevelSettings request &&
    validateGroupSettings (wifiGroup f nvs request) wifiMappings &&
    validateGroupSettings (request.getObjectItem "ethernet".toList) ethernetMappings &&
    validateRs485Settings request

def validateRequest (nvs : Nvs) (request : CJson) : Bool × List Warning :=
  if fieldsValid f nvs request then validatePortCollisions f nvs request else (false, [])

def saveWifiPermDisable (request : CJson) : StorageM Unit Unit :=
  if shouldSetWifiPermDisable request then settingItemsSave io .wifiPermDisable (boolText true)
  else pure ()

def applyRequest (nvs : Nvs) (request : CJson) : StorageM Text Unit := do
  (saveWifiPermDisable io request).adapt fun _ => "Failed to save wifi_perm_disable".toList
  (saveFields io request topLevelMappings).adapt fun _ => "Failed to save setting".toList
  (saveGroupSettings io (wifiGroup f nvs request) wifiMappings).adapt
    fun _ => "Failed to save WiFi settings".toList
  (saveGroupSettings io (request.getObjectItem "ethernet".toList) ethernetMappings).adapt
    fun _ => "Failed to save Ethernet settings".toList
  (processRs485Settings io request).adapt fun _ => "Failed to save RS485 settings".toList

/-- The answer to a request: its error, which is missing if it succeeds, and the warnings. -/
structure Response where
  error : Option Text
  warnings : List Warning
deriving Repr, DecidableEq

def invalidSettingsValue : Text := "Invalid settings value".toList

/-- `settings_process_request_json` up to `settings_update_with_status`. -/
def processRequest (nvs : Nvs) (request : CJson) : Response × Nvs :=
  let (valid, warnings) := validateRequest f nvs request
  if !valid then (⟨some invalidSettingsValue, warnings⟩, nvs)
  else
    match (applyRequest f io nvs request).run.run nvs with
    | (.ok _, nvs) => (⟨none, warnings⟩, nvs)
    | (.error error, nvs) => (⟨some error, warnings⟩, nvs)

end Process

/-! ## The mode of a port -/

def modeToStr : PmMode → Text
  | .disabled => portModeDisabled
  | .tcpBridge => portModeTcpBridge
  | .passive => portModePassive
  | .repeater => portModeRepeater
  | .unknown => "unknown".toList

def strToPmMode (str : Text) : PmMode :=
  if strncmpEq settingItemMaxStrLen str portModeTcpBridge then .tcpBridge
  else if strncmpEq settingItemMaxStrLen str portModePassive then .passive
  else if strncmpEq settingItemMaxStrLen str portModeRepeater then .repeater
  else .disabled

/-- The request that `settings_manager_check_port_mode_collision` makes up. -/
def portModeRequest (p : Port) (mode : Text) : CJson :=
  .obj [(rs485JsonName p, .obj [("port_mode".toList, .str mode)])]

/-- `settings_manager_check_port_mode_collision`: there is none. -/
def checkPortModeCollision (f : Factory) (nvs : Nvs) (p : Port) (mode : Text) : Bool :=
  (validatePortCollisions f nvs (portModeRequest p mode)).1

inductive PortModeResponse where
  | badRequest (error : Text)
  | conflict (error : Text)
  | internalError (err : EspErr)
  | ok (mode : PmMode)
deriving Repr, DecidableEq

/-- What `port_manager_set_mode` meets. -/
structure SetModeEnv where
  initErr : EspErr
  saveErr : EspErr
  saveErr_ne : saveErr ≠ espOk
  io : Key → WriteOutcome

/-- `port_manager_set_mode`, as far as the storage is concerned: a mode the port runs in is
stored. -/
def portManagerSetMode (e : SetModeEnv) (nvs : Nvs) (p : Port) (mode : PmMode) : EspErr × Nvs :=
  if e.initErr ≠ espOk then (e.initErr, nvs)
  else
    match (settingItemsSave e.io (.portMode p) (modeToStr mode)).run.run nvs with
    | (.ok _, nvs) => (espOk, nvs)
    | (.error _, nvs) => (e.saveErr, nvs)

def portSetModeHandler (f : Factory) (e : SetModeEnv) (nvs : Nvs) (p : Port) (request : CJson) :
    PortModeResponse × Nvs :=
  match request.getObjectItem "mode".toList with
  | some (.str str) =>
    let mode := strToPmMode str
    if mode = .disabled ∧ !strncmpEq settingItemMaxStrLen str portModeDisabled then
      (.badRequest "Unknown mode value".toList, nvs)
    else if !checkPortModeCollision f nvs p (modeToStr mode) then
      (.conflict "Selected mode would bind a TCP port already used by another listener".toList, nvs)
    else
      let (ret, nvs) := portManagerSetMode e nvs p mode
      if ret = PortManager.pmErrPortsFrozen then
        (.conflict "Port mode is locked while the clock_out factory test is active".toList, nvs)
      else if ret ≠ espOk then (.internalError ret, nvs)
      else (.ok mode, nvs)
  | _ => (.badRequest "Missing or invalid 'mode' field".toList, nvs)

end WbMge.Settings
