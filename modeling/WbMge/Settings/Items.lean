import Mathlib.Control.Lawful
import Mathlib.Data.List.Nodup
import WbMge.Cache.Model
import WbMge.ToMathlib.CText

/-!
# The settings and their storage

The model of `setting_items.c`, `setting_validators.c` and `nv_storage.c`: the table of the settings
with their types, defaults and validators, and the reading and writing of one of them.

Every setting is stored as a string, and `Nvs` is the contents of its namespace. A value is checked
when it is written, but not when it is read. A record that is missing or too long for the buffer of
the reader reads as the default.

Code that writes is in `StorageM`, where an error ends the code and leaves the storage as it is at
that point. `Writes m records` says of such code that without a failing write it comes to its end
and writes the records in their order.
-/

namespace WbMge.Settings

open Cache (bridgesCount)
open CText (strncmpEq strtol renderInt snprintf scanInt)
open Json (Text)

abbrev Port := Fin bridgesCount

/-! ## Validators -/

def settingItemMaxStrLen : Nat := 64

def oneOf (allowed : List Text) (value : Text) : Bool :=
  allowed.any (strncmpEq settingItemMaxStrLen value)

def inRange (min max : Int) (value : Text) : Bool :=
  let r := strtol value
  r.2.isEmpty && decide (min ≤ r.1) && decide (r.1 ≤ max)

def spelled (maxLen : Nat) (ok : Char → Bool) (value : Text) : Bool :=
  !value.isEmpty && decide (value.length ≤ maxLen) && value.all ok

def isPrintable (c : Char) : Bool := decide (' ' ≤ c) && decide (c ≤ '~')

def validateHostname : Text → Bool := spelled 31 fun c => c.isAlphanum || c == '-'

def validateSsid : Text → Bool := spelled 31 isPrintable

/-- A station without a network has an empty name. -/
def validateStaSsid (value : Text) : Bool := value.isEmpty || validateSsid value

def validatePort : Text → Bool := inRange 1 65535

/-- The empty string would pass the range. -/
def validateTimeout (value : Text) : Bool := !value.isEmpty && inRange 0 65535 value

def validateBaudrate : Text → Bool := inRange 1200 115200

def validateStopbits : Text → Bool := oneOf ["1".toList, "1.5".toList, "2".toList]

def validateParity : Text → Bool := oneOf ["none".toList, "even".toList, "odd".toList]

def validateDatabits : Text → Bool := oneOf ["5".toList, "6".toList, "7".toList, "8".toList]

/-- A literal character of the format of a `sscanf`. -/
def expect (c : Char) : Text → Option Text
  | [] => none
  | c' :: t => if c' = c then some t else none

/-- `sscanf(value, "%d.%d.%d.%d", …)`: the numbers, and what follows them. A number out of the range
of `int` is converted as `strtol` does. -/
def scanDotted (value : Text) : Option (List Int × Text) := do
  let a ← scanInt value
  let b ← scanInt (← expect '.' a.2)
  let c ← scanInt (← expect '.' b.2)
  let d ← scanInt (← expect '.' c.2)
  return ([a.1, b.1, c.1, d.1].map CText.clampLong, d.2)

/-- With a further `%c`, `sscanf` counts four conversions if nothing follows. -/
def validateIp (value : Text) : Bool :=
  !value.isEmpty &&
    match scanDotted value with
    | some (octets, []) => octets.all fun a => decide (0 ≤ a) && decide (a ≤ 255)
    | _ => false

def validateWifiMode : Text → Bool :=
  oneOf ["ap".toList, "sta".toList, "apsta".toList, "none".toList]

def validateWifiAuth : Text → Bool :=
  oneOf ["open".toList, "wpa2_psk".toList, "wpa3_psk".toList]

def bridgeModeServer : Text := "server".toList

def bridgeModeClient : Text := "client".toList

def validateBridgeMode : Text → Bool := oneOf [bridgeModeServer, bridgeModeClient]

def portModeDisabled : Text := "disabled".toList

def portModeTcpBridge : Text := "tcp_bridge".toList

def portModePassive : Text := "passive".toList

def portModeRepeater : Text := "repeater".toList

def validatePortMode : Text → Bool :=
  oneOf [portModeDisabled, portModeTcpBridge, portModePassive, portModeRepeater]

def validateUpdateChannel : Text → Bool := oneOf ["stable".toList, "testing".toList]

def boolText (b : Bool) : Text := if b then "true".toList else "false".toList

def validateBool : Text → Bool := oneOf [boolText true, boolText false]

def validateLogin : Text → Bool := spelled 31 fun c => c.isAlphanum || c == '_' || c == '-'

def validatePassword : Text → Bool := spelled 31 isPrintable

/-- An open network has an empty passphrase. -/
def validateWifiPassword (value : Text) : Bool :=
  value.isEmpty || (decide (8 ≤ value.length) && spelled 63 isPrintable value)

/-! ## The table -/

inductive Key where
  | hostname
  | login
  | pass
  | webPort
  | ioBusEnabled
  | vout
  | wifiPermDisable
  | wifiMode
  | wifiAuthAp
  | wifiAuthSta
  | apSsid
  | apPass
  | apIpStatic
  | apMaskStatic
  | apGwStatic
  | staSsid
  | staPass
  | staDhcpc
  | staIpStatic
  | staMaskStatic
  | staGwStatic
  | ethIpStatic
  | ethMaskStatic
  | ethGwStatic
  | ethDhcpc
  | baudrate (port : Port)
  | stopbits (port : Port)
  | parity (port : Port)
  | databits (port : Port)
  | term (port : Port)
  | failSafe (port : Port)
  | txDisabled (port : Port)
  | cacheEn (port : Port)
  | bridgeMode (port : Port)
  | bridgePort (port : Port)
  | bridgeIp (port : Port)
  | bridgeMb (port : Port)
  | portMode (port : Port)
  | cacheModbusPort
  | cacheModbusServerEnabled
  | cacheValueTimeoutS
  | updateChannel
deriving Repr, DecidableEq

/-- A key of a port: the number of the port behind the name, as `"%s_%d"` puts it. -/
def portKey (name : Text) (port : Port) : Text := name ++ '_' :: Nat.toDigits 10 (port.val + 1)

def rs485Keys (p : Port) : List Key :=
  [.baudrate p, .stopbits p, .parity p, .databits p, .term p, .failSafe p, .txDisabled p,
    .cacheEn p, .bridgeMode p, .bridgePort p, .bridgeIp p, .bridgeMb p]

def settingKeys : List Key :=
  [.hostname, .login, .pass, .webPort, .ioBusEnabled, .vout, .wifiPermDisable, .wifiMode,
    .wifiAuthAp, .wifiAuthSta, .apSsid, .apPass, .apIpStatic, .apMaskStatic, .apGwStatic, .staSsid,
    .staPass, .staDhcpc, .staIpStatic, .staMaskStatic, .staGwStatic, .ethIpStatic, .ethMaskStatic,
    .ethGwStatic, .ethDhcpc] ++
  (List.finRange bridgesCount).flatMap rs485Keys ++
  (List.finRange bridgesCount).map .portMode ++
  [.cacheModbusPort, .cacheModbusServerEnabled, .cacheValueTimeoutS, .updateChannel]

lemma mem_settingKeys (k : Key) : k ∈ settingKeys := by
  cases k <;> simp [settingKeys, rs485Keys]

/-- `setting_item_type_t`. Every key of the model is in the table, so none is invalid. -/
inductive ItemType where
  | string
  | bool
  | int
deriving Repr, DecidableEq

/-- `setting_item_t`, without the key. -/
structure SettingItem where
  defaultValue : Text
  validator : Text → Bool
  type : ItemType

def baseHostname : Text := "WB-MGE".toList

def boolItem (default : Bool) : SettingItem := ⟨boolText default, validateBool, .bool⟩

def ipItem (default : Text) : SettingItem := ⟨default, validateIp, .string⟩

/-- The table `setting_items`, which `find_setting_item` searches. -/
def Key.item : Key → SettingItem
  | hostname => ⟨baseHostname, validateHostname, .string⟩
  | login => ⟨"admin".toList, validateLogin, .string⟩
  | pass => ⟨"admin".toList, validatePassword, .string⟩
  | webPort => ⟨"80".toList, validatePort, .int⟩
  | ioBusEnabled => boolItem true
  | vout => boolItem true
  | wifiPermDisable => boolItem false
  | wifiMode => ⟨"ap".toList, validateWifiMode, .string⟩
  | wifiAuthAp => ⟨"wpa2_psk".toList, validateWifiAuth, .string⟩
  | wifiAuthSta => ⟨"wpa2_psk".toList, validateWifiAuth, .string⟩
  | apSsid => ⟨baseHostname, validateSsid, .string⟩
  | apPass => ⟨[], validateWifiPassword, .string⟩
  | apIpStatic => ipItem "192.168.5.1".toList
  | apMaskStatic => ipItem "255.255.255.0".toList
  | apGwStatic => ipItem "192.168.5.1".toList
  | staSsid => ⟨[], validateStaSsid, .string⟩
  | staPass => ⟨[], validateWifiPassword, .string⟩
  | staDhcpc => boolItem true
  | staIpStatic => ipItem "192.168.1.7".toList
  | staMaskStatic => ipItem "255.255.255.0".toList
  | staGwStatic => ipItem "192.168.1.1".toList
  | ethIpStatic => ipItem "192.168.0.7".toList
  | ethMaskStatic => ipItem "255.255.255.0".toList
  | ethGwStatic => ipItem "192.168.0.1".toList
  | ethDhcpc => boolItem true
  | baudrate _ => ⟨"9600".toList, validateBaudrate, .int⟩
  | stopbits _ => ⟨"2".toList, validateStopbits, .string⟩
  | parity _ => ⟨"none".toList, validateParity, .string⟩
  | databits _ => ⟨"8".toList, validateDatabits, .string⟩
  | term _ => boolItem true
  | failSafe _ => boolItem true
  | txDisabled _ => boolItem false
  | cacheEn _ => boolItem false
  | bridgeMode _ => ⟨bridgeModeServer, validateBridgeMode, .string⟩
  | bridgePort p => ⟨if p.val = 0 then "502".toList else "503".toList, validatePort, .int⟩
  | bridgeIp _ => ipItem "192.168.5.2".toList
  | bridgeMb _ => boolItem false
  | portMode _ => ⟨portModeTcpBridge, validatePortMode, .string⟩
  | cacheModbusPort => ⟨"504".toList, validatePort, .int⟩
  | cacheModbusServerEnabled => boolItem true
  | cacheValueTimeoutS => ⟨"60".toList, validateTimeout, .int⟩
  | updateChannel => ⟨"stable".toList, validateUpdateChannel, .string⟩

/-- `setting_items_get_type`. -/
def Key.type (k : Key) : ItemType := k.item.type

def Key.validate (k : Key) (value : Text) : Bool := k.item.validator value

/-! ## Defaults from the hardware -/

/-- What the default password is made from. -/
structure Factory where
  /-- The bytes of the eFuse block with the password, if `esp_efuse_read_block` succeeds. -/
  efuse : Option (List UInt8)
  /-- The six bytes of the MAC address, if `esp_read_mac` succeeds. -/
  mac : Option (Fin 6 → UInt8)

def readWifiPassFromEfuse (efuse : Option (List UInt8)) : Option Text :=
  match efuse with
  | none => none
  | some data =>
    let pass := (data.take 12).takeWhile (· != 0)
    if pass.length < 8 then none else some (pass.map fun b => Char.ofNat b.toNat)

/-- The remainder is cut to 32 bits. -/
def generateMacBasedPassword (bufSize : Nat) (mac : Option (Fin 6 → UInt8)) : Text :=
  match mac with
  | some mac =>
    let macDecimal := (List.ofFn mac).foldl (fun n b => n * 256 + b.toNat) 0
    let passwordNum := macDecimal % 10000000000 % 2 ^ 32
    let passwordNum := if passwordNum < 10000000 then passwordNum + 10000000 else passwordNum
    snprintf bufSize ((Nat.toDigits 10 passwordNum).leftpad 10 '0')
  | none => snprintf bufSize "wirenboard".toList

def getDynamicApPassDefault (f : Factory) : Text :=
  match readWifiPassFromEfuse f.efuse with
  | some pass => pass
  | none => generateMacBasedPassword 16 f.mac

/-- `%02X` of a byte. -/
def hexByte (b : UInt8) : Text :=
  [(Nat.digitChar (b.toNat / 16)).toUpper, (Nat.digitChar (b.toNat % 16)).toUpper]

def getDynamicHostnameDefault (f : Factory) : Text :=
  match f.mac with
  | some mac =>
    snprintf 32 (baseHostname ++ '-' :: (hexByte (mac 3) ++ hexByte (mac 4) ++ hexByte (mac 5)))
  | none => snprintf 32 baseHostname

def getSettingDefaultValue (f : Factory) : Key → Text
  | .apPass => getDynamicApPassDefault f
  | .hostname => getDynamicHostnameDefault f
  | .apSsid => getDynamicHostnameDefault f
  | k => k.item.defaultValue

/-! ## Reading -/

/-- The records of the storage. -/
abbrev Nvs := Key → Option Text

/-- The buffer has room for the terminator as well. -/
def nvsReadStr (nvs : Nvs) (k : Key) : Option Text :=
  (nvs k).filter fun value => decide (value.length < settingItemMaxStrLen)

def settingItemsRead (f : Factory) (nvs : Nvs) (k : Key) : Text :=
  match nvsReadStr nvs k with
  | some value => value
  | none => (getSettingDefaultValue f k).take (settingItemMaxStrLen - 1)

def settingItemsReadInt (f : Factory) (nvs : Nvs) (k : Key) : Int :=
  if k.type = .int then (strtol (settingItemsRead f nvs k)).1 else 0

def settingItemsReadBool (f : Factory) (nvs : Nvs) (k : Key) : Bool :=
  k.type = .bool && strncmpEq settingItemMaxStrLen (settingItemsRead f nvs k) (boolText true)

section Read

variable {f : Factory} {nvs nvs' : Nvs} {k : Key}

lemma settingItemsRead_of_eq_some {value : Text} (h : nvs k = some value)
    (hlen : value.length < settingItemMaxStrLen) : settingItemsRead f nvs k = value := by
  have hread : nvsReadStr nvs k = some value := by
    rw [nvsReadStr, h]
    exact Option.filter_some_pos (decide_eq_true hlen)
  rw [settingItemsRead, hread]

lemma settingItemsRead_congr (h : nvs' k = nvs k) :
    settingItemsRead f nvs' k = settingItemsRead f nvs k := by
  rw [settingItemsRead, settingItemsRead, nvsReadStr, nvsReadStr, h]

lemma settingItemsReadInt_congr (h : nvs' k = nvs k) :
    settingItemsReadInt f nvs' k = settingItemsReadInt f nvs k := by
  rw [settingItemsReadInt, settingItemsReadInt, settingItemsRead_congr h]

lemma settingItemsReadBool_congr (h : nvs' k = nvs k) :
    settingItemsReadBool f nvs' k = settingItemsReadBool f nvs k := by
  rw [settingItemsReadBool, settingItemsReadBool, settingItemsRead_congr h]

lemma settingItemsReadBool_of_eq_some {b : Bool} (hk : k.type = .bool)
    (h : nvs k = some (boolText b)) : settingItemsReadBool f nvs k = b := by
  have hlen : (boolText b).length < settingItemMaxStrLen := by cases b <;> decide
  rw [settingItemsReadBool, settingItemsRead_of_eq_some h hlen, decide_eq_true hk, Bool.true_and]
  cases b <;> decide

variable {n : Int}

lemma length_renderInt_lt (hmin : CText.intMin ≤ n) (hmax : n ≤ CText.intMax) :
    (renderInt n).length < settingItemMaxStrLen :=
  lt_of_le_of_lt (CText.length_renderInt_le hmin hmax) (by decide)

lemma snprintf_renderInt (hmin : CText.intMin ≤ n) (hmax : n ≤ CText.intMax) :
    CText.snprintf settingItemMaxStrLen (renderInt n) = renderInt n :=
  List.take_of_length_le (Nat.le_sub_one_of_lt (length_renderInt_lt hmin hmax))

lemma settingItemsReadInt_of_eq_some (hk : k.type = .int) (h : nvs k = some (renderInt n))
    (hmin : CText.intMin ≤ n) (hmax : n ≤ CText.intMax) : settingItemsReadInt f nvs k = n := by
  rw [settingItemsReadInt, if_pos hk,
    settingItemsRead_of_eq_some h (length_renderInt_lt hmin hmax),
    CText.strtol_renderInt hmin hmax]

end Read

/-! ## Writing -/

abbrev StorageM (ε : Type) := ExceptT ε (StateM Nvs)

/-- How the write of a record ends: `nvs_set_str`, or the opening of the storage before it, fails
and leaves the record alone; or only `nvs_commit` fails. -/
inductive WriteOutcome where
  | ok
  | setFailed
  | commitFailed
deriving Repr, DecidableEq

def Nvs.write (nvs : Nvs) (k : Key) (value : Text) : Nvs := Function.update nvs k (some value)

lemma Nvs.write_self (nvs : Nvs) (k : Key) (value : Text) :
    nvs.write k value k = some value := by
  rw [write, Function.update_self]

variable {k : Key}

lemma Nvs.write_of_ne {k' : Key} (h : k' ≠ k) (nvs : Nvs) (value : Text) :
    nvs.write k value k' = nvs k' := by
  rw [write, Function.update_of_ne h]

/-- `nvs_write_str`; `io` is how the write of each record ends. -/
def nvsWriteStr (io : Key → WriteOutcome) (k : Key) (value : Text) : StorageM Unit Unit :=
  match io k with
  | .ok => modify fun nvs => nvs.write k value
  | .setFailed => throw ()
  | .commitFailed => do
    modify fun nvs => nvs.write k value
    throw ()

def settingItemsSave (io : Key → WriteOutcome) (k : Key) (value : Text) : StorageM Unit Unit :=
  if k.validate value then nvsWriteStr io k value else throw ()

def settingItemsSaveBool (io : Key → WriteOutcome) (k : Key) (value : Bool) : StorageM Unit Unit :=
  settingItemsSave io k (boolText value)

def settingItemsSaveInt (io : Key → WriteOutcome) (k : Key) (value : Int) : StorageM Unit Unit :=
  let text := renderInt value
  if settingItemMaxStrLen ≤ text.length then throw () else settingItemsSave io k text

/-! ## What code writes -/

def Nvs.writeAll (nvs : Nvs) (records : List (Key × Text)) : Nvs :=
  records.foldl (fun nvs r => nvs.write r.1 r.2) nvs

lemma Nvs.writeAll_append (nvs : Nvs) (records records' : List (Key × Text)) :
    nvs.writeAll (records ++ records') = (nvs.writeAll records).writeAll records' :=
  List.foldl_append

lemma Nvs.writeAll_of_notMem {records : List (Key × Text)} (h : k ∉ records.map Prod.fst)
    (nvs : Nvs) : nvs.writeAll records k = nvs k := by
  induction records generalizing nvs with
  | nil => rfl
  | cons r records ih =>
    rw [List.map_cons, List.mem_cons, not_or] at h
    exact (ih h.2 _).trans (Function.update_of_ne h.1 _ _)

lemma Nvs.writeAll_of_mem {records : List (Key × Text)} {value : Text}
    (h : (k, value) ∈ records) (honly : ∀ value', (k, value') ∈ records → value' = value)
    (nvs : Nvs) : nvs.writeAll records k = some value := by
  induction records generalizing nvs with
  | nil => cases h
  | cons r records ih =>
    have hrest {value'} (hmem : (k, value') ∈ records) : value' = value :=
      honly value' (List.mem_cons_of_mem r hmem)
    by_cases hk : k ∈ records.map Prod.fst
    · -- a later record has the last word, and has the same value
      obtain ⟨⟨k', value'⟩, hmem, rfl⟩ := List.mem_map.1 hk
      obtain rfl := hrest hmem
      exact ih hmem (fun _ => hrest) _
    · rcases List.mem_cons.1 h with rfl | hmem
      · exact (writeAll_of_notMem hk _).trans (Function.update_self _ _ _)
      · exact absurd (List.mem_map_of_mem hmem) hk

def Writes {ε : Type} (io : Key → WriteOutcome) (m : StorageM ε Unit)
    (records : List (Key × Text)) : Prop :=
  ∀ nvs, m.run.run nvs = (.ok (), nvs.writeAll records) ∨
    (∃ r ∈ records, io r.1 ≠ .ok) ∧ ∃ e, (m.run.run nvs).1 = .error e

section Writes

variable {ε ε' : Type} {io : Key → WriteOutcome} {m m' : StorageM ε Unit}
  {records records' : List (Key × Text)}

lemma Writes.pure : Writes io (pure () : StorageM ε Unit) [] := fun _ => .inl rfl

lemma Writes.bind (h : Writes io m records) (h' : Writes io m' records') :
    Writes io (m >>= fun _ => m') (records ++ records') := by
  intro nvs
  rcases h nvs with hok | ⟨⟨r, hr, hio⟩, e, herr⟩
  · have hrun : (m >>= fun _ => m').run.run nvs = m'.run.run (nvs.writeAll records) := by
      simp only [ExceptT.run_bind, StateT.run_bind, hok]
      rfl
    rw [hrun, Nvs.writeAll_append]
    rcases h' (nvs.writeAll records) with hok' | ⟨⟨r, hr, hio⟩, herr'⟩
    · exact .inl hok'
    · exact .inr ⟨⟨r, List.mem_append_right _ hr, hio⟩, herr'⟩
  · obtain ⟨nvs', hrun⟩ : ∃ nvs', m.run.run nvs = (.error e, nvs') := ⟨_, Prod.ext herr rfl⟩
    refine .inr ⟨⟨r, List.mem_append_left _ hr, hio⟩, e, ?_⟩
    simp only [ExceptT.run_bind, StateT.run_bind, hrun]
    rfl

lemma Writes.adapt (h : Writes io m records) (f : ε → ε') : Writes io (m.adapt f) records := by
  intro nvs
  have hrun : (m.adapt f).run.run nvs =
      ((m.run.run nvs).1.mapError f, (m.run.run nvs).2) := rfl
  rw [hrun]
  rcases h nvs with hok | ⟨hfails, e, herr⟩
  · rw [hok]
    exact .inl rfl
  · rw [herr]
    exact .inr ⟨hfails, f e, rfl⟩

lemma Writes.forM {α : Type} {body : α → StorageM ε Unit} {written : α → List (Key × Text)}
    {as : List α} (h : ∀ a ∈ as, Writes io (body a) (written a)) :
    Writes io (as.forM body) (as.flatMap written) := by
  induction as with
  | nil => exact .pure
  | cons a as ih =>
    rw [List.flatMap_cons]
    exact (h a List.mem_cons_self).bind (ih fun b hb => h b (List.mem_cons_of_mem a hb))

lemma writes_settingItemsSave {k : Key} {value : Text} (h : k.validate value = true) :
    Writes io (settingItemsSave io k value) [(k, value)] := by
  intro nvs
  rw [settingItemsSave, if_pos h, nvsWriteStr]
  cases hio : io k with
  | ok => exact .inl rfl
  | setFailed | commitFailed => exact .inr ⟨⟨(k, value), by simp, by simp [hio]⟩, (), rfl⟩

end Writes

end WbMge.Settings
