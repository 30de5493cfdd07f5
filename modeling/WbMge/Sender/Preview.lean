import WbMge.Modbus.Helpers
import WbMge.ToMathlib.JsNumber

/-!
# The packet sender of the web interface

`modbusUtils.ts`: the frame that `buildPreviewFrame` makes of the fields of a form. It is what is
displayed, and what is sent to the port when the user asks for it.

The value field is checked by `parseStrictInt`, which looks at the whole of it. The slave and the
address are left to `parseInt`, which stops where the number ends:
`buildPreviewFrame_fromFields_iff` says which texts get through.

The builders are called with numbers that were checked: natural numbers here, with the conversion to
a byte for a mask with `0xff`.
-/

namespace WbMge.Sender

open JsText

/-! ## Frames -/

def modbusCrc16 (data : Bytes) : UInt16 := data.foldl crcByte 0xFFFF

def appendCrc (frame : Bytes) : Bytes := frame ++ crcBytes (modbusCrc16 frame)

def head (slaveId : ℕ) (fc : UInt8) (address : ℕ) : Bytes :=
  UInt8.ofNat slaveId :: fc :: be16 address

def buildReadFrame (slaveId fc address count : ℕ) : Bytes :=
  appendCrc (head slaveId (UInt8.ofNat fc) address ++ be16 count)

def buildWriteSingleRegister (slaveId address value : ℕ) : Bytes :=
  appendCrc (head slaveId 0x06 address ++ be16 value)

def buildWriteSingleCoil (slaveId address value : ℕ) : Bytes :=
  let coilVal := if value ≠ 0 then 0xFF00 else 0x0000
  appendCrc (head slaveId 0x05 address ++ be16 coilVal)

/-- The part after the address in a frame that writes several registers or coils. -/
def multipleBytes (quantity byteCount : ℕ) (data : Bytes) : Bytes :=
  be16 quantity ++ UInt8.ofNat byteCount :: data

def buildWriteMultipleRegisters (slaveId address : ℕ) (values : List ℕ) : Bytes :=
  let quantity := values.length
  appendCrc (head slaveId 0x10 address ++
    multipleBytes quantity (quantity * 2) (values.flatMap be16))

/-- The loop of `buildWriteMultipleCoils`, from coil `i` on. -/
def packCoils : List ℕ → ℕ → Bytes → Bytes
  | [], _, data => data
  | value :: values, i, data => packCoils values (i + 1) (if value ≠ 0 then setBit data i else data)

def buildWriteMultipleCoils (slaveId address : ℕ) (values : List ℕ) : Bytes :=
  let quantity := values.length
  let byteCount := (quantity + 7) / 8
  appendCrc (head slaveId 0x0F address ++
    multipleBytes quantity byteCount (packCoils values 0 (List.replicate byteCount 0)))

/-! ## Fields -/

/-- `/^-?\d+$/`. -/
def isDecimalInt (t : Text) : Bool :=
  let digits := if t.head? = some minus then t.tail else t
  !digits.isEmpty && digits.all (isDigit 10)

def parseStrictInt (s : Text) : Option ℤ :=
  if isDecimalInt (trim s) then parseInt (trim s) 10 else none

/-- `[\s,]`. -/
def isSeparator (c : UInt16) : Bool := isWhitespace c || c == 44

def parseValueList (raw : Text) : List (Option ℤ) := (words isSeparator raw).map parseStrictInt

/-- The radix in which `parseModbusAddress` reads a trimmed text. -/
def radix (trimmed : Text) : ℕ := if hasHexPrefix trimmed then 16 else 10

def parseModbusAddress (raw : Text) : Option ℤ := parseInt (trim raw) (radix (trim raw))

/-- A number that is there, from `low` to `high`. -/
def checked (low high : ℕ) (n : Option ℤ) : Option ℕ :=
  n.bind fun n => if low ≤ n ∧ n ≤ high then some n.toNat else none

/-- At least one number and at most `most` of them, none above `high`. -/
def checkedList (most high : ℕ) (values : List (Option ℤ)) : Option (List ℕ) :=
  if values.length < 1 ∨ most < values.length then none else values.mapM (checked 0 high)

inductive Mode
  | read | write
deriving Repr, DecidableEq

/-- `buildPreviewFrame` in the mode `read`, once slave and address are checked. -/
def readFrame (slave addr : ℕ) (fcStr valueStr : Text) : Option Bytes := do
  let fcNum ← checked 0x01 0x04 (parseInt fcStr 16)
  let cnt ← checked 1 2000 (parseStrictInt valueStr)
  return buildReadFrame slave fcNum addr cnt

/-- `buildPreviewFrame` in the mode `write`, once slave and address are checked. -/
def writeFrame (slave addr : ℕ) (fcStr valueStr : Text) : Option Bytes :=
  if fcStr = lit "06" then
    (checked 0 0xFFFF (parseStrictInt valueStr)).map (buildWriteSingleRegister slave addr)
  else if fcStr = lit "05" then
    (checked 0 1 (parseStrictInt valueStr)).map (buildWriteSingleCoil slave addr)
  else if fcStr = lit "10" then
    (checkedList 123 0xFFFF (parseValueList valueStr)).map (buildWriteMultipleRegisters slave addr)
  else if fcStr = lit "0f" then
    (checkedList 1968 1 (parseValueList valueStr)).map (buildWriteMultipleCoils slave addr)
  else none

/-- `buildPreviewFrame`; `none` is `null`. -/
def buildPreviewFrame (slaveStr fcStr addrStr valueStr : Text) (mode : Mode) : Option Bytes := do
  let slave ← checked 1 247 (parseModbusAddress slaveStr)
  let addr ← checked 0 0xFFFF (parseModbusAddress addrStr)
  match mode with
  | .read => readFrame slave addr fcStr valueStr
  | .write => writeFrame slave addr fcStr valueStr

/-! ## What the fields denote -/

/-- The text is a decimal number, or a hexadecimal one behind `0x`, and nothing else. -/
def Denotes (t : Text) (n : ℕ) : Prop :=
  IsNumeral 10 t n ∨ hasHexPrefix t = true ∧ IsNumeral 16 (t.drop 2) n

/-- The text is a number, and nothing else. -/
def IsNumber (t : Text) : Prop := ∃ n, Denotes t n

/-- The text begins with a number, and anything may follow: hexadecimal digits behind `0x`, or else
decimal digits, with or without a sign. A minus is in front of a zero. -/
def Leads (t : Text) (n : ℕ) : Prop :=
  if hasHexPrefix t then IsNumeral 16 ((t.drop 2).takeWhile (isDigit 16)) n
  else IsNumeral 10 (t.takeWhile (isDigit 10)) n ∨
    (t.head? = some plus ∨ t.head? = some minus ∧ n = 0) ∧
      IsNumeral 10 (t.tail.takeWhile (isDigit 10)) n

/-- The text begins with a number from `low` to `high`. -/
def LeadsWithin (low high : ℕ) (t : Text) : Prop := ∃ n, Leads t n ∧ low ≤ n ∧ n ≤ high

/-- The form takes a list of values. -/
def TakesList (fcStr : Text) (mode : Mode) : Prop :=
  mode = .write ∧ (fcStr = lit "10" ∨ fcStr = lit "0f")

/-- The value field is a decimal number, or a list of them where one is expected. -/
def ValueOk (fcStr valueStr : Text) (mode : Mode) : Prop :=
  (TakesList fcStr mode → words isSeparator valueStr ≠ [] ∧
    ∀ w ∈ words isSeparator valueStr, isDecimalInt w = true) ∧
  (¬ TakesList fcStr mode → isDecimalInt (trim valueStr) = true)

/-- A decimal number from `low` to `high`, with white space around it. -/
def Operand (low high : ℕ) (valueStr : Text) : Prop :=
  ∃ n : ℕ, parseStrictInt valueStr = some (n : ℤ) ∧ low ≤ n ∧ n ≤ high

/-- One to `most` decimal numbers up to `high`. -/
def Operands (most high : ℕ) (valueStr : Text) : Prop :=
  ∃ ns : List ℕ, parseValueList valueStr = ns.map (fun n : ℕ => some (n : ℤ)) ∧
    1 ≤ ns.length ∧ ns.length ≤ most ∧ ∀ n ∈ ns, n ≤ high

/-- There is such a function, and the value is one for it. -/
def Offered (fcStr valueStr : Text) : Mode → Prop
  | .read => (∃ fc : ℕ, parseInt fcStr 16 = some (fc : ℤ) ∧ 1 ≤ fc ∧ fc ≤ 4) ∧
      Operand 1 2000 valueStr
  | .write =>
      fcStr = lit "06" ∧ Operand 0 0xFFFF valueStr ∨ fcStr = lit "05" ∧ Operand 0 1 valueStr ∨
      fcStr = lit "10" ∧ Operands 123 0xFFFF valueStr ∨ fcStr = lit "0f" ∧ Operands 1968 1 valueStr

variable {slaveStr fcStr addrStr valueStr s : Text} {mode : Mode} {frame : Bytes}
  {low high most n slave addr : ℕ} {ns : List ℕ}

lemma checked_eq_some {i : Option ℤ} :
    checked low high i = some n ↔ i = some (n : ℤ) ∧ low ≤ n ∧ n ≤ high := by
  cases i with
  | none => simp [checked]
  | some i =>
    simp only [checked, Option.bind_some, Option.ite_none_right_eq_some, Option.some.injEq]
    omega

lemma mapM_checked_eq_some {values : List (Option ℤ)} :
    values.mapM (checked 0 high) = some ns ↔
      values = ns.map (fun n : ℕ => some (n : ℤ)) ∧ ∀ n ∈ ns, n ≤ high := by
  induction values generalizing ns with
  | nil => cases ns <;> simp
  | cons i values ih =>
    cases ns with
    | nil => simp [List.mapM_cons, Option.bind_eq_some_iff]
    | cons n ns =>
      simp only [List.mapM_cons, Option.bind_eq_bind, Option.bind_eq_some_iff, checked_eq_some, ih,
        Option.pure_def, Option.some.injEq, List.cons.injEq, List.map_cons, List.forall_mem_cons]
      grind

lemma checkedList_eq_some {values : List (Option ℤ)} :
    checkedList most high values = some ns ↔ values = ns.map (fun n : ℕ => some (n : ℤ)) ∧
      1 ≤ ns.length ∧ ns.length ≤ most ∧ ∀ n ∈ ns, n ≤ high := by
  rw [checkedList, Option.ite_none_left_eq_some, mapM_checked_eq_some]
  constructor
  · rintro ⟨hlen, rfl, hhigh⟩
    rw [List.length_map] at hlen
    exact ⟨rfl, by omega, by omega, hhigh⟩
  · rintro ⟨rfl, hmin, hmax, hhigh⟩
    rw [List.length_map]
    exact ⟨by omega, rfl, hhigh⟩

/-! ### The value -/

lemma isDecimalInt_of_parseStrictInt {i : ℤ} (h : parseStrictInt s = some i) :
    isDecimalInt (trim s) = true :=
  (Option.ite_none_right_eq_some.1 h).1

lemma isDecimalInt_of_checked (h : checked low high (parseStrictInt valueStr) = some n) :
    isDecimalInt (trim valueStr) = true :=
  isDecimalInt_of_parseStrictInt (checked_eq_some.1 h).1

lemma isDecimalInt_of_checkedList
    (h : checkedList most high (parseValueList valueStr) = some ns) :
    words isSeparator valueStr ≠ [] ∧
      ∀ w ∈ words isSeparator valueStr, isDecimalInt w = true := by
  obtain ⟨hvalues, hmin, -, -⟩ := checkedList_eq_some.1 h
  refine ⟨fun hnil => ?_, fun w hw => ?_⟩
  · have hlen := congrArg List.length hvalues
    simp only [parseValueList, hnil, List.map_nil, List.length_nil, List.length_map] at hlen
    omega
  · have hmem : parseStrictInt w ∈ parseValueList valueStr := List.mem_map_of_mem hw
    rw [hvalues] at hmem
    obtain ⟨n, -, hn⟩ := List.mem_map.1 hmem
    -- a word has no white space that could be trimmed
    have htrim : trim w = w := trim_eq_self fun c hc =>
      (Bool.or_eq_false_iff.1 (separator_eq_false hw c hc)).1
    rw [← htrim]
    exact isDecimalInt_of_parseStrictInt hn.symm

/-! ### Slave and address -/

lemma exists_natCast_iff {P : ℕ → Prop} : (∃ m : ℕ, P m ∧ (n : ℤ) = m) ↔ P n := by
  simp only [Int.natCast_inj, exists_eq_right']

/-- A sign is no digit, so `parseInt` finds one of the two forms of a decimal number. -/
lemma exists_splitSign_iff (t : Text) :
    (∃ m : ℕ, IsNumeral 10 ((splitSign t).2.takeWhile (isDigit 10)) m ∧
      (n : ℤ) = if (splitSign t).1 then -(m : ℤ) else m) ↔
      IsNumeral 10 (t.takeWhile (isDigit 10)) n ∨
        (t.head? = some plus ∨ t.head? = some minus ∧ n = 0) ∧
          IsNumeral 10 (t.tail.takeWhile (isDigit 10)) n := by
  cases t with
  | nil => simp [splitSign, IsNumeral]
  | cons c t =>
    have hsign (hc : c = plus ∨ c = minus) :
        ¬ IsNumeral 10 ((c :: t).takeWhile (isDigit 10)) n := by
      rw [List.takeWhile_cons, isDigit_eq_false (.inr hc)]
      exact fun h => h.1 rfl
    by_cases hminus : c = minus
    · have hzero (m : ℕ) : (n : ℤ) = -(m : ℤ) ↔ n = 0 ∧ m = 0 := by omega
      have hplus : minus ≠ plus := by decide
      simp only [hsign (.inr hminus), false_or]
      simp only [splitSign, hminus, if_true, hzero, List.head?_cons, List.tail_cons, true_and,
        Option.some.injEq, hplus, false_or]
      grind
    · by_cases hplus : c = plus
      · simp only [hsign (.inl hplus), false_or]
        simp [splitSign, hplus, exists_natCast_iff, plus, minus]
      · simp [splitSign, hminus, hplus, exists_natCast_iff]

lemma parseModbusAddress_eq_some_iff :
    parseModbusAddress s = some (n : ℤ) ↔ Leads (trim s) n := by
  have htrim := trimStart_trim s
  rw [parseModbusAddress]
  generalize trim s = t at htrim ⊢
  by_cases hhex : hasHexPrefix t = true
  · have hbody : parseIntBody t 16 = (false, t.drop 2) := by
      rw [parseIntBody, htrim, splitSign_of_hasHexPrefix hhex, if_pos rfl, dropHexPrefix,
        if_pos hhex]
    rw [radix, if_pos hhex, parseInt_eq_some_iff hbody, Leads, if_pos hhex]
    exact exists_natCast_iff
  · have hbody : parseIntBody t 10 = splitSign t := by
      rw [parseIntBody, htrim, if_neg (by decide)]
    rw [radix, if_neg hhex, parseInt_eq_some_iff hbody, Leads, if_neg hhex]
    exact exists_splitSign_iff t

lemma leads_of_denotes {t : Text} (h : Denotes t n) : Leads t n := by
  obtain ⟨hne, hdigits, hvalue⟩ | ⟨hhex, hne, hdigits, hvalue⟩ := h
  · rw [Leads, hasHexPrefix_eq_false (by decide) hdigits, if_neg Bool.false_ne_true,
      List.takeWhile_eq_self_iff.2 hdigits]
    exact .inl ⟨hne, hdigits, hvalue⟩
  · rw [Leads, if_pos hhex, List.takeWhile_eq_self_iff.2 hdigits]
    exact ⟨hne, hdigits, hvalue⟩

/-- A field that is a number is the one that was read. -/
lemma denotes_of_isNumber (h : parseModbusAddress s = some (n : ℤ)) (hs : IsNumber (trim s)) :
    Denotes (trim s) n := by
  obtain ⟨m, hm⟩ := hs
  have hread := parseModbusAddress_eq_some_iff.2 (leads_of_denotes hm)
  rw [h, Option.some.injEq, Int.natCast_inj] at hread
  rwa [hread]

lemma exists_checked_iff :
    (∃ n, checked low high (parseModbusAddress s) = some n) ↔ LeadsWithin low high (trim s) := by
  simp only [checked_eq_some, parseModbusAddress_eq_some_iff, LeadsWithin]

/-! ### The frame -/

/-- A frame for a device and a register, whatever it asks for. -/
def IsFor (slave addr : ℕ) (frame : Bytes) : Prop :=
  ∃ fc rest, frame = UInt8.ofNat slave :: fc :: (be16 addr ++ rest)

lemma isFor_appendCrc (fc : UInt8) (rest : Bytes) :
    IsFor slave addr (appendCrc (head slave fc addr ++ rest)) :=
  ⟨fc, rest ++ crcBytes (modbusCrc16 (head slave fc addr ++ rest)), by simp [appendCrc, head]⟩

/-- `buildPreviewFrame` once slave and address are checked. -/
def Built (slave addr : ℕ) (fcStr valueStr : Text) (frame : Bytes) : Mode → Prop
  | .read => readFrame slave addr fcStr valueStr = some frame
  | .write => writeFrame slave addr fcStr valueStr = some frame

lemma Built.isFor (h : Built slave addr fcStr valueStr frame mode) : IsFor slave addr frame := by
  cases mode with
  | read =>
    obtain ⟨fcNum, -, h⟩ := Option.bind_eq_some_iff.1 h
    obtain ⟨cnt, -, h⟩ := Option.bind_eq_some_iff.1 h
    obtain rfl := Option.some.inj h
    exact isFor_appendCrc ..
  | write =>
    rw [Built, writeFrame] at h
    split_ifs at h
    all_goals
      obtain ⟨value, -, rfl⟩ := Option.map_eq_some_iff.1 h
      exact isFor_appendCrc ..

lemma exists_readFrame_iff :
    (∃ frame, readFrame slave addr fcStr valueStr = some frame) ↔ Offered fcStr valueStr .read := by
  simp only [readFrame, Option.bind_eq_bind, Option.bind_eq_some_iff, Option.pure_def,
    Option.some.injEq, checked_eq_some, Offered, Operand]
  constructor
  · rintro ⟨frame, fc, hfc, cnt, hcnt, -⟩
    exact ⟨⟨fc, hfc⟩, cnt, hcnt⟩
  · rintro ⟨⟨fc, hfc⟩, cnt, hcnt⟩
    exact ⟨_, fc, hfc, cnt, hcnt, rfl⟩

lemma exists_writeFrame_iff :
    (∃ frame, writeFrame slave addr fcStr valueStr = some frame) ↔
      Offered fcStr valueStr .write := by
  have hmap {α : Type} (i : Option α) (f : α → Bytes) :
      (∃ frame, i.map f = some frame) ↔ ∃ value, i = some value := by
    cases i <;> simp
  have hdistinct : lit "06" ≠ lit "05" ∧ lit "06" ≠ lit "10" ∧ lit "06" ≠ lit "0f" ∧
      lit "05" ≠ lit "10" ∧ lit "05" ≠ lit "0f" ∧ lit "10" ≠ lit "0f" := by decide
  rw [writeFrame]
  -- the four cases of the `switch`: two with a number, two with a list
  split_ifs with h06 h05 h10 h0f
  all_goals
    simp only [hmap, checked_eq_some, checkedList_eq_some, Offered, Operand, Operands]
    grind

lemma exists_built_iff :
    (∃ frame, Built slave addr fcStr valueStr frame mode) ↔ Offered fcStr valueStr mode := by
  cases mode with
  | read => exact exists_readFrame_iff
  | write => exact exists_writeFrame_iff

/-- The value of a function that is offered is made of decimal integers. -/
lemma valueOk_of_offered (h : Offered fcStr valueStr mode) : ValueOk fcStr valueStr mode := by
  have hone {low high : ℕ} (h : Operand low high valueStr) : isDecimalInt (trim valueStr) = true :=
    isDecimalInt_of_checked (checked_eq_some.2 h.choose_spec)
  have hmany {most high : ℕ} (h : Operands most high valueStr) :=
    isDecimalInt_of_checkedList (checkedList_eq_some.2 h.choose_spec)
  cases mode with
  | read => exact ⟨by simp [TakesList], fun _ => hone h.2⟩
  | write =>
    obtain ⟨rfl, h⟩ | ⟨rfl, h⟩ | ⟨rfl, h⟩ | ⟨rfl, h⟩ := h
    · exact ⟨fun htakes => absurd htakes.2 (by decide), fun _ => hone h⟩
    · exact ⟨fun htakes => absurd htakes.2 (by decide), fun _ => hone h⟩
    · exact ⟨fun _ => hmany h, fun htakes => absurd ⟨rfl, .inl rfl⟩ htakes⟩
    · exact ⟨fun _ => hmany h, fun htakes => absurd ⟨rfl, .inr rfl⟩ htakes⟩

lemma buildPreviewFrame_eq_some_iff :
    buildPreviewFrame slaveStr fcStr addrStr valueStr mode = some frame ↔
      ∃ slave, checked 1 247 (parseModbusAddress slaveStr) = some slave ∧
        ∃ addr, checked 0 0xFFFF (parseModbusAddress addrStr) = some addr ∧
          Built slave addr fcStr valueStr frame mode := by
  cases mode <;> simp [buildPreviewFrame, Built, Option.bind_eq_some_iff]

/-- A frame is for the device and the register that the fields denote, and the value field is made
of decimal integers. -/
def FromFields (slaveStr fcStr addrStr valueStr : Text) (mode : Mode) (frame : Bytes) : Prop :=
  ∃ slave addr, 1 ≤ slave ∧ slave ≤ 247 ∧ addr ≤ 65535 ∧ IsFor slave addr frame ∧
    Denotes (trim slaveStr) slave ∧ Denotes (trim addrStr) addr ∧ ValueOk fcStr valueStr mode

/-- A frame is what the fields ask for exactly if slave and address are numbers and nothing else, or
there is no frame: one of them does not begin with a number that is within the bounds, or the value
is none for the function. -/
theorem buildPreviewFrame_fromFields_iff (slaveStr fcStr addrStr valueStr : Text) (mode : Mode) :
    (∀ frame, buildPreviewFrame slaveStr fcStr addrStr valueStr mode = some frame →
      FromFields slaveStr fcStr addrStr valueStr mode frame) ↔
      (LeadsWithin 1 247 (trim slaveStr) → LeadsWithin 0 65535 (trim addrStr) →
        Offered fcStr valueStr mode → IsNumber (trim slaveStr) ∧ IsNumber (trim addrStr)) := by
  simp only [buildPreviewFrame_eq_some_iff]
  constructor
  · intro h hslave haddr hoffered
    obtain ⟨slave, hslave⟩ := exists_checked_iff.2 hslave
    obtain ⟨addr, haddr⟩ := exists_checked_iff.2 haddr
    obtain ⟨frame, hframe⟩ := exists_built_iff.2 hoffered
    obtain ⟨_, _, -, -, -, -, hs, ha, -⟩ := h frame ⟨slave, hslave, addr, haddr, hframe⟩
    exact ⟨⟨_, hs⟩, _, ha⟩
  · rintro h frame ⟨slave, hslave, addr, haddr, hframe⟩
    have hoffered := exists_built_iff.1 ⟨frame, hframe⟩
    obtain ⟨hs, ha⟩ := h (exists_checked_iff.1 ⟨slave, hslave⟩)
      (exists_checked_iff.1 ⟨addr, haddr⟩) hoffered
    obtain ⟨hslave, hmin, hmax⟩ := checked_eq_some.1 hslave
    obtain ⟨haddr, -, hlast⟩ := checked_eq_some.1 haddr
    exact ⟨slave, addr, hmin, hmax, hlast, hframe.isFor, denotes_of_isNumber hslave hs,
      denotes_of_isNumber haddr ha, valueOk_of_offered hoffered⟩

lemma not_denotes (hdigits : s.all (isDigit 10) = false) (hhex : hasHexPrefix s = false) :
    ¬ Denotes s n := by
  rintro (⟨-, h, -⟩ | ⟨h, -⟩)
  · rw [List.all_eq_true.2 h] at hdigits
    cases hdigits
  · rw [h] at hhex
    cases hhex

/-- A write to register 1 of device 12 that the fields do not ask for: `parseInt` has stopped at the
first letter of one and at the point in the other. -/
theorem buildPreviewFrame_unread :
    buildPreviewFrame (lit "12abc") (lit "06") (lit "1.5") (lit "7") .write =
        some [12, 6, 0, 1, 0, 7, 0x98, 0xD5] ∧
      IsFor 12 1 [12, 6, 0, 1, 0, 7, 0x98, 0xD5] ∧
      (∀ n, ¬ Denotes (trim (lit "12abc")) n) ∧ ∀ n, ¬ Denotes (trim (lit "1.5")) n :=
  ⟨by decide +kernel, ⟨6, [0, 7, 0x98, 0xD5], rfl⟩, fun _ => not_denotes (by decide) (by decide),
    fun _ => not_denotes (by decide) (by decide)⟩

end WbMge.Sender
