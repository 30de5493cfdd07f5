import WbMge.Decoder.OwnBytes

/-!
# Roles of the bytes of a packet

`getByteRoles` colours the bytes of a packet. It fills an array with one role and then assigns
others by index, where later assignments overwrite earlier ones; here the assignments are data. A
frame has at least four bytes, so that none of them goes behind the end of the array.
-/

namespace WbMge.Decoder

inductive ByteRole
  | address | fc | subcommand | serial | data | crc | arbitration | fmAddr | fmExt | fmSubcommand
  | unknown
deriving Repr, DecidableEq

/-- An assignment to the bytes from `start` to before `stop`, one by one. -/
structure Write where
  start : ℕ
  stop : ℕ
  role : ByteRole

/-- The role of byte `i` after an assignment. -/
def Write.at (i : ℕ) (r : ByteRole) (w : Write) : ByteRole :=
  if w.start ≤ i ∧ i < w.stop then w.role else r

def Write.apply (roles : List ByteRole) (w : Write) : List ByteRole :=
  roles.mapIdx fun i r => w.at i r

def FmSubcommand.isDeviceAddressed : FmSubcommand → Bool
  | .eventTransfer .. | .eventConfig .. => true
  | _ => false

/-- The assignments to the `n` bytes of a Fast Modbus frame, after those of the checksum. -/
def fmWrites (n : ℕ) (isDeviceAddressed hasNestedCommand isScanResponse : Bool) : List Write :=
  ⟨0, 1, if isDeviceAddressed then .address else .fmAddr⟩ ::
    if hasNestedCommand then
      [⟨1, 2, .fmExt⟩, ⟨2, 3, .fmSubcommand⟩, ⟨3, min 7 (n - 2), .serial⟩,
        ⟨7, min 8 (n - 2), .fc⟩, ⟨8, n - 2, .data⟩]
    else
      [⟨1, 2, .fc⟩, ⟨2, 3, .subcommand⟩] ++
        if isScanResponse then [⟨3, min 7 (n - 2), .serial⟩, ⟨7, min 8 (n - 2), .data⟩]
        else [⟨3, n - 2, .data⟩]

def Layer.writes (n : ℕ) : Layer → List Write
  | .fastModbus _ _ _ sub => fmWrites n sub.isDeviceAddressed sub.pdu.isSome sub.isScanResponse
  | .modbusRtu .. => [⟨0, 1, .address⟩, ⟨1, min 2 (n - 2), .fc⟩, ⟨2, n - 2, .data⟩]

/-- The roles by the bytes. The error for a text that is no hexadecimal number may have a `raw` of
odd length, for which `new Array` throws; half a byte is dropped here. -/
def getByteRoles : Decoded → List ByteRole
  | .arbitration raw => List.replicate (raw.length / 2) .arbitration
  | .error e => List.replicate (e.raw.length / 2) .unknown
  | .frame f =>
    let n := f.raw.length / 2
    (⟨n - 2, n - 1, .crc⟩ :: ⟨n - 1, n, .crc⟩ :: f.payload.writes n).foldl Write.apply
      (List.replicate n .unknown)

variable {i n : ℕ} {f : RtuFrame}

/-! ## Assignments -/

lemma getElem?_foldl_apply (ws : List Write) (roles : List ByteRole) (i : ℕ) :
    (ws.foldl Write.apply roles)[i]? = roles[i]?.map fun r => ws.foldl (Write.at i) r := by
  induction ws generalizing roles with
  | nil => simp
  | cons w ws ih => simp [ih, Write.apply, Function.comp_def]

/-- The role of byte `i` of a frame of `n` bytes. -/
def roleAt (n i : ℕ) (writes : List Write) : ByteRole :=
  writes.foldl (Write.at i) (if n - 2 ≤ i then .crc else .unknown)

lemma getByteRoles_getElem? (f : RtuFrame) (hn : f.raw.length / 2 = n) (i : ℕ) :
    (getByteRoles (.frame f))[i]? =
      if i < n then some (roleAt n i (f.payload.writes n)) else none := by
  subst hn
  rw [getByteRoles, getElem?_foldl_apply, List.getElem?_replicate]
  split
  · rename_i hi
    generalize f.raw.length / 2 = n at hi ⊢
    have hcrc : Write.at i (Write.at i .unknown ⟨n - 2, n - 1, .crc⟩) ⟨n - 1, n, .crc⟩ =
        if n - 2 ≤ i then .crc else .unknown := by
      simp only [Write.at]
      split_ifs <;> first | rfl | omega
    rw [Option.map_some, List.foldl_cons, List.foldl_cons, hcrc, roleAt]
  · rfl

/-! ## Roles of a frame -/

/-- What the roles have to be, where `serial` says whether there is a serial number. -/
structure RolesOk (n : ℕ) (serial : Bool) (writes : List Write) : Prop where
  crc : ∀ i < n, roleAt n i writes = .crc ↔ n - 2 ≤ i
  known : ∀ i < 2, roleAt n i writes ≠ .unknown
  serial : ∀ i < n, roleAt n i writes = .serial ↔ serial = true ∧ 3 ≤ i ∧ i ≤ 6

lemma rolesOk_modbusRtu (hn : 4 ≤ n) (raw fc : JsText.Text) (pdu : Pdu) :
    RolesOk n false (Layer.writes n (.modbusRtu raw fc pdu)) := by
  constructor
  all_goals
    intro i hi
    simp only [roleAt, Layer.writes, List.foldl_cons, List.foldl_nil, Write.at]
    grind

lemma rolesOk_fmWrites (hn : 5 ≤ n) {addressed nested scan : Bool}
    (hserial : (scan || nested) = true → 10 ≤ n) :
    RolesOk n (scan || nested) (fmWrites n addressed nested scan) := by
  constructor
  all_goals
    intro i hi
    cases nested <;> cases scan
    all_goals
      simp only [roleAt, fmWrites, Bool.or_false, Bool.or_true, Bool.false_eq_true, false_implies,
        true_implies, if_false, if_true, List.cons_append, List.nil_append, List.foldl_cons,
        List.foldl_nil, Write.at, false_and, true_and] at hserial ⊢
      grind

def Layer.hasSerial : Layer → Bool
  | .fastModbus _ _ _ sub => sub.hasSerial
  | .modbusRtu .. => false

lemma rolesOk_payload {bytes : Bytes} {direction : Direction}
    (h : decodePacket bytes direction = .ok (.frame f))
    (hsub : 5 ≤ bytes.length ∨ isFastModbus (byteAt bytes 0) (byteAt bytes 1) = false) :
    f.raw.length / 2 = bytes.length ∧ (f.payload.hasSerial = true → 10 ≤ bytes.length) ∧
      RolesOk bytes.length f.payload.hasSerial (f.payload.writes bytes.length) := by
  obtain ⟨hlen, ⟨hfm, sub, hdecode, hf⟩ | ⟨-, pdu, -, hf⟩⟩ := decodePacket_frame h
  · cases hf
    have hserial (hs : sub.hasSerial = true) : 10 ≤ bytes.length := by
      have hle := le_length_of_hasSerial hdecode hs
      simp only [fmBytes, slice, List.length_drop, List.length_take] at hle
      omega
    have h5 : 5 ≤ bytes.length := hsub.resolve_right (by simp [hfm])
    exact ⟨by rw [length_hex]; omega, hserial, rolesOk_fmWrites h5 hserial⟩
  · cases hf
    exact ⟨by rw [length_hex]; omega, (absurd · Bool.false_ne_true), rolesOk_modbusRtu hlen ..⟩

/-- Every byte of a frame has a role. The last two are the checksum, and a serial number is at
the bytes 3 to 6. -/
structure Coloured (bytes : Bytes) (f : RtuFrame) : Prop where
  length_eq : (getByteRoles (.frame f)).length = bytes.length
  crc : ∀ i < bytes.length, (getByteRoles (.frame f))[i]? = some .crc ↔ bytes.length - 2 ≤ i
  known : ∀ i < 2, (getByteRoles (.frame f))[i]? ≠ some .unknown
  serial : ∀ i, (getByteRoles (.frame f))[i]? = some .serial ↔
    f.payload.hasSerial = true ∧ 3 ≤ i ∧ i ≤ 6

lemma coloured_of_length {bytes : Bytes} {direction : Direction}
    (h : decodePacket bytes direction = .ok (.frame f))
    (hsub : 5 ≤ bytes.length ∨ isFastModbus (byteAt bytes 0) (byteAt bytes 1) = false) :
    Coloured bytes f := by
  obtain ⟨hraw, hserial, hok⟩ := rolesOk_payload h hsub
  have hlen := (decodePacket_frame h).1
  have hget := getByteRoles_getElem? f hraw
  refine ⟨?_, fun i hi => ?_, fun i hi => ?_, fun i => ?_⟩
  · refine Nat.le_antisymm (List.getElem?_eq_none_iff.1 ?_) (not_lt.1 fun hlt => ?_)
    · rw [hget, if_neg (lt_irrefl _)]
    · have hnone := hget (getByteRoles (.frame f)).length
      rw [List.getElem?_eq_none_iff.2 le_rfl, if_pos hlt] at hnone
      cases hnone
  · rw [hget, if_pos hi, Option.some.injEq]
    exact hok.crc i hi
  · rw [hget, if_pos (by omega), Ne, Option.some.injEq]
    exact hok.known i hi
  · rw [hget]
    split
    · rw [Option.some.injEq]
      exact hok.serial i ‹_›
    · refine ⟨nofun, fun hs => ?_⟩
      have := hserial hs.1
      omega

/-- The bytes of a frame are coloured as they should be unless it is a Fast Modbus frame of four
bytes, where there is none for the subcommand. -/
theorem getByteRoles_frame_iff {bytes : Bytes} {direction : Direction} {f : RtuFrame}
    (h : decodePacket bytes direction = .ok (.frame f)) :
    Coloured bytes f ↔
      5 ≤ bytes.length ∨ isFastModbus (byteAt bytes 0) (byteAt bytes 1) = false := by
  refine ⟨fun hc => ?_, coloured_of_length h⟩
  obtain ⟨hlen, ⟨-, sub, -, hf⟩ | ⟨hstd, -⟩⟩ := decodePacket_frame h
  · cases hf
    refine .inl (Nat.lt_of_le_of_ne hlen fun h4 => ?_)
    -- the third of four bytes belongs to the checksum and has been given to the subcommand
    have hcrc := (hc.crc 2 (by omega)).2 (by omega)
    rw [getByteRoles_getElem? _ (by rw [length_hex, ← h4]), if_pos (by decide),
      Option.some.injEq] at hcrc
    have hsub : ∀ addressed nested scan, roleAt 4 2 (fmWrites 4 addressed nested scan) ≠ .crc := by
      decide
    exact hsub _ _ _ hcrc
  · exact .inr hstd

theorem getByteRoles_frame_scanResponse :
    ∃ f, decodePacket [0xFD, 0x46, 0x03, 0x00, 0x01, 0x02, 0x03, 0x0A, 0x89, 0xEA] .response =
        .ok (.frame f) ∧
      Coloured [0xFD, 0x46, 0x03, 0x00, 0x01, 0x02, 0x03, 0x0A, 0x89, 0xEA] f :=
  ⟨_, rfl, (@getByteRoles_frame_iff [0xFD, 0x46, 0x03, 0x00, 0x01, 0x02, 0x03, 0x0A, 0x89, 0xEA]
    .response _ rfl).2 (.inl (by decide))⟩

/-- A Fast Modbus frame of four bytes: the assignment for the subcommand comes after the one for the
checksum. -/
theorem getByteRoles_noSubcommand :
    ∃ f, decodePacket [0xFD, 0x46, 0xC0, 0xD2] .request = .ok (.frame f) ∧
      getByteRoles (.frame f) = [.fmAddr, .fc, .subcommand, .crc] :=
  ⟨_, rfl, by decide +kernel⟩

end WbMge.Decoder
