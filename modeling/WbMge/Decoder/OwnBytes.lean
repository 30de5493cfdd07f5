import WbMge.Decoder.Hex

/-!
# The bytes a node is decoded from

The node of a standard function shows as its `raw` the front part of the PDU that belongs to it, as
far as the PDU declares a length. Decoding that part alone gives the same node, unless a field was
read behind it. `Sound` says this of one layout; layouts of one kind have one lemma.

Four functions check their offsets against the end of the PDU and may read behind the declared
length: `Contained` is the condition that they do not. The response of FC11 reads two single bytes
without any check, and `decodePacket` throws if they are not there: `Throws`.
-/

namespace WbMge.Decoder

open JsText

variable {bytes : Bytes} {fc : UInt8} {type : PduType} {t c : Prop} {d direction : Direction}
  {limit i j k : ℕ}

/-! ## Reading in a front part -/

lemma slice_take (h : j ≤ k) : slice (bytes.take k) i j = slice bytes i j := by
  rw [slice, slice, List.take_take, min_eq_left h]

lemma slice_zero (bytes : Bytes) (k : ℕ) : slice bytes 0 k = bytes.take k := List.drop_zero

lemma u16be_take (hk : k ≤ bytes.length) (h : i + 1 < k) :
    u16be (bytes.take k) i = u16be bytes i := by
  rw [u16be, u16be, List.length_take_of_le hk, if_neg (by omega), if_neg (by omega),
    byteAt_take (by omega), byteAt_take h]

lemma u16be_of_le (h : bytes.length ≤ i + 1) : u16be bytes i = 0 := if_pos h

lemma u16be_take_iff (hk : k ≤ bytes.length) :
    u16be (bytes.take k) i = u16be bytes i ↔ i + 1 < k ∨ u16be bytes i = 0 := by
  by_cases h : i + 1 < k
  · simp [u16be_take hk h, h]
  · rw [u16be_of_le (by rw [List.length_take_of_le hk]; omega)]
    simp [h, eq_comm]

lemma hexAt_of_lt (h : i < bytes.length) : hexAt bytes i = .ok (hex [byteAt bytes i]) := by
  simp [hexAt, byteAt, h]

lemma hexAt_of_le (h : bytes.length ≤ i) : hexAt bytes i = .error .typeError := by
  simp [hexAt, h]

lemma hexAt_take (hk : k ≤ bytes.length) (h : i < k) : hexAt (bytes.take k) i = hexAt bytes i := by
  rw [hexAt_of_lt (by rw [List.length_take_of_le hk]; exact h), hexAt_of_lt (by omega),
    byteAt_take h]

lemma exists_of_map_eq_ok {α β : Type} {f : α → β} {r : Js α} {b : β} (h : f <$> r = .ok b) :
    ∃ a, r = .ok a ∧ f a = b := by
  cases r with
  | error e => cases h
  | ok a => exact ⟨a, rfl, Except.ok.inj h⟩

/-! ## Layouts -/

/-- The layout returns on the bytes if `t` holds. What it returns shows a front part of the bytes.
If `c` holds and it is no error, it is also what the layout returns on that part. -/
structure Sound (layout : Bytes → Js Pdu) (bytes : Bytes) (t c : Prop) : Prop where
  total : t → ∃ q, layout bytes = .ok q
  own : ∀ q, layout bytes = .ok q → ∃ k, 0 < k ∧ q.raw = hex (bytes.take k) ∧
    (c → ∀ p, q = .result p → layout (bytes.take k) = .ok q)

section Layouts

variable {layout : Bytes → Js Pdu} {q : Pdu}

lemma Sound.of_take (hk : 0 < k) (h : layout bytes = .ok q) (hraw : q.raw = hex (bytes.take k))
    (htake : c → layout (bytes.take k) = .ok q) : Sound layout bytes t c := by
  refine ⟨fun _ => ⟨q, h⟩, fun q' hq => ?_⟩
  rw [h] at hq
  cases hq
  exact ⟨k, hk, hraw, fun hc _ _ => htake hc⟩

lemma Sound.of_whole (hne : bytes ≠ []) (h : layout bytes = .ok q) (hraw : q.raw = hex bytes) :
    Sound layout bytes t c :=
  .of_take (List.length_pos_of_ne_nil hne) h (by rw [List.take_length, hraw])
    fun _ => by rw [List.take_length, h]

lemma Sound.mono {t' c' : Prop} (h : Sound layout bytes t c) (ht : t' → t) (hc : c' → c) :
    Sound layout bytes t' c' := by
  refine ⟨fun ht' => h.total (ht ht'), fun q hq => ?_⟩
  obtain ⟨k, hk, hraw, hown⟩ := h.own q hq
  exact ⟨k, hk, hraw, fun hc' => hown (hc hc')⟩

lemma Sound.ite {p : Prop} [Decidable p] {f g : Bytes → Js Pdu} (hf : p → Sound f bytes t c)
    (hg : ¬ p → Sound g bytes t c) : Sound (if p then f else g) bytes t c :=
  iteInduction (motive := fun f => Sound f bytes t c) hf hg

end Layouts

lemma sound_fixedPdu {len : ℕ} {fields : Bytes → Js Fields} (hne : bytes ≠ []) (hlen : 0 < len)
    (hfields : len ≤ bytes.length →
      ∃ fs, fields bytes = .ok fs ∧ fields (bytes.take len) = .ok fs) :
    Sound (fixedPdu fc type len fields) bytes t c := by
  by_cases hshort : bytes.length < len
  · exact .of_whole hne (if_pos hshort) rfl
  obtain ⟨fs, hfs, htake⟩ := hfields (not_lt.1 hshort)
  refine .of_take (q := .result ⟨type, hex (bytes.take len), hex [fc], fs⟩) hlen ?_ rfl fun _ => ?_
  · rw [fixedPdu, if_neg hshort, hfs, slice_zero]
    rfl
  · rw [fixedPdu, List.length_take_of_le (not_lt.1 hshort), if_neg (lt_irrefl _), htake,
      slice_take le_rfl, slice_zero]
    rfl

lemma sound_declaredPdu {head : ℕ} {count : Bytes → ℕ} {fields : Bytes → ℕ → Js (Option Fields)}
    (hne : bytes ≠ []) (hhead : 0 < head)
    (hcount : head + count bytes ≤ bytes.length →
      count (bytes.take (head + count bytes)) = count bytes)
    (htotal : t → head + count bytes ≤ bytes.length → ∃ fs, fields bytes (count bytes) = .ok fs)
    (htake : c → head + count bytes ≤ bytes.length → ∀ fs,
      fields bytes (count bytes) = .ok (some fs) →
        fields (bytes.take (head + count bytes)) (count bytes) = .ok (some fs)) :
    Sound (declaredPdu fc type head count fields) bytes t c := by
  by_cases hshort : bytes.length < head
  · exact .of_whole hne (if_pos hshort) rfl
  by_cases hcut : bytes.length < head + count bytes
  · exact .of_whole hne (by rw [declaredPdu, if_neg hshort, if_pos hcut]) rfl
  have hle := not_lt.1 hcut
  have heq : declaredPdu fc type head count fields bytes = (do
      let fs ← fields bytes (count bytes)
      return fs.elim (dataTruncated bytes) fun fs => .result
        ⟨type, hex (bytes.take (head + count bytes)), hex [fc], fs⟩) := by
    rw [declaredPdu, if_neg hshort, if_neg hcut, slice_zero]
  cases hfs : fields bytes (count bytes) with
  | error e =>
    rw [hfs] at heq
    refine ⟨fun ht => ?_, fun q hq => ?_⟩
    · obtain ⟨fs, hok⟩ := htotal ht hle
      cases hfs.symm.trans hok
    · cases heq.symm.trans hq
  | ok fs =>
    rw [hfs] at heq
    cases fs with
    | none => exact .of_whole hne heq rfl
    | some fs =>
      refine .of_take (by omega) heq rfl fun hc => ?_
      rw [declaredPdu, List.length_take_of_le hle, hcount hle, if_neg (by omega),
        if_neg (lt_irrefl _), htake hc hle fs hfs, slice_take le_rfl, slice_zero]
      rfl

lemma sound_countedPdu {head n : ℕ} {fields : Bytes → ℕ → Js Fields} (hne : bytes ≠ [])
    (hhead : 0 < head) (hn : (byteAt bytes (head - 1)).toNat = n)
    (htotal : t → head + n ≤ bytes.length → ∃ fs, fields bytes n = .ok fs)
    (htake : c → head + n ≤ bytes.length → fields (bytes.take (head + n)) n = fields bytes n) :
    Sound (countedPdu fc type head fields) bytes t c := by
  subst hn
  refine sound_declaredPdu hne hhead (fun _ => ?_) (fun ht hle => ?_) fun hc hle fs hfs => ?_
  · rw [byteAt_take (by omega)]
  · obtain ⟨fs, hfs⟩ := htotal ht hle
    exact ⟨some fs, by rw [hfs]; rfl⟩
  · rw [htake hc hle, hfs]

lemma exists_wholePdu {len : ℕ} {fields : Bytes → Js Fields}
    (hfields : len ≤ bytes.length → ∃ fs, fields bytes = .ok fs) :
    ∃ q, wholePdu fc type len fields bytes = .ok q ∧ q.raw = hex bytes := by
  by_cases hshort : bytes.length < len
  · exact ⟨_, if_pos hshort, rfl⟩
  · obtain ⟨fs, hfs⟩ := hfields (not_lt.1 hshort)
    exact ⟨.result ⟨type, hex bytes, hex [fc], fs⟩, by rw [wholePdu, if_neg hshort, hfs]; rfl, rfl⟩

/-! ## Records -/

lemma fileReference_take {off : ℕ} (hlimit : limit ≤ bytes.length) (h : off + 7 ≤ limit)
    (referenceType : Text) :
    fileReference (bytes.take limit) off referenceType = fileReference bytes off referenceType := by
  rw [fileReference, u16be_take hlimit (by omega), u16be_take hlimit (by omega),
    u16be_take hlimit (by omega), fileReference]

lemma exists_readFileSubRequests (hlimit : limit ≤ bytes.length) (off : ℕ) :
    ∃ rs, readFileSubRequests bytes limit off = .ok rs ∧
      readFileSubRequests (bytes.take limit) limit off = .ok rs := by
  fun_induction readFileSubRequests bytes limit off with
  | case1 off h ih =>
    obtain ⟨rs, hrs, htake⟩ := ih
    refine ⟨fileReference bytes off (hex [byteAt bytes off]) :: rs, ?_, ?_⟩
    · rw [hexAt_of_lt (by omega), hrs]
      rfl
    · rw [readFileSubRequests, if_pos h, hexAt_take hlimit (by omega), hexAt_of_lt (by omega),
        htake]
      simp only [fileReference_take hlimit h]
      rfl
  | case2 off h => exact ⟨[], rfl, by rw [readFileSubRequests, if_neg h]⟩

/-- The records of FC15 that begin inside of the declared length end inside of it. -/
def writeRecordsInside (bytes : Bytes) (limit off : ℕ) : Bool :=
  let dataEnd := off + 7 + u16be bytes (off + 5) * 2
  if off + 7 ≤ limit ∧ dataEnd ≤ bytes.length then
    dataEnd ≤ limit && writeRecordsInside bytes limit dataEnd
  else true
termination_by limit - off
decreasing_by omega

lemma exists_writeFileSubRequests (hlimit : limit ≤ bytes.length) (off : ℕ) :
    ∃ rs, writeFileSubRequests bytes limit off = .ok rs ∧
      (rs = none → off + 7 ≤ limit ∧ writeRecordsInside bytes limit off = true) ∧
      (rs.isSome → (writeFileSubRequests (bytes.take limit) limit off = .ok rs ↔
        writeRecordsInside bytes limit off = true)) := by
  have hlen : (bytes.take limit).length = limit := List.length_take_of_le hlimit
  fun_induction writeFileSubRequests bytes limit off with
  | case1 off h dataEnd hcut =>
    refine ⟨none, rfl, fun _ => ⟨h, ?_⟩, by simp⟩
    rw [writeRecordsInside, if_neg (by omega)]
  | case2 off h dataEnd hcut ih =>
    obtain ⟨rs, hrs, hnone, htake⟩ := ih
    rw [hexAt_of_lt (by omega), hrs]
    have hstep : writeRecordsInside bytes limit off = true ↔
        dataEnd ≤ limit ∧ writeRecordsInside bytes limit dataEnd = true := by
      rw [writeRecordsInside, if_pos ⟨h, by omega⟩, Bool.and_eq_true, decide_eq_true_eq]
    rw [hstep]
    refine ⟨_, rfl, fun hmap => ?_, fun hsome => ?_⟩
    · obtain ⟨hnext, hin⟩ := hnone (Option.map_eq_none_iff.1 hmap)
      exact ⟨h, by omega, hin⟩
    obtain ⟨rs, rfl⟩ := Option.isSome_iff_exists.1 (show rs.isSome by simpa using hsome)
    rw [writeFileSubRequests, if_pos h, u16be_take hlimit (by omega), hlen]
    dsimp only
    split
    · -- the record ends behind the part, which is truncated then
      exact ⟨nofun, fun hin => by omega⟩
    rename_i hin
    have hend : dataEnd ≤ limit := not_lt.1 hin
    rw [← htake rfl, hexAt_take hlimit (by omega), hexAt_of_lt (by omega)]
    simp only [fileReference_take hlimit h, slice_take (not_lt.1 hin), hend, true_and]
    obtain _ | _ | rs' := writeFileSubRequests (bytes.take limit) limit dataEnd
    · exact ⟨nofun, nofun⟩
    · exact ⟨nofun, nofun⟩
    · simp [Bind.bind, Except.bind, Pure.pure, Except.pure, dataEnd]
  | case3 off h =>
    refine ⟨some [], rfl, nofun, fun _ => ?_⟩
    rw [writeFileSubRequests, if_neg h, writeRecordsInside, if_neg fun hin => h hin.1]
    simp

lemma writeFileFields_take_iff {n : ℕ} (hle : 2 + n ≤ bytes.length) :
    ∃ fs, writeFileFields bytes n = .ok fs ∧
      (fs = none → writeRecordsInside bytes (2 + n) 2 = true) ∧
      (fs.isSome → (writeFileFields (bytes.take (2 + n)) n = .ok fs ↔
        writeRecordsInside bytes (2 + n) 2 = true)) := by
  obtain ⟨rs, hrs, hnone, htake⟩ := exists_writeFileSubRequests hle 2
  refine ⟨_, by rw [writeFileFields, hrs]; rfl,
    fun hmap => (hnone (Option.map_eq_none_iff.1 hmap)).2, fun hsome => ?_⟩
  rw [← htake (by simpa using hsome), writeFileFields]
  cases writeFileSubRequests (bytes.take (2 + n)) (2 + n) 2 with
  | error e => exact ⟨nofun, nofun⟩
  | ok rs' =>
    have hinj : Function.Injective fun subReqs : List Record =>
        [numField .requestDataLength n, (.subRequests, .records subReqs)] := by
      intro a b h
      simpa using h
    simpa [Bind.bind, Except.bind, Pure.pure, Except.pure] using (Option.map_injective hinj).eq_iff

/-- The records of a response to FC14 that begin inside of the declared length end inside of it. -/
def readRecordsInside (bytes : Bytes) (limit off : ℕ) : Bool :=
  let recordEnd := off + 1 + (byteAt bytes off).toNat
  if off < limit ∧ off + 1 < bytes.length ∧ recordEnd ≤ bytes.length then
    off + 1 < limit && recordEnd ≤ limit && readRecordsInside bytes limit recordEnd
  else true
termination_by limit - off
decreasing_by omega

lemma exists_readFileSubResponses (hlimit : limit ≤ bytes.length) (off : ℕ) :
    ∃ rs, readFileSubResponses bytes limit off = .ok rs ∧
      (readFileSubResponses (bytes.take limit) limit off = .ok rs ↔
        readRecordsInside bytes limit off = true) := by
  have hlen : (bytes.take limit).length = limit := List.length_take_of_le hlimit
  fun_induction readFileSubResponses bytes limit off with
  | case1 off h fileRespLen hcut =>
    refine ⟨[], rfl, ?_⟩
    rw [readRecordsInside, if_neg (by omega), readFileSubResponses, hlen]
    split
    · rw [byteAt_take h.1, if_pos (by omega)]
      simp
    · simp
  | case2 off h fileRespLen hcut ih =>
    obtain ⟨rs, hrs, htake⟩ := ih
    rw [hexAt_of_lt h.2, hrs]
    refine ⟨_, rfl, ?_⟩
    rw [readRecordsInside, if_pos ⟨h.1, h.2, by omega⟩]
    simp only [Bool.and_eq_true, decide_eq_true_eq]
    rw [readFileSubResponses, hlen, byteAt_take h.1]
    split
    · dsimp only
      split
      · -- the record ends behind the part, where the loop stops
        exact ⟨nofun, fun hin => by omega⟩
      rename_i hone hin
      rw [← htake, hexAt_take hlimit (by omega), hexAt_of_lt h.2, slice_take (by omega)]
      cases readFileSubResponses (bytes.take limit) limit (off + 1 + fileRespLen) with
      | error e => exact ⟨nofun, nofun⟩
      | ok rs' =>
        simp [Bind.bind, Except.bind, Pure.pure, Except.pure, hone.2, not_lt.1 hin, fileRespLen]
    · exact ⟨nofun, fun hin => by omega⟩
  | case3 off h =>
    refine ⟨[], rfl, ?_⟩
    rw [readFileSubResponses, hlen, if_neg (by omega), readRecordsInside, if_neg (by omega)]
    simp

lemma fileResponseFields_take_iff {n : ℕ} (hle : 2 + n ≤ bytes.length) :
    ∃ fs, fileResponseFields bytes n = .ok fs ∧
      (fileResponseFields (bytes.take (2 + n)) n = .ok fs ↔
        readRecordsInside bytes (2 + n) 2 = true) := by
  obtain ⟨rs, hrs, htake⟩ := exists_readFileSubResponses hle 2
  refine ⟨_, by rw [fileResponseFields, hrs]; rfl, ?_⟩
  rw [← htake, fileResponseFields]
  cases readFileSubResponses (bytes.take (2 + n)) (2 + n) 2 with
  | error e => exact ⟨nofun, nofun⟩
  | ok rs' => simp [Bind.bind, Except.bind]

/-- The status of a response to FC0C is inside of the declared length `n`, and so are its two
counters unless they read as 0. -/
def countersInside (bytes : Bytes) (n : ℕ) : Prop :=
  6 ≤ n ∨ 2 ≤ n ∧ (4 ≤ n ∨ u16be bytes 4 = 0) ∧ u16be bytes 6 = 0

lemma eventLogFields_take_iff {n : ℕ} (hle : 2 + n ≤ bytes.length) :
    eventLogFields (bytes.take (2 + n)) n = eventLogFields bytes n ↔
      (2 + n < bytes.length → countersInside bytes n) := by
  have hstatus : hex (slice (bytes.take (2 + n)) 2 4) = hex (slice bytes 2 4) ↔
      2 ≤ n ∨ bytes.length = 2 + n := by
    refine ⟨fun h => ?_, fun h => ?_⟩
    · -- shorter texts belong to fewer bytes
      have hlen := congrArg List.length h
      simp only [slice, length_hex, List.length_drop, List.length_take] at hlen
      omega
    · obtain h | h := h
      · rw [slice_take (by omega)]
      · rw [← h, List.take_length]
  have h4 : bytes.length ≤ 4 + 1 → u16be bytes 4 = 0 := u16be_of_le
  have h6 : bytes.length ≤ 6 + 1 → u16be bytes 6 = 0 := u16be_of_le
  simp only [eventLogFields, hexField, numField, Except.ok.injEq, List.cons.injEq, Prod.mk.injEq,
    Value.scalar.injEq, Scalar.text.injEq, Scalar.num.injEq, true_and, and_true, hstatus,
    u16be_take_iff hle, slice_take le_rfl, countersInside]
  omega

lemma serverIdFields_ne_ok {n : ℕ} {fs : Fields} (h : bytes.length < 4) :
    serverIdFields bytes n ≠ .ok fs := by
  rw [serverIdFields, hexAt_of_le (i := 3) (by omega)]
  cases hexAt bytes 2 <;> nofun

lemma exists_meiObjects (bytes : Bytes) (n off : ℕ) : ∃ rs, meiObjects bytes n off = .ok rs := by
  induction n generalizing off with
  | zero => exact ⟨[], rfl⟩
  | succ n ih =>
    rw [meiObjects]
    split
    · dsimp only
      split
      · exact ⟨[], rfl⟩
      · obtain ⟨rs, hrs⟩ := ih (off + 2 + (byteAt bytes (off + 1)).toNat)
        rw [hexAt_of_lt (by omega), hrs]
        exact ⟨_, rfl⟩
    · exact ⟨[], rfl⟩

lemma exists_meiBytes (fields : List (Field × ℕ)) (hlen : 2 ≤ bytes.length)
    (hfields : ∀ f ∈ fields, f.2 < bytes.length) : ∃ fs, meiBytes bytes fields = .ok fs := by
  have hall (f) (hf : f ∈ (Field.meiType, 1) :: fields) : f.2 < bytes.length := by
    obtain rfl | hf := List.mem_cons.1 hf
    · exact hlen
    · exact hfields f hf
  rw [meiBytes]
  generalize (Field.meiType, 1) :: fields = l at hall
  induction l with
  | nil => exact ⟨[], rfl⟩
  | cons f l ih =>
    obtain ⟨fs, hfs⟩ := ih fun g hg => hall g (List.mem_cons_of_mem _ hg)
    rw [List.mapM_cons, hfs, hexAt_of_lt (hall f List.mem_cons_self)]
    exact ⟨_, rfl⟩

lemma sound_decodeMei {isResponse : Bool} (hne : bytes ≠ []) :
    Sound (decodeMei fc isResponse) bytes t c := by
  have hdata (hlen : 2 ≤ bytes.length) : ∃ fs, meiDataFields bytes = .ok fs := by
    obtain ⟨fs, hfs⟩ := exists_meiBytes [] hlen (by simp)
    exact ⟨_, by rw [meiDataFields, hfs]; rfl⟩
  have hid (hlen : 7 ≤ bytes.length) : ∃ fs, deviceIdFields bytes = .ok fs := by
    obtain ⟨rs, hrs⟩ := exists_meiObjects bytes (byteAt bytes 6).toNat 7
    obtain ⟨fs, hfs⟩ : ∃ fs, meiBytes bytes [(.readDeviceIdCode, 2), (.conformityLevel, 3),
      (.moreFollows, 4), (.nextObjectId, 5)] = .ok fs :=
      exists_meiBytes _ (by omega) (by simp; omega)
    exact ⟨_, by rw [deviceIdFields, hrs, hfs]; rfl⟩
  obtain ⟨q, hq, hraw⟩ : ∃ q, decodeMei fc isResponse bytes = .ok q ∧ q.raw = hex bytes := by
    rw [decodeMei]
    split
    · exact ⟨_, rfl, rfl⟩
    split
    · split
      · exact exists_wholePdu fun hlen => exists_meiBytes _ (by omega) (by simp; omega)
      · exact exists_wholePdu hid
    split
    · exact exists_wholePdu hdata
    · exact exists_wholePdu hdata
  exact .of_whole hne hq hraw

/-! ## Standard PDUs -/

/-- The response of FC11 ends before the two bytes that are read without a check. -/
def Throws : Direction → Bytes → Prop
  | .request, _ => False
  | .response, bytes =>
    byteAt bytes 0 = 0x11 ∧ 2 + (byteAt bytes 1).toNat ≤ bytes.length ∧ bytes.length < 4

/-- No field shows what is behind the length that the PDU declares. -/
def Contained (direction : Direction) (bytes : Bytes) : Prop :=
  let n := (byteAt bytes 1).toNat
  match direction with
  | .request => byteAt bytes 0 = 0x15 → 2 + n ≤ bytes.length →
      writeRecordsInside bytes (2 + n) 2 = true
  | .response => (byteAt bytes 0 = 0x0C → 2 + n < bytes.length → countersInside bytes n) ∧
      (byteAt bytes 0 = 0x11 → 2 + n ≤ bytes.length → 2 ≤ n) ∧
      (byteAt bytes 0 = 0x14 → 2 + n ≤ bytes.length →
        readRecordsInside bytes (2 + n) 2 = true)

lemma Contained.not_throws (h : Contained d bytes) : ¬ Throws d bytes := by
  cases d with
  | request => exact id
  | response =>
    rintro ⟨hfc, hlen, hshort⟩
    have := h.2.1 hfc hlen
    omega

/-! ### Layouts of both directions -/

section Both

variable (hne : bytes ≠ [])

include hne

lemma sound_errorFields : Sound (fixedPdu fc type 2 (errorFields fc)) bytes t c :=
  sound_fixedPdu hne (by omega) fun _ =>
    ⟨_, rfl, by simp (disch := omega) only [errorFields, byteAt_take]⟩

lemma sound_rangeFields : Sound (fixedPdu fc type 5 rangeFields) bytes t c :=
  sound_fixedPdu hne (by omega) fun h =>
    ⟨_, rfl, by simp (disch := omega) only [rangeFields, slice_take, u16be_take]⟩

lemma sound_coilFields : Sound (fixedPdu fc type 5 coilFields) bytes t c :=
  sound_fixedPdu hne (by omega) fun h =>
    ⟨_, rfl, by simp (disch := omega) only [coilFields, coilStateFields, slice_take, u16be_take]⟩

lemma sound_registerFields : Sound (fixedPdu fc type 5 registerFields) bytes t c :=
  sound_fixedPdu hne (by omega) fun h =>
    ⟨_, rfl, by simp (disch := omega) only [registerFields, slice_take, u16be_take]⟩

lemma sound_diagnosticsFields : Sound (fixedPdu fc type 5 diagnosticsFields) bytes t c :=
  sound_fixedPdu hne (by omega) fun _ =>
    ⟨_, rfl, by simp (disch := omega) only [diagnosticsFields, slice_take]⟩

lemma sound_maskWriteFields : Sound (fixedPdu fc type 7 maskWriteFields) bytes t c :=
  sound_fixedPdu hne (by omega) fun _ =>
    ⟨_, rfl, by simp (disch := omega) only [maskWriteFields, slice_take]⟩

lemma sound_countedDataFields : Sound (countedPdu fc type 2 countedDataFields) bytes t c :=
  sound_countedPdu hne (by omega) rfl (fun _ _ => ⟨_, rfl⟩) fun _ _ => by
    simp (disch := omega) only [countedDataFields, slice_take]

lemma sound_openPdu : Sound (openPdu fc type) bytes t c := by
  have hlen := List.length_pos_of_ne_nil hne
  exact .of_whole hne (if_neg (by omega)) rfl

/-! ### Requests -/

lemma sound_readFileFields : Sound (countedPdu fc type 2 readFileFields) bytes t c := by
  refine sound_countedPdu hne (by omega) rfl (fun _ hle => ?_) fun _ hle => ?_
  all_goals obtain ⟨rs, hrs, htake⟩ := exists_readFileSubRequests hle 2
  · exact ⟨_, by rw [readFileFields, hrs]; rfl⟩
  · rw [readFileFields, readFileFields, htake, hrs]

lemma sound_writeFilePdu : Sound (writeFilePdu fc) bytes t
    (2 + (byteAt bytes 1).toNat ≤ bytes.length →
      writeRecordsInside bytes (2 + (byteAt bytes 1).toNat) 2 = true) := by
  refine sound_declaredPdu hne (by omega) (fun _ => by rw [byteAt_take (by omega)])
    (fun _ hle => ?_) fun hin hle fs hfs => ?_
  all_goals obtain ⟨fs', hfs', -, htake⟩ := writeFileFields_take_iff hle
  · exact ⟨fs', hfs'⟩
  · cases hfs.symm.trans hfs'
    exact (htake rfl).2 (hin hle)

lemma sound_requestLayout :
    Sound (requestLayout (byteAt bytes 0)) bytes t (Contained .request bytes) := by
  refine .ite (fun _ => .of_whole hne rfl rfl) fun _ =>
    .ite (fun _ => sound_errorFields hne) fun _ =>
    .ite (fun _ => sound_rangeFields hne) fun _ => .ite (fun _ => sound_coilFields hne) fun _ =>
    .ite (fun _ => sound_registerFields hne) fun _ =>
    .ite (fun _ => sound_fixedPdu hne (by omega) fun _ => ⟨[], rfl, rfl⟩) fun _ =>
    .ite (fun _ => sound_diagnosticsFields hne) fun _ =>
    .ite (fun _ => sound_countedPdu hne (by omega) rfl (fun _ _ => ⟨_, rfl⟩) fun _ h => ?_) fun _ =>
    .ite (fun _ => sound_readFileFields hne) fun _ =>
    .ite (fun hfc => (sound_writeFilePdu hne).mono id fun hc => hc hfc) fun _ =>
    .ite (fun _ => sound_maskWriteFields hne) fun _ =>
    .ite (fun _ => sound_countedPdu hne (by omega) rfl (fun _ _ => ⟨_, rfl⟩) fun _ h => ?_) fun _ =>
    .ite (fun _ => sound_fixedPdu hne (by omega) fun h => ⟨_, rfl, ?_⟩) fun _ =>
    .ite (fun _ => sound_decodeMei hne) fun _ => .ite (fun _ => sound_openPdu hne) fun _ =>
    .ite (fun _ => sound_openPdu hne) fun _ => .of_whole hne rfl rfl
  · simp (disch := omega) only [writeMultipleFields, slice_take, u16be_take]
  · simp (disch := omega) only [readWriteFields, slice_take, u16be_take]
  · simp (disch := omega) only [slice_take]

/-! ### Responses -/

lemma sound_eventLogFields : Sound (countedPdu fc type 2 eventLogFields) bytes t
    (2 + (byteAt bytes 1).toNat < bytes.length → countersInside bytes (byteAt bytes 1).toNat) :=
  sound_countedPdu hne (by omega) rfl (fun _ _ => ⟨_, rfl⟩) fun hc hle =>
    (eventLogFields_take_iff hle).2 hc

lemma sound_serverIdFields : Sound (countedPdu fc type 2 serverIdFields) bytes
    (2 + (byteAt bytes 1).toNat ≤ bytes.length → 4 ≤ bytes.length)
    (2 + (byteAt bytes 1).toNat ≤ bytes.length → 2 ≤ (byteAt bytes 1).toNat) := by
  refine sound_countedPdu (n := (byteAt bytes 1).toNat) hne (by omega) rfl (fun ht hle => ?_)
    fun hc hle => ?_
  · have hlen := ht hle
    exact ⟨_, by rw [serverIdFields, hexAt_of_lt (by omega), hexAt_of_lt (by omega)]; rfl⟩
  · have hn := hc hle
    rw [serverIdFields, hexAt_take hle (by omega), hexAt_take hle (by omega), slice_take le_rfl,
      serverIdFields]

lemma sound_fileResponseFields : Sound (countedPdu fc type 2 fileResponseFields) bytes t
    (2 + (byteAt bytes 1).toNat ≤ bytes.length →
      readRecordsInside bytes (2 + (byteAt bytes 1).toNat) 2 = true) := by
  refine sound_countedPdu hne (by omega) rfl (fun _ hle => ?_) fun hin hle => ?_
  all_goals obtain ⟨fs, hfs, htake⟩ := fileResponseFields_take_iff hle
  · exact ⟨fs, hfs⟩
  · rw [hfs]
    exact htake.2 (hin hle)

lemma sound_fifoPdu : Sound (fifoPdu fc) bytes t c := by
  refine sound_declaredPdu hne (by omega) (fun h => ?_) (fun _ _ => ⟨_, rfl⟩) fun _ h fs hfs => ?_
  · rw [u16be_take h (by omega)]
  · rw [← hfs]
    simp (disch := omega) only [slice_take, u16be_take]

lemma sound_responseLayout : Sound (responseLayout (byteAt bytes 0)) bytes
    (¬ Throws .response bytes) (Contained .response bytes) := by
  refine .ite (fun _ => .of_whole hne rfl rfl) fun _ =>
    .ite (fun _ => sound_errorFields hne) fun _ =>
    .ite (fun _ => sound_countedDataFields hne) fun _ =>
    .ite (fun _ => sound_coilFields hne) fun _ =>
    .ite (fun _ => sound_registerFields hne) fun _ =>
    .ite (fun _ => sound_fixedPdu hne (by omega) fun h => ?_) fun _ =>
    .ite (fun _ => sound_diagnosticsFields hne) fun _ =>
    .ite (fun _ => sound_fixedPdu hne (by omega) fun h => ⟨_, rfl, ?_⟩) fun _ =>
    .ite (fun hfc => (sound_eventLogFields hne).mono id fun hc => hc.1 hfc) fun _ =>
    .ite (fun _ => sound_rangeFields hne) fun _ =>
    .ite (fun hfc => (sound_serverIdFields hne).mono ?_ fun hc => hc.2.1 hfc) fun _ =>
    .ite (fun hfc => (sound_fileResponseFields hne).mono id fun hc => hc.2.2 hfc) fun _ =>
    .ite (fun _ => sound_maskWriteFields hne) fun _ =>
    .ite (fun _ => sound_countedDataFields hne) fun _ => .ite (fun _ => sound_fifoPdu hne) fun _ =>
    .ite (fun _ => sound_decodeMei hne) fun _ => .ite (fun _ => sound_openPdu hne) fun _ =>
    .ite (fun _ => sound_openPdu hne) fun _ => .of_whole hne rfl rfl
  · rw [hexAt_take h (by omega), hexAt_of_lt (by omega)]
    exact ⟨_, rfl, rfl⟩
  · simp (disch := omega) only [eventCounterFields, slice_take, u16be_take]
  · exact fun hthrows hle => not_lt.1 fun hshort => hthrows ⟨hfc, hle, hshort⟩

lemma decodeStdPdu_eq : decodeStdPdu d bytes = layout d (byteAt bytes 0) bytes := by
  obtain ⟨fc, rest, rfl⟩ := List.exists_cons_of_ne_nil hne
  rfl

lemma sound_decodeStdPdu : Sound (decodeStdPdu d) bytes (¬ Throws d bytes) (Contained d bytes) := by
  have hlayout :
      Sound (layout d (byteAt bytes 0)) bytes (¬ Throws d bytes) (Contained d bytes) := by
    cases d with
    | request => exact sound_requestLayout hne
    | response => exact sound_responseLayout hne
  refine ⟨fun ht => ?_, fun q hq => ?_⟩
  · rw [decodeStdPdu_eq hne]
    exact hlayout.total ht
  · rw [decodeStdPdu_eq hne] at hq
    obtain ⟨k, hk, hraw, hown⟩ := hlayout.own q hq
    refine ⟨k, hk, hraw, fun hc p hp => ?_⟩
    rw [decodeStdPdu_eq (by simp [hne, Nat.ne_of_gt hk]), byteAt_take hk]
    exact hown hc p hp

/-! ### Nodes and their own bytes -/

/-- The decoder returns on the bytes, and what its node shows is decoded to that node again. -/
def Own (d : Direction) (bytes : Bytes) : Prop :=
  ∃ q, decodeStdPdu d bytes = .ok q ∧ ∀ p, q = .result p →
    ∃ own, parseHex p.raw = some (numbers own) ∧ decodeStdPdu d own = .ok (.result p)

lemma Contained.own (h : Contained d bytes) : Own d bytes := by
  have hsound := sound_decodeStdPdu (d := d) hne
  obtain ⟨q, hq⟩ := hsound.total h.not_throws
  refine ⟨q, hq, fun p hp => ?_⟩
  obtain ⟨k, hk, hraw, hown⟩ := hsound.own q hq
  subst hp
  exact ⟨bytes.take k, by rw [← parseHex_hex (by simp [hne, Nat.ne_of_gt hk]), ← hraw]; rfl,
    hown h p rfl⟩

lemma Own.declared {n : ℕ} {fields : Bytes → ℕ → Js (Option Fields)} (h : Own d bytes)
    (hn : (byteAt bytes 1).toNat = n) (hle : 2 + n ≤ bytes.length)
    (hlayout : layout d (byteAt bytes 0) =
      declaredPdu fc type 2 (fun bytes => (byteAt bytes 1).toNat) fields) :
    ∃ o, fields bytes n = .ok o ∧
      ∀ fs, o = some fs → fields (bytes.take (2 + n)) n = .ok (some fs) := by
  obtain ⟨q, hq, hown⟩ := h
  have hlen : (bytes.take (2 + n)).length = 2 + n := List.length_take_of_le hle
  rw [decodeStdPdu_eq hne, hlayout, declaredPdu, if_neg (by omega), if_neg (by omega), hn] at hq
  cases ho : fields bytes n with
  | error e =>
    rw [ho] at hq
    cases hq
  | ok o =>
    refine ⟨o, rfl, ?_⟩
    rintro fs rfl
    rw [ho] at hq
    cases hq
    obtain ⟨own, hparse, hdecode⟩ := hown _ rfl
    have hne' : bytes.take (2 + n) ≠ [] := List.ne_nil_of_length_pos (by omega)
    -- the node shows the declared part, and that is what is decoded again
    obtain rfl : own = bytes.take (2 + n) := by
      rw [slice_zero, parseHex_hex hne', Option.some.injEq] at hparse
      exact (numbers_injective hparse).symm
    rw [decodeStdPdu_eq hne', byteAt_take (by omega), hlayout, declaredPdu, hlen,
      if_neg (by omega), byteAt_take (by omega), hn, if_neg (by omega),
      slice_take le_rfl] at hdecode
    cases htake : fields (bytes.take (2 + n)) n with
    | error e =>
      rw [htake] at hdecode
      cases hdecode
    | ok o =>
      rw [htake] at hdecode
      cases o with
      | none => cases hdecode
      | some fs' =>
        cases hdecode
        rfl

lemma Own.counted {n : ℕ} {fields : Bytes → ℕ → Js Fields} (h : Own d bytes)
    (hn : (byteAt bytes 1).toNat = n) (hle : 2 + n ≤ bytes.length)
    (hlayout : layout d (byteAt bytes 0) = countedPdu fc type 2 fields) :
    ∃ fs, fields bytes n = .ok fs ∧ fields (bytes.take (2 + n)) n = .ok fs := by
  obtain ⟨o, ho, htake⟩ := h.declared hne hn hle hlayout
  obtain ⟨fs, hfs, rfl⟩ := exists_of_map_eq_ok ho
  obtain ⟨fs', hfs', heq⟩ := exists_of_map_eq_ok (htake fs rfl)
  cases heq
  exact ⟨fs, hfs, hfs'⟩

lemma own_iff : Own d bytes ↔ Contained d bytes := by
  refine ⟨fun h => ?_, fun h => h.own hne⟩
  cases d with
  | request =>
    intro hfc hle
    obtain ⟨o, ho, htake⟩ := h.declared hne rfl hle (by rw [hfc]; rfl)
    obtain ⟨fs, hfs, hnone, hiff⟩ := writeFileFields_take_iff hle
    cases ho.symm.trans hfs
    cases o with
    | none => exact hnone rfl
    | some fs => exact (hiff rfl).1 (htake fs rfl)
  | response =>
    refine ⟨fun hfc hlt => ?_, fun hfc hle => ?_, fun hfc hle => ?_⟩
    · obtain ⟨fs, hfs, htake⟩ := h.counted hne rfl hlt.le (by rw [hfc]; rfl)
      exact (eventLogFields_take_iff hlt.le).1 (htake.trans hfs.symm) hlt
    · obtain ⟨fs, -, htake⟩ := h.counted hne rfl hle (by rw [hfc]; rfl)
      -- the second of the two bytes is read in the part
      by_contra hn
      exact serverIdFields_ne_ok (by rw [List.length_take_of_le hle]; omega) htake
    · obtain ⟨fs, hfs, htake⟩ := h.counted hne rfl hle (by rw [hfc]; rfl)
      obtain ⟨fs', hfs', hiff⟩ := fileResponseFields_take_iff hle
      cases hfs.symm.trans hfs'
      exact hiff.1 htake

end Both

/-! ## Packets -/

/-- The standard PDU of a Fast Modbus subcommand, and the decoder it has gone through. -/
def FmSubcommand.pdu : FmSubcommand → Option (Direction × Pdu)
  | .commandBySerial _ _ _ pdu => some (.request, pdu)
  | .responseBySerial _ _ _ pdu => some (.response, pdu)
  | _ => none

def FmSubcommand.isScanResponse : FmSubcommand → Bool
  | .scanResponse .. => true
  | _ => false

def FmSubcommand.hasSerial (sub : FmSubcommand) : Bool := sub.isScanResponse || sub.pdu.isSome

/-- The standard PDU of a tree, and the decoder it has gone through. -/
def Decoded.pdu (direction : Direction) : Decoded → Option (Direction × Pdu)
  | .frame { payload := .modbusRtu _ _ pdu, .. } => some (direction, pdu)
  | .frame { payload := .fastModbus _ _ _ payload, .. } => payload.pdu
  | _ => none

/-- The bytes that a Fast Modbus subcommand has for a standard PDU. -/
def fmPdu (bytes : Bytes) : Option (Direction × Bytes) :=
  if bytes.length < 6 then none
  else if byteAt bytes 0 = 0x08 then some (.request, bytes.drop 5)
  else if byteAt bytes 0 = 0x09 then some (.response, bytes.drop 5)
  else none

/-- The bytes that a packet has for a standard PDU. -/
def packetPdu (bytes : Bytes) (direction : Direction) : Option (Direction × Bytes) :=
  if bytes.length < 4 ∨ bytes.all (· == 0xFF) = true then none
  else if isFastModbus (byteAt bytes 0) (byteAt bytes 1) then fmPdu (fmBytes bytes)
  else some (direction, layerBytes bytes)

/-- A subcommand without a standard PDU is returned. It has a serial number only if there are enough
bytes. -/
def IsPlain (bytes : Bytes) (r : Js FmSubcommand) : Prop :=
  ∃ sub, r = .ok sub ∧ sub.pdu = none ∧ sub.raw = hex bytes ∧
    (bytes.length < 6 → sub.hasSerial = false)

lemma IsPlain.ite {p : Prop} [Decidable p] {a b : Js FmSubcommand} (ha : p → IsPlain bytes a)
    (hb : ¬ p → IsPlain bytes b) : IsPlain bytes (if p then a else b) :=
  iteInduction ha hb

lemma isPlain_decodeFastModbusPayload
    (h : bytes.length < 6 ∨ byteAt bytes 0 ≠ 0x08 ∧ byteAt bytes 0 ≠ 0x09) :
    IsPlain bytes (decodeFastModbusPayload bytes) := by
  have hok {sub : FmSubcommand} (hpdu : sub.pdu = none) (hraw : sub.raw = hex bytes)
      (hserial : sub.hasSerial = false) : IsPlain bytes (.ok sub) :=
    ⟨sub, rfl, hpdu, hraw, fun _ => hserial⟩
  refine .ite (fun hnil => hok rfl ?_ rfl) fun _ => .ite (fun _ => hok rfl rfl rfl) fun _ =>
    .ite (fun _ => hok rfl rfl rfl) fun _ =>
    .ite (fun _ => .ite (fun _ => hok rfl rfl rfl) fun hlen => ?_) fun _ =>
    .ite (fun _ => hok rfl rfl rfl) fun _ =>
    .ite (fun hsub => .ite (fun _ => hok rfl rfl rfl) fun hlen => ?_) fun _ =>
    .ite (fun hsub => .ite (fun _ => hok rfl rfl rfl) fun hlen => ?_) fun _ =>
    .ite (fun _ => .ite (fun _ => hok rfl rfl rfl) fun hlen => ?_) fun _ =>
    .ite (fun _ => .ite (fun _ => hok rfl rfl rfl) fun hlen => ?_) fun _ =>
    .ite (fun _ => hok rfl rfl rfl) fun _ =>
    .ite (fun _ => .ite (fun _ => hok rfl rfl rfl) fun hlen => ?_) fun _ => hok rfl rfl rfl
  -- the branches that read single bytes, after a check of the length, and those excluded
  · rw [List.eq_nil_of_length_eq_zero (by omega : bytes.length = 0)]
    rfl
  · rw [hexAt_of_lt (by omega)]
    exact ⟨_, rfl, rfl, rfl, fun hshort => absurd hshort hlen⟩
  · exact absurd hsub (h.resolve_left hlen).1
  · exact absurd hsub (h.resolve_left hlen).2
  · rw [hexAt_of_lt (by omega), hexAt_of_lt (by omega), hexAt_of_lt (by omega),
      hexAt_of_lt (by omega)]
    exact hok rfl rfl rfl
  · rw [hexAt_of_lt (by omega), hexAt_of_lt (by omega), hexAt_of_lt (by omega)]
    exact hok rfl rfl rfl
  · rw [hexAt_of_lt (by omega)]
    exact hok rfl rfl rfl

lemma le_length_of_hasSerial {sub : FmSubcommand} (h : decodeFastModbusPayload bytes = .ok sub)
    (hserial : sub.hasSerial = true) : 6 ≤ bytes.length := by
  by_contra hlen
  obtain ⟨sub', hsub, -, -, hnone⟩ := isPlain_decodeFastModbusPayload (.inl (not_le.1 hlen))
  cases h.symm.trans hsub
  rw [hnone (not_le.1 hlen)] at hserial
  cases hserial

lemma decodeFastModbusPayload_pdu (bytes : Bytes) :
    (fmPdu bytes = none ∧ IsPlain bytes (decodeFastModbusPayload bytes)) ∨
      ∃ d pdu, fmPdu bytes = some (d, pdu) ∧ pdu ≠ [] ∧ ∃ node : Pdu → FmSubcommand,
        decodeFastModbusPayload bytes = node <$> decodeStdPdu d pdu ∧
          ∀ q, (node q).pdu = some (d, q) ∧ (node q).raw = hex bytes := by
  rw [fmPdu]
  split
  · rename_i hlen
    exact .inl ⟨rfl, isPlain_decodeFastModbusPayload (.inl hlen)⟩
  rename_i hlen
  have hne : bytes.drop 5 ≠ [] := by
    rw [Ne, List.drop_eq_nil_iff]
    omega
  split
  · rename_i hsub
    refine .inr ⟨_, _, rfl, hne, fun pdu =>
      .commandBySerial (hex bytes) (hex (slice bytes 1 5)) pdu.fcVal pdu, ?_, fun _ => ⟨rfl, rfl⟩⟩
    simp only [decodeFastModbusPayload, hsub, if_neg hlen,
      if_neg (show ¬ bytes.length < 1 by omega)]
    rfl
  split
  · rename_i hsub
    refine .inr ⟨_, _, rfl, hne, fun pdu =>
      .responseBySerial (hex bytes) (hex (slice bytes 1 5)) pdu.fcVal pdu, ?_, fun _ => ⟨rfl, rfl⟩⟩
    simp only [decodeFastModbusPayload, hsub, if_neg hlen,
      if_neg (show ¬ bytes.length < 1 by omega)]
    rfl
  · rename_i h08 h09
    exact .inl ⟨rfl, isPlain_decodeFastModbusPayload (.inr ⟨h08, h09⟩)⟩

lemma length_layerBytes (bytes : Bytes) : (layerBytes bytes).length = bytes.length - 3 := by
  simp [layerBytes, slice]
  omega

lemma byteAt_layerBytes (hlen : 4 ≤ bytes.length) :
    byteAt (layerBytes bytes) 0 = byteAt bytes 1 := by
  have h : 1 < bytes.length - 2 := by omega
  simp only [layerBytes, slice, byteAt, List.getD_eq_getElem?_getD, List.getElem?_drop,
    List.getElem?_take, if_pos h]

lemma decodePacket_eq (hlen : 4 ≤ bytes.length) (hff : ¬ bytes.all (· == 0xFF) = true) :
    decodePacket bytes direction = if isFastModbus (byteAt bytes 0) (byteAt bytes 1) then
      fmFrame bytes <$> decodeFastModbusPayload (fmBytes bytes)
    else stdFrame bytes (hex [byteAt bytes 1]) <$> decodeStdPdu direction (layerBytes bytes) := by
  have hlayer := length_layerBytes bytes
  rw [decodePacket, if_neg (by omega), if_neg hff, if_neg (by omega), hexAt_of_lt (by omega),
    byteAt_layerBytes hlen]
  rfl

lemma decodePacket_pdu (bytes : Bytes) (direction : Direction) :
    (packetPdu bytes direction = none ∧
      ∃ tree, decodePacket bytes direction = .ok tree ∧ tree.pdu direction = none) ∨
      ∃ d pdu, packetPdu bytes direction = some (d, pdu) ∧ pdu ≠ [] ∧ ∃ node : Pdu → Decoded,
        decodePacket bytes direction = node <$> decodeStdPdu d pdu ∧
          ∀ q, (node q).pdu direction = some (d, q) := by
  by_cases hframe : bytes.length < 4 ∨ bytes.all (· == 0xFF) = true
  · refine .inl ⟨if_pos hframe, ?_⟩
    rw [decodePacket]
    split
    · exact ⟨_, rfl, rfl⟩
    split
    · exact ⟨_, rfl, rfl⟩
    · rename_i hff
      rw [if_pos (hframe.resolve_right hff)]
      exact ⟨_, rfl, rfl⟩
  · rw [packetPdu, if_neg hframe]
    rw [not_or, not_lt] at hframe
    rw [decodePacket_eq hframe.1 hframe.2]
    split
    · obtain ⟨hpdu, sub, hsub, hnone, -⟩ | ⟨d, pdu, hpdu, hne, node, hnode, hpay⟩ :=
        decodeFastModbusPayload_pdu (fmBytes bytes)
      · exact .inl ⟨hpdu, fmFrame bytes sub, by rw [hsub]; rfl, hnone⟩
      · refine .inr ⟨d, pdu, hpdu, hne, fmFrame bytes ∘ node, ?_, fun q => (hpay q).1⟩
        rw [hnode, comp_map]
    · have hlayer := length_layerBytes bytes
      exact .inr ⟨direction, _, rfl, List.ne_nil_of_length_pos (by omega), _, rfl, fun _ => rfl⟩

lemma decodePacket_frame {f : RtuFrame} (h : decodePacket bytes direction = .ok (.frame f)) :
    4 ≤ bytes.length ∧
      ((isFastModbus (byteAt bytes 0) (byteAt bytes 1) = true ∧
        ∃ sub, decodeFastModbusPayload (fmBytes bytes) = .ok sub ∧ fmFrame bytes sub = .frame f) ∨
      (isFastModbus (byteAt bytes 0) (byteAt bytes 1) = false ∧
        ∃ pdu, decodeStdPdu direction (layerBytes bytes) = .ok pdu ∧
          stdFrame bytes (hex [byteAt bytes 1]) pdu = .frame f)) := by
  have hlen : 4 ≤ bytes.length ∧ ¬ bytes.all (· == 0xFF) = true := by
    rw [decodePacket] at h
    split at h
    · cases h
    split at h
    · cases h
    split at h
    · cases h
    · exact ⟨by omega, ‹_›⟩
  refine ⟨hlen.1, ?_⟩
  rw [decodePacket_eq hlen.1 hlen.2] at h
  split at h
  · exact .inl ⟨‹_›, exists_of_map_eq_ok h⟩
  · rename_i hfm
    exact .inr ⟨Bool.eq_false_iff.2 hfm, exists_of_map_eq_ok h⟩

lemma Throws.ne_ok {q : Pdu} (h : Throws d bytes) : decodeStdPdu d bytes ≠ .ok q := by
  cases d with
  | request => exact h.elim
  | response =>
    obtain ⟨hfc, hle, hshort⟩ := h
    intro hq
    rw [decodeStdPdu_eq (List.ne_nil_of_length_pos (by omega)), hfc] at hq
    change countedPdu 0x11 _ 2 serverIdFields bytes = _ at hq
    rw [countedPdu, declaredPdu, if_neg (by omega), if_neg (not_lt.2 hle)] at hq
    cases hfs : serverIdFields bytes (byteAt bytes 1).toNat with
    | error e =>
      rw [hfs] at hq
      cases hq
    | ok fs => exact serverIdFields_ne_ok hshort hfs

lemma exists_decodePacket_iff : (∃ tree, decodePacket bytes direction = .ok tree) ↔
    ∀ d pdu, packetPdu bytes direction = some (d, pdu) → ¬ Throws d pdu := by
  obtain ⟨hpdu, tree, htree, -⟩ | ⟨d, pdu, hpdu, hne, node, hnode, -⟩ :=
    decodePacket_pdu bytes direction
  · simp [hpdu, htree]
  rw [hnode, hpdu]
  constructor
  · rintro ⟨tree, htree⟩ _ _ ⟨⟩ hthrows
    obtain ⟨q, hq, -⟩ := exists_of_map_eq_ok htree
    exact hthrows.ne_ok hq
  · intro h
    obtain ⟨q, hq⟩ := (sound_decodeStdPdu hne).total (h d pdu rfl)
    exact ⟨node q, by rw [hq]; rfl⟩

/-- The packet is decoded, and the bytes that the node of its standard PDU shows are decoded to that
node again, exactly if no field shows what is behind the length that the PDU declares. -/
theorem decodePacket_own_iff (bytes : Bytes) (direction : Direction) :
    (∃ tree, decodePacket bytes direction = .ok tree ∧
      ∀ d p, tree.pdu direction = some (d, .result p) →
        ∃ own, parseHex p.raw = some (numbers own) ∧ decodeStdPdu d own = .ok (.result p)) ↔
      ∀ d pdu, packetPdu bytes direction = some (d, pdu) → Contained d pdu := by
  obtain ⟨hpdu, tree, htree, hnone⟩ | ⟨d, pdu, hpdu, hne, node, hnode, hpay⟩ :=
    decodePacket_pdu bytes direction
  · simp [hpdu, htree, hnone]
  have honly : (∀ d' pdu', packetPdu bytes direction = some (d', pdu') → Contained d' pdu') ↔
      Own d pdu := by
    rw [hpdu, own_iff hne]
    exact ⟨fun h => h d pdu rfl, by rintro h _ _ ⟨⟩; exact h⟩
  rw [honly]
  constructor
  · rintro ⟨tree, htree, hown⟩
    rw [hnode] at htree
    obtain ⟨q, hq, rfl⟩ := exists_of_map_eq_ok htree
    exact ⟨q, hq, fun p hp => hown d p (by rw [hpay, hp])⟩
  · rintro ⟨q, hq, hown⟩
    refine ⟨node q, by rw [hnode, hq]; rfl, fun d' p hp => ?_⟩
    rw [hpay] at hp
    cases hp
    exact hown p rfl

/-- A response of FC11 with no data throws, and the status in a response of FC0C that declares none
comes from behind its end. -/
theorem decodePacket_foreignBytes :
    decodePacket [0x01, 0x11, 0x00, 0x2C, 0x50] .response = .error .typeError ∧
      ∃ tree p, decodePacket [0x01, 0x0C, 0x00, 0xAA, 0xBB, 0x24, 0x43] .response = .ok tree ∧
        tree.pdu .response = some (.response, .result p) ∧
        parseHex p.raw = some (numbers [0x0C, 0x00]) ∧
        decodeStdPdu .response [0x0C, 0x00] ≠ .ok (.result p) := by
  refine ⟨by decide +kernel, _, _, rfl, rfl, ?_, ?_⟩
  · decide +kernel
  · decide +kernel

end WbMge.Decoder
