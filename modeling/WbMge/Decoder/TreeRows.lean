import WbMge.Decoder.OwnBytes

/-!
# Sections of a displayed packet

`packetDecoderUtils.ts` displays a tree as rows and marks the bytes of a row in the packet. The
decoder does not say where a node is: `rawToRange` looks for the hexadecimal text of the node in the
one of the packet, from where the node above begins, and takes the first place at which it occurs.

A tree has no branches, so that its nodes are a list here. Only the section rows are modelled, one
for a node with something to show in it; the rows of the fields, their labels and values are left
out.
-/

namespace WbMge.Decoder

open JsText

/-- The range of `rawToRange`. -/
structure Range where
  start : ℕ
  stop : ℕ
deriving Repr, DecidableEq

def rawToRange (nodeRaw fhex : Text) (parentStart : ℕ) : Range :=
  if nodeRaw.isEmpty then ⟨parentStart, parentStart⟩
  else (indexOf fhex (upper nodeRaw) (parentStart * 2)).elim ⟨parentStart, parentStart⟩ fun idx =>
    if idx % 2 ≠ 0 then ⟨parentStart, parentStart⟩
    else ⟨idx / 2, idx / 2 + (upper nodeRaw).length / 2⟩

/-- Where a node stands in the tree. -/
inductive NodeKind
  | packet
  /-- `modbus_rtu` or `fast_modbus`. -/
  | layer
  /-- The standard PDU of a `modbus_rtu`. -/
  | pdu
  | subcommand
  /-- The standard PDU of a command or response by serial number. -/
  | nestedPdu
deriving Repr, DecidableEq

/-- A node, as far as its section row depends on it. -/
structure Node where
  kind : NodeKind
  raw : Text
  /-- `hasScalars || hasArrays`. -/
  hasContent : Bool
deriving Repr, DecidableEq

/-- These have `type` and `raw` only. -/
def FmSubcommand.hasContent : FmSubcommand → Bool
  | .scanStart _ | .scanContinue _ | .scanEnd _ | .noEvents _ => false
  | _ => true

def Layer.nodes : Layer → List Node
  | .modbusRtu raw _ pdu => [⟨.layer, raw, true⟩, ⟨.pdu, pdu.raw, true⟩]
  | .fastModbus raw _ _ sub =>
    ⟨.layer, raw, true⟩ :: ⟨.subcommand, sub.raw, sub.hasContent⟩ ::
      (sub.pdu.map fun pdu => ⟨.nestedPdu, pdu.2.raw, true⟩).toList

/-- The nodes of a tree, from the top. -/
def Decoded.nodes : Decoded → List Node
  | .frame f => ⟨.packet, f.raw, true⟩ :: f.payload.nodes
  | .arbitration raw => [⟨.packet, raw, false⟩]
  | .error e => [⟨.packet, e.raw, true⟩]

/-- `TreeRow`, of a section. -/
structure SectionRow where
  node : Node
  depth : ℕ
  range : Range
deriving Repr, DecidableEq

def sectionRows (fhex : Text) : ℕ → ℕ → List Node → List SectionRow
  | _, _, [] => []
  | depth, parentStart, node :: below =>
    let range := rawToRange node.raw fhex parentStart
    (if depth = 0 ∨ node.hasContent = true ∨ below ≠ [] then [⟨node, depth, range⟩] else []) ++
      sectionRows fhex (depth + 1) range.start below

/-- The section rows of `flattenNode(tree, 0, fhex, 0)`. -/
def flattenNode (tree : Decoded) (fhex : Text) : List SectionRow := sectionRows fhex 0 0 tree.nodes

/-! ## Places -/

/-- The bytes a node was decoded from, in a frame of `n` bytes. -/
def Node.place (n : ℕ) (node : Node) : Range :=
  match node.kind with
  | .packet => ⟨0, n⟩
  | .layer => ⟨1, n - 2⟩
  | .pdu => ⟨1, 1 + node.raw.length / 2⟩
  | .subcommand => ⟨2, n - 2⟩
  | .nestedPdu => ⟨7, 7 + node.raw.length / 2⟩

/-- Where the node above begins. -/
def NodeKind.parentStart : NodeKind → ℕ
  | .packet | .layer => 0
  | .pdu | .subcommand => 1
  | .nestedPdu => 2

/-- The byte of the last digit of `a` and the first one of `b`. -/
def half (a b : UInt8) : UInt8 := UInt8.ofNat (16 * (a.toNat % 16) + b.toNat / 16)

/-- The bytes that one reads from the second digit on. -/
def offByHalf : Bytes → Bytes
  | a :: b :: bytes => half a b :: offByHalf (b :: bytes)
  | _ => []

/-- The byte of the last digit of `a`, twice. -/
def doubled (a : UInt8) : UInt8 := UInt8.ofNat (17 * (a.toNat % 16))

/-- A run of one byte: that in front of the place, or its last digit twice. -/
def Runs (bytes : Bytes) (place : Range) : Prop :=
  let before := byteAt bytes (place.start - 1)
  (∀ b ∈ slice bytes place.start place.stop, b = before) ∨
    ∀ b ∈ slice bytes place.start place.stop, b = doubled before

/-- The bytes of the node occur from byte `i` on, or half a byte later. -/
def Node.OccursAt (bytes : Bytes) (node : Node) (i : ℕ) : Prop :=
  let part := slice bytes (node.place bytes.length).start (node.place bytes.length).stop
  part <+: bytes.drop i ∨ part <+: offByHalf (bytes.drop i)

/-- The bytes of the node make `rawToRange` miss its place. A layer and a subcommand, which begin
one byte after the node above, must be a run for that. The PDU after a serial number occurs earlier
in the subcommand, maybe half a byte off. -/
def Node.Misplaced (bytes : Bytes) (node : Node) : Prop :=
  match node.kind with
  | .packet | .pdu => False
  | .layer | .subcommand => Runs bytes (node.place bytes.length)
  | .nestedPdu => ∃ i, 2 ≤ i ∧ i < 7 ∧ node.OccursAt bytes i

variable {bytes part rest : Bytes} {raw fhex : Text} {n parentStart : ℕ} {node : Node}

lemma rawToRange_eq_iff {start : ℕ} (hraw : 2 ≤ raw.length) (hupper : upper raw = raw)
    (hle : parentStart ≤ start) (hplace : raw <+: fhex.drop (2 * start)) :
    rawToRange raw fhex parentStart = ⟨start, start + raw.length / 2⟩ ↔
      ∀ i < 2 * start, 2 * parentStart ≤ i → ¬ raw <+: fhex.drop i := by
  have hlen : 2 * start ≤ fhex.length := by
    have := hplace.length_le
    rw [List.length_drop] at this
    omega
  rw [rawToRange, if_neg (by rw [List.isEmpty_iff]; rintro rfl; cases hraw), hupper]
  constructor
  · intro h
    -- an empty range stands for no place
    cases hidx : indexOf fhex raw (parentStart * 2) with
    | none =>
      rw [hidx, Option.elim_none, Range.mk.injEq] at h
      omega
    | some idx =>
      rw [hidx, Option.elim_some] at h
      split at h <;> rw [Range.mk.injEq] at h
      · omega
      · obtain rfl : idx = 2 * start := by omega
        exact fun i hi hs => (indexOf_eq_some_iff.1 hidx).2.2 i hi (by omega)
  · intro hfirst
    have hidx : indexOf fhex raw (parentStart * 2) = some (2 * start) :=
      indexOf_eq_some_iff.2 ⟨⟨by omega, hplace⟩, hlen, fun i hi hs => hfirst i hi (by omega)⟩
    rw [hidx, Option.elim_some, if_neg (by omega), Nat.mul_div_cancel_left _ (by omega)]

/-! ### Occurrences -/

lemma toNat_half (a b : UInt8) : (half a b).toNat = 16 * (a.toNat % 16) + b.toNat / 16 := by
  have hb := b.toNat_lt
  exact UInt8.toNat_ofNat_of_lt' (by simp only [UInt8.size]; omega)

lemma toNat_doubled (a : UInt8) : (doubled a).toNat = 17 * (a.toNat % 16) :=
  UInt8.toNat_ofNat_of_lt' (by simp only [UInt8.size]; omega)

lemma half_eq_iff {a b : UInt8} : b = half a b ↔ b = doubled a := by
  have hb := b.toNat_lt
  rw [← UInt8.toNat_inj, ← UInt8.toNat_inj, toNat_half, toNat_doubled]
  omega

lemma doubled_doubled (a : UInt8) : doubled (doubled a) = doubled a := by
  rw [← UInt8.toNat_inj, toNat_doubled, toNat_doubled]
  omega

lemma hex_isPrefix_drop_one_iff : hex part <+: (hex bytes).drop 1 ↔ part <+: offByHalf bytes := by
  induction part generalizing bytes with
  | nil => simp [hex, toHex, numbers]
  | cons p part ih =>
    have hshort (bytes : Bytes) (hle : bytes.length ≤ 1) :
        ¬ hex (p :: part) <+: (hex bytes).drop 1 := by
      intro h
      have hlen := h.length_le
      rw [List.length_drop, length_hex, length_hex, List.length_cons] at hlen
      omega
    obtain _ | ⟨a, _ | ⟨b, bytes⟩⟩ := bytes
    · exact ⟨fun h => absurd h (hshort [] (by simp)), by simp [offByHalf]⟩
    · exact ⟨fun h => absurd h (hshort [a] (by simp)), by simp [offByHalf]⟩
    · have hhalf : hex [half a b] = [upperDigit (a.toNat % 16), upperDigit (b.toNat / 16)] := by
        have hb := b.toNat_lt
        have hdigits : (16 * (a.toNat % 16) + b.toNat / 16) / 16 = a.toNat % 16 ∧
            (16 * (a.toNat % 16) + b.toNat / 16) % 16 = b.toNat / 16 := by omega
        rw [hex_singleton, toNat_half, hdigits.1, hdigits.2]
      have hdrop : (hex (a :: b :: bytes)).drop 1 =
          hex [half a b] ++ (hex (b :: bytes)).drop 1 := by
        rw [hhalf, hex_cons, hex_cons b, hex_singleton, hex_singleton]
        rfl
      rw [hdrop, hex_cons p, offByHalf, List.cons_prefix_cons, ← ih]
      constructor
      · rintro ⟨t, ht⟩
        rw [List.append_assoc] at ht
        obtain ⟨hp, hpart⟩ := List.append_inj ht (by simp)
        exact ⟨List.singleton_injective (hex_injective hp), t, hpart⟩
      · rintro ⟨rfl, t, ht⟩
        exact ⟨t, by rw [List.append_assoc, ht]⟩

lemma isPrefix_cons_append_iff {a : UInt8} :
    part <+: a :: (part ++ rest) ↔ ∀ b ∈ part, b = a := by
  induction part generalizing a with
  | nil => simp
  | cons b part ih =>
    rw [List.cons_append, List.cons_prefix_cons, List.forall_mem_cons, ih]
    exact and_congr_right fun h => by rw [h]

lemma isPrefix_offByHalf_iff {a : UInt8} :
    part <+: offByHalf (a :: (part ++ rest)) ↔ ∀ b ∈ part, b = doubled a := by
  induction part generalizing a with
  | nil => simp
  | cons b part ih =>
    rw [List.cons_append, offByHalf, List.cons_prefix_cons, List.forall_mem_cons, ih, half_eq_iff]
    exact and_congr_right fun h => by rw [h, doubled_doubled]

/-! ### Nodes -/

/-- The node shows the bytes of its place. -/
structure Node.Placed (bytes : Bytes) (node : Node) : Prop where
  raw : node.raw = hex (slice bytes (node.place bytes.length).start (node.place bytes.length).stop)
  stop : (node.place bytes.length).stop =
    (node.place bytes.length).start + node.raw.length / 2
  parentStart : node.kind.parentStart ≤ (node.place bytes.length).start

lemma drop_eq_slice_append (bytes : Bytes) {i j : ℕ} (h : i ≤ j) :
    bytes.drop i = slice bytes i j ++ bytes.drop j := by
  rw [slice, List.drop_take]
  conv_lhs => rw [← List.take_append_drop (j - i) (bytes.drop i), List.drop_drop]
  rw [Nat.add_sub_cancel' h]

lemma slice_isPrefix (bytes : Bytes) (i j : ℕ) : slice bytes i j <+: bytes.drop i := by
  rw [slice, List.drop_take]
  exact List.take_prefix ..

lemma Node.Placed.rawToRange_eq_iff (h : node.Placed bytes) (hraw : node.raw ≠ []) :
    rawToRange node.raw (hex bytes) node.kind.parentStart = node.place bytes.length ↔
      ∀ i < (node.place bytes.length).start, node.kind.parentStart ≤ i →
        ¬ node.OccursAt bytes i := by
  have hlen : 2 ≤ node.raw.length := by
    have hpos := List.length_pos_of_ne_nil hraw
    rw [h.raw, length_hex] at hpos ⊢
    omega
  have hplace : node.raw <+: (hex bytes).drop (2 * (node.place bytes.length).start) := by
    rw [drop_hex, h.raw, hex_isPrefix_iff]
    exact slice_isPrefix ..
  have hoccurs (i : ℕ) : node.OccursAt bytes i ↔
      node.raw <+: (hex bytes).drop (2 * i) ∨ node.raw <+: (hex bytes).drop (2 * i + 1) := by
    rw [← List.drop_drop, drop_hex, h.raw, hex_isPrefix_iff, hex_isPrefix_drop_one_iff,
      Node.OccursAt]
  have hiff := Decoder.rawToRange_eq_iff hlen (by rw [h.raw, upper_hex]) h.parentStart hplace
  rw [← h.stop] at hiff
  refine hiff.trans ⟨fun hno i hi hp hocc => ?_, fun hno i hi hp hocc => ?_⟩
  · obtain hocc | hocc := (hoccurs i).1 hocc
    · exact hno (2 * i) (by omega) (by omega) hocc
    · exact hno (2 * i + 1) (by omega) (by omega) hocc
  · refine hno (i / 2) (by omega) (by omega) ((hoccurs _).2 ?_)
    obtain hmod | hmod := Nat.mod_two_eq_zero_or_one i
    · exact .inl (by rwa [(by omega : 2 * (i / 2) = i)])
    · exact .inr (by rwa [(by omega : 2 * (i / 2) + 1 = i)])

lemma Node.occursAt_iff_runs {i : ℕ} (hstart : (node.place bytes.length).start = i + 1)
    (hstop : i + 1 ≤ (node.place bytes.length).stop) (hlen : i < bytes.length) :
    node.OccursAt bytes i ↔ Runs bytes (node.place bytes.length) := by
  have hdrop : bytes.drop i = byteAt bytes i ::
      (slice bytes (i + 1) (node.place bytes.length).stop ++
        bytes.drop (node.place bytes.length).stop) := by
    rw [← drop_eq_slice_append bytes hstop, List.drop_eq_getElem_cons hlen, byteAt,
      List.getD_eq_getElem?_getD, List.getElem?_eq_getElem hlen, Option.getD_some]
  rw [Node.OccursAt, Runs, hstart, hdrop, isPrefix_cons_append_iff, isPrefix_offByHalf_iff,
    Nat.add_sub_cancel]

lemma Node.Placed.rawToRange_iff (h : node.Placed bytes) (hraw : node.raw ≠ [])
    (hlen : 4 ≤ bytes.length) :
    rawToRange node.raw (hex bytes) node.kind.parentStart = node.place bytes.length ↔
      ¬ node.Misplaced bytes := by
  rw [h.rawToRange_eq_iff hraw]
  obtain ⟨kind, raw, hasContent⟩ := node
  have hle := h.stop ▸ Nat.le_add_right _ (raw.length / 2)
  cases kind with
  | packet => exact ⟨fun _ => id, fun _ i hi => absurd hi (Nat.not_lt_zero i)⟩
  | layer =>
    change _ ↔ ¬ Runs bytes _
    rw [← occursAt_iff_runs rfl hle (by omega)]
    exact ⟨fun hno => hno 0 Nat.one_pos le_rfl, fun hno i hi _ => Nat.lt_one_iff.1 hi ▸ hno⟩
  | pdu => exact ⟨fun _ => id, fun _ i hi hp => absurd hi (not_lt.2 hp)⟩
  | subcommand =>
    change _ ↔ ¬ Runs bytes _
    rw [← occursAt_iff_runs rfl hle (by omega)]
    refine ⟨fun hno => hno 1 Nat.one_lt_two le_rfl, fun hno i hi hp => ?_⟩
    exact Nat.le_antisymm (Nat.le_of_lt_succ hi) hp ▸ hno
  | nestedPdu =>
    exact ⟨fun hno ⟨i, hp, hi, hocc⟩ => hno i hi hp hocc,
      fun hno i hi hp hocc => hno ⟨i, hp, hi, hocc⟩⟩

/-- The nodes stand below each other: where the search for one begins is where the one above is. -/
def Below (n : ℕ) : ℕ → List Node → Prop
  | _, [] => True
  | parentStart, node :: below => node.kind.parentStart = parentStart ∧
      (below ≠ [] → node.raw ≠ [] ∧ node.hasContent = true) ∧ Below n (node.place n).start below

lemma sectionRows_place_iff {nodes : List Node} (hlen : 4 ≤ bytes.length)
    (hplaced : ∀ node ∈ nodes, node.Placed bytes) {depth : ℕ}
    (hdepth : depth = 0 → 1 < nodes.length)
    (hbelow : Below bytes.length parentStart nodes) :
    (∀ row ∈ sectionRows (hex bytes) depth parentStart nodes, row.node.raw ≠ [] →
      row.range = row.node.place bytes.length) ↔
      ∀ node ∈ nodes, node.hasContent = true → node.raw ≠ [] → ¬ node.Misplaced bytes := by
  induction nodes generalizing depth parentStart with
  | nil => simp [sectionRows]
  | cons node below ih =>
    obtain ⟨rfl, hne, hbelow⟩ := hbelow
    rw [List.forall_mem_cons] at hplaced
    have hshown : (depth = 0 ∨ node.hasContent = true ∨ below ≠ []) ↔ node.hasContent = true := by
      refine ⟨fun h => ?_, fun h => .inr (.inl h)⟩
      obtain h | h | h := h
      · exact (hne (List.ne_nil_of_length_pos (by simpa using hdepth h))).2
      · exact h
      · exact (hne h).2
    rw [sectionRows, List.forall_mem_append, List.forall_mem_cons]
    refine (and_congr_left' ?_).trans (and_congr_right fun hnode => ?_)
    · rw [← imp_congr_right fun _ => imp_congr_right fun hraw =>
        hplaced.1.rawToRange_iff hraw hlen]
      split
      · simp [hshown.1 ‹_›]
      · rename_i h
        simp [mt hshown.2 h]
    · cases below with
      | nil => simp [sectionRows]
      | cons next rest =>
        obtain ⟨hraw, hcontent⟩ := hne (by simp)
        rw [(hplaced.1.rawToRange_iff hraw hlen).2 (hnode hcontent hraw)]
        exact ih hplaced.2 nofun hbelow

/-! ## Frames -/

lemma placed_of_isPrefix {part : Bytes} (hraw : node.raw = hex part)
    (hpart : part <+: bytes.drop (node.place bytes.length).start)
    (hstop : (node.place bytes.length).stop = (node.place bytes.length).start + part.length)
    (hparent : node.kind.parentStart ≤ (node.place bytes.length).start) : node.Placed bytes := by
  refine ⟨?_, ?_, hparent⟩
  · rw [hraw, slice, List.drop_take, hstop, Nat.add_sub_cancel_left,
      ← List.prefix_iff_eq_take.1 hpart]
  · rw [hstop, hraw, length_hex, Nat.mul_div_cancel_left _ (by omega)]

lemma length_fmBytes (bytes : Bytes) : (fmBytes bytes).length = bytes.length - 4 := by
  simp [fmBytes, slice]
  omega

lemma hex_ne_nil (h : 0 < bytes.length) : hex bytes ≠ [] := by
  refine List.ne_nil_of_length_pos ?_
  rw [length_hex]
  omega

lemma placed_packet (bytes : Bytes) : Node.Placed bytes ⟨.packet, hex bytes, true⟩ :=
  placed_of_isPrefix rfl (List.prefix_refl bytes) (Nat.zero_add _).symm le_rfl

lemma placed_layer (hlen : 4 ≤ bytes.length) :
    Node.Placed bytes ⟨.layer, hex (layerBytes bytes), true⟩ := by
  refine placed_of_isPrefix rfl (slice_isPrefix bytes 1 _) ?_ (Nat.zero_le _)
  rw [length_layerBytes]
  change bytes.length - 2 = 1 + (bytes.length - 3)
  omega

lemma placed_subcommand (hlen : 4 ≤ bytes.length) (hasContent : Bool) :
    Node.Placed bytes ⟨.subcommand, hex (fmBytes bytes), hasContent⟩ := by
  refine placed_of_isPrefix rfl (slice_isPrefix bytes 2 _) ?_ (show 1 ≤ 2 by omega)
  rw [length_fmBytes]
  change bytes.length - 2 = 2 + (bytes.length - 4)
  omega

variable {d : Direction} {pdu : Bytes} {q : Pdu}

lemma exists_raw_eq (hne : pdu ≠ []) (h : decodeStdPdu d pdu = .ok q) :
    ∃ k, q.raw = hex (pdu.take k) := by
  obtain ⟨k, -, hraw, -⟩ := (sound_decodeStdPdu hne).own q h
  exact ⟨k, hraw⟩

lemma placed_pdu (hlen : 4 ≤ bytes.length) (h : decodeStdPdu d (layerBytes bytes) = .ok q) :
    Node.Placed bytes ⟨.pdu, q.raw, true⟩ := by
  have hlayer := length_layerBytes bytes
  obtain ⟨k, hraw⟩ := exists_raw_eq (List.ne_nil_of_length_pos (by omega)) h
  have hpart := (List.take_prefix k (layerBytes bytes)).trans (slice_isPrefix bytes 1 _)
  refine placed_of_isPrefix hraw hpart ?_ le_rfl
  rw [Node.place, hraw, length_hex, Nat.mul_div_cancel_left _ (by omega)]

lemma fmPdu_eq_some (h : fmPdu bytes = some (d, pdu)) :
    6 ≤ bytes.length ∧ pdu = bytes.drop 5 := by
  rw [fmPdu] at h
  split at h
  · cases h
  refine ⟨by omega, ?_⟩
  split at h
  · cases h
    rfl
  split at h
  · cases h
    rfl
  · cases h

lemma FmSubcommand.hasContent_of_pdu {sub : FmSubcommand} {pdu : Direction × Pdu}
    (h : sub.pdu = some pdu) : sub.hasContent = true := by
  cases sub <;> first | rfl | cases h

lemma placed_nestedPdu (hne : pdu ≠ []) (hpdu : pdu = (fmBytes bytes).drop 5)
    (h : decodeStdPdu d pdu = .ok q) : Node.Placed bytes ⟨.nestedPdu, q.raw, true⟩ := by
  obtain ⟨k, hraw⟩ := exists_raw_eq hne h
  have hslice : pdu = slice bytes 7 (bytes.length - 2) := by
    rw [hpdu, fmBytes, slice, slice, List.drop_drop]
  refine placed_of_isPrefix hraw ?_ ?_ (show 2 ≤ 7 by omega)
  · rw [hslice]
    exact .trans (List.take_prefix ..) (slice_isPrefix bytes 7 _)
  · rw [Node.place, hraw, length_hex, Nat.mul_div_cancel_left _ (by omega)]

/-- Every section row has the range of its node, unless the bytes of a node with a row make the
search miss it. -/
theorem flattenNode_ranges_iff {bytes : Bytes} {direction : Direction} {f : RtuFrame}
    (h : decodePacket bytes direction = .ok (.frame f)) :
    (∀ row ∈ flattenNode (.frame f) (hex bytes), row.node.raw ≠ [] →
      row.range = row.node.place bytes.length) ↔
      ∀ node ∈ (Decoded.frame f).nodes, node.hasContent = true → node.raw ≠ [] →
        ¬ node.Misplaced bytes := by
  obtain ⟨hlen, hkind⟩ := decodePacket_frame h
  have hpacket : hex bytes ≠ [] ∧ true = true := ⟨hex_ne_nil (by omega), rfl⟩
  have hlayer : hex (layerBytes bytes) ≠ [] ∧ true = true :=
    ⟨hex_ne_nil (by rw [length_layerBytes]; omega), rfl⟩
  obtain ⟨-, sub, hsub, hf⟩ | ⟨-, pdu, hpdu, hf⟩ := hkind
  · have hnodes : (Decoded.frame f).nodes = [⟨.packet, hex bytes, true⟩,
        ⟨.layer, hex (layerBytes bytes), true⟩, ⟨.subcommand, sub.raw, sub.hasContent⟩] ++
          (sub.pdu.map fun pdu => ⟨.nestedPdu, pdu.2.raw, true⟩).toList := by
      rw [← hf]
      rfl
    rw [flattenNode, hnodes]
    obtain ⟨-, sub', hsub', hnone, hraw, -⟩ | ⟨d, pdu, hpdu, hne, mk, hmk, hnode⟩ :=
      decodeFastModbusPayload_pdu (fmBytes bytes)
    · cases hsub.symm.trans hsub'
      rw [hnone, hraw]
      refine sectionRows_place_iff hlen ?_ (by simp)
        ⟨rfl, fun _ => hpacket, rfl, fun _ => hlayer, rfl, by simp, trivial⟩
      simp [placed_packet, placed_layer hlen, placed_subcommand hlen]
    · obtain ⟨q, hq, rfl⟩ := exists_of_map_eq_ok (hmk.symm.trans hsub)
      obtain ⟨h6, hdrop⟩ := fmPdu_eq_some hpdu
      have hcontent := FmSubcommand.hasContent_of_pdu (hnode q).1
      rw [(hnode q).1, (hnode q).2]
      refine sectionRows_place_iff hlen ?_ (by simp) ⟨rfl, fun _ => hpacket, rfl, fun _ => hlayer,
        rfl, fun _ => ⟨hex_ne_nil (by omega), hcontent⟩, rfl, by simp, trivial⟩
      simp [placed_packet, placed_layer hlen, placed_subcommand hlen, placed_nestedPdu hne hdrop hq]
  · have hnodes : (Decoded.frame f).nodes = [⟨.packet, hex bytes, true⟩,
        ⟨.layer, hex (layerBytes bytes), true⟩, ⟨.pdu, pdu.raw, true⟩] := by
      rw [← hf]
      rfl
    rw [flattenNode, hnodes]
    refine sectionRows_place_iff hlen ?_ (by simp)
      ⟨rfl, fun _ => hpacket, rfl, fun _ => hlayer, rfl, by simp, trivial⟩
    simp [placed_packet, placed_layer hlen, placed_pdu hlen hpdu]

/-- A command by serial number, with ranges that are right. -/
theorem flattenNode_ranges_bySerial :
    ∃ f, decodePacket
        [0xFD, 0x46, 0x08, 0x00, 0x01, 0x02, 0x03, 0x06, 0x00, 0x10, 0x00, 0x02, 0xEA, 0x48]
        .request =
        .ok (.frame f) ∧
      ∀ node ∈ (Decoded.frame f).nodes, node.hasContent = true → node.raw ≠ [] → ¬ node.Misplaced
        [0xFD, 0x46, 0x08, 0x00, 0x01, 0x02, 0x03, 0x06, 0x00, 0x10, 0x00, 0x02, 0xEA, 0x48] :=
  ⟨_, rfl, (@flattenNode_ranges_iff _ .request _ rfl).1 (by decide +kernel)⟩

/-- The text of the layer of this packet is found in its address. -/
theorem flattenNode_address :
    ∃ f, decodePacket [0x07, 0x07, 0x42, 0x42] .request = .ok (.frame f) ∧
      (flattenNode (.frame f) (hex [0x07, 0x07, 0x42, 0x42])).map
          (fun row => (row.node.kind, row.range)) =
        [(.packet, ⟨0, 4⟩), (.layer, ⟨0, 1⟩), (.pdu, ⟨0, 1⟩)] :=
  ⟨_, rfl, by decide +kernel⟩

end WbMge.Decoder
