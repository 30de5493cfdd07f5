import WbMge.Sniffer.Model

/-!
# Splitting a gap-less buffer

The model of `stream_splitter.c` and of `sniffer_process`, which splits a received buffer into
frames and hands them to `sniffer_process_frame` one by one. `stream_split` fills up to 16 slots and
leaves what it could not split in the last one; `sniffer_process` goes on with that remainder until
it is a single frame, an arbitration run, or cannot be split. The splitter reads the latched request
to guess the length of the first frame, so each round has a context of its own.

Whatever the buffer holds, nothing of it gets lost (`snifferProcess_covers`). A stream of frames
with one reading only comes out frame by frame, with two exceptions (`snifferProcess_flatten_iff`).
A buffer of up to eight bytes is not split, so two frames of four bytes stay together when they are
all that is left. And the table of lengths goes up to 266 bytes, one more than a frame has.
-/

namespace WbMge.Sniffer

def maxFrames : Nat := 16

def fastMaxFrameLen : Nat := 265

structure StreamFrame where
  data : Bytes
  crcValid : Bool
deriving Repr, DecidableEq

/-! ## Frame lengths -/

def available (buf : Bytes) (len : Nat) : Option Nat :=
  if len ≤ buf.length then some len else none

def fmFixedLen (subcmd : UInt8) : Option Nat :=
  if subcmd = 0x01 ∨ subcmd = 0x02 ∨ subcmd = 0x04 ∨ subcmd = 0x12 then some 5
  else if subcmd = 0x03 then some 10
  else if subcmd = 0x10 then some 9
  else none

/-- The length of a Fast Modbus frame with a count in it: an encapsulated read response, an event
transfer, an event configuration. -/
def fmCountedLen (buf : Bytes) : Option Nat :=
  let subcmd := byteAt buf 2
  if subcmd = 0x09 ∧ 9 ≤ buf.length ∧ 0x01 ≤ byteAt buf 7 ∧ byteAt buf 7 ≤ 0x04 then
    some (11 + (byteAt buf 8).toNat)
  else if subcmd = 0x11 ∧ 6 ≤ buf.length then some (8 + (byteAt buf 5).toNat)
  else if subcmd = 0x18 ∧ 4 ≤ buf.length then some (6 + (byteAt buf 3).toNat)
  else none

def fmExpectedLen (buf : Bytes) : Option Nat :=
  let fc := byteAt buf 1
  if buf.length < 3 then none
  else if fc = 0x46 then ((fmFixedLen (byteAt buf 2)).or (fmCountedLen buf)).bind (available buf)
  else if fc = 0x60 then (fmFixedLen (byteAt buf 2)).bind (available buf)
  else none

def frameExpectedLen (buf : Bytes) (isResponse : Bool) : Option Nat :=
  let fc := byteAt buf 1
  if buf.length < 2 then none
  else if isFmFunction fc then fmExpectedLen buf
  else if fc &&& 0x80 ≠ 0 then available buf 5
  else if fc = 0x01 ∨ fc = 0x02 ∨ fc = 0x03 ∨ fc = 0x04 then
    if !isResponse then available buf 8
    else if buf.length < 3 then none
    else available buf (3 + (byteAt buf 2).toNat + 2)
  else if fc = 0x05 ∨ fc = 0x06 ∨ fc = 0x08 then available buf 8
  else if fc = 0x0F ∨ fc = 0x10 then
    if isResponse then available buf 8
    else if buf.length < 7 then none
    else available buf (7 + (byteAt buf 6).toNat + 2)
  else none

/-- `frame_crc_ok` on the first `len` bytes. -/
def frameCrcOk (buf : Bytes) (len : Nat) : Bool := crcCheck (buf.take len)

def tableLen (rem : Bytes) (isResponse : Bool) : Option Nat :=
  (frameExpectedLen rem isResponse).filter (frameCrcOk rem)

def scanLen (rem : Bytes) : Option Nat :=
  (List.range' 4 (min rem.length fastMaxFrameLen - 3)).find? (frameCrcOk rem)

/-- The length of the frame at the start of the buffer. With `hint` the response is tried first. -/
def frameLen (rem : Bytes) (hint : Bool) : Option Nat :=
  (if hint then tableLen rem true else none).or
    ((tableLen rem false).or ((tableLen rem true).or (scanLen rem)))

/-! ## `stream_split` -/

/-- The loop of `stream_split` with `slots` places left, and the remainder behind it. -/
def splitLoop : (slots : Nat) → (hint : Bool) → Bytes → List StreamFrame
  | 0, _, rem => if rem.isEmpty then [] else [⟨rem, false⟩]
  | slots + 1, hint, rem =>
    if rem.isEmpty then []
    else
      match frameLen rem hint with
      | some len => ⟨rem.take len, true⟩ :: splitLoop slots false (rem.drop len)
      | none =>
        -- a run of 0xFF is arbitration, anything else cannot be split
        if byteAt rem 0 = 0xFF then
          ⟨rem.takeWhile (· == 0xFF), false⟩ :: splitLoop slots false (rem.dropWhile (· == 0xFF))
        else [⟨rem, false⟩]

def streamSplit (contextFc : UInt8) (buf : Bytes) : List StreamFrame :=
  let frames := splitLoop (maxFrames - 1) (contextFc != 0) buf
  if frames.isEmpty then [⟨buf, crcCheck buf⟩] else frames

/-! ## `sniffer_process` -/

def SniffCtx.contextFc (ctx : SniffCtx) : UInt8 := if ctx.reqValid then ctx.reqFc else 0

/-- The buffer may hold several frames: it is too long for the shortest ones, it is not a frame,
and it is not an arbitration run. -/
def needsSplit (buf : Bytes) : Bool := 8 < buf.length && !crcCheck buf && byteAt buf 0 != 0xFF

/-- One round of the loop of `sniffer_process`: the buffers it hands to `sniffer_process_frame`,
and the remainder it goes on with. -/
def splitRound (ctx : SniffCtx) (cur : Bytes) : List Bytes × Option Bytes :=
  let effective := stripArbitration cur
  if needsSplit effective then
    let frames := streamSplit ctx.contextFc effective
    match frames.getLast? with
    | some tail =>
      if frames.length ≤ 1 then ([cur], none)
      else if !tail.crcValid && needsSplit tail.data then
        (frames.dropLast.map (·.data), some tail.data)
      else (frames.map (·.data), none)
    | none => ([cur], none)
  else ([cur], none)

/-! ## What a split is -/

def Delimited (x : Bytes) : Prop := crcCheck x = true ∨ ∀ b ∈ x, b = 0xFF

/-- The slices are not empty, they make up the buffer, and all but the last are delimited. -/
structure IsSplit (slices : List Bytes) (buf : Bytes) : Prop where
  ne_nil : ∀ x ∈ slices, x ≠ []
  flatten : slices.flatten = buf
  delimited : ∀ x ∈ slices.dropLast, Delimited x

variable {buf tail rem cur f : Bytes} {isResponse : Bool} {out rest frames : List Bytes}
  {ctxs : Nat → SniffCtx} {c n limit : Nat}

lemma IsSplit.singleton (h : buf ≠ []) : IsSplit [buf] buf where
  ne_nil x hx := by
    rw [List.mem_singleton.1 hx]
    exact h
  flatten := by simp
  delimited x hx := by simp at hx

lemma IsSplit.cons {x : Bytes} {slices : List Bytes} (hne : x ≠ []) (hx : Delimited x)
    (h : IsSplit slices buf) : IsSplit (x :: slices) (x ++ buf) where
  ne_nil y hy := by
    obtain rfl | hy := List.mem_cons.1 hy
    · exact hne
    · exact h.ne_nil y hy
  flatten := by simp [h.flatten]
  delimited y hy := by
    cases slices with
    | nil => simp at hy
    | cons z slices =>
      rw [List.dropLast_cons_of_ne_nil (by simp)] at hy
      obtain rfl | hy := List.mem_cons.1 hy
      · exact hx
      · exact h.delimited y hy

lemma IsSplit.append {init slices : List Bytes} (h : IsSplit (init ++ [tail]) buf)
    (ht : IsSplit slices tail) : IsSplit (init ++ slices) buf where
  ne_nil x hx := by
    obtain hx | hx := List.mem_append.1 hx
    · exact h.ne_nil x (by simp [hx])
    · exact ht.ne_nil x hx
  flatten := by
    have hflatten := h.flatten
    rw [List.flatten_append, List.flatten_singleton] at hflatten
    rw [List.flatten_append, ht.flatten, hflatten]
  delimited x hx := by
    have hinit : ∀ y ∈ init, Delimited y := fun y hy => h.delimited y (by simpa using hy)
    cases slices with
    | nil => exact hinit x (List.dropLast_subset _ (by simpa using hx))
    | cons z slices =>
      rw [List.dropLast_append_of_ne_nil (by simp)] at hx
      obtain hx | hx := List.mem_append.1 hx
      · exact hinit x hx
      · exact ht.delimited x hx

/-! ## Rounds -/

lemma frameCrcOk_of_tableLen {len : Nat} (h : tableLen rem isResponse = some len) :
    frameCrcOk rem len = true :=
  (Option.filter_eq_some_iff.1 h).2

lemma frameCrcOk_of_frameLen {hint : Bool} {len : Nat} (h : frameLen rem hint = some len) :
    frameCrcOk rem len = true := by
  simp only [frameLen, Option.or_eq_some_iff] at h
  obtain h | ⟨-, h | ⟨-, h | ⟨-, h⟩⟩⟩ := h
  · cases hint with
    | true => exact frameCrcOk_of_tableLen h
    | false => cases h
  · exact frameCrcOk_of_tableLen h
  · exact frameCrcOk_of_tableLen h
  · exact List.find?_some h

lemma takeWhile_ff_ne_nil (hne : rem ≠ []) (hff : byteAt rem 0 = 0xFF) :
    rem.takeWhile (· == 0xFF) ≠ [] := by
  cases rem with
  | nil => exact absurd rfl hne
  | cons b rem =>
    rw [byteAt_cons_zero] at hff
    simp [hff]

lemma isSplit_splitLoop (slots : Nat) (hint : Bool) (hne : rem ≠ []) :
    IsSplit ((splitLoop slots hint rem).map (·.data)) rem := by
  induction slots generalizing hint rem with
  | zero => simpa [splitLoop, hne] using IsSplit.singleton hne
  | succ slots ih =>
    -- what is behind the frame is split, unless nothing is
    have hcons : ∀ x rest, rem = x ++ rest → x ≠ [] → Delimited x →
        IsSplit (x :: (splitLoop slots false rest).map (·.data)) rem := by
      intro x rest hrem hx hdel
      by_cases hrest : rest = []
      · have hempty : splitLoop slots false rest = [] := by cases slots <;> simp [splitLoop, hrest]
        rw [hempty, hrem, hrest, List.append_nil]
        exact .singleton hx
      · rw [hrem]
        exact .cons hx hdel (ih false hrest)
    simp only [splitLoop, List.isEmpty_iff, hne, if_false]
    split
    · -- a frame, at least as long as the CRC check asks for
      rename_i len hlen
      have hcrc := frameCrcOk_of_frameLen hlen
      have hlen4 : 4 ≤ (rem.take len).length := four_le_length_of_crcCheck hcrc
      have htake : rem.take len ≠ [] := List.ne_nil_of_length_pos (by omega)
      exact hcons _ _ (List.take_append_drop len rem).symm htake (.inl hcrc)
    · split
      · rename_i hff
        refine hcons _ _ List.takeWhile_append_dropWhile.symm (takeWhile_ff_ne_nil hne hff)
          (.inr ?_)
        intro b hb
        simpa using List.all_eq_true.1 List.all_takeWhile b hb
      · exact .singleton hne

lemma isSplit_streamSplit (contextFc : UInt8) (hne : buf ≠ []) :
    IsSplit ((streamSplit contextFc buf).map (·.data)) buf := by
  have h := isSplit_splitLoop (maxFrames - 1) (contextFc != 0) hne
  simp only [streamSplit]
  split
  · exact .singleton hne
  · exact h

lemma IsSplit.length_lt {init : List Bytes} (h : IsSplit (init ++ [tail]) buf)
    (hinit : init ≠ []) : tail.length < buf.length := by
  obtain ⟨x, rest, rfl⟩ := List.exists_cons_of_ne_nil hinit
  have hx : x ≠ [] := h.ne_nil x (by simp)
  have hpos := List.length_pos_of_ne_nil hx
  rw [← h.flatten]
  simp only [List.cons_append, List.flatten_cons, List.flatten_append, List.flatten_nil,
    List.length_append]
  omega

lemma stripArbitration_cases (data : Bytes) : stripArbitration data = data ∨
    stripArbitration data = fastModbusTruncateFf data ∧
      isFmFunction (byteAt (stripArbitration data) 1) = true := by
  by_cases hff : data.length = 0 ∨ byteAt data 0 ≠ 0xFF
  · exact .inl (if_pos hff)
  simp only [stripArbitration, if_neg hff]
  split
  · rename_i hfm
    rw [Bool.and_eq_true] at hfm
    exact .inr ⟨rfl, hfm.2⟩
  · exact .inl rfl

lemma exists_stripArbitration (data : Bytes) :
    ∃ run, data = run ++ stripArbitration data ∧ (∀ b ∈ run, b = 0xFF) ∧
      (run ≠ [] → isFmFunction (byteAt (stripArbitration data) 1) = true) := by
  obtain hsame | ⟨hdrop, hfm⟩ := stripArbitration_cases data
  · exact ⟨[], by simp [hsame], by simp, by simp⟩
  · refine ⟨data.takeWhile (· == 0xFF), ?_, fun b hb => ?_, fun _ => hfm⟩
    · rw [hdrop, fastModbusTruncateFf, List.takeWhile_append_dropWhile]
    · simpa using List.all_eq_true.1 List.all_takeWhile b hb

lemma length_stripArbitration_le (data : Bytes) :
    (stripArbitration data).length ≤ data.length := by
  obtain ⟨run, hrun, -⟩ := exists_stripArbitration data
  have hlen := congrArg List.length hrun
  rw [List.length_append] at hlen
  omega

/-- What one round does: it hands the buffer over as it is, or the slices of a split, all of them
or all but a remainder that needs splitting. A run of 0xFF may go first. -/
inductive Round (cur : Bytes) : List Bytes × Option Bytes → Prop
  | whole : Round cur ([cur], none)
  | split {slices} (h : IsSplit slices (stripArbitration cur)) : Round cur (slices, none)
  | remainder {init tail} (h : IsSplit (init ++ [tail]) (stripArbitration cur)) (hinit : init ≠ [])
      (htail : needsSplit tail = true) : Round cur (init, some tail)

lemma Round.of_splitRound (ctx : SniffCtx) (cur : Bytes) : Round cur (splitRound ctx cur) := by
  simp only [splitRound]
  split
  · rename_i hneeds
    have hne : stripArbitration cur ≠ [] := by
      rintro hnil
      simp [hnil, needsSplit] at hneeds
    have hsplit := isSplit_streamSplit ctx.contextFc hne
    rcases List.eq_nil_or_concat (streamSplit ctx.contextFc (stripArbitration cur)) with
      hframes | ⟨init, tail, hframes⟩
    · simp only [hframes, List.getLast?_nil]
      exact .whole
    · rw [List.concat_eq_append] at hframes
      rw [hframes] at hsplit
      simp only [hframes, List.getLast?_append, List.getLast?_singleton, Option.some_or,
        List.dropLast_concat]
      split
      · exact .whole
      rename_i hlen
      have hinit : init ≠ [] := by
        rintro rfl
        simp at hlen
      split
      · rename_i htail
        rw [Bool.and_eq_true] at htail
        rw [List.map_append, List.map_singleton] at hsplit
        exact .remainder hsplit (by simpa using hinit) htail.2
      · exact .split hsplit
  · exact .whole

lemma splitRound_lt {ctx : SniffCtx} (h : splitRound ctx cur = (out, some tail)) :
    tail.length < cur.length := by
  have hround := Round.of_splitRound ctx cur
  rw [h] at hround
  cases hround with
  | remainder hsplit hinit =>
    exact Nat.lt_of_lt_of_le (hsplit.length_lt hinit) (length_stripArbitration_le cur)

/-- The loop of `sniffer_process`. Round `k` finds the context `ctxs k`. The remainder gets shorter
with every round. -/
def snifferLoop (ctxs : Nat → SniffCtx) (cur : Bytes) : List Bytes :=
  match _ : splitRound (ctxs 0) cur with
  | (out, none) => out
  | (out, some tail) => out ++ snifferLoop (fun k => ctxs (k + 1)) tail
termination_by cur.length
decreasing_by exact splitRound_lt ‹_›

/-- The buffers handed to `sniffer_process_frame`. `queue` says that the sniffer has been
initialised. -/
def snifferProcess (queue : Bool) (ctxs : Nat → SniffCtx) (data : Bytes) : List Bytes :=
  if queue && (ctxs 0).reasons != 0 && 4 ≤ data.length then snifferLoop ctxs data else []

lemma snifferLoop_of_none (h : splitRound (ctxs 0) cur = (out, none)) :
    snifferLoop ctxs cur = out := by
  rw [snifferLoop]
  split
  · simp_all
  · simp_all

lemma snifferLoop_of_some (h : splitRound (ctxs 0) cur = (out, some tail)) :
    snifferLoop ctxs cur = out ++ snifferLoop (fun k => ctxs (k + 1)) tail := by
  rw [snifferLoop]
  split
  · simp_all
  · simp_all

lemma snifferProcess_eq {data : Bytes} (hreasons : (ctxs 0).reasons ≠ 0)
    (hlen : 4 ≤ data.length) : snifferProcess true ctxs data = snifferLoop ctxs data := by
  simp [snifferProcess, hreasons, hlen]

/-! ## Nothing is lost -/

lemma needsSplit_iff :
    needsSplit buf = true ↔
    8 < buf.length ∧ crcCheck buf = false ∧ byteAt buf 0 ≠ 0xFF := by
  simp [needsSplit, and_assoc]

lemma isSplit_snifferLoop (ctxs : Nat → SniffCtx) (hne : cur ≠ []) :
    IsSplit (snifferLoop ctxs cur) cur ∨ IsSplit (snifferLoop ctxs cur) (stripArbitration cur) := by
  induction ctxs, cur using snifferLoop.induct with
  | case1 ctxs cur out hr =>
    have hround := Round.of_splitRound (ctxs 0) cur
    rw [snifferLoop_of_none hr]
    rw [hr] at hround
    cases hround with
    | whole => exact .inl (.singleton hne)
    | split hsplit => exact .inr hsplit
  | case2 ctxs cur out tail hr ih =>
    have hround := Round.of_splitRound (ctxs 0) cur
    rw [snifferLoop_of_some hr]
    rw [hr] at hround
    cases hround with
    | remainder hsplit hinit htail =>
      -- a remainder does not start with an arbitration byte, so nothing is stripped from it
      obtain ⟨hlong, -, hff⟩ := needsSplit_iff.1 htail
      have hrest := ih (List.ne_nil_of_length_pos (by omega))
      rw [stripArbitration_of_ne hff, or_self] at hrest
      exact .inr (hsplit.append hrest)

/-- Every byte of a buffer is handed over, in order, except for a run of 0xFF in front of a Fast
Modbus command. Every slice but the last is a frame or a run of 0xFF. -/
theorem snifferProcess_covers {ctxs : Nat → SniffCtx} {data : Bytes}
    (hreasons : (ctxs 0).reasons ≠ 0) (hlen : 4 ≤ data.length) :
    ∃ run rest, data = run ++ rest ∧ (∀ b ∈ run, b = 0xFF) ∧
      (run ≠ [] → isFmFunction (byteAt rest 1) = true) ∧
      IsSplit (snifferProcess true ctxs data) rest := by
  have hne : data ≠ [] := List.ne_nil_of_length_pos (by omega)
  rw [snifferProcess_eq hreasons hlen]
  obtain hsplit | hsplit := isSplit_snifferLoop ctxs hne
  · exact ⟨[], data, rfl, by simp, by simp, hsplit⟩
  · obtain ⟨run, hrun, hff, hfm⟩ := exists_stripArbitration data
    exact ⟨run, stripArbitration data, hrun, hff, hfm, hsplit⟩

def scanBehindArbitration : Bytes :=
  [0xFF, 0xFF, 0xFD, 0x46, 0x01, 0x13, 0x90, 0x05, 0x03, 0x00, 0x00, 0x00, 0x01, 0x85, 0x8E]

theorem snifferProcess_covers_arbitration : 4 ≤ scanBehindArbitration.length ∧
    ∃ run rest, scanBehindArbitration = run ++ rest ∧ (∀ b ∈ run, b = 0xFF) ∧
      (run ≠ [] → isFmFunction (byteAt rest 1) = true) ∧
      IsSplit (snifferProcess true (fun _ => .started reasonDisplay) scanBehindArbitration) rest :=
  ⟨by decide, snifferProcess_covers (by decide) (by decide)⟩

/-! ## Streams that can be read in one way only -/

def isFrame (f : Bytes) : Bool :=
  crcCheck f && 4 ≤ f.length && f.length ≤ fastMaxFrameLen && byteAt f 0 != 0xFF

/-- A stream of frames without gaps that can be read in one way only: where a frame starts, no
length up to `limit` but its own passes the CRC check, and neither do two or more frames in a row
taken as one. -/
def Readable (limit : Nat) : List Bytes → Prop
  | [] => True
  | f :: rest =>
    isFrame f = true ∧
    (∀ n ≤ limit, 4 ≤ n → n ≤ (f :: rest).flatten.length →
      frameCrcOk (f :: rest).flatten n = true → n = f.length) ∧
    (∀ k ≤ rest.length, 0 < k → crcCheck (f :: rest.take k).flatten = false) ∧
    Readable limit rest

instance decidableReadable (limit : Nat) : (frames : List Bytes) → Decidable (Readable limit frames)
  | [] => isTrue trivial
  | _ :: rest =>
    have := decidableReadable limit rest
    inferInstanceAs (Decidable (_ ∧ _ ∧ _ ∧ Readable limit rest))

/-- Two frames of four bytes are all that is left for the last round. -/
def leavesShortPair (frames : List Bytes) : Prop :=
  frames.length % (maxFrames - 1) = 2 ∧ ∀ f ∈ frames.drop (frames.length - 2), f.length = 4

instance (frames : List Bytes) : Decidable (leavesShortPair frames) := by
  unfold leavesShortPair
  infer_instance

/-- The longest length that the table says, for an encapsulated read response. -/
def maxTableLen : Nat := 266

/-- The table says the length that no frame has, and that many bytes pass the CRC check. -/
def overlong (rem : Bytes) : Bool :=
  fmExpectedLen rem == some maxTableLen && frameCrcOk rem maxTableLen

/-- This is so where one of the frames starts. -/
def readsOverlong : List Bytes → Bool
  | [] => false
  | f :: rest => overlong (f :: rest).flatten || readsOverlong rest

def TableLen (buf : Bytes) (n : Nat) : Prop := 4 ≤ n ∧ n ≤ maxTableLen ∧ n ≤ buf.length

lemma tableLen_of_available (h : available buf c = some n) (hlow : 4 ≤ c)
    (hhigh : c ≤ maxTableLen) : TableLen buf n := by
  rw [available] at h
  split at h
  · obtain rfl := Option.some.inj h
    exact ⟨hlow, hhigh, by assumption⟩
  · cases h

lemma fmFixedLen_bounds {subcmd : UInt8} (h : fmFixedLen subcmd = some c) :
    4 ≤ c ∧ c ≤ maxTableLen := by
  have hc : c = 5 ∨ c = 10 ∨ c = 9 := by
    rw [fmFixedLen] at h
    split_ifs at h <;> simp_all
  simp only [maxTableLen]
  omega

lemma fmCountedLen_bounds (h : fmCountedLen buf = some c) : 4 ≤ c ∧ c ≤ maxTableLen := by
  have hc : ∃ b : UInt8, c = 11 + b.toNat ∨ c = 8 + b.toNat ∨ c = 6 + b.toNat := by
    simp only [fmCountedLen] at h
    split_ifs at h
    · exact ⟨byteAt buf 8, .inl (Option.some.inj h).symm⟩
    · exact ⟨byteAt buf 5, .inr (.inl (Option.some.inj h).symm)⟩
    · exact ⟨byteAt buf 3, .inr (.inr (Option.some.inj h).symm)⟩
  obtain ⟨b, hc⟩ := hc
  have hb := b.toNat_lt
  simp only [maxTableLen]
  omega

lemma tableLen_of_fmExpectedLen (h : fmExpectedLen buf = some n) : TableLen buf n := by
  simp only [fmExpectedLen] at h
  split_ifs at h
  · obtain ⟨c, hc, havail⟩ := Option.bind_eq_some_iff.1 h
    obtain hc | ⟨-, hc⟩ := Option.or_eq_some_iff.1 hc
    · exact tableLen_of_available havail (fmFixedLen_bounds hc).1 (fmFixedLen_bounds hc).2
    · exact tableLen_of_available havail (fmCountedLen_bounds hc).1 (fmCountedLen_bounds hc).2
  · obtain ⟨c, hc, havail⟩ := Option.bind_eq_some_iff.1 h
    exact tableLen_of_available havail (fmFixedLen_bounds hc).1 (fmFixedLen_bounds hc).2

lemma tableLen_of_frameExpectedLen (h : frameExpectedLen buf isResponse = some n) :
    TableLen buf n ∧ (n = maxTableLen → fmExpectedLen buf = some n) := by
  have h2 := (byteAt buf 2).toNat_lt
  have h6 := (byteAt buf 6).toNat_lt
  have hother {c : Nat} (hn : available buf c = some n) (hlow : 4 ≤ c) (hhigh : c < maxTableLen) :
      TableLen buf n ∧ (n = maxTableLen → fmExpectedLen buf = some n) := by
    refine ⟨tableLen_of_available hn hlow (by omega), fun hmax => ?_⟩
    rw [available, Option.ite_none_right_eq_some] at hn
    have hc := Option.some.inj hn.2
    omega
  simp only [frameExpectedLen] at h
  split_ifs at h
  · exact ⟨tableLen_of_fmExpectedLen h, fun _ => h⟩
  all_goals exact hother h (by omega) (by simp only [maxTableLen]; omega)

lemma frameExpectedLen_eq (h : fmExpectedLen buf = some n) (isResponse : Bool) :
    frameExpectedLen buf isResponse = some n := by
  have hfm : 3 ≤ buf.length ∧ isFmFunction (byteAt buf 1) = true := by
    simp only [fmExpectedLen] at h
    split_ifs at h with hlen hstd hext
    · exact ⟨by omega, by simp [isFmFunction, hstd]⟩
    · exact ⟨by omega, by simp [isFmFunction, hext]⟩
  rw [frameExpectedLen, if_neg (by omega), if_pos hfm.2, h]

lemma overlong_iff :
    overlong rem = true ↔ fmExpectedLen rem = some maxTableLen ∧
      frameCrcOk rem maxTableLen = true := by
  simp [overlong]

lemma length_of_overlong (h : overlong rem = true) : maxTableLen ≤ rem.length :=
  (tableLen_of_fmExpectedLen (overlong_iff.1 h).1).2.2

lemma frameLen_of_overlong (h : overlong rem = true) (hint : Bool) :
    frameLen rem hint = some maxTableLen := by
  obtain ⟨hlen, hcrc⟩ := overlong_iff.1 h
  have htable (isResponse) : tableLen rem isResponse = some maxTableLen := by
    rw [tableLen, frameExpectedLen_eq hlen, Option.filter_some, if_pos hcrc]
  cases hint <;> simp [frameLen, htable]

lemma Readable.tableLen (h : Readable fastMaxFrameLen (f :: rest))
    (hno : overlong (f :: rest).flatten = false)
    (hn : Sniffer.tableLen (f :: rest).flatten isResponse = some n) : n = f.length := by
  obtain ⟨hexpected, hcrc⟩ := Option.filter_eq_some_iff.1 hn
  obtain ⟨⟨hlow, hhigh, hlen⟩, hfm⟩ := tableLen_of_frameExpectedLen hexpected
  have hmax : n ≠ maxTableLen := by
    rintro rfl
    rw [overlong_iff.2 ⟨hfm rfl, hcrc⟩] at hno
    cases hno
  have hfast : maxTableLen = fastMaxFrameLen + 1 := rfl
  exact h.2.1 n (by omega) hlow hlen hcrc

lemma isFrame_iff :
    isFrame f = true ↔ crcCheck f = true ∧ 4 ≤ f.length ∧
    f.length ≤ fastMaxFrameLen ∧ byteAt f 0 ≠ 0xFF := by
  simp [isFrame, and_assoc]

lemma Readable.scanLen (h : Readable fastMaxFrameLen (f :: rest)) :
    Sniffer.scanLen (f :: rest).flatten = some f.length := by
  obtain ⟨hcrc, hlow, hhigh, -⟩ := isFrame_iff.1 h.1
  have hlen : f.length ≤ (f :: rest).flatten.length := by simp
  -- the scan comes across the frame, and finds nothing else
  have hmem : f.length ∈ List.range' 4 (min (f :: rest).flatten.length fastMaxFrameLen - 3) := by
    simp only [List.mem_range'_1]
    omega
  have hok : frameCrcOk (f :: rest).flatten f.length = true := by
    simp [frameCrcOk, hcrc]
  obtain ⟨n, hn⟩ := Option.isSome_iff_exists.1 (List.find?_isSome.2 ⟨f.length, hmem, hok⟩)
  have hn' := List.mem_of_find?_eq_some hn
  simp only [List.mem_range'_1] at hn'
  have heq := h.2.1 n (by omega) (by omega) (by omega) (List.find?_some hn)
  rw [Sniffer.scanLen, hn, heq]

lemma Readable.frameLen (h : Readable fastMaxFrameLen (f :: rest))
    (hno : overlong (f :: rest).flatten = false) (hint : Bool) :
    Sniffer.frameLen (f :: rest).flatten hint = some f.length := by
  -- each of the tables says the right length or nothing
  have htable : ∀ isResponse,
      (Sniffer.tableLen (f :: rest).flatten isResponse).or (some f.length) = some f.length := by
    intro isResponse
    cases hn : Sniffer.tableLen (f :: rest).flatten isResponse with
    | none => rfl
    | some n => rw [h.tableLen hno hn, Option.some_or]
  rw [Sniffer.frameLen, h.scanLen, htable true, htable false]
  cases hint with
  | false => rfl
  | true => exact htable true

lemma Readable.flatten_ne_nil (h : Readable limit (f :: rest)) : (f :: rest).flatten ≠ [] := by
  have hlen := (isFrame_iff.1 h.1).2.1
  rw [List.flatten_cons]
  exact List.append_ne_nil_of_left_ne_nil (List.ne_nil_of_length_pos (by omega)) _

/-- What `stream_split` makes of the frames it has no slots for. -/
def remainderOf (frames : List Bytes) : List StreamFrame :=
  if frames.isEmpty then [] else [⟨frames.flatten, false⟩]

lemma Readable.length_le_of_mem (h : Readable limit frames) (hf : f ∈ frames) :
    f.length ≤ fastMaxFrameLen := by
  induction frames with
  | nil => cases hf
  | cons g rest ih =>
    obtain rfl | hf := List.mem_cons.1 hf
    · exact (isFrame_iff.1 h.1).2.2.1
    · exact ih h.2.2.2 hf

/-- Where the table says too much, more than a frame is taken, and something is left. -/
lemma Readable.maxTableLen_lt (h : Readable fastMaxFrameLen (f :: rest))
    (ho : overlong (f :: rest).flatten = true) : maxTableLen < (f :: rest).flatten.length := by
  refine Nat.lt_of_le_of_ne (length_of_overlong ho) fun heq => ?_
  have hcrc := (overlong_iff.1 ho).2
  rw [heq, frameCrcOk, List.take_length] at hcrc
  have hjoint := h.2.2.1 rest.length (Nat.le_refl _) (List.length_pos_iff.2 ?_)
  · rw [List.take_length, hcrc] at hjoint
    cases hjoint
  · rintro rfl
    have hlen := (isFrame_iff.1 h.1).2.2.1
    simp only [List.flatten_singleton, maxTableLen, fastMaxFrameLen] at heq hlen
    omega

/-- A slice that is longer than a frame, with others behind it. -/
def HasOverlong (slices : List StreamFrame) : Prop :=
  ∃ x ∈ slices.dropLast, x.data.length = maxTableLen

lemma HasOverlong.cons {slices : List StreamFrame} (h : HasOverlong slices) (x : StreamFrame) :
    HasOverlong (x :: slices) := by
  obtain ⟨y, hy, hlen⟩ := h
  have hne : slices ≠ [] := by
    rintro rfl
    cases hy
  refine ⟨y, ?_, hlen⟩
  rw [List.dropLast_cons_of_ne_nil hne]
  exact List.mem_cons_of_mem x hy

/-- The loop takes one frame for each slot, or the table has said too much on the way. -/
lemma Readable.splitLoop (slots : Nat) (hint : Bool) (h : Readable fastMaxFrameLen frames) :
    readsOverlong frames = true ∧ HasOverlong (Sniffer.splitLoop slots hint frames.flatten) ∨
    readsOverlong frames = readsOverlong (frames.drop slots) ∧
      Sniffer.splitLoop slots hint frames.flatten =
        (frames.take slots).map (⟨·, true⟩) ++ remainderOf (frames.drop slots) := by
  induction slots generalizing hint frames with
  | zero =>
    refine .inr ⟨rfl, ?_⟩
    cases frames with
    | nil => rfl
    | cons f rest =>
      have hne := h.flatten_ne_nil
      simp only [Sniffer.splitLoop, List.isEmpty_iff, hne, if_false]
      rfl
  | succ slots ih =>
    cases frames with
    | nil => exact .inr ⟨rfl, rfl⟩
    | cons f rest =>
      have hne := h.flatten_ne_nil
      rw [readsOverlong]
      cases ho : overlong (f :: rest).flatten with
      | true =>
        have hlt := h.maxTableLen_lt ho
        simp only [Sniffer.splitLoop, List.isEmpty_iff, hne, if_false, frameLen_of_overlong ho]
        refine .inl ⟨rfl, ⟨(f :: rest).flatten.take maxTableLen, true⟩, ?_, ?_⟩
        · have hdrop : (f :: rest).flatten.drop maxTableLen ≠ [] := by
            rw [Ne, List.drop_eq_nil_iff]
            omega
          have hslices := (isSplit_splitLoop slots false hdrop).flatten
          rw [List.dropLast_cons_of_ne_nil]
          · exact List.mem_cons_self
          · intro hnil
            rw [hnil] at hslices
            exact hdrop hslices.symm
        · rw [List.length_take]
          omega
      | false =>
        simp only [Sniffer.splitLoop, List.isEmpty_iff, hne, if_false, h.frameLen ho, Bool.false_or]
        rw [List.flatten_cons, List.take_left, List.drop_left]
        obtain ⟨hreads, hlong⟩ | ⟨hreads, heq⟩ := ih false h.2.2.2
        · exact .inl ⟨hreads, hlong.cons _⟩
        · exact .inr ⟨hreads, by rw [heq]; rfl⟩

lemma Readable.drop (h : Readable limit frames) (n : Nat) : Readable limit (frames.drop n) := by
  induction n generalizing frames with
  | zero => exact h
  | succ n ih =>
    cases frames with
    | nil => exact h
    | cons f rest => exact ih h.2.2.2

lemma Readable.byteAt_zero_ne (h : Readable limit (f :: rest)) :
    byteAt (f :: rest).flatten 0 ≠ 0xFF := by
  obtain ⟨-, hlen, -, hff⟩ := isFrame_iff.1 h.1
  rw [List.flatten_cons, byteAt_append_left (by omega)]
  exact hff

lemma Readable.needsSplit {g : Bytes} (h : Readable limit (f :: g :: rest))
    (hshort : ¬ (rest = [] ∧ f.length = 4 ∧ g.length = 4)) :
    Sniffer.needsSplit (f :: g :: rest).flatten = true := by
  refine needsSplit_iff.2 ⟨?_, ?_, h.byteAt_zero_ne⟩
  · have hf := (isFrame_iff.1 h.1).2.1
    have hg := (isFrame_iff.1 h.2.2.2.1).2.1
    cases rest with
    | nil =>
      simp only [true_and] at hshort
      simp only [List.flatten_cons, List.flatten_nil, List.length_append, List.length_nil]
      omega
    | cons e rest =>
      have he := (isFrame_iff.1 h.2.2.2.2.2.2.1).2.1
      simp only [List.flatten_cons, List.length_append]
      omega
  · have hjoint := h.2.2.1 (g :: rest).length (Nat.le_refl _) (by simp)
    rwa [List.take_length] at hjoint

lemma Readable.streamSplit (h : Readable fastMaxFrameLen (f :: rest)) (contextFc : UInt8) :
    readsOverlong (f :: rest) = true ∧
      HasOverlong (Sniffer.streamSplit contextFc (f :: rest).flatten) ∨
    readsOverlong (f :: rest) = readsOverlong ((f :: rest).drop (maxFrames - 1)) ∧
      Sniffer.streamSplit contextFc (f :: rest).flatten =
        ((f :: rest).take (maxFrames - 1)).map (⟨·, true⟩) ++
          remainderOf ((f :: rest).drop (maxFrames - 1)) := by
  obtain ⟨hreads, hlong⟩ | ⟨hreads, heq⟩ := h.splitLoop (maxFrames - 1) (contextFc != 0)
  · refine .inl ⟨hreads, ?_⟩
    rw [Sniffer.streamSplit, if_neg]
    · exact hlong
    · obtain ⟨x, hx, -⟩ := hlong
      exact fun hnil => List.ne_nil_of_mem (List.dropLast_subset _ hx) (List.isEmpty_iff.1 hnil)
  · refine .inr ⟨hreads, ?_⟩
    simp only [Sniffer.streamSplit, heq]
    rfl

/-- What a round hands over, with the frames that have a slot and those that have none. -/
lemma splitRound_eq {ctx : SniffCtx} (hff : byteAt frames.flatten 0 ≠ 0xFF)
    (hneeds : needsSplit frames.flatten = true) (hlen : 2 ≤ frames.length)
    (hsplit : streamSplit ctx.contextFc frames.flatten =
      (frames.take (maxFrames - 1)).map (⟨·, true⟩) ++ remainderOf (frames.drop (maxFrames - 1))) :
    splitRound ctx frames.flatten =
      if needsSplit (frames.drop (maxFrames - 1)).flatten = true then
        (frames.take (maxFrames - 1), some (frames.drop (maxFrames - 1)).flatten)
      else (frames.take (maxFrames - 1) ++ (remainderOf (frames.drop (maxFrames - 1))).map (·.data),
        none) := by
  have htake : 2 ≤ (frames.take (maxFrames - 1)).length := by
    rw [List.length_take, maxFrames]
    omega
  generalize frames.take (maxFrames - 1) = init, frames.drop (maxFrames - 1) = rest at *
  cases rest with
  | nil =>
    have hne : init ≠ [] := List.ne_nil_of_length_pos (by omega)
    have hlast : (init.map fun f => (⟨f, true⟩ : StreamFrame)).getLast? =
        some ⟨init.getLast hne, true⟩ := by
      rw [List.getLast?_map, List.getLast?_eq_some_getLast hne]
      rfl
    have hempty : needsSplit [] = false := rfl
    have hone : ¬ init.length ≤ 1 := by omega
    simp [splitRound, stripArbitration_of_ne hff, hneeds, hsplit, remainderOf, hlast, hempty, hone,
      Function.comp_def]
  | cons f rest =>
    have hone : ¬ init.length + 1 ≤ 1 := by omega
    simp [splitRound, stripArbitration_of_ne hff, hneeds, hsplit, remainderOf, hone,
      Function.comp_def]

/-- A slice that is not the last one is handed over. -/
lemma mem_splitRound {ctx : SniffCtx} {x : StreamFrame} (hff : byteAt buf 0 ≠ 0xFF)
    (hneeds : needsSplit buf = true) (hx : x ∈ (streamSplit ctx.contextFc buf).dropLast) :
    x.data ∈ (splitRound ctx buf).1 := by
  rcases List.eq_nil_or_concat (streamSplit ctx.contextFc buf) with hnil | ⟨init, tail, hframes⟩
  · rw [hnil] at hx
    cases hx
  rw [List.concat_eq_append] at hframes
  rw [hframes, List.dropLast_concat] at hx
  have hlen : ¬ (init ++ [tail]).length ≤ 1 := by
    have hpos := List.length_pos_of_mem hx
    simp only [List.length_append, List.length_singleton]
    omega
  simp only [splitRound, stripArbitration_of_ne hff, hneeds, if_true, hframes,
    List.getLast?_append, List.getLast?_singleton, Option.some_or, List.dropLast_concat,
    if_neg hlen, List.map_append]
  split
  · exact List.mem_map_of_mem hx
  · exact List.mem_append_left _ (List.mem_map_of_mem hx)

lemma mem_snifferLoop {x : Bytes} (hx : x ∈ (splitRound (ctxs 0) cur).1) :
    x ∈ Sniffer.snifferLoop ctxs cur := by
  rcases hround : splitRound (ctxs 0) cur with ⟨out, _ | tail⟩
  · rwa [snifferLoop_of_none hround, ← show _ = out from congrArg Prod.fst hround]
  · rw [snifferLoop_of_some hround, ← show _ = out from congrArg Prod.fst hround]
    exact List.mem_append_left _ hx

lemma Readable.not_readsOverlong (h : Readable limit frames) (hlen : frames.length ≤ 1) :
    readsOverlong frames = false := by
  match frames with
  | [] => rfl
  | [f] =>
    have hle := (isFrame_iff.1 h.1).2.2.1
    simp only [readsOverlong, Bool.or_false, List.flatten_singleton, Bool.eq_false_iff]
    intro ho
    have hlong := length_of_overlong ho
    simp only [maxTableLen, fastMaxFrameLen] at hlong hle
    omega

/-- A buffer of two frames or more is split, unless they are two of the shortest ones. -/
lemma Readable.needsSplit_iff (h : Readable limit frames) :
    Sniffer.needsSplit frames.flatten = true ↔
      2 ≤ frames.length ∧ ¬ (frames.length = 2 ∧ leavesShortPair frames) := by
  match frames with
  | [] => simp [Sniffer.needsSplit]
  | [f] => simp [Sniffer.needsSplit, (isFrame_iff.1 h.1).1]
  | f :: g :: rest =>
    constructor
    · refine fun hneeds => ⟨by simp, ?_⟩
      rintro ⟨htwo, -, hshort⟩
      obtain rfl : rest = [] := by simpa using htwo
      have hlong := (Sniffer.needsSplit_iff.1 hneeds).1
      have hf := hshort f (by simp)
      have hg := hshort g (by simp)
      simp only [List.flatten_cons, List.flatten_nil, List.length_append, List.length_nil] at hlong
      omega
    · rintro ⟨-, hshort⟩
      refine h.needsSplit ?_
      rintro ⟨rfl, hf, hg⟩
      exact hshort ⟨rfl, rfl, by simp [hf, hg]⟩

lemma Readable.leavesShortPair_drop_iff (h : Readable limit frames)
    (hneeds : Sniffer.needsSplit frames.flatten = true) :
    leavesShortPair (frames.drop (maxFrames - 1)) ↔ leavesShortPair frames := by
  obtain ⟨hlen, hpair⟩ := h.needsSplit_iff.1 hneeds
  by_cases hlt : maxFrames < frames.length
  · have hlast : (frames.drop (maxFrames - 1)).drop ((frames.drop (maxFrames - 1)).length - 2) =
        frames.drop (frames.length - 2) := by
      simp only [List.drop_drop, List.length_drop, maxFrames] at hlt ⊢
      congr 1
      omega
    have hmod : (frames.drop (maxFrames - 1)).length % (maxFrames - 1) =
        frames.length % (maxFrames - 1) := by
      simp only [List.length_drop, maxFrames] at hlt ⊢
      omega
    rw [leavesShortPair, leavesShortPair, hlast, hmod]
  · refine iff_of_false (fun hdrop => ?_) fun hshort => hpair ⟨?_, hshort⟩
    · have hmod := hdrop.1
      simp only [List.length_drop, maxFrames] at hmod hlt
      omega
    · have hmod := hshort.1
      simp only [maxFrames] at hmod hlt
      omega

/-- Frames that are not split any more are handed over as one. -/
lemma Readable.remainderOf_eq_iff (h : Readable limit frames)
    (hneeds : ¬ Sniffer.needsSplit frames.flatten = true) :
    (remainderOf frames).map (·.data) = frames ↔
      ¬ leavesShortPair frames ∧ readsOverlong frames = false := by
  by_cases hlen : frames.length ≤ 1
  · have hshort : ¬ leavesShortPair frames := by
      rintro ⟨hmod, -⟩
      simp only [maxFrames] at hmod
      omega
    refine iff_of_true ?_ ⟨hshort, h.not_readsOverlong hlen⟩
    match frames with
    | [] => rfl
    | [f] => simp [remainderOf]
  · have hpair : frames.length = 2 ∧ leavesShortPair frames := by
      by_contra hnot
      exact hneeds (h.needsSplit_iff.2 ⟨by omega, hnot⟩)
    refine iff_of_false (fun heq => ?_) fun hnot => hnot.1 hpair.2
    have hcount := congrArg List.length heq
    rw [remainderOf, if_neg (by rintro hnil; simp [List.isEmpty_iff.1 hnil] at hlen)] at hcount
    simp only [List.map_singleton, List.length_singleton] at hcount
    omega

lemma Readable.snifferLoop_eq_iff (h : Readable fastMaxFrameLen frames) (hne : frames ≠ [])
    (ctxs : Nat → SniffCtx) : Sniffer.snifferLoop ctxs frames.flatten = frames ↔
      ¬ leavesShortPair frames ∧ readsOverlong frames = false := by
  -- one round at a time; each takes 15 frames off
  induction hn : frames.length using Nat.strongRecOn generalizing frames ctxs with
  | ind n ih =>
    obtain ⟨f, rest, rfl⟩ := List.exists_cons_of_ne_nil hne
    have hff := h.byteAt_zero_ne
    by_cases hneeds : Sniffer.needsSplit (f :: rest).flatten = true
    · obtain ⟨hreads, x, hx, hxlen⟩ | ⟨hreads, hsplit⟩ := h.streamSplit (ctxs 0).contextFc
      · -- a slice is longer than a frame
        have hmem := mem_snifferLoop (mem_splitRound hff hneeds hx)
        refine iff_of_false (fun heq => ?_) fun hnot => by simp [hnot.2] at hreads
        have hle := h.length_le_of_mem (heq ▸ hmem)
        simp only [maxTableLen, fastMaxFrameLen] at hxlen hle
        omega
      · have hround := splitRound_eq hff hneeds (h.needsSplit_iff.1 hneeds).1 hsplit
        have hdrop := h.drop (maxFrames - 1)
        have hinit := List.take_append_drop (maxFrames - 1) (f :: rest)
        have hjoin (more : List Bytes) : (f :: rest).take (maxFrames - 1) ++ more = f :: rest ↔
            more = (f :: rest).drop (maxFrames - 1) := by
          nth_rewrite 2 [← hinit]
          exact List.append_right_inj _
        rw [hreads, ← h.leavesShortPair_drop_iff hneeds]
        by_cases hagain : Sniffer.needsSplit ((f :: rest).drop (maxFrames - 1)).flatten = true
        · have hlen := (hdrop.needsSplit_iff.1 hagain).1
          have hne' : (f :: rest).drop (maxFrames - 1) ≠ [] := List.ne_nil_of_length_pos (by omega)
          have hshorter : ((f :: rest).drop (maxFrames - 1)).length < n := by
            rw [List.length_drop] at hlen ⊢
            simp only [maxFrames] at hlen ⊢
            omega
          rw [if_pos hagain] at hround
          rw [snifferLoop_of_some hround, hjoin]
          exact ih _ hshorter hdrop hne' _ rfl
        · rw [if_neg hagain] at hround
          rw [snifferLoop_of_none hround, hjoin]
          exact hdrop.remainderOf_eq_iff hagain
    · have hround : splitRound (ctxs 0) (f :: rest).flatten =
          ((remainderOf (f :: rest)).map (·.data), none) := by
        simp only [splitRound, stripArbitration_of_ne hff, if_neg hneeds]
        rfl
      rw [snifferLoop_of_none hround]
      exact h.remainderOf_eq_iff hneeds

/-- A stream of frames that can be read in one way only is handed over frame by frame exactly if two
frames of four bytes are not left after full rounds, and the table of lengths does not take a byte
too much where a frame starts. -/
theorem snifferProcess_flatten_iff {ctxs : Nat → SniffCtx} {frames : List Bytes}
    (hreasons : (ctxs 0).reasons ≠ 0) (h : Readable fastMaxFrameLen frames) :
    snifferProcess true ctxs frames.flatten = frames ↔
      ¬ leavesShortPair frames ∧ readsOverlong frames = false := by
  cases frames with
  | nil =>
    have hshort : ¬ leavesShortPair [] := by decide
    exact iff_of_true (by simp [snifferProcess]) ⟨hshort, h.not_readsOverlong (by simp)⟩
  | cons f rest =>
    have hlen := (isFrame_iff.1 h.1).2.1
    have hlen' : 4 ≤ (f :: rest).flatten.length := by
      rw [List.flatten_cons, List.length_append]
      omega
    rw [snifferProcess_eq hreasons hlen', h.snifferLoop_eq_iff (by simp)]

def mixedStream : List Bytes :=
  [[0x05, 0x03, 0x00, 0x00, 0x00, 0x01, 0x85, 0x8E], [0x05, 0x03, 0x02, 0x00, 0x07, 0x08, 0x46],
    [0x05, 0x07, 0x43, 0x22]]

theorem snifferProcess_mixedStream :
    snifferProcess true (fun _ => .started reasonDisplay) mixedStream.flatten = mixedStream := by
  have hreadable : Readable fastMaxFrameLen mixedStream := by decide +kernel
  have hshort : ¬ leavesShortPair mixedStream := by decide +kernel
  exact (snifferProcess_flatten_iff (by decide) hreadable).2 ⟨hshort, by decide +kernel⟩

def shortPair : List Bytes := [[0x05, 0x07, 0x43, 0x22], [0x06, 0x11, 0xC2, 0x1C]]

/-- Two frames of four bytes can be read in one way only, and are handed over as one. -/
theorem snifferProcess_shortPair : Readable fastMaxFrameLen shortPair ∧
    snifferProcess true (fun _ => .started reasonDisplay) shortPair.flatten =
      [[0x05, 0x07, 0x43, 0x22, 0x06, 0x11, 0xC2, 0x1C]] := by
  refine ⟨by decide +kernel, ?_⟩
  rw [snifferProcess_eq (by decide) (by decide)]
  exact snifferLoop_of_none (by decide +kernel)

end WbMge.Sniffer
