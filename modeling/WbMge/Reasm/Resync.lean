import WbMge.Reasm.Stream

/-!
# Resynchronisation

A stream of ADUs that starts with garbage: bytes in front of the first ADU none of which begins a
plausible header. The scan slides over the garbage byte by byte and keeps at most the last seven
bytes when a buffer ends within it (`scan_garbage`), so the positions at which the buffer is filled
are a matter of counting (`fills`).

Once the scan has slid over a byte it does not wait for the rest of a frame. So the first ADU is
lost when the buffer is filled from within the garbage up to somewhere inside that ADU, past its
header, and it is safe otherwise.
-/

namespace WbMge.Reasm

/-! ## Counting fills -/

/-- The turns of the feed loop on `len` received bytes, in positions of the stream, as long as no
frame was found: where a fill of the buffer starts and where it ends. Of the `pos` bytes before, the
last seven at most are still buffered. -/
def fills (pos len : Nat) : List (Nat × Nat) :=
  if _hlen : len = 0 then []
  else
    let chunk := min len (frameMax - min pos 7)
    (pos, pos + chunk) :: fills (pos + chunk) (len - chunk)
termination_by len
decreasing_by
  simp only [frameMax]
  omega

/-- The fills of the buffer by all the chunks. -/
def fillsAll : Nat → List Bytes → List (Nat × Nat)
  | _, [] => []
  | pos, data :: chunks => fills pos data.length ++ fillsAll (pos + data.length) chunks

/-! ## Garbage -/

/-- No offset inside `g` yields a plausible header when `rest` follows. -/
def Headerless (g rest : Bytes) : Prop :=
  ∀ i < g.length, tcpHeaderSize ≤ ((g ++ rest).drop i).length →
    headerOk ((g ++ rest).drop i) = false

lemma Headerless.drop {g rest : Bytes} (h : Headerless g rest) (k : Nat) :
    Headerless (g.drop k) rest := by
  intro i hi hlen
  rw [List.length_drop] at hi
  have hdrop : (g.drop k ++ rest).drop i = (g ++ rest).drop (k + i) := by
    rw [← List.drop_drop, List.drop_append_of_le_length (by omega : k ≤ g.length)]
  rw [hdrop] at hlen ⊢
  exact h (k + i) (by omega) hlen

section Feed

variable {σ : Type*} (onFrame : σ → Int → Bytes → σ × Bool) (sock : Int)

variable {b g t buf : Bytes} {adus : List Bytes} {n pos : Nat}

lemma scan_skip (hlen : tcpHeaderSize ≤ b.length) (hbad : headerOk b = false) (resyncing : Bool)
    (ctx : σ) (accepted : Nat) :
    scan onFrame sock b resyncing ctx accepted =
      scan onFrame sock (b.drop 1) true ctx accepted := by
  rw [scan, dif_neg (Nat.not_lt.2 hlen), dif_neg (by simp [hbad])]

lemma scan_short (hlen : b.length < tcpHeaderSize) (resyncing : Bool) (ctx : σ) (accepted : Nat) :
    scan onFrame sock b resyncing ctx accepted = (b, ctx, accepted) := by
  rw [scan, dif_pos hlen]

lemma Headerless.headerOk_drop {rest : Bytes} (hg : Headerless g rest) (h : b ++ t = g ++ rest)
    {i : Nat} (hi : i < g.length) (hb : i + tcpHeaderSize ≤ b.length) :
    headerOk (b.drop i) = false := by
  have hlen : tcpHeaderSize ≤ (b.drop i).length := by
    rw [List.length_drop]
    omega
  have hdrop : (g ++ rest).drop i = b.drop i ++ t := by
    rw [← h, List.drop_append_of_le_length (by omega)]
  rw [← headerOk_append hlen t, ← hdrop]
  refine hg i hi ?_
  rw [hdrop, List.length_append]
  omega

lemma scan_garbage {rest : Bytes} (hg : Headerless g rest) (h : b ++ t = g ++ rest) {k : Nat}
    (hk : k < g.length) (hb : k + tcpHeaderSize ≤ b.length) (resyncing : Bool) (ctx : σ)
    (accepted : Nat) :
    scan onFrame sock b resyncing ctx accepted =
      scan onFrame sock (b.drop (k + 1)) true ctx accepted := by
  induction k with
  | zero =>
    have hbad := hg.headerOk_drop h hk hb
    rw [List.drop_zero] at hbad
    exact scan_skip onFrame sock (by omega) hbad resyncing ctx accepted
  | succ k ih =>
    -- the byte behind those that were slid over
    have hlen : tcpHeaderSize ≤ (b.drop (k + 1)).length := by
      rw [List.length_drop]
      omega
    rw [ih (by omega) (by omega),
      scan_skip onFrame sock hlen (hg.headerOk_drop h hk hb) true ctx accepted, List.drop_drop]

lemma unfinished_of_length {q : Bytes} (hadus : ∀ adu ∈ adus, IsAdu adu)
    (hq : 0 < q.length ∧ q.length < tcpHeaderSize) (h : q ++ t = adus.flatten) :
    Code.Unfinished aduCode q := by
  cases adus with
  | nil =>
    have hnil : q ++ t = [] := by simpa using h
    simp [(List.append_eq_nil_iff.1 hnil).1] at hq
  | cons adu adus =>
    have hadu : IsAdu adu := hadus adu List.mem_cons_self
    have hlt : q.length < adu.length := lt_of_lt_of_le hq.2 hadu.2.2.1
    refine ⟨adu, hadu, ?_, hlt⟩
    refine List.prefix_of_prefix_length_le ⟨t, h⟩ ?_ hlt.le
    simp

lemma scan_filled {g b t : Bytes} {adus : List Bytes} (hadus : ∀ adu ∈ adus, IsAdu adu)
    (hg : Headerless g adus.flatten) (hne : g ≠ []) (h : b ++ t = g ++ adus.flatten)
    (hcut : g.length + tcpHeaderSize ≤ b.length →
      ∀ adu ∈ adus.head?, g.length + adu.length ≤ b.length) (ctx : σ) (accepted : Nat) :
    (∃ k < g.length, k + min b.length 7 = b.length ∧
      scan onFrame sock b false ctx accepted = (b.drop k, ctx, accepted)) ∨
    ∃ done todo q accepted', adus = done ++ todo ∧ Code.Unfinished aduCode q ∧
      q ++ t = todo.flatten ∧
      scan onFrame sock b false ctx accepted = (q, deliver onFrame sock ctx done, accepted') := by
  have hpos : 0 < g.length := List.length_pos_of_ne_nil hne
  simp only [tcpHeaderSize] at hcut
  by_cases hshort : b.length < 8
  · -- not even one header
    refine Or.inl ⟨0, hpos, by omega, ?_⟩
    rw [List.drop_zero, scan_short onFrame sock hshort]
  by_cases hin : b.length ≤ g.length + 7
  · -- every header of the buffer starts within the garbage
    obtain ⟨k, hk⟩ : ∃ k, b.length = k + 8 := ⟨b.length - 8, by omega⟩
    have hscan := scan_garbage onFrame sock hg h (by omega : k < g.length)
      (by simp only [tcpHeaderSize]; omega) false ctx accepted
    have hseven : (b.drop (k + 1)).length = 7 := by
      rw [List.length_drop]
      omega
    rw [scan_short onFrame sock (hseven.trans_lt (by decide))] at hscan
    rcases Nat.lt_or_ge (k + 1) g.length with hlt | hge
    · exact Or.inl ⟨k + 1, hlt, by omega, hscan⟩
    -- the buffer ends seven bytes into the first ADU
    have hq : b.drop (k + 1) ++ t = adus.flatten := by
      rw [← List.drop_append_of_le_length (by omega), h,
        (by omega : k + 1 = g.length), List.drop_left]
    refine Or.inr ⟨[], adus, b.drop (k + 1), accepted, rfl, ?_, hq, hscan⟩
    exact unfinished_of_length hadus (by simp only [tcpHeaderSize]; omega) hq
  · -- the garbage ends in this buffer, in front of a header
    obtain ⟨k, hk⟩ : ∃ k, g.length = k + 1 := ⟨g.length - 1, by omega⟩
    have hscan := scan_garbage onFrame sock hg h (by omega : k < g.length)
      (by simp only [tcpHeaderSize]; omega) false ctx accepted
    rw [← hk] at hscan
    have hrest : b.drop g.length ++ t = adus.flatten := by
      rw [← List.drop_append_of_le_length (by omega), h, List.drop_left]
    have hlen : (b.drop g.length).length = b.length - g.length := List.length_drop
    cases adus with
    | nil =>
      have hnil : b.drop g.length ++ t = [] := by simpa using hrest
      simp [(List.append_eq_nil_iff.1 hnil).1] at hlen
      omega
    | cons adu adus =>
      -- it is the header of a whole ADU, and from there on the stream is in step
      have hfit := hcut (by omega) adu rfl
      have hadu : IsAdu adu := hadus adu List.mem_cons_self
      obtain ⟨b', hb'⟩ : adu <+: b.drop g.length := by
        refine List.prefix_of_prefix_length_le ?_ (List.prefix_append _ t) (by omega)
        rw [hrest, List.flatten_cons]
        exact List.prefix_append ..
      rw [← hb', scan_adu onFrame sock hadu] at hscan
      have hb't : b' ++ t = adus.flatten ++ [] := by
        rw [← hb', List.flatten_cons, List.append_assoc] at hrest
        rw [List.append_nil]
        exact List.append_cancel_left hrest
      obtain ⟨done, todo, q, rfl, hq, hqt, hscan'⟩ := scan_stream onFrame sock
        (fun a ha => hadus a (List.mem_cons_of_mem adu ha)) unfinished_nil hb't
        (onFrame ctx sock adu).1 (accepted + (onFrame ctx sock adu).2.toNat)
      exact Or.inr ⟨adu :: done, todo, q, _, rfl, hq, by simpa using hqt, hscan.trans hscan'⟩

/-! ## The feed loop -/

/-- The buffer starts with garbage: `g` is left of it, `t` is still to come, and `pos` bytes of the
stream, whose garbage has `n` bytes, were appended so far. -/
structure InGarbage (n pos : Nat) (adus : List Bytes) (g buf t : Bytes) : Prop where
  headerless : Headerless g adus.flatten
  ne_nil : g ≠ []
  stream : buf ++ t = g ++ adus.flatten
  length_buf : buf.length = min pos 7
  position : pos + g.length = n + buf.length

/-- A fill that begins in the garbage and holds the first header holds the first ADU. -/
def NoBadFill (n : Nat) (adus : List Bytes) (fs : List (Nat × Nat)) : Prop :=
  ∀ f ∈ fs, f.1 - 7 < n → ∀ adu ∈ adus.head?, n + tcpHeaderSize ≤ f.2 → n + adu.length ≤ f.2

instance (n : Nat) (adus : List Bytes) (fs : List (Nat × Nat)) :
    Decidable (NoBadFill n adus fs) := by
  unfold NoBadFill
  infer_instance

lemma InGarbage.fits {data : Bytes} (h : InGarbage n pos adus g buf (data ++ t))
    (hdata : data ≠ []) (hfills : NoBadFill n adus (fills pos data.length)) :
    (g.length + tcpHeaderSize ≤ (buf ++ data.take (chunkLen buf data)).length →
      ∀ adu ∈ adus.head?, g.length + adu.length ≤ (buf ++ data.take (chunkLen buf data)).length) ∧
    NoBadFill n adus (fills (pos + chunkLen buf data) (data.drop (chunkLen buf data)).length) := by
  have hpos : 0 < g.length := List.length_pos_of_ne_nil h.ne_nil
  have hlen : 0 < data.length := List.length_pos_of_ne_nil hdata
  have hbuf := h.length_buf
  have hposition := h.position
  -- between the calls at most seven bytes are buffered, which fixes the size of the fill
  have hchunk : min data.length (frameMax - min pos 7) = chunkLen buf data := by
    rw [chunkLen, h.length_buf]
  have hle : chunkLen buf data ≤ data.length := by
    rw [← hchunk]
    exact Nat.min_le_left ..
  rw [fills, dif_neg hlen.ne'] at hfills
  simp only [hchunk] at hfills
  constructor
  · intro hroom adu hadu
    rw [List.length_append, List.length_take, Nat.min_eq_left hle] at hroom ⊢
    have hfit := hfills _ List.mem_cons_self (by omega) adu hadu (by simp only; omega)
    simp only at hfit
    omega
  · rw [List.length_drop]
    exact fun f hf => hfills f (List.mem_cons_of_mem _ hf)

lemma fill_garbage (hadus : ∀ adu ∈ adus, IsAdu adu) {data : Bytes}
    (hbuf : buf.length < frameMax) (h : InGarbage n pos adus g buf (data ++ t))
    (hfills : NoBadFill n adus (fills pos data.length)) (ctx : σ) (accepted : Nat) :
    (∃ g', InGarbage n (pos + data.length) adus g'
        (fill onFrame sock buf hbuf data ctx accepted).1.1 t ∧
      (fill onFrame sock buf hbuf data ctx accepted).2.1 = ctx) ∨
    ∃ done todo, adus = done ++ todo ∧
      Code.Unfinished aduCode (fill onFrame sock buf hbuf data ctx accepted).1.1 ∧
      (fill onFrame sock buf hbuf data ctx accepted).1.1 ++ t = todo.flatten ∧
      (fill onFrame sock buf hbuf data ctx accepted).2.1 = deliver onFrame sock ctx done := by
  fun_induction fill onFrame sock buf hbuf data ctx accepted generalizing g pos with
  | case1 buf hbuf ctx accepted => exact Or.inl ⟨g, by simpa using h, rfl⟩
  | case2 buf hbuf data ctx accepted hdata filled r =>
    rename_i hr ih
    obtain ⟨hcut, hfills'⟩ := h.fits hdata hfills
    have hsplit : filled ++ (data.drop (chunkLen buf data) ++ t) = g ++ adus.flatten := by
      rw [← h.stream, List.append_assoc, ← List.append_assoc (data.take _), List.take_append_drop]
    have hle : chunkLen buf data ≤ data.length := Nat.min_le_left ..
    have hfilled : filled.length = buf.length + chunkLen buf data := by
      rw [List.length_append, List.length_take, Nat.min_eq_left hle]
    rcases scan_filled onFrame sock hadus h.headerless h.ne_nil hsplit hcut ctx accepted with
      ⟨k, hk, hkeep, hscan⟩ | ⟨done, todo, q, accepted', rfl, hq, hqt, hscan⟩
    · -- still within the garbage, of which `k` bytes are gone
      have hr' : r = (filled.drop k, ctx, accepted) := hscan
      have htail : keepTail r.1 = filled.drop k := by
        rw [hr', keepTail, if_neg]
        simp only [List.length_drop, frameMax, beq_iff_eq]
        omega
      have hlen := h.length_buf
      have hpos := h.position
      have h' : InGarbage n (pos + chunkLen buf data) adus (g.drop k) (keepTail r.1)
          (data.drop (chunkLen buf data) ++ t) := by
        rw [htail]
        refine ⟨h.headerless.drop k, ?_, ?_, ?_, ?_⟩
        · rw [Ne, List.drop_eq_nil_iff]
          omega
        · rw [← List.drop_append_of_le_length (by omega), hsplit,
            List.drop_append_of_le_length (by omega)]
        · rw [List.length_drop]
          omega
        · rw [List.length_drop, List.length_drop]
          omega
      have htotal : pos + chunkLen buf data + (data.drop (chunkLen buf data)).length =
          pos + data.length := by
        rw [List.length_drop]
        omega
      have hstep := ih h' hfills'
      rw [htotal] at hstep
      have hctx : r.2.1 = ctx := by rw [hr']
      rcases hstep with ⟨g', hg', hctx'⟩ | ⟨done, todo, rfl, hun, heq, hctx'⟩
      · exact Or.inl ⟨g', hg', hctx'.trans hctx⟩
      · exact Or.inr ⟨done, todo, rfl, hun, heq, hctx'.trans (by rw [hctx])⟩
    · -- in step with the stream: the rest of the loop is that of a well-formed one
      have hr' : r = (q, deliver onFrame sock ctx done, accepted') := hscan
      have htail : keepTail r.1 = q := by rw [hr', keepTail_of_unfinished hq]
      have hctx : r.2.1 = deliver onFrame sock ctx done := by rw [hr']
      have hrest : keepTail r.1 ++ (data.drop (chunkLen buf data) ++ t) = todo.flatten ++ [] := by
        rw [htail, hqt, List.append_nil]
      obtain ⟨done', todo', rfl, hun, heq, hctx'⟩ := fill_stream onFrame sock
        (fun a ha => hadus a (List.mem_append_right done ha)) unfinished_nil
        (length_keepTail_lt hr) (by rwa [htail]) hrest r.2.1 r.2.2
      refine Or.inr ⟨done ++ done', todo', by simp, hun, by simpa using heq, ?_⟩
      rw [hctx', hctx, deliver_append]

/-! ## Whole streams -/

variable {sock}

lemma feedAll_words (hsock : 0 ≤ sock) (chunks : List Bytes) (hadus : ∀ adu ∈ adus, IsAdu adu)
    {r : State} (hcur : r.current sock = some buf) (hun : Code.Unfinished aduCode buf)
    (h : buf ++ chunks.flatten = adus.flatten) (ctx : σ) :
    (feedAll onFrame sock r ctx chunks).2 = deliver onFrame sock ctx adus := by
  obtain ⟨done, todo, q, rfl, hq, hqt, hctx, -⟩ := feedAll_stream onFrame hsock unfinished_nil
    chunks hadus hcur hun (t := []) (by simpa using h) ctx
  -- what is left over is no whole ADU
  have hq' : q = todo.flatten ++ [] := by simpa using hqt
  obtain rfl : todo = [] := Code.Unfinished.words_eq_nil aduCode_initialFree
    (fun a ha => hadus a (List.mem_append_right done ha)) (hq' ▸ hq)
  rw [hctx, List.append_nil]

lemma feedAll_garbage (hsock : 0 ≤ sock) (hadus : ∀ adu ∈ adus, IsAdu adu) (chunks : List Bytes)
    {r : State} (hcur : r.current sock = some buf) (h : InGarbage n pos adus g buf chunks.flatten)
    (hfills : NoBadFill n adus (fillsAll pos chunks)) (ctx : σ) :
    (feedAll onFrame sock r ctx chunks).2 = deliver onFrame sock ctx adus := by
  induction chunks generalizing pos g buf r ctx with
  | nil =>
    -- seven bytes, one of which is garbage, leave no room for an ADU
    have hpos : 0 < g.length := List.length_pos_of_ne_nil h.ne_nil
    have hbuf := h.length_buf
    have hlen := congrArg List.length h.stream
    cases adus with
    | nil => rfl
    | cons adu adus =>
      have hmin := (hadus adu List.mem_cons_self).2.2.1
      simp only [List.flatten_nil, List.flatten_cons, List.length_append, List.length_nil] at hlen
      omega
  | cons data chunks ih =>
    obtain ⟨hbuf, hctx, -, -, hcur'⟩ := State.feed_of_current onFrame hsock hcur data ctx
    rw [List.flatten_cons] at h
    have hfirst : NoBadFill n adus (fills pos data.length) := fun f hf =>
      hfills f (List.mem_append_left _ hf)
    have hlater : NoBadFill n adus (fillsAll (pos + data.length) chunks) := fun f hf =>
      hfills f (List.mem_append_right _ hf)
    rw [feedAll, hctx]
    rcases fill_garbage onFrame sock hadus hbuf h hfirst ctx 0 with
      ⟨g', hg', hctx'⟩ | ⟨done, todo, rfl, hun, heq, hctx'⟩
    · rw [ih hcur' hg' hlater, hctx']
    · rw [feedAll_words onFrame hsock chunks (fun a ha => hadus a (List.mem_append_right done ha))
        hcur' hun heq, hctx', deliver_append]

/-- Resynchronisation: garbage of which no byte begins a plausible header, followed by ADUs, is fed
to a fresh slot in any pieces. If no fill of the buffer that starts with garbage buffered ends
within the first ADU, eight or more bytes into it, every ADU is delivered once and in order. -/
theorem feedAll_resync (hsock : 0 ≤ sock) {r : State} (hfresh : r.current sock = some [])
    {g : Bytes} {adus : List Bytes} (hadus : ∀ adu ∈ adus, IsAdu adu)
    (hg : Headerless g adus.flatten) {chunks : List Bytes}
    (hcut : chunks.flatten = g ++ adus.flatten)
    (hfills : NoBadFill g.length adus (fillsAll 0 chunks)) (ctx : σ) :
    (feedAll onFrame sock r ctx chunks).2 =
      adus.foldl (fun ctx adu => (onFrame ctx sock adu).1) ctx := by
  by_cases hne : g = []
  · subst hne
    exact feedAll_words onFrame hsock chunks hadus hfresh unfinished_nil hcut ctx
  · exact feedAll_garbage onFrame hsock hadus chunks hfresh
      ⟨hg, hne, hcut, rfl, by simp⟩ hfills ctx

/-- Two bytes of garbage and two ADUs: the first buffer ends five bytes into the first ADU, the next
one inside the second. -/
theorem feedAll_resync_twoAdus :
    (feedAll (fun log _ adu => (log ++ [adu], true)) 3 init []
      [[0xFF, 0xFF, 0, 1, 0, 0, 0], [6, 0x11, 3, 0, 0, 0, 1, 0, 2, 0, 0, 0, 2, 0x11], [7]]).2 =
      [[0, 1, 0, 0, 0, 6, 0x11, 3, 0, 0, 0, 1], [0, 2, 0, 0, 0, 2, 0x11, 7]] := by
  have h := feedAll_resync (fun (log : List Bytes) _ adu => (log ++ [adu], true))
    (show (0 : Int) ≤ 3 by decide) (r := init) (by decide +kernel) (g := [0xFF, 0xFF])
    (show ∀ adu ∈ [[0, 1, 0, 0, 0, 6, 0x11, 3, 0, 0, 0, 1], [0, 2, 0, 0, 0, 2, 0x11, 7]], IsAdu adu
      by decide)
    (by unfold Headerless; decide +kernel)
    (show [[0xFF, 0xFF, 0, 1, 0, 0, 0], [6, 0x11, 3, 0, 0, 0, 1, 0, 2, 0, 0, 0, 2, 0x11],
      [7]].flatten = _ from rfl)
    (by decide +kernel) []
  exact h

/-- One byte of garbage in front of an ADU of twelve bytes, received in two parts, the first of
which ends nine bytes into the ADU: nothing is delivered. -/
theorem feedAll_resync_cut :
    let adu : Bytes := [0, 1, 0, 0, 0, 6, 0x11, 3, 0, 0, 0, 1]
    let chunks : List Bytes := [[0xFF, 0, 1, 0, 0, 0, 6, 0x11, 3, 0], [0, 0, 1]]
    IsAdu adu ∧ Headerless [0xFF] adu ∧ chunks.flatten = [0xFF] ++ adu ∧
      (feedAll (fun log _ adu => (log ++ [adu], true)) 3 init [] chunks).2 = ([] : List Bytes) := by
  unfold Headerless
  decide +kernel

end Feed

end WbMge.Reasm
