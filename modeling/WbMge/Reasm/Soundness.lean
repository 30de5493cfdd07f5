import WbMge.Reasm.Stream

/-!
# Reassembling arbitrary bytes

Whatever a client sends and however it is cut into receive buffers, the frames handed to the
callback are ADUs that stand in the stream one behind the other, and what a slot holds is the end of
what was received.

The scan picks ADUs out of the buffer and skips single bytes (`scan_picked`); the buffer-full reset
skips the whole buffer. So a turn of the feed loop moves the reading position forward in the stream
(`fill_picked`).

`scanCounted` and `fillCounted` are the two loops with counters for their turns. Every turn of the
outer loop appends at least one byte, and every turn of the inner loop but the last consumes one.
-/

namespace WbMge.Reasm

section Feed

variable {σ : Type*} (onFrame : σ → Int → Bytes → σ × Bool) (sock : Int)

/-! ## Positions -/

lemma isAdu_take {rest : Bytes} (hok : headerOk rest)
    (hfull : frameTotalLen rest ≤ rest.length) : IsAdu (rest.take (frameTotalLen rest)) := by
  have hmin := le_frameTotalLen_of_headerOk hok
  have hlength : (rest.take (frameTotalLen rest)).length = frameTotalLen rest := by
    rw [List.length_take, Nat.min_eq_left hfull]
  -- the header is within the frame
  have hheader : tcpHeader (rest.take (frameTotalLen rest)) = tcpHeader rest := by
    have happend := tcpHeader_append (hlength.symm ▸ hmin : 8 ≤ (rest.take _).length)
      (rest.drop (frameTotalLen rest))
    rw [List.take_append_drop] at happend
    exact happend.symm
  simp only [headerOk, Bool.and_eq_true, beq_iff_eq, decide_eq_true_eq] at hok
  refine ⟨?_, ?_, ?_, ?_⟩
  · rw [hheader]
    exact hok.1.1
  · rw [hheader, hlength]
    rfl
  · rw [hlength]
    exact hok.1.2
  · rw [hlength]
    exact hok.2

lemma scan_picked (rest : Bytes) (resyncing : Bool) (ctx : σ) (accepted : Nat) :
    ∃ frames, Code.Picked aduCode rest frames (scan onFrame sock rest resyncing ctx accepted).1 ∧
      (scan onFrame sock rest resyncing ctx accepted).2.1 = deliver onFrame sock ctx frames := by
  -- the byte that is slid over in a resync
  have hskip : ∀ {rest t : Bytes} {frames : List Bytes}, ¬ rest.length < tcpHeaderSize →
      Code.Picked aduCode (rest.drop 1) frames t → Code.Picked aduCode rest frames t := by
    intro rest t frames hlen h
    cases rest with
    | nil => simp [tcpHeaderSize] at hlen
    | cons b rest => exact .skip b h
  fun_induction scan onFrame sock rest resyncing ctx accepted with
  | case1 rest | case3 rest => exact ⟨[], .nil rest, rfl⟩
  | case2 rest ctx accepted hlen _ _ ih | case5 rest resyncing ctx accepted hlen _ ih =>
    obtain ⟨frames, hpicked, hctx⟩ := ih
    exact ⟨frames, hskip hlen hpicked, hctx⟩
  | case4 rest resyncing ctx accepted hlen hok hfull r ih =>
    obtain ⟨frames, hpicked, hctx⟩ := ih
    have hadu := isAdu_take hok (Nat.not_lt.1 hfull)
    refine ⟨rest.take (frameTotalLen rest) :: frames, ?_, hctx⟩
    have hword := Code.Picked.word (C := aduCode) hadu hpicked
    rwa [List.take_append_drop] at hword

lemma keepTail_picked (tail : Bytes) : Code.Picked aduCode tail [] (keepTail tail) := by
  rw [keepTail]
  split
  · exact .skip_all tail
  · exact .nil tail

variable {buf : Bytes}

/-- The feed loop picks ADUs out of the buffer and the received bytes behind it. The induction is on
the bytes still to be appended. -/
lemma fill_picked (hbuf : buf.length < frameMax) (data : Bytes) (ctx : σ) (accepted : Nat) :
    ∃ frames, Code.Picked aduCode (buf ++ data) frames
        (fill onFrame sock buf hbuf data ctx accepted).1.1 ∧
      (fill onFrame sock buf hbuf data ctx accepted).2.1 = deliver onFrame sock ctx frames := by
  fun_induction fill onFrame sock buf hbuf data ctx accepted with
  | case1 buf hbuf ctx accepted =>
    rw [List.append_nil]
    exact ⟨[], .nil buf, rfl⟩
  | case2 buf hbuf data ctx accepted _ filled r hr ih =>
    obtain ⟨frames, hscan, hctx⟩ := scan_picked onFrame sock filled false ctx accepted
    obtain ⟨frames', hrest, hctx'⟩ := ih
    refine ⟨frames ++ frames', ?_, ?_⟩
    · -- what is not appended yet stands behind what is
      have hsplit : buf ++ data = filled ++ data.drop (chunkLen buf data) := by
        rw [List.append_assoc, List.take_append_drop]
      have hturn := (hscan.trans (keepTail_picked r.1)).append_right
        (data.drop (chunkLen buf data))
      rw [hsplit]
      rw [List.append_nil] at hturn
      exact hturn.trans hrest
    · rw [hctx', deliver_append, ← hctx]

/-! ## Turns of the loops -/

/-- `scan` with the number of turns of the inner loop. -/
def scanCounted (rest : Bytes) (resyncing : Bool) (ctx : σ) (accepted : Nat) :
    (Bytes × σ × Nat) × Nat :=
  if _hlen : rest.length < tcpHeaderSize then ((rest, ctx, accepted), 0)
  else if _hok : headerOk rest then
    if rest.length < frameTotalLen rest then
      if resyncing then
        let r := scanCounted (rest.drop 1) true ctx accepted
        (r.1, r.2 + 1)
      else ((rest, ctx, accepted), 1)
    else
      let f := onFrame ctx sock (rest.take (frameTotalLen rest))
      let r := scanCounted (rest.drop (frameTotalLen rest)) false f.1 (accepted + f.2.toNat)
      (r.1, r.2 + 1)
  else
    let r := scanCounted (rest.drop 1) true ctx accepted
    (r.1, r.2 + 1)
termination_by rest.length
decreasing_by
  all_goals
    simp only [tcpHeaderSize, List.length_drop] at _hlen ⊢
    have hpos := le_frameTotalLen_of_headerOk (h := rest)
    simp only [tcpHeaderSize] at hpos
    grind

lemma scanCounted_fst (rest : Bytes) (resyncing : Bool) (ctx : σ) (accepted : Nat) :
    (scanCounted onFrame sock rest resyncing ctx accepted).1 =
      scan onFrame sock rest resyncing ctx accepted := by
  fun_induction scan onFrame sock rest resyncing ctx accepted with
  | case1 rest resyncing ctx accepted hlen => rw [scanCounted, dif_pos hlen]
  | case2 rest ctx accepted hlen hok hpart ih =>
    rw [scanCounted, dif_neg hlen, dif_pos hok, if_pos hpart, if_pos rfl]
    exact ih
  | case3 rest resyncing ctx accepted hlen hok hpart hsync =>
    rw [scanCounted, dif_neg hlen, dif_pos hok, if_pos hpart, if_neg hsync]
  | case4 rest resyncing ctx accepted hlen hok hfull r ih =>
    rw [scanCounted, dif_neg hlen, dif_pos hok, if_neg hfull]
    exact ih
  | case5 rest resyncing ctx accepted hlen hok ih =>
    rw [scanCounted, dif_neg hlen, dif_neg hok]
    exact ih

lemma scanCounted_le (rest : Bytes) (resyncing : Bool) (ctx : σ) (accepted : Nat) :
    (scanCounted onFrame sock rest resyncing ctx accepted).2 +
      (scanCounted onFrame sock rest resyncing ctx accepted).1.1.length ≤ rest.length + 1 := by
  fun_induction scanCounted onFrame sock rest resyncing ctx accepted with
  | case1 rest => simp
  | case2 rest ctx accepted hlen _ _ r ih | case5 rest resyncing ctx accepted hlen _ r ih =>
    change r.2 + r.1.1.length ≤ (rest.drop 1).length + 1 at ih
    rw [List.length_drop] at ih
    simp only [tcpHeaderSize] at hlen
    dsimp only
    omega
  | case3 rest => simp [Nat.add_comm]
  | case4 rest resyncing ctx accepted hlen hok _ f r ih =>
    -- one turn for a whole ADU
    have hmin := le_frameTotalLen_of_headerOk hok
    change r.2 + r.1.1.length ≤ (rest.drop (frameTotalLen rest)).length + 1 at ih
    rw [List.length_drop] at ih
    simp only [tcpHeaderSize] at hlen hmin
    dsimp only
    omega

/-- `fill` with the number of turns of the outer loop and of all inner loops. -/
def fillCounted (buf : Bytes) (hbuf : buf.length < frameMax) (data : Bytes) (ctx : σ)
    (accepted : Nat) : ({b : Bytes // b.length < frameMax} × σ × Nat) × Nat × Nat :=
  if _hdata : data = [] then ((⟨buf, hbuf⟩, ctx, accepted), 0, 0)
  else
    let filled := buf ++ data.take (chunkLen buf data)
    let r := scanCounted onFrame sock filled false ctx accepted
    have hr : r.1.1.length ≤ frameMax := by
      rw [scanCounted_fst]
      exact (length_scan_le onFrame sock filled false ctx accepted).trans
        (length_append_take_chunkLen_le hbuf data)
    let rest := fillCounted (keepTail r.1.1) (length_keepTail_lt hr)
      (data.drop (chunkLen buf data)) r.1.2.1 r.1.2.2
    (rest.1, rest.2.1 + 1, rest.2.2 + r.2)
termination_by data.length
decreasing_by
  have hpos : 0 < data.length := List.length_pos_of_ne_nil _hdata
  simp only [List.length_drop, chunkLen]
  omega

lemma fillCounted_fst (hbuf : buf.length < frameMax) (data : Bytes) (ctx : σ) (accepted : Nat) :
    (fillCounted onFrame sock buf hbuf data ctx accepted).1 =
      fill onFrame sock buf hbuf data ctx accepted := by
  fun_induction fill onFrame sock buf hbuf data ctx accepted with
  | case1 buf hbuf ctx accepted => rw [fillCounted, dif_pos rfl]
  | case2 buf hbuf data ctx accepted hdata filled r hr ih =>
    rw [fillCounted, dif_neg hdata]
    simp only [scanCounted_fst]
    exact ih

lemma fillCounted_le (hbuf : buf.length < frameMax) (data : Bytes) (ctx : σ) (accepted : Nat) :
    (fillCounted onFrame sock buf hbuf data ctx accepted).2.1 ≤ data.length ∧
      (fillCounted onFrame sock buf hbuf data ctx accepted).2.2 +
          (fillCounted onFrame sock buf hbuf data ctx accepted).1.1.1.length ≤
        buf.length + data.length + (fillCounted onFrame sock buf hbuf data ctx accepted).2.1 := by
  fun_induction fillCounted onFrame sock buf hbuf data ctx accepted with
  | case1 buf hbuf ctx accepted => simp
  | case2 buf hbuf data ctx accepted hdata filled r hr rest ih =>
    have hscan := scanCounted_le onFrame sock filled false ctx accepted
    have hpos : 0 < data.length := List.length_pos_of_ne_nil hdata
    have hchunk : 0 < chunkLen buf data ∧ chunkLen buf data ≤ data.length := by
      rw [chunkLen]
      omega
    have hfilled : filled.length = buf.length + chunkLen buf data := by
      rw [List.length_append, List.length_take, Nat.min_eq_left hchunk.2]
    -- a full buffer without a frame is emptied, which leaves less for the next turn and not more
    have hkeep : (keepTail r.1.1).length ≤ r.1.1.length := by
      rw [keepTail]
      split <;> simp
    change rest.2.1 ≤ (data.drop (chunkLen buf data)).length ∧ rest.2.2 + rest.1.1.1.length ≤
      (keepTail r.1.1).length + (data.drop (chunkLen buf data)).length + rest.2.1 at ih
    change r.2 + r.1.1.length ≤ filled.length + 1 at hscan
    rw [List.length_drop] at ih
    dsimp only
    omega

/-- The turns of the outer and of the inner loop in one call of `mbtcp_reasm_feed`. -/
def State.feedTurns (r : State) (sock : Int) (data : Bytes)
    (onFrame : σ → Int → Bytes → σ × Bool) (ctx : σ) : Nat × Nat :=
  if sock < 0 then (0, 0)
  else
    -- without a slot nothing is done
    ((r.slotGet sock).map fun s =>
      (fillCounted onFrame sock (s.2.slots s.1).buf (s.2.slots s.1).length_lt data ctx
        0).2).getD (0, 0)

lemma feedTurns_le (r : State) (data : Bytes) (ctx : σ) :
    (r.feedTurns sock data onFrame ctx).1 ≤ data.length ∧
      (r.feedTurns sock data onFrame ctx).2 ≤ 2 * data.length + frameMax := by
  rw [State.feedTurns]
  split
  · simp
  cases r.slotGet sock with
  | none => simp
  | some s =>
    have hle := fillCounted_le onFrame sock (s.2.slots s.1).length_lt data ctx 0
    have hlt := (s.2.slots s.1).length_lt
    simp only [Option.map_some, Option.getD_some]
    omega

/-! ## Whole streams -/

variable {sock}

lemma feedAll_picked (hsock : 0 ≤ sock) (chunks : List Bytes) {r : State}
    (hcur : r.current sock = some buf) (ctx : σ) :
    ∃ frames tail, Code.Picked aduCode (buf ++ chunks.flatten) frames tail ∧
      (feedAll onFrame sock r ctx chunks).2 = deliver onFrame sock ctx frames ∧
      (feedAll onFrame sock r ctx chunks).1.current sock = some tail := by
  induction chunks generalizing r buf ctx with
  | nil => exact ⟨[], buf, by simpa using Code.Picked.nil buf, rfl, hcur⟩
  | cons data chunks ih =>
    obtain ⟨hbuf, hctx, -, -, hcur'⟩ := State.feed_of_current onFrame hsock hcur data ctx
    obtain ⟨frames, hpicked, hctx'⟩ := fill_picked onFrame sock hbuf data ctx 0
    obtain ⟨frames', tail, hpicked', hctx'', hcur''⟩ := ih hcur'
      (r.feed sock data onFrame ctx).2.1
    refine ⟨frames ++ frames', tail, ?_, ?_, hcur''⟩
    · have hturn := (hpicked.append_right chunks.flatten).trans hpicked'
      rwa [List.append_assoc, ← List.flatten_cons] at hturn
    · rw [feedAll, hctx'', hctx, hctx', deliver_append]

/-- Soundness of the framing: for every byte stream and every cutting of it into receive buffers of
one fresh slot, the callback is given contiguous pieces of the stream, one behind the other, each of
which is an ADU by its own header; what the slot holds after the last buffer is the end of the
stream, with room left in the buffer. A further feed turns its outer loop at most once for every
byte and its inner loop at most twice for every byte and once for every place in the buffer. -/
theorem feedAll_sound (hsock : 0 ≤ sock) {r : State} (hfresh : r.current sock = some [])
    (chunks : List Bytes) (ctx : σ) :
    (∃ (segs : List (Bytes × Bytes)) (gap tail : Bytes),
      chunks.flatten = segs.flatMap (fun s => s.1 ++ s.2) ++ gap ++ tail ∧
      (∀ s ∈ segs, (tcpHeader s.2).protocolId = 0 ∧ s.2.length = (tcpHeader s.2).length + 6 ∧
        8 ≤ s.2.length ∧ s.2.length ≤ 300) ∧
      (feedAll onFrame sock r ctx chunks).2 =
        (segs.map Prod.snd).foldl (fun ctx adu => (onFrame ctx sock adu).1) ctx ∧
      (chunks ≠ [] → (feedAll onFrame sock r ctx chunks).1.buffered sock = some tail) ∧
      tail.length < 300) ∧
    ∀ data ctx',
      ((feedAll onFrame sock r ctx chunks).1.feedTurns sock data onFrame ctx').1 ≤ data.length ∧
      ((feedAll onFrame sock r ctx chunks).1.feedTurns sock data onFrame ctx').2 ≤
        2 * data.length + 300 := by
  refine ⟨?_, fun data ctx' => feedTurns_le onFrame sock _ data ctx'⟩
  obtain ⟨frames, tail, hpicked, hctx, hcur⟩ :=
    feedAll_picked onFrame hsock chunks hfresh ctx
  obtain ⟨segs, gap, hstream, rfl, hadus⟩ := hpicked.exists_segments
  have hroom : tail.length < 300 := by
    -- whatever slot it is in, the bound comes with it
    obtain ⟨⟨i, r'⟩, -, rfl⟩ := Option.map_eq_some_iff.1 hcur
    exact (r'.slots i).length_lt
  exact ⟨segs, gap, tail, hstream, hadus, hctx,
    fun hne => (feedAll_buffered onFrame hsock hne hfresh ctx).trans hcur, hroom⟩

/-- A byte of garbage, an ADU cut in two, an ADU that is lost in a resync, and the beginning of
another one. -/
theorem feedAll_sound_resync :
    let res := feedAll (fun log _ adu => (log ++ [adu], true)) 3 init ([] : List Bytes)
      [[0, 1, 0, 0, 0], [2, 0x11, 7, 0xFF, 0, 2, 0, 0, 0, 6, 0x11, 3, 0], [0, 0, 1, 0, 3, 0]]
    res.2 = [[0, 1, 0, 0, 0, 2, 0x11, 7]] ∧
      ∃ tail, res.1.buffered 3 = some tail ∧ tail.length < 300 := by
  intro res
  obtain ⟨⟨segs, gap, tail, -, -, -, hheld, hroom⟩, -⟩ := feedAll_sound
    (fun (log : List Bytes) _ adu => (log ++ [adu], true)) (show (0 : Int) ≤ 3 by decide)
    (r := init) (by decide +kernel)
    [[0, 1, 0, 0, 0], [2, 0x11, 7, 0xFF, 0, 2, 0, 0, 0, 6, 0x11, 3, 0], [0, 0, 1, 0, 3, 0]] []
  exact ⟨by decide +kernel, tail, hheld (by simp), hroom⟩

end Feed

end WbMge.Reasm
