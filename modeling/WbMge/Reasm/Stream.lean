import WbMge.Reasm.Model
import WbMge.ToMathlib.Code

/-!
# Reassembling well-formed streams

A stream of whole Modbus TCP ADUs followed by the beginning of another one is handed to the callback
ADU by ADU, whatever the receive buffers it is cut into, and the unfinished ADU stays buffered.

An ADU announces its own length in its first six bytes. The scan dispatches a whole ADU at the front
of the buffer (`scan_adu`) and leaves an unfinished one alone (`scan_unfinished`), so one turn of
the feed loop consumes exactly the whole words that `Code.exists_split` finds in the buffer
(`scan_stream`). The loop, one call and a sequence of calls follow by induction; the buffer-full
reset never fires because an unfinished ADU is shorter than the buffer.
-/

namespace WbMge.Reasm

/-- A Modbus TCP ADU the reassembler accepts: protocol id 0, as many bytes as its length
field declares, and a total length between the header size and the buffer size. -/
def IsAdu (adu : Bytes) : Prop :=
  (tcpHeader adu).protocolId = 0 ∧ adu.length = (tcpHeader adu).length + 6 ∧
    8 ≤ adu.length ∧ adu.length ≤ 300

instance (adu : Bytes) : Decidable (IsAdu adu) := by
  unfold IsAdu
  infer_instance

def aduCode : Set Bytes := {adu | IsAdu adu}

/-! ## Headers of ADUs and of their beginnings -/

variable {b : Bytes}

lemma tcpHeader_append (h : 8 ≤ b.length) (t : Bytes) : tcpHeader (b ++ t) = tcpHeader b := by
  simp only [tcpHeader]
  rw [byteAt_append_left (by omega), byteAt_append_left (by omega),
    byteAt_append_left (by omega), byteAt_append_left (by omega),
    byteAt_append_left (by omega), byteAt_append_left (by omega),
    byteAt_append_left (by omega), byteAt_append_left (by omega)]

lemma headerOk_append (h : 8 ≤ b.length) (t : Bytes) : headerOk (b ++ t) = headerOk b := by
  unfold headerOk frameTotalLen
  rw [tcpHeader_append h]

lemma frameTotalLen_append (h : 8 ≤ b.length) (t : Bytes) :
    frameTotalLen (b ++ t) = frameTotalLen b := by
  simp only [frameTotalLen, tcpHeader_append h]

lemma IsAdu.headerOk {adu : Bytes} (h : IsAdu adu) : headerOk adu := by
  obtain ⟨hpid, hlen, hmin, hmax⟩ := h
  simp only [Reasm.headerOk, frameTotalLen, tcpHeaderSize, unitIdOffset, frameMax, hpid]
  simp
  omega

lemma IsAdu.frameTotalLen {adu : Bytes} (h : IsAdu adu) : frameTotalLen adu = adu.length :=
  h.2.1.symm

lemma aduCode_initialFree : Code.InitialFree aduCode := by
  rintro u hu w hw ⟨t, rfl⟩
  have hlen := frameTotalLen_append hu.2.2.1 t
  rw [IsAdu.frameTotalLen hw, IsAdu.frameTotalLen hu] at hlen
  exact hlen.symm

lemma unfinished_nil : Code.Unfinished aduCode [] :=
  ⟨[0, 0, 0, 0, 0, 2, 0, 0], show IsAdu _ by decide, by simp, by decide⟩

lemma length_lt_of_unfinished {q : Bytes} (hq : Code.Unfinished aduCode q) :
    q.length < frameMax := by
  obtain ⟨w, hw, -, hlen⟩ := hq
  have hmax : w.length ≤ 300 := hw.2.2.2
  simp only [frameMax]
  omega

/-! ## One turn of the feed loop -/

section Feed

variable {σ : Type*} (onFrame : σ → Int → Bytes → σ × Bool) (sock : Int)

/-- The callback's state after it has been given `adus` in order. -/
def deliver (ctx : σ) (adus : List Bytes) : σ :=
  adus.foldl (fun ctx adu => (onFrame ctx sock adu).1) ctx

@[simp] lemma deliver_nil (ctx : σ) : deliver onFrame sock ctx [] = ctx := rfl

lemma deliver_append (ctx : σ) (xs ys : List Bytes) :
    deliver onFrame sock ctx (xs ++ ys) =
      deliver onFrame sock (deliver onFrame sock ctx xs) ys := by
  simp [deliver]

/-- The number of `adus` that the callback accepts when it is given them in order. -/
def acceptedBy : σ → List Bytes → Nat
  | _, [] => 0
  | ctx, adu :: adus => (onFrame ctx sock adu).2.toNat + acceptedBy (onFrame ctx sock adu).1 adus

lemma acceptedBy_append (ctx : σ) (xs ys : List Bytes) :
    acceptedBy onFrame sock ctx (xs ++ ys) = acceptedBy onFrame sock ctx xs +
      acceptedBy onFrame sock (deliver onFrame sock ctx xs) ys := by
  induction xs generalizing ctx with
  | nil => exact (Nat.zero_add _).symm
  | cons adu xs ih =>
    rw [List.cons_append, acceptedBy, ih, acceptedBy, Nat.add_assoc]
    rfl

lemma scan_adu {adu : Bytes} (h : IsAdu adu) (rest : Bytes) (resyncing : Bool) (ctx : σ)
    (accepted : Nat) :
    scan onFrame sock (adu ++ rest) resyncing ctx accepted =
      scan onFrame sock rest false (onFrame ctx sock adu).1
        (accepted + (onFrame ctx sock adu).2.toNat) := by
  have hmin := h.2.2.1
  have htotal : frameTotalLen (adu ++ rest) = adu.length := by
    rw [frameTotalLen_append hmin, h.frameTotalLen]
  rw [scan, dif_neg (by simp only [List.length_append, tcpHeaderSize]; omega),
    dif_pos (by rw [headerOk_append hmin]; exact h.headerOk),
    if_neg (by simp only [htotal, List.length_append]; omega)]
  simp only [htotal, List.take_left, List.drop_left]

variable {q p t buf : Bytes} {adus : List Bytes} {r : State} {i : Fin maxConns}

lemma scan_unfinished (hq : Code.Unfinished aduCode q) (ctx : σ) (accepted : Nat) :
    scan onFrame sock q false ctx accepted = (q, ctx, accepted) := by
  obtain ⟨w, hw, ⟨t, rfl⟩, hlen⟩ := hq
  have hadu : IsAdu (q ++ t) := hw
  rw [scan]
  by_cases hshort : q.length < tcpHeaderSize
  · rw [dif_pos hshort]
  -- the header is complete and names a frame that is not all there yet
  have hhdr : 8 ≤ q.length := by simpa [tcpHeaderSize] using hshort
  have hok : headerOk q := by rw [← headerOk_append hhdr t]; exact hadu.headerOk
  have htotal : frameTotalLen q = (q ++ t).length := by
    rw [← frameTotalLen_append hhdr t, hadu.frameTotalLen]
  rw [dif_neg hshort, dif_pos hok, if_pos (by omega)]
  simp

lemma scan_words {done : List Bytes} (hdone : ∀ adu ∈ done, IsAdu adu)
    (hq : Code.Unfinished aduCode q) (ctx : σ) (accepted : Nat) :
    scan onFrame sock (done.flatten ++ q) false ctx accepted =
      (q, deliver onFrame sock ctx done, accepted + acceptedBy onFrame sock ctx done) := by
  induction done generalizing ctx accepted with
  | nil => simpa [acceptedBy] using scan_unfinished onFrame sock hq ctx accepted
  | cons adu done ih =>
    have h := ih (fun a ha => hdone a (by simp [ha])) (onFrame ctx sock adu).1
      (accepted + (onFrame ctx sock adu).2.toNat)
    rw [List.flatten_cons, List.append_assoc, scan_adu onFrame sock (hdone adu (by simp)), h,
      acceptedBy, Nat.add_assoc]
    rfl

/-- After one scan of a buffer that begins a stream, some of its ADUs are delivered and the
buffer begins the stream of the others. -/
lemma scan_stream (hadus : ∀ adu ∈ adus, IsAdu adu) (hp : Code.Unfinished aduCode p) {b : Bytes}
    (h : b ++ t = adus.flatten ++ p) (ctx : σ) (accepted : Nat) :
    ∃ done todo q, adus = done ++ todo ∧ Code.Unfinished aduCode q ∧
      q ++ t = todo.flatten ++ p ∧
      scan onFrame sock b false ctx accepted =
        (q, deliver onFrame sock ctx done, accepted + acceptedBy onFrame sock ctx done) := by
  obtain ⟨done, todo, q, rfl, rfl, hqt, hq⟩ := Code.exists_split hadus hp h
  exact ⟨done, todo, q, rfl, hq, hqt, scan_words onFrame sock
    (fun a ha => hadus a (List.mem_append_left todo ha)) hq ctx accepted⟩

/-! ## The feed loop -/

lemma keepTail_of_unfinished (hq : Code.Unfinished aduCode q) : keepTail q = q := by
  have hlen := length_lt_of_unfinished hq
  simp [keepTail, hlen.ne]

/-- The feed loop on a buffer and received bytes that begin a stream: some ADUs are
delivered and what stays buffered begins the stream of the others. The induction is on the
bytes still to be appended. -/
lemma fill_stream (hadus : ∀ adu ∈ adus, IsAdu adu) (hp : Code.Unfinished aduCode p)
    {data : Bytes} (hbuf : buf.length < frameMax) (hun : Code.Unfinished aduCode buf)
    (h : buf ++ (data ++ t) = adus.flatten ++ p) (ctx : σ) (accepted : Nat) :
    ∃ done todo, adus = done ++ todo ∧
      Code.Unfinished aduCode (fill onFrame sock buf hbuf data ctx accepted).1.1 ∧
      (fill onFrame sock buf hbuf data ctx accepted).1.1 ++ t = todo.flatten ++ p ∧
      (fill onFrame sock buf hbuf data ctx accepted).2 =
        (deliver onFrame sock ctx done, accepted + acceptedBy onFrame sock ctx done) := by
  fun_induction fill onFrame sock buf hbuf data ctx accepted generalizing adus with
  | case1 buf hbuf ctx accepted => exact ⟨[], adus, rfl, hun, by simpa using h, rfl⟩
  | case2 buf hbuf data ctx accepted _ filled r hr =>
    rename_i ih
    have hsplit : filled ++ (data.drop (chunkLen buf data) ++ t) = adus.flatten ++ p := by
      rw [← h, List.append_assoc, ← List.append_assoc (data.take _), List.take_append_drop]
    obtain ⟨done, todo, q, rfl, hq, hqt, hscan⟩ :=
      scan_stream onFrame sock hadus hp hsplit ctx accepted
    have hscan' : r = (q, deliver onFrame sock ctx done, _) := hscan
    have hr₁ : keepTail r.1 = q := by rw [hscan', keepTail_of_unfinished hq]
    obtain ⟨done', todo', rfl, hun', heq', hctx⟩ :=
      ih (fun a ha => hadus a (List.mem_append_right done ha)) (by rwa [hr₁]) (by rwa [hr₁])
    refine ⟨done ++ done', todo', by simp, hun', heq', ?_⟩
    rw [hctx, hscan', deliver_append, acceptedBy_append, Nat.add_assoc]

lemma fill_words (hadus : ∀ adu ∈ adus, IsAdu adu) (hbuf : ([] : Bytes).length < frameMax)
    (ctx : σ) (accepted : Nat) :
    (fill onFrame sock [] hbuf adus.flatten ctx accepted).2 =
      (deliver onFrame sock ctx adus, accepted + acceptedBy onFrame sock ctx adus) := by
  have hstream : [] ++ (adus.flatten ++ []) = adus.flatten ++ ([] : Bytes) := List.nil_append _
  obtain ⟨done, todo, hsplit, hun, hrest, hfill⟩ :=
    fill_stream onFrame sock hadus unfinished_nil hbuf unfinished_nil hstream ctx accepted
  -- nothing is left to arrive, so the unfinished ADU in the buffer holds no whole one
  rw [List.append_nil] at hrest
  have htodo : todo = [] := Code.Unfinished.words_eq_nil aduCode_initialFree
    (fun a ha => hadus a (hsplit ▸ List.mem_append_right done ha)) (hrest ▸ hun)
  rw [hfill, hsplit, htodo, List.append_nil]

/-! ## Slots -/

variable {sock}

/-- The bytes a feed for `sock` starts from: those of the slot that it holds or claims. -/
def State.current (r : State) (sock : Int) : Option Bytes :=
  (r.slotGet sock).map fun s => (s.2.slots s.1).buf

lemma State.sock_of_heldBy (h : r.heldBy sock = some i) : (r.slots i).sock = sock := by
  simpa using List.find?_some h

@[simp] lemma State.buf_setBuf (r : State) (i : Fin maxConns)
    (buf : {b : Bytes // b.length < frameMax}) : ((r.setBuf i buf).slots i).buf = buf.1 := by
  simp [State.setBuf]

@[simp] lemma State.heldBy_setBuf (r : State) (i : Fin maxConns)
    (buf : {b : Bytes // b.length < frameMax}) (s : Int) :
    (r.setBuf i buf).heldBy s = r.heldBy s := by
  unfold State.heldBy
  congr 1
  funext k
  by_cases hk : k = i
  · subst hk
    simp [State.setBuf]
  · simp [State.setBuf, hk]

lemma State.heldBy_slotGet {r' : State} (h : r.slotGet sock = some (i, r')) :
    r'.heldBy sock = some i := by
  simp only [State.slotGet] at h
  cases hheld : r.heldBy sock with
  | some j =>
    simp only [hheld, Option.some.injEq, Prod.mk.injEq] at h
    obtain ⟨rfl, rfl⟩ := h
    exact hheld
  | none =>
    cases hfree : r.heldBy (-1) with
    | none => simp [hheld, hfree] at h
    | some j =>
      simp only [hheld, hfree, Option.some.injEq, Prod.mk.injEq] at h
      obtain ⟨rfl, rfl⟩ := h
      -- no other slot names the socket, so the scan for it stops at the claimed one
      cases hnew : State.heldBy { r with slots := Function.update r.slots j (Slot.empty sock) } sock
        with
      | none =>
        have := List.find?_eq_none.mp hnew j (List.mem_finRange j)
        simp [Slot.empty] at this
      | some k =>
        by_cases hk : k = j
        · rw [hk]
        have hsock := State.sock_of_heldBy hnew
        simp only [Function.update_of_ne hk] at hsock
        have := List.find?_eq_none.mp hheld k (List.mem_finRange k)
        simp [hsock] at this

lemma State.current_eq_of_heldBy (h : r.heldBy sock = some i) :
    r.current sock = some (r.slots i).buf := by
  simp [State.current, State.slotGet, h]

lemma State.feed_of_current (hsock : 0 ≤ sock) (hcur : r.current sock = some buf) (data : Bytes)
    (ctx : σ) :
    ∃ hbuf : buf.length < frameMax,
      (r.feed sock data onFrame ctx).2.1 = (fill onFrame sock buf hbuf data ctx 0).2.1 ∧
      (r.feed sock data onFrame ctx).2.2 = some (fill onFrame sock buf hbuf data ctx 0).2.2 ∧
      (r.feed sock data onFrame ctx).1.buffered sock =
        some (fill onFrame sock buf hbuf data ctx 0).1.1 ∧
      (r.feed sock data onFrame ctx).1.current sock =
        some (fill onFrame sock buf hbuf data ctx 0).1.1 := by
  obtain ⟨⟨i, r'⟩, hget, rfl⟩ := Option.map_eq_some_iff.mp hcur
  have hheld := State.heldBy_slotGet hget
  refine ⟨(r'.slots i).length_lt, ?_⟩
  simp only [State.feed, if_neg (not_lt.mpr hsock), hget]
  have hafter := (State.heldBy_setBuf r' i
    (fill onFrame sock (r'.slots i).buf (r'.slots i).length_lt data ctx 0).1 sock).trans hheld
  refine ⟨trivial, trivial, ?_, ?_⟩
  · rw [State.buffered, hafter, Option.map_some, State.buf_setBuf]
  · rw [State.current_eq_of_heldBy hafter, State.buf_setBuf]

/-! ## Whole streams -/

/-- The chunks of one connection, one after the other. -/
def feedAll (sock : Int) : State → σ → List Bytes → State × σ
  | r, ctx, [] => (r, ctx)
  | r, ctx, data :: chunks =>
    let res := r.feed sock data onFrame ctx
    feedAll sock res.1 res.2.1 chunks

lemma feedAll_buffered (hsock : 0 ≤ sock) {chunks : List Bytes} (hne : chunks ≠ [])
    (hcur : r.current sock = some buf) (ctx : σ) :
    (feedAll onFrame sock r ctx chunks).1.buffered sock =
      (feedAll onFrame sock r ctx chunks).1.current sock := by
  induction chunks generalizing r buf ctx with
  | nil => exact absurd rfl hne
  | cons data chunks ih =>
    obtain ⟨hbuf, -, -, hheld, hcur'⟩ := State.feed_of_current onFrame hsock hcur data ctx
    rw [feedAll]
    cases chunks with
    | nil => exact hheld.trans hcur'.symm
    | cons c cs => exact ih (List.cons_ne_nil c cs) hcur' _

/-- Feeding any pieces of a stream delivers some of its ADUs and keeps the beginning of the
stream of the others. The induction is on the pieces. -/
lemma feedAll_stream (hsock : 0 ≤ sock) (hp : Code.Unfinished aduCode p) (chunks : List Bytes)
    (hadus : ∀ adu ∈ adus, IsAdu adu) (hcur : r.current sock = some buf)
    (hun : Code.Unfinished aduCode buf) (h : buf ++ (chunks.flatten ++ t) = adus.flatten ++ p)
    (ctx : σ) :
    ∃ done todo q, adus = done ++ todo ∧ Code.Unfinished aduCode q ∧
      q ++ t = todo.flatten ++ p ∧
      (feedAll onFrame sock r ctx chunks).2 = deliver onFrame sock ctx done ∧
      (feedAll onFrame sock r ctx chunks).1.current sock = some q := by
  induction chunks generalizing adus r buf ctx with
  | nil => exact ⟨[], adus, buf, rfl, hun, by simpa using h, rfl, hcur⟩
  | cons data chunks ih =>
    obtain ⟨hbuf, hctx, -, -, hcur'⟩ := State.feed_of_current onFrame hsock hcur data ctx
    have h' : buf ++ (data ++ (chunks.flatten ++ t)) = adus.flatten ++ p := by simpa using h
    obtain ⟨done, todo, rfl, hun', hrest, hdone⟩ :=
      fill_stream onFrame sock hadus hp hbuf hun h' ctx 0
    obtain ⟨done', todo', q, rfl, hq, hqt, hctx', hcur''⟩ :=
      ih (fun a ha => hadus a (List.mem_append_right done ha)) hcur' hun' hrest
        (r.feed sock data onFrame ctx).2.1
    refine ⟨done ++ done', todo', q, by simp, hq, hqt, ?_, hcur''⟩
    rw [feedAll, hctx', hctx, hdone, deliver_append]

/-- Reassembly of a well-formed stream: for a fresh slot, every list of ADUs, every proper
initial part `p` of a further one and every cutting of their concatenation into receive
buffers, the callback is given exactly the ADUs, each once and in order; then `p` is what
the slot holds and what is pending. -/
theorem feedAll_wellFormed (hsock : 0 ≤ sock) {r : State} (hfresh : r.current sock = some [])
    {adus : List Bytes} (hadus : ∀ adu ∈ adus, IsAdu adu) {p : Bytes}
    (hp : ∃ adu, IsAdu adu ∧ p <+: adu ∧ p ≠ adu) {chunks : List Bytes}
    (hcut : chunks.flatten = adus.flatten ++ p) (ctx : σ) :
    (feedAll onFrame sock r ctx chunks).2 =
        adus.foldl (fun ctx adu => (onFrame ctx sock adu).1) ctx ∧
      (feedAll onFrame sock r ctx chunks).1.pending sock = p.length ∧
      (chunks ≠ [] → (feedAll onFrame sock r ctx chunks).1.buffered sock = some p) := by
  have hp' : Code.Unfinished aduCode p := by
    obtain ⟨adu, hadu, hpre, hne⟩ := hp
    exact ⟨adu, hadu, hpre, lt_of_le_of_ne hpre.length_le fun hlen => hne (hpre.eq_of_length hlen)⟩
  obtain ⟨done, todo, q, rfl, hq, hqp, hctx, hcur⟩ :=
    feedAll_stream onFrame hsock hp' chunks hadus hfresh unfinished_nil
      (t := []) (by simpa using hcut) ctx
  -- nothing is left to arrive, so the unfinished ADU in the buffer holds no whole one
  have hqp' : q = todo.flatten ++ p := by simpa using hqp
  obtain rfl : todo = [] := Code.Unfinished.words_eq_nil aduCode_initialFree
    (fun a ha => hadus a (List.mem_append_right done ha)) (hqp' ▸ hq)
  obtain rfl : q = p := by simpa using hqp'
  have hheld : chunks ≠ [] → (feedAll onFrame sock r ctx chunks).1.buffered sock = some q :=
    fun hne => (feedAll_buffered onFrame hsock hne hfresh ctx).trans hcur
  refine ⟨by rw [hctx, List.append_nil]; rfl, ?_, hheld⟩
  cases chunks with
  | cons c cs => simp [State.pending, not_lt.mpr hsock, hheld (by simp)]
  | nil =>
    -- no buffer was fed, so the stream and with it `p` is empty
    have hnil : q = [] := by
      have : done.flatten ++ q = [] := by simpa using hcut.symm
      exact (List.append_eq_nil_iff.mp this).2
    subst hnil
    simp only [feedAll] at hcur ⊢
    cases hsl : r.heldBy sock with
    | none => simp [State.pending, State.buffered, hsl]
    | some i =>
      rw [State.current_eq_of_heldBy hsl, Option.some.injEq] at hcur
      simp [State.pending, State.buffered, hsl, hcur]

/-- Two ADUs and the first three bytes of another one, cut inside a header, inside a body and
with an empty buffer in between. -/
theorem feedAll_wellFormed_twoAdus :
    let res := feedAll (fun log _ adu => (log ++ [adu], true)) 3 init []
      [[0, 1, 0], [0, 0, 2, 5, 3, 0, 2], [], [0, 0, 0, 3, 5, 3, 9, 0, 3, 0]]
    res.2 = [[0, 1, 0, 0, 0, 2, 5, 3], [0, 2, 0, 0, 0, 3, 5, 3, 9]] ∧
      res.1.pending 3 = 3 ∧ res.1.buffered 3 = some [0, 3, 0] := by
  have h := feedAll_wellFormed (fun (log : List Bytes) _ adu => (log ++ [adu], true))
    (show (0 : Int) ≤ 3 by decide) (r := init) (by decide +kernel)
    (show ∀ adu ∈ [[0, 1, 0, 0, 0, 2, 5, 3], [0, 2, 0, 0, 0, 3, 5, 3, 9]], IsAdu adu by decide)
    (p := [0, 3, 0]) ⟨[0, 3, 0, 0, 0, 2, 5, 3], by decide, by decide, by decide⟩
    (show [[0, 1, 0], [0, 0, 2, 5, 3, 0, 2], [], [0, 0, 0, 3, 5, 3, 9, 0, 3, 0]].flatten = _
      from rfl)
    []
  exact ⟨h.1, h.2.1, h.2.2 (by simp)⟩

end Feed

end WbMge.Reasm
