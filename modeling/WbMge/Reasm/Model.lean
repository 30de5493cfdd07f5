import Mathlib.Data.List.FinRange
import WbMge.Modbus.Helpers

/-!
# Modbus TCP stream reassembly

The model of `mbtcp_reasm.c`: per-connection accumulation buffers, the loop that appends received
bytes and dispatches every complete ADU, and the byte-wise resynchronisation after a bad header.

Between two turns of the feed loop a slot buffers fewer than `frameMax` bytes. That bound makes the
loop progress, and so it is also the termination argument of `fill`.

The frame callback and its `user_ctx` are a function `onFrame` and a state of any type `σ` that it
threads. The mutex only guards slot allocation: each operation is one function on the whole table.
-/

namespace WbMge.Reasm

/-- `MBTCP_REASM_MAX_CONNS`: connections tracked per reassembler. -/
def maxConns : Nat := 8

/-- `MBTCP_REASM_FRAME_MAX`: size of an accumulation buffer. -/
def frameMax : Nat := 300

/-- `mbtcp_reasm_slot_t`: the descriptor holding the slot, -1 if it is free, and the bytes
buffered for it. -/
structure Slot where
  sock : Int
  buf : Bytes
  length_lt : buf.length < frameMax

def Slot.empty (sock : Int) : Slot := ⟨sock, [], by decide⟩

/-- `mbtcp_reasm_t`. -/
structure State where
  slots : Fin maxConns → Slot
  /-- Number of calls that found no slot, a `uint32_t`. -/
  slotExhausted : Nat

/-- `mbtcp_reasm_init`: every slot free. -/
def init : State := ⟨fun _ => Slot.empty (-1), 0⟩

/-- `mbtcp_reasm_frame_total_len`: the ADU length an MBAP header declares. -/
def frameTotalLen (buf : Bytes) : Nat := (tcpHeader buf).length + unitIdOffset

def headerOk (h : Bytes) : Bool :=
  (tcpHeader h).protocolId == 0 && tcpHeaderSize ≤ frameTotalLen h && frameTotalLen h ≤ frameMax

lemma le_frameTotalLen_of_headerOk {h : Bytes} (hok : headerOk h) :
    tcpHeaderSize ≤ frameTotalLen h := by
  simp only [headerOk, Bool.and_eq_true, decide_eq_true_eq] at hok
  exact hok.1.2

section Feed

variable {σ : Type*} (onFrame : σ → Int → Bytes → σ × Bool) (sock : Int)

/-- The inner loop of `mbtcp_reasm_feed` on the bytes from `pos` on: dispatch every complete
frame, and return the unconsumed tail with the callback's state and the accepted count. -/
def scan (rest : Bytes) (resyncing : Bool) (ctx : σ) (accepted : Nat) : Bytes × σ × Nat :=
  if _hlen : rest.length < tcpHeaderSize then (rest, ctx, accepted)
  else if _hok : headerOk rest then
    if rest.length < frameTotalLen rest then
      -- A plausible header of a frame that is not there yet: trusted only outside a resync.
      if resyncing then scan (rest.drop 1) true ctx accepted
      else (rest, ctx, accepted)
    else
      let r := onFrame ctx sock (rest.take (frameTotalLen rest))
      scan (rest.drop (frameTotalLen rest)) false r.1 (accepted + r.2.toNat)
  -- not a header: slide one byte on and look for the next plausible one
  else scan (rest.drop 1) true ctx accepted
termination_by rest.length
decreasing_by
  all_goals
    simp only [tcpHeaderSize, List.length_drop] at _hlen ⊢
    have hpos := le_frameTotalLen_of_headerOk (h := rest)
    simp only [tcpHeaderSize] at hpos
    grind

lemma length_scan_le (rest : Bytes) (resyncing : Bool) (ctx : σ) (accepted : Nat) :
    (scan onFrame sock rest resyncing ctx accepted).1.length ≤ rest.length := by
  fun_induction scan onFrame sock rest resyncing ctx accepted with
  | case1 | case3 => exact le_refl _
  | case2 rest ctx accepted _ _ _ ih | case4 rest resyncing ctx accepted _ _ _ r ih
  | case5 rest resyncing ctx accepted _ _ ih =>
    simp only [List.length_drop] at ih
    omega

def keepTail (tail : Bytes) : Bytes := if tail.length == frameMax then [] else tail

lemma length_keepTail_lt {tail : Bytes} (h : tail.length ≤ frameMax) :
    (keepTail tail).length < frameMax := by
  simp only [keepTail, beq_iff_eq]
  split
  · simp [frameMax]
  · omega

/-- Bytes of `data` that fit behind `buf`. -/
def chunkLen (buf data : Bytes) : Nat := min data.length (frameMax - buf.length)

lemma length_append_take_chunkLen_le {buf : Bytes} (hbuf : buf.length < frameMax)
    (data : Bytes) : (buf ++ data.take (chunkLen buf data)).length ≤ frameMax := by
  simp only [List.length_append, List.length_take, chunkLen]
  omega

/-- The outer loop of `mbtcp_reasm_feed`: append as much as fits, scan, and go on with the
rest of the received bytes. -/
def fill (buf : Bytes) (hbuf : buf.length < frameMax) (data : Bytes) (ctx : σ) (accepted : Nat) :
    {b : Bytes // b.length < frameMax} × σ × Nat :=
  if _hdata : data = [] then (⟨buf, hbuf⟩, ctx, accepted)
  else
    let filled := buf ++ data.take (chunkLen buf data)
    let r := scan onFrame sock filled false ctx accepted
    have hr : r.1.length ≤ frameMax :=
      (length_scan_le onFrame sock filled false ctx accepted).trans
        (length_append_take_chunkLen_le hbuf data)
    fill (keepTail r.1) (length_keepTail_lt hr) (data.drop (chunkLen buf data)) r.2.1 r.2.2
termination_by data.length
decreasing_by
  have hpos : 0 < data.length := List.length_pos_of_ne_nil _hdata
  simp only [List.length_drop, chunkLen]
  omega

/-- The first slot whose descriptor is `sock`. -/
def State.heldBy (r : State) (sock : Int) : Option (Fin maxConns) :=
  (List.finRange maxConns).find? fun i => (r.slots i).sock == sock

/-- The slot held by `sock`, or a free one claimed for it. -/
def State.slotGet (r : State) (sock : Int) : Option (Fin maxConns × State) :=
  match r.heldBy sock with
  | some i => some (i, r)
  | none =>
    -- a free slot starts empty, whatever its last connection left behind
    match r.heldBy (-1) with
    | some i => some (i, { r with slots := Function.update r.slots i (Slot.empty sock) })
    | none => none

/-- Replace the bytes buffered in slot `i`. -/
def State.setBuf (r : State) (i : Fin maxConns) (buf : {b : Bytes // b.length < frameMax}) :
    State :=
  { r with slots := Function.update r.slots i ⟨(r.slots i).sock, buf.1, buf.2⟩ }

/-- `mbtcp_reasm_feed`: feed one receive buffer. The result is the number of frames the
callback accepted, or `none` for `MBTCP_REASM_NO_SLOT`. -/
def State.feed (r : State) (sock : Int) (data : Bytes) (onFrame : σ → Int → Bytes → σ × Bool)
    (ctx : σ) : State × σ × Option Nat :=
  if sock < 0 then (r, ctx, none)
  else
    match r.slotGet sock with
    | none => ({ r with slotExhausted := (r.slotExhausted + 1) % 2 ^ 32 }, ctx, none)
    | some (i, r') =>
      let res := fill onFrame sock (r'.slots i).buf (r'.slots i).length_lt data ctx 0
      (r'.setBuf i res.1, res.2.1, some res.2.2)

end Feed

/-- `mbtcp_reasm_close`: release the slot held by `sock`, dropping a partial frame. -/
def State.close (r : State) (sock : Int) : State :=
  if sock < 0 then r
  else
    match r.heldBy sock with
    | some i => { r with slots := Function.update r.slots i (Slot.empty (-1)) }
    | none => r

/-- The bytes in the slot held by `sock`. -/
def State.buffered (r : State) (sock : Int) : Option Bytes :=
  (r.heldBy sock).map fun i => (r.slots i).buf

/-- `mbtcp_reasm_pending`: bytes buffered for `sock`, 0 if it holds no slot. -/
def State.pending (r : State) (sock : Int) : Nat :=
  if sock < 0 then 0 else ((r.buffered sock).map List.length).getD 0

end WbMge.Reasm
