import WbMge.Modbus.Helpers
import WbMge.ToMathlib.Buffer
import WbMge.ToMathlib.Machine

/-!
# Accumulation of received bytes

`handle_uart_event` of `serial.c` collects the bytes of UART events in two buffers, one for the
handler of the bridge and one for the sniffer. The first is emptied whenever there is no handler or
the handler need not wait for the line to go idle, the second only when it is too full, and both
when something was lost. A write outside of a buffer has no result.

`uart_accumulation` says that no write leaves the buffers (`InBounds`) and that, where the handler
waits for the line to go idle, the sniffer is given the same frames, each of which is what was read
since the one before (`InStep`).
-/

namespace WbMge.Serial

/-! ## The model -/

def serialBufSize : ℕ := 1000

abbrev RxBuf := {b : Bytes // b.length = serialBufSize}

lemma length_splice {b : Bytes} {i : ℕ} {bs : Bytes} (h : i + bs.length ≤ b.length) :
    (Buffer.splice b i bs).length = b.length := by
  simp only [Buffer.splice, List.length_append, List.length_take, List.length_drop]
  omega

/-- Bytes written from offset `i` on, if they stay in the buffer. -/
def RxBuf.write (b : RxBuf) (i : ℕ) (bs : Bytes) : Option RxBuf :=
  if h : i + bs.length ≤ serialBufSize then
    some ⟨Buffer.splice b.1 i bs, (length_splice (by rwa [b.2])).trans b.2⟩
  else none

/-- `buffer_ctx_t`, with both buffers there. -/
structure BufferCtx where
  data : RxBuf
  dataLen : ℕ
  sniffData : RxBuf
  sniffLen : ℕ

/-- What `serial_init` was called with. -/
structure Config where
  receiveHandler : Bool
  waitForIdle : Bool
  dropHandler : Bool
deriving Repr, DecidableEq

/-- The UART events. With data come the bytes that are there to be read and whether a sniff handler
is attached at that time, and with a loss the length of the driver's ring. -/
inductive UartEvent where
  | data (bytes : Bytes) (timeoutFlag sniffHandler : Bool)
  | fifoOvf (ringLen : ℕ)
  | bufferFull (ringLen : ℕ)
  | rxBreak
  | parityErr
  | frameErr
  | other
deriving Repr, DecidableEq

/-- What the UART task does with the bytes. -/
inductive Obs where
  | read (bytes : Bytes)
  | flush
  | drop (count : ℕ)
  | sniff (frame : Bytes)
  | receive (frame : Bytes)
deriving Repr, DecidableEq

/-- A cast of a `size_t` to `int`. -/
def toInt (n : ℕ) : ℤ := (n : ℤ).bmod (2 ^ 32)

namespace BufferCtx

/-- Discard what was received, `lost` bytes in all. -/
def discard (s : BufferCtx) (cfg : Config) (lost : ℕ) : BufferCtx × List Obs :=
  ({ s with dataLen := 0, sniffLen := 0 },
    (if cfg.dropHandler then [.drop lost] else []) ++ [.flush])

def serialDropAndFlush (s : BufferCtx) (cfg : Config) (ringLen : ℕ) : BufferCtx × List Obs :=
  s.discard cfg (s.dataLen + ringLen)

/-- Where the sniffer's copy of `size` bytes goes: to the start if they do not fit behind. -/
def sniffStart (s : BufferCtx) (size : ℕ) : ℕ :=
  if serialBufSize < s.sniffLen + size then 0 else s.sniffLen

/-- The sniffer's buffer has been filled up to `sniffLen`. The timeout flag ends a frame. -/
def sniffUpTo (s : BufferCtx) (sniffData : RxBuf) (sniffLen : ℕ) (timeoutFlag : Bool) :
    BufferCtx × List Obs :=
  if timeoutFlag then
    ({ s with sniffData, sniffLen := 0 }, [.sniff (sniffData.1.take sniffLen)])
  else ({ s with sniffData, sniffLen }, [])

/-- The part of the data event that feeds the sniffer: `size` bytes that were read to `oldLen`. -/
def feedSniffer (s : BufferCtx) (oldLen size : ℕ) (timeoutFlag sniffHandler : Bool) :
    Option (BufferCtx × List Obs) :=
  if sniffHandler then
    (s.sniffData.write (s.sniffStart size) ((s.data.1.drop oldLen).take size)).map fun sniffData =>
      s.sniffUpTo sniffData (s.sniffStart size + size) timeoutFlag
  else some (s, [])

def feedBridge (s : BufferCtx) (cfg : Config) (timeoutFlag : Bool) : BufferCtx × List Obs :=
  if cfg.receiveHandler && (!cfg.waitForIdle || timeoutFlag) then
    ({ s with dataLen := 0 }, [.receive (s.data.1.take s.dataLen)])
  else if !cfg.receiveHandler then ({ s with dataLen := 0 }, [])
  else (s, [])

def acceptData (s : BufferCtx) (cfg : Config) (bytes : Bytes) (timeoutFlag sniffHandler : Bool) :
    Option (BufferCtx × List Obs) := do
  let data ← s.data.write s.dataLen bytes
  let s' : BufferCtx := { s with data, dataLen := s.dataLen + bytes.length }
  let sniffed ← s'.feedSniffer s.dataLen bytes.length timeoutFlag sniffHandler
  let bridged := sniffed.1.feedBridge cfg timeoutFlag
  return (bridged.1, .read bytes :: (sniffed.2 ++ bridged.2))

def handleData (s : BufferCtx) (cfg : Config) (bytes : Bytes) (timeoutFlag sniffHandler : Bool) :
    Option (BufferCtx × List Obs) :=
  let freeSpace : ℤ := serialBufSize - s.dataLen
  if freeSpace < toInt bytes.length then some (s.discard cfg (s.dataLen + bytes.length))
  else s.acceptData cfg bytes timeoutFlag sniffHandler

def handleUartEvent (cfg : Config) (s : BufferCtx) : UartEvent → Option (BufferCtx × List Obs)
  | .data bytes timeoutFlag sniffHandler => s.handleData cfg bytes timeoutFlag sniffHandler
  | .fifoOvf ringLen => some (s.serialDropAndFlush cfg ringLen)
  | .bufferFull ringLen => some (s.serialDropAndFlush cfg ringLen)
  | .rxBreak => some (s, [])
  | .parityErr => some (s, [])
  | .frameErr => some (s, [])
  | .other => some (s, [])

end BufferCtx

/-- `uart_event_task` with its two buffers, whatever `malloc` left in them. -/
def machine (cfg : Config) (data sniffData : RxBuf) : Machine BufferCtx UartEvent Obs where
  init := ⟨data, 0, sniffData, 0⟩
  step := BufferCtx.handleUartEvent cfg

def UartEvent.size : UartEvent → ℕ
  | .data bytes _ _ => bytes.length
  | _ => 0

def UartEvent.sniffed : UartEvent → Bool
  | .data _ _ sniffHandler => sniffHandler
  | _ => true

/-! ## Buffers -/

section Buffers

variable {b b' : RxBuf} {i : ℕ} {bs : Bytes}

lemma RxBuf.exists_write (b : RxBuf) (h : i + bs.length ≤ serialBufSize) :
    ∃ b', b.write i bs = some b' := by
  rw [RxBuf.write, dif_pos h]
  exact ⟨_, rfl⟩

lemma RxBuf.write_eq_some (h : b.write i bs = some b') :
    i + bs.length ≤ serialBufSize ∧ b'.1 = Buffer.splice b.1 i bs := by
  unfold RxBuf.write at h
  split at h
  · cases h
    exact ⟨‹_›, rfl⟩
  · cases h

lemma RxBuf.take_of_write (h : b.write i bs = some b') :
    b'.1.take (i + bs.length) = b.1.take i ++ bs := by
  obtain ⟨hroom, heq⟩ := RxBuf.write_eq_some h
  have hlen : (b.1.take i ++ bs).length = i + bs.length := by
    rw [List.length_append, List.length_take, b.2]
    omega
  rw [heq, Buffer.splice, ← hlen, List.take_left]

lemma RxBuf.drop_take_of_write (h : b.write i bs = some b') :
    (b'.1.drop i).take bs.length = bs := by
  obtain ⟨hroom, -⟩ := RxBuf.write_eq_some h
  have hlen : (b.1.take i).length = i := by
    rw [List.length_take, b.2]
    omega
  have hdrop : (b'.1.drop i).take bs.length = (b'.1.take (i + bs.length)).drop i := by
    rw [List.drop_take, Nat.add_sub_cancel_left]
  rw [hdrop, RxBuf.take_of_write h, List.drop_left' hlen]

lemma toInt_eq {n : ℕ} (h : n < 2 ^ 31) : toInt n = n := by
  apply Int.bmod_eq_of_le
  · omega
  · omega

end Buffers

/-! ## Bounds -/

namespace BufferCtx

variable (cfg : Config) {s : BufferCtx}

structure InBounds (s : BufferCtx) : Prop where
  dataLen_le : s.dataLen ≤ serialBufSize
  sniffLen_le : s.sniffLen ≤ serialBufSize

lemma inBounds_discard (lost : ℕ) : (s.discard cfg lost).1.InBounds :=
  ⟨Nat.zero_le _, Nat.zero_le _⟩

lemma sniffStart_add_le {size : ℕ} (hsize : size ≤ serialBufSize) :
    s.sniffStart size + size ≤ serialBufSize := by
  unfold sniffStart
  split <;> omega

lemma InBounds.sniffUpTo (h : s.InBounds) (sniffData : RxBuf) {sniffLen : ℕ}
    (hlen : sniffLen ≤ serialBufSize) (timeoutFlag : Bool) :
    (s.sniffUpTo sniffData sniffLen timeoutFlag).1.InBounds := by
  unfold BufferCtx.sniffUpTo
  split
  · exact ⟨h.dataLen_le, Nat.zero_le _⟩
  · exact ⟨h.dataLen_le, hlen⟩

lemma InBounds.feedSniffer (h : s.InBounds) (oldLen : ℕ) {size : ℕ} (hsize : size ≤ serialBufSize)
    (timeoutFlag sniffHandler : Bool) :
    ∃ r, s.feedSniffer oldLen size timeoutFlag sniffHandler = some r ∧ r.1.InBounds := by
  unfold BufferCtx.feedSniffer
  split
  · have hroom := sniffStart_add_le (s := s) hsize
    have hslice : ((s.data.1.drop oldLen).take size).length ≤ size := List.length_take_le _ _
    obtain ⟨sniffData, hwrite⟩ := s.sniffData.exists_write
      (Nat.le_trans (Nat.add_le_add_left hslice (s.sniffStart size)) hroom)
    rw [hwrite]
    exact ⟨_, rfl, h.sniffUpTo sniffData hroom timeoutFlag⟩
  · exact ⟨_, rfl, h⟩

lemma InBounds.feedBridge (h : s.InBounds) (timeoutFlag : Bool) :
    (s.feedBridge cfg timeoutFlag).1.InBounds := by
  unfold BufferCtx.feedBridge
  split
  · exact ⟨Nat.zero_le _, h.sniffLen_le⟩
  · split
    · exact ⟨Nat.zero_le _, h.sniffLen_le⟩
    · exact h

lemma handleData_eq {bytes : Bytes} (hsize : bytes.length < 2 ^ 31)
    (timeoutFlag sniffHandler : Bool) :
    s.handleData cfg bytes timeoutFlag sniffHandler =
      if serialBufSize < s.dataLen + bytes.length then
        some (s.discard cfg (s.dataLen + bytes.length))
      else s.acceptData cfg bytes timeoutFlag sniffHandler := by
  unfold handleData
  rw [toInt_eq hsize]
  exact if_congr (by omega) rfl rfl

lemma InBounds.acceptData (h : s.InBounds) {bytes : Bytes}
    (hroom : s.dataLen + bytes.length ≤ serialBufSize) (timeoutFlag sniffHandler : Bool) :
    ∃ data sniffed, s.data.write s.dataLen bytes = some data ∧
      BufferCtx.feedSniffer { s with data, dataLen := s.dataLen + bytes.length } s.dataLen
        bytes.length timeoutFlag sniffHandler = some sniffed ∧ sniffed.1.InBounds ∧
      s.acceptData cfg bytes timeoutFlag sniffHandler =
        some ((sniffed.1.feedBridge cfg timeoutFlag).1,
          .read bytes :: (sniffed.2 ++ (sniffed.1.feedBridge cfg timeoutFlag).2)) := by
  obtain ⟨data, hwrite⟩ := s.data.exists_write hroom
  have hs' : InBounds { s with data, dataLen := s.dataLen + bytes.length } :=
    ⟨hroom, h.sniffLen_le⟩
  obtain ⟨sniffed, hsniff, hin⟩ :=
    hs'.feedSniffer s.dataLen (Nat.le_trans (Nat.le_add_left _ _) hroom) timeoutFlag sniffHandler
  refine ⟨data, sniffed, hwrite, hsniff, hin, ?_⟩
  simp [BufferCtx.acceptData, hwrite, hsniff]

lemma InBounds.handleUartEvent (h : s.InBounds) {e : UartEvent} (hsize : e.size < 2 ^ 31) :
    ∃ r, BufferCtx.handleUartEvent cfg s e = some r ∧ r.1.InBounds := by
  cases e with
  | data bytes timeoutFlag sniffHandler =>
    rw [BufferCtx.handleUartEvent, handleData_eq cfg hsize]
    split
    · exact ⟨_, rfl, inBounds_discard cfg _⟩
    · obtain ⟨data, sniffed, -, -, hin, hevent⟩ :=
        h.acceptData cfg (Nat.le_of_not_lt ‹_›) timeoutFlag sniffHandler
      exact ⟨_, hevent, hin.feedBridge cfg timeoutFlag⟩
  | fifoOvf ringLen | bufferFull ringLen => exact ⟨_, rfl, inBounds_discard cfg _⟩
  | rxBreak | parityErr | frameErr | other => exact ⟨_, rfl, h⟩

end BufferCtx

lemma inBounds_of_run {cfg : Config} {data sniffData : RxBuf} {log : List Obs} {s : BufferCtx}
    (hrun : (machine cfg data sniffData).Run (fun _ _ e => e.size < 2 ^ 31) log s) :
    s.InBounds := by
  refine hrun.invariant (P := fun _ s => s.InBounds) ⟨Nat.zero_le _, Nat.zero_le _⟩ ?_
  intro log s e s' out _ h hsize hstep
  obtain ⟨r, hr, hin⟩ := h.handleUartEvent cfg hsize
  obtain rfl : r = (s', out) := Option.some.inj (hr.symm.trans hstep)
  exact hin

/-! ## Frames -/

def undeliveredStep (bytes : Bytes) : Obs → Bytes
  | .read bytes' => bytes ++ bytes'
  | .flush => []
  | .drop _ => bytes
  | .sniff _ => bytes
  | .receive _ => []

def undelivered (log : List Obs) : Bytes := log.foldl undeliveredStep []

/-- The frames the sniffer was given. -/
def sniffed (log : List Obs) : List Bytes :=
  log.filterMap fun
    | .sniff frame => some frame
    | _ => none

/-- The frames the receive handler was given. -/
def received (log : List Obs) : List Bytes :=
  log.filterMap fun
    | .receive frame => some frame
    | _ => none

/-- A frame is what was read since the last delivery. -/
def FrameOk (earlier : List Obs) : Obs → Prop
  | .sniff frame => frame = undelivered earlier
  | .receive frame => frame = undelivered earlier
  | _ => True

structure InStep (log : List Obs) (s : BufferCtx) : Prop where
  sniffLen_eq : s.sniffLen = s.dataLen
  data_eq : s.data.1.take s.dataLen = undelivered log
  sniffData_eq : s.sniffData.1.take s.sniffLen = undelivered log
  sniffed_eq : sniffed log = received log
  frameOk : Entries FrameOk log

section InStep

variable (cfg : Config) {log : List Obs} {s : BufferCtx} {bytes : Bytes}

lemma undelivered_concat (log : List Obs) (o : Obs) :
    undelivered (log ++ [o]) = undeliveredStep (undelivered log) o := by
  rw [undelivered, List.foldl_append]
  rfl

lemma sniffed_append (log out : List Obs) : sniffed (log ++ out) = sniffed log ++ sniffed out :=
  List.filterMap_append

lemma received_append (log out : List Obs) :
    received (log ++ out) = received log ++ received out :=
  List.filterMap_append

lemma InStep.discard (h : InStep log s) (lost : ℕ) :
    InStep (log ++ (s.discard cfg lost).2) (s.discard cfg lost).1 := by
  have hflush : ∀ log' : List Obs, sniffed log' = received log' → Entries FrameOk log' →
      InStep (log' ++ [.flush]) (s.discard cfg lost).1 := by
    intro log' hsniffed hframes
    refine ⟨rfl, ?_, ?_, ?_, hframes.concat trivial⟩
    · rw [undelivered_concat]
      rfl
    · rw [undelivered_concat]
      rfl
    · rw [sniffed_append, received_append, hsniffed]
      rfl
  rw [BufferCtx.discard]
  -- the count of the lost bytes is reported first, if there is somebody to report it to
  split
  · rw [← List.append_assoc]
    refine hflush _ ?_ (h.frameOk.concat trivial)
    rw [sniffed_append, received_append, h.sniffed_eq]
    rfl
  · exact hflush log h.sniffed_eq h.frameOk

lemma InStep.read (h : InStep log s) {data sniffData : RxBuf}
    (hdata : s.data.write s.dataLen bytes = some data)
    (hsniff : s.sniffData.write s.sniffLen bytes = some sniffData) :
    InStep (log ++ [.read bytes])
      ⟨data, s.dataLen + bytes.length, sniffData, s.sniffLen + bytes.length⟩ where
  sniffLen_eq := by rw [h.sniffLen_eq]
  data_eq := by rw [RxBuf.take_of_write hdata, h.data_eq, undelivered_concat, undeliveredStep]
  sniffData_eq := by
    rw [RxBuf.take_of_write hsniff, h.sniffData_eq, undelivered_concat, undeliveredStep]
  sniffed_eq := by
    rw [sniffed_append, received_append, h.sniffed_eq]
    rfl
  frameOk := h.frameOk.concat trivial

lemma InStep.deliver (h : InStep log s) :
    InStep (log ++ [.sniff (s.sniffData.1.take s.sniffLen), .receive (s.data.1.take s.dataLen)])
      { s with dataLen := 0, sniffLen := 0 } := by
  have hframes : Entries FrameOk ((log ++ [.sniff (s.sniffData.1.take s.sniffLen)]) ++
      [.receive (s.data.1.take s.dataLen)]) := by
    have hsniff : FrameOk log (.sniff (s.sniffData.1.take s.sniffLen)) := h.sniffData_eq
    refine (h.frameOk.concat hsniff).concat ?_
    rw [FrameOk, undelivered_concat, undeliveredStep, h.data_eq]
  rw [List.append_assoc] at hframes
  refine ⟨rfl, ?_, ?_, ?_, hframes⟩
  · rw [undelivered, List.foldl_append]
    rfl
  · rw [undelivered, List.foldl_append]
    rfl
  · rw [sniffed_append, received_append, h.sniffed_eq]
    congr 1
    change [s.sniffData.1.take s.sniffLen] = [s.data.1.take s.dataLen]
    rw [h.sniffData_eq, h.data_eq]

lemma InStep.acceptData (h : InStep log s) (hreceive : cfg.receiveHandler = true)
    (hidle : cfg.waitForIdle = true) (hroom : s.dataLen + bytes.length ≤ serialBufSize)
    (timeoutFlag : Bool) {s' : BufferCtx} {out : List Obs}
    (hevent : s.acceptData cfg bytes timeoutFlag true = some (s', out)) :
    InStep (log ++ out) s' := by
  have hroom' : s.sniffLen + bytes.length ≤ serialBufSize := by
    rw [h.sniffLen_eq]
    exact hroom
  obtain ⟨data, hdata⟩ := s.data.exists_write hroom
  obtain ⟨sniffData, hsniff⟩ := s.sniffData.exists_write hroom'
  have hread := h.read hdata hsniff
  -- the sniffer does not start over, as it has the same room as the bridge
  have hstart : BufferCtx.sniffStart { s with data, dataLen := s.dataLen + bytes.length }
      bytes.length = s.sniffLen := if_neg (Nat.not_lt.2 hroom')
  have hfeed : BufferCtx.feedSniffer { s with data, dataLen := s.dataLen + bytes.length }
      s.dataLen bytes.length timeoutFlag true =
        some (BufferCtx.sniffUpTo { s with data, dataLen := s.dataLen + bytes.length } sniffData
          (s.sniffLen + bytes.length) timeoutFlag) := by
    rw [BufferCtx.feedSniffer, if_pos rfl, hstart, RxBuf.drop_take_of_write hdata, hsniff]
    rfl
  simp only [BufferCtx.acceptData, hdata, hfeed, Option.bind_eq_bind, Option.bind_some,
    Option.pure_def, Option.some.injEq, Prod.mk.injEq, BufferCtx.feedBridge, hreceive,
    hidle] at hevent
  obtain ⟨rfl, rfl⟩ := hevent
  -- without the flag the frame goes on, with it both handlers get what their buffers hold
  cases timeoutFlag with
  | false => exact hread
  | true =>
    have hdeliver := hread.deliver
    rw [List.append_assoc] at hdeliver
    exact hdeliver

lemma InStep.handleUartEvent (h : InStep log s) (hreceive : cfg.receiveHandler = true)
    (hidle : cfg.waitForIdle = true) {e : UartEvent} (hsize : e.size < 2 ^ 31)
    (hsniffed : e.sniffed = true) {s' : BufferCtx} {out : List Obs}
    (hevent : BufferCtx.handleUartEvent cfg s e = some (s', out)) : InStep (log ++ out) s' := by
  cases e with
  | data bytes timeoutFlag sniffHandler =>
    obtain rfl : sniffHandler = true := hsniffed
    rw [BufferCtx.handleUartEvent, BufferCtx.handleData_eq cfg hsize] at hevent
    split at hevent
    · cases hevent
      exact h.discard cfg _
    · exact h.acceptData cfg hreceive hidle (Nat.le_of_not_lt ‹_›) timeoutFlag hevent
  | fifoOvf ringLen | bufferFull ringLen =>
    cases hevent
    exact h.discard cfg _
  | rxBreak | parityErr | frameErr | other =>
    cases hevent
    rwa [List.append_nil]

end InStep

/-- The UART task stays within its buffers, whatever its events and handlers are. On a port whose
handler waits for the line to go idle, with a sniff handler from the start on, both handlers are
given the same frames, and each frame is what was read since the last delivery or flush. -/
theorem uart_accumulation (cfg : Config) (data sniffData : RxBuf) :
    (∀ log s, (machine cfg data sniffData).Run (fun _ _ e => e.size < 2 ^ 31) log s →
      s.dataLen ≤ serialBufSize ∧ s.sniffLen ≤ serialBufSize ∧
        ∀ e : UartEvent, e.size < 2 ^ 31 → (BufferCtx.handleUartEvent cfg s e).isSome) ∧
    (cfg.receiveHandler = true → cfg.waitForIdle = true → ∀ log s,
      (machine cfg data sniffData).Run (fun _ _ e => e.size < 2 ^ 31 ∧ e.sniffed = true) log s →
        sniffed log = received log ∧ Entries FrameOk log) := by
  constructor
  · intro log s hrun
    have hin := inBounds_of_run hrun
    refine ⟨hin.dataLen_le, hin.sniffLen_le, fun e hsize => ?_⟩
    obtain ⟨r, hr, -⟩ := hin.handleUartEvent cfg hsize
    exact Option.isSome_iff_exists.2 ⟨r, hr⟩
  · intro hreceive hidle log s hrun
    have h : InStep log s := by
      refine hrun.invariant (P := InStep) ⟨rfl, rfl, rfl, rfl, Entries.nil⟩ ?_
      intro log s e s' out _ h he hstep
      exact h.handleUartEvent cfg hreceive hidle he.1 he.2 hstep
    exact ⟨h.sniffed_eq, h.frameOk⟩

def zeroes : RxBuf := ⟨List.replicate serialBufSize 0, List.length_replicate⟩

/-- A frame in two pieces, a loss in the middle of another one, and a third. -/
theorem uart_accumulation_twoFrames :
    ∃ log s, (machine ⟨true, true, true⟩ zeroes zeroes).Run
        (fun _ _ e => e.size < 2 ^ 31 ∧ e.sniffed = true) log s ∧
      sniffed log = received log ∧ received log = [[1, 3, 0x10], [2, 4]] := by
  obtain ⟨log, s, hrun, hreceived⟩ := Machine.Run.exists_of_exec
    (machine ⟨true, true, true⟩ zeroes zeroes) (fun _ _ e => e.size < 2 ^ 31 ∧ e.sniffed = true)
    [.data [1, 3] false true, .data [0x10] true true, .data [7] false true, .fifoOvf 3,
      .data [2, 4] true true]
    (fun log _ => received log = [[1, 3, 0x10], [2, 4]]) (by decide +kernel)
  exact ⟨log, s, hrun, ((uart_accumulation _ _ _).2 rfl rfl log s hrun).1, hreceived⟩

end WbMge.Serial
