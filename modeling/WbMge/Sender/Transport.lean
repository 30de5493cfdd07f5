import WbMge.Decoder.Hex
import WbMge.PortManager.RawSend

/-!
# Frames between the web interface and the bus

A frame crosses the border between C and JavaScript as hexadecimal digits: those of `bytes_to_hex`
when the sniffer has seen it, which `hexToPayloadString` sets in pairs and which go back without
the blanks when it is sent again, and lower case ones when it comes from the packet sender.
-/

namespace WbMge.Sender

open Decoder (hex numbers parseHex)
open JsText (isWhitespace ofNat)
open PortManager (bytesToHex decodePairs hexPair hexStrToBytes toByte)

/-- A string of JSON, all of it in ASCII, as the firmware has it and as the page has it. -/
def toChars (t : JsText.Text) : Json.Text := t.map fun c => Char.ofNat c.toNat

def toUnits (t : Json.Text) : JsText.Text := t.map fun c => UInt16.ofNat c.toNat

/-- `match(/.{1,2}/g)` and `join(' ')`. -/
def hexToPayloadString : JsText.Text → JsText.Text
  | a :: b :: c :: raw => a :: b :: 32 :: hexToPayloadString (c :: raw)
  | raw => raw

/-- The text that `handleSend` of the packet sender makes of a frame. -/
def sentHex (bytes : Bytes) : JsText.Text :=
  bytes.flatMap fun b => (ofNat 16 b.toNat).leftpad 2 48

/-- The text that the sniffer's view makes of a row to send it again. -/
def resentHex (pl : JsText.Text) : JsText.Text := pl.filter (!isWhitespace ·)

/-- The two digits of a byte, upper or lower case. -/
def Spells (pair : Json.Text) (b : UInt8) : Prop :=
  pair.map CText.hexDigit = [some (b.toNat / 16), some (b.toNat % 16)]

lemma spells_byte (b : UInt8) : Spells (toChars ((ofNat 16 b.toNat).leftpad 2 48)) b ∧
    Spells (toChars (hex [b])) b ∧ toUnits (hexPair b) = hex [b] := by
  have hall : ∀ n < 256, Spells (toChars ((ofNat 16 n).leftpad 2 48)) (UInt8.ofNat n) ∧
      Spells (toChars (hex [UInt8.ofNat n])) (UInt8.ofNat n) ∧
      toUnits (hexPair (UInt8.ofNat n)) = hex [UInt8.ofNat n] := by
    -- the digits of the packet sender, of a row, and of the sniffer
    unfold Spells
    decide +kernel
  simpa using hall b.toNat b.toNat_lt

lemma hexStrToBytes_flatMap {f : UInt8 → Json.Text} (hf : ∀ b, Spells (f b) b) {bytes : Bytes}
    {outMax : ℕ} (hmax : bytes.length ≤ outMax) :
    hexStrToBytes (bytes.flatMap f) outMax = some bytes := by
  have hlen (b : UInt8) : (f b).length = 2 := by simpa using congrArg List.length (hf b)
  have hlength : (bytes.flatMap f).length = 2 * bytes.length := by
    simp [List.length_flatMap, hlen, mul_comm]
  have hpairs : decodePairs bytes.length (bytes.flatMap f) = some bytes := by
    clear hmax hlength
    induction bytes with
    | nil => rfl
    | cons b bytes ih =>
      obtain ⟨x, y, hpair⟩ := List.length_eq_two.1 (hlen b)
      have hdigits := hf b
      rw [hpair, Spells] at hdigits
      obtain ⟨hx, hy⟩ : CText.hexDigit x = _ ∧ CText.hexDigit y = _ := by simpa using hdigits
      have hb : toByte (16 * (b.toNat / 16 : ℕ) + (b.toNat % 16 : ℕ)) = b := by
        have hlt := b.toNat_lt
        rw [toByte, Int.emod_eq_of_lt (by omega) (by omega)]
        exact (congrArg UInt8.ofNat (by omega)).trans b.ofNat_toNat
      rw [List.flatMap_cons, hpair, List.length_cons, List.cons_append, List.cons_append,
        List.nil_append, PortManager.decodePairs_digits hx hy, ih, hb]
      rfl
  rw [hexStrToBytes, if_neg (by omega), hlength, Nat.mul_div_cancel_left _ Nat.two_pos, hpairs]

/-- The blanks between the digits make no difference. -/
lemma resentHex_hexToPayloadString (raw : JsText.Text) :
    resentHex (hexToPayloadString raw) = resentHex raw := by
  fun_induction hexToPayloadString raw with
  | case1 a b c raw ih =>
    have hblank : isWhitespace 32 = true := rfl
    simp only [resentHex, List.filter_cons] at ih ⊢
    rw [ih]
    simp [hblank]
  | case2 raw => rfl

lemma hex_eq_flatMap (frame : Bytes) : hex frame = frame.flatMap fun b => hex [b] := by
  simp [hex, numbers, Decoder.toHex, List.flatMap_map]

/-- The decoder of the page gets each frame that the sniffer has seen, and the firmware gets each
frame that is sent again or comes from the packet sender. -/
theorem hex_transport (frame : Bytes) (outMax outSize : ℕ) (hne : frame ≠ [])
    (hmax : frame.length ≤ outMax) (hlen : frame.length < 2 ^ 16)
    (hsize : 2 * frame.length < outSize) :
    let raw := toUnits (bytesToHex frame (UInt16.ofNat frame.length) outSize)
    hexStrToBytes (toChars (sentHex frame)) outMax = some frame ∧
      parseHex (hexToPayloadString raw) = some (numbers frame) ∧
      hexStrToBytes (toChars (resentHex (hexToPayloadString raw))) outMax = some frame := by
  have hraw : toUnits (bytesToHex frame (UInt16.ofNat frame.length) outSize) = hex frame := by
    rw [PortManager.bytesToHex_eq hlen hsize, hex_eq_flatMap, toUnits, List.map_flatMap]
    exact List.flatMap_congr fun b _ => (spells_byte b).2.2
  have hclean : resentHex (hexToPayloadString (hex frame)) = hex frame := by
    rw [resentHex_hexToPayloadString]
    refine List.filter_eq_self.2 fun c hc => ?_
    rw [JsText.isWhitespace_of_isDigit (Decoder.isDigit_of_mem_hex hc)]
    rfl
  refine ⟨?_, ?_, ?_⟩
  · rw [sentHex, toChars, List.map_flatMap]
    exact hexStrToBytes_flatMap (fun b => (spells_byte b).1) hmax
  · rw [hraw, ← Decoder.parseHex_hex hne, parseHex, parseHex, ← resentHex, ← resentHex,
      resentHex_hexToPayloadString]
  · rw [hraw, hclean, hex_eq_flatMap, toChars, List.map_flatMap]
    exact hexStrToBytes_flatMap (fun b => (spells_byte b).2.1) hmax

/-- A request for the server id. -/
theorem hex_transport_serverId :
    hexStrToBytes (toChars (sentHex [1, 17, 192, 44])) 265 = some [1, 17, 192, 44] :=
  (hex_transport _ 265 531 (by decide) (by decide) (by decide) (by decide)).1

end WbMge.Sender
