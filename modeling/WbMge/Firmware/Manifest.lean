import Mathlib.Data.List.Forall2
import WbMge.ToMathlib.JsText

/-!
# The release manifest

The web page looks for updates in a manifest from the network that lists the firmwares of all
devices. `IsBlock` says, by lines, where the block of a device is and what is in it, and
`parseSignatureBlock_eq_some_iff` that the parser returns a block exactly there. A signature that
begins with `#` is no signature: its line is a comment.
-/

namespace WbMge.Firmware

open JsText

/-! ## The model -/

structure ManifestError where
  message : Text
deriving Repr, DecidableEq

/-- `Record<string, string>`. -/
abbrev Block := Text → Option Text

/-- `Object.create(null)`. -/
def Block.empty : Block := fun _ => none

/-- `[^\s:]`. -/
def isKeyChar (c : UInt16) : Bool := !isWhitespace c && c != 58

/-- `SIGNATURE_LINE_RE.exec`: two spaces, a key and a colon. -/
def signatureLineRe (line : Text) : Option Text :=
  let rest := line.drop 2
  let key := rest.takeWhile isKeyChar
  if spaces 2 <+: line ∧ key ≠ [] ∧ rest.dropWhile isKeyChar = lit ":" then some key else none

/-- `PAIR_LINE_RE.exec`: four spaces or more, a key, a colon, one space or more and a bare word. -/
def pairLineRe (line : Text) : Option (Text × Text) :=
  let rest := line.dropWhile (· == space)
  let key := rest.takeWhile isKeyChar
  let tail := rest.dropWhile isKeyChar
  let value := (tail.drop 1).dropWhile (· == space)
  if 4 ≤ (line.takeWhile (· == space)).length ∧ key ≠ [] ∧ lit ": " <+: tail ∧ Bare value then
    some (key, value)
  else none

def forbiddenValuePrefixes : Text := lit "\"'\x7b[&*|>"

def indentOf (line : Text) : Nat := line.length - (trimStart line).length

/-- `replace(/\r$/, '')`. -/
def stripCr (rawLine : Text) : Text :=
  if rawLine.getLast? = some carriageReturn then rawLine.dropLast else rawLine

/-- The variables of `parseSignatureBlock`. -/
structure Scan where
  inReleases : Bool
  sawNestedLine : Bool
  inOurBlock : Bool
  block : Option Block

/-- How a turn of the loop ends: it goes on, it is left, the function returns, or it throws. -/
inductive Flow where
  | next (s : Scan)
  | leave (s : Scan)
  | ret (block : Option Block)
  | throw (e : ManifestError)

/-- The loop body of `parseSignatureBlock`, after the line ending. -/
def Scan.turn (signature line : Text) (s : Scan) : Flow :=
  let trimmed := trim line
  if trimmed = [] ∨ lit "#" <+: trimmed then .next s
  else
    let indent := indentOf line
    if !s.inReleases then
      if indent = 0 ∧ trimmed = lit "releases:" then .next { s with inReleases := true }
      else .next s
    else if indent = 0 then .leave s
    else
      let s := if indent = 2 then { s with sawNestedLine := true } else s
      if indent ≤ 2 then
        if s.inOurBlock then .ret s.block
        else if signatureLineRe line = some signature then
          .next { s with inOurBlock := true, block := some .empty }
        else .next s
      else if !s.inOurBlock then .next s
      else
        match pairLineRe line with
        | none => .throw ⟨lit "malformed line in the " ++ signature ++ lit " block: " ++ line⟩
        | some (key, value) =>
          if value.head?.any forbiddenValuePrefixes.contains then
            .throw ⟨lit "unsupported YAML value in the " ++ signature ++ lit " block: " ++ line⟩
          else .next { s with block := s.block.map fun b => Function.update b key (some value) }

/-- What follows the loop of `parseSignatureBlock`. -/
def Scan.finish (s : Scan) : Except ManifestError (Option Block) :=
  if !s.inReleases || !s.sawNestedLine then .error ⟨lit "manifest is empty or truncated"⟩
  else .ok s.block

/-- The loop of `parseSignatureBlock`, over the lines without their line endings. -/
def Scan.loop (signature : Text) : List Text → Scan → Except ManifestError (Option Block)
  | [], s => s.finish
  | line :: rest, s =>
    match s.turn signature line with
    | .next s => loop signature rest s
    | .leave s => s.finish
    | .ret block => .ok block
    | .throw e => .error e

def manifestLines (text : Text) : List Text := (lines text).map stripCr

def parseSignatureBlock (text signature : Text) : Except ManifestError (Option Block) :=
  Scan.loop signature (manifestLines text) ⟨false, false, false, none⟩

/-! ### Versions -/

def fwReleasesBase : Text := lit "https://fw-releases.wirenboard.com/"
def firmwareSuffix : Text := lit ".bin"

def isDigit (c : UInt16) : Bool := 48 ≤ c && c ≤ 57

/-- `[A-Za-z0-9.]`. -/
def isSuffixChar (c : UInt16) : Bool :=
  isDigit c || (65 ≤ c && c ≤ 90) || (97 ≤ c && c ≤ 122) || c == 46

/-- `VERSION_RE.test`: three numbers with dots between them, and perhaps a suffix after a plus or a
minus. -/
def versionRe (version : Text) : Bool :=
  let major := version.takeWhile isDigit
  let rest := version.dropWhile isDigit
  let minor := (rest.drop 1).takeWhile isDigit
  let rest' := (rest.drop 1).dropWhile isDigit
  let patch := (rest'.drop 1).takeWhile isDigit
  let suffix := (rest'.drop 1).dropWhile isDigit
  major ≠ [] && rest.head? = some 46 && minor ≠ [] && rest'.head? = some 46 && patch ≠ [] &&
    (suffix = [] || ((suffix.head? = some 43 || suffix.head? = some 45) && suffix.drop 1 ≠ [] &&
      (suffix.drop 1).all isSuffixChar))

def parseVersionFromPath (path : Text) : Option Text :=
  let name := ((path.splitOn 47).getLast?).getD []
  if firmwareSuffix <:+ name then
    let version := name.take (name.length - firmwareSuffix.length)
    if versionRe version then some version else none
  else none

inductive UpdateChannel where
  | stable
  | testing
deriving Repr, DecidableEq

def UpdateChannel.name : UpdateChannel → Text
  | stable => lit "stable"
  | testing => lit "testing"

structure Offer where
  version : Text
  url : Text
deriving Repr, DecidableEq

/-- A path that is missing or empty is no path. -/
def channelInfo (block : Block) (channel : UpdateChannel) : Option Offer :=
  ((block channel.name).filter (· ≠ [])).bind fun path =>
    (parseVersionFromPath path).map fun version =>
      ⟨version, fwReleasesBase ++ path.dropWhile (· == 47)⟩

structure ChannelsView where
  stable : Option Offer
  testing : Option Offer
deriving Repr, DecidableEq

def describeChannels (block : Block) : ChannelsView :=
  ⟨channelInfo block .stable, channelInfo block .testing⟩

/-- `channels[channel]`. -/
def ChannelsView.get (channels : ChannelsView) : UpdateChannel → Option Offer
  | .stable => channels.stable
  | .testing => channels.testing

inductive ReleaseLookup where
  | ok (offer : Offer)
  | noSignature
  | unavailable
deriving Repr, DecidableEq

structure ReleaseResolution where
  channels : Option ChannelsView
  release : ReleaseLookup
deriving Repr, DecidableEq

/-- What `resolveRelease` makes of a block. -/
def Block.release (block : Block) (channel : UpdateChannel) : ReleaseResolution :=
  let channels := describeChannels block
  ⟨some channels, (channels.get channel).elim .unavailable .ok⟩

def resolveRelease (text signature : Text) (channel : UpdateChannel) :
    Except ManifestError ReleaseResolution :=
  (if signature ≠ [] then parseSignatureBlock text signature else .ok none).map fun block =>
    block.elim ⟨none, .noSignature⟩ fun block => block.release channel

/-! ## Blocks, by lines -/

/-- The line is neither empty nor a comment. -/
def Significant (line : Text) : Prop := ¬ (trim line = [] ∨ lit "#" <+: trim line)
deriving Decidable

def IsReleases (line : Text) : Prop :=
  ∃ ws : Text, (∀ c ∈ ws, isWhitespace c = true) ∧ line = lit "releases:" ++ ws

/-- A word of the characters of keys. -/
def IsKey (key : Text) : Prop := key ≠ [] ∧ ∀ c ∈ key, isKeyChar c = true

lemma isKey_iff {key : Text} : IsKey key ↔ key ≠ [] ∧ key.all isKeyChar = true := by
  rw [IsKey, List.all_eq_true]

instance : DecidablePred IsKey := fun _ => decidable_of_iff' _ isKey_iff

def signatureLine (signature : Text) : Text := spaces 2 ++ (signature ++ lit ":")

/-- The line opens the block of the signature. -/
def IsSignatureLine (signature line : Text) : Prop :=
  Significant line ∧ line = signatureLine signature

structure IsPair (line : Text) (pair : Text × Text) : Prop where
  shape : ∃ n m, 4 ≤ n ∧ 1 ≤ m ∧
    line = spaces n ++ (pair.1 ++ (lit ":" ++ (spaces m ++ pair.2)))
  key : IsKey pair.1
  value : Bare pair.2
  allowed : ∀ c ∈ pair.2.head?, c ∉ forbiddenValuePrefixes

/-- Where a block is: the lines of the text before the one that opens the releases, from there to
the line of the signature, those of the block and those below it. -/
structure IsBlockAt (text : Text) (isOurs : Text → Prop) (before : List Text) (opening : Text)
    (above : List Text) (ours : Text) (inside below : List Text) : Prop where
  lines_eq : manifestLines text = before ++ opening :: (above ++ ours :: (inside ++ below))
  before : ∀ line ∈ before, ¬ IsReleases line
  opening : IsReleases opening
  above : ∀ line ∈ above, (Significant line → indentOf line ≠ 0) ∧ ¬ isOurs line
  ours : isOurs ours
  inside : ∀ line ∈ inside, Significant line → 2 < indentOf line
  below : ∀ line ∈ below.head?, Significant line ∧ indentOf line ≤ 2

/-- The pairs of the block that `isOurs` opens, the last one of a key counting. -/
def IsBlock (text : Text) (isOurs : Text → Prop) (block : Block) : Prop :=
  ∃ before opening above ours inside below pairs,
    IsBlockAt text isOurs before opening above ours inside below ∧
      List.Forall₂ IsPair (inside.filter (Significant ·)) pairs ∧
      block = fun key => pairs.reverse.lookup key

variable {text signature line key value : Text} {block : Block}

/-! ## The patterns -/

lemma isKeyChar_colon : isKeyChar 58 = false := by decide

lemma isKeyChar_space : isKeyChar space = false := by decide

lemma lit_colon : lit ":" = [58] := by decide

lemma isWhitespace_of_isKeyChar {c : UInt16} (h : isKeyChar c = true) :
    isWhitespace c = false := by
  rw [isKeyChar, Bool.and_eq_true] at h
  simpa using h.1

lemma isKeyChar_ne_space {c : UInt16} (h : isKeyChar c = true) : (c == space) = false := by
  rw [beq_eq_false_iff_ne]
  rintro rfl
  simp [isKeyChar_space] at h

lemma IsKey.takeWhile (hk : IsKey key) (t : Text) :
    (key ++ (lit ":" ++ t)).takeWhile isKeyChar = key :=
  takeWhile_run hk.2 (by simp [lit_colon, isKeyChar_colon])

lemma IsKey.dropWhile (hk : IsKey key) (t : Text) :
    (key ++ (lit ":" ++ t)).dropWhile isKeyChar = lit ":" ++ t :=
  dropWhile_run hk.2 (by simp [lit_colon, isKeyChar_colon])

lemma isKey_takeWhile {t : Text} (h : t.takeWhile isKeyChar ≠ []) :
    IsKey (t.takeWhile isKeyChar) :=
  ⟨h, fun _ => List.mem_takeWhile_imp⟩

lemma signatureLineRe_eq_some_iff :
    signatureLineRe line = some key ↔ IsKey key ∧ line = signatureLine key := by
  constructor
  · intro h
    rw [signatureLineRe, Option.ite_none_right_eq_some] at h
    obtain ⟨⟨⟨rest, rfl⟩, hne, hcolon⟩, hkey⟩ := h
    have hrest : (spaces 2 ++ rest).drop 2 = rest := rfl
    rw [hrest] at hne hcolon hkey
    obtain rfl := Option.some.inj hkey
    exact ⟨isKey_takeWhile hne, by rw [signatureLine, ← hcolon, List.takeWhile_append_dropWhile]⟩
  · rintro ⟨hk, rfl⟩
    have hrest : (signatureLine key).drop 2 = key ++ (lit ":" ++ []) := by
      rw [List.append_nil]
      rfl
    rw [signatureLineRe, hrest, hk.takeWhile, hk.dropWhile,
      if_pos ⟨List.prefix_append .., hk.1, List.append_nil _⟩]

lemma IsKey.isKeyChar_head? (hk : IsKey key) (t : Text) :
    ∀ c ∈ (key ++ t).head?, isKeyChar c = true := by
  obtain ⟨hne, hkey⟩ := hk
  cases key with
  | nil => exact absurd rfl hne
  | cons c key =>
    rintro _ ⟨⟩
    exact hkey c (List.mem_cons_self ..)

lemma IsKey.takeWhile_space (hk : IsKey key) (n : Nat) (t : Text) :
    (spaces n ++ (key ++ t)).takeWhile (· == space) = spaces n :=
  takeWhile_run (fun _ => beq_space_of_mem_spaces)
    fun c hc => isKeyChar_ne_space (hk.isKeyChar_head? t c hc)

lemma IsKey.dropWhile_space (hk : IsKey key) (n : Nat) (t : Text) :
    (spaces n ++ (key ++ t)).dropWhile (· == space) = key ++ t :=
  dropWhile_run (fun _ => beq_space_of_mem_spaces)
    fun c hc => isKeyChar_ne_space (hk.isKeyChar_head? t c hc)

lemma dropWhile_space_of_bare (hv : Bare value) (m : Nat) :
    (spaces m ++ value).dropWhile (· == space) = value := by
  refine dropWhile_run (fun _ => beq_space_of_mem_spaces) fun c hc => ?_
  rw [beq_eq_false_iff_ne]
  rintro rfl
  exact absurd (hv.2 space (List.mem_of_mem_head? hc)) (by decide)

lemma pairLineRe_eq_some_iff :
    pairLineRe line = some (key, value) ↔ IsKey key ∧ Bare value ∧
      ∃ n m, 4 ≤ n ∧ 1 ≤ m ∧ line = spaces n ++ (key ++ (lit ":" ++ (spaces m ++ value))) := by
  constructor
  · intro h
    rw [pairLineRe, Option.ite_none_right_eq_some] at h
    obtain ⟨⟨hn, hne, ⟨rest, htail⟩, hbare⟩, hpair⟩ := h
    simp only [Option.some.injEq, Prod.mk.injEq] at hpair
    obtain ⟨rfl, rfl⟩ := hpair
    refine ⟨isKey_takeWhile hne, hbare, _, (rest.takeWhile (· == space)).length + 1, hn,
      Nat.le_add_left .., ?_⟩
    -- The space that the pattern asks for is the first of those after the colon.
    have hspaces : spaces ((rest.takeWhile (· == space)).length + 1) =
        space :: rest.takeWhile (· == space) := by
      rw [eq_spaces_of_forall (t := rest.takeWhile (· == space)) fun _ => List.mem_takeWhile_imp]
      simp [spaces, List.replicate_succ]
    have hrest : space :: rest = spaces ((rest.takeWhile (· == space)).length + 1) ++
        (space :: rest).dropWhile (· == space) := by
      rw [hspaces, List.dropWhile_cons_of_pos (by simp), List.cons_append,
        List.takeWhile_append_dropWhile]
    have hcolon : lit ": " ++ rest = lit ":" ++ space :: rest := rfl
    have hdrop : (lit ": " ++ rest).drop 1 = space :: rest := rfl
    rw [← htail, hdrop, ← hrest, ← hcolon, htail, List.takeWhile_append_dropWhile,
      ← eq_spaces_of_forall (t := line.takeWhile (· == space)) fun _ => List.mem_takeWhile_imp,
      List.takeWhile_append_dropWhile]
  · rintro ⟨hk, hbare, n, m, hn, hm, rfl⟩
    obtain ⟨m, rfl⟩ := Nat.exists_eq_add_of_le' hm
    have hvalue : ((lit ":" ++ (spaces (m + 1) ++ value)).drop 1).dropWhile (· == space) = value :=
      dropWhile_space_of_bare hbare (m + 1)
    rw [pairLineRe, hk.takeWhile_space, hk.dropWhile_space, hk.takeWhile, hk.dropWhile, hvalue,
      if_pos ⟨by rwa [spaces, List.length_replicate], hk.1, ⟨spaces m ++ value, rfl⟩, hbare⟩]

/-! ## Single lines -/

lemma indentOf_eq_zero_iff : indentOf line = 0 ↔ trimStart line = line :=
  length_sub_trimStart_eq_zero_iff

lemma isReleases_iff : IsReleases line ↔ indentOf line = 0 ∧ trim line = lit "releases:" := by
  have hword : ∀ c ∈ (lit "releases:").getLast?, isWhitespace c = false := by
    rintro _ ⟨⟩
    decide
  have hhead : ∀ ws : Text, ∀ c ∈ (lit "releases:" ++ ws).head?, isWhitespace c = false := by
    rintro ws _ ⟨⟩
    decide
  rw [indentOf_eq_zero_iff, IsReleases]
  constructor
  · rintro ⟨ws, hws, rfl⟩
    have hstart : trimStart (lit "releases:" ++ ws) = lit "releases:" ++ ws :=
      trimStart_eq_self_iff.2 (hhead ws)
    exact ⟨hstart, by rw [trim, hstart, (rdropWhile_eq_iff hword).2 ⟨ws, hws, rfl⟩]⟩
  · rintro ⟨hstart, htrim⟩
    rw [trim, hstart] at htrim
    exact (rdropWhile_eq_iff hword).1 htrim

instance : DecidablePred IsReleases := fun _ => decidable_of_iff' _ isReleases_iff

lemma IsReleases.significant (h : IsReleases line) : Significant line := by
  rw [Significant, (isReleases_iff.1 h).2]
  decide

lemma IsKey.indentOf_spaces_append (hk : IsKey key) (n : Nat) (t : Text) :
    indentOf (spaces n ++ (key ++ t)) = n := by
  have hws : ∀ c ∈ spaces n, isWhitespace c = true := by
    intro c hc
    rw [(List.mem_replicate.1 hc).2]
    decide
  have ht : ∀ c ∈ (key ++ t).head?, isWhitespace c = false :=
    fun c hc => isWhitespace_of_isKeyChar (hk.isKeyChar_head? t c hc)
  rw [indentOf, trimStart, dropWhile_run hws ht, List.length_append, Nat.add_sub_cancel_right,
    spaces, List.length_replicate]

lemma indentOf_signatureLine (hk : IsKey key) : indentOf (signatureLine key) = 2 :=
  hk.indentOf_spaces_append 2 (lit ":")

lemma isPair_iff {pair : Text × Text} :
    IsPair line pair ↔
      pairLineRe line = some pair ∧ pair.2.head?.any forbiddenValuePrefixes.contains = false := by
  obtain ⟨key, value⟩ := pair
  have hallowed : (∀ c ∈ value.head?, c ∉ forbiddenValuePrefixes) ↔
      value.head?.any forbiddenValuePrefixes.contains = false := by
    cases value.head? <;> simp
  rw [pairLineRe_eq_some_iff, ← hallowed]
  exact ⟨fun h => ⟨⟨h.key, h.value, h.shape⟩, h.allowed⟩,
    fun h => ⟨h.1.2.2, h.1.1, h.1.2.1, h.2⟩⟩

def Opens (signature line : Text) : Prop :=
  Significant line ∧ signatureLineRe line = some signature
deriving Decidable

lemma opens_eq (hs : IsKey signature) : Opens signature = IsSignatureLine signature := by
  funext line
  rw [Opens, IsSignatureLine, signatureLineRe_eq_some_iff, and_iff_right hs]

lemma Opens.eq_signatureLine (h : Opens signature line) : line = signatureLine signature :=
  (signatureLineRe_eq_some_iff.1 h.2).2

lemma Opens.indentOf_eq (h : Opens signature line) : indentOf line = 2 := by
  obtain ⟨hs, rfl⟩ := signatureLineRe_eq_some_iff.1 h.2
  exact indentOf_signatureLine hs

def Block.assign (block : Block) (pairs : List (Text × Text)) : Block :=
  pairs.foldl (fun block pair => Function.update block pair.1 (some pair.2)) block

lemma Block.assign_apply (pairs : List (Text × Text)) :
    block.assign pairs key = (pairs.reverse.lookup key).or (block key) := by
  induction pairs generalizing block with
  | nil => rfl
  | cons pair pairs ih =>
    rw [assign, List.foldl_cons, ← assign, ih, List.reverse_cons, List.lookup_append,
      Option.or_assoc]
    congr 1
    obtain ⟨k, value⟩ := pair
    by_cases h : key = k
    · simp [h]
    · simp [List.lookup_cons, h, beq_eq_false_iff_ne.2 h]

lemma Block.assign_empty (pairs : List (Text × Text)) :
    Block.empty.assign pairs = fun key => pairs.reverse.lookup key := by
  funext key
  rw [assign_apply, empty, Option.or_none]

/-! ## The loop

It goes through three states: before the releases, above our block, and in it. -/

namespace Scan

def init : Scan := ⟨false, false, false, none⟩
def above (nested : Bool) : Scan := ⟨true, nested, false, none⟩
def inside (block : Block) : Scan := ⟨true, true, true, some block⟩

def nested (line : Text) : Bool := Significant line ∧ indentOf line = 2

variable {n : Bool} {pair : Text × Text}

lemma turn_of_not_significant {s : Scan} (h : ¬ Significant line) :
    s.turn signature line = .next s :=
  if_pos (not_not.1 h)

lemma turn_init (h : ¬ IsReleases line) : init.turn signature line = .next init := by
  by_cases hs : Significant line
  · rw [isReleases_iff] at h
    rw [turn, if_neg hs]
    simp [init, h]
  · exact turn_of_not_significant hs

lemma turn_init_of_isReleases (h : IsReleases line) :
    init.turn signature line = .next (above false) := by
  rw [turn, if_neg h.significant]
  simp [init, above, isReleases_iff.1 h]

lemma turn_above (h : Significant line → indentOf line ≠ 0) (ho : ¬ Opens signature line) :
    (above n).turn signature line = .next (above (n || nested line)) := by
  by_cases hs : Significant line
  · have hre : signatureLineRe line ≠ some signature := fun hre => ho ⟨hs, hre⟩
    rw [turn, if_neg hs]
    by_cases h2 : indentOf line = 2
    · simp [above, nested, hs, h2, hre]
    · simp [above, nested, h hs, h2, hre]
  · rw [turn_of_not_significant hs]
    simp [nested, hs]

lemma turn_above_of_indent_zero (hs : Significant line) (h : indentOf line = 0) :
    (above n).turn signature line = .leave (above n) := by
  rw [turn, if_neg hs]
  simp [above, h]

lemma turn_above_of_opens (ho : Opens signature line) :
    (above n).turn signature line = .next (inside .empty) := by
  rw [turn, if_neg ho.1]
  simp [above, inside, ho.indentOf_eq, ho.2]

lemma turn_inside_of_isPair (hs : Significant line) (h : 2 < indentOf line)
    (hp : IsPair line pair) :
    (inside block).turn signature line =
      .next (inside (Function.update block pair.1 (some pair.2))) := by
  obtain ⟨hre, hallowed⟩ := isPair_iff.1 hp
  have h0 : indentOf line ≠ 0 := by omega
  have h2 : indentOf line ≠ 2 := by omega
  rw [turn, if_neg hs]
  simp [inside, h0, h2, not_le.2 h, hre, hallowed]

lemma exists_turn_inside_eq_throw (hs : Significant line) (h : 2 < indentOf line)
    (hp : ∀ pair, ¬ IsPair line pair) :
    ∃ e, (inside block).turn signature line = .throw e := by
  have h0 : indentOf line ≠ 0 := by omega
  have h2 : indentOf line ≠ 2 := by omega
  rw [turn, if_neg hs]
  simp only [inside, h0, h2, not_le.2 h, Bool.not_true, Bool.false_eq_true, if_false]
  cases hre : pairLineRe line with
  | none => exact ⟨_, rfl⟩
  | some pair =>
    have hforbidden : pair.2.head?.any forbiddenValuePrefixes.contains = true := by
      simpa [isPair_iff, hre] using hp pair
    exact ⟨_, if_pos hforbidden⟩

/-! ### Stretches of lines -/

variable {lines before rest under inner below : List Text} {pairs : List (Text × Text)}

lemma loop_cons_of_next {s s' : Scan} (h : s.turn signature line = .next s') :
    loop signature (line :: rest) s = loop signature rest s' := by
  rw [loop, h]

lemma loop_before (h : ∀ line ∈ before, ¬ IsReleases line) :
    loop signature (before ++ rest) init = loop signature rest init := by
  induction before with
  | nil => rfl
  | cons line before ih =>
    rw [List.cons_append, loop_cons_of_next (turn_init (h line (List.mem_cons_self ..)))]
    exact ih fun line hl => h line (List.mem_cons_of_mem _ hl)

lemma loop_under (h : ∀ line ∈ under, (Significant line → indentOf line ≠ 0) ∧
      ¬ Opens signature line) :
    loop signature (under ++ rest) (above n) =
      loop signature rest (above (n || under.any nested)) := by
  induction under generalizing n with
  | nil => simp
  | cons line under ih =>
    obtain ⟨hindent, hopens⟩ := h line (List.mem_cons_self ..)
    rw [List.cons_append, loop_cons_of_next (turn_above hindent hopens),
      ih fun line hl => h line (List.mem_cons_of_mem _ hl), List.any_cons, Bool.or_assoc]

lemma loop_above_eq_ok_iff {r : Option Block}
    (h : ∀ line ∈ below.head?, Significant line ∧ indentOf line = 0) :
    loop signature below (above n) = .ok r ↔ n = true ∧ r = none := by
  have hfinish : loop signature below (above n) = (above n).finish := by
    cases below with
    | nil => rfl
    | cons line below =>
      obtain ⟨hs, hindent⟩ := h line rfl
      rw [loop, turn_above_of_indent_zero hs hindent]
  rw [hfinish]
  cases n <;> simp [finish, above, eq_comm]

lemma loop_inner (h : ∀ line ∈ inner, Significant line → 2 < indentOf line)
    (hp : List.Forall₂ IsPair (inner.filter (Significant ·)) pairs) :
    loop signature (inner ++ rest) (inside block) =
      loop signature rest (inside (block.assign pairs)) := by
  induction inner generalizing block pairs with
  | nil =>
    obtain rfl := List.forall₂_nil_left_iff.1 hp
    rfl
  | cons line inner ih =>
    have h' : ∀ line ∈ inner, Significant line → 2 < indentOf line :=
      fun line hl => h line (List.mem_cons_of_mem _ hl)
    rw [List.cons_append]
    by_cases hs : Significant line
    · rw [List.filter_cons_of_pos (by simpa using hs)] at hp
      obtain ⟨pair, pairs, hpair, hpairs, rfl⟩ := List.forall₂_cons_left_iff.1 hp
      rw [loop_cons_of_next
        (turn_inside_of_isPair hs (h line (List.mem_cons_self ..) hs) hpair), ih h' hpairs]
      rfl
    · rw [List.filter_cons_of_neg (by simpa using hs)] at hp
      rw [loop_cons_of_next (turn_of_not_significant hs), ih h' hp]

lemma exists_pairs_of_loop_inner {r : Option Block}
    (h : ∀ line ∈ inner, Significant line → 2 < indentOf line)
    (hr : loop signature (inner ++ rest) (inside block) = .ok r) :
    ∃ pairs, List.Forall₂ IsPair (inner.filter (Significant ·)) pairs := by
  induction inner generalizing block with
  | nil => exact ⟨[], .nil⟩
  | cons line inner ih =>
    have h' : ∀ line ∈ inner, Significant line → 2 < indentOf line :=
      fun line hl => h line (List.mem_cons_of_mem _ hl)
    rw [List.cons_append] at hr
    by_cases hs : Significant line
    · have hindent := h line (List.mem_cons_self ..) hs
      rw [List.filter_cons_of_pos (by simpa using hs)]
      by_cases hp : ∃ pair, IsPair line pair
      · obtain ⟨pair, hpair⟩ := hp
        rw [loop_cons_of_next (turn_inside_of_isPair hs hindent hpair)] at hr
        obtain ⟨pairs, hpairs⟩ := ih h' hr
        exact ⟨pair :: pairs, .cons hpair hpairs⟩
      · obtain ⟨e, he⟩ : ∃ e, (inside block).turn signature line = .throw e :=
          exists_turn_inside_eq_throw hs hindent (not_exists.1 hp)
        rw [loop, he] at hr
        cases hr
    · rw [List.filter_cons_of_neg (by simpa using hs)]
      rw [loop_cons_of_next (turn_of_not_significant hs)] at hr
      exact ih h' hr

lemma loop_below (h : ∀ line ∈ below.head?, Significant line ∧ indentOf line ≤ 2) :
    loop signature below (inside block) = .ok (some block) := by
  cases below with
  | nil => rfl
  | cons line below =>
    obtain ⟨hs, hindent⟩ := h line rfl
    rw [loop, turn, if_neg hs]
    by_cases h0 : indentOf line = 0
    · simp [inside, h0, finish]
    · by_cases h2 : indentOf line = 2 <;> simp [inside, h0, h2, hindent]

end Scan

/-! ## What the parser returns -/

/-- The text of an intact manifest that does not have our block: the lines before the one that opens
the releases, those under it, of which one has an indent of two, and what is left. -/
structure IsAbsentAt (text signature : Text) (before : List Text) (opening : Text)
    (under below : List Text) : Prop where
  lines_eq : manifestLines text = before ++ opening :: (under ++ below)
  before : ∀ line ∈ before, ¬ IsReleases line
  opening : IsReleases opening
  nested : ∃ line ∈ under, Significant line ∧ indentOf line = 2
  under : ∀ line ∈ under, (Significant line → indentOf line ≠ 0) ∧ ¬ Opens signature line
  below : ∀ line ∈ below.head?, Significant line ∧ indentOf line = 0

section Parser

variable {before above under inside below : List Text} {opening ours : Text}
  {pairs : List (Text × Text)}

lemma parseSignatureBlock_of_isBlockAt
    (h : IsBlockAt text (Opens signature) before opening above ours inside below)
    (hp : List.Forall₂ IsPair (inside.filter (Significant ·)) pairs) :
    parseSignatureBlock text signature = .ok (some (Block.empty.assign pairs)) := by
  change Scan.loop signature (manifestLines text) .init = _
  rw [h.lines_eq, Scan.loop_before h.before,
    Scan.loop_cons_of_next (Scan.turn_init_of_isReleases h.opening), Scan.loop_under h.above,
    Scan.loop_cons_of_next (Scan.turn_above_of_opens h.ours), Scan.loop_inner h.inside hp,
    Scan.loop_below h.below]

lemma parseSignatureBlock_of_isAbsentAt
    (h : IsAbsentAt text signature before opening under below) :
    parseSignatureBlock text signature = .ok none := by
  obtain ⟨line, hl, hs⟩ := h.nested
  change Scan.loop signature (manifestLines text) .init = _
  rw [h.lines_eq, Scan.loop_before h.before,
    Scan.loop_cons_of_next (Scan.turn_init_of_isReleases h.opening), Scan.loop_under h.under,
    Bool.false_or, Scan.loop_above_eq_ok_iff h.below]
  exact ⟨List.any_eq_true.2 ⟨line, hl, decide_eq_true hs⟩, rfl⟩

lemma exists_first {p : Text → Prop} [DecidablePred p] (lines : List Text) :
    ∃ before rest, lines = before ++ rest ∧ (∀ line ∈ before, ¬ p line) ∧
      ∀ line ∈ rest.head?, p line := by
  refine ⟨lines.takeWhile (¬ p ·), lines.dropWhile (¬ p ·),
    List.takeWhile_append_dropWhile.symm, fun line hl => ?_, fun line hl => ?_⟩
  · simpa using List.mem_takeWhile_imp hl
  · have := List.head?_dropWhile_not (fun line => decide (¬ p line)) lines
    rw [Option.mem_def.1 hl] at this
    simpa using this

lemma cases_of_parseSignatureBlock {r : Option Block}
    (h : parseSignatureBlock text signature = .ok r) :
    (∃ before opening above ours inside below pairs,
      IsBlockAt text (Opens signature) before opening above ours inside below ∧
        List.Forall₂ IsPair (inside.filter (Significant ·)) pairs ∧
        r = some (Block.empty.assign pairs)) ∨
      ∃ before opening under below,
        IsAbsentAt text signature before opening under below ∧ r = none := by
  change Scan.loop signature (manifestLines text) .init = _ at h
  obtain ⟨before, rest, hlines, hbefore, hrest⟩ := exists_first (p := IsReleases)
    (manifestLines text)
  rw [hlines, Scan.loop_before hbefore] at h
  cases rest with
  | nil => cases h
  | cons opening rest =>
    have hopening : IsReleases opening := hrest opening rfl
    rw [Scan.loop_cons_of_next (Scan.turn_init_of_isReleases hopening)] at h
    obtain ⟨under, rest, rfl, hunder, hrest⟩ := exists_first
      (p := fun line => (Significant line ∧ indentOf line = 0) ∨ Opens signature line) rest
    have hunder' : ∀ line ∈ under, (Significant line → indentOf line ≠ 0) ∧
        ¬ Opens signature line :=
      fun line hl => ⟨fun hs h0 => hunder line hl (.inl ⟨hs, h0⟩),
        fun ho => hunder line hl (.inr ho)⟩
    rw [Scan.loop_under hunder', Bool.false_or] at h
    by_cases hopens : ∃ ours, rest.head? = some ours ∧ Opens signature ours
    · obtain ⟨ours, hours, hopens⟩ := hopens
      obtain ⟨rest, rfl⟩ := List.head?_eq_some_iff.1 hours
      rw [Scan.loop_cons_of_next (Scan.turn_above_of_opens hopens)] at h
      obtain ⟨inside, below, rfl, hinside, hbelow⟩ := exists_first
        (p := fun line => Significant line ∧ indentOf line ≤ 2) rest
      have hinside' : ∀ line ∈ inside, Significant line → 2 < indentOf line :=
        fun line hl hs => not_le.1 fun hle => hinside line hl ⟨hs, hle⟩
      obtain ⟨pairs, hpairs⟩ := Scan.exists_pairs_of_loop_inner hinside' h
      rw [Scan.loop_inner hinside' hpairs, Scan.loop_below hbelow] at h
      exact .inl ⟨before, opening, under, ours, inside, below, pairs,
        ⟨hlines, hbefore, hopening, hunder', hopens, hinside', hbelow⟩, hpairs,
        (Except.ok.inj h).symm⟩
    · have hbelow : ∀ line ∈ rest.head?, Significant line ∧ indentOf line = 0 :=
        fun line hl => (hrest line hl).resolve_right fun ho => hopens ⟨line, hl, ho⟩
      rw [Scan.loop_above_eq_ok_iff hbelow] at h
      obtain ⟨hnested, rfl⟩ := h
      obtain ⟨line, hl, hs⟩ := List.any_eq_true.1 hnested
      exact .inr ⟨before, opening, under, rest,
        ⟨hlines, hbefore, hopening, ⟨line, hl, of_decide_eq_true hs⟩, hunder', hbelow⟩, rfl⟩

lemma parseSignatureBlock_eq_some_iff :
    parseSignatureBlock text signature = .ok (some block) ↔
      IsBlock text (Opens signature) block := by
  constructor
  · intro h
    obtain ⟨before, opening, above, ours, inside, below, pairs, hat, hpairs, hb⟩ |
      ⟨_, _, _, _, _, hb⟩ := cases_of_parseSignatureBlock h
    · refine ⟨before, opening, above, ours, inside, below, pairs, hat, hpairs, ?_⟩
      rw [Option.some.inj hb, Block.assign_empty]
    · cases hb
  · rintro ⟨before, opening, above, ours, inside, below, pairs, hat, hpairs, rfl⟩
    rw [parseSignatureBlock_of_isBlockAt hat hpairs, Block.assign_empty]

end Parser

lemma channels_get_describeChannels (block : Block) (channel : UpdateChannel) :
    (describeChannels block).get channel = channelInfo block channel := by
  cases channel <;> rfl

lemma exists_path_of_resolveRelease {channel : UpdateChannel} {res : ReleaseResolution}
    {offer : Offer} (h : resolveRelease text signature channel = .ok res)
    (ho : res.release = .ok offer) :
    ∃ block path, parseSignatureBlock text signature = .ok (some block) ∧
      block channel.name = some path ∧ offer.url = fwReleasesBase ++ path.dropWhile (· == 47) ∧
      parseVersionFromPath path = some offer.version := by
  by_cases hs : signature = []
  · subst hs
    obtain rfl := Except.ok.inj h
    cases ho
  rw [resolveRelease, if_pos hs] at h
  cases hp : parseSignatureBlock text signature with
  | error e =>
    rw [hp] at h
    cases h
  | ok found =>
    rw [hp] at h
    obtain rfl := Except.ok.inj h
    cases found with
    | none => cases ho
    | some block =>
      have hinfo : ((describeChannels block).get channel).elim ReleaseLookup.unavailable .ok =
          .ok offer := ho
      rw [channels_get_describeChannels] at hinfo
      cases hc : channelInfo block channel with
      | none =>
        rw [hc] at hinfo
        cases hinfo
      | some info =>
        rw [hc] at hinfo
        obtain rfl := ReleaseLookup.ok.inj hinfo
        obtain ⟨path, hpath, hversion⟩ := Option.bind_eq_some_iff.1 hc
        obtain ⟨version, hparse, rfl⟩ := Option.map_eq_some_iff.1 hversion
        exact ⟨block, path, rfl, (Option.filter_eq_some_iff.1 hpath).1, rfl, hparse⟩

/-- For every text and every signature without white space and colons, a block is returned exactly
if the text has one, with these contents, and what is offered comes from the path of the channel in
it. -/
theorem manifest_confined (text signature : Text) (hs : IsKey signature) :
    (∀ block, parseSignatureBlock text signature = .ok (some block) ↔
        IsBlock text (IsSignatureLine signature) block) ∧
      ∀ channel res offer, resolveRelease text signature channel = .ok res →
        res.release = .ok offer →
        ∃ block path, IsBlock text (IsSignatureLine signature) block ∧
          block channel.name = some path ∧
          offer.url = fwReleasesBase ++ path.dropWhile (· == 47) ∧
          parseVersionFromPath path = some offer.version := by
  rw [← opens_eq hs]
  refine ⟨fun block => parseSignatureBlock_eq_some_iff, fun channel res offer h ho => ?_⟩
  obtain ⟨block, path, hblock, hrest⟩ := exists_path_of_resolveRelease h ho
  exact ⟨block, path, parseSignatureBlock_eq_some_iff.1 hblock, hrest⟩

def sampleManifest : Text :=
  lit "releases:\n  mge_v2:\n    stable: a/1.0.0.bin\n" ++
    lit "  mge_v3:\n    # ours\n    stable: /b/1.1.0.bin\n"

theorem manifest_confined_sample :
    ∃ block, IsBlock sampleManifest (IsSignatureLine (lit "mge_v3")) block ∧
      block (lit "stable") = some (lit "/b/1.1.0.bin") :=
  ⟨Block.empty.assign [(lit "stable", lit "/b/1.1.0.bin")],
    ((manifest_confined sampleManifest (lit "mge_v3") (by decide)).1 _).1 rfl, by decide⟩

def commentManifest : Text :=
  lit "releases:\n  mge_v3:\n    stable: b/1.1.0.bin\n  #a:\n    stable: a/1.0.0.bin\n"

theorem commentSignature_not_found :
    IsKey (lit "#a") ∧
      IsBlock commentManifest (· = signatureLine (lit "#a"))
        (fun key => [(lit "stable", lit "a/1.0.0.bin")].lookup key) ∧
      ∀ block, parseSignatureBlock commentManifest (lit "#a") ≠ .ok (some block) := by
  have hnone : parseSignatureBlock commentManifest (lit "#a") = .ok none := rfl
  refine ⟨by decide, ⟨[], lit "releases:", [lit "  mge_v3:", lit "    stable: b/1.1.0.bin"],
    lit "  #a:", [lit "    stable: a/1.0.0.bin", []], [], [(lit "stable", lit "a/1.0.0.bin")],
    ⟨by decide, by decide, by decide, by decide, by decide, by decide, by decide⟩,
    .cons ⟨⟨4, 1, ?_⟩, ?_, ?_, ?_⟩ .nil, rfl⟩, ?_⟩
  · decide
  · decide
  · decide
  · rintro _ ⟨⟩
    decide
  · intro block h
    rw [hnone] at h
    cases h

end WbMge.Firmware
