import Mathlib.Data.Fin.VecNotation
import WbMge.Settings.StaysOff
import WbMge.Settings.Update

/-!
# Values of settings

What the validators let through, against what the rest of the firmware can do with it. `validate_ip`
looks at an address with `sscanf`, which skips white space, takes signs and reads as many digits as
there are. The readers of the storage have a buffer of a fixed size, and none of the validators of
numbers and addresses looks at the length of a value. The default password is made from the MAC
address and passes through an integer that is too small for ten digits.
-/

namespace WbMge.Settings

open Cache (bridgesCount)
open CText (scanInt clampLong snprintf)
open Json (Text)

/-! ## Values that are read back -/

section ReadBack

variable {f : Factory} {nvs nvs' : Nvs} {k : Key} {value : Text}

lemma length_settingItemsRead_lt :
    (settingItemsRead f nvs k).length < settingItemMaxStrLen := by
  rw [settingItemsRead]
  split
  · rename_i hread
    exact of_decide_eq_true (Option.filter_eq_some_iff.1 hread).2
  · rw [List.length_take]
    unfold settingItemMaxStrLen
    omega

lemma validate_of_save {io : Key → WriteOutcome}
    (h : (settingItemsSave io k value).run.run nvs = (.ok (), nvs')) :
    k.validate value = true ∧ nvs' = nvs.write k value := by
  rw [settingItemsSave] at h
  split at h
  · rename_i hvalid
    rw [nvsWriteStr] at h
    split at h
    · exact ⟨hvalid, (Prod.mk.inj h).2.symm⟩
    · cases (Prod.mk.inj h).1
    · cases (Prod.mk.inj h).1
  · cases (Prod.mk.inj h).1

lemma wp_settingItemsMigratePortMode_keeps (hvalid : k.validate value = true)
    (hlen : value.length < settingItemMaxStrLen) (h : nvs k = some value) :
    CrashM.wp (settingItemsMigratePortMode .quiet) (fun _ nvs' => nvs' k = some value)
      (fun nvs' => nvs' k = some value) nvs := by
  -- port by port: a mode is written only where there is none, and a valid role is not erased
  have hround (q : Port) (nvs' : Nvs) (h' : nvs' k = some value) :
      CrashM.wp (migratePort .quiet q) (fun _ nvs'' => nvs'' k = some value)
        (fun nvs'' => nvs'' k = some value) nvs' := by
    refine wp_migratePort_of_keeps ?_ ?_ h'
    · intro hhas value'
      have hk : k ≠ .portMode q := by
        rintro rfl
        rw [nvsHasKey_of_eq_some h' hlen] at hhas
        cases hhas
      exact (Nvs.write_of_ne hk nvs' value').trans h'
    · by_cases hk : k = .bridgeMode q
      · subst hk
        right
        intro value' hread
        rw [nvsReadStr, h'] at hread
        obtain rfl := Option.some.inj (Option.filter_eq_some_iff.1 hread).1
        exact hvalid
      · exact .inl fun nvs'' h'' => (Nvs.erase_of_ne hk nvs'').trans h''
  exact CrashM.wp_forM (List.finRange bridgesCount) (fun _ q _ nvs' _ => hround q nvs') h

lemma wp_settingItemsInit_keeps (hvalid : k.validate value = true)
    (hlen : value.length < settingItemMaxStrLen) (h : nvs k = some value) :
    CrashM.wp (settingItemsInit f .quiet) (fun _ nvs' => nvs' k = some value)
      (fun nvs' => nvs' k = some value) nvs := by
  apply CrashM.wp_bind
  refine CrashM.wp_mono (fun _ nvs' h' => ?_)
    (wp_settingItemsMigratePortMode_keeps hvalid hlen h)
  refine wp_settingItemsSetDefaults_of_keeps (fun nvs'' k' h'' hhas => ?_) h'
  have hk : k ≠ k' := by
    rintro rfl
    rw [nvsHasKey_of_eq_some h'' hlen] at hhas
    cases hhas
  exact (Nvs.write_of_ne hk nvs'' _).trans h''

end ReadBack

/-- Boots that may be cut off, one after the other. -/
def bootAll (f : Factory) (nvs : Nvs) (lefts : List (Option Nat)) : Nvs :=
  lefts.foldl (fun nvs left => Boot.run f nvs ⟨.quiet, left⟩) nvs

/-- A value that was saved is read back, at once and after any boots, exactly if it fits into the
buffer of the readers. -/
theorem settingItemsRead_of_save (f : Factory) (io : Key → WriteOutcome) (k : Key) (value : Text)
    {nvs nvs' : Nvs} (hsave : (settingItemsSave io k value).run.run nvs = (.ok (), nvs'))
    (lefts : List (Option Nat)) :
    settingItemsRead f (bootAll f nvs' lefts) k = value ↔
      value.length < settingItemMaxStrLen := by
  refine ⟨fun h => h ▸ length_settingItemsRead_lt, fun hlen => ?_⟩
  obtain ⟨hvalid, rfl⟩ := validate_of_save hsave
  apply settingItemsRead_of_eq_some ?_ hlen
  refine List.foldlRecOn lefts _ (motive := fun nvs' : Nvs => nvs' k = some value)
    (nvs.write_self k value) fun nvs' h left _ => ?_
  exact CrashM.crash_store (wp_settingItemsInit_keeps hvalid hlen h) left

/-- A port, before and after two boots of which the first ends early. -/
theorem settingItemsRead_of_save_port :
    settingItemsRead ⟨none, none⟩ (bootAll ⟨none, none⟩
      (Nvs.write (fun _ => none) .webPort "8080".toList) [some 3, none]) .webPort =
        "8080".toList := by
  have hsave : (settingItemsSave (fun _ => .ok) .webPort "8080".toList).run.run (fun _ => none) =
      (.ok (), Nvs.write (fun _ => none) .webPort "8080".toList) := rfl
  exact (settingItemsRead_of_save ⟨none, none⟩ (fun _ => .ok) .webPort "8080".toList hsave
    [some 3, none]).2 (by decide)

/-- The same port with sixty zeroes in front. It is saved, and the default is read. -/
theorem settingItemsRead_longPort :
    ∃ nvs, (settingItemsSave (fun _ => .ok) .webPort
        (List.replicate 60 '0' ++ "8080".toList)).run.run (fun _ => none) = (.ok (), nvs) ∧
      settingItemsRead ⟨none, none⟩ nvs .webPort = "80".toList ∧
      settingItemsRead ⟨none, none⟩ (bootAll ⟨none, none⟩ nvs [none]) .webPort = "80".toList := by
  have hvalid : Key.webPort.validate (List.replicate 60 '0' ++ "8080".toList) = true := by
    decide +kernel
  refine ⟨Nvs.write (fun _ => none) .webPort (List.replicate 60 '0' ++ "8080".toList), ?_, ?_, ?_⟩
  · rw [settingItemsSave, if_pos hvalid]
    rfl
  · decide +kernel
  · decide +kernel

/-! ## Addresses -/

/-- Four parts with single dots between them. -/
def Dotted (part : Text → Prop) (value : Text) : Prop :=
  ∃ a b c d, part a ∧ part b ∧ part c ∧ part d ∧
    value = a ++ '.' :: (b ++ '.' :: (c ++ '.' :: d))

/-- What `%d` reads as a number up to 255, with white space and a sign. -/
def IsLooseOctet (t : Text) : Prop := ∃ n, CText.IsNumeral t n ∧ 0 ≤ n ∧ n ≤ 255

/-- Digits of a number up to 255. -/
structure IsNumber (t : Text) : Prop where
  ne_nil : t ≠ []
  digits : ∀ c ∈ t, c.isDigit = true
  value_le : Nat.ofDigitChars 10 t 0 ≤ 255

/-- Four decimal numbers up to 255 of one to three digits. -/
def IsQuad : Text → Prop := Dotted fun t => IsNumber t ∧ t.length ≤ 3

/-- Nothing but digits and dots. -/
def DigitsAndDots (value : Text) : Prop := ∀ c ∈ value, c.isDigit = true ∨ c = '.'

instance (value : Text) : Decidable (DigitsAndDots value) :=
  List.decidableBAll (fun c : Char => c.isDigit = true ∨ c = '.') value

/-- What stands between the dots. -/
def numbers (value : Text) : List Text := value.splitOn '.'

/-- A zero stands in front of further digits. -/
def Padded (number : Text) : Prop := number.head? = some '0' ∧ number ≠ ['0']
deriving Decidable

section Addresses

variable {value rest t : Text} {part part' : Text → Prop}

lemma Dotted.imp (himp : ∀ t, part t → part' t) (h : Dotted part value) : Dotted part' value := by
  obtain ⟨a, b, c, d, ha, hb, hc, hd, rfl⟩ := h
  exact ⟨a, b, c, d, himp a ha, himp b hb, himp c hc, himp d hd, rfl⟩

lemma expect_eq_some_iff {c : Char} : expect c t = some rest ↔ t = c :: rest := by
  cases t with
  | nil => simp [expect]
  | cons c' t =>
    rw [expect]
    split
    · rename_i hc
      simp [hc]
    · rename_i hc
      simp [hc]

lemma clampLong_mem_octet {n : Int} :
    0 ≤ clampLong n ∧ clampLong n ≤ 255 ↔ 0 ≤ n ∧ n ≤ 255 := by
  unfold clampLong CText.intMin CText.intMax
  split
  · omega
  · split <;> omega

/-- The strings that `validate_ip` lets through. -/
lemma validateIp_iff : validateIp value = true ↔ Dotted IsLooseOctet value := by
  rw [validateIp, Bool.and_eq_true]
  constructor
  · rintro ⟨-, h⟩
    split at h
    · rename_i octets hscan
      simp only [scanDotted, Option.bind_eq_bind, Option.bind_eq_some_iff, Option.pure_def,
        Option.some.injEq, Prod.exists, Prod.mk.injEq, CText.scanInt_eq_some_iff,
        expect_eq_some_iff] at hscan
      obtain ⟨n₁, _, ⟨a, ha, rfl, -⟩, _, rfl, n₂, _, ⟨b, hb, rfl, -⟩, _, rfl, n₃, _,
        ⟨c, hc, rfl, -⟩, _, rfl, n₄, _, ⟨d, hd, rfl, -⟩, rfl, rfl⟩ := hscan
      simp only [List.map_cons, List.map_nil, List.all_cons, List.all_nil, Bool.and_true,
        Bool.and_eq_true, decide_eq_true_eq, clampLong_mem_octet] at h
      exact ⟨a, b, c, d, ⟨n₁, ha, h.1⟩, ⟨n₂, hb, h.2.1⟩, ⟨n₃, hc, h.2.2.1⟩, ⟨n₄, hd, h.2.2.2⟩,
        by simp⟩
    · cases h
  · rintro ⟨a, b, c, d, ⟨n₁, ha, h₁⟩, ⟨n₂, hb, h₂⟩, ⟨n₃, hc, h₃⟩, ⟨n₄, hd, h₄⟩, rfl⟩
    -- each number ends at the dot that the format asks for next
    have hscan {t : Text} {n : Int} (ht : CText.IsNumeral t n) (rest : Text) :
        scanInt (t ++ '.' :: rest) = some (n, '.' :: rest) :=
      CText.scanInt_eq_some_iff.2 ⟨t, ht, rfl, by rintro _ ⟨⟩; rfl⟩
    have hlast : scanInt d = some (n₄, []) :=
      CText.scanInt_eq_some_iff.2 ⟨d, hd, by simp, by simp⟩
    rw [← clampLong_mem_octet] at h₁ h₂ h₃ h₄
    simp [scanDotted, hscan ha, hscan hb, hscan hc, hlast, expect, h₁, h₂, h₃, h₄]

lemma dot_notMem (h : ∀ c ∈ t, c.isDigit = true) : '.' ∉ t := by
  intro hmem
  cases h '.' hmem

/-- What holds of the parts of such a quad holds of its numbers. -/
lemma dotted_and_iff {p : Text → Prop} :
    Dotted (fun t => IsNumber t ∧ p t) value ↔
      Dotted IsNumber value ∧ ∀ t ∈ numbers value, p t := by
  have hsplit (a b c d : Text) (h : ∀ t ∈ [a, b, c, d], IsNumber t) :
      numbers (a ++ '.' :: (b ++ '.' :: (c ++ '.' :: d))) = [a, b, c, d] := by
    have hsplit := List.splitOn_intercalate '.' (fun t ht => dot_notMem (h t ht).digits) (by simp)
    simpa [numbers, List.intercalate_cons_cons] using hsplit
  constructor
  · rintro ⟨a, b, c, d, ha, hb, hc, hd, rfl⟩
    rw [hsplit a b c d (by simp [ha.1, hb.1, hc.1, hd.1])]
    exact ⟨⟨a, b, c, d, ha.1, hb.1, hc.1, hd.1, rfl⟩, by simp [ha.2, hb.2, hc.2, hd.2]⟩
  · rintro ⟨⟨a, b, c, d, ha, hb, hc, hd, rfl⟩, h⟩
    rw [hsplit a b c d (by simp [ha, hb, hc, hd])] at h
    exact ⟨a, b, c, d, ⟨ha, h a (by simp)⟩, ⟨hb, h b (by simp)⟩, ⟨hc, h c (by simp)⟩,
      ⟨hd, h d (by simp)⟩, rfl⟩

lemma isNumber_iff : IsNumber t ↔ IsLooseOctet t ∧ DigitsAndDots t := by
  constructor
  · rintro ⟨hne, hdigits, hle⟩
    exact ⟨⟨_, ⟨[], [], t, by simp, by simp, hne, hdigits, rfl, rfl⟩, by simp [CText.signedValue],
      by simpa [CText.signedValue] using hle⟩, fun c hc => .inl (hdigits c hc)⟩
  · rintro ⟨⟨n, ⟨blank, sign, digits, hblank, hsign, hne, hdigits, rfl, rfl⟩, -, hle⟩, hplain⟩
    -- neither white space nor a sign is a digit or a dot
    obtain rfl : blank = [] := by
      refine List.eq_nil_iff_forall_not_mem.2 fun c hc => ?_
      have hspace := hblank c hc
      obtain hdigit | rfl := hplain c (by simp [hc])
      · simp [CText.isSpace_eq_false_of_isDigit hdigit] at hspace
      · cases hspace
    simp only [List.mem_cons, List.not_mem_nil, or_false] at hsign
    obtain rfl | rfl | rfl := hsign
    · exact ⟨hne, hdigits, by simpa [CText.signedValue] using hle⟩
    · exact absurd (hplain '+' (by simp)) (by decide)
    · exact absurd (hplain '-' (by simp)) (by decide)

lemma dotted_isNumber_iff :
    Dotted IsNumber value ↔ Dotted IsLooseOctet value ∧ DigitsAndDots value := by
  constructor
  · intro h
    refine ⟨h.imp fun t ht => (isNumber_iff.1 ht).1, ?_⟩
    obtain ⟨a, b, c, d, ha, hb, hc, hd, rfl⟩ := h.imp fun t ht => (isNumber_iff.1 ht).2
    simp only [DigitsAndDots, List.forall_mem_append, List.forall_mem_cons]
    exact ⟨ha, .inr trivial, hb, .inr trivial, hc, .inr trivial, hd⟩
  · rintro ⟨⟨a, b, c, d, ha, hb, hc, hd, rfl⟩, hplain⟩
    simp only [DigitsAndDots, List.forall_mem_append, List.forall_mem_cons] at hplain
    obtain ⟨ha', -, hb', -, hc', -, hd'⟩ := hplain
    exact ⟨a, b, c, d, isNumber_iff.2 ⟨ha, ha'⟩, isNumber_iff.2 ⟨hb, hb'⟩,
      isNumber_iff.2 ⟨hc, hc'⟩, isNumber_iff.2 ⟨hd, hd'⟩, rfl⟩

lemma isQuad_iff : IsQuad value ↔ Dotted IsLooseOctet value ∧ DigitsAndDots value ∧
    ∀ t ∈ numbers value, t.length ≤ 3 := by
  rw [IsQuad, dotted_and_iff, dotted_isNumber_iff, and_assoc]

lemma isNumber_unpadded_iff :
    IsNumber t ∧ ¬ Padded t ↔ ∃ a : Fin 256, t = Nat.toDigits 10 a := by
  constructor
  · rintro ⟨h, hpadded⟩
    refine ⟨⟨Nat.ofDigitChars 10 t 0, Nat.lt_succ_of_le h.value_le⟩, ?_⟩
    -- digits are those of their value if no zero is in front of them
    refine (CText.toDigits_ofDigitChars h.ne_nil h.digits fun hzero => ?_).symm
    by_contra hne
    exact hpadded ⟨hzero, hne⟩
  · rintro ⟨a, rfl⟩
    have hpadded : ∀ a : Fin 256, ¬ Padded (Nat.toDigits 10 a) := by decide +kernel
    refine ⟨⟨Nat.toDigits_ne_nil, fun _ => CText.isDigit_of_mem_toDigits, ?_⟩, hpadded a⟩
    rw [Nat.ofDigitChars_toDigits (by decide) (by decide)]
    exact Nat.le_of_lt_succ a.isLt

/-- Every `inet_pton` takes exactly the addresses in the strict form. -/
lemma forall_inet_iff : (∀ inet : Inet, (inet.pton value).isSome) ↔
    Dotted IsLooseOctet value ∧ DigitsAndDots value ∧ ∀ t ∈ numbers value, ¬ Padded t := by
  rw [← and_assoc, ← dotted_isNumber_iff, ← dotted_and_iff]
  have hstrict : IsDottedQuad value ↔ Dotted (fun t => IsNumber t ∧ ¬ Padded t) value := by
    simp only [isNumber_unpadded_iff]
    constructor
    · rintro ⟨a, b, c, d, rfl⟩
      exact ⟨_, _, _, _, ⟨a, rfl⟩, ⟨b, rfl⟩, ⟨c, rfl⟩, ⟨d, rfl⟩, by simp⟩
    · rintro ⟨_, _, _, _, ⟨a, rfl⟩, ⟨b, rfl⟩, ⟨c, rfl⟩, ⟨d, rfl⟩, rfl⟩
      exact ⟨a, b, c, d, by simp⟩
  rw [← hstrict]
  exact ⟨fun h => isDottedQuad_of_strictPton (h strictInet),
    fun h inet => inet.isSome_of_isDottedQuad value h⟩

end Addresses

/-- `validate_ip` lets exactly the addresses through, and only what each `inet_pton` takes, unless
the string is four numbers for `%d` with white space, signs or zeroes in front of them. -/
theorem validateIp_iff_isQuad (value : Text) :
    ((validateIp value = true ↔ IsQuad value) ↔
      (Dotted IsLooseOctet value →
        DigitsAndDots value ∧ ∀ t ∈ numbers value, t.length ≤ 3)) ∧
    ((validateIp value = true → ∀ inet : Inet, (inet.pton value).isSome) ↔
      (Dotted IsLooseOctet value →
        DigitsAndDots value ∧ ∀ t ∈ numbers value, ¬ Padded t)) := by
  rw [validateIp_iff, isQuad_iff, forall_inet_iff]
  tauto

/-- `validate_ip` lets a blank, a sign and zeroes through in front of a number. -/
theorem validateIp_notQuads :
    (validateIp " 10.0.0.1".toList = true ∧ ¬ IsQuad " 10.0.0.1".toList) ∧
      (validateIp "10. 0.0.1".toList = true ∧ ¬ IsQuad "10. 0.0.1".toList) ∧
      (validateIp "+10.0.0.1".toList = true ∧ ¬ IsQuad "+10.0.0.1".toList) ∧
      (validateIp "-0.0.0.1".toList = true ∧ ¬ IsQuad "-0.0.0.1".toList) ∧
      (validateIp "0010.0.0.1".toList = true ∧ ¬ IsQuad "0010.0.0.1".toList) := by
  refine ⟨⟨by decide +kernel, fun h => ?_⟩, ⟨by decide +kernel, fun h => ?_⟩,
    ⟨by decide +kernel, fun h => ?_⟩, ⟨by decide +kernel, fun h => ?_⟩,
    ⟨by decide +kernel, fun h => ?_⟩⟩
  -- the first four are not made of digits and dots, and the last one has a number of four digits
  iterate 4 exact absurd (isQuad_iff.1 h).2.1 (by decide +kernel)
  exact absurd (isQuad_iff.1 h).2.2 (by decide +kernel)

/-! ## The default password -/

/-- The MAC address as a number. -/
def macNumber (mac : Fin 6 → UInt8) : Nat := (List.ofFn mac).foldl (fun n b => n * 256 + b.toNat) 0

/-- The number that the default password spells: the last ten digits of the MAC address, moved up
if it is too small. -/
def passwordNumber (mac : Fin 6 → UInt8) : Nat :=
  let n := macNumber mac % 10 ^ 10
  if n < 10 ^ 7 then n + 10 ^ 7 else n

/-- Ten digits of the number. -/
structure Spells (t : Text) (n : Nat) : Prop where
  length_eq : t.length = 10
  digits : ∀ c ∈ t, c.isDigit = true
  value_eq : Nat.ofDigitChars 10 t 0 = n

lemma spells_leftpad {n : Nat} (h : n < 10 ^ 10) :
    Spells ((Nat.toDigits 10 n).leftpad 10 '0') n where
  length_eq := by
    have hlen : (Nat.toDigits 10 n).length ≤ 10 :=
      (Nat.length_toDigits_le_iff (by decide) (by decide)).2 h
    simp only [List.leftpad, List.length_append, List.length_replicate]
    omega
  digits := by
    intro c hc
    rw [List.leftpad, List.mem_append] at hc
    obtain hc | hc := hc
    · rw [List.eq_of_mem_replicate hc]
      rfl
    · exact CText.isDigit_of_mem_toDigits hc
  value_eq := by
    rw [List.leftpad, Nat.ofDigitChars_append, Nat.ofDigitChars_replicate_zero, Nat.mul_zero]
    exact Nat.ofDigitChars_toDigits (by decide) (by decide)

lemma isPrintable_of_isDigit {c : Char} (h : c.isDigit = true) : isPrintable c = true := by
  have hrange := CText.isDigit_iff.1 h
  simp only [isPrintable, Bool.and_eq_true, decide_eq_true_eq, Char.le_def, UInt32.le_iff_toNat_le]
  change 32 ≤ c.toNat ∧ c.toNat ≤ 126
  omega

lemma Spells.validateWifiPassword {t : Text} {n : Nat} (h : Spells t n) :
    validateWifiPassword t = true := by
  have hprintable : t.all isPrintable = true :=
    List.all_eq_true.2 fun c hc => isPrintable_of_isDigit (h.digits c hc)
  simp [Settings.validateWifiPassword, spelled, h.length_eq, hprintable]

lemma spells_generateMacBasedPassword (mac : Fin 6 → UInt8) {bufSize : Nat}
    (hbuf : 11 ≤ bufSize) :
    let n := macNumber mac % 10 ^ 10 % 2 ^ 32
    Spells (generateMacBasedPassword bufSize (some mac))
      (if n < 10 ^ 7 then n + 10 ^ 7 else n) := by
  intro n
  have hbound : (if n < 10 ^ 7 then n + 10 ^ 7 else n) < 10 ^ 10 := by
    have hn : n < 10 ^ 10 :=
      (Nat.mod_le _ _).trans_lt (Nat.mod_lt _ (by decide))
    split <;> omega
  have hspells := spells_leftpad hbound
  have heq : generateMacBasedPassword bufSize (some mac) =
      snprintf bufSize ((Nat.toDigits 10 (if n < 10 ^ 7 then n + 10 ^ 7 else n)).leftpad 10 '0') :=
    rfl
  rwa [heq, snprintf, List.take_of_length_le (by rw [hspells.length_eq]; omega)]

/-- The password is accepted, and it is the one that the comments of `generate_mac_based_password`
describe exactly if the last ten digits of the MAC address are a number of 32 bits. -/
theorem generateMacBasedPassword_spells_iff (mac : Fin 6 → UInt8) (bufSize : Nat)
    (hbuf : 11 ≤ bufSize) :
    validateWifiPassword (generateMacBasedPassword bufSize (some mac)) = true ∧
      (Spells (generateMacBasedPassword bufSize (some mac)) (passwordNumber mac) ↔
        macNumber mac % 10 ^ 10 < 2 ^ 32) := by
  have hspells := spells_generateMacBasedPassword mac hbuf
  refine ⟨hspells.validateWifiPassword, fun h => ?_, fun hword => ?_⟩
  · -- a larger number would have lost bits, so that another one is spelled
    have hvalue := h.value_eq.symm.trans hspells.value_eq
    simp only [passwordNumber] at hvalue
    split at hvalue <;> split at hvalue <;> omega
  · simpa only [passwordNumber, Nat.mod_eq_of_lt hword] using hspells

theorem generateMacBasedPassword_spells_module :
    Spells (generateMacBasedPassword 16 (some ![0xA8, 0x03, 0x2A, 0, 0, 1])) 1543011329 := by
  have hnumber : passwordNumber ![0xA8, 0x03, 0x2A, 0, 0, 1] = 1543011329 := by decide +kernel
  rw [← hnumber]
  exact (generateMacBasedPassword_spells_iff ![0xA8, 0x03, 0x2A, 0, 0, 1] 16 (by decide)).2.2
    (by decide +kernel)

/-- The address 00:01:00:00:00:00 is the number 4294967296, of which 32 bits hold nothing. -/
theorem generateMacBasedPassword_cut :
    passwordNumber ![0, 1, 0, 0, 0, 0] = 4294967296 ∧
      generateMacBasedPassword 16 (some ![0, 1, 0, 0, 0, 0]) = "0010000000".toList ∧
      ¬ Spells (generateMacBasedPassword 16 (some ![0, 1, 0, 0, 0, 0]))
        (passwordNumber ![0, 1, 0, 0, 0, 0]) := by
  have hvalue : Nat.ofDigitChars 10 (generateMacBasedPassword 16 (some ![0, 1, 0, 0, 0, 0])) 0 ≠
      passwordNumber ![0, 1, 0, 0, 0, 0] := by decide +kernel
  exact ⟨by decide +kernel, by decide +kernel, fun h => hvalue h.value_eq⟩

end WbMge.Settings
