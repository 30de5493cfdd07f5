import WbMge.Firmware.Manifest

/-!
# A manifest that is cut off

A download can end anywhere. A manifest that is cut off must not read as one without our block: the
page would then say that nothing was published for this board. The parser takes a manifest for
intact as soon as a line with an indent of two stands under the releases. So between the first such
line and the line of our signature a cut is not noticed.
-/

namespace WbMge.Firmware

open JsText

/-- The lines below `releases:`. -/
def underReleases (text : Text) : List Text :=
  ((manifestLines text).dropWhile (¬ IsReleases ·)).tail

variable {text cut signature : Text} {block : Block}

lemma underReleases_eq {before rest : List Text} {opening : Text}
    (hlines : manifestLines text = before ++ opening :: rest)
    (hbefore : ∀ line ∈ before, ¬ IsReleases line) (hopening : IsReleases opening) :
    underReleases text = rest := by
  rw [underReleases, hlines, List.dropWhile_append_of_pos (by simpa using hbefore),
    List.dropWhile_cons_of_neg (by simpa using hopening), List.tail_cons]

/-- A line that ends the releases, by its first code unit. -/
lemma significant_zero_iff {line : Text} : (Significant line ∧ indentOf line = 0) ↔
    ∃ c, line.head? = some c ∧ isWhitespace c = false ∧ c ≠ 35 := by
  rw [indentOf_eq_zero_iff, trimStart_eq_self_iff, Significant]
  cases line with
  | nil => simp [trim, trimStart]
  | cons c line =>
    have htrim (hc : isWhitespace c = false) : ∃ rest, trim (c :: line) = c :: rest := by
      have hstart : trimStart (c :: line) = c :: line := trimStart_eq_self_iff.2 (by simpa using hc)
      have hne : trim (c :: line) ≠ [] := by
        rw [trim, hstart, Ne, List.rdropWhile_eq_nil_iff]
        exact fun h => by simp [h c List.mem_cons_self] at hc
      obtain ⟨d, rest, hrest⟩ := List.exists_cons_of_ne_nil hne
      have hprefix : trim (c :: line) <+: c :: line := by
        rw [trim, hstart]
        exact List.rdropWhile_prefix ..
      rw [hrest, List.cons_prefix_cons] at hprefix
      exact ⟨rest, by rw [hrest, hprefix.1]⟩
    have hhash : lit "#" = [35] := by decide
    simp only [List.head?_cons, Option.mem_some_iff, forall_eq', Option.some.injEq, exists_eq_left',
      hhash]
    constructor
    · rintro ⟨hs, hc⟩
      obtain ⟨rest, hrest⟩ := htrim hc
      exact ⟨hc, fun h => hs (.inr (by rw [hrest, h]; simp))⟩
    · rintro ⟨hc, hne⟩
      obtain ⟨rest, hrest⟩ := htrim hc
      rw [hrest]
      simp [hc, hne.symm]

lemma head?_stripCr {line : Text} {c : UInt16} (hc : isWhitespace c = false) :
    (stripCr line).head? = some c ↔ line.head? = some c := by
  rw [stripCr]
  split
  · rename_i hlast
    obtain ⟨init, rfl⟩ := List.getLast?_eq_some_iff.1 hlast
    rw [List.dropLast_concat]
    cases init with
    | nil =>
      refine ⟨nofun, fun h => ?_⟩
      cases h
      cases hc
    | cons d init => simp
  · rfl

lemma exists_manifestLines_of_prefix (h : cut <+: text) :
    ∃ init last next rest, manifestLines cut = init ++ [last] ∧
      manifestLines text = init ++ next :: rest ∧
      ((Significant last ∧ indentOf last = 0) → Significant next ∧ indentOf next = 0) := by
  obtain ⟨rest, rfl⟩ := h
  obtain ⟨init, last, hcut⟩ :=
    (List.eq_nil_or_concat' (lines cut)).resolve_left (lines_ne_nil cut)
  obtain ⟨x, more, hrest⟩ := List.exists_cons_of_ne_nil (lines_ne_nil rest)
  refine ⟨init.map stripCr, stripCr last, stripCr (last ++ x), more.map stripCr, ?_, ?_,
    fun h => ?_⟩
  · rw [manifestLines, hcut, List.map_append]
    rfl
  · rw [manifestLines, lines_append hcut hrest, List.map_append]
    rfl
  · obtain ⟨c, hlast, hc⟩ := significant_zero_iff.1 h
    refine significant_zero_iff.2 ⟨c, ?_, hc⟩
    rw [head?_stripCr hc.1] at hlast ⊢
    rw [List.head?_append, hlast]
    rfl

lemma parseSignatureBlock_eq_none_of_prefix {before under below : List Text} {opening line : Text}
    (h : cut <+: text) (hat : IsAbsentAt cut signature before opening under below)
    (hl : line ∈ below) (hindent : indentOf line ≠ 0) :
    parseSignatureBlock text signature = .ok none := by
  obtain ⟨init, last, next, rest, hcut, htext, -⟩ := exists_manifestLines_of_prefix h
  cases below with
  | nil => cases hl
  | cons stop below =>
    obtain ⟨hs, h0⟩ := hat.below stop rfl
    have hmem : line ∈ below := by
      refine (List.mem_cons.1 hl).resolve_left ?_
      rintro rfl
      exact hindent h0
    obtain ⟨below, z, rfl⟩ :=
      (List.eq_nil_or_concat' below).resolve_left (List.ne_nil_of_mem hmem)
    have hinit : init = before ++ opening :: (under ++ stop :: below) := by
      have heq : init ++ [last] = (before ++ opening :: (under ++ stop :: below)) ++ [z] := by
        rw [← hcut, hat.lines_eq]
        simp
      exact (List.append_inj' heq rfl).1
    have hlines : manifestLines text =
        before ++ opening :: (under ++ stop :: (below ++ next :: rest)) := by
      rw [htext, hinit]
      simp
    have hbelow : ∀ line ∈ (stop :: (below ++ next :: rest)).head?,
        Significant line ∧ indentOf line = 0 := by
      rintro _ ⟨⟩
      exact ⟨hs, h0⟩
    exact parseSignatureBlock_of_isAbsentAt
      ⟨hlines, hat.before, hat.opening, hat.nested, hat.under, hbelow⟩

lemma release_ne_noSignature {channel : UpdateChannel} {res : ReleaseResolution}
    (hs : signature ≠ []) (h : parseSignatureBlock text signature ≠ .ok none)
    (hr : resolveRelease text signature channel = .ok res) : res.release ≠ .noSignature := by
  rw [resolveRelease, if_pos hs] at hr
  cases hp : parseSignatureBlock text signature with
  | error e =>
    rw [hp] at hr
    cases hr
  | ok found =>
    rw [hp] at hr
    obtain rfl := Except.ok.inj hr
    cases found with
    | none => exact absurd hp h
    | some block =>
      change ((describeChannels block).get channel).elim ReleaseLookup.unavailable .ok ≠ _
      cases (describeChannels block).get channel <;> simp

/-- A cut after a line with an indent of two and before the end of the line of our signature. -/
lemma parseSignatureBlock_cut_eq_none
    {before above inside below : List Text} {opening ours : Text}
    (h : IsBlockAt text (Opens signature) before opening above ours inside below)
    (hcut : cut <+: text) (hsig : signatureLine signature ∉ underReleases cut)
    (hnested : ∃ line ∈ underReleases cut, Significant line ∧ indentOf line = 2) :
    parseSignatureBlock cut signature = .ok none := by
  obtain ⟨init, last, next, rest, hlines, htext, hnext⟩ := exists_manifestLines_of_prefix hcut
  obtain ⟨before', tail, htail, hbefore', hhead⟩ :=
    exists_first (p := IsReleases) (manifestLines cut)
  cases tail with
  | nil =>
    obtain ⟨line, hl, -⟩ := hnested
    have hnil : (manifestLines cut).dropWhile (¬ IsReleases ·) = [] := by
      rw [htail, List.append_nil]
      exact List.dropWhile_eq_nil_iff.2 (by simpa using hbefore')
    rw [underReleases, hnil] at hl
    cases hl
  | cons opening' under =>
    have hunder := underReleases_eq htail hbefore' (hhead opening' rfl)
    rw [hunder] at hsig hnested
    obtain ⟨under, last', rfl⟩ := (List.eq_nil_or_concat' under).resolve_left
      (List.ne_nil_of_mem hnested.choose_spec.1)
    obtain ⟨rfl, hlast⟩ : init = before' ++ opening' :: under ∧ [last] = [last'] := by
      refine List.append_inj' (hlines.symm.trans (htail.trans ?_)) rfl
      simp
    cases hlast
    -- the lines of the text under its releases, as they are left and as the block has them
    have heq : above ++ ours :: (inside ++ below) = under ++ next :: rest := by
      rw [← underReleases_eq h.lines_eq h.before h.opening]
      exact underReleases_eq (by rw [htext]; simp) hbefore' (hhead opening' rfl)
    have hours : ours ∉ under ++ [last] := by rwa [h.ours.eq_signatureLine]
    obtain ⟨above', rfl, hrest⟩ : ∃ above', above = under ++ above' ∧
        next :: rest = above' ++ ours :: (inside ++ below) := by
      obtain ⟨l, hl, hr⟩ | ⟨l, hl, hr⟩ := List.append_eq_append_iff.1 heq
      · cases l with
        | nil => exact ⟨[], by simpa using hl.symm, by simpa using hr.symm⟩
        | cons o l =>
          obtain rfl : ours = o := by simpa using (List.cons.inj hr).1
          exact absurd (by simp [hl]) hours
      · exact ⟨l, hl, hr⟩
    have hindent : Significant next → indentOf next ≠ 0 := by
      cases above' with
      | nil =>
        obtain rfl := (List.cons.inj hrest).1
        exact fun _ => by rw [h.ours.indentOf_eq]; decide
      | cons line above' =>
        obtain rfl := (List.cons.inj hrest).1
        exact (h.above next (by simp)).1
    rw [← List.append_nil (under ++ [last])] at htail
    refine parseSignatureBlock_of_isAbsentAt ⟨htail, hbefore', hhead opening' rfl, hnested,
      fun line hl => ⟨?_, fun ho => ?_⟩, nofun⟩
    · obtain hl | hl := List.mem_append.1 hl
      · exact (h.above line (List.mem_append_left _ hl)).1
      · obtain rfl := List.mem_singleton.1 hl
        exact fun hs h0 => hindent (hnext ⟨hs, h0⟩).1 (hnext ⟨hs, h0⟩).2
    · exact hsig (ho.eq_signatureLine ▸ hl)

/-- A text with our block that is cut off does not read as one without it exactly if the line of the
signature is left, or no line under the releases has an indent of two. -/
theorem cut_not_unpublished_iff (text cut signature : Text) (block : Block)
    (h : parseSignatureBlock text signature = .ok (some block)) (hcut : cut <+: text) :
    (parseSignatureBlock cut signature ≠ .ok none ∧
      ∀ channel res, resolveRelease cut signature channel = .ok res →
        res.release ≠ .noSignature) ↔
      signatureLine signature ∈ underReleases cut ∨
        ∀ line ∈ underReleases cut, Significant line → indentOf line ≠ 2 := by
  obtain ⟨_, _, _, _, _, _, _, hblock, -, -⟩ := parseSignatureBlock_eq_some_iff.1 h
  have hours : Opens signature (signatureLine signature) := by
    rw [← hblock.ours.eq_signatureLine]
    exact hblock.ours
  refine ⟨fun hne => ?_, fun hleft => ?_⟩
  · by_contra hno
    simp only [not_or, not_forall, not_not] at hno
    obtain ⟨hsig, line, hl, hs, hindent⟩ := hno
    exact hne.1 (parseSignatureBlock_cut_eq_none hblock hcut hsig ⟨line, hl, hs, hindent⟩)
  have hne : parseSignatureBlock cut signature ≠ .ok none := by
    intro hnone
    obtain ⟨_, _, _, _, _, _, _, _, _, hr⟩ | ⟨before, opening, under, below, hat, -⟩ :=
      cases_of_parseSignatureBlock hnone
    · cases hr
    rw [underReleases_eq hat.lines_eq hat.before hat.opening] at hleft
    rcases hleft with hleft | hleft
    · rcases List.mem_append.1 hleft with hmem | hmem
      · exact (hat.under _ hmem).2 hours
      · have hnone' : parseSignatureBlock text signature = .ok none :=
          parseSignatureBlock_eq_none_of_prefix hcut hat hmem (by rw [hours.indentOf_eq]; decide)
        rw [h] at hnone'
        cases hnone'
    · obtain ⟨line, hl, hs, hindent⟩ := hat.nested
      exact hleft line (List.mem_append_left _ hl) hs hindent
  have hs : signature ≠ [] := (signatureLineRe_eq_some_iff.1 hours.2).1.1
  exact ⟨hne, fun channel res => release_ne_noSignature hs hne⟩

/-- The manifest of `sampleManifest`, cut off in the block of `mge_v3`. -/
theorem cut_not_unpublished_inside :
    parseSignatureBlock (sampleManifest.take 60) (lit "mge_v3") ≠ .ok none :=
  ((cut_not_unpublished_iff sampleManifest (sampleManifest.take 60) (lit "mge_v3")
    (Block.empty.assign [(lit "stable", lit "/b/1.1.0.bin")]) rfl (List.take_prefix ..)).2
    (.inl (by decide +kernel))).1

/-- The same manifest, cut off in the block of `mge_v2`. -/
theorem cut_unpublished :
    (∃ block, parseSignatureBlock sampleManifest (lit "mge_v3") = .ok (some block)) ∧
      sampleManifest.take 40 <+: sampleManifest ∧
      parseSignatureBlock (sampleManifest.take 40) (lit "mge_v3") = .ok none ∧
      resolveRelease (sampleManifest.take 40) (lit "mge_v3") .stable =
        .ok ⟨none, .noSignature⟩ :=
  ⟨⟨_, rfl⟩, List.take_prefix .., rfl, rfl⟩

end WbMge.Firmware
