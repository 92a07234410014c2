import Dictation.Proofs.Segmentation.Choice
import Dictation.Proofs.Text.Alphabet
import Dictation.Proofs.Vocabulary.Stores
/-!
# Segmentation in any case

A word of ASCII and the word in lower case have their cuts at the same places, and the parts of the one are
those of the other in lower case. So all that decides what is kept and what is taken apart, down to the
words that are left whole, comes out alike, and by induction on their length so do the segments.
-/
namespace Dictation

namespace Text

variable {t : Text}

theorem IsAscii.lower (h : t.IsAscii) : t.lower.IsAscii := by
  rw [lower_ascii h]
  intro a ha
  obtain ⟨b, hb, rfl⟩ := List.mem_map.mp ha
  exact (asciiChars_sound (h b hb)).2.2.2.1

theorem length_lower (h : t.IsAscii) : t.lower.length = t.length := by
  rw [lower_ascii h, List.length_map]

theorem all_isAsciiDigit_lower (h : t.IsAscii) : t.lower.all isAsciiDigit = t.all isAsciiDigit := by
  rw [lower_ascii h, List.all_map, Bool.eq_iff_iff, List.all_eq_true, List.all_eq_true]
  refine forall₂_congr fun a ha => ?_
  rw [Function.comp_apply, (asciiChars_sound (h a ha)).2.2.2.2]

end Text

namespace Segmenter

def lowerCut (cut : Text × Text) : Text × Text := (cut.1.lower, cut.2.lower)

namespace Side

variable (side : Side) (cut : Text × Text)

theorem kept_lower : side.kept (lowerCut cut) = (side.kept cut).lower := by
  cases side <;> rfl

theorem left_lower : side.left (lowerCut cut) = (side.left cut).lower := by
  cases side <;> rfl

theorem attach_lower (kept : Text) (segments : List Text) :
    (side.attach kept segments).map Text.lower = side.attach kept.lower (segments.map Text.lower) := by
  cases side with
  | beginning => rfl
  | ending => exact List.map_append

end Side

theorem cutAt_lower {word : Text} (h : word.IsAscii) (i : Nat) :
    cutAt word.lower i = lowerCut (cutAt word i) := by
  have htake : Text.IsAscii (word.take i) := fun a ha => h a (List.mem_of_mem_take ha)
  have hdrop : Text.IsAscii (word.drop i) := fun a ha => h a (List.mem_of_mem_drop ha)
  unfold lowerCut cutAt
  rw [Text.lower_ascii h, Text.lower_ascii htake, Text.lower_ascii hdrop, List.map_take, List.map_drop]

theorem digits_sound {c : Char} (h : isAsciiDigit c = true) :
    (digitWord c).lower = digitWord c ∧ digitWord c ≠ [c] ∧ c.toLower = c := by
  have hall : ∀ d ∈ asciiDigits, (digitWord d).lower = digitWord d ∧ digitWord d ≠ [d] ∧ d.toLower = d := by
    decide
  exact hall c (mem_asciiDigits h)

theorem characters_lower {word : Text} (h : word.IsAscii) :
    characters word.lower = (characters word).map Text.lower := by
  rw [Text.lower_ascii h, characters, characters, List.map_map, List.map_map]
  refine List.map_congr_left fun c hc => ?_
  simp only [Function.comp_apply, (Text.asciiChars_sound (h c hc)).2.2.2.2]
  split
  case isTrue hdigit =>
    obtain ⟨hword, _, hsame⟩ := digits_sound hdigit
    rw [hword, hsame]
  case isFalse =>
    have hone : Text.IsAscii [c] := List.forall_mem_singleton.mpr (h c hc)
    rw [Text.lower_ascii hone, List.map_singleton]

theorem spellDigits_lower {ds : Text} (h : ds.all isAsciiDigit = true) :
    spellDigits ds.lower = (spellDigits ds).map Text.lower := by
  have hdigit := List.all_eq_true.mp h
  have hplain : ∀ d ∈ ds, d.toNat < 0x80 := by
    have hall : ∀ d ∈ asciiDigits, d.toNat < 0x80 := by decide
    exact fun d hd => hall d (mem_asciiDigits (hdigit d hd))
  rw [Text.lower_ascii hplain, spellDigits, spellDigits, List.map_map, List.map_map]
  refine List.map_congr_left fun d hd => ?_
  obtain ⟨hword, _, hsame⟩ := digits_sound (hdigit d hd)
  rw [Function.comp_apply, Function.comp_apply, hword, hsame]

/-- A single segment is the whole word or the spelling of a digit. -/
theorem Partition.single {word x : Text} {stretches : List Stretch} (h : Partition word [x] stretches) :
    x = word ∨ ∃ d, isAsciiDigit d = true ∧ word = [d] ∧ x = digitWord d := by
  obtain ⟨htext, hsegments, hdigits⟩ := h
  have hnone : ∀ sts : List Stretch, sts.flatMap Stretch.segments = [] → sts.flatMap Stretch.text = [] := by
    intro sts hsts
    rw [List.flatMap_eq_nil_iff] at hsts ⊢
    intro st hst
    cases st with
    | kept t => cases hsts _ hst
    | spelled ds => exact List.map_eq_nil_iff.mp (hsts _ hst)
  induction stretches with
  | nil => cases hsegments
  | cons st rest ih =>
    rw [List.flatMap_cons] at htext hsegments
    cases st with
    | kept t =>
      obtain ⟨rfl, hrest⟩ := List.cons.inj hsegments
      rw [hnone rest hrest, List.append_nil] at htext
      exact .inl htext
    | spelled ds =>
      cases ds with
      | nil => exact ih htext hsegments fun ds hds => hdigits ds (List.mem_cons_of_mem _ hds)
      | cons d ds =>
        obtain ⟨rfl, hrest⟩ := List.cons.inj hsegments
        obtain ⟨hds, hrest⟩ := List.append_eq_nil_iff.mp hrest
        rw [List.map_eq_nil_iff.mp hds, hnone rest hrest] at htext
        have hall := hdigits (d :: ds) List.mem_cons_self
        rw [List.all_cons, Bool.and_eq_true] at hall
        exact .inr ⟨d, hall.1, htext.symm, rfl⟩

/-- Whether the segments of a word in lower case are its segments, in lower case each. -/
def FollowsCase (s : Segmenter) (word : Text) : Prop :=
  ∃ segments, s.segment word = .ok segments ∧ s.segment word.lower = .ok (segments.map Text.lower)

section
variable {s : Segmenter} {p : Text → Prop} (hv : s.vocabulary.Reliable p) (hp : StretchClosed p) {word : Text}
include hv hp

/-- The word alone is what its segments become in lower case only if they were the word before. -/
theorem FollowsCase.isWhole_iff (h : s.FollowsCase word) (hwp : p word) (hword : word.IsAscii) :
    s.segment word.lower = .ok [word.lower] ↔ s.segment word = .ok [word] := by
  obtain ⟨segments, hsegments, hlower⟩ := h
  rw [hsegments, hlower, Except.ok.injEq, Except.ok.injEq]
  constructor
  · intro hone
    obtain ⟨x, rfl, hx⟩ := List.map_eq_singleton_iff.mp hone
    obtain ⟨found, hfound, hanswer⟩ := segment_ok hv hp hwp
    cases hsegments.symm.trans hfound
    rcases hanswer with hwhole | ⟨stretches, hpartition, _⟩
    · exact hwhole
    · rcases hpartition.single with rfl | ⟨d, hd, rfl, rfl⟩
      · rfl
      · obtain ⟨hspelled, hne, hsame⟩ := digits_sound hd
        rw [hspelled, Text.lower_ascii hword, List.map_singleton, hsame] at hx
        exact absurd hx hne
  · rintro hwhole
    rw [hwhole, List.map_singleton]

variable (hcase : s.vocabulary.CaseBlind)
include hcase

theorem qualifies_lower {side : Side} {cut : Text × Text} (hkept : (side.kept cut).IsAscii)
    (hleft : (side.left cut).IsAscii) (hkp : p (side.kept cut) ∧ p (side.kept cut).lower)
    (hlp : p (side.left cut) ∧ p (side.left cut).lower) (h : s.FollowsCase (side.left cut)) :
    s.Qualifies side (lowerCut cut) ↔ s.Qualifies side cut := by
  have hparts : ∀ cut, s.Qualifies side cut ↔ s.vocabulary.contains (side.kept cut) = .ok true ∧
      (s.vocabulary.contains (side.left cut) = .ok true ∨
        1 < (side.kept cut).length ∧ s.segment (side.left cut) ≠ .ok [side.left cut]) :=
    fun cut => ⟨fun hq => ⟨hq.kept, hq.left⟩, fun hq => ⟨hq.1, hq.2⟩⟩
  rw [hparts, hparts, side.kept_lower, side.left_lower, hcase.contains_lower hv.answers hkp,
    hcase.contains_lower hv.answers hlp, Text.length_lower hkept, ne_eq, h.isWhole_iff hv hp hlp.1 hleft]

variable (hword : word.IsAscii) (hboth : p word ∧ p word.lower)
  (hshorter : ∀ w : Text, w.length < word.length → w.IsAscii → p w ∧ p w.lower → s.FollowsCase w)
include hword

omit hv hp hcase in
theorem isAscii_cutAt (side : Side) (i : Nat) :
    (side.kept (cutAt word i)).IsAscii ∧ (side.left (cutAt word i)).IsAscii :=
  Side.both ⟨fun a ha => hword a (List.mem_of_mem_take ha), fun a ha => hword a (List.mem_of_mem_drop ha)⟩ side

include hboth

omit hv hcase in
theorem both_cutAt (side : Side) {i : Nat} (hpos : 0 < i) (hlt : i < word.length) :
    (p (side.kept (cutAt word i)) ∧ p (side.kept (cutAt word i)).lower) ∧
      p (side.left (cutAt word i)) ∧ p (side.left (cutAt word i)).lower := by
  have hparts := of_mem_cuts hp hboth.1 (mem_cuts.mpr ⟨i, hpos, hlt, rfl⟩) side
  have hlower : i < word.lower.length := by rwa [Text.length_lower hword]
  have hparts' := of_mem_cuts hp hboth.2 (mem_cuts.mpr ⟨i, hpos, hlower, rfl⟩) side
  rw [cutAt_lower hword, side.kept_lower, side.left_lower] at hparts'
  exact ⟨⟨hparts.1, hparts'.1⟩, hparts.2, hparts'.2⟩

include hshorter

theorem cutPoints_lower (side : Side) : s.cutPoints side word.lower = s.cutPoints side word := by
  ext i
  unfold cutPoints
  rw [Set.mem_ofPred_eq, Set.mem_ofPred_eq, Text.length_lower hword, cutAt_lower hword]
  refine and_congr_right fun hpos => and_congr_right fun hlt => ?_
  obtain ⟨hkept, hleft⟩ := isAscii_cutAt hword side i
  obtain ⟨hkp, hlp⟩ := both_cutAt hp hword hboth side hpos hlt
  have hless := (length_lt_of_mem_cuts (mem_cuts.mpr ⟨i, hpos, hlt, rfl⟩) side).2
  exact qualifies_lower hv hp hcase hkept hleft hkp hlp (hshorter _ hless hleft hlp)

theorem Divides.lower {side : Side} {i : Nat} (hi : i ∈ s.cutPoints side word) {segments : List Text}
    (h : s.Divides side (cutAt word i) segments) :
    s.Divides side (cutAt word.lower i) (segments.map Text.lower) := by
  obtain ⟨hpos, hlt, _⟩ := hi
  obtain ⟨_, hlp⟩ := both_cutAt hp hword hboth side hpos hlt
  rw [cutAt_lower hword]
  cases h with
  | parts hknown =>
    refine .parts ?_
    rw [side.left_lower, hcase.contains_lower hv.answers hlp, hknown]
  | further hnot hsegments =>
    have hless := (length_lt_of_mem_cuts (mem_cuts.mpr ⟨i, hpos, hlt, rfl⟩) side).2
    obtain ⟨found, hfound, hlower⟩ := hshorter _ hless (isAscii_cutAt hword side i).2 hlp
    cases hsegments.symm.trans hfound
    rw [side.attach_lower, ← side.kept_lower]
    refine .further ?_ (by rw [side.left_lower]; exact hlower)
    rw [side.left_lower, hcase.contains_lower hv.answers hlp, hnot]

theorem Chosen.lower {segments : List Text} (h : s.Chosen word segments) :
    s.Chosen word.lower (segments.map Text.lower) := by
  have hpoints := cutPoints_lower hv hp hcase hword hboth hshorter
  cases h with
  | beginning hi hdivides =>
    exact .beginning (hpoints _ ▸ hi) (hdivides.lower hv hp hcase hword hboth hshorter hi.1)
  | ending hnone hi hdivides =>
    exact .ending (hpoints _ ▸ hnone) (hpoints _ ▸ hi)
      (hdivides.lower hv hp hcase hword hboth hshorter hi.1)
  | characters hbeginning hending hshort =>
    rw [← characters_lower hword]
    exact .characters (hpoints _ ▸ hbeginning) (hpoints _ ▸ hending)
      (by rwa [Text.length_lower hword])
  | whole hbeginning hending hlong =>
    exact .whole (hpoints _ ▸ hbeginning) (hpoints _ ▸ hending) (by rwa [Text.length_lower hword])

theorem followsCase_step : s.FollowsCase word := by
  have hempty : word.lower.isEmpty = word.isEmpty := by
    rw [Bool.eq_iff_iff, List.isEmpty_iff, List.isEmpty_iff, Text.lower_eq_nil_iff]
  by_cases hidle : (word.isEmpty || !s.guess || s.vocabulary.isEmpty) = true
  · exact ⟨[word], segment_idle hidle, segment_idle (hempty ▸ hidle)⟩
  have hsearch := hidle
  simp only [Bool.or_eq_true, not_or, Bool.not_eq_true, Bool.not_eq_false', List.isEmpty_eq_false_iff]
    at hsearch
  obtain ⟨⟨hne, hguess⟩, hwords⟩ := hsearch
  have hne' : word.lower ≠ [] := Text.lower_ne_nil hne
  by_cases hdigits : word.all isAsciiDigit = true
  · refine ⟨_, segment_spelled hguess hwords hne hdigits, ?_⟩
    rw [← spellDigits_lower hdigits]
    exact segment_spelled hguess hwords hne' (by rwa [Text.all_isAsciiDigit_lower hword])
  rw [Bool.not_eq_true] at hdigits
  have hdigits' : word.lower.all isAsciiDigit = false := by rwa [Text.all_isAsciiDigit_lower hword]
  obtain ⟨known, hknown⟩ := contains_ok hv hboth.1
  have hknown' := (hcase.contains_lower hv.answers hboth).trans hknown
  cases known with
  | true => exact ⟨[word], segment_known hknown hdigits, segment_known hknown' hdigits'⟩
  | false =>
    obtain ⟨segments, hsegments, hchosen⟩ := exists_chosen hv hp hboth.1 hguess hwords hne hknown hdigits
    obtain ⟨others, hothers, hchosen'⟩ :=
      exists_chosen hv hp hboth.2 hguess hwords hne' hknown' hdigits'
    have hlower := hchosen.lower hv hp hcase hword hboth hshorter
    exact ⟨segments, hsegments, hchosen'.unique hlower ▸ hothers⟩

omit hshorter in
theorem followsCase : s.FollowsCase word := by
  induction hlen : word.length using Nat.strongRecOn generalizing word with
  | ind len ih =>
    exact followsCase_step hv hp hcase hword hboth fun w hw hascii hboth =>
      ih w.length (hlen ▸ hw) hascii hboth rfl

end

/-- Words in any case are taken apart alike: the segments of a word in lower case are those of the word as it
stands, in lower case each. -/
theorem segment_lower {s : Segmenter} (word : Text)
    (hv : s.vocabulary.Reliable fun w => w <:+: word ∨ w <:+: word.lower) (hcase : s.vocabulary.CaseBlind)
    (hword : word.IsAscii) : ∃ segments, s.segment word = .ok segments ∧
      s.segment word.lower = .ok (segments.map Text.lower) :=
  followsCase hv (StretchClosed.or (stretchClosed_isInfix word) (stretchClosed_isInfix word.lower)) hcase hword
    ⟨.inl (List.infix_refl word), .inr (List.infix_refl word.lower)⟩

/-- A digit behind a known word is spelled, and a capital within it does not hide the known words. -/
theorem segment_lower_buildThis :
    let s : Segmenter := ⟨(WordList.ofWords ["build", "this"]).toVocabulary, true⟩
    let word : Text := "BuilDThis4"
    s.vocabulary.Reliable (fun w => w <:+: word ∨ w <:+: word.lower) ∧ s.vocabulary.CaseBlind ∧ word.IsAscii ∧
      s.segment word = .ok ["BuilD".toList, "This".toList, "four".toList] ∧
      s.segment word.lower = .ok ["build".toList, "this".toList, "four".toList] := by
  intro s word
  have hv : s.vocabulary.Reliable fun w => w <:+: word ∨ w <:+: word.lower := WordList.reliable _ _
  have hcase : s.vocabulary.CaseBlind := (Vocabulary.Stored.wordList _).caseBlind
  have hword : word.IsAscii := by
    unfold Text.IsAscii
    decide
  obtain ⟨segments, hsegments, hlower⟩ := segment_lower word hv hcase hword
  have hfound : s.segment word = .ok ["BuilD".toList, "This".toList, "four".toList] := by decide
  cases hfound.symm.trans hsegments
  exact ⟨hv, hcase, hword, hfound, hlower⟩

end Segmenter

end Dictation
