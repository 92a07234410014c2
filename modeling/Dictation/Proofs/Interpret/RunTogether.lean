import Dictation.Proofs.Interpret.Uncommanded
import Dictation.Proofs.Rewrite.NoSpace
import Dictation.Proofs.Source.LetterNames
import Dictation.Proofs.Source.Statements
/-!
# Words that were run together

A name that is one word, but was taken apart, is spoken between `no-space` and `spaces`. It is read back
in small letters: what was said for its case is used up before its parts come together.
-/
namespace Dictation

open Node Text

theorem Segmenter.Parted.lower {k : Combiners} {n : Text} {segments : List Text} (hn : k.Letters n)
    (hne : n ≠ []) (h : Parted n segments) (hother : ∀ p ∈ segments, p.lower ∉ framingWords) :
    (segments.map Text.lower).flatten = n.lower ∧
      ∀ p ∈ segments.map Text.lower, OtherWord framingWords p := by
  obtain ⟨⟨stretches, hpartition⟩, hsolid⟩ := h
  have hdigits : n.all (!isAsciiDigit ·) = true :=
    List.all_eq_true.mpr fun a ha => by simp [(asciiLetters_sound a (hn.letters a ha)).2.2.1]
  have htext : segments.flatten = n := hpartition.flatten_eq hdigits
  have hletters : ∀ p ∈ segments, ∀ a ∈ p, a ∈ asciiLetters := fun p hp a ha =>
    hn.letters a (htext ▸ List.mem_flatten.mpr ⟨p, hp, ha⟩)
  have hlower : segments.map Text.lower = segments.map fun p => p.map Char.toLower :=
    List.map_congr_left fun p hp => lower_letters (hletters p hp)
  constructor
  · rw [lower_letters hn.letters, hlower, ← List.map_flatten, htext]
  · intro p hp
    obtain ⟨q, hq, rfl⟩ := List.mem_map.mp hp
    refine .lower ?_ (hletters q hq) (hother q hq)
    rintro rfl
    exact hsolid hne hq

/-- The words for the case of a name that is one word. -/
def caseMarkers : List (List Text) := [[], ["cap".toList], ["all".toList, "caps".toList]]

theorem markers_single (w : Text) : Cue.markers [w] ∈ caseMarkers := by
  have hword : (Casing.ofWords [w]).markers ∈ caseMarkers := by
    unfold Casing.ofWords
    dsimp only
    split
    · decide
    · split
      · decide
      · change [] ∈ caseMarkers
        decide
  unfold Cue.markers
  split
  · split
    · decide
    · decide
  · exact hword

theorem speakAll_runTogether {k : Combiners} {n : Text} (hn : k.Letters n) (hne : n ≠ [])
    (hword : Cue.caseWords k n = [n]) {segment : Text → Except VocabularyError (List Text)}
    {segments : List Text} (hsegments : segment n = .ok segments) (hlen : 1 < segments.length) :
    Cue.speakAll segment (Source.identifierCues k n) =
      .ok (Cue.markers [n] ++ ("no-space".toList :: (segments.map Text.lower ++ ["spaces".toList]))) := by
  have hname : Cue.speakAll segment [.name n] =
      .ok ("no-space".toList :: (segments.map Text.lower ++ ["spaces".toList])) := by
    have hframe : Cue.frame n segments = "no-space".toList :: (segments.map Text.lower ++ ["spaces".toList]) :=
      if_pos hlen
    rw [Cue.speakAll, Cue.speak, hsegments, ← hframe]
    exact congrArg Except.ok (List.append_nil _)
  rw [Source.identifierCues_letters hne hn, hword]
  exact Cue.speakAll_append (Cue.speakAll_fixed segment _) hname

namespace Interpreter

theorem triggers_miss_framed {start : Text}
    (hstart : start ∈ ["no-space", "cap no-space", "all caps no-space"].map String.toList)
    {parts : List Text} (hparts : ∀ p ∈ parts, OtherWord framingWords p) :
    ∀ n ∈ CommandTable.triggers, n.Misses none (framed start parts) [] := by
  have hidle : ∀ start ∈ ["no-space", "cap no-space", "all caps no-space"].map String.toList,
      start ∈ starts ∧ ∀ n ∈ CommandTable.triggers, idleOn [start, "spaces".toList] framingWords n = true := by
    decide +kernel
  obtain ⟨hmem, htriggers⟩ := hidle start hstart
  exact fun n hn => misses_of_idleOn (units_starts start hmem) (htriggers n hn) (words_framed hparts) none

/-- Words that belong together are read back as one text, whatever is said for their case. -/
theorem interpretText_framed {ms : List Text} (hms : ms ∈ caseMarkers) {parts : List Text} (hne : parts ≠ [])
    (hparts : ∀ p ∈ parts, OtherWord framingWords p) :
    (new .shipped .shipped).interpretText
      (join [' '] (ms ++ ("no-space".toList :: (parts ++ ["spaces".toList])))) = [.text parts.flatten] := by
  have hmarkers : ∀ ms ∈ caseMarkers, (∀ x ∈ ms ++ ["no-space".toList, "spaces".toList], isSolid x = true) ∧
      join [' '] (ms ++ ["no-space".toList]) ∈ ["no-space", "cap no-space", "all caps no-space"].map String.toList := by
    decide
  obtain ⟨hsolid, hstart⟩ := hmarkers ms hms
  have hframed : join [' '] (ms ++ ("no-space".toList :: (parts ++ ["spaces".toList]))) =
      framed (join [' '] (ms ++ ["no-space".toList])) parts := by
    have hgroup : ms ++ ("no-space".toList :: (parts ++ ["spaces".toList])) =
        (ms ++ ["no-space".toList]) ++ (parts ++ ["spaces".toList]) := by simp
    rw [hgroup, join_append (by simp) (by simp), framed, join_cons (by simp)]
  have hwords : ∀ x ∈ ms ++ ("no-space".toList :: (parts ++ ["spaces".toList])), isSolid x = true := by
    intro x hx
    simp only [List.mem_append, List.mem_cons, List.not_mem_nil, or_false] at hx hsolid
    rcases hx with hx | rfl | hx | rfl
    · exact hsolid x (.inl hx)
    · exact hsolid _ (.inr (.inl rfl))
    · exact (hparts x hx).isSolid
    · exact hsolid _ (.inr (.inr rfl))
  have hflat : isSolid parts.flatten = true := by
    obtain ⟨p, ps, rfl⟩ := List.exists_cons_of_ne_nil hne
    refine isSolid_of_isBlank (by simp [(hparts p List.mem_cons_self).ne_nil]) fun a ha => ?_
    obtain ⟨q, hq, ha⟩ := List.mem_flatten.mp ha
    exact isBlank_of_isSolid (hparts q hq).isSolid ha
  refine interpretText_of_misses (isTrimmed_join (by simp) hwords) ?_ ?_ (isTrimmed_of_isSolid hflat)
  · rw [hframed]
    exact triggers_miss_framed hstart hparts
  · rw [hframed]
    exact RuleTable.apply_framed hstart hne hparts

/-- A name of letters that is one word and was taken apart is read back in small letters, so that it is
the name itself just if that has no capitals. -/
theorem interpretText_runTogether (s : Segmenter) (hv : s.vocabulary.Answering) {k : Combiners} {n : Text}
    (hn : k.Letters n) (hword : Cue.caseWords k n = [n]) :
    ∃ segments, s.segment n = .ok segments ∧
      (1 < segments.length → (∀ p ∈ segments, p.lower ∉ framingWords) →
        ∃ ws, Cue.speakAll s.segment (Source.identifierCues k n) = .ok ws ∧
          (new .shipped .shipped).interpretText (join [' '] ws) = [.text n.lower] ∧
          ((new .shipped .shipped).interpretText (join [' '] ws) = [.text n] ↔ ∀ a ∈ n, a ∈ smallLetters)) := by
  have hne : n ≠ [] := by
    rintro rfl
    cases hword
  have htab : '\t' ∉ n := fun ha => absurd (hn.letters _ ha) (by decide)
  obtain ⟨segments, hsegments, hparted⟩ := Segmenter.segment_yields_of_answering hv htab
  refine ⟨segments, hsegments, fun hlen hother => ?_⟩
  obtain ⟨htext, hparts⟩ := hparted.lower hn hne hother
  have hsegs : segments.map Text.lower ≠ [] := by
    rintro hnil
    rw [List.map_eq_nil_iff.mp hnil] at hlen
    cases hlen
  have hread := interpretText_framed (markers_single n) hsegs hparts
  rw [htext] at hread
  refine ⟨_, speakAll_runTogether hn hne hword hsegments hlen, hread, ?_⟩
  rw [hread, ← lower_eq_self_iff hn.letters]
  simp

/-- A name in small letters is read back as it was. -/
theorem interpretText_buildthis :
    let s : Segmenter := ⟨(WordList.ofWords ["build", "this"]).toVocabulary, true⟩
    s.vocabulary.Answering ∧ Combiners.Letters {} "buildthis".toList ∧
      Cue.caseWords {} "buildthis".toList = ["buildthis".toList] ∧
      ∃ ws, Cue.speakAll s.segment (Source.identifierCues {} "buildthis".toList) = .ok ws ∧
        (new .shipped .shipped).interpretText (join [' '] ws) = [.text "buildthis".toList] := by
  intro s
  have hletters : Combiners.Letters {} "buildthis".toList := ⟨by decide, by decide⟩
  have hword : Cue.caseWords {} "buildthis".toList = ["buildthis".toList] := by decide +kernel
  have hfound : s.segment "buildthis".toList = .ok ["build".toList, "this".toList] := by decide
  have hanswering : s.vocabulary.Answering := WordList.answering _
  obtain ⟨segments, hsegments, hread⟩ := interpretText_runTogether s hanswering hletters hword
  rw [hfound] at hsegments
  cases hsegments
  obtain ⟨ws, hws, _, hsame⟩ := hread (by decide) (by decide)
  exact ⟨hanswering, hletters, hword, ws, hws, hsame.mpr (by decide)⟩

/-- The capital of a name that was taken apart is lost. -/
theorem interpretText_Buildthis :
    let s : Segmenter := ⟨(WordList.ofWords ["build", "this"]).toVocabulary, true⟩
    s.vocabulary.Answering ∧ Cue.caseWords {} "Buildthis".toList = ["Buildthis".toList] ∧
      s.segment "Buildthis".toList = .ok ["Build".toList, "this".toList] ∧
      Cue.speakAll s.segment (Source.identifierCues {} "Buildthis".toList) =
        .ok (["cap", "no-space", "build", "this", "spaces"].map String.toList) ∧
      (new .shipped .shipped).interpretText "cap no-space build this spaces".toList =
        [.text "buildthis".toList] ∧
      (new .shipped .shipped).interpretText "cap no-space build this spaces".toList ≠
        [.text "Buildthis".toList] := by
  intro s
  have hletters : Combiners.Letters {} "Buildthis".toList := ⟨by decide, by decide⟩
  have hword : Cue.caseWords {} "Buildthis".toList = ["Buildthis".toList] := by decide +kernel
  have hfound : s.segment "Buildthis".toList = .ok ["Build".toList, "this".toList] := by decide
  have hspoken := speakAll_runTogether hletters (by decide) hword hfound (by decide)
  have hparts : ∀ p ∈ ["build".toList, "this".toList], OtherWord framingWords p := by
    have hall : ∀ p ∈ ["build".toList, "this".toList], p ≠ [] ∧ (∀ a ∈ p, a ∈ asciiLetters) ∧
        p.map Char.toLower ∉ framingWords := by decide
    exact fun p hp => ⟨(hall p hp).1, (hall p hp).2.1, (hall p hp).2.2⟩
  have hread := interpretText_framed (show ["cap".toList] ∈ caseMarkers by decide) (by decide) hparts
  refine ⟨WordList.answering _, hword, hfound, hspoken, hread, ?_⟩
  rw [show "cap no-space build this spaces".toList = join [' '] (["cap".toList] ++
    ("no-space".toList :: (["build".toList, "this".toList] ++ ["spaces".toList]))) by decide, hread]
  simp

end Interpreter

end Dictation
