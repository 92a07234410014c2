import Dictation.Proofs.Segmentation.Choice
/-!
# Words that are never given up

The search does not try all ways to take a word apart: it stops at the first cut that can be made. Still
it takes apart every word that known words make up, as long as those before the last two have several
characters. The cut behind the first of them can always be made, so that there is one to choose.
-/
namespace Dictation.Segmenter

variable {s : Segmenter}

theorem length_lt_of_mem_cutPoints {side : Side} {word : Text} {i : Nat}
    (hi : i ∈ s.cutPoints side word) :
    (side.kept (cutAt word i)).length < word.length ∧ (side.left (cutAt word i)).length < word.length :=
  length_lt_of_mem_cuts (mem_cuts.mpr ⟨i, hi.1, hi.2.1, rfl⟩) side

theorem Divides.ne_whole {side : Side} {word : Text} {i : Nat} {segments : List Text}
    (hi : i ∈ s.cutPoints side word) (h : s.Divides side (cutAt word i) segments) :
    segments ≠ [word] := by
  rintro hwhole
  cases h with
  | parts hknown => simp at hwhole
  | further hnot hsegments =>
    have hkept : side.kept (cutAt word i) ∈ [word] := hwhole ▸ Side.mem_attach.mpr (.inl rfl)
    rw [List.mem_singleton] at hkept
    have hlt := (length_lt_of_mem_cutPoints hi).1
    rw [hkept] at hlt
    exact Nat.lt_irrefl _ hlt

theorem Chosen.cutPoints_eq_empty {word : Text} (h : s.Chosen word [word]) :
    s.cutPoints .beginning word = ∅ := by
  generalize hwhole : [word] = segments at h
  cases h with
  | beginning hi hdivides => exact absurd hwhole.symm (hdivides.ne_whole hi.1)
  | ending hnone _ _ | characters hnone _ _ | whole hnone _ _ => exact hnone

section
variable (hguess : s.guess = true) (hwords : s.vocabulary.isEmpty = false)
include hguess hwords

/-- A word with a place for a cut is taken apart. A number of several digits is spelled instead. -/
theorem segment_append {x y : Text} (hv : s.vocabulary.Reliable (· <:+: x ++ y)) (hx : x ≠ []) (hy : y ≠ [])
    (hunknown : s.vocabulary.contains (x ++ y) = .ok false) (hcut : s.Qualifies .beginning (x, y)) :
    ∃ segments, s.segment (x ++ y) = .ok segments ∧ segments ≠ [x ++ y] := by
  have hxlen := List.length_pos_iff.mpr hx
  have hylen := List.length_pos_iff.mpr hy
  have hlen : (x ++ y).length = x.length + y.length := List.length_append
  have hne := List.append_ne_nil_of_left_ne_nil hx y
  by_cases hdigits : (x ++ y).all isAsciiDigit = true
  · refine ⟨_, segment_spelled hguess hwords hne hdigits, fun hwhole => ?_⟩
    have hone := congrArg List.length hwhole
    rw [spellDigits, List.length_map, List.length_singleton] at hone
    omega
  · rw [Bool.not_eq_true] at hdigits
    obtain ⟨segments, hsegments, hchosen⟩ := exists_chosen hv (stretchClosed_isInfix _)
      (List.infix_refl _) hguess hwords hne hunknown hdigits
    refine ⟨segments, hsegments, ?_⟩
    rintro rfl
    have hplace : x.length ∈ s.cutPoints .beginning (x ++ y) :=
      ⟨hxlen, by omega, by rwa [cutAt_append]⟩
    rw [hchosen.cutPoints_eq_empty] at hplace
    exact hplace

/-- A word that is not known is taken apart if known words make it up, of which all but the last two
have several characters. -/
theorem segment_concatenation {parts : List Text} (hv : s.vocabulary.Reliable (· <:+: parts.flatten))
    (htwo : 2 ≤ parts.length)
    (hparts : ∀ p ∈ parts, p ≠ [] ∧ s.vocabulary.contains p = .ok true)
    (hlong : ∀ p ∈ parts.dropLast.dropLast, 2 ≤ p.length)
    (hunknown : s.vocabulary.contains parts.flatten = .ok false) :
    ∃ segments, s.segment parts.flatten = .ok segments ∧ segments ≠ [parts.flatten] := by
  induction parts with
  | nil => cases htwo
  | cons p rest ih =>
    obtain ⟨⟨hp, hknown⟩, hrest⟩ := List.forall_mem_cons.mp hparts
    rw [List.flatten_cons] at hv hunknown ⊢
    cases rest with
    | nil => simp at htwo
    | cons q more =>
      obtain ⟨hq, hnext⟩ := hrest q List.mem_cons_self
      have hne : (q :: more).flatten ≠ [] := List.append_ne_nil_of_left_ne_nil hq _
      refine segment_append hguess hwords hv hp hne hunknown ⟨hknown, ?_⟩
      change s.vocabulary.contains (q :: more).flatten = _ ∨
        1 < p.length ∧ s.segment (q :: more).flatten ≠ _
      cases more with
      | nil =>
        rw [List.flatten_singleton]
        exact .inl hnext
      | cons r more =>
        have hbehind : (q :: r :: more).flatten <:+: p ++ (q :: r :: more).flatten :=
          (List.suffix_append _ _).isInfix
        obtain ⟨known, hleft⟩ := contains_ok hv hbehind
        cases known with
        | true => exact .inl hleft
        | false =>
          -- Two words are left at least, so that `p` is not among the last two.
          have hlonger : ∀ t ∈ (q :: r :: more).dropLast.dropLast, 2 ≤ t.length := fun t ht =>
            hlong t (List.mem_cons_of_mem p ht)
          obtain ⟨segments, hsegments, hapart⟩ :=
            ih (hv.mono fun _ hw => hw.trans hbehind) (by simp) hrest hlonger hleft
          refine .inr ⟨hlong p List.mem_cons_self, ?_⟩
          rw [hsegments]
          exact fun h => hapart (Except.ok.inj h)

end

/-- Three words in a row, the last two of a single character each. -/
theorem segment_concatenation_runQB :
    let s : Segmenter := ⟨(WordList.ofWords ["run", "q", "b"]).toVocabulary, true⟩
    let parts : List Text := ["run", "q", "b"]
    s.vocabulary.Reliable (· <:+: parts.flatten) ∧ s.guess = true ∧ s.vocabulary.isEmpty = false ∧ 2 ≤ parts.length ∧
      (∀ p ∈ parts, p ≠ [] ∧ s.vocabulary.contains p = .ok true) ∧
      (∀ p ∈ parts.dropLast.dropLast, 2 ≤ p.length) ∧
      s.vocabulary.contains parts.flatten = .ok false ∧
      ∃ segments, s.segment parts.flatten = .ok segments ∧ segments ≠ [parts.flatten] := by
  intro s parts
  have hv : s.vocabulary.Reliable (· <:+: parts.flatten) := WordList.reliable _ _
  have htwo : 2 ≤ parts.length := by decide
  have hparts : ∀ p ∈ parts, p ≠ [] ∧ s.vocabulary.contains p = .ok true := by decide +kernel
  have hlong : ∀ p ∈ parts.dropLast.dropLast, 2 ≤ p.length := by decide
  have hunknown : s.vocabulary.contains parts.flatten = .ok false := by decide +kernel
  exact ⟨hv, rfl, rfl, htwo, hparts, hlong, hunknown,
    segment_concatenation rfl rfl hv htwo hparts hlong hunknown⟩

end Dictation.Segmenter
