import Dictation.Proofs.Segmentation.Completeness
import Mathlib.Data.List.Infix
/-!
# Segments are taken apart no further

A segment of a word without digits is known, a single character, or a word that was left whole. None of
these is taken apart when it is met again, so that taking apart every segment changes nothing.
-/
namespace Dictation.Segmenter

variable {s : Segmenter}

/-- Whether a word is left whole. -/
def IsSettled (s : Segmenter) (word : Text) : Prop := s.segment word = .ok [word]

/-- Whether a text has no digit that would be spelled. -/
def Unspelled (t : Text) : Prop := t.all (!isAsciiDigit ·) = true

theorem Unspelled.append_iff {x y : Text} : Unspelled (x ++ y) ↔ Unspelled x ∧ Unspelled y := by
  unfold Unspelled
  rw [List.all_append, Bool.and_eq_true]

theorem Unspelled.single {t : Text} (h : Unspelled t) {c : Char} (hc : c ∈ t) : Unspelled [c] := by
  rw [Unspelled, List.all_cons, List.all_nil, Bool.and_true]
  exact List.all_eq_true.mp h c hc

theorem Unspelled.not_number {t : Text} (h : Unspelled t) (hne : t ≠ []) :
    t.all isAsciiDigit = false := by
  obtain ⟨c, rest, rfl⟩ := List.exists_cons_of_ne_nil hne
  unfold Unspelled at h
  rw [List.all_cons, Bool.and_eq_true, Bool.not_eq_true'] at h
  rw [List.all_cons, h.1, Bool.false_and]

theorem isSettled_of_known {t : Text} (hknown : s.vocabulary.contains t = .ok true)
    (ht : Unspelled t) : s.IsSettled t := by
  by_cases hne : t = []
  · subst hne
    exact segment_idle rfl
  · exact segment_known hknown (ht.not_number hne)

theorem characters_eq {word : Text} (h : Unspelled word) : characters word = word.map ([·]) := by
  refine List.map_congr_left fun c hc => ?_
  have hdigit := List.all_eq_true.mp h c hc
  rw [Bool.not_eq_true'] at hdigit
  rw [if_neg (by rw [hdigit]; exact Bool.false_ne_true)]

theorem mapM_segment {ts : List Text} (h : ∀ t ∈ ts, s.IsSettled t) :
    (ts.mapM s.segment).map List.flatten = .ok ts := by
  have hone : ts.mapM s.segment = .ok (ts.map ([·])) := by
    induction ts with
    | nil => rfl
    | cons t ts ih =>
      obtain ⟨ht, hts⟩ := List.forall_mem_cons.mp h
      rw [List.mapM_cons, show s.segment t = .ok [t] from ht, ih hts]
      rfl
  rw [hone]
  change Except.ok (ts.map ([·])).flatten = _
  rw [← List.flatMap_def, List.flatMap_singleton']

theorem Divides.isSettled {side : Side} {word : Text} {i : Nat} {segments : List Text}
    (h : s.Divides side (cutAt word i) segments) (hi : i ∈ s.cutPoints side word)
    (hword : Unspelled word)
    (hshorter : ∀ (w : Text) (segments : List Text), w <:+: word → w.length < word.length → Unspelled w →
      s.segment w = .ok segments → ∀ t ∈ segments, s.IsSettled t) : ∀ t ∈ segments, s.IsSettled t := by
  have hparts : Unspelled (side.kept (cutAt word i)) ∧ Unspelled (side.left (cutAt word i)) := by
    rw [← List.take_append_drop i word] at hword
    exact Side.both (Unspelled.append_iff.mp hword) side
  have hkept := isSettled_of_known hi.2.2.kept hparts.1
  intro t ht
  cases h with
  | parts hknown =>
    rw [← side.attach_left, Side.mem_attach, List.mem_singleton] at ht
    rcases ht with rfl | rfl
    · exact hkept
    · exact isSettled_of_known hknown hparts.2
  | further hnot hsegments =>
    rcases Side.mem_attach.mp ht with rfl | ht
    · exact hkept
    · have hstretch := (infix_of_mem_cuts (mem_cuts.mpr ⟨i, hi.1, hi.2.1, rfl⟩) side).2
      exact hshorter _ _ hstretch (length_lt_of_mem_cutPoints hi).2 hparts.2 hsegments t ht

section
variable {p : Text → Prop} (hv : s.vocabulary.Reliable p) (hp : StretchClosed p)
include hv hp

theorem isSettled_or_chosen {word : Text} (hwp : p word) (hword : Unspelled word) :
    s.IsSettled word ∨ ∃ segments, s.segment word = .ok segments ∧ s.Chosen word segments := by
  by_cases hidle : (word.isEmpty || !s.guess || s.vocabulary.isEmpty) = true
  · exact .inl (segment_idle hidle)
  · obtain ⟨known, hcontains⟩ := contains_ok hv hwp
    cases known with
    | true => exact .inl (isSettled_of_known hcontains hword)
    | false =>
      simp only [Bool.or_eq_true, not_or, Bool.not_eq_true, Bool.not_eq_false',
        List.isEmpty_eq_false_iff] at hidle
      obtain ⟨⟨hne, hguess⟩, hwords⟩ := hidle
      exact .inr (exists_chosen hv hp hwp hguess hwords hne hcontains (hword.not_number hne))

theorem isSettled_single {c : Char} (hcp : p [c]) (hc : Unspelled [c]) : s.IsSettled [c] := by
  rcases isSettled_or_chosen hv hp hcp hc with hsettled | ⟨segments, hsegments, hchosen⟩
  · exact hsettled
  · have hnone : ∀ {side i}, i ∉ s.cutPoints side [c] := fun {_ i} ⟨hpos, hlt, _⟩ => by
      rw [List.length_singleton] at hlt
      omega
    cases hchosen with
    | beginning hi _ => exact absurd hi.1 hnone
    | ending _ hi _ => exact absurd hi.1 hnone
    | characters _ _ _ => exact hsegments.trans (congrArg _ (characters_eq hc))
    | whole _ _ _ => exact hsegments

/-- Every segment of a word without digits is left whole. -/
theorem isSettled_of_mem {word : Text} (hwp : p word) (hword : Unspelled word) {segments : List Text}
    (hsegments : s.segment word = .ok segments) : ∀ t ∈ segments, s.IsSettled t := by
  induction hlen : word.length using Nat.strongRecOn generalizing word segments with
  | ind len ih =>
    have hshorter : ∀ (w : Text) (segments : List Text), w <:+: word → w.length < word.length →
        Unspelled w → s.segment w = .ok segments → ∀ t ∈ segments, s.IsSettled t :=
      fun w _ hstretch hw hunspelled hsegments =>
        ih w.length (hlen ▸ hw) (hp hwp hstretch) hunspelled hsegments rfl
    rcases isSettled_or_chosen hv hp hwp hword with hsettled | ⟨found, hfound, hchosen⟩
    · cases hsettled.symm.trans hsegments
      exact List.forall_mem_singleton.mpr hsettled
    · cases hfound.symm.trans hsegments
      cases hchosen with
      | beginning hi hdivides => exact hdivides.isSettled hi.1 hword hshorter
      | ending _ hi hdivides => exact hdivides.isSettled hi.1 hword hshorter
      | characters _ _ _ =>
        rw [characters_eq hword]
        exact List.forall_mem_map.mpr fun c hc =>
          isSettled_single hv hp (hp hwp ((List.singleton_infix_iff c word).mpr hc)) (hword.single hc)
      | whole _ _ _ => exact List.forall_mem_singleton.mpr hsegments

end

/-- A word without digits is answered with segments that are left whole. So segments that are taken
apart once more, one after the other, are the same again. -/
theorem segment_segments (word : Text) (hv : s.vocabulary.Reliable (· <:+: word)) (hword : Unspelled word) :
    ∃ segments, s.segment word = .ok segments ∧ (∀ t ∈ segments, s.segment t = .ok [t]) ∧
      (segments.mapM s.segment).map List.flatten = .ok segments := by
  have hstretches : StretchClosed (· <:+: word) := stretchClosed_isInfix word
  have hwhole := List.infix_refl word
  obtain ⟨segments, hsegments, _⟩ := segment_ok hv hstretches hwhole
  have hsettled := isSettled_of_mem hv hstretches hwhole hword hsegments
  exact ⟨segments, hsegments, hsettled, mapM_segment hsettled⟩

/-- A known word stays, and so do the characters of what follows it. -/
theorem segment_segments_generateOv :
    let s : Segmenter := ⟨(WordList.ofWords ["generate"]).toVocabulary, true⟩
    let segments : List Text := ["Generate", "o", "v"]
    s.vocabulary.Reliable (· <:+: "Generateov".toList) ∧ Unspelled "Generateov" ∧ s.segment "Generateov" = .ok segments ∧
      (∀ t ∈ segments, s.segment t = .ok [t]) ∧
      (segments.mapM s.segment).map List.flatten = .ok segments := by
  intro s segments
  have hv : s.vocabulary.Reliable (· <:+: "Generateov".toList) := WordList.reliable _ _
  have hword : Unspelled "Generateov" := by
    unfold Unspelled
    decide
  have hfound : s.segment "Generateov" = .ok segments := by decide +kernel
  obtain ⟨found, hsegments, hsettled, hsame⟩ := segment_segments "Generateov" hv hword
  cases hfound.symm.trans hsegments
  exact ⟨hv, hword, hfound, hsettled, hsame⟩

end Dictation.Segmenter
