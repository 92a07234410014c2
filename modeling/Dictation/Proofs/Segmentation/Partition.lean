import Dictation.Proofs.Segmentation.Simulation
import Dictation.Proofs.Vocabulary.Layers
/-!
# Segments make up their word

The segments of a word come from stretches of it, in order and without gaps. A stretch is kept as it
stands or, if it holds nothing but digits, spelled. Unless the word is left whole, what is kept is
known to the vocabulary or a single character.
-/
namespace Dictation

namespace Segmenter

inductive Stretch where
  | kept (t : Text)
  | spelled (ds : Text)
  deriving DecidableEq, Repr

namespace Stretch

def text : Stretch → Text
  | kept t => t
  | spelled ds => ds

/-- What a stretch contributes to the segments. -/
def segments : Stretch → List Text
  | kept t => [t]
  | spelled ds => spellDigits ds

end Stretch

/-- Stretches that make up a word and give its segments. Only digits are spelled. -/
structure Partition (word : Text) (segments : List Text) (stretches : List Stretch) : Prop where
  text_eq : stretches.flatMap Stretch.text = word
  segments_eq : stretches.flatMap Stretch.segments = segments
  digits : ∀ ds, Stretch.spelled ds ∈ stretches → ds.all isAsciiDigit = true

/-- Whether every kept stretch is known or a single character. -/
def Known (v : Vocabulary) (stretches : List Stretch) : Prop :=
  ∀ t, Stretch.kept t ∈ stretches → v.contains t = .ok true ∨ t.length = 1

namespace Partition

theorem whole (word : Text) : Partition word [word] [.kept word] where
  text_eq := List.append_nil _
  segments_eq := rfl
  digits ds h := by simp at h

theorem append {w w' : Text} {segs segs' : List Text} {sts sts' : List Stretch}
    (h : Partition w segs sts) (h' : Partition w' segs' sts') :
    Partition (w ++ w') (segs ++ segs') (sts ++ sts') where
  text_eq := by rw [List.flatMap_append, h.text_eq, h'.text_eq]
  segments_eq := by rw [List.flatMap_append, h.segments_eq, h'.segments_eq]
  digits ds hds := (List.mem_append.mp hds).elim (h.digits ds) (h'.digits ds)

theorem spelling {ds : Text} (h : ds.all isAsciiDigit = true) :
    Partition ds (spellDigits ds) [.spelled ds] where
  text_eq := List.append_nil _
  segments_eq := List.append_nil _
  digits ds' h' := by
    simp only [List.mem_singleton, Stretch.spelled.injEq] at h'
    rw [h']
    exact h

theorem flatten_eq {word : Text} {segments : List Text} {stretches : List Stretch}
    (h : Partition word segments stretches) (hword : word.all (!isAsciiDigit ·) = true) :
    segments.flatten = word := by
  have hone : ∀ st ∈ stretches, st.segments.flatten = st.text := by
    intro st hst
    cases st with
    | kept t => exact List.append_nil t
    | spelled ds =>
      have hnil : ds = [] := by
        apply List.eq_nil_iff_forall_not_mem.mpr
        intro c hc
        have hdigit := List.all_eq_true.mp (h.digits ds hst) c hc
        have hmem : c ∈ word := by
          rw [← h.text_eq]
          exact List.mem_flatMap.mpr ⟨_, hst, hc⟩
        have hnot := List.all_eq_true.mp hword c hmem
        rw [hdigit] at hnot
        cases hnot
      rw [hnil]
      rfl
  rw [← h.segments_eq, ← h.text_eq]
  clear h
  induction stretches with
  | nil => rfl
  | cons st rest ih =>
    rw [List.flatMap_cons, List.flatMap_cons, List.flatten_append, hone st List.mem_cons_self,
      ih fun st hst => hone st (List.mem_cons_of_mem _ hst)]

end Partition

theorem Known.append {v : Vocabulary} {sts sts' : List Stretch} (h : Known v sts)
    (h' : Known v sts') : Known v (sts ++ sts') := by
  intro t ht
  exact (List.mem_append.mp ht).elim (h t) (h' t)

theorem known_kept {v : Vocabulary} {t : Text} (h : v.contains t = .ok true) :
    Known v [.kept t] := by
  intro t' ht'
  simp only [List.mem_singleton, Stretch.kept.injEq] at ht'
  rw [ht']
  exact Or.inl h

/-- Whether segments make up a word that was taken apart. -/
def TakenApart (s : Segmenter) (word : Text) (segments : List Text) : Prop :=
  ∃ stretches, Partition word segments stretches ∧ Known s.vocabulary stretches

/-- Whether segments are a right answer for a word: it is taken apart, or left whole. -/
def Answer (s : Segmenter) (word : Text) (segments : List Text) : Prop :=
  segments = [word] ∨ s.TakenApart word segments

theorem Answer.takenApart {s : Segmenter} {word : Text} {segments : List Text}
    (h : s.Answer word segments) (hne : segments ≠ [word]) : s.TakenApart word segments :=
  h.resolve_left hne

theorem takenApart_of_known {s : Segmenter} {t : Text} (h : s.vocabulary.contains t = .ok true) :
    s.TakenApart t [t] :=
  ⟨[.kept t], .whole t, known_kept h⟩

theorem takenApart_of_cut {s : Segmenter} {side : Side} {word : Text} {cut : Text × Text}
    {segments : List Text} (hword : cut.1 ++ cut.2 = word)
    (hkept : s.vocabulary.contains (side.kept cut) = .ok true)
    (hleft : s.TakenApart (side.left cut) segments) :
    s.TakenApart word (side.attach (side.kept cut) segments) := by
  obtain ⟨stretches, hpartition, hknown⟩ := hleft
  rw [← hword]
  cases side with
  | beginning =>
    exact ⟨_, (Partition.whole cut.1).append hpartition, (known_kept hkept).append hknown⟩
  | ending =>
    exact ⟨_, hpartition.append (Partition.whole cut.2), hknown.append (known_kept hkept)⟩

theorem takenApart_characters (s : Segmenter) (word : Text) :
    s.TakenApart word (characters word) := by
  induction word with
  | nil => exact ⟨[], ⟨rfl, rfl, by simp⟩, by simp [Known]⟩
  | cons c rest ih =>
    obtain ⟨stretches, hpartition, hknown⟩ := ih
    by_cases hdigit : isAsciiDigit c = true
    · refine ⟨[.spelled [c]] ++ stretches, ?_, ?_⟩
      · have hfirst : Partition [c] _ _ := Partition.spelling (by simp [hdigit])
        have happend := hfirst.append hpartition
        simpa [characters, spellDigits, hdigit] using happend
      · refine Known.append ?_ hknown
        intro t ht
        simp at ht
    · refine ⟨[.kept [c]] ++ stretches, ?_, ?_⟩
      · have happend := (Partition.whole [c]).append hpartition
        simpa [characters, hdigit] using happend
      · refine Known.append ?_ hknown
        intro t ht
        simp only [List.mem_singleton, Stretch.kept.injEq] at ht
        rw [ht]
        exact Or.inr rfl

section
variable {s : Segmenter} {p : Text → Prop} (hv : s.vocabulary.Reliable p)
include hv

theorem contains_ok {w : Text} (hw : p w) : ∃ b, s.vocabulary.contains w = .ok b := by
  have hquery : ∀ u ∈ [w], p u := List.forall_mem_singleton.mpr hw
  obtain ⟨a, ha⟩ := hv.answers [w] hquery
  exact ⟨_, hv.consistent hquery ha List.mem_cons_self⟩

theorem known_ok {candidates : List Text} (hp : ∀ w ∈ candidates, p w) :
    ∃ a, s.vocabulary.known candidates = .ok a ∧
      ∀ w ∈ candidates, s.vocabulary.contains w = .ok (a.knows w.lower) := by
  unfold Vocabulary.known
  by_cases hnil : candidates.isEmpty = true
  · refine ⟨.empty, by rw [if_pos hnil], ?_⟩
    intro w hw
    rw [List.isEmpty_iff.mp hnil] at hw
    cases hw
  · obtain ⟨a, ha⟩ := hv.answers candidates hp
    exact ⟨a, by rw [if_neg hnil, ha], fun w hw => hv.consistent hp ha hw⟩

variable (hp : StretchClosed p) {word : Text} (hword : p word)
include hp hword

omit hv in
theorem of_mem_cuts {cut : Text × Text} (hcut : cut ∈ cuts word) (side : Side) :
    p (side.kept cut) ∧ p (side.left cut) :=
  (infix_of_mem_cuts hcut side).imp (hp hword) (hp hword)

theorem knownCuts_ok (side : Side) : ∃ cs, s.knownCuts side word = .ok cs ∧
    cs.Sublist (side.inOrder (cuts word)) ∧
    ∀ cut, cut ∈ cs ↔ cut ∈ cuts word ∧ s.vocabulary.contains (side.kept cut) = .ok true := by
  have hparts : ∀ w ∈ (side.inOrder (cuts word)).map side.kept, p w :=
    List.forall_mem_map.mpr fun cut hcut => (of_mem_cuts hp hword (Side.mem_inOrder.mp hcut) side).1
  obtain ⟨known, hknown, hsame⟩ := known_ok hv hparts
  refine ⟨_, by rw [knownCuts_eq, hknown]; rfl, List.filter_sublist, fun cut => ?_⟩
  rw [List.mem_filter, Side.mem_inOrder]
  refine and_congr_right fun hcut => ?_
  rw [hsame _ (List.mem_map_of_mem (Side.mem_inOrder.mpr hcut)), Except.ok.injEq]

variable {recurse : Text → Except VocabularyError (List Text)}

omit hv hp hword in
theorem firstCut_cons_ok {side : Side} {cut : Text × Text} (cs : List (Text × Text)) {known : Bool}
    {segments : List Text} (hleft : s.vocabulary.contains (side.left cut) = .ok known)
    (hsegments : recurse (side.left cut) = .ok segments) :
    s.firstCut (fun a => a) recurse side (cut :: cs) =
      if known then .ok (some [cut.1, cut.2])
      else if 1 < (side.kept cut).length ∧ segments ≠ [side.left cut] then
        .ok (some (side.attach (side.kept cut) segments))
      else s.firstCut (fun a => a) recurse side cs := by
  rw [firstCut_cons, hleft, hsegments]
  cases known with
  | true => rfl
  | false => simp only [bind, Except.bind, pure, Except.pure, Bool.and_eq_true, decide_eq_true_eq]

theorem firstCut_ok {side : Side} (cs : List (Text × Text))
    (hcs : ∀ cut ∈ cs, cut ∈ cuts word ∧ s.vocabulary.contains (side.kept cut) = .ok true)
    (hrec : ∀ cut ∈ cs, ∃ segments, recurse (side.left cut) = .ok segments ∧
      s.Answer (side.left cut) segments) :
    ∃ found, s.firstCut (fun a => a) recurse side cs = .ok found ∧
      ∀ segments, found = some segments → s.TakenApart word segments := by
  induction cs with
  | nil => exact ⟨none, firstCut_nil s _ recurse side, by simp⟩
  | cons cut rest ih =>
    obtain ⟨⟨hcut, hkept⟩, hcs⟩ := List.forall_mem_cons.mp hcs
    obtain ⟨⟨segments, hsegments, hanswer⟩, hrec⟩ := List.forall_mem_cons.mp hrec
    obtain ⟨known, hleft⟩ := contains_ok hv (of_mem_cuts hp hword hcut side).2
    have happend := append_of_mem_cuts hcut
    rw [firstCut_cons_ok rest hleft hsegments]
    cases known with
    | true =>
      refine ⟨_, if_pos rfl, fun segs hsegs => ?_⟩
      cases hsegs
      rw [← side.attach_left cut]
      exact takenApart_of_cut happend hkept (takenApart_of_known hleft)
    | false =>
      rw [if_neg Bool.false_ne_true]
      by_cases hsplit : 1 < (side.kept cut).length ∧ segments ≠ [side.left cut]
      · refine ⟨_, if_pos hsplit, fun segs hsegs => ?_⟩
        cases hsegs
        exact takenApart_of_cut happend hkept (hanswer.takenApart hsplit.2)
      · rw [if_neg hsplit]
        exact ih hcs hrec

theorem side_ok (side : Side) (hrec : ∀ w : Text, w.length < word.length → p w →
      ∃ segments, recurse w = .ok segments ∧ s.Answer w segments) :
    ∃ cs found, s.knownCuts side word = .ok cs ∧
      s.firstCut (fun a => a) recurse side cs = .ok found ∧
      ∀ segments, found = some segments → s.TakenApart word segments := by
  obtain ⟨cs, hcs, _, hmem⟩ := knownCuts_ok hv hp hword side
  have hleft : ∀ cut ∈ cs, ∃ segments, recurse (side.left cut) = .ok segments ∧
      s.Answer (side.left cut) segments := by
    intro cut hc
    have hcut := ((hmem cut).mp hc).1
    exact hrec _ (length_lt_of_mem_cuts hcut side).2 (of_mem_cuts hp hword hcut side).2
  obtain ⟨found, hfound, htaken⟩ := firstCut_ok hv hp hword cs (fun cut hc => (hmem cut).mp hc) hleft
  exact ⟨cs, found, hcs, hfound, htaken⟩

/-- A step answers a word rightly if shorter words are answered rightly. -/
theorem step_ok (hrec : ∀ w : Text, w.length < word.length → p w →
      ∃ segments, recurse w = .ok segments ∧ s.Answer w segments) :
    ∃ segments, s.step (fun a => a) recurse word = .ok segments ∧ s.Answer word segments := by
  rw [step_eq]
  by_cases hwhole : (word.isEmpty || !s.guess || s.vocabulary.isEmpty) = true
  · simp only [hwhole, if_true]
    exact ⟨[word], rfl, Or.inl rfl⟩
  by_cases hdigits : word.all isAsciiDigit = true
  · simp only [hwhole, hdigits, if_true]
    exact ⟨_, rfl, Or.inr ⟨_, .spelling hdigits, by simp [Known]⟩⟩
  obtain ⟨known, hknown⟩ := contains_ok hv hword
  simp only [hwhole, hdigits, hknown, bind, Except.bind, pure, Except.pure]
  cases known with
  | true => exact ⟨[word], rfl, Or.inl rfl⟩
  | false =>
    obtain ⟨cs, found, hcs, hfound, htaken⟩ := side_ok hv hp hword .beginning hrec
    simp only [hcs, hfound, Bool.false_eq_true, if_false]
    cases found with
    | some segments => exact ⟨segments, rfl, Or.inr (htaken segments rfl)⟩
    | none =>
      obtain ⟨cs, found, hcs, hfound, htaken⟩ := side_ok hv hp hword .ending hrec
      simp only [hcs, hfound]
      cases found with
      | some segments => exact ⟨segments, rfl, Or.inr (htaken segments rfl)⟩
      | none =>
        by_cases hshort : word.length < 3
        · simp only [hshort, if_true]
          exact ⟨_, rfl, Or.inr (takenApart_characters s word)⟩
        · simp only [hshort, if_false]
          exact ⟨[word], rfl, Or.inl rfl⟩

theorem segment_ok : ∃ segments, s.segment word = .ok segments ∧ s.Answer word segments := by
  induction hlen : word.length using Nat.strongRecOn generalizing word with
  | ind len ih =>
    rw [segment_eq_step]
    apply step_ok hv hp hword
    intro w hw hwp
    exact ih w.length (hlen ▸ hw) hwp rfl

end

/-- A word is answered with segments that stretches of it make up. Only digits are spelled, so a word
without digits is what its segments make up. Unless the word is left whole, every stretch that is
kept is known to the vocabulary or a single character. -/
theorem segment_partition (s : Segmenter) (word : Text) (h : s.vocabulary.Reliable (· <:+: word)) :
    ∃ segments stretches, s.segment word = .ok segments ∧
      Partition word segments stretches ∧
      (word.all (!isAsciiDigit ·) = true → segments.flatten = word) ∧
      (segments = [word] ∨ Known s.vocabulary stretches) := by
  obtain ⟨segments, hsegments, hanswer⟩ := segment_ok h (stretchClosed_isInfix word) (List.infix_refl word)
  rcases hanswer with hwhole | ⟨stretches, hpartition, hknown⟩
  · subst hwhole
    exact ⟨[word], [.kept word], hsegments, .whole word, (Partition.whole word).flatten_eq,
      Or.inl rfl⟩
  · exact ⟨segments, stretches, hsegments, hpartition, hpartition.flatten_eq, Or.inr hknown⟩

/-- Digits between known words are spelled, and the case of a capital is kept. -/
theorem segment_partition_moveOver :
    let v : CompiledVocabulary := ⟨["age\tEY JH", "move\tM UW V", "over\tOW V ER"]⟩
    let s : Segmenter := ⟨v.toVocabulary, true⟩
    let word : Text := "Moveover42age"
    let segments : List Text := ["Move", "over", "four", "two", "age"]
    s.vocabulary.Reliable (· <:+: word) ∧ ∃ stretches, s.segment word = .ok segments ∧
      Partition word segments stretches ∧
      (word.all (!isAsciiDigit ·) = true → segments.flatten = word) ∧
      (segments = [word] ∨ Known s.vocabulary stretches) := by
  intro v s word segments
  have hv : s.vocabulary.Reliable (· <:+: word) := (Vocabulary.Stored.compiled v).reliable.onStretches (by decide)
  have hfound : s.segment word = .ok segments := by decide +kernel
  obtain ⟨segments', stretches, hsegments, hpartition, hdigitless, hknown⟩ := segment_partition s word hv
  obtain rfl : segments' = segments := Except.ok.inj (hsegments.symm.trans hfound)
  exact ⟨hv, stretches, hfound, hpartition, hdigitless, hknown⟩

end Segmenter

end Dictation
