import Dictation.Proofs.Segmentation.Partition
import Mathlib.Order.Bounds.Basic
/-!
# The cut that is chosen

A word that is not known is cut in two where one part is known and the other part is known, too, or can
be taken apart. Of all such cuts with a known beginning the one with the longest beginning is chosen; if
there is none, the one with the longest known end. A word without such a cut stays whole, unless it is
so short that its characters are said.
-/
namespace Dictation.Segmenter

/-- Whether a cut can be made: the part on the side is known, and the other part is known, or the known
part has several characters and the other part can be taken apart. -/
structure Qualifies (s : Segmenter) (side : Side) (cut : Text × Text) : Prop where
  kept : s.vocabulary.contains (side.kept cut) = .ok true
  left : s.vocabulary.contains (side.left cut) = .ok true ∨
    1 < (side.kept cut).length ∧ s.segment (side.left cut) ≠ .ok [side.left cut]

/-- The places where a word can be cut with a known part on the side. -/
def cutPoints (s : Segmenter) (side : Side) (word : Text) : Set Nat :=
  {i | 0 < i ∧ i < word.length ∧ s.Qualifies side (cutAt word i)}

/-- What a cut gives: both parts if the other part is known, else its segments with the known part. -/
inductive Divides (s : Segmenter) (side : Side) (cut : Text × Text) : List Text → Prop
  | parts (h : s.vocabulary.contains (side.left cut) = .ok true) :
      Divides s side cut [cut.1, cut.2]
  | further {segments : List Text} (h : s.vocabulary.contains (side.left cut) = .ok false)
      (hsegments : s.segment (side.left cut) = .ok segments) :
      Divides s side cut (side.attach (side.kept cut) segments)

inductive Chosen (s : Segmenter) (word : Text) : List Text → Prop
  | beginning {i : Nat} {segments : List Text} (hi : IsGreatest (s.cutPoints .beginning word) i)
      (h : s.Divides .beginning (cutAt word i) segments) : Chosen s word segments
  | ending {i : Nat} {segments : List Text} (hnone : s.cutPoints .beginning word = ∅)
      (hi : IsLeast (s.cutPoints .ending word) i)
      (h : s.Divides .ending (cutAt word i) segments) : Chosen s word segments
  | characters (hbeginning : s.cutPoints .beginning word = ∅)
      (hending : s.cutPoints .ending word = ∅) (hshort : word.length < 3) :
      Chosen s word (characters word)
  | whole (hbeginning : s.cutPoints .beginning word = ∅) (hending : s.cutPoints .ending word = ∅)
      (hlong : 3 ≤ word.length) : Chosen s word [word]

theorem length_kept_cutAt {word : Text} {i : Nat} (hi : i < word.length) (side : Side) :
    (side.kept (cutAt word i)).length = match side with
      | .beginning => i
      | .ending => word.length - i := by
  cases side with
  | beginning => exact List.length_take_of_le (Nat.le_of_lt hi)
  | ending => exact List.length_drop

theorem pairwise_inOrder (side : Side) (word : Text) :
    (side.inOrder (cuts word)).Pairwise fun c d => (side.kept d).length < (side.kept c).length := by
  have hrange : (List.range' 1 (word.length - 1)).Pairwise (· < ·) := List.pairwise_lt_range'
  have hlt : ∀ i ∈ List.range' 1 (word.length - 1), i < word.length := by
    intro i hi
    have := List.mem_range'_1.mp hi
    omega
  cases side with
  | beginning =>
    change (cuts word).reverse.Pairwise _
    rw [cuts_eq, List.pairwise_reverse, List.pairwise_map]
    refine hrange.imp_of_mem fun hi hj hij => ?_
    rw [length_kept_cutAt (hlt _ hi), length_kept_cutAt (hlt _ hj)]
    exact hij
  | ending =>
    change (cuts word).Pairwise _
    rw [cuts_eq, List.pairwise_map]
    refine hrange.imp_of_mem fun hi hj hij => ?_
    rw [length_kept_cutAt (hlt _ hi), length_kept_cutAt (hlt _ hj)]
    exact Nat.sub_lt_sub_left (hlt _ hi) hij

/-- What is found among some cuts: nothing, or what the first cut gives that can be made. -/
inductive Found (s : Segmenter) (side : Side) : List (Text × Text) → Option (List Text) → Prop
  | nowhere {cs : List (Text × Text)} (h : ∀ cut ∈ cs, ¬ s.Qualifies side cut) : Found s side cs none
  | behind (before : List (Text × Text)) {after : List (Text × Text)} {cut : Text × Text}
      {segments : List Text}
      (hbefore : ∀ c ∈ before, ¬ s.Qualifies side c) (hcut : s.Qualifies side cut)
      (h : s.Divides side cut segments) : Found s side (before ++ cut :: after) (some segments)

theorem Found.cons {s : Segmenter} {side : Side} {cut : Text × Text} {cs : List (Text × Text)}
    {found : Option (List Text)} (hcut : ¬ s.Qualifies side cut) (h : s.Found side cs found) :
    s.Found side (cut :: cs) found := by
  cases h with
  | nowhere h => exact .nowhere (List.forall_mem_cons.mpr ⟨hcut, h⟩)
  | behind before hbefore hmade h =>
    exact .behind (cut :: before) (List.forall_mem_cons.mpr ⟨hcut, hbefore⟩) hmade h

/-- Of cuts with the longest part first, the first one that can be made has the longest part. -/
theorem Found.longest {s : Segmenter} {side : Side} {cs : List (Text × Text)} {segments : List Text}
    (h : s.Found side cs (some segments))
    (hcs : cs.Pairwise fun c d => (side.kept d).length < (side.kept c).length) :
    ∃ cut ∈ cs, s.Qualifies side cut ∧ s.Divides side cut segments ∧
      ∀ d ∈ cs, s.Qualifies side d → (side.kept d).length ≤ (side.kept cut).length := by
  generalize hfound : some segments = found at h
  cases h with
  | nowhere h => cases hfound
  | @behind before after cut _ hbefore hcut h =>
    cases hfound
    refine ⟨cut, List.mem_append_right _ List.mem_cons_self, hcut, h, fun d hd hmade => ?_⟩
    rcases List.mem_append.mp hd with hd | hd
    · exact absurd hmade (hbefore d hd)
    · rcases List.mem_cons.mp hd with rfl | hd
      · exact Nat.le_refl _
      · have hafter := (List.pairwise_cons.mp (List.pairwise_append.mp hcs).2.1).1
        exact Nat.le_of_lt (hafter d hd)

theorem Divides.unique {s : Segmenter} {side : Side} {cut : Text × Text} {segments others : List Text}
    (h : s.Divides side cut segments) (h' : s.Divides side cut others) : segments = others := by
  cases h with
  | parts hknown =>
    cases h' with
    | parts => rfl
    | further hnot => cases hknown.symm.trans hnot
  | further hnot hsegments =>
    cases h' with
    | parts hknown => cases hknown.symm.trans hnot
    | further _ hothers =>
      cases hsegments.symm.trans hothers
      rfl

theorem Chosen.unique {s : Segmenter} {word : Text} {segments others : List Text}
    (h : s.Chosen word segments) (h' : s.Chosen word others) : segments = others := by
  have hempty : ∀ {side i}, s.cutPoints side word = ∅ → i ∉ s.cutPoints side word :=
    fun hnone => hnone ▸ Set.notMem_empty _
  cases h with
  | beginning hi hdivides =>
    cases h' with
    | beginning hj hdivides' => exact hdivides.unique (hi.unique hj ▸ hdivides')
    | ending hnone _ _ | characters hnone _ _ | whole hnone _ _ => exact absurd hi.1 (hempty hnone)
  | ending hnone hi hdivides =>
    cases h' with
    | beginning hj _ => exact absurd hj.1 (hempty hnone)
    | ending _ hj hdivides' => exact hdivides.unique (hi.unique hj ▸ hdivides')
    | characters _ hnone' _ | whole _ hnone' _ => exact absurd hi.1 (hempty hnone')
  | characters hbeginning hending hshort =>
    cases h' with
    | beginning hj _ => exact absurd hj.1 (hempty hbeginning)
    | ending _ hj _ => exact absurd hj.1 (hempty hending)
    | characters _ _ _ => rfl
    | whole _ _ hlong => omega
  | whole hbeginning hending hlong =>
    cases h' with
    | beginning hj _ => exact absurd hj.1 (hempty hbeginning)
    | ending _ hj _ => exact absurd hj.1 (hempty hending)
    | characters _ _ hshort => omega
    | whole _ _ _ => rfl

section
variable {s : Segmenter} {p : Text → Prop} (hv : s.vocabulary.Reliable p) (hp : StretchClosed p)
  {word : Text} (hword : p word)
include hv hp hword

theorem firstCut_found {side : Side} (cs : List (Text × Text))
    (hcs : ∀ cut ∈ cs, cut ∈ cuts word ∧ s.vocabulary.contains (side.kept cut) = .ok true) :
    ∃ found, s.firstCut (fun a => a) s.segment side cs = .ok found ∧ s.Found side cs found := by
  induction cs with
  | nil => exact ⟨none, firstCut_nil s _ s.segment side, .nowhere (by simp)⟩
  | cons cut cs ih =>
    obtain ⟨⟨hcut, hkept⟩, hcs⟩ := List.forall_mem_cons.mp hcs
    obtain ⟨found, hfirst, hfound⟩ := ih hcs
    have hpart := (of_mem_cuts hp hword hcut side).2
    obtain ⟨known, hleft⟩ := contains_ok hv hpart
    obtain ⟨segments, hsegments, _⟩ := segment_ok hv hp hpart
    rw [firstCut_cons_ok cs hleft hsegments]
    cases known with
    | true => exact ⟨_, if_pos rfl, .behind [] (by simp) ⟨hkept, .inl hleft⟩ (.parts hleft)⟩
    | false =>
      rw [if_neg Bool.false_ne_true]
      have hparts : s.segment (side.left cut) ≠ .ok [side.left cut] ↔ segments ≠ [side.left cut] := by
        rw [hsegments, ne_eq, Except.ok.injEq]
      by_cases hsplit : 1 < (side.kept cut).length ∧ segments ≠ [side.left cut]
      · refine ⟨_, if_pos hsplit, .behind [] (by simp) ⟨hkept, .inr ?_⟩ (.further hleft hsegments)⟩
        exact ⟨hsplit.1, hparts.mpr hsplit.2⟩
      · refine ⟨found, (if_neg hsplit).trans hfirst, hfound.cons fun hmade => ?_⟩
        rcases hmade.left with hknown | hmore
        · rw [hleft] at hknown
          cases hknown
        · exact hsplit ⟨hmore.1, hparts.mp hmore.2⟩

theorem firstCut_knownCuts (side : Side) :
    ∃ cs found, s.knownCuts side word = .ok cs ∧
      s.firstCut (fun a => a) s.segment side cs = .ok found ∧
      (found = none → s.cutPoints side word = ∅) ∧
      ∀ segments, found = some segments → ∃ i ∈ s.cutPoints side word,
        s.Divides side (cutAt word i) segments ∧ ∀ j ∈ s.cutPoints side word,
          (side.kept (cutAt word j)).length ≤ (side.kept (cutAt word i)).length := by
  obtain ⟨cs, hcs, hsub, hmem⟩ := knownCuts_ok hv hp hword side
  obtain ⟨found, hfirst, hfound⟩ := firstCut_found hv hp hword cs fun cut hcut => (hmem cut).mp hcut
  have hall : ∀ j ∈ s.cutPoints side word, cutAt word j ∈ cs := fun j ⟨hpos, hlt, hmade⟩ =>
    (hmem _).mpr ⟨mem_cuts.mpr ⟨j, hpos, hlt, rfl⟩, hmade.kept⟩
  refine ⟨cs, found, hcs, hfirst, ?_, ?_⟩
  · rintro rfl
    cases hfound with
    | nowhere h => exact Set.eq_empty_of_forall_notMem fun j hj => h _ (hall j hj) hj.2.2
  · rintro segments rfl
    obtain ⟨cut, hcut, hmade, hdivides, hlongest⟩ :=
      hfound.longest ((pairwise_inOrder side word).sublist hsub)
    obtain ⟨i, hpos, hlt, rfl⟩ := mem_cuts.mp ((hmem cut).mp hcut).1
    exact ⟨i, ⟨hpos, hlt, hmade⟩, hdivides, fun j hj => hlongest _ (hall j hj) hj.2.2⟩

variable (hguess : s.guess = true) (hwords : s.vocabulary.isEmpty = false)
  (hne : word ≠ []) (hunknown : s.vocabulary.contains word = .ok false)
  (hdigits : word.all isAsciiDigit = false)
include hguess hwords hne hunknown hdigits

/-- A word that is neither known nor a number is searched on both sides, the beginning first. -/
theorem exists_chosen : ∃ segments, s.segment word = .ok segments ∧ s.Chosen word segments := by
  have hwhole : (word.isEmpty || !s.guess || s.vocabulary.isEmpty) = false := by
    simp [hguess, hwords, hne]
  obtain ⟨cs, found, hcs, hfirst, hnone, hsome⟩ := firstCut_knownCuts hv hp hword .beginning
  rw [segment_eq_step, step_eq]
  simp only [hwhole, hdigits, hunknown, hcs, hfirst, bind, Except.bind, pure, Except.pure,
    Bool.false_eq_true, if_false]
  cases found with
  | some segments =>
    obtain ⟨i, hi, hdivides, hlongest⟩ := hsome segments rfl
    refine ⟨segments, rfl, .beginning ⟨hi, fun j hj => ?_⟩ hdivides⟩
    have hle := hlongest j hj
    rwa [length_kept_cutAt hi.2.1, length_kept_cutAt hj.2.1] at hle
  | none =>
    have hbeginning := hnone rfl
    obtain ⟨cs, found, hcs, hfirst, hnone, hsome⟩ := firstCut_knownCuts hv hp hword .ending
    simp only [hcs, hfirst]
    cases found with
    | some segments =>
      obtain ⟨i, hi, hdivides, hlongest⟩ := hsome segments rfl
      refine ⟨segments, rfl, .ending hbeginning ⟨hi, fun j hj => ?_⟩ hdivides⟩
      have hle := hlongest j hj
      rw [length_kept_cutAt hi.2.1, length_kept_cutAt hj.2.1] at hle
      have := hj.2.1
      dsimp only at hle
      omega
    | none =>
      by_cases hshort : word.length < 3
      · exact ⟨_, rfl, by rw [if_pos hshort]; exact .characters hbeginning (hnone rfl) hshort⟩
      · exact ⟨_, rfl, by rw [if_neg hshort]; exact .whole hbeginning (hnone rfl) (by omega)⟩

end

/-- The segments of a word that is neither known nor a number are the chosen ones, and no others are
chosen. -/
theorem segment_chosen {s : Segmenter} {word : Text} (hv : s.vocabulary.Reliable (· <:+: word))
    (hguess : s.guess = true) (hwords : s.vocabulary.isEmpty = false) (hne : word ≠ [])
    (hunknown : s.vocabulary.contains word = .ok false) (hdigits : word.all isAsciiDigit = false) :
    ∃ segments, s.segment word = .ok segments ∧
      ∀ others, s.Chosen word others ↔ others = segments := by
  obtain ⟨segments, hsegments, hchosen⟩ := exists_chosen hv (stretchClosed_isInfix word)
    (List.infix_refl word) hguess hwords hne hunknown hdigits
  exact ⟨segments, hsegments, fun others => ⟨fun h => h.unique hchosen, fun h => h ▸ hchosen⟩⟩

/-- The longest known beginning is cut off, although a shorter one is known, too. -/
theorem segment_chosen_buildingWindow :
    let s : Segmenter := ⟨(WordList.ofWords ["build", "building", "window"]).toVocabulary, true⟩
    let word : Text := "Buildingwindow"
    s.vocabulary.Reliable (· <:+: word) ∧ s.guess = true ∧ s.vocabulary.isEmpty = false ∧ word ≠ [] ∧
      s.vocabulary.contains word = .ok false ∧ word.all isAsciiDigit = false ∧
      ∀ others, s.Chosen word others ↔ others = ["Building".toList, "window".toList] := by
  intro s word
  have hv : s.vocabulary.Reliable (· <:+: word) := WordList.reliable _ _
  have hne : word ≠ [] := by decide
  have hunknown : s.vocabulary.contains word = .ok false := by decide +kernel
  have hdigits : word.all isAsciiDigit = false := by decide
  refine ⟨hv, rfl, rfl, hne, hunknown, hdigits, ?_⟩
  obtain ⟨segments, hsegments, hchosen⟩ := segment_chosen hv rfl rfl hne hunknown hdigits
  have hfound : s.segment word = .ok ["Building".toList, "window".toList] := by decide +kernel
  cases hfound.symm.trans hsegments
  exact hchosen

end Dictation.Segmenter
