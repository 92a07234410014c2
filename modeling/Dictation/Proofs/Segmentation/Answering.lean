import Dictation.Proofs.Segmentation.Partition
import Dictation.Proofs.Text.Alphabet
/-!
# Vocabularies that answer

A search fails only where its vocabulary does. If every query for stretches of a word is answered,
whatever the answers are, the word gets segments, and stretches of it make them up.
-/
namespace Dictation

/-- A computation that succeeds with a value of some kind. -/
def Yields {ε α : Type} (x : Except ε α) (P : α → Prop) : Prop := ∃ a, x = .ok a ∧ P a

namespace Yields

variable {ε α β : Type} {x : Except ε α} {P : α → Prop} {Q : β → Prop} {f : α → Except ε β}

theorem pure {a : α} (h : P a) : Yields (pure a : Except ε α) P := ⟨a, rfl, h⟩

theorem bind (hx : Yields x P) (hf : ∀ a, P a → Yields (f a) Q) : Yields (x >>= f) Q := by
  obtain ⟨a, rfl, ha⟩ := hx
  exact hf a ha

theorem ite {c : Prop} [Decidable c] {y : Except ε α} (hx : c → Yields x P) (hy : ¬c → Yields y P) :
    Yields (if c then x else y) P := by
  split
  case isTrue h => exact hx h
  case isFalse h => exact hy h

end Yields

namespace Segmenter

/-- Whether stretches of a word make up some segments, none of which is empty unless the word is. -/
structure Parted (word : Text) (segments : List Text) : Prop where
  partition : ∃ stretches, Partition word segments stretches
  solid : word ≠ [] → [] ∉ segments

theorem ne_nil_of_mem_cuts {word : Text} {cut : Text × Text} (h : cut ∈ cuts word) :
    cut.1 ≠ [] ∧ cut.2 ≠ [] := by
  obtain ⟨i, hpos, hlt, rfl⟩ := mem_cuts.mp h
  constructor
  · rw [cutAt, ← List.length_pos_iff, List.length_take_of_le (Nat.le_of_lt hlt)]
    exact hpos
  · rw [cutAt, ← List.length_pos_iff, List.length_drop]
    exact Nat.sub_pos_of_lt hlt

theorem digitWord_ne_nil {c : Char} (h : isAsciiDigit c = true) : digitWord c ≠ [] := by
  have hwords : ∀ d ∈ asciiDigits, digitWord d ≠ [] := by decide
  exact hwords c (mem_asciiDigits h)

namespace Parted

theorem whole (word : Text) : Parted word [word] where
  partition := ⟨_, .whole word⟩
  solid h := by simpa using h.symm

theorem append {w w' : Text} {segments segments' : List Text} (h : Parted w segments)
    (h' : Parted w' segments') (hw : w ≠ []) (hw' : w' ≠ []) :
    Parted (w ++ w') (segments ++ segments') where
  partition := by
    obtain ⟨stretches, hpartition⟩ := h.partition
    obtain ⟨stretches', hpartition'⟩ := h'.partition
    exact ⟨_, hpartition.append hpartition'⟩
  solid _ hmem := (List.mem_append.mp hmem).elim (h.solid hw) (h'.solid hw')

theorem spelling {ds : Text} (h : ds.all isAsciiDigit = true) : Parted ds (spellDigits ds) where
  partition := ⟨_, .spelling h⟩
  solid _ hmem := by
    obtain ⟨d, hd, hnil⟩ := List.mem_map.mp hmem
    exact digitWord_ne_nil (List.all_eq_true.mp h d hd) hnil

theorem characters (s : Segmenter) (word : Text) : Parted word (Segmenter.characters word) where
  partition := by
    obtain ⟨stretches, hpartition, _⟩ := takenApart_characters s word
    exact ⟨stretches, hpartition⟩
  solid _ hmem := by
    obtain ⟨c, _, hnil⟩ := List.mem_map.mp hmem
    split at hnil
    case isTrue hdigit => exact digitWord_ne_nil hdigit hnil
    case isFalse => cases hnil

theorem attach {side : Side} {word : Text} {cut : Text × Text} {segments : List Text}
    (hcut : cut ∈ cuts word) (h : Parted (side.left cut) segments) :
    Parted word (side.attach (side.kept cut) segments) := by
  obtain ⟨hfirst, hsecond⟩ := ne_nil_of_mem_cuts hcut
  rw [← append_of_mem_cuts hcut]
  cases side with
  | beginning => exact (whole cut.1).append h hfirst hsecond
  | ending => exact h.append (whole cut.2) hfirst hsecond

end Parted

section
variable {s : Segmenter} {p : Text → Prop} (hv : s.vocabulary.AnswersOn p)
include hv

theorem contains_yields {w : Text} (hw : p w) : Yields (s.vocabulary.contains w) fun _ => True := by
  obtain ⟨a, ha⟩ := hv [w] (List.forall_mem_singleton.mpr hw)
  exact ⟨_, by rw [Vocabulary.contains, ha]; rfl, trivial⟩

theorem known_yields {candidates : List Text} (hp : ∀ w ∈ candidates, p w) :
    Yields (s.vocabulary.known candidates) fun _ => True := by
  obtain ⟨a, ha⟩ := hv candidates hp
  exact .ite (fun _ => .pure trivial) fun _ => ⟨a, ha, trivial⟩

variable (hp : StretchClosed p) {word : Text} (hword : p word)
include hp hword

theorem knownCuts_yields (side : Side) :
    Yields (s.knownCuts side word) fun cs => ∀ cut ∈ cs, cut ∈ cuts word := by
  have hparts : ∀ w ∈ (side.inOrder (cuts word)).map side.kept, p w :=
    List.forall_mem_map.mpr fun cut hcut => (of_mem_cuts hp hword (Side.mem_inOrder.mp hcut) side).1
  obtain ⟨known, hknown, _⟩ := known_yields hv hparts
  refine ⟨_, by rw [knownCuts_eq, hknown]; rfl, fun cut hcut => ?_⟩
  exact Side.mem_inOrder.mp (List.mem_filter.mp hcut).1

variable {recurse : Text → Except VocabularyError (List Text)}
  (hrec : ∀ w : Text, w.length < word.length → p w → Yields (recurse w) (Parted w))
include hrec

theorem firstCut_yields {side : Side} (cs : List (Text × Text)) (hcs : ∀ cut ∈ cs, cut ∈ cuts word) :
    Yields (s.firstCut (fun a => a) recurse side cs) fun found =>
      ∀ segments ∈ found, Parted word segments := by
  induction cs with
  | nil =>
    rw [firstCut_nil]
    exact .pure nofun
  | cons cut rest ih =>
    obtain ⟨hcut, hcs⟩ := List.forall_mem_cons.mp hcs
    have hleft := (of_mem_cuts hp hword hcut side).2
    rw [firstCut_cons]
    refine (contains_yields hv hleft).bind fun known _ => .ite (fun _ => ?_) fun _ => ?_
    · refine .pure fun segments hsegments => ?_
      cases hsegments
      rw [← side.attach_left cut]
      exact .attach hcut (.whole _)
    · refine (hrec _ (length_lt_of_mem_cuts hcut side).2 hleft).bind fun segments hsegments => ?_
      refine .ite (fun _ => ?_) fun _ => ih hcs
      refine .pure fun found hfound => ?_
      cases hfound
      exact .attach hcut hsegments

theorem step_yields : Yields (s.step (fun a => a) recurse word) (Parted word) := by
  rw [step_eq]
  refine .ite (fun _ => .pure (.whole word)) fun _ => .ite (fun hdigits => ?_) fun _ => ?_
  · exact .pure (.spelling hdigits)
  refine (contains_yields hv hword).bind fun known _ => .ite (fun _ => .pure (.whole word)) fun _ => ?_
  refine (knownCuts_yields hv hp hword .beginning).bind fun cs hcs => ?_
  refine (firstCut_yields hv hp hword hrec cs hcs).bind fun found hfound => ?_
  cases found with
  | some segments => exact .pure (hfound segments rfl)
  | none =>
    refine (knownCuts_yields hv hp hword .ending).bind fun cs hcs => ?_
    refine (firstCut_yields hv hp hword hrec cs hcs).bind fun found hfound => ?_
    cases found with
    | some segments => exact .pure (hfound segments rfl)
    | none =>
      refine .pure ?_
      split
      · exact .characters s word
      · exact .whole word

omit hrec in
theorem segment_yields : Yields (s.segment word) (Parted word) := by
  induction hlen : word.length using Nat.strongRecOn generalizing word with
  | ind len ih =>
    rw [segment_eq_step]
    exact step_yields hv hp hword fun w hw hwp => ih w.length (hlen ▸ hw) hwp rfl

end

section
variable {s : Segmenter} (hv : s.vocabulary.Answering) {word : Text} (hword : '\t' ∉ word)
include hv hword

theorem segment_yields_of_answering : Yields (s.segment word) (Parted word) :=
  segment_yields hv (stretchClosed_not_mem '\t') hword

theorem parted_of_segment {segments : List Text} (h : s.segment word = .ok segments) :
    Parted word segments := by
  obtain ⟨found, hfound, hparted⟩ := segment_yields_of_answering hv hword
  cases h.symm.trans hfound
  exact hparted

end

end Segmenter

end Dictation
