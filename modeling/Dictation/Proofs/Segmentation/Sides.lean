import Dictation.Segmentation
/-!
# The two sides of a cut

Cuts are tried twice: first those with a known beginning, then those with a known end. Both searches are
the same but for the part that has to be known, so that everything is said for either side at once.
-/
namespace Dictation.Segmenter

/-- The side of a cut on which the known part stands. -/
inductive Side where
  | beginning
  | ending
  deriving DecidableEq, Repr

namespace Side

/-- The part of a cut that has to be known. -/
def kept : Side → Text × Text → Text
  | beginning, cut => cut.1
  | ending, cut => cut.2

/-- The other part. -/
def left : Side → Text × Text → Text
  | beginning, cut => cut.2
  | ending, cut => cut.1

/-- The segments of the other part together with the known part. -/
def attach : Side → Text → List Text → List Text
  | beginning, kept, segments => kept :: segments
  | ending, kept, segments => segments ++ [kept]

/-- Cuts with the longest known part first, given with the shortest beginning first. -/
def inOrder : Side → List (Text × Text) → List (Text × Text)
  | beginning, cs => cs.reverse
  | ending, cs => cs

theorem both {p : Text → Prop} {cut : Text × Text} (h : p cut.1 ∧ p cut.2) (side : Side) :
    p (side.kept cut) ∧ p (side.left cut) := by
  cases side with
  | beginning => exact h
  | ending => exact h.symm

theorem attach_left (side : Side) (cut : Text × Text) :
    side.attach (side.kept cut) [side.left cut] = [cut.1, cut.2] := by
  cases side <;> rfl

theorem mem_attach {side : Side} {kept t : Text} {segments : List Text} :
    t ∈ side.attach kept segments ↔ t = kept ∨ t ∈ segments := by
  cases side with
  | beginning => exact List.mem_cons
  | ending => rw [attach, List.mem_append, List.mem_singleton, or_comm]

theorem mem_inOrder {side : Side} {cs : List (Text × Text)} {cut : Text × Text} :
    cut ∈ side.inOrder cs ↔ cut ∈ cs := by
  cases side with
  | beginning => exact List.mem_reverse
  | ending => exact Iff.rfl

end Side

/-- The two parts of a word that is cut behind its first characters. -/
def cutAt (word : Text) (i : Nat) : Text × Text := (word.take i, word.drop i)

theorem cutAt_append (x y : Text) : cutAt (x ++ y) x.length = (x, y) := by
  rw [cutAt, List.take_left, List.drop_left]

theorem cuts_eq (word : Text) : cuts word = (List.range' 1 (word.length - 1)).map (cutAt word) := rfl

theorem mem_cuts {word : Text} {cut : Text × Text} :
    cut ∈ cuts word ↔ ∃ i, 0 < i ∧ i < word.length ∧ cutAt word i = cut := by
  simp only [cuts_eq, List.mem_map, List.mem_range'_1]
  constructor
  · rintro ⟨i, hi, rfl⟩
    exact ⟨i, by omega, by omega, rfl⟩
  · rintro ⟨i, hpos, hlt, rfl⟩
    exact ⟨i, by omega, rfl⟩

section
variable {word : Text} {cut : Text × Text} (h : cut ∈ cuts word)
include h

theorem append_of_mem_cuts : cut.1 ++ cut.2 = word := by
  obtain ⟨i, _, _, rfl⟩ := mem_cuts.mp h
  exact List.take_append_drop i word

theorem length_lt_of_mem_cuts (side : Side) :
    (side.kept cut).length < word.length ∧ (side.left cut).length < word.length := by
  refine Side.both (p := fun t => t.length < word.length) ?_ side
  obtain ⟨i, hpos, hlt, rfl⟩ := mem_cuts.mp h
  rw [cutAt, List.length_take_of_le (Nat.le_of_lt hlt), List.length_drop]
  omega

theorem infix_of_mem_cuts (side : Side) : side.kept cut <:+: word ∧ side.left cut <:+: word := by
  refine Side.both (p := (· <:+: word)) ?_ side
  rw [← append_of_mem_cuts h]
  exact ⟨(List.prefix_append _ _).isInfix, (List.suffix_append _ _).isInfix⟩

end

/-- The cuts of a word whose part on a side is known, the longest part first. -/
def knownCuts (s : Segmenter) : Side → Text → Except VocabularyError (List (Text × Text))
  | .beginning => s.knownBeginnings
  | .ending => s.knownEndings

theorem knownCuts_eq (s : Segmenter) (side : Side) (word : Text) :
    s.knownCuts side word =
      (s.vocabulary.known ((side.inOrder (cuts word)).map side.kept)).map fun known =>
        (side.inOrder (cuts word)).filter fun cut => known.knows (side.kept cut).lower := by
  cases side with
  | beginning => exact (map_eq_pure_bind _ _).symm
  | ending => exact (map_eq_pure_bind _ _).symm

section
variable {m : Type → Type} [Monad m] (s : Segmenter)
  (ask : {α : Type} → Except VocabularyError α → m α) (recurse : Text → m (List Text))

/-- The first of some cuts with known parts on a side whose other part is known or can be taken
apart. -/
def firstCut : Side → List (Text × Text) → m (Option (List Text))
  | .beginning => s.firstBeginning ask recurse
  | .ending => s.firstEnding ask recurse

theorem firstCut_nil (side : Side) : s.firstCut ask recurse side [] = pure none := by
  cases side <;> rfl

theorem firstCut_cons (side : Side) (cut : Text × Text) (cs : List (Text × Text)) :
    s.firstCut ask recurse side (cut :: cs) = (do
      if ← ask (s.vocabulary.contains (side.left cut)) then return some [cut.1, cut.2]
      let segments ← recurse (side.left cut)
      if 1 < (side.kept cut).length && segments ≠ [side.left cut] then
        return some (side.attach (side.kept cut) segments)
      s.firstCut ask recurse side cs) := by
  cases side <;> rfl

theorem step_eq (word : Text) :
    s.step ask recurse word = (do
      if word.isEmpty || !s.guess || s.vocabulary.isEmpty then return [word]
      if word.all isAsciiDigit then return spellDigits word
      if ← ask (s.vocabulary.contains word) then return [word]
      match ← s.firstCut ask recurse .beginning (← ask (s.knownCuts .beginning word)) with
      | some segments => return segments
      | none =>
        match ← s.firstCut ask recurse .ending (← ask (s.knownCuts .ending word)) with
        | some segments => return segments
        | none => return if word.length < 3 then characters word else [word]) :=
  rfl

end

end Dictation.Segmenter
