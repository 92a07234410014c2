import Dictation.Numeral
import Dictation.Vocabulary
import Std.Data.HashMap
/-!
# Segmentation

A word that was written together is taken apart into words that a vocabulary knows. Of all cuts the
one with the longest known beginning is taken, else the one with the longest known end.

One step of the search is written once, for any way of answering the shorter words that it meets.
`Segmenter.segment` answers them by searching again; `Segmenter.segmentMemo` remembers answers.
-/
namespace Dictation

/-- What a search consults: a vocabulary, and whether words may be taken apart at all. -/
structure Segmenter where
  vocabulary : Vocabulary
  guess : Bool

namespace Segmenter

/-- All cuts of a word into two parts that are not empty, the shortest beginning first. -/
def cuts (word : Text) : List (Text × Text) :=
  (List.range' 1 (word.length - 1)).map fun n => (word.take n, word.drop n)

/-- What becomes of a short word without a cut: its characters, with digits spelled. -/
def characters (word : Text) : List Text :=
  word.map fun c => if isAsciiDigit c then digitWord c else [c]

variable {m : Type → Type} [Monad m]

/-- The first of some cuts with known beginnings whose end is known or can be taken apart. -/
def firstBeginning (s : Segmenter) (ask : {α : Type} → Except VocabularyError α → m α)
    (recurse : Text → m (List Text)) : List (Text × Text) → m (Option (List Text))
  | [] => pure none
  | (beginning, ending) :: rest => do
    if ← ask (s.vocabulary.contains ending) then return some [beginning, ending]
    let segments ← recurse ending
    if 1 < beginning.length && segments ≠ [ending] then return some (beginning :: segments)
    firstBeginning s ask recurse rest

/-- The first of some cuts with known ends whose beginning is known or can be taken apart. -/
def firstEnding (s : Segmenter) (ask : {α : Type} → Except VocabularyError α → m α)
    (recurse : Text → m (List Text)) : List (Text × Text) → m (Option (List Text))
  | [] => pure none
  | (beginning, ending) :: rest => do
    if ← ask (s.vocabulary.contains beginning) then return some [beginning, ending]
    let segments ← recurse beginning
    if 1 < ending.length && segments ≠ [beginning] then return some (segments ++ [ending])
    firstEnding s ask recurse rest

/-- The cuts of a word with a known beginning, the longest beginning first. -/
def knownBeginnings (s : Segmenter) (word : Text) :
    Except VocabularyError (List (Text × Text)) := do
  let descending := (cuts word).reverse
  let known ← s.vocabulary.known (descending.map (·.1))
  return descending.filter fun cut => known.knows cut.1.lower

/-- The cuts of a word with a known end, the longest end first. -/
def knownEndings (s : Segmenter) (word : Text) : Except VocabularyError (List (Text × Text)) := do
  let ascending := cuts word
  let known ← s.vocabulary.known (ascending.map (·.2))
  return ascending.filter fun cut => known.knows cut.2.lower

/-- One step of the search, with `recurse` answering for shorter words. -/
def step (s : Segmenter) (ask : {α : Type} → Except VocabularyError α → m α)
    (recurse : Text → m (List Text)) (word : Text) : m (List Text) := do
  if word.isEmpty || !s.guess || s.vocabulary.isEmpty then return [word]
  if word.all isAsciiDigit then return spellDigits word
  if ← ask (s.vocabulary.contains word) then return [word]
  match ← firstBeginning s ask recurse (← ask (s.knownBeginnings word)) with
  | some segments => return segments
  | none =>
    match ← firstEnding s ask recurse (← ask (s.knownEndings word)) with
    | some segments => return segments
    | none => return if word.length < 3 then characters word else [word]

/-- The search for words shorter than a bound. -/
def segmentBelow (s : Segmenter) : Nat → Text → Except VocabularyError (List Text)
  | 0, word => .ok [word]
  | bound + 1, word => s.step (fun a => a) (s.segmentBelow bound) word

def segment (s : Segmenter) (word : Text) : Except VocabularyError (List Text) :=
  s.segmentBelow (word.length + 1) word

instance (priority := high) hashableText : Hashable Text := @instHashableList Char instHashableChar

/-- Segments already found, by the word that they make up. -/
abbrev Memo := Std.HashMap Text (List Text)

/-- A computation that may fail and keeps the memo also then. -/
abbrev Remembering := ExceptT VocabularyError (StateM Memo)

/-- The search for words shorter than a bound, remembering every answer. -/
def segmentMemoBelow (s : Segmenter) : Nat → Text → Remembering (List Text)
  | 0, word => pure [word]
  | bound + 1, word => do
    match (← get)[word]? with
    | some segments => return segments
    | none =>
      let segments ← s.step (fun a => ExceptT.mk (pure a)) (s.segmentMemoBelow bound) word
      modify (·.insert word segments)
      return segments

/-- The segments of a word, taken from the memo if it was met before. -/
def segmentMemo (s : Segmenter) (word : Text) : Remembering (List Text) :=
  s.segmentMemoBelow (word.length + 1) word

end Segmenter

end Dictation
