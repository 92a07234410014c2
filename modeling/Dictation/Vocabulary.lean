import Dictation.Text.Case
/-!
# Vocabularies

A vocabulary answers which words it knows and how they are pronounced. It may fail to answer.
-/
namespace Dictation

inductive VocabularyError where
  /-- The vocabulary cannot be consulted. -/
  | unavailable (reason : String)
  /-- A query that no compiled vocabulary can hold. -/
  | invalidQuery (word : Text)
  deriving DecidableEq, Repr

/-- A word with its length, so that words of different lengths are told apart at once. -/
structure Sized where
  size : Nat
  word : Text
  deriving DecidableEq, Repr

namespace Sized

def of (w : Text) : Sized := ⟨w.length, w⟩

end Sized

/-- Pronunciations of lower-case words. A word with no pronunciation is not known. -/
structure Answers where
  entries : List (Sized × List Text)
  deriving DecidableEq, Repr

namespace Answers

def empty : Answers := ⟨[]⟩

/-- The pronunciations given for a word; none if nothing was answered for it. -/
def of (a : Answers) (word : Text) : List Text := (a.entries.lookup (.of word)).getD []

def knows (a : Answers) (word : Text) : Bool := !(a.of word).isEmpty

def toList (a : Answers) : List (Text × List Text) := a.entries.map fun e => (e.1.word, e.2)

/-- Entries with `prons` given for `word`, in place of what was given before. -/
def putEntry (word : Sized) (prons : List Text) :
    List (Sized × List Text) → List (Sized × List Text)
  | [] => [(word, prons)]
  | (w, ps) :: rest =>
    if w = word then (w, prons) :: rest else (w, ps) :: putEntry word prons rest

/-- Answers with `prons` given for `word`, in place of what was given before. -/
def put (a : Answers) (word : Text) (prons : List Text) : Answers :=
  ⟨putEntry (.of word) prons a.entries⟩

/-- Adds pronunciations after those that a word has already. -/
def append (a : Answers) (word : Text) (prons : List Text) : Answers :=
  a.put word (a.of word ++ prons)

end Answers

/-- A source of words, consulted with any number of words at once. -/
structure Vocabulary where
  isEmpty : Bool
  haveWords : List Text → Except VocabularyError Answers

namespace Vocabulary

/-- Whether a word, in any case, is known. -/
def contains (v : Vocabulary) (word : Text) : Except VocabularyError Bool :=
  (v.haveWords [word]).map (·.knows word.lower)

/-- Answers for all candidates; no candidates need no answer. -/
def known (v : Vocabulary) (candidates : List Text) : Except VocabularyError Answers :=
  if candidates.isEmpty then .ok .empty else v.haveWords candidates

end Vocabulary

end Dictation
