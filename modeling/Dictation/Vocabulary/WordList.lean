import Dictation.Vocabulary.Entry
/-!
# Word lists

A word list holds lower-case words, each with its pronunciations in the order in which they were
added.
-/
namespace Dictation

structure WordList where
  answers : Answers
  deriving DecidableEq, Repr

namespace WordList

def empty : WordList := ⟨.empty⟩

def push (l : WordList) (e : Entry) : WordList := ⟨l.answers.append e.word [e.pronunciation]⟩

/-- An entry as a word list holds it: trimmed, with the word in lower case and the pronunciation in
upper case. A blank word is no entry. -/
def normal? (e : Entry) : Option Entry :=
  let word := e.word.trim.lower
  if word.isEmpty then none else some ⟨word, e.pronunciation.trim.upper⟩

def add (l : WordList) (es : List Entry) : WordList := (es.filterMap normal?).foldl push l

def countAdded (es : List Entry) : Nat := (es.filterMap normal?).length

def ofWords (ws : List Text) : WordList := empty.add (ws.map fun w => ⟨w, []⟩)

def size (l : WordList) : Nat := l.answers.entries.length

/-- The pronunciations of the words of a query, by lower-case word. -/
def haveWords (l : WordList) (query : List Text) : Answers :=
  ((query.filter (!·.isEmpty)).map Text.lower).foldl (fun found w => found.put w (l.answers.of w))
    .empty

def toVocabulary (l : WordList) : Vocabulary where
  isEmpty := l.answers.entries.isEmpty
  haveWords query := .ok (l.haveWords query)

end WordList

end Dictation
