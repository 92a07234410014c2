import Dictation.Vocabulary.Entry
import Dictation.Text.Utf8
/-!
# Compiled vocabularies

A compiled vocabulary is an ascending list of distinct keys. A key is a word, a tab and a
pronunciation, so the keys of a word are those that start with the word and a tab.

A file of a compiled vocabulary is a mark, and then each key with a stop behind it. The mark and the stop
hold a byte that no text holds, so such a file is not mistaken for text, nor text for such a file.
-/
namespace Dictation

structure CompiledVocabulary where
  keys : List Text
  deriving DecidableEq, Repr

namespace CompiledVocabulary

def key (word pronunciation : Text) : Text := word ++ '\t' :: pronunciation

/-- Compiles entries; those without a word are left out. -/
def build (es : List Entry) : CompiledVocabulary :=
  let kept := es.filter (!·.word.isEmpty)
  ⟨((kept.map fun e => key e.word.lower e.pronunciation).mergeSort Text.le).eraseReps⟩

def size (v : CompiledVocabulary) : Nat := v.keys.length

/-- The pronunciations of a word as it stands. -/
def pronunciations (v : CompiledVocabulary) (word : Text) : List Text :=
  v.keys.filterMap (Text.dropPrefix? (word ++ ['\t']))

/-- The pronunciations of the words of a query, by lower-case word. A word with a tab is refused. -/
def haveWords (v : CompiledVocabulary) (query : List Text) : Except VocabularyError Answers :=
  (query.filter (!·.isEmpty)).foldlM
    (fun found w =>
      if '\t' ∈ w.lower then .error (.invalidQuery w)
      else .ok (found.put w.lower (v.pronunciations w.lower)))
    .empty

def toVocabulary (v : CompiledVocabulary) : Vocabulary where
  isEmpty := v.keys.isEmpty
  haveWords := v.haveWords

end CompiledVocabulary

end Dictation

namespace Dictation.CompiledVocabulary

def stop : UInt8 := 0xFF

def fileMark : Bytes := stop :: Bytes.ofText "vocabulary" ++ [stop]

def toBytes (v : CompiledVocabulary) : Bytes :=
  fileMark ++ v.keys.flatMap fun key => Bytes.ofText key ++ [stop]

/-- Whether keys are taken one after the other. A key that is less than the one before it is refused. -/
def areTaken : List Bytes → Bool
  | a :: b :: rest => !decide (b < a) && areTaken (b :: rest)
  | _ => true

/-- Whether keys ascend, each of them being less than the next. -/
def isAscending : List Text → Bool
  | a :: b :: rest => Text.le a b && a ≠ b && isAscending (b :: rest)
  | _ => true

/-- The bytes that follow the mark of a file, if it has the mark. -/
def afterMark? (bs : Bytes) : Option Bytes :=
  if fileMark.isPrefixOf bs then some (bs.drop fileMark.length) else none

def ofBytes? (bs : Bytes) : Option CompiledVocabulary := do
  let parts := (← afterMark? bs).fields stop
  let keys ← parts.dropLast.mapM Bytes.text?
  if parts.getLast? = some [] && isAscending keys then return ⟨keys⟩ else none

end Dictation.CompiledVocabulary
