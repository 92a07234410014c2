import Dictation.Vocabulary
/-!
# Layered vocabularies

Several vocabularies consulted together. The pronunciations of a word are those of all layers, the
first layer's first.
-/
namespace Dictation.Vocabulary

def mergeAnswers (found more : Answers) : Answers :=
  more.toList.foldl (fun found e => found.append e.1 e.2) found

def layered (layers : List Vocabulary) : Vocabulary where
  isEmpty := layers.all (·.isEmpty)
  haveWords query :=
    layers.foldlM (fun found v => (v.haveWords query).map (mergeAnswers found)) .empty

def unreachable (reason : String) : Vocabulary where
  isEmpty := false
  haveWords _ := .error (.unavailable reason)

end Dictation.Vocabulary
