import Dictation.Numeral
import Dictation.Text.Quoted
import Dictation.Vocabulary
/-!
# Messages

What is said about the failures of speaking.
-/
namespace Dictation

def VocabularyError.message : VocabularyError → Text
  | unavailable reason => "Dictionary unavailable: ".toList ++ reason.toList
  | invalidQuery word => "Dictionary unavailable: invalid query word ".toList ++ word.quoted

def UnmappedNumeral.message (e : UnmappedNumeral) : Text :=
  "Unmapped numeral character: ".toList ++ Text.quotedChar e.char

namespace Operator

/-- What is said about an operator without a listed spoken form. -/
def unknownMessage (op : Text) : Text := "Unknown punctuation: ".toList ++ op.quoted

end Operator

end Dictation
