import Dictation.Unicode.Name.European
import Dictation.Unicode.Name.MiddleEastern
import Dictation.Unicode.Name.Indic
import Dictation.Unicode.Name.SouthEastAsian
import Dictation.Unicode.Name.Phonetic
import Dictation.Unicode.Name.Symbols
import Dictation.Unicode.Name.Dingbats
import Dictation.Unicode.Name.EastAsian
import Dictation.Unicode.Name.Syllabic
import Dictation.Unicode.Name.PresentationForms
import Dictation.Unicode.Name.Ancient
import Dictation.Unicode.Name.Modern
import Dictation.Unicode.Name.Musical
import Dictation.Unicode.Name.SignWriting
import Dictation.Unicode.Name.Emoji
import Dictation.Unicode.Name.Supplemental
/-!
# Character names

The spoken name of a character, as of Unicode 16. Control characters and code points without a
character have none.
-/
namespace Dictation.Unicode

namespace Name

/-- All blocks, in the order of their code points. -/
def blocks : List Block := List.flatten [
    europeanBlocks, middleEasternBlocks, indicBlocks, southEastAsianBlocks, phoneticBlocks,
    punctuationBlocks, technicalBlocks, dingbatsBlocks, eastAsianBlocks, syllabicBlocks,
    presentationFormsBlocks, ancientBlocks, brahmicBlocks, cuneiformBlocks,
    hieroglyphicBlocks, modernBlocks, musicalBlocks, mathematicalBlocks, signWritingBlocks,
    recentBlocks, pictographicBlocks, emojiBlocks, supplementalBlocks, tagsBlocks]

/-- The name that the tables and the two naming rules give to a code point. -/
def listed? (n : Nat) : Option Text :=
  match numbered.findSome? (·.name? n) with
  | some name => some name
  | none =>
    match hangulSyllable? n with
    | some name => some name
    | none =>
      match (blocks.takeWhile (·.first ≤ n)).getLast? with
      | some b => b.name? n
      | none => none

end Name

/-- The spoken name of a character: one or more name characters. -/
def spokenName? (c : Char) : Option Text :=
  match Name.listed? c.toNat with
  | some name => if name ≠ [] ∧ name.all Name.isNameChar then some name else none
  | none => none

end Dictation.Unicode
