import Dictation.Pattern.CharSet
import Dictation.Text.Basic
/-!
# Assertions

Conditions on a place in a text that match no characters. A place lies after one character and
before a rest; at the start of the text there is no character before it.
-/
namespace Dictation

/-- What counts as a character of a word. -/
inductive WordRule where
  | unicode
  | ascii
  deriving DecidableEq, Repr

def WordRule.holds (r : WordRule) (c : Char) : Bool :=
  match r with
  | unicode => isWordChar c
  | ascii => isAsciiWordChar c

inductive Assertion where
  | textStart
  | textEnd
  | lineStart
  | lineEnd
  /-- Starts and ends of lines that may end with a carriage return. -/
  | returnLineStart
  | returnLineEnd
  | boundary (r : WordRule)
  | noBoundary (r : WordRule)
  | wordStart (r : WordRule)
  | wordEnd (r : WordRule)
  /-- No character of a word before the place, or none after it. -/
  | wordStartHalf (r : WordRule)
  | wordEndHalf (r : WordRule)
  deriving DecidableEq, Repr

namespace Assertion

def holds (a : Assertion) (before : Option Char) (rest : Text) : Bool :=
  let after := rest.head?
  let wordBefore (r : WordRule) := before.any r.holds
  let wordAfter (r : WordRule) := after.any r.holds
  match a with
  | textStart => before.isNone
  | textEnd => after.isNone
  | lineStart => before.isNone || before = some '\n'
  | lineEnd => after.isNone || after = some '\n'
  | returnLineStart =>
    before.isNone || before = some '\n' || before = some '\r' && after ≠ some '\n'
  | returnLineEnd =>
    after.isNone || after = some '\r' || after = some '\n' && before ≠ some '\r'
  | boundary r => wordBefore r ≠ wordAfter r
  | noBoundary r => wordBefore r = wordAfter r
  | wordStart r => !wordBefore r && wordAfter r
  | wordEnd r => wordBefore r && !wordAfter r
  | wordStartHalf r => !wordBefore r
  | wordEndHalf r => !wordAfter r

end Assertion

end Dictation
