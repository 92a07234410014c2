import Dictation.Unicode.Property
import Dictation.Unicode.WordBreakTable
/-!
# Word break classes

Each character has one class, which decides where a text may be cut between words.
-/
namespace Dictation.Unicode

inductive WordBreak where
  | carriageReturn
  | lineFeed
  | newline
  | extending
  | format
  /-- The zero-width joiner. -/
  | zeroWidthJoiner
  | katakana
  | hebrewLetter
  | letter
  | singleQuote
  | doubleQuote
  /-- Between two letters. -/
  | midLetter
  /-- Between two digits. -/
  | midNumber
  /-- Between two letters or two digits. -/
  | midBoth
  | numeral
  /-- Joins letters, digits and one another. -/
  | joiner
  | space
  | regional
  | other
  deriving DecidableEq, Repr

namespace WordBreak

/-- Whether the class attaches to whatever stands before it. -/
def attaches : WordBreak → Bool
  | extending | format | zeroWidthJoiner => true
  | _ => false

def isModifier (n : Nat) : Bool := 0x1F3FB ≤ n && n ≤ 0x1F3FF

def isLetter (c : Char) : Bool :=
  Span.mem letterSymbolSpans c.toNat || isAlphabetic c && !Span.mem unspacedLetterSpans c.toNat

def of (c : Char) : WordBreak :=
  let n := c.toNat
  if c = '\r' then carriageReturn
  else if c = '\n' then lineFeed
  else if c ∈ ['\x0b', '\x0c', '\u0085', '\u2028', '\u2029'] then newline
  else if c = '\u200d' then zeroWidthJoiner
  else if isExtending c || GeneralCategory.spacingMark.contains c || isModifier n then extending
  else if Span.mem formatSpans n then format
  else if c = '\'' then singleQuote
  else if c = '"' then doubleQuote
  else if Span.mem hebrewLetterSpans n then hebrewLetter
  else if Span.mem katakanaSpans n then katakana
  else if Span.mem numeralSpans n then numeral
  else if Span.mem joinerSpans n then joiner
  else if Span.mem midLetterSpans n then midLetter
  else if Span.mem midNumberSpans n then midNumber
  else if Span.mem midBothSpans n then midBoth
  else if Span.mem wordSpaceSpans n then space
  else if 0x1F1E6 ≤ n && n ≤ 0x1F1FF then regional
  else if isLetter c then letter
  else other

end WordBreak

def isPictograph (c : Char) : Bool := Span.mem pictographSpans c.toNat

end Dictation.Unicode
