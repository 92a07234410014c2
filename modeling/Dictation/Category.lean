import Dictation.Text.Case
/-!
# Character categories

Each character of a text belongs to one coarse category. Letters are told apart by case, so that a
change of case is visible as a change of category; the decimal and thousands characters of a
language have a category of their own.
-/
namespace Dictation

open Unicode

inductive LetterCase where
  | upper
  | lower
  /-- Scripts without case, and title-case digraphs. -/
  | other
  deriving DecidableEq, Repr

inductive Category where
  | letter (case : LetterCase)
  | digit
  /-- Combining marks, which stay with the word around them. -/
  | mark
  | punctuation
  /-- Connecting punctuation such as the low line. -/
  | connector
  | separator
  | control
  /-- The decimal or the thousands character. -/
  | combiner
  deriving DecidableEq, Repr

namespace Category

/-- Whether characters of the category stand between words. -/
def splitsWords : Category → Bool
  | punctuation | connector | separator | control => true
  | _ => false

/-- Whether characters of the category belong to a name. -/
def isNamePart : Category → Bool
  | letter _ | mark | digit => true
  | _ => false

end Category

/-- The decimal character and the thousands separator of a language. -/
structure Combiners where
  decimal : Char := '.'
  thousands : Char := ','
  deriving DecidableEq, Repr

namespace Combiners

def decimalCommaLanguages : List Text := ["de", "es", "it", "nl", "pt", "id", "da", "tr"]

def spacedLanguages : List Text := ["fr", "ru", "pl", "cs", "sv", "fi", "nb", "uk"]

/-- The language part of a locale name such as `de_DE`. -/
def languageOf (locale : Text) : Text :=
  Text.lower (locale.takeWhile (· ∉ ['_', '-', '.']))

/-- The combiners of a locale; an unknown language has a point and a comma. -/
def forLanguage (locale : Text) : Combiners :=
  if languageOf locale ∈ decimalCommaLanguages then ⟨',', '.'⟩
  else if languageOf locale ∈ spacedLanguages then ⟨',', '\u00a0'⟩
  else {}

/-- Whether a character is one of the combiners. -/
def has (k : Combiners) (c : Char) : Bool := c = k.decimal || c = k.thousands

end Combiners

def connectors : List Span :=
  [⟨0x5F, 0x5F, 1⟩, ⟨0x203F, 0x2040, 1⟩, ⟨0x2054, 0x2054, 1⟩, ⟨0xFE33, 0xFE34, 1⟩,
    ⟨0xFE4D, 0xFE4F, 1⟩, ⟨0xFF3F, 0xFF3F, 1⟩]

/-- Invisible format characters, which count as control characters. -/
def invisibles : List Span :=
  [⟨0xAD, 0xAD, 1⟩, ⟨0x200B, 0x200F, 1⟩, ⟨0x202A, 0x202E, 1⟩, ⟨0x2060, 0x2064, 1⟩,
    ⟨0xFEFF, 0xFEFF, 1⟩]

def combiningMarks : List Span :=
  [⟨0x300, 0x36F, 1⟩, ⟨0x483, 0x489, 1⟩, ⟨0x591, 0x5BD, 1⟩, ⟨0x610, 0x61A, 1⟩,
    ⟨0x64B, 0x65F, 1⟩, ⟨0x900, 0x903, 1⟩, ⟨0x93A, 0x94F, 1⟩, ⟨0x1AB0, 0x1AFF, 1⟩,
    ⟨0x1DC0, 0x1DFF, 1⟩, ⟨0x20D0, 0x20FF, 1⟩, ⟨0xFE00, 0xFE0F, 1⟩, ⟨0xFE20, 0xFE2F, 1⟩]

def letterCase (c : Char) : LetterCase :=
  if isUppercase c then .upper else if isLowercase c then .lower else .other

/-- The category of a character: the first of the kinds below that it belongs to. -/
def Combiners.categoryOf (k : Combiners) (c : Char) : Category :=
  if k.has c then .combiner
  else if isControl c || Span.mem invisibles c.toNat then .control
  else if isBlank c then .separator
  else if isAlphabetic c then .letter (letterCase c)
  else if isNumeric c then .digit
  else if Span.mem connectors c.toNat then .connector
  else if Span.mem combiningMarks c.toNat then .mark
  else .punctuation

end Dictation
