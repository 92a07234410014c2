import Dictation.Unicode.GeneralCategory.Letters
import Dictation.Unicode.GeneralCategory.Punctuation
/-!
# General category

Every character has exactly one general category. A character that no table lists is unassigned.
-/
namespace Dictation.Unicode

inductive GeneralCategory where
  | uppercaseLetter | lowercaseLetter | titlecaseLetter | modifierLetter | otherLetter
  | nonspacingMark | spacingMark | enclosingMark
  | decimalNumber | letterNumber | otherNumber
  | connectorPunctuation | dashPunctuation | openPunctuation | closePunctuation
  | initialPunctuation | finalPunctuation | otherPunctuation
  | mathSymbol | currencySymbol | modifierSymbol | otherSymbol
  | spaceSeparator | lineSeparator | paragraphSeparator
  | control | format | surrogate | privateUse | unassigned
  deriving DecidableEq, Repr

namespace GeneralCategory

/-- The code points of a category. Surrogates are no characters, and the unassigned code points
are those of no other category. -/
def spans : GeneralCategory → List Span
  | uppercaseLetter => uppercaseLetterSpans
  | lowercaseLetter => lowercaseLetterSpans
  | titlecaseLetter => titlecaseLetterSpans
  | modifierLetter => modifierLetterSpans
  | otherLetter => otherLetterSpans
  | nonspacingMark => nonspacingMarkSpans
  | spacingMark => spacingMarkSpans
  | enclosingMark => enclosingMarkSpans
  | decimalNumber => decimalNumberSpans
  | letterNumber => letterNumberSpans
  | otherNumber => otherNumberSpans
  | connectorPunctuation => connectorPunctuationSpans
  | dashPunctuation => dashPunctuationSpans
  | openPunctuation => openPunctuationSpans
  | closePunctuation => closePunctuationSpans
  | initialPunctuation => initialPunctuationSpans
  | finalPunctuation => finalPunctuationSpans
  | otherPunctuation => otherPunctuationSpans
  | mathSymbol => mathSymbolSpans
  | currencySymbol => currencySymbolSpans
  | modifierSymbol => modifierSymbolSpans
  | otherSymbol => otherSymbolSpans
  | spaceSeparator => spaceSeparatorSpans
  | lineSeparator => lineSeparatorSpans
  | paragraphSeparator => paragraphSeparatorSpans
  | control => controlSpans
  | format => formatSpans
  | surrogate => []
  | privateUse => privateUseSpans
  | unassigned => []

def letters : List GeneralCategory :=
  [lowercaseLetter, uppercaseLetter, titlecaseLetter, modifierLetter, otherLetter]

def marks : List GeneralCategory := [nonspacingMark, spacingMark, enclosingMark]

def numbers : List GeneralCategory := [decimalNumber, letterNumber, otherNumber]

def punctuation : List GeneralCategory :=
  [connectorPunctuation, dashPunctuation, openPunctuation, closePunctuation, initialPunctuation,
    finalPunctuation, otherPunctuation]

def symbols : List GeneralCategory := [mathSymbol, currencySymbol, modifierSymbol, otherSymbol]

def separators : List GeneralCategory := [spaceSeparator, lineSeparator, paragraphSeparator]

def others : List GeneralCategory := [control, format, surrogate, privateUse, unassigned]

/-- The categories whose characters a table lists. -/
def assigned : List GeneralCategory :=
  letters ++ marks ++ numbers ++ punctuation ++ symbols ++ separators ++
    [control, format, privateUse]

/-- Whether a character has the category. -/
def contains (g : GeneralCategory) (c : Char) : Bool :=
  match g with
  | unassigned => !assigned.any fun g => Span.mem g.spans c.toNat
  | g => Span.mem g.spans c.toNat

end GeneralCategory

/-- Whether a character has one of the categories. -/
def isIn (gs : List GeneralCategory) (c : Char) : Bool :=
  gs.any (·.contains c)

end Dictation.Unicode
