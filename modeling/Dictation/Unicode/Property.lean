import Dictation.Unicode.GeneralCategory
import Dictation.Unicode.Listed
/-!
# Character properties

Properties of single characters, each from the general category and the members that it misses.
-/
namespace Dictation.Unicode

/-- Letters, letter numbers and the marks that stand for vowels. -/
def isAlphabetic (c : Char) : Bool :=
  isIn GeneralCategory.letters c || GeneralCategory.letterNumber.contains c ||
    Span.mem alphabeticMarkSpans c.toNat

def isUppercase (c : Char) : Bool :=
  GeneralCategory.uppercaseLetter.contains c || Span.mem uppercaseSymbolSpans c.toNat

def isLowercase (c : Char) : Bool :=
  GeneralCategory.lowercaseLetter.contains c || Span.mem lowercaseModifierSpans c.toNat

def isCased (c : Char) : Bool :=
  isUppercase c || isLowercase c || GeneralCategory.titlecaseLetter.contains c

/-- Digits, letter numbers and all other numerals. -/
def isNumeric (c : Char) : Bool :=
  isIn GeneralCategory.numbers c

def isBlank (c : Char) : Bool :=
  Span.mem blankSpans c.toNat

def isControl (c : Char) : Bool :=
  GeneralCategory.control.contains c

/-- Characters that extend the character before them. -/
def isExtending (c : Char) : Bool :=
  GeneralCategory.nonspacingMark.contains c || GeneralCategory.enclosingMark.contains c ||
    Span.mem extendingMarkSpans c.toNat

/-- Characters that stand inside a word without deciding where its casing ends. -/
def isCaseIgnorable (c : Char) : Bool :=
  isIn [.nonspacingMark, .enclosingMark, .format, .modifierLetter, .modifierSymbol] c ||
    c ∈ ['\'', '.', ':', '\u00b7', '\u0387', '\u055f', '\u05f4', '\u2018', '\u2019', '\u2024',
      '\u2027', '\ufe13', '\ufe52', '\ufe55', '\uff07', '\uff0e', '\uff1a']

/-- Letters, marks, numbers, punctuation, symbols and the plain space. -/
def isPrintable (c : Char) : Bool :=
  c == ' ' || isIn (GeneralCategory.letters ++ GeneralCategory.marks ++ GeneralCategory.numbers ++
    GeneralCategory.punctuation ++ GeneralCategory.symbols) c

end Dictation.Unicode
