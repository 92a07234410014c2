import Dictation.Unicode.FoldTable
import Dictation.Unicode.Property
/-!
# Character sets of patterns

The sets of characters that a pattern can name. They follow Unicode 16: a character that came later
belongs to no category but the unassigned ones.

Two characters are counterparts if simple case folding sends them to the same character. A set
without regard to case holds every character that has a counterpart in the set.
-/
namespace Dictation

open Unicode

/-- Whether a character was not yet assigned in Unicode 16. -/
def isRecent (c : Char) : Bool := Span.mem since17Spans c.toNat

/-- Whether a character had the category in Unicode 16. One letter was of lower case then. -/
def hasCategory (g : GeneralCategory) (c : Char) : Bool :=
  if c = '\u0295' then g = .lowercaseLetter
  else if isRecent c then g = .unassigned
  else g.contains c

/-- The character that all counterparts of a character fold to. -/
def foldChar (c : Char) : Char :=
  match Shift.moved? foldShifts c.toNat with
  | some n => Char.ofNat n
  | none => c

def counterparts (c : Char) : List Char :=
  foldChar c :: (Shift.preimages foldShifts (foldChar c).toNat).map Char.ofNat

/-- Properties of characters that a pattern can name. -/
inductive CharProperty where
  | any
  | ascii
  | alphabetic
  | cased
  | caseIgnorable
  | lowercase
  | uppercase
  | whiteSpace
  deriving DecidableEq, Repr

def CharProperty.contains (p : CharProperty) (c : Char) : Bool :=
  match p with
  | any => true
  | ascii => c.toNat < 0x80
  | alphabetic => isAlphabetic c && !isRecent c
  | cased => isCased c && !isRecent c || c = '\u0295'
  | caseIgnorable => isCaseIgnorable c && !isRecent c
  | lowercase => isLowercase c && !isRecent c || c = '\u0295'
  | uppercase => isUppercase c && !isRecent c
  | whiteSpace => isBlank c

/-- Characters of words: letters, marks, decimal digits, connectors and the two joiners. -/
def isWordChar (c : Char) : Bool :=
  isAlphabetic c && !isRecent c ||
    [.nonspacingMark, .spacingMark, .enclosingMark, .decimalNumber, .connectorPunctuation].any
      (hasCategory · c) ||
    c = '\u200c' || c = '\u200d'

def isAsciiLetter (c : Char) : Bool := 'a' ≤ c && c ≤ 'z' || 'A' ≤ c && c ≤ 'Z'

def isAsciiWordChar (c : Char) : Bool := isAsciiLetter c || '0' ≤ c && c ≤ '9' || c = '_'

/-- An ASCII letter in the other case; any other character as it stands. -/
def swapAsciiCase (c : Char) : Char :=
  if 'a' ≤ c && c ≤ 'z' then Char.ofNat (c.toNat - 32)
  else if 'A' ≤ c && c ≤ 'Z' then Char.ofNat (c.toNat + 32)
  else c

inductive CharSet where
  /-- The characters between two others, with both of them. -/
  | range (first last : Char)
  | spans (ss : List Span)
  | category (gs : List GeneralCategory)
  | property (p : CharProperty)
  | digit
  | space
  | word
  /-- The counterparts of one character. -/
  | counterpart (c : Char)
  /-- Everything with a counterpart in the set. -/
  | folded (s : CharSet)
  /-- Everything that is in the set in one of its ASCII cases. -/
  | asciiFolded (s : CharSet)
  | union (a b : CharSet)
  | inter (a b : CharSet)
  | compl (s : CharSet)
  deriving DecidableEq, Repr

namespace CharSet

def nothing : CharSet := .category []

def one (c : Char) : CharSet := .range c c

def contains : CharSet → Char → Bool
  | range first last, c => first ≤ c && c ≤ last
  | spans ss, c => Span.mem ss c.toNat
  | category gs, c => gs.any (hasCategory · c)
  | property p, c => p.contains c
  | digit, c => hasCategory .decimalNumber c
  | space, c => isBlank c
  | word, c => isWordChar c
  | counterpart d, c => c = d || foldChar c = foldChar d
  | folded s, c => s.contains c || (counterparts c).any s.contains
  | asciiFolded s, c => s.contains c || s.contains (swapAsciiCase c)
  | union a b, c => a.contains c || b.contains c
  | inter a b, c => a.contains c && b.contains c
  | compl s, c => !s.contains c

def unionAll : List CharSet → CharSet
  | [] => nothing
  | [s] => s
  | s :: rest => union s (unionAll rest)

def difference (a b : CharSet) : CharSet := inter a (compl b)

def symmetricDifference (a b : CharSet) : CharSet := union (difference a b) (difference b a)

end CharSet

end Dictation
