import Dictation.Pattern.PropertyName
import Dictation.Pattern.Reader
import Dictation.Text.Digit
/-!
# Escapes

What a backslash can stand before: code points, classes, assertions and punctuation that would mean
something else on its own.
-/
namespace Dictation

open Reader

/-- What a single step of a pattern stands for. -/
inductive Primitive where
  | literal (c : Char)
  | set (s : CharSet)
  | assertion (a : Assertion)
  deriving DecidableEq, Repr

namespace Escape

def readBraced : Reader Char := do
  let _ ← nextSpaced
  let ds ← takeKind (· ≠ '\x7d')
  let _ ← peek
  let _ ← nextSpaced
  if ds.isEmpty then fail
  lift ((hexNumber? ds).bind charOf?)

/-- Reads a fixed number of hexadecimal digits. -/
def readDigits : Nat → Reader Text
  | 0 => pure []
  | n + 1 => do
    let d ← nextSpaced
    return d :: (← readDigits n)

/-- Reads a code point behind its letter. Two digits name a single byte, which has to be ASCII where
Unicode is off. -/
def readCodePoint (letter : Char) : Reader Char := do
  let _ ← nextSpaced
  if (← peek) = '\x7b' then readBraced
  else
    let ds ← readDigits (if letter = 'x' then 2 else if letter = 'u' then 4 else 8)
    let c ← lift ((hexNumber? ds).bind charOf?)
    if letter = 'x' && 0x80 ≤ c.toNat && !(← flags).unicode then fail
    return c

/-- The property name inside braces, cut where a value is given, and whether the value is ruled
out. -/
def splitProperty (name : Text) : Text × Option Text × Bool :=
  match Text.splitFirst? '!' name with
  | some (property, '=' :: value) => (property, some value, true)
  | _ =>
    match Text.splitFirst? ':' name with
    | some (property, value) => (property, some value, false)
    | none =>
      match Text.splitFirst? '=' name with
      | some (property, value) => (property, some value, false)
      | none => (name, none, false)

/-- Reads a class by its property, behind the backslash. -/
def readProperty : Reader CharSet := do
  let negated := (← nextSpaced) = 'P'
  let (s, excluded) ←
    if (← peek) = '\x7b' then
      let _ ← nextSpaced
      let name ← takeKind (· ≠ '\x7d')
      expect '\x7d'
      let (property, value, excluded) := splitProperty name
      match value with
      | some value => pure (← lift (propertyValueSet? property value), excluded)
      | none => pure (← lift (propertySet? property), false)
    else
      let c ← peek
      if c = '\\' then fail
      let _ ← nextSpaced
      pure (← lift (propertySet? [c]), false)
  let f ← flags
  if !f.unicode then fail
  lift (f.negate? (negated != excluded) (f.fold s))

/-- The class of a letter such as `d`, of which the capital stands for the complement. -/
def letterSet (f : Flags) (letter : Char) : CharSet :=
  match letter with
  | 'd' | 'D' => if f.unicode then .digit else .range '0' '9'
  | 's' | 'S' => if f.unicode then .space else .union (.range '\t' '\r') (.one ' ')
  | _ =>
    if f.unicode then .word
    else .unionAll [.range '0' '9', .range 'A' 'Z', .one '_', .range 'a' 'z']

/-- Reads one of the classes of digits, blanks and word characters. -/
def readLetterSet : Reader CharSet := do
  let c ← next
  let f ← flags
  lift (f.negate? (c ∈ ['D', 'S', 'W']) (letterSet f c))

def isBoundaryChar (c : Char) : Bool := isAsciiLetter c || c = '-'

/-- Reads a kind of word boundary in braces, unless the brace begins a repetition. -/
def readBoundary (r : WordRule) : Reader Assertion := do
  if (← peek?) ≠ some '\x7b' then return .boundary r
  let before ← get
  let _ ← nextSpaced
  if !isBoundaryChar (← peek) then
    set before
    return .boundary r
  let name ← takeKind isBoundaryChar
  expect '\x7d'
  if name = "start".toList then return .wordStart r
  if name = "end".toList then return .wordEnd r
  if name = "start-half".toList then return .wordStartHalf r
  if name = "end-half".toList then return .wordEndHalf r
  fail

/-- Punctuation and control characters stand for themselves behind a backslash. -/
def isPlain (c : Char) : Bool :=
  c.toNat < 0x80 && !isAsciiLetter c && !('0' ≤ c && c ≤ '9') && c ≠ '<' && c ≠ '>'

def read : Reader Primitive := do
  let c ← peek
  if c ∈ ['x', 'u', 'U'] then return .literal (← readCodePoint c)
  if c ∈ ['p', 'P'] then return .set (← readProperty)
  if c ∈ ['d', 's', 'w', 'D', 'S', 'W'] then return .set (← readLetterSet)
  let _ ← next
  let r := (← flags).wordRule
  match c with
  | 'a' => return .literal '\x07'
  | 'f' => return .literal '\x0c'
  | 't' => return .literal '\t'
  | 'n' => return .literal '\n'
  | 'r' => return .literal '\r'
  | 'v' => return .literal '\x0b'
  | 'A' => return .assertion .textStart
  | 'z' => return .assertion .textEnd
  | 'b' => return .assertion (← readBoundary r)
  | 'B' => return .assertion (.noBoundary r)
  | '<' => return .assertion (.wordStart r)
  | '>' => return .assertion (.wordEnd r)
  | c => if isPlain c then return .literal c else fail

end Escape

end Dictation
