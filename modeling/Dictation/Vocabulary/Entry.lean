import Dictation.Vocabulary
/-!
# Vocabulary entries

A word with one of its pronunciations, and listings of such entries as text. A listing has one entry
a line; blank lines and lines that start with `#` or `;;;` are skipped.
-/
namespace Dictation

structure Entry where
  word : Text
  pronunciation : Text
  deriving DecidableEq, Repr

namespace Entry

def isComment (line : Text) : Bool := line.head? = some '#' || (";;;".toList).isPrefixOf line

/-- The first field of a line and what follows it. A tab ends the field; in a line without tabs any
white space does. -/
def splitLine (line : Text) : Text × Text :=
  match Text.splitFirst? '\t' line with
  | some fields => fields
  | none =>
    (line.takeWhile (!Unicode.isBlank ·), (line.dropWhile (!Unicode.isBlank ·)).drop 1)

/-- The word of a field, without the number of an alternate pronunciation as in `read(2)`. -/
def wordOf (field : Text) : Text :=
  let word := field.trim
  if word.getLast? = some ')' then
    match Text.splitLast? '(' word with
    | some (base, _) => base
    | none => word
  else word

def ofLine? (line : Text) : Option Entry :=
  let line := line.trim
  if line.isEmpty || isComment line then none
  else
    let (field, rest) := splitLine line
    let word := wordOf field
    if word.isEmpty then none else some ⟨word.lower, rest.trim.upper⟩

def ofListing (t : Text) : List Entry := t.lines.filterMap ofLine?

end Entry

end Dictation
