import Dictation.Pattern.Escape
/-!
# Bracketed classes

A class in brackets is a union of characters, ranges and classes. Unions are combined by
intersection, difference and symmetric difference, from left to right.
-/
namespace Dictation

open Reader

namespace Class

inductive SetOperator where
  | intersection
  | difference
  | symmetricDifference
  deriving DecidableEq, Repr

def SetOperator.apply : SetOperator → CharSet → CharSet → CharSet
  | intersection, a, b => .inter a b
  | difference, a, b => .difference a b
  | symmetricDifference, a, b => .symmetricDifference a b

/-- The classes that can be named inside brackets, as in `[[:alpha:]]`. -/
def asciiClasses : List (String × CharSet) := [
  ("alnum", .unionAll [.range '0' '9', .range 'A' 'Z', .range 'a' 'z']),
  ("alpha", .union (.range 'A' 'Z') (.range 'a' 'z')),
  ("ascii", .range '\x00' '\x7f'),
  ("blank", .union (.one '\t') (.one ' ')),
  ("cntrl", .union (.range '\x00' '\x1f') (.one '\x7f')),
  ("digit", .range '0' '9'),
  ("graph", .range '!' '~'),
  ("lower", .range 'a' 'z'),
  ("print", .range ' ' '~'),
  ("punct", .unionAll [.range '!' '/', .range ':' '@', .range '[' '\x60', .range '\x7b' '~']),
  ("space", .union (.range '\t' '\r') (.one ' ')),
  ("upper", .range 'A' 'Z'),
  ("word", .unionAll [.range '0' '9', .range 'A' 'Z', .one '_', .range 'a' 'z']),
  ("xdigit", .unionAll [.range '0' '9', .range 'A' 'F', .range 'a' 'f'])]

/-- A named class behind its bracket and colon: whether it is negated, its set and what follows. -/
def named? (t : Text) : Option (Bool × CharSet × Text) := do
  let t ← Text.dropPrefix? ['[', ':'] t
  let negated := t.head? = some '^'
  let t := if negated then t.drop 1 else t
  let name := t.takeWhile (· ≠ ':')
  let rest ← Text.dropPrefix? [':', ']'] (t.drop name.length)
  let s ← asciiClasses.lookup (String.ofList name)
  return (negated, s, rest)

def readNamed? : Reader (Option CharSet) := do
  match named? (← get).rest with
  | some (negated, s, rest) =>
    modify fun r => { r with rest }
    let f ← flags
    return some (← lift (f.negate? negated (f.fold s)))
  | none => return none

/-- Reads a character or a class between brackets. -/
def readItem : Reader Primitive := do
  let c ← next
  if c = '\\' then Escape.read else return .literal c

/-- A character of a class. Without Unicode it has to be ASCII. -/
def literalOf? (f : Flags) : Primitive → Option Char
  | .literal c => if f.unicode || c.toNat < 0x80 then some c else none
  | _ => none

def itemSet? (f : Flags) : Primitive → Option CharSet
  | .set s => some s
  | p => (literalOf? f p).map CharSet.one

/-- The text behind the next character, without white space in an extended pattern. -/
def afterNext (r : Reading) : Text :=
  if r.flags.extended then dropSpace false (r.rest.drop 1) else r.rest.drop 1

/-- Whether a hyphen that makes a range comes next. -/
def rangeFollows : Reader Bool := do
  let r ← get
  return r.rest.head? = some '-' && (afterNext r).head? ∉ [some ']', some '-']

def readRange : Reader CharSet := do
  let f ← flags
  let first ← readItem
  skipSpace
  let _ ← peek
  if !(← rangeFollows) then lift (itemSet? f first)
  else
    let _ ← nextSpaced
    let last ← readItem
    let a ← lift (literalOf? f first)
    let b ← lift (literalOf? f last)
    if b < a then fail
    return .range a b

/-- Reads hyphens that stand for themselves. The bound is the length of the text. -/
def readHyphens : Nat → Reader (List CharSet)
  | 0 => pure []
  | bound + 1 => do
    if (← peek) = '-' then
      let _ ← nextSpaced
      return .one '-' :: (← readHyphens bound)
    else return []

/-- Reads the opening bracket with what stands for itself behind it only: whether the class is
negated, and the first characters. -/
def readOpening : Reader (Bool × List CharSet) := do
  let _ ← nextSpaced
  let negated := (← peek) = '^'
  if negated then let _ ← nextSpaced
  let hyphens ← readHyphens (← get).rest.length
  if hyphens.isEmpty && (← peek) = ']' then
    let _ ← nextSpaced
    return (negated, [.one ']'])
  return (negated, hyphens)

/-- Reads an operator between unions, if one comes next. -/
def readOperator? : Reader (Option SetOperator) := do
  if ← skip? ['&', '&'] then return some .intersection
  if ← skip? ['-', '-'] then return some .difference
  if ← skip? ['~', '~'] then return some .symmetricDifference
  return none

/-- A class read so far: the sets combined already with an operator waiting for the next union, and
the current union. -/
structure Pending where
  left : Option (CharSet × SetOperator)
  items : List CharSet

def Pending.combine (f : Flags) (p : Pending) : CharSet :=
  let right := CharSet.unionAll p.items
  match p.left with
  | some (left, op) => op.apply (f.fold left) (f.fold right)
  | none => right

/-- Reads the inside of a class up to its closing bracket. -/
def readBody : Nat → Pending → Reader CharSet
  | 0, _ => fail
  | bound + 1, p => do
    skipSpace
    let f ← flags
    match ← peek with
    | ']' =>
      let _ ← next
      return p.combine f
    | '[' =>
      match ← readNamed? with
      | some s => readBody bound { p with items := p.items ++ [s] }
      | none =>
        let (negated, items) ← readOpening
        let inner ← readBody bound ⟨none, items⟩
        let s ← lift (f.negate? negated (f.fold inner))
        readBody bound { p with items := p.items ++ [s] }
    | _ =>
      match ← readOperator? with
      | some op => readBody bound ⟨some (p.combine f, op), []⟩
      | none =>
        let s ← readRange
        readBody bound { p with items := p.items ++ [s] }

def read : Reader CharSet := do
  let (negated, items) ← readOpening
  let inner ← readBody (← get).rest.length ⟨none, items⟩
  let f ← flags
  lift (f.negate? negated (f.fold inner))

end Class

end Dictation
