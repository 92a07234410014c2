import Dictation.Pattern.Node
/-!
# Reading patterns

What has been read of a pattern so far, and the small steps of reading on. Reading fails where the
text is no pattern.
-/
namespace Dictation

structure Flags where
  ignoreCase : Bool := false
  multiLine : Bool := false
  dotAll : Bool := false
  swapGreed : Bool := false
  unicode : Bool := true
  returnLines : Bool := false
  extended : Bool := false
  deriving DecidableEq, Repr

namespace Flags

def wordRule (f : Flags) : WordRule := if f.unicode then .unicode else .ascii

def fold (f : Flags) (s : CharSet) : CharSet :=
  if !f.ignoreCase then s else if f.unicode then .folded s else .asciiFolded s

def literal (f : Flags) (c : Char) : CharSet :=
  if f.ignoreCase && f.unicode then .counterpart c else f.fold (.one c)

/-- The complement of a set, where one is asked for. Without Unicode there is none, since it would
hold parts of characters. -/
def negate? (f : Flags) (negated : Bool) (s : CharSet) : Option CharSet :=
  if !negated then some s else if f.unicode then some (.compl s) else none

def dot? (f : Flags) : Option CharSet :=
  if !f.unicode then none
  else if f.dotAll then some (.property .any)
  else if f.returnLines then some (.compl (.union (.one '\r') (.one '\n')))
  else some (.compl (.one '\n'))

def lineStart (f : Flags) : Assertion :=
  if !f.multiLine then .textStart else if f.returnLines then .returnLineStart else .lineStart

def lineEnd (f : Flags) : Assertion :=
  if !f.multiLine then .textEnd else if f.returnLines then .returnLineEnd else .lineEnd

end Flags

structure Reading where
  rest : Text
  flags : Flags
  /-- The number of groups opened so far. -/
  groupCount : Nat
  /-- Named groups, the newest first. -/
  names : List (Nat × Text)
  deriving DecidableEq, Repr

abbrev Reader := StateT Reading Option

namespace Reader

def fail {α : Type} : Reader α := fun _ => none

def lift {α : Type} (x : Option α) : Reader α := fun r => x.map fun a => (a, r)

def peek? : Reader (Option Char) := fun r => some (r.rest.head?, r)

/-- The next character; at the end reading fails. -/
def peek : Reader Char := do lift (← peek?)

def flags : Reader Flags := fun r => some (r.flags, r)

def setFlags (f : Flags) : Reader Unit := modify fun r => { r with flags := f }

def next : Reader Char := do
  let c ← peek
  modify fun r => { r with rest := r.rest.drop 1 }
  return c

/-- Reads the given text if it comes next, and says whether it does. -/
def skip? (t : Text) : Reader Bool := fun r =>
  match Text.dropPrefix? t r.rest with
  | some rest => some (true, { r with rest })
  | none => some (false, r)

/-- A text without white space and comments at its start. -/
def dropSpace (inComment : Bool) : Text → Text
  | [] => []
  | c :: rest =>
    if inComment then dropSpace (c ≠ '\n') rest
    else if Unicode.isBlank c then dropSpace false rest
    else if c = '#' then dropSpace true rest
    else c :: rest

/-- In an extended pattern, passes white space and comments. -/
def skipSpace : Reader Unit := modify fun r =>
  if r.flags.extended then { r with rest := dropSpace false r.rest } else r

/-- Reads a character and passes white space behind it. -/
def nextSpaced : Reader Char := do
  let c ← next
  skipSpace
  return c

def expect (c : Char) : Reader Unit := do
  if (← next) ≠ c then fail

/-- Reads characters of a kind, white space between them aside. The bound is the length of the
text. -/
def takeSpaced (isKind : Char → Bool) : Nat → Reader Text
  | 0 => pure []
  | bound + 1 => do
    match ← peek? with
    | some c =>
      if isKind c then
        let c ← nextSpaced
        return c :: (← takeSpaced isKind bound)
      else return []
    | none => return []

/-- Reads characters of a kind, white space between them aside. -/
def takeKind (isKind : Char → Bool) : Reader Text := do
  takeSpaced isKind (← get).rest.length

end Reader

end Dictation
