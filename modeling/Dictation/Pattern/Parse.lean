import Dictation.Pattern.Class
/-!
# Patterns

A pattern is read from left to right: alternatives of sequences of characters, classes, assertions
and groups, each with its repetitions. Flags last until the end of the group that sets them.
-/
namespace Dictation

open Reader

namespace Pattern

def isNameStart (c : Char) : Bool := c = '_' || Unicode.isAlphabetic c

def isNameChar (c : Char) : Bool :=
  isNameStart c || Unicode.isNumeric c || c ∈ ['.', '[', ']']

/-- Reads the name of a group up to its closing angle, and gives it to the group. -/
def readName (index : Nat) : Reader Unit := do
  let name := (← get).rest.takeWhile (· ≠ '>')
  modify fun r => { r with rest := r.rest.drop name.length }
  expect '>'
  match name with
  | [] => fail
  | c :: rest =>
    if !isNameStart c || !rest.all isNameChar then fail
    if (← get).names.any (·.2 = name) then fail
    modify fun r => { r with names := (index, name) :: r.names }

def switch? (f : Flags) (letter : Char) (on : Bool) : Option Flags :=
  match letter with
  | 'i' => some { f with ignoreCase := on }
  | 'm' => some { f with multiLine := on }
  | 's' => some { f with dotAll := on }
  | 'U' => some { f with swapGreed := on }
  | 'u' => some { f with unicode := on }
  | 'R' => some { f with returnLines := on }
  | 'x' => some { f with extended := on }
  | _ => none

/-- Switches flags by their letters. A hyphen, of which there is at most one and never the last
letter, turns to switching off; no letter stands twice. -/
def applyFlags? (f : Flags) (on : Bool) (seen : List Char) : Text → Option Flags
  | [] => some f
  | c :: rest =>
    if c ∈ seen then none
    else if c = '-' then
      if rest.isEmpty then none else applyFlags? f false (c :: seen) rest
    else (switch? f c on).bind fun f => applyFlags? f on (c :: seen) rest

inductive Opening where
  /-- Flags for the rest of the enclosing group. -/
  | flags (f : Flags)
  /-- A group, remembered if it has an index. -/
  | group (index : Option Nat) (f : Flags)

def newGroup : Reader Nat := do
  modify fun r => { r with groupCount := r.groupCount + 1 }
  return (← get).groupCount

/-- Reads what follows an opening parenthesis. Looking around is not supported. -/
def readOpening : Reader Opening := do
  let _ ← next
  skipSpace
  let f ← Reader.flags
  let rest := (← get).rest
  if ["?=".toList, "?!".toList, "?<=".toList, "?<!".toList].any (·.isPrefixOf rest) then fail
  let named ← do
    if ← skip? "?P<" then pure true else skip? "?<"
  if named then
    let index ← newGroup
    readName index
    return .group (some index) f
  if ← skip? "?" then
    let letters := (← get).rest.takeWhile fun c => c ≠ ':' && c ≠ ')'
    modify fun r => { r with rest := r.rest.drop letters.length }
    let new ← lift (applyFlags? f true [] letters)
    if (← next) = ')' then
      if letters.isEmpty then fail
      return .flags new
    return .group none new
  return .group (some (← newGroup)) f

def skipBlanks : Reader Unit := modify fun r => { r with rest := r.rest.trimStart }

/-- Reads a decimal number between optional blanks; nothing if there are no digits. -/
def readNumber? : Reader (Option Nat) := do
  skipBlanks
  let ds ← takeKind fun c => '0' ≤ c && c ≤ '9'
  skipBlanks
  skipSpace
  if ds.isEmpty then return none
  let n := ds.foldl (fun n d => 10 * n + (d.toNat - '0'.toNat)) 0
  if UInt32.size ≤ n then fail
  return some n

/-- Reads the bounds of a repetition in braces. -/
def readBounds : Reader (Nat × Option Nat) := do
  let _ ← nextSpaced
  let _ ← peek
  let least ← readNumber?
  let bounds ←
    if (← peek) = ',' then
      let _ ← nextSpaced
      if (← peek) = '\x7d' then pure (← lift least, none)
      else
        let least ← lift least
        let most ← lift (← readNumber?)
        if most < least then fail
        pure (least, some most)
    else
      let n ← lift least
      pure (n, some n)
  if (← peek) ≠ '\x7d' then fail
  return bounds

/-- Reads the question mark that makes a repetition the less greedy one. -/
def readGreed : Reader Bool := do
  let lazy ← skip? "?"
  return lazy = (← Reader.flags).swapGreed

def readRepetition (n : Node) : Reader Node := do
  match ← peek with
  | '?' =>
    let _ ← next
    return n.repeated (← readGreed) 0 (some 1)
  | '*' =>
    let _ ← next
    return n.repeated (← readGreed) 0 none
  | '+' =>
    let _ ← next
    return n.repeated (← readGreed) 1 none
  | _ =>
    let (least, most) ← readBounds
    let _ ← nextSpaced
    return n.repeated (← readGreed) least most

inductive Item where
  | node (n : Node)
  /-- Flags were set here; they cannot be repeated. -/
  | flags

def Item.node? : Item → Option Node
  | node n => some n
  | flags => none

/-- Sequences read so far; of the current one and of the finished ones the newest come first. -/
structure Branches where
  finished : List Node
  current : List Item

namespace Branches

def empty : Branches := ⟨[], []⟩

def push (b : Branches) (i : Item) : Branches := { b with current := i :: b.current }

def sequence (b : Branches) : Node := Node.sequence (b.current.reverse.filterMap Item.node?)

/-- The branches with the current sequence finished. -/
def cut (b : Branches) : Branches := ⟨b.sequence :: b.finished, []⟩

def node (b : Branches) : Node := Node.alternatives b.cut.finished.reverse

end Branches

/-- Reads a single step that is neither a group nor a class in brackets. -/
def readPrimitive : Reader Node := do
  let c ← next
  let f ← Reader.flags
  match c with
  | '\\' =>
    match ← Escape.read with
    | .literal c => return .set (f.literal c)
    | .set s => return .set s
    | .assertion a => return .assertion a
  | '.' => return .set (← lift f.dot?)
  | '^' => return .assertion f.lineStart
  | '$' => return .assertion f.lineEnd
  | c => return .set (f.literal c)

/-- Reads sequences up to the end of the pattern or a closing parenthesis. -/
def readBranches : Nat → Branches → Reader Node
  | 0, _ => fail
  | bound + 1, b => do
    skipSpace
    match ← peek? with
    | none | some ')' => return b.node
    | some '|' =>
      let _ ← next
      readBranches bound b.cut
    | some '(' =>
      let outer ← Reader.flags
      match ← readOpening with
      | .flags f =>
        setFlags f
        readBranches bound (b.push .flags)
      | .group index f =>
        setFlags f
        let body ← readBranches bound .empty
        expect ')'
        setFlags outer
        readBranches bound <| b.push <| .node <| match index with
          | some i => .group i body
          | none => body
    | some '[' =>
      let s ← Class.read
      readBranches bound (b.push (.node (.set s)))
    | some c =>
      if c ∈ ['?', '*', '+', '\x7b'] then
        match b.current with
        | .node n :: current =>
          let n ← readRepetition n
          readBranches bound { b with current := .node n :: current }
        | _ => fail
      else
        let n ← readPrimitive
        readBranches bound (b.push (.node n))

end Pattern

/-- A compiled pattern: its node and the names of its groups, with the first group first. -/
structure Pattern where
  node : Node
  groups : List (Option Text)
  deriving DecidableEq, Repr

/-- The greatest index of a group in a node, or 0. -/
def Node.lastGroup : Node → Nat
  | empty | set _ | assertion _ | mark _ => 0
  | group i body => max i body.lastGroup
  | opt _ body | star _ _ body | plus _ _ body => body.lastGroup
  | seq a b | alt a b => max a.lastGroup b.lastGroup

/-- Whether a node has the group. -/
def Node.hasGroup (i : Nat) : Node → Bool
  | empty | set _ | assertion _ | mark _ => false
  | group j body => i = j || body.hasGroup i
  | opt _ body | star _ _ body | plus _ _ body => body.hasGroup i
  | seq a b | alt a b => a.hasGroup i || b.hasGroup i

namespace Pattern

/-- The name of a group; a group that a repetition drops loses its name. -/
def groupName (n : Node) (names : List (Nat × Text)) (i : Nat) : Option Text :=
  if n.hasGroup i then names.lookup i else none

/-- Compiles the text of a pattern, starting with the given flags. -/
def compile? (f : Flags) (t : Text) : Option Pattern := do
  let (n, r) ← (readBranches (t.length + 1) .empty).run ⟨t, f, 0, []⟩
  if !r.rest.isEmpty then none
  let n := (n.withMarks false 0).1
  return ⟨n, (List.range' 1 n.lastGroup).map (groupName n r.names)⟩

def index? (p : Pattern) (name : Text) : Option Nat :=
  (p.groups.findIdx? (· = some name)).map (· + 1)

end Pattern

end Dictation
