import Dictation.Files.Glob
/-!
# Reading globs

A glob is cut into pieces first: characters, escaped characters and sets. Braces, commas and stars mean
something only as pieces that are not escaped.
-/
namespace Dictation.Files

namespace Glob

inductive Piece where
  | plain (c : Char)
  | escaped (c : Char)
  | set (negated : Bool) (ranges : List (UInt8 × UInt8))
  deriving DecidableEq, Repr

inductive SetReading where
  /-- There is no closing bracket, so that the opening one stands for itself. -/
  | unclosed
  /-- A range runs downwards. -/
  | invalid
  /-- A set with the number of its characters. -/
  | closed (negated : Bool) (ranges : List (Char × Char)) (length : Nat)

/-- Ranges with `c` as the end of the last one, unless it comes before its beginning. -/
def endRange? (c : Char) : List (Char × Char) → Option (List (Char × Char))
  | [] => none
  | r :: ranges => if r.1 ≤ c then some ((r.1, c) :: ranges) else none

/-- Reads the ranges of a set, the last one first. In `inRange` a minus sign has been read whose range
has no end yet. -/
def readRanges (ranges : List (Char × Char)) (inRange : Bool) (length : Nat) : Text → SetReading
  | [] => .unclosed
  | c :: rest =>
    if c = ']' && !ranges.isEmpty then
      .closed false (if inRange then ('-', '-') :: ranges else ranges) (length + 1)
    else if inRange then
      match endRange? c ranges with
      | some ranges => readRanges ranges false (length + 1) rest
      | none => .invalid
    else if c = '-' && !ranges.isEmpty then readRanges ranges true (length + 1) rest
    else readRanges ((c, c) :: ranges) false (length + 1) rest

def readSet : Text → SetReading
  | [] => .unclosed
  | c :: rest =>
    if c = '!' || c = '^' then
      match readRanges [] false 1 rest with
      | .closed _ ranges length => .closed true ranges length
      | other => other
    else readRanges [] false 0 (c :: rest)

/-- The bytes of a range of characters. Only the bytes at which its ends meet make a range. -/
def byteRanges (r : Char × Char) : List (UInt8 × UInt8) :=
  let single := fun b => (b, b)
  if r.1 = r.2 then (String.utf8EncodeChar r.1).map single
  else
    let (low, high) := (String.utf8EncodeChar r.1, String.utf8EncodeChar r.2)
    low.dropLast.map single ++ [(low.getLastD 0, high.headD 0)] ++ (high.drop 1).map single

/-- The pieces of a text, after so many characters that belong to a piece already read. -/
def pieces? : Nat → Text → Option (List Piece)
  | _, [] => some []
  | skipped + 1, _ :: rest => pieces? skipped rest
  | 0, '\\' :: c :: rest => (pieces? 0 rest).map (.escaped c :: ·)
  | 0, ['\\'] => none
  | 0, c :: rest =>
    if c = '[' then
      match readSet rest with
      | .unclosed => (pieces? 0 rest).map (.escaped c :: ·)
      | .invalid => none
      | .closed negated ranges length =>
        (pieces? length rest).map (.set negated (ranges.flatMap byteRanges) :: ·)
    else (pieces? 0 rest).map (.plain c :: ·)

def Piece.last : Piece → Char
  | plain c | escaped c => c
  | set _ _ => ']'

/-- The tokens read so far, the last one first. Inside braces there are the finished branches, too, and
what was read in front of the brace. -/
structure Reading where
  tokens : List GlobToken
  branches : List (List GlobToken)
  outer : List (List GlobToken × List (List GlobToken))

namespace Reading

def push (r : Reading) (t : GlobToken) : Reading := { r with tokens := t :: r.tokens }

def pushChar (r : Reading) (c : Char) : Reading := r.push (.literal (String.utf8EncodeChar c))

def isNested (r : Reading) : Bool := !r.outer.isEmpty

def openBrace (r : Reading) : Reading := ⟨[], [], (r.tokens, r.branches) :: r.outer⟩

/-- A comma ends a branch, but only inside braces. -/
def comma (r : Reading) : Reading :=
  if r.isNested then ⟨[], r.tokens.reverse :: r.branches, r.outer⟩ else r.pushChar ','

/-- Whether a branch stands for nothing. -/
def isVoid (branch : List GlobToken) : Bool :=
  branch.all fun
    | .alternatives [] => true
    | _ => false

def closeBrace? (r : Reading) : Option Reading :=
  match r.outer with
  | [] => none
  | (tokens, branches) :: outer =>
    let found := (r.tokens.reverse :: r.branches).reverse.filter (!isVoid ·)
    some ⟨.alternatives found :: tokens, branches, outer⟩

/-- Puts two stars in place of the slash in front of them. They add nothing to two stars there. -/
def joinStars (r : Reading) (t : GlobToken) : Reading :=
  match r.tokens with
  | .leading :: _ | .trailing :: _ => r
  | _ :: tokens => { r with tokens := t :: tokens }
  | [] => r.push t

def twoStars (r : Reading) : Reading := (r.push .star).push .star

/-- Whether two stars stand behind a slash. -/
def isBehindSlash (r : Reading) (previous : Option Char) : Bool :=
  previous = some '/' || r.isNested && (previous = some ',' || previous = some '\x7b')

def starsBeforeSlash (r : Reading) (previous : Option Char) : Reading :=
  if r.tokens.isEmpty then r.push .leading
  else if r.isBehindSlash previous then r.joinStars .between
  else r.twoStars.pushChar '/'

def starsBefore (r : Reading) (previous : Option Char) (next : Option Piece) : Reading :=
  let ended := next.isNone || r.isNested && (next = some (.plain ',') || next = some (.plain '\x7d'))
  if r.tokens.isEmpty then (if next.isNone then r.push .leading else r.twoStars)
  else if r.isBehindSlash previous && ended then r.joinStars .trailing
  else r.twoStars

def add? (r : Reading) : Piece → Option Reading
  | .plain c =>
    if c = '?' then some (r.push .any)
    else if c = '*' then some (r.push .star)
    else if c = '\x7b' then some r.openBrace
    else if c = '\x7d' then r.closeBrace?
    else if c = ',' then some r.comma
    else some (r.pushChar c)
  | .escaped c => some (r.pushChar c)
  | .set negated ranges => some (r.push (.set negated ranges))

end Reading

/-- Reads pieces, given the character in front of them. -/
def readPieces? (r : Reading) (previous : Option Char) : List Piece → Option Reading
  | [] => some r
  | .plain '*' :: .plain '*' :: .plain '/' :: rest =>
    readPieces? (r.starsBeforeSlash previous) (some '/') rest
  | .plain '*' :: .plain '*' :: rest =>
    readPieces? (r.starsBefore previous rest.head?) (some '*') rest
  | piece :: rest => do readPieces? (← r.add? piece) (some piece.last) rest

def parse? (t : Text) : Option Glob := do
  let r ← readPieces? ⟨[], [], []⟩ none (← pieces? 0 t)
  if r.isNested then none else some r.tokens.reverse

end Glob

end Dictation.Files
