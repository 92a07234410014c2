import Dictation.Cue
import Dictation.Source.StringLiteral
import Dictation.Text.WordBounds
/-!
# Prose in source text

The bodies of strings and comments are spoken as free text inside a frame of delimiters.
-/
namespace Dictation.Source

open Unicode

def newLine : Text := "new-line"

def isApostrophe (c : Char) : Bool := c = '\'' || c = '\u2019'

/-- A word of letters with an apostrophe in it, which is spoken as a whole. -/
def isContraction (w : Text) : Bool :=
  w.any isApostrophe && w.any isAlphabetic && w.all fun c => isAlphabetic c || isApostrophe c

def isSpoken : Cue → Bool
  | .fixed w => !w.isBlankText
  | .name _ => true

/-- The cues of one piece of prose. Of white space only newlines are spoken. -/
def pieceCues (k : Combiners) (piece : Text) : List Cue :=
  if piece.isBlankText then (piece.filter (· = '\n')).map fun _ => .fixed newLine
  else if isContraction piece then [.fixed piece.lower]
  else (Cue.ofText k piece).filter isSpoken

def proseCues (k : Combiners) (t : Text) : List Cue := (Text.wordPieces t).flatMap (pieceCues k)

/-- The spoken form of an operator; an unlisted one is said literally. -/
def operatorWord (op : Text) : Text := (Operator.spoken? op).getD op

/-- The text without `suffix`, if it ends with it. -/
def dropSuffix (suffix t : Text) : Text :=
  match Text.dropPrefix? suffix.reverse t.reverse with
  | some rest => rest.reverse
  | none => t

/-- A string literal taken apart: its prefix letters, its delimiter and its body. -/
structure StringParts where
  letters : Text
  delimiter : Text
  body : Text
  deriving DecidableEq, Repr

def isQuote (c : Char) : Bool := c = '"' || c = '\''

/-- The parts of a string literal. Without any quote, all of it is the body. -/
def stringParts (literal : Text) : StringParts :=
  let quoted := literal.dropWhile (!isQuote ·)
  if quoted.isEmpty then ⟨[], [], literal⟩
  else
    let delimiter := (delimiter? quoted).getD []
    ⟨literal.takeWhile (!isQuote ·), delimiter, dropSuffix delimiter (quoted.drop delimiter.length)⟩

/-- The cues of a string literal: its letters one by one, and its body between two delimiters. -/
def stringCues (k : Combiners) (literal : Text) : List Cue :=
  let parts := stringParts literal
  let frame := Cue.fixed (operatorWord parts.delimiter)
  parts.letters.map (fun c => .fixed (lowerChar c)) ++ [frame] ++ proseCues k parts.body ++ [frame]

/-- The cues of a comment: what follows its sign, between two signs. -/
def commentCues (k : Combiners) (comment : Text) : List Cue :=
  let frame := Cue.fixed (operatorWord ['#'])
  let body := if comment.head? = some '#' then comment.drop 1 else comment
  [frame] ++ proseCues k body ++ [frame]

end Dictation.Source
