import Dictation.Source.Lexeme
import Dictation.Source.Numeral
import Dictation.Source.StringLiteral
/-!
# Reading source text

Source text is cut into lexemes and gaps, whose concatenation is the text. Indentation is measured
at the start of a line outside brackets; a blank line or a line with nothing but a comment has none.
-/
namespace Dictation.Source

open Unicode

/-- Where the reading of a source stands. -/
structure Place where
  /-- Open brackets. -/
  depth : Nat
  /-- The columns of the open blocks, the innermost first. -/
  indents : List Nat
  /-- Whether the line has lexemes so far. -/
  lineOpen : Bool
  /-- Whether indentation is still to be measured. -/
  lineStart : Bool
  deriving DecidableEq, Repr

namespace Place

def initial : Place := ⟨0, [], false, true⟩

def column (p : Place) : Nat := p.indents.headD 0

end Place

def isIndentation (c : Char) : Bool := c = ' ' || c = '\t' || c = '\x0c'

/-- The column after some indentation. Tabs go to the next multiple of eight, and a form feed goes
back to the start. -/
def columnAfter (column : Nat) : Text → Nat
  | [] => column
  | c :: rest =>
    columnAfter (if c = '\t' then (column / 8 + 1) * 8 else if c = '\x0c' then 0 else column + 1) rest

/-- Whether a line whose indentation is gone has no layout of its own. -/
def isLayoutFree : Text → Bool
  | [] => true
  | c :: _ => c = '\n' || c = '\r' || c = '#'

def dedent : Slice := .lexeme ⟨.dedent, []⟩

/-- The blocks that a line at the given column leaves open, and how many it closes. -/
def closeBlocks (column : Nat) : List Nat → List Nat × Nat
  | [] => ([], 0)
  | top :: rest =>
    if column < top then
      let (kept, closed) := closeBlocks column rest
      (kept, closed + 1)
    else (top :: rest, 0)

/-- The slices of an indentation `blanks` in front of a line, and the place after it. -/
def layoutSlices (p : Place) (blanks line : Text) : List Slice × Place :=
  let p := { p with lineStart := false }
  let column := columnAfter 0 blanks
  if isLayoutFree line then ([.gap blanks], p)
  else if p.column < column then
    ([.lexeme ⟨.indent, blanks⟩], { p with indents := column :: p.indents })
  else
    let (indents, closed) := closeBlocks column p.indents
    (List.replicate closed dedent ++ [.gap blanks], { p with indents })

/-- Operators of several characters, the longer ones first. -/
def longOperators : List Text := [
  "**=", "//=", ">>=", "<<=", "...", "->", ":=", "**", "//", "==", "!=", "<=", ">=", "<<", ">>",
  "+=", "-=", "*=", "/=", "%=", "&=", "|=", "^=", "@="]

/-- Length of the operator that a text starts with; any character is one. -/
def operatorLength (t : Text) : Nat :=
  match longOperators.find? (·.isPrefixOf t) with
  | some op => op.length
  | none => 1

/-- Characters of Unicode 16 in one of the categories. -/
def isListed (gs : List GeneralCategory) (c : Char) : Bool :=
  isIn gs c && !Span.mem since17Spans c.toNat

def isNameStart (c : Char) : Bool :=
  c = '_' || isListed (.letterNumber :: GeneralCategory.letters) c

def isNameChar (c : Char) : Bool :=
  isNameStart c ||
    isListed [.nonspacingMark, .spacingMark, .decimalNumber, .connectorPunctuation] c

/-- Whether a number begins here: with a digit, or with a point before one. -/
def startsNumber : Text → Bool
  | '.' :: c :: _ => '0' ≤ c && c ≤ '9'
  | c :: _ => '0' ≤ c && c ≤ '9'
  | [] => false

def nameLength (t : Text) : Nat := (t.takeWhile isNameChar).length

/-- The kind and length of the lexeme that a text starts with. -/
def lexemeAt (t : Text) : Kind × Nat :=
  match stringLength? t with
  | some n => (.string, n)
  | none =>
    match startsNumber t, numberLength? t with
    | true, some n => (.number, n)
    | _, _ =>
      if t.head?.any isNameStart then (.name, nameLength t) else (.operator, operatorLength t)

def depthAfter (op : Text) (depth : Nat) : Nat :=
  match op with
  | ['('] | ['['] | ['\x7b'] => depth + 1
  | [')'] | [']'] | ['\x7d'] => depth - 1
  | _ => depth

def isSpacing (c : Char) : Bool := isIndentation c || c = '\r'

/-- What a text starts with within a line: some slices, how many characters they hold after the
first one, and the place after them. -/
def lineStep (p : Place) (c : Char) (rest : Text) : List Slice × Nat × Place :=
  if isSpacing c then ([.gap [c]], 0, p)
  else if c = '\\' && rest.head? = some '\n' then ([.gap ['\\', '\n']], 1, p)
  else if c = '\\' && ("\r\n".toList).isPrefixOf rest then ([.gap ['\\', '\r', '\n']], 2, p)
  else if c = '\n' then
    if p.depth = 0 then
      (if p.lineOpen then [.lexeme ⟨.newline, [c]⟩] else [.gap [c]], 0,
        { p with lineOpen := false, lineStart := true })
    else ([.gap [c]], 0, p)
  else if c = '#' then
    let line := rest.takeWhile (· ≠ '\n')
    let body := Text.dropEndWhile (· = '\r') line
    ([.lexeme ⟨.comment, c :: body⟩, .gap (line.drop body.length)], line.length,
      { p with lineOpen := true })
  else
    let (kind, n) := lexemeAt (c :: rest)
    let text := (c :: rest).take n
    ([.lexeme ⟨kind, text⟩], n - 1,
      { p with
        depth := if kind = .operator then depthAfter text p.depth else p.depth
        lineOpen := true })

/-- The slices that the end of the source closes. -/
def finish (p : Place) : List Slice :=
  (if p.lineOpen then [.lexeme ⟨.newline, []⟩] else []) ++ List.replicate p.indents.length dedent

/-- The indentation at the start of a line, if it is to be measured here. -/
def lineIndent (p : Place) (t : Text) : Text :=
  if p.lineStart then t.takeWhile isIndentation else []

/-- The indentation slices in front of a text and the place after them. -/
def enterLine (p : Place) (t : Text) : List Slice × Place :=
  if p.lineStart && t ≠ [] then layoutSlices p (lineIndent p t) (t.drop (lineIndent p t).length)
  else ([], p)

theorem length_lt_of_drop_eq {t rest : Text} {n : Nat} {c : Char} (h : t.drop n = c :: rest) :
    rest.length < t.length := by
  have := congrArg List.length h
  simp only [List.length_drop, List.length_cons] at this
  omega

/-- The slices of a source from a given place on. -/
def slicesFrom (p : Place) (t : Text) : List Slice :=
  match h : t.drop (lineIndent p t).length with
  | [] => (enterLine p t).1 ++ finish (enterLine p t).2
  | c :: rest =>
    have := length_lt_of_drop_eq h
    let (slices, n, next) := lineStep (enterLine p t).2 c rest
    (enterLine p t).1 ++ slices ++ slicesFrom next (rest.drop n)
  termination_by t.length
  decreasing_by simp only [List.length_drop]; omega

def slices (t : Text) : List Slice := slicesFrom .initial t

def lexemes (t : Text) : List Lexeme := (slices t).filterMap Slice.lexeme?

end Dictation.Source
