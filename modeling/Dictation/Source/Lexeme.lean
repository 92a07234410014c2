import Dictation.Text.Basic
/-!
# Lexemes

The units of source text: names, numbers, strings and so on, and the markers of its layout.
-/
namespace Dictation.Source

inductive Kind where
  | operator
  | name
  | number
  | string
  | comment
  | newline
  | indent
  | dedent
  deriving DecidableEq, Repr

structure Lexeme where
  kind : Kind
  text : Text
  deriving DecidableEq, Repr

/-- A slice of source text: a lexeme, or a gap that means nothing. -/
inductive Slice where
  | lexeme (l : Lexeme)
  | gap (t : Text)
  deriving DecidableEq, Repr

namespace Slice

def text : Slice → Text
  | lexeme l => l.text
  | gap t => t

def lexeme? : Slice → Option Lexeme
  | lexeme l => some l
  | gap _ => none

end Slice

end Dictation.Source
