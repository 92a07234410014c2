import Dictation.Text.Utf8
/-!
# String literals

A string literal has up to two prefix letters, an opening delimiter, a body and the same delimiter
again. A backslash keeps the next character from ending it. Where a body ends is found as a byte.
-/
namespace Dictation.Source

/-- The delimiters of string literals, the longer ones first. -/
def delimiters : List Text := ["\"\"\"", "'''", "\"", "'"]

def delimiter? (t : Text) : Option Text := delimiters.find? (·.isPrefixOf t)

def isStringPrefix (c : Char) : Bool :=
  c ∈ ['r', 'b', 'u', 'f', 'R', 'B', 'U', 'F']

/-- The number of prefix letters and the delimiter that begin a string literal. -/
def stringStart? (t : Text) : Option (Nat × Text) :=
  let letters := ((t.take 2).takeWhile isStringPrefix).length
  (delimiter? (t.drop letters)).map fun d => (letters, d)

/-- The byte at which a string body with its closing delimiter ends, where the text begins at the byte
`n`. A body in a single-character delimiter ends before a newline at the latest. -/
def endOfBody (delimiter : Text) (escaped : Bool) (n : Nat) : Text → Nat
  | [] => n
  | c :: rest =>
    if escaped then endOfBody delimiter false (n + c.utf8Size) rest
    else if c = '\\' then endOfBody delimiter true (n + c.utf8Size) rest
    else if c = '\n' && delimiter.byteSize ≠ 3 then n
    else if delimiter.isPrefixOf (c :: rest) then n + delimiter.byteSize
    else endOfBody delimiter false (n + c.utf8Size) rest

/-- The number of bytes of the string body that a text starts with, closing delimiter included. -/
def bodySize (delimiter t : Text) : Nat := endOfBody delimiter false 0 t

/-- Length of the string literal that a text starts with. There is none where the body would end
inside a character. -/
def stringLength? (t : Text) : Option Nat := do
  let (letters, d) ← stringStart? t
  let rest : Text := t.drop (letters + d.length)
  let (body, _) ← rest.splitAtByte? (bodySize d rest)
  return letters + d.length + body.length

end Dictation.Source
