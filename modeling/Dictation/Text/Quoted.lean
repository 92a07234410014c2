import Dictation.Text.Basic
/-!
# Quoted text

Texts and characters in quotes, as messages show them. A character that could not be seen, or that
would attach itself to the one before it, is written by its code point.
-/
namespace Dictation.Text

open Unicode

/-- A character inside quotes made with the character `quote`. -/
def escapeChar (quote : Char) (c : Char) : Text :=
  if c = '\x00' then "\\0"
  else if c = '\t' then "\\t"
  else if c = '\r' then "\\r"
  else if c = '\n' then "\\n"
  else if c = '\\' then "\\\\"
  else if c = quote then ['\\', quote]
  else if isExtending c || !isPrintable c then
    "\\u\x7b".toList ++ Nat.toDigits 16 c.toNat ++ ['\x7d']
  else [c]

def quoted (t : Text) : Text := '"' :: t.flatMap (escapeChar '"') ++ ['"']

def quotedChar (c : Char) : Text := '\'' :: escapeChar '\'' c ++ ['\'']

end Dictation.Text
