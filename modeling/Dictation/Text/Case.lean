import Dictation.Unicode.CaseTable
import Dictation.Text.Basic
/-!
# Letter case of texts

Lower-case, upper-case and title-case forms. A letter may become several, and a capital sigma
becomes a final one at the end of a word.
-/
namespace Dictation

open Unicode

/-- The lower-case form of a character outside any context. -/
def lowerChar (c : Char) : Text :=
  match Shift.moved? lowerShifts c.toNat with
  | some n => [Char.ofNat n]
  | none => if c = '\u0130' then ['i', '\u0307'] else [c]

def upperChar (c : Char) : Text :=
  match Shift.moved? upperShifts c.toNat with
  | some n => [Char.ofNat n]
  | none =>
    match upperExpansions.lookup c.toNat with
    | some ns => ns.map Char.ofNat
    | none => [c]

namespace Text

/-- Whether the first character that casing does not ignore is cased. -/
def meetsCased (t : Text) : Bool :=
  match t.dropWhile isCaseIgnorable with
  | [] => false
  | c :: _ => isCased c

/-- Lower case, with the characters already passed in reverse order. -/
def lowerAfter : Text → Text → Text
  | _, [] => []
  | before, c :: rest =>
    (if c = 'Σ' then (if meetsCased before && !meetsCased rest then ['ς'] else ['σ'])
      else lowerChar c) ++ lowerAfter (c :: before) rest

/-- Whether a character is of ASCII and no capital. -/
def isPlain (c : Char) : Bool := c.toNat < 0x80 && !('A' ≤ c && c ≤ 'Z')

/-- The lower-case form of a text. Plain text, by far the most common, is left alone, and only a
capital sigma asks for its surroundings. -/
def lower (t : Text) : Text :=
  if t.all isPlain then t
  else if t.contains 'Σ' then lowerAfter [] t
  else t.flatMap lowerChar

def upper (t : Text) : Text := t.flatMap upperChar

/-- The first character in upper case and the others in lower case. -/
def title : Text → Text
  | [] => []
  | c :: rest => upperChar c ++ rest.flatMap lowerChar

end Text

end Dictation
