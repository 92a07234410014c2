import Dictation.Text.Digit
import Dictation.Unicode.Name
/-!
# Spoken numerals

A number is spoken character by character.
-/
namespace Dictation

open Unicode

/-- What is said for a character of a number. Upper-case hexadecimal digits are two words. -/
def numeralWords? (c : Char) : Option (List Text) :=
  match c with
  | '0' => some ["zero"]
  | '1' => some ["one"]
  | '2' => some ["two"]
  | '3' => some ["three"]
  | '4' => some ["four"]
  | '5' => some ["five"]
  | '6' => some ["six"]
  | '7' => some ["seven"]
  | '8' => some ["eight"]
  | '9' => some ["nine"]
  | 'a' => some ["a"]
  | 'b' => some ["b"]
  | 'c' => some ["c"]
  | 'd' => some ["d"]
  | 'e' => some ["e"]
  | 'f' => some ["f"]
  | 'A' => some ["cap", "a"]
  | 'B' => some ["cap", "b"]
  | 'C' => some ["cap", "c"]
  | 'D' => some ["cap", "d"]
  | 'E' => some ["cap", "e"]
  | 'F' => some ["cap", "f"]
  | 'x' | 'X' => some ["x"]
  | '-' => some ["minus"]
  | '+' => some ["plus"]
  | '.' => some ["dot"]
  | _ => none

/-- A character that cannot be spoken as part of a number. -/
structure UnmappedNumeral where
  char : Char
  deriving DecidableEq, Repr

/-- Whether a text can be spoken as a number. -/
def isSpellable (t : Text) : Bool := !t.isEmpty && t.all fun c => (numeralWords? c).isSome

/-- The words of a number; the first character without words is an error. -/
def numberWords : Text → Except UnmappedNumeral (List Text)
  | [] => .ok []
  | c :: rest =>
    match numeralWords? c with
    | none => .error ⟨c⟩
    | some ws =>
      match numberWords rest with
      | .ok more => .ok (ws ++ more)
      | .error e => .error e

/-- The word for a digit: its numeral, else its name, else the character itself. -/
def digitWord (c : Char) : Text :=
  match isAsciiDigit c, numeralWords? c with
  | true, some ws => ws.flatten
  | _, _ => (spokenName? c).getD [c]

def spellDigits (t : Text) : List Text := t.map digitWord

end Dictation
