import Dictation.Text.Digit
/-!
# Numbers in source text

Whole numbers in four radices, decimal fractions with an exponent, and an imaginary unit. Low lines
may stand between digits.
-/
namespace Dictation.Source

open Unicode

/-- Decimal digits of all scripts, as of Unicode 16. -/
def isDecimalDigit (c : Char) : Bool :=
  GeneralCategory.decimalNumber.contains c && !Span.mem since17Spans c.toNat

def isHexDigit (c : Char) : Bool := (hexValue? c).isSome

/-- The digits that the letter after a leading zero announces. -/
def radixDigit? (letter : Char) : Option (Char → Bool) :=
  if letter ∈ ['x', 'X'] then some isHexDigit
  else if letter ∈ ['o', 'O'] then some fun c => '0' ≤ c && c ≤ '7'
  else if letter ∈ ['b', 'B'] then some fun c => c = '0' || c = '1'
  else none

/-- The length of the leading digits and low lines. -/
def digitsLength (isDigit : Char → Bool) (t : Text) : Nat :=
  (t.takeWhile fun c => isDigit c || c = '_').length

def radixLength? : Text → Option Nat
  | '0' :: letter :: rest =>
    match radixDigit? letter with
    | some isDigit =>
      let n := digitsLength isDigit rest
      if n = 0 then none else some (2 + n)
    | none => none
  | _ => none

def startsWithDecimalDigit (t : Text) : Bool :=
  match t with
  | [] => false
  | c :: _ => isDecimalDigit c

/-- Length of the digits of a decimal number and of a fraction, of which one may be missing. -/
def fractionLength? : Text → Option Nat
  | '.' :: rest =>
    if startsWithDecimalDigit rest then some (1 + digitsLength isDecimalDigit rest) else none
  | t =>
    if startsWithDecimalDigit t then
      let whole := digitsLength isDecimalDigit t
      match t.drop whole with
      | '.' :: rest => some (whole + 1 + digitsLength isDecimalDigit rest)
      | _ => some whole
    else none

def exponentLength : Text → Nat
  | e :: rest =>
    if e ∈ ['e', 'E'] then
      let sign := if rest.head? ∈ [some '-', some '+'] then 1 else 0
      let digits := rest.drop sign
      if startsWithDecimalDigit digits then 1 + sign + digitsLength isDecimalDigit digits else 0
    else 0
  | [] => 0

def imaginaryLength (t : Text) : Nat := if t.head? ∈ [some 'j', some 'J'] then 1 else 0

/-- Length of the number that a text starts with. -/
def numberLength? (t : Text) : Option Nat :=
  match radixLength? t with
  | some n => some n
  | none =>
    (fractionLength? t).map fun n =>
      let n := n + exponentLength (t.drop n)
      n + imaginaryLength (t.drop n)

end Dictation.Source
