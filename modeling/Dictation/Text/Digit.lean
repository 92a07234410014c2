import Dictation.Text.Basic
/-!
# ASCII digits

Decimal and hexadecimal digits, and the numbers and characters that they stand for.
-/
namespace Dictation

def isAsciiDigit (c : Char) : Bool := '0' ≤ c && c ≤ '9'

def hexValue? (c : Char) : Option Nat :=
  if isAsciiDigit c then some (c.toNat - '0'.toNat)
  else if 'a' ≤ c && c ≤ 'f' then some (c.toNat - 'a'.toNat + 10)
  else if 'A' ≤ c && c ≤ 'F' then some (c.toNat - 'A'.toNat + 10)
  else none

def hexNumber? (ds : Text) : Option Nat :=
  ds.foldlM (fun n d => (hexValue? d).map (16 * n + ·)) 0

/-- The value of digits in a radix of at most sixteen; other characters count as nothing. -/
def numberOf (radix : Nat) (ds : Text) : Nat :=
  ds.foldl (fun n d => radix * n + (hexValue? d).getD 0) 0

/-- The character with a code point, if there is one. -/
def charOf? (n : Nat) : Option Char :=
  if n.isValidChar then some (Char.ofNat n) else none

end Dictation
