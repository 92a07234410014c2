import Dictation.Json.Value
import Dictation.Text.Digit
/-!
# Reading JSON

A strict reader: no comments, no trailing commas, no control characters inside strings, and escapes
outside the basic plane only as pairs.
-/
namespace Dictation.Json

def isSpace (c : Char) : Bool := c = ' ' || c = '\n' || c = '\t' || c = '\r'

def skipSpace (t : Text) : Text := t.dropWhile isSpace

/-- The 16-bit unit that four hexadecimal digits stand for, and what follows them. -/
def unit? : Text → Option (Nat × Text)
  | a :: b :: c :: d :: rest => do
    return (← hexNumber? [a, b, c, d], rest)
  | _ => none

/-- The character behind the letter of a code point escape, of which a surrogate needs another one.
What follows it comes with it. -/
def codePoint? (t : Text) : Option (Char × Text) := do
  let (high, rest) ← unit? t
  if high < 0xD800 || 0xE000 ≤ high then return (Char.ofNat high, rest)
  if 0xDC00 ≤ high then none
  let (low, rest) ← unit? (← Text.dropPrefix? ['\\', 'u'] rest)
  if low < 0xDC00 || 0xE000 ≤ low then none
  return (Char.ofNat (0x10000 + (high - 0xD800) * 0x400 + (low - 0xDC00)), rest)

def simpleEscape? (c : Char) : Option Char :=
  match c with
  | '"' => some '"'
  | '\\' => some '\\'
  | '/' => some '/'
  | 'b' => some '\x08'
  | 'f' => some '\x0c'
  | 'n' => some '\n'
  | 'r' => some '\r'
  | 't' => some '\t'
  | _ => none

/-- A string behind its opening quote, and what follows it. -/
def string?From : Nat → Text → Option (Text × Text)
  | 0, _ => none
  | bound + 1, t =>
    match t with
    | [] => none
    | '"' :: rest => some ([], rest)
    | '\\' :: 'u' :: rest => do
      let (c, rest) ← codePoint? rest
      let (s, rest) ← string?From bound rest
      return (c :: s, rest)
    | '\\' :: c :: rest => do
      let c ← simpleEscape? c
      let (s, rest) ← string?From bound rest
      return (c :: s, rest)
    | c :: rest => do
      if c = '\\' || c.toNat < 0x20 then none
      let (s, rest) ← string?From bound rest
      return (c :: s, rest)

def readString? (t : Text) : Option (Text × Text) := string?From (t.length + 1) t

/-- The length of the digits at the start of a text, if there are any. -/
def digits? (t : Text) : Option Nat :=
  let n := (t.takeWhile isAsciiDigit).length
  if n = 0 then none else some n

def wholeLength? : Text → Option Nat
  | '0' :: _ => some 1
  | t => digits? t

/-- The length of a fraction; none is a fraction of length 0. -/
def fractionLength? : Text → Option Nat
  | '.' :: rest => (digits? rest).map (· + 1)
  | _ => some 0

/-- The length of an exponent; none is an exponent of length 0. -/
def exponentLength? : Text → Option Nat
  | e :: rest =>
    if e = 'e' || e = 'E' then
      let sign := if rest.head? ∈ [some '-', some '+'] then 1 else 0
      (digits? (rest.drop sign)).map (· + 1 + sign)
    else some 0
  | [] => some 0

/-- A number as it is written, and what follows it. -/
def readNumber? (t : Text) : Option (Text × Text) := do
  let sign := if t.head? = some '-' then 1 else 0
  let whole := sign + (← wholeLength? (t.drop sign))
  let fraction := whole + (← fractionLength? (t.drop whole))
  let n := fraction + (← exponentLength? (t.drop fraction))
  return (t.take n, t.drop n)

mutual

def value? : Nat → Text → Option (Json × Text)
  | 0, _ => none
  | bound + 1, t =>
    match skipSpace t with
    | [] => none
    | '"' :: rest => (readString? rest).map fun (s, rest) => (string s, rest)
    | '[' :: rest =>
      match skipSpace rest with
      | ']' :: rest => some (array [], rest)
      | rest => (elements? bound rest).map fun (vs, rest) => (array vs, rest)
    | '\x7b' :: rest =>
      match skipSpace rest with
      | '\x7d' :: rest => some (object [], rest)
      | rest => (members? bound rest).map fun (fields, rest) => (object fields, rest)
    | c :: rest =>
      match c with
      | 'n' => (Text.dropPrefix? "ull".toList rest).map fun rest => (null, rest)
      | 't' => (Text.dropPrefix? "rue".toList rest).map fun rest => (bool true, rest)
      | 'f' => (Text.dropPrefix? "alse".toList rest).map fun rest => (bool false, rest)
      | _ => (readNumber? (c :: rest)).map fun (n, rest) => (number n, rest)

/-- The elements of an array up to its closing bracket, and what follows it. -/
def elements? : Nat → Text → Option (List Json × Text)
  | 0, _ => none
  | bound + 1, t => do
    let (v, rest) ← value? bound t
    match skipSpace rest with
    | ']' :: rest => return ([v], rest)
    | ',' :: rest =>
      let (vs, rest) ← elements? bound rest
      return (v :: vs, rest)
    | _ => none

/-- The fields of an object up to its closing brace, and what follows it. -/
def members? : Nat → Text → Option (List (Text × Json) × Text)
  | 0, _ => none
  | bound + 1, t => do
    let (k, rest) ← readString? (← Text.dropPrefix? ['"'] (skipSpace t))
    let (v, rest) ← value? bound (← Text.dropPrefix? [':'] (skipSpace rest))
    match skipSpace rest with
    | '\x7d' :: rest => return ([(k, v)], rest)
    | ',' :: rest =>
      let (fields, rest) ← members? bound rest
      return ((k, v) :: fields, rest)
    | _ => none

end

def parse? (t : Text) : Option Json := do
  let (v, rest) ← value? (2 * t.length + 2) t
  if (skipSpace rest).isEmpty then return v else none

end Dictation.Json
