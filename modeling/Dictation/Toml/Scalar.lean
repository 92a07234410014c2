import Dictation.Toml.Quoted
import Dictation.Toml.Table
/-!
# Numbers and times of TOML

Whole numbers in four radices within 64 bits, floating-point numbers, dates and times. Low lines may
stand between digits.
-/
namespace Dictation.Toml

def expect? (c : Char) : Text → Option Text := Text.dropPrefix? [c]

def expectOne? (cs : List Char) : Text → Option Text
  | c :: rest => if c ∈ cs then some rest else none
  | [] => none

/-- What `read` leaves, or all if it reads nothing. -/
def optional (read : Text → Option Text) (t : Text) : Text := (read t).getD t

/-- The number of exactly `n` digits, and what follows them. -/
def fixed? (n : Nat) (t : Text) : Option (Nat × Text) :=
  let ds := t.take n
  if ds.length = n && ds.all isAsciiDigit then some (numberOf 10 ds, t.drop n) else none

/-- What follows two digits with a number between two others. -/
def within? (least most : Nat) (t : Text) : Option Text := do
  let (n, rest) ← fixed? 2 t
  if least ≤ n && n ≤ most then rest else none

def isLeapYear (year : Nat) : Bool := year % 4 = 0 && (year % 100 ≠ 0 || year % 400 = 0)

def daysOf (year month : Nat) : Nat :=
  if month = 2 then (if isLeapYear year then 29 else 28)
  else if month ∈ [4, 6, 9, 11] then 30
  else 31

def date? (t : Text) : Option Text := do
  let (year, t) ← fixed? 4 t
  let (month, t) ← fixed? 2 (← expect? '-' t)
  if month < 1 || 12 < month then none
  within? 1 (daysOf year month) (← expect? '-' t)

/-- What follows the decimal places of a second. -/
def places? (t : Text) : Option Text := do
  let t ← expect? '.' t
  if (t.takeWhile isAsciiDigit).isEmpty then none else some (t.dropWhile isAsciiDigit)

/-- What follows a time of day. A minute may have a leap second. -/
def time? (t : Text) : Option Text := do
  let t ← within? 0 59 (← expect? ':' (← within? 0 23 t))
  return optional places? (← within? 0 60 (← expect? ':' t))

/-- What follows a difference from universal time. -/
def offset? (t : Text) : Option Text :=
  (expectOne? ['Z', 'z'] t).or do
    let t ← within? 0 23 (← expectOne? ['+', '-'] t)
    within? 0 59 (← expect? ':' t)

/-- What follows the time of day behind a date. -/
def timeOfDay? (t : Text) : Option Text := do
  return optional offset? (← time? (← expectOne? ['T', 't', ' '] t))

/-- What follows a date, a time of day, or both. -/
def moment? (t : Text) : Option Text :=
  match date? t with
  | some rest => some (optional timeOfDay? rest)
  | none => time? t

/-- What follows more digits, with single low lines between them. -/
def skipDigits (p : Char → Bool) : Text → Text
  | '_' :: c :: rest => if p c then skipDigits p rest else '_' :: c :: rest
  | c :: rest => if p c then skipDigits p rest else c :: rest
  | [] => []

def digits? (p : Char → Bool) : Text → Option Text
  | c :: rest => if p c then some (skipDigits p rest) else none
  | [] => none

def sign? : Text → Option Text := expectOne? ['+', '-']

/-- What follows a whole decimal number. A leading zero stands alone. -/
def whole? (t : Text) : Option Text :=
  match optional sign? t with
  | '0' :: rest => some rest
  | t => digits? isAsciiDigit t

def fraction? (t : Text) : Option Text := do digits? isAsciiDigit (← expect? '.' t)

def exponent? (t : Text) : Option Text := do
  digits? isAsciiDigit (optional sign? (← expectOne? ['e', 'E'] t))

/-- What follows a number with a fraction, an exponent, or both. -/
def decimal? (t : Text) : Option Text := do
  let t ← whole? t
  match fraction? t with
  | some rest => return optional exponent? rest
  | none => exponent? t

/-- What follows infinity or the value that is no number. -/
def special? (t : Text) : Option Text :=
  let t := optional sign? t
  (Text.dropPrefix? "inf" t).or (Text.dropPrefix? "nan" t)

def signedNumber (t : Text) : Int :=
  let n := numberOf 10 (t.filter isAsciiDigit)
  if t.head? = some '-' then -n else n

/-- The least number that no floating-point number of 64 bits comes close to. -/
def tooLarge : Nat := 1 <<< 1024 - 1 <<< 970

/-- Whether `n` times ten to the power of `e` is too large for a floating-point number. The number of
digits decides wherever it can. -/
def exceedsFloat (n : Nat) (e : Int) : Bool :=
  if n = 0 then false
  else
    let size := (Nat.toDigits 10 n).length + e
    if 400 < size then true
    else if size < 300 then false
    else tooLarge * Nat.pow 10 (-e).toNat ≤ n * Nat.pow 10 e.toNat

/-- Whether the decimal number in a text is too large for a floating-point number. -/
def overflows (t : Text) : Bool :=
  let significant := t.takeWhile fun c => c ≠ 'e' && c ≠ 'E'
  let places := ((significant.dropWhile (· ≠ '.')).filter isAsciiDigit).length
  let e := signedNumber (t.drop (significant.length + 1))
  exceedsFloat (numberOf 10 (significant.filter isAsciiDigit)) (e - places)

/-- The part of a text in front of what follows it. -/
def readPart (t rest : Text) : Text := t.take (t.length - rest.length)

/-- A floating-point number, and what follows it. A positive number must not be too large. -/
def float? (t : Text) : Option (Item × Text) :=
  match decimal? t with
  | some rest =>
    let n := readPart t rest
    if n.head? ≠ some '-' && overflows n then none else some (.float n, rest)
  | none => (special? t).map fun rest => (.float (readPart t rest), rest)

def int64? (n : Int) : Option Item :=
  if Int64.minValue.toInt ≤ n && n ≤ Int64.maxValue.toInt then some (.integer n) else none

/-- A whole number behind the prefix of its radix, and what follows it. -/
def radixInteger? (radix : Nat) (t : Text) : Option (Item × Text) := do
  let rest ← digits? (fun c => (hexValue? c).any (· < radix)) t
  return (← int64? (numberOf radix ((readPart t rest).filter (· ≠ '_'))), rest)

def integer? : Text → Option (Item × Text)
  | '0' :: 'x' :: rest => radixInteger? 16 rest
  | '0' :: 'o' :: rest => radixInteger? 8 rest
  | '0' :: 'b' :: rest => radixInteger? 2 rest
  | t => do
    let rest ← whole? t
    return (← int64? (signedNumber (readPart t rest)), rest)

/-- A value without parts, and what follows it. -/
def scalar? (t : Text) : Option (Item × Text) :=
  if t.head? ∈ [some '"', some '\''] then (readString? t).map fun (s, rest) => (.string s, rest)
  else
    match Text.dropPrefix? "true" t, Text.dropPrefix? "false" t, moment? t with
    | some rest, _, _ => some (.boolean true, rest)
    | _, some rest, _ => some (.boolean false, rest)
    | _, _, some rest => some (.moment (readPart t rest), rest)
    | _, _, none => (float? t).or (integer? t)

end Dictation.Toml
