import Dictation.Text.Basic
/-!
# JSON values

Values of JSON and how they are printed. A number is kept as it was written, and the fields of an
object keep their order. The printed form is compact: no white space, and escapes only where a string
needs them.
-/
namespace Dictation

inductive Json where
  | null
  | bool (b : Bool)
  | number (t : Text)
  | string (t : Text)
  | array (vs : List Json)
  | object (fields : List (Text × Json))
  deriving Repr, Inhabited

namespace Json

def string? : Json → Option Text
  | string t => some t
  | _ => none

def bool? : Json → Option Bool
  | bool b => some b
  | _ => none

def array? : Json → Option (List Json)
  | array vs => some vs
  | _ => none

def strings? (v : Json) : Option (List Text) := v.array?.bind (·.mapM string?)

def strings (ts : List Text) : Json := array (ts.map string)

def hexPair (n : Nat) : Text := [Nat.digitChar (n / 16), Nat.digitChar (n % 16)]

def escapeChar (c : Char) : Text :=
  if c = '"' then "\\\""
  else if c = '\\' then "\\\\"
  else if c = '\x08' then "\\b"
  else if c = '\x0c' then "\\f"
  else if c = '\n' then "\\n"
  else if c = '\r' then "\\r"
  else if c = '\t' then "\\t"
  else if c.toNat < 0x20 then "\\u00".toList ++ hexPair c.toNat
  else [c]

def printString (t : Text) : Text := '"' :: t.flatMap escapeChar ++ ['"']

mutual

def print : Json → Text
  | null => "null"
  | bool b => if b then "true" else "false"
  | number t => t
  | string t => printString t
  | array vs => '[' :: Text.join [','] (printElements vs) ++ [']']
  | object fields => '\x7b' :: Text.join [','] (printFields fields) ++ ['\x7d']

def printElements : List Json → List Text
  | [] => []
  | v :: vs => v.print :: printElements vs

def printFields : List (Text × Json) → List Text
  | [] => []
  | (k, v) :: fields => (printString k ++ ':' :: v.print) :: printFields fields

end

end Json

end Dictation
