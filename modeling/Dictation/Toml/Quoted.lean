import Dictation.Text.Digit
/-!
# Quoted strings of TOML

Strings in double quotes have escapes, strings in single quotes have none. Between three quotes a
string goes over several lines, each of which ends in a plain newline.
-/
namespace Dictation.Toml

def isSpace (c : Char) : Bool := c = ' ' || c = '\t'

def skipSpace (t : Text) : Text := t.dropWhile isSpace

/-- Whether a character may stand in a comment or, but for quotes and backslashes, in a string. -/
def isVisible (c : Char) : Bool := c = '\t' || ' ' ≤ c && c ≠ '\x7f'

def newline? : Text → Option Text
  | '\n' :: rest => some rest
  | '\r' :: '\n' :: rest => some rest
  | _ => none

def skipBlank : Text → Text
  | '\n' :: rest => skipBlank rest
  | '\r' :: '\n' :: rest => skipBlank rest
  | c :: rest => if isSpace c then skipBlank rest else c :: rest
  | [] => []

/-- The character with the code point in the first `n` characters, and what follows them. -/
def codePoint? (n : Nat) (t : Text) : Option (Char × Text) := do
  if t.length < n then none
  return (← (hexNumber? (t.take n)).bind charOf?, t.drop n)

/-- The character of an escape behind its backslash, and what follows it. -/
def escape? : Text → Option (Char × Text)
  | 'b' :: rest => some ('\x08', rest)
  | 't' :: rest => some ('\t', rest)
  | 'n' :: rest => some ('\n', rest)
  | 'f' :: rest => some ('\x0c', rest)
  | 'r' :: rest => some ('\r', rest)
  | '"' :: rest => some ('"', rest)
  | '\\' :: rest => some ('\\', rest)
  | 'u' :: rest => codePoint? 4 rest
  | 'U' :: rest => codePoint? 8 rest
  | _ => none

/-- A string behind its opening double quote, and what follows it. -/
def basic? : Nat → Text → Option (Text × Text)
  | 0, _ => none
  | bound + 1, t =>
    match t with
    | [] => none
    | '"' :: rest => some ([], rest)
    | '\\' :: rest => do
      let (c, rest) ← escape? rest
      let (s, rest) ← basic? bound rest
      return (c :: s, rest)
    | c :: rest => do
      if !isVisible c then none
      let (s, rest) ← basic? bound rest
      return (c :: s, rest)

/-- A string behind its opening single quote, and what follows it. -/
def literal? : Text → Option (Text × Text)
  | [] => none
  | c :: rest =>
    if c = '\'' then some ([], rest)
    else if isVisible c then (literal? rest).map fun (s, rest) => (c :: s, rest)
    else none

/-- What follows a backslash that joins lines. -/
def joinedLine? (t : Text) : Option Text := (newline? (skipSpace t)).map skipBlank

/-- A string behind its three opening quotes, and what follows it. Up to two more quotes may stand in
front of the closing ones. -/
def long? (quote : Char) (escapes : Bool) : Nat → Text → Option (Text × Text)
  | 0, _ => none
  | bound + 1, t =>
    let quotes := t.takeWhile (· = quote)
    if 3 ≤ quotes.length then
      if quotes.length ≤ 5 then some (quotes.drop 3, t.drop quotes.length) else none
    else
      match newline? t with
      | some rest => (long? quote escapes bound rest).map fun (s, rest) => ('\n' :: s, rest)
      | none =>
        match t with
        | [] => none
        | c :: rest =>
          if escapes && c = '\\' then
            match joinedLine? rest with
            | some rest => long? quote escapes bound rest
            | none => do
              let (c, rest) ← escape? rest
              let (s, rest) ← long? quote escapes bound rest
              return (c :: s, rest)
          else if isVisible c then
            (long? quote escapes bound rest).map fun (s, rest) => (c :: s, rest)
          else none

/-- A string on one line, and what follows it. -/
def readLine? : Text → Option (Text × Text)
  | '"' :: rest => basic? (rest.length + 1) rest
  | '\'' :: rest => literal? rest
  | _ => none

/-- A text without the end of a line that it starts with. -/
def dropNewline (t : Text) : Text := (newline? t).getD t

def readString? : Text → Option (Text × Text)
  | '"' :: '"' :: '"' :: rest => long? '"' true (rest.length + 1) (dropNewline rest)
  | '\'' :: '\'' :: '\'' :: rest => long? '\'' false (rest.length + 1) (dropNewline rest)
  | t => readLine? t

end Dictation.Toml
