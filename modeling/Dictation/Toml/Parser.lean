import Dictation.Toml.Scalar
/-!
# Reading TOML

A document is read line by line into its table. What is not valid anywhere makes the whole document
invalid.
-/
namespace Dictation.Toml

/-- Keys have fewer parts than this, and values are nested less deeply. -/
def depthLimit : Nat := 80

def isBareKeyChar (c : Char) : Bool :=
  isAsciiDigit c || 'a' ≤ c && c ≤ 'z' || 'A' ≤ c && c ≤ 'Z' || c = '_' || c = '-'

def keyPart? (t : Text) : Option (Text × Text) :=
  if t.head? ∈ [some '"', some '\''] then readLine? t
  else
    let key := t.takeWhile isBareKeyChar
    if key.isEmpty then none else some (key, t.drop key.length)

/-- At most so many parts of a key, and what follows them. -/
def keyParts? : Nat → Text → Option (List Text × Text)
  | 0, _ => none
  | limit + 1, t => do
    let (part, rest) ← keyPart? (skipSpace t)
    match skipSpace rest with
    | '.' :: rest =>
      let (parts, rest) ← keyParts? limit rest
      return (part :: parts, rest)
    | rest => return ([part], rest)

structure Key where
  path : List Text
  name : Text

def key? (t : Text) : Option (Key × Text) := do
  let (parts, rest) ← keyParts? (depthLimit - 1) t
  return (⟨parts.dropLast, ← parts.getLast?⟩, rest)

/-- What follows spaces, ends of lines and comments; first of all the rest of a comment, if one has
begun. -/
def skipLines? (inComment : Bool) : Text → Option Text
  | '\n' :: rest => skipLines? false rest
  | '\r' :: '\n' :: rest => skipLines? false rest
  | c :: rest =>
    if inComment then (if isVisible c then skipLines? true rest else none)
    else if isSpace c then skipLines? false rest
    else if c = '#' then skipLines? true rest
    else some (c :: rest)
  | [] => if inComment then none else some []

mutual

def value? : Nat → Nat → Text → Option (Item × Text)
  | 0, _, _ => none
  | bound + 1, depth, t =>
    match depth, t with
    | 0, '[' :: _ | 0, '\x7b' :: _ => none
    | depth + 1, '[' :: rest =>
      (elements? bound depth rest).map fun (items, rest) => (.array items, rest)
    | depth + 1, '\x7b' :: rest =>
      match skipSpace rest with
      | '\x7d' :: rest => some (.inline [], rest)
      | rest => (pairs? bound depth [] rest).map fun (es, rest) => (.inline es, rest)
    | _, _ => scalar? t

/-- The items of an array up to its closing bracket, and what follows it. -/
def elements? : Nat → Nat → Text → Option (List Item × Text)
  | 0, _, _ => none
  | bound + 1, depth, t => do
    match ← skipLines? false t with
    | ']' :: rest => return ([], rest)
    | t =>
      let (item, rest) ← value? bound depth t
      match ← skipLines? false rest with
      | ']' :: rest => return ([item], rest)
      | ',' :: rest =>
        let (items, rest) ← elements? bound depth rest
        return (item :: items, rest)
      | _ => none

/-- The entries of an inline table up to its closing brace, and what follows it. -/
def pairs? : Nat → Nat → Entries → Text → Option (Entries × Text)
  | 0, _, _, _ => none
  | bound + 1, depth, es, t => do
    let (key, rest) ← key? t
    let (item, rest) ← value? bound depth (skipSpace (← expect? '=' rest))
    let es ← es.add? key.path key.name item
    match skipSpace rest with
    | '\x7d' :: rest => return (es, rest)
    | ',' :: rest => pairs? bound depth es rest
    | _ => none

end

/-- What follows a comment, if there is one, and the end of the line. -/
def lineEnd? (t : Text) : Option Text :=
  let rest := match skipSpace t with
    | '#' :: comment => comment.dropWhile isVisible
    | t => t
  if rest.isEmpty then some [] else newline? rest

/-- A header behind its opening brackets, and what follows it. -/
def header? (closing : Text) (t : Text) : Option (Key × Text) := do
  let (key, rest) ← key? t
  return (key, ← lineEnd? (← Text.dropPrefix? closing rest))

/-- A key with its value, and what follows the line. -/
def assignment? (t : Text) : Option (Key × Item × Text) := do
  let (key, rest) ← key? t
  let t := skipSpace (← expect? '=' rest)
  let (item, rest) ← value? (2 * t.length + 2) (depthLimit - 1) t
  return (key, item, ← lineEnd? rest)

/-- The document that goes on with the given lines. -/
def lines? : Nat → Document → Text → Option Document
  | 0, _, _ => none
  | bound + 1, d, t =>
    match skipSpace t with
    | [] => some d
    | '#' :: rest => do lines? bound d (← lineEnd? ('#' :: rest))
    | '[' :: '[' :: rest => do
      let (key, rest) ← header? "]]" rest
      lines? bound (← d.begin? true key.path key.name) rest
    | '[' :: rest => do
      let (key, rest) ← header? "]" rest
      lines? bound (← d.begin? false key.path key.name) rest
    | t =>
      match newline? t with
      | some rest => lines? bound d rest
      | none => do
        let (key, item, rest) ← assignment? t
        lines? bound (← d.add? key.path key.name item) rest

/-- The entries of a document. It may start with a byte order mark. -/
def parse? (t : Text) : Option Entries :=
  let t := (Text.dropPrefix? ['\ufeff'] t).getD t
  (lines? (t.length + 1) .empty t).map (·.entries)

end Dictation.Toml
