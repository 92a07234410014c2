import Dictation.Unicode.Property
/-!
# Text

A text is a list of characters. String literals are read as texts where a text is expected.
-/
namespace Dictation

abbrev Text := List Char

instance : Coe String Text := ⟨String.toList⟩

/-- Texts are compared character by character. -/
instance (priority := high) lawfulBEqText : LawfulBEq Text := List.instLawfulBEq

instance (priority := high) lawfulBEqOptionChar : LawfulBEq (Option Char) :=
  Option.instLawfulBEq Char

namespace Text

open Unicode

def trimStart (t : Text) : Text := t.dropWhile isBlank

def trimEnd (t : Text) : Text := (t.reverse.dropWhile isBlank).reverse

/-- The text without white space at either end. -/
def trim (t : Text) : Text := t.trimStart.trimEnd

/-- The text without the character `c` at either end. -/
def trimOf (c : Char) (t : Text) : Text :=
  ((t.dropWhile (· == c)).reverse.dropWhile (· == c)).reverse

/-- The text without trailing characters that satisfy `p`. -/
def dropEndWhile (p : Char → Bool) (t : Text) : Text := (t.reverse.dropWhile p).reverse

def isBlankText (t : Text) : Bool := t.all isBlank

/-- The parts between occurrences of `sep`; always at least one. -/
def fields (sep : Char) : Text → List Text
  | [] => [[]]
  | c :: rest =>
    if c = sep then [] :: fields sep rest
    else match fields sep rest with
      | [] => [[c]]
      | f :: fs => (c :: f) :: fs

def dropReturn (t : Text) : Text :=
  if t.getLast? = some '\r' then t.dropLast else t

/-- The lines of a text. A line ends before a newline or a carriage return and a newline; what
follows the last newline is a line unless it is empty. -/
def lines (t : Text) : List Text :=
  let parts := t.fields '\n'
  parts.dropLast.map dropReturn ++ (match parts.getLast? with
    | some [] | none => []
    | some last => [last])

/-- The maximal stretches without white space. -/
def words : Text → List Text
  | [] => []
  | c :: rest =>
    if isBlank c then words rest
    else match rest, words rest with
      | d :: _, w :: ws => if isBlank d then [c] :: w :: ws else (c :: w) :: ws
      | _, _ => [[c]]

def join (sep : Text) : List Text → Text
  | [] => []
  | [t] => t
  | t :: ts => t ++ sep ++ join sep ts

/-- What follows the prefix `p`, if the text starts with it. -/
def dropPrefix? : Text → Text → Option Text
  | [], t => some t
  | _ :: _, [] => none
  | p :: ps, c :: rest => if p = c then dropPrefix? ps rest else none

/-- The part before and the part after the first `sep`. -/
def splitFirst? (sep : Char) (t : Text) : Option (Text × Text) :=
  match t.dropWhile (· ≠ sep) with
  | [] => none
  | _ :: after => some (t.takeWhile (· ≠ sep), after)

/-- The part before and the part after the last `sep`. -/
def splitLast? (sep : Char) (t : Text) : Option (Text × Text) :=
  (splitFirst? sep t.reverse).map fun (after, before) => (before.reverse, after.reverse)

/-- Orders texts by their code points, the shorter of two texts with a common start first. -/
def le : Text → Text → Bool
  | [], _ => true
  | _ :: _, [] => false
  | a :: as, b :: bs => if a = b then le as bs else a.toNat < b.toNat

/-- A statement about the characters of a text is decided by going through the text, not through
all characters. -/
instance (priority := high) decidableForallMem (p : Char → Prop) [DecidablePred p] (t : Text) :
    Decidable (∀ c ∈ t, p c) := List.decidableBAll p t

instance (priority := high) decidableExistsMem (p : Char → Prop) [DecidablePred p] (t : Text) :
    Decidable (∃ c ∈ t, p c) := List.decidableBEx p t

instance (priority := high) decidableForallMemOption (p : Char → Prop) [DecidablePred p]
    (o : Option Char) : Decidable (∀ c ∈ o, p c) := Option.decidableForallMem o

def byteSize (t : Text) : Nat := t.foldl (fun n c => n + c.utf8Size) 0

end Text

end Dictation
