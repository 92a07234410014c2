import Dictation.Cue
/-!
# Spoken identifiers

An identifier is spoken fragment by fragment, with a word for each low line between them. A name in
doubled low lines, such as `__init__`, is announced by a marker of its own.
-/
namespace Dictation.Source

def under : Text := "_under-score"

def dunder : Text := "dunder"

/-- The parts of a name between doubled low lines; always at least one. -/
def doubledFields : Text → List Text
  | [] => [[]]
  | [c] => [[c]]
  | c :: d :: rest =>
    if c = '_' ∧ d = '_' then [] :: doubledFields rest
    else match doubledFields (d :: rest) with
      | [] => [[c]]
      | f :: fs => (c :: f) :: fs

/-- Lists of cues with some cues between them. -/
def joinCues (between : List Cue) : List (List Cue) → List Cue
  | [] => []
  | [cues] => cues
  | cues :: rest => cues ++ between ++ joinCues between rest

/-- The cues of a name, of which doubled low lines are cut first and single ones then. -/
def fragmentCues (k : Combiners) (name : Text) : List Cue :=
  joinCues [.fixed under, .fixed under] <|
    (doubledFields name).map fun part =>
      joinCues [.fixed under] <| (Text.fields '_' part).map (Cue.ofText k)

/-- What stands between doubled low lines, if the name is of that form and no further low line
touches them. -/
def dunderInner? (name : Text) : Option Text :=
  let inner := (name.drop 2).take (name.length - 4)
  if 4 < name.length ∧ name.take 2 = ['_', '_'] ∧ name.drop (name.length - 2) = ['_', '_'] ∧
    inner.head? ≠ some '_' ∧ inner.getLast? ≠ some '_'
  then some inner else none

def identifierCues (k : Combiners) (name : Text) : List Cue :=
  match dunderInner? name with
  | some inner => .fixed dunder :: fragmentCues k inner
  | none => fragmentCues k name

end Dictation.Source
