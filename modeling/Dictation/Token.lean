import Dictation.Category
/-!
# Runs and tokens

A run is a maximal stretch of characters of one category, and runs that belong together form a token.
A run that stands between words is a token of its own. A combiner stays inside the token, as in `3.14`,
unless it ends the text or a run that stands between words follows.
-/
namespace Dictation

structure Run where
  category : Category
  text : Text
  deriving DecidableEq, Repr

/-- Puts a character in front of the runs of the text that follows it. -/
def Run.prepend (g : Category) (c : Char) : List Run → List Run
  | [] => [⟨g, [c]⟩]
  | r :: rest =>
    if r.category = g then ⟨g, c :: r.text⟩ :: rest else ⟨g, [c]⟩ :: r :: rest

def Combiners.runs (k : Combiners) : Text → List Run
  | [] => []
  | c :: rest => Run.prepend (k.categoryOf c) c (k.runs rest)

structure Token where
  runs : List Run
  deriving DecidableEq, Repr

namespace Token

def text (t : Token) : Text := t.runs.flatMap Run.text

/-- Whether the token is one run that stands between words. -/
def isSplitting (t : Token) : Bool :=
  match t.runs with
  | [r] => r.category.splitsWords || r.category = .combiner
  | _ => false

/-- Whether no token goes on into the given runs: there are none, or the first one is a token of its
own. -/
def splitsAt : List Run → Bool
  | [] => true
  | r :: rest =>
    match r.category, rest with
    | .combiner, [] => true
    | .combiner, next :: _ => next.category.splitsWords
    | g, _ => g.splitsWords

/-- Adds a run at the front of the first token. -/
def extend (r : Run) : List Token → List Token
  | [] => [⟨[r]⟩]
  | t :: rest => ⟨r :: t.runs⟩ :: rest

def group : List Run → List Token
  | [] => []
  | r :: rest =>
    if splitsAt (r :: rest) || splitsAt rest then ⟨[r]⟩ :: group rest else extend r (group rest)

end Token

def Combiners.tokens (k : Combiners) (t : Text) : List Token := Token.group (k.runs t)

end Dictation
