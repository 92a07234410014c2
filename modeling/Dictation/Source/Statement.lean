import Dictation.Source.Identifier
import Dictation.Source.Lexeme
import Dictation.Source.Prose
/-!
# Statements

The words of lexemes, one list of words for each statement. A newline ends a statement; what opens
or closes a block is said at the start of the next one.
-/
namespace Dictation.Source

/-- Said where a block begins and where it ends. -/
def indentWord : Text := "indent"
def dedentWord : Text := "dedent"

/-- The cues of a number; one that cannot be spelled is read as text. -/
def numberCues (k : Combiners) (t : Text) : List Cue :=
  match numberWords t with
  | .ok ws => ws.map .fixed
  | .error _ => Cue.ofText k t

def Lexeme.cues (k : Combiners) (l : Lexeme) : List Cue :=
  match l.kind with
  | .newline => []
  | .indent => [.fixed indentWord]
  | .dedent => [.fixed dedentWord]
  | .operator => [.fixed (operatorWord l.text)]
  | .number => numberCues k l.text
  | .name => identifierCues k l.text
  | .string => stringCues k l.text
  | .comment => commentCues k l.text

/-- The lexemes before each newline, and those after the last one. -/
def cutAtNewlines : List Lexeme → List (List Lexeme) × List Lexeme
  | [] => ([], [])
  | l :: rest =>
    match l.kind, cutAtNewlines rest with
    | .newline, (closed, last) => ([] :: closed, last)
    | _, ([], last) => ([], l :: last)
    | _, (piece :: closed, last) => ((l :: piece) :: closed, last)

/-- Whether a statement says more than where blocks begin and end. -/
def hasContent (words : List Text) : Bool := words.any fun w => w ≠ indentWord && w ≠ dedentWord

section
variable {m : Type → Type} [Monad m]

def speakEach (segment : Text → m (List Text)) : List (List Cue) → m (List (List Text))
  | [] => pure []
  | cues :: rest => do
    let words ← Cue.speakAll segment cues
    let others ← speakEach segment rest
    return words :: others

/-- The statements of a list of lexemes, with the segments of names supplied by `segment`. -/
def encode (segment : Text → m (List Text)) (k : Combiners) (ls : List Lexeme) :
    m (List (List Text)) := do
  let (closed, last) := cutAtNewlines ls
  let statements ← speakEach segment (closed.map fun piece => piece.flatMap (Lexeme.cues k))
  let words ← Cue.speakAll segment (last.flatMap (Lexeme.cues k))
  return statements.filter (!·.isEmpty) ++ if hasContent words then [words] else []

end

end Dictation.Source
