import Dictation.Source.Lexer
import Dictation.Source.Statement
/-!
# Documents

A file is read as source text or, if its name does not say so, as lines of free text.
-/
namespace Dictation.Source

inductive DocumentKind where
  | source
  | text
  deriving DecidableEq, Repr

def sourceExtensions : List Text := ["py", "pyw", "pyi"]

/-- The kind of a document whose file name has the given extension. -/
def DocumentKind.ofExtension (extension : Text) : DocumentKind :=
  if extension.lower ∈ sourceExtensions then .source else .text

section
variable {m : Type → Type} [Monad m]

def encodeSource (segment : Text → m (List Text)) (k : Combiners) (t : Text) :
    m (List (List Text)) :=
  encode segment k (lexemes t)

/-- The words of free text line by line, without the lines that say nothing. -/
def encodeLines (segment : Text → m (List Text)) (k : Combiners) (t : Text) :
    m (List (List Text)) := do
  let statements ← speakEach segment (t.lines.map (Cue.ofLine k))
  return statements.filter fun words => words.any (!·.isBlankText)

def encodeDocument (segment : Text → m (List Text)) (k : Combiners) (kind : DocumentKind)
    (t : Text) : m (List (List Text)) :=
  match kind with
  | .source => encodeSource segment k t
  | .text => encodeLines segment k t

end

end Dictation.Source
