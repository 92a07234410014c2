import Dictation.Casing
import Dictation.Numeral
import Dictation.Operator
import Dictation.Token
/-!
# Cues

A text is first turned into cues, without a vocabulary: words that are spoken as they stand, and
words of names that a vocabulary may still take apart. Speaking a cue gives the dictation words.
-/
namespace Dictation

inductive Cue where
  /-- A word that is spoken as it stands. -/
  | fixed (w : Text)
  /-- A word of a name, to be segmented. -/
  | name (w : Text)
  deriving DecidableEq, Repr

namespace Cue

/-- Said before and after the parts of a word that was taken apart. -/
def noSpace : Text := "no-space"
def spaces : Text := "spaces"

/-- The words spoken for a word of a name with the given segments. -/
def frame (w : Text) (segments : List Text) : List Text :=
  if 1 < segments.length then noSpace :: segments.map Text.lower ++ [spaces] else [w.lower]

/-- The words of a cue, with the segments of names supplied by `segment`. -/
def speak {m : Type → Type} [Monad m] (segment : Text → m (List Text)) : Cue → m (List Text)
  | fixed w => pure [w]
  | name w => return frame w (← segment w)

/-- The words of several cues, spoken in order. -/
def speakAll {m : Type → Type} [Monad m] (segment : Text → m (List Text)) :
    List Cue → m (List Text)
  | [] => pure []
  | c :: rest => do
    let first ← c.speak segment
    let others ← speakAll segment rest
    return first ++ others

/-- The markers of a name with the given words. A single letter is `cap`, never `all caps`. -/
def markers : List Text → List Text
  | [[c]] => if Unicode.isUppercase c then ["cap"] else []
  | ws => (Casing.ofWords ws).markers

def ofPiece : Piece → List Cue
  | .word w => [name w]
  | .digits ds => (spellDigits ds).map fixed

def ofName (rs : List Run) : List Cue :=
  let pieces := Piece.split rs
  (markers (pieces.filterMap Piece.word?)).map fixed ++ pieces.flatMap ofPiece

/-- The cues of runs behind the runs of a name not yet finished. -/
def ofRunsAfter (name : List Run) : List Run → List Cue
  | [] => ofName name
  | r :: rest =>
    if r.category.isNamePart then ofRunsAfter (name ++ [r]) rest
    else ofName name ++ (Operator.words r.text).map fixed ++ ofRunsAfter [] rest

def startsWithDigit (t : Token) : Bool :=
  match t.runs with
  | [] => false
  | r :: _ => r.category = .digit

/-- The cues of a token. White space is passed on, punctuation is named, a number is spelled and
anything else consists of names. -/
def ofToken (t : Token) : List Cue :=
  if t.isSplitting then
    t.runs.flatMap fun r =>
      if r.category = .separator then [fixed r.text] else (Operator.words r.text).map fixed
  else
    match startsWithDigit t && isSpellable t.text, numberWords t.text with
    | true, .ok ws => ws.map fixed
    | _, _ => ofRunsAfter [] t.runs

def ofText (k : Combiners) (t : Text) : List Cue := (k.tokens t).flatMap ofToken

/-- The cues of one line, without its line end. -/
def ofLine (k : Combiners) (line : Text) : List Cue :=
  ofText k (line.dropEndWhile fun c => c = '\r' || c = '\n')

end Cue

end Dictation
