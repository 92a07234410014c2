import Dictation.Text.Basic
import Dictation.Unicode.WordBreak
/-!
# Word boundaries

A text is cut into words and what stands between them. Letters and digits stay together, also across
an apostrophe or a point with letters or digits on both sides; attached marks never stand alone.

The concatenation of the pieces is the text.
-/
namespace Dictation.Text

open Unicode

/-- What has to follow a character in the middle of a word for the word to go on. -/
inductive Need where
  | anyLetter
  | hebrewLetter
  | numeral
  deriving DecidableEq, Repr

/-- What the piece read so far ends with, apart from attached marks. -/
inductive WordEnd where
  | letter
  | hebrewLetter
  /-- A single quote after a Hebrew letter, which stays in any case. -/
  | quote
  | numeral
  | katakana
  | joiner
  | flagHalf
  | flag
  | space
  | zeroWidthJoiner
  | pictograph
  | other
  /-- A character that stays only if the need is met; `kept` more characters precede it. -/
  | middle (need : Need) (kept : Nat)
  deriving DecidableEq, Repr

namespace WordEnd

/-- How a piece begins with a character of the given class, if more than marks can follow. -/
def start : WordBreak → WordEnd
  | .letter => letter
  | .hebrewLetter => hebrewLetter
  | .numeral => numeral
  | .katakana => katakana
  | .joiner => joiner
  | .regional => flagHalf
  | .space => space
  | .zeroWidthJoiner => zeroWidthJoiner
  | _ => other

def afterLetter (hebrew : Bool) (count : Nat) : WordBreak → Option WordEnd
  | .letter => some letter
  | .hebrewLetter => some hebrewLetter
  | .numeral => some numeral
  | .joiner => some joiner
  | .doubleQuote => if hebrew then some (middle .hebrewLetter count) else none
  | .singleQuote => if hebrew then some quote else some (middle .anyLetter count)
  | .midLetter | .midBoth => some (middle .anyLetter count)
  | _ => none

def afterNumeral (count : Nat) : WordBreak → Option WordEnd
  | .numeral => some numeral
  | .letter => some letter
  | .hebrewLetter => some hebrewLetter
  | .joiner => some joiner
  | .midNumber | .midBoth | .singleQuote => some (middle .numeral count)
  | _ => none

def afterJoiner : WordBreak → Option WordEnd
  | .joiner => some joiner
  | .letter => some letter
  | .hebrewLetter => some hebrewLetter
  | .numeral => some numeral
  | .katakana => some katakana
  | _ => none

def afterKatakana : WordBreak → Option WordEnd
  | .katakana => some katakana
  | .joiner => some joiner
  | _ => none

def meets : Need → WordBreak → Option WordEnd
  | .anyLetter, .letter => some letter
  | .anyLetter, .hebrewLetter => some hebrewLetter
  | .hebrewLetter, .hebrewLetter => some hebrewLetter
  | .numeral, .numeral => some numeral
  | _, _ => none

/-- How the piece goes on with a character of the given class, if it does. `marked` says that marks
have been attached, and `count` how many characters follow the first one so far. -/
def next (e : WordEnd) (marked : Bool) (count : Nat) (w : WordBreak) : Option WordEnd :=
  match e with
  | letter => afterLetter false count w
  | hebrewLetter => afterLetter true count w
  | quote => meets .anyLetter w
  | numeral => afterNumeral count w
  | katakana => afterKatakana w
  | joiner => afterJoiner w
  | flagHalf => if w = .regional then some flag else none
  | space => if w = .space && !marked then some space else none
  | middle need _ => meets need w
  | flag | zeroWidthJoiner | pictograph | other => none

/-- How many characters of a piece stay when nothing more can follow. -/
def kept (e : WordEnd) (count : Nat) : Nat :=
  match e with
  | middle _ n => n
  | _ => count

end WordEnd

/-- How many characters belong to a piece after its first one. `joined` says that a zero-width joiner
stands right before the text. -/
def wordExtent (e : WordEnd) (joined marked : Bool) (count : Nat) : Text → Nat
  | [] => e.kept count
  | c :: rest =>
    let w := WordBreak.of c
    if w.attaches then wordExtent e (w = .zeroWidthJoiner) true (count + 1) rest
    else if joined && isPictograph c then wordExtent .pictograph false marked (count + 1) rest
    else match e.next marked count w with
      | some e => wordExtent e false marked (count + 1) rest
      | none => e.kept count

/-- How many characters of `rest` belong to the piece that `c` begins. -/
def firstExtent (c : Char) (rest : Text) : Nat :=
  match WordBreak.of c with
  | .carriageReturn => if rest.head? = some '\n' then 1 else 0
  | .lineFeed | .newline => 0
  | w =>
    match WordEnd.start w, rest with
    | .other, d :: _ =>
      if (WordBreak.of d).attaches then wordExtent .other false true 0 rest else 0
    | .other, [] => 0
    | e, _ => wordExtent e (w = .zeroWidthJoiner) false 0 rest

/-- The pieces of a text between word boundaries. -/
def wordPieces (t : Text) : List Text :=
  match t with
  | [] => []
  | c :: rest => (c :: rest.take (firstExtent c rest)) :: wordPieces (rest.drop (firstExtent c rest))
  termination_by t.length
  decreasing_by simp only [List.length_drop, List.length_cons]; omega

end Dictation.Text
