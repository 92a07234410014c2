import Dictation.Interpret.RecordFormat
import Dictation.Text.Quoted
/-!
# Reports

Results as lines of text for people or as lines of JSON for programs. Every line ends in a newline.
-/
namespace Dictation

inductive Style where
  | bold
  | dim
  | green
  | cyan
  | boldCyan
  deriving DecidableEq, Repr

namespace Style

def codes : Style → Text
  | bold => "1"
  | dim => "2"
  | green => "32"
  | cyan => "36"
  | boldCyan => "1;36"

def start (s : Style) : Text := "\x1b[".toList ++ s.codes ++ ['m']

def reset : Text := "\x1b[0m"

/-- A text that turns the emphasis on again wherever it turns it off itself. -/
def resume (s : Style) : Text → Text
  | '\x1b' :: '[' :: '0' :: 'm' :: rest => reset ++ s.start ++ s.resume rest
  | c :: rest => c :: s.resume rest
  | [] => []

def paint (s : Style) (t : Text) : Text := s.start ++ s.resume t ++ reset

end Style

namespace Report

inductive Format where
  | text
  | json
  deriving DecidableEq, Repr

namespace Format

def name : Format → Text
  | text => "text"
  | json => "json"

def ofName? (name : Text) : Option Format := [text, json].find? (·.name = name.lower)

/-- What is said about a name that no format has. -/
def unknownMessage (name : Text) : Text := "Unknown format: ".toList ++ name

end Format

def line (t : Text) : Text := t ++ ['\n']

/-- A text with the emphasis, if emphasis is wanted. -/
def painted (colored : Bool) (s : Style) (t : Text) : Text := if colored then s.paint t else t

/-- The words of a statement between marks; words that say nothing are left out. -/
def sentence (words : List Text) : Text :=
  Text.join [' '] (["<s>".toList] ++ words.filter (!·.isBlankText) ++ ["</s>".toList])

def statements (format : Format) (file : Text) (wss : List (List Text)) : Text :=
  match format with
  | .text => wss.flatMap fun words => line (sentence words)
  | .json =>
    let fields := [("file".toList, .string file),
      ("statements".toList, Json.array (wss.map Json.strings))]
    line (Json.object fields).print

def segmentation (format : Format) (colored : Bool) (word : Text) (segments : List Text) : Text :=
  match format with
  | .text =>
    let separator := painted colored .dim " · "
    line <| painted colored .bold word ++ ' ' :: painted colored .dim "→" ++
      ' ' :: Text.join separator (segments.map (painted colored .green))
  | .json =>
    let fields := [("word".toList, .string word), ("segments".toList, Json.strings segments)]
    line (Json.object fields).print

def command (c : Command) : Text :=
  Text.join [' '] <| [c.tag] ++ c.args ++ c.named.map fun (name, value) => name ++ '=' :: value.quoted

def interpretation (colored : Bool) : Interpretation → Text
  | .text t => line t
  | .command c =>
    line <| painted colored .boldCyan "▶" ++ ' ' :: painted colored .cyan (command c)

def interpretations (format : Format) (colored : Bool) (rs : List InterpretedRecord) : Text :=
  match format with
  | .text => rs.flatMap fun r => interpretation colored r.interpreted
  | .json => rs.flatMap fun r => line r.toJson.print

def summary (files statements failed : Nat) : Text :=
  let count := Nat.toDigits 10
  let noun := if files = 1 then "file".toList else "files".toList
  line <| if failed = 0 then
      "✓ ".toList ++ count statements ++ " statements from ".toList ++ count files ++ ' ' :: noun
    else
      "✗ ".toList ++ count failed ++ " of ".toList ++ count files ++ ' ' :: noun ++
        " failed to encode".toList

end Report

end Dictation
