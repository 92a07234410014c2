import Dictation.Rewrite.Shipped
import Mathlib.Logic.Basic
/-!
# The patterns of the shipped rules

The shipped rules are given as rows of text. Here are the patterns that the rows are read into,
together with the actions. Most of them are of one kind: an operator with its name, up to the end of
the name, and sometimes the white space around both.
-/
namespace Dictation

namespace Node

/-- The characters of a text one by one, each of them in any case. -/
def literal (s : String) : List Node := s.toList.map fun c => set (.counterpart c)

def blanks : Node := star none true (set .space)

def someBlanks : Node := plus none true (set .space)

def wordChars : Node := plus none true (set .word)

def bound : Node := assertion (.boundary .unicode)

/-- The least stretch with which the match goes on. -/
def anything : Node := group 1 (star none false (set (.property .any)))

/-- A word that consists of the given characters. -/
def wholeWord (s : String) : Node := sequence (bound :: literal s ++ [bound])

def blankOrHyphen : Node := set (.folded (.union (.one ' ') (.one '-')))

/-- A word with a marker in front, which may be followed by further words. -/
def markedWords (marker : String) : Node :=
  sequence (bound :: literal marker ++
    [someBlanks, group 1 (seq wordChars (star none true (seq someBlanks wordChars)))])

def markedWord (marker : String) : Node :=
  sequence (bound :: literal marker ++ [someBlanks, group 1 wordChars])

/-- A sign that is spoken between two numerals, or before one. -/
def signedDigit (sign : String) : Node :=
  seq (group 1 (alt (assertion .textStart)
      (seq (set (.compl (.folded (.union .digit .space)))) someBlanks)))
    (sequence (literal sign ++ [someBlanks, group 2 (set .digit)]))

end Node

/-- The template for a text that names no groups. -/
def Slot.quoted (t : Text) : Text := t.flatMap fun c => if c = '$' then ['$', '$'] else [c]

structure Keyword where
  /-- Whether white space before it belongs to it. -/
  before : Bool
  core : List Node
  /-- Whether white space behind it belongs to it. -/
  after : Bool
  /-- The operator alone. -/
  sign : Text
  deriving DecidableEq, Repr

namespace Keyword

open Node

def node (w : Keyword) : Node :=
  sequence ((if w.before then [blanks] else []) ++ w.core ++ [bound] ++
    if w.after then [blanks] else [])

def row (w : Keyword) : Pattern × Action := (⟨w.node, []⟩, .literal (Slot.quoted w.sign))

def named (spoken sign : String) : Keyword := ⟨false, literal spoken, false, sign⟩

/-- An operator that joins what stands on both sides. -/
def joining (spoken sign : String) : Keyword := ⟨true, literal spoken, true, sign⟩

def bracket (sign a b name : String) (after : Bool) : Keyword :=
  ⟨true, literal sign ++ [alt (sequence (literal a)) (sequence (literal b))] ++ literal name, after,
    sign⟩

/-- The operators of several characters, and those that are matched before the end of a sentence. -/
def early : List Keyword := [
  named "\"\"\"triple-quote" "\"\"\"",
  named "'''triple-single-quote" "'''",
  named "...ellipsis" "...",
  named "!=not-equal" "!=",
  named "==equal-equal" "==",
  named "<=less-equal" "<=",
  named ">=greater-equal" ">=",
  named "<<shift-left" "<<",
  named ">>shift-right" ">>",
  named "**asterisk-asterisk" "**",
  named "*=times-equals" "*=",
  named "+=plus-equals" "+=",
  named "-=minus-equals" "-=",
  named "/=divide-equals" "/=",
  named "//floor-divide" "//",
  named "->arrow" "->",
  named "=>fat-arrow" "=>",
  named "::double-colon" "::",
  named ":=walrus" ":=",
  named "&&and-and" "&&",
  named "||or-or" "||",
  bracket "(" "open" "left" "-paren" true,
  bracket "[" "open" "left" "-bracket" true,
  bracket "\x7b" "open" "left" "-brace" true,
  bracket ")" "close" "right" "-paren" false,
  bracket "]" "close" "right" "-bracket" false,
  bracket "\x7d" "close" "right" "-brace" false,
  ⟨true, literal ":colon", false, ":"⟩,
  ⟨true, literal ",comma", false, ","⟩,
  ⟨true, literal ";semi-colon", false, ";"⟩]

/-- The operators that are matched behind the end of a sentence. -/
def late : List Keyword := [
  ⟨true, literal "." ++ [alt (sequence (literal "dot")) (sequence (literal "point"))], true, "."⟩,
  ⟨true, literal "_under" ++ [opt true (sequence (literal "-score"))], true, "_"⟩,
  joining "*asterisk" "*",
  joining "-hyphen" "-",
  joining "@at" "@",
  joining "/slash" "/",
  joining "\"double-quote" "\"",
  joining "\\back-slash" "\\",
  named "#sharp-sign" "#",
  named "$dollar-sign" "$",
  named "%percent" "%",
  named "&ampersand" "&",
  named "'quote" "'",
  named "+plus" "+",
  named "<less-than" "<",
  named "=equals" "=",
  named ">greater-than" ">",
  named "^caret" "^",
  named "\x60back-tick" "\x60",
  named "|bar" "|",
  named "~tilde" "~"]

end Keyword

namespace RuleTable

open Node

/-- The end of a sentence, and the word that follows. -/
def sentenceEnd : Node :=
  sequence [blanks, group 1 (set (.folded (.unionAll [.one '.', .one '?', .one '!']))),
    alternatives [sequence (literal "period"), sequence (literal "question-mark"),
      sequence (literal "exclamation-point")],
    bound, opt true (seq someBlanks (group 2 wordChars))]

def wordRows : List (Pattern × Action) := [
  (⟨sequence (bound :: literal "spell out" ++
    [someBlanks, group 1 (plus none true (set (.compl .space)))]), [some "word".toList]⟩,
    .function "spell_out_escape" .spellOutEscape),
  (⟨sequence ([blanks, bound] ++ literal "new" ++ [blankOrHyphen] ++ literal "line" ++
    [bound, blanks]), []⟩, .function "new_line" .newLine),
  (⟨sequence ([blanks, bound] ++ literal "tab" ++ [blankOrHyphen] ++ literal "key" ++
    [bound, blanks]), []⟩, .function "tab_key" .tabKey),
  (⟨sequence ([blanks, bound] ++ literal "back" ++ (literal " ").map (opt true) ++
    literal "space" ++ [bound, blanks]), []⟩, .function "backspace" .backspace),
  (⟨sequence ([blanks, bound] ++ literal "full stop" ++ [bound]), []⟩, .literal "."),
  (⟨wholeWord "zero", []⟩, .literal "0"),
  (⟨wholeWord "one", []⟩, .literal "1"),
  (⟨wholeWord "two", []⟩, .literal "2"),
  (⟨wholeWord "three", []⟩, .literal "3"),
  (⟨wholeWord "four", []⟩, .literal "4"),
  (⟨wholeWord "five", []⟩, .literal "5"),
  (⟨wholeWord "six", []⟩, .literal "6"),
  (⟨wholeWord "seven", []⟩, .literal "7"),
  (⟨wholeWord "eight", []⟩, .literal "8"),
  (⟨wholeWord "nine", []⟩, .literal "9"),
  (⟨seq (set .digit) (plus none true (seq someBlanks (set .digit))), []⟩,
    .function "collapse_spaces" .collapseSpaces),
  (⟨sequence (bound :: literal "0" ++ [someBlanks] ++ literal "x" ++
    [plus none true (seq someBlanks (alternatives [plus none true (set .digit),
      sequence (literal "cap" ++ [someBlanks, set (.folded (.range 'a' 'f'))]),
      set (.folded (.range 'a' 'f'))])), bound]), []⟩, .function "hex_number" .hexNumber),
  (⟨sequence ([group 1 (set .digit), someBlanks] ++ literal "dot" ++
    [someBlanks, group 2 (set .digit)]), [none, none]⟩, .literal "$\x7b1\x7d.$\x7b2\x7d"),
  (⟨signedDigit "minus", [none, none]⟩, .literal "$\x7b1\x7d-$\x7b2\x7d"),
  (⟨signedDigit "plus", [none, none]⟩, .literal "$\x7b1\x7d+$\x7b2\x7d"),
  (⟨markedWords "cap camel", [some "next".toList]⟩, .function "cap_camel" .capCamel),
  (⟨markedWords "camel", [some "next".toList]⟩, .function "camel" .camel),
  (⟨markedWords "all caps", [some "next".toList]⟩, .function "all_caps" .allCaps),
  (⟨markedWord "cap", [some "word".toList]⟩, .function "caps" .caps),
  (⟨markedWord "lowercase", [some "word".toList]⟩, .function "lowercase" .lowercase),
  (⟨sequence (literal "\"quote" ++ [someBlanks, anything, someBlanks] ++ literal "\"quote"),
    [some "body".toList]⟩, .literal "\"$\x7bbody\x7d\"")]

def frameRows : List (Pattern × Action) := [
  (⟨sequence (literal "__dunder" ++ [someBlanks, anything, blanks] ++ literal "__dunder"),
    [some "next".toList]⟩, .function "dunder_wrap" .dunderWrap),
  (⟨markedWord "dunder", [some "next".toList]⟩, .function "dunder_wrap" .dunderWrap),
  (⟨sequence (literal "__dunder"), []⟩, .literal "__"),
  (⟨sequence (bound :: literal "no-space" ++
    [someBlanks, group 1 (plus none false (set (.property .any))), someBlanks] ++
      literal "spaces" ++ [bound]), [none]⟩, .function "collapse_spaces" .collapseSpaces),
  (⟨sequence ([blanks, bound] ++ literal "no-space" ++ [bound, blanks]), []⟩, .literal []),
  (⟨seq (set (.counterpart '\ue000')) (plus none true (seq
    (set (.compl (.folded (.union (.one '\ue000') .space)))) (set (.counterpart '\ue000')))), []⟩,
    .function "spell_out_unescape" .spellOutUnescape)]

/-- The patterns and actions of the shipped rules. -/
def rows : List (Pattern × Action) :=
  wordRows ++ Keyword.early.map Keyword.row ++
    [(⟨sentenceEnd, [some "this".toList, some "next".toList]⟩, .function "cap_next" .capNext)] ++
    Keyword.late.map Keyword.row ++ frameRows

def rowFields (e : String × String) : List Text := [e.1.toList, e.2.toList]

/-- The fields of the shipped rows. Facts about all rows are computed from their characters, which a string
gives up slowly, so they are written out once. -/
def spelledFields : { fields : List (List Text) // shippedRows.map rowFields = fields } :=
  ⟨_, by
    simp only [shippedRows, List.map, rowFields]
    repeat apply congrArg₂ List.cons (congrArg₂ ([·, ·]) String.toList_ofList String.toList_ofList)
    rfl⟩

def spelledRows : { rs : List (Pattern × Action) // rows = rs } :=
  ⟨_, by
    simp only [rows, wordRows, sentenceEnd, frameRows, Keyword.early, Keyword.late, Keyword.row, Keyword.named,
      Keyword.joining, Keyword.bracket, Keyword.node, literal, wholeWord, markedWord, markedWords, signedDigit,
      List.map, String.reduceToList]
    rfl⟩

theorem shipped_rows : shipped.rules.map (fun r => (r.pattern, r.action)) = rows := by
  have hrules : shipped.rules =
      (shippedRows.map rowFields).filterMap fun fields => (Rule.ofFields fields).toOption := by
    simp only [shipped, List.filterMap_map, Function.comp_def, rowFields]
  rw [hrules, spelledFields.2, spelledRows.2]
  decide +kernel

end RuleTable

end Dictation
