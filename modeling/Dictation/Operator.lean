import Dictation.Unicode.Name
/-!
# Spoken operators

Punctuation and operators are spoken by name. A spoken form begins with the operator that it stands
for, so that the operator can be recovered; control keys are named bare.
-/
namespace Dictation.Operator

open Unicode

def names : List (String × String) := [
  ("\n", "new-line"),
  ("\t", "tab-key"),
  ("\r", "carriage-return"),
  ("!", "!exclamation-point"),
  ("!=", "!=not-equal"),
  ("\"", "\"double-quote"),
  ("\"\"\"", "\"\"\"triple-quote"),
  ("#", "#sharp-sign"),
  ("$", "$dollar-sign"),
  ("%", "%percent"),
  ("&", "&ampersand"),
  ("&&", "&&and-and"),
  ("'", "'quote"),
  ("'''", "'''triple-single-quote"),
  ("(", "(open-paren"),
  (")", ")close-paren"),
  ("*", "*asterisk"),
  ("**", "**asterisk-asterisk"),
  ("*=", "*=times-equals"),
  ("+", "+plus"),
  ("+=", "+=plus-equals"),
  (",", ",comma"),
  ("-", "-hyphen"),
  ("-=", "-=minus-equals"),
  ("->", "->arrow"),
  (".", ".dot"),
  ("...", "...ellipsis"),
  ("/", "/slash"),
  ("//", "//floor-divide"),
  ("/=", "/=divide-equals"),
  (":", ":colon"),
  ("::", "::double-colon"),
  (":=", ":=walrus"),
  ("://", ":colon /slash /slash"),
  (";", ";semi-colon"),
  ("<", "<less-than"),
  ("<<", "<<shift-left"),
  ("<=", "<=less-equal"),
  ("=", "=equals"),
  ("==", "==equal-equal"),
  ("=>", "=>fat-arrow"),
  (">", ">greater-than"),
  (">=", ">=greater-equal"),
  (">>", ">>shift-right"),
  ("?", "?question-mark"),
  ("@", "@at"),
  ("[", "[open-bracket"),
  ("\\", "\\back-slash"),
  ("]", "]close-bracket"),
  ("^", "^caret"),
  ("_", "_under-score"),
  ("`", "`back-tick"),
  ("\x7b", "\x7bopen-brace"),
  ("|", "|bar"),
  ("||", "||or-or"),
  ("\x7d", "\x7dclose-brace"),
  ("~", "~tilde")]

def table : List (Text × Text) := names.map fun e => (e.1.toList, e.2.toList)

def spoken? (op : Text) : Option Text := table.lookup op

/-- The operator that a listed spoken form stands for. -/
def written? (spoken : Text) : Option Text :=
  (table.find? (·.2 = spoken)).map (·.1)

/-- Length of the longest operator of several characters that the text starts with, or 1. -/
def munchLength (t : Text) : Nat :=
  (table.filter fun e => 2 ≤ e.1.length && e.1.isPrefixOf t).foldl
    (fun n e => max n e.1.length) 1

theorem one_le_foldl_max (es : List (Text × Text)) (n : Nat) (h : 1 ≤ n) :
    1 ≤ es.foldl (fun n e => max n e.1.length) n := by
  induction es generalizing n with
  | nil => exact h
  | cons e es ih => exact ih _ (Nat.le_trans h (Nat.le_max_left _ _))

theorem munchLength_pos (t : Text) : 1 ≤ munchLength t :=
  one_le_foldl_max _ _ (Nat.le_refl 1)

/-- Cuts a text into operators, the longest one first at each place; a character that starts no
longer operator stands alone. -/
def split (t : Text) : List Text :=
  match t with
  | [] => []
  | c :: rest =>
    (c :: rest).take (munchLength (c :: rest)) :: split ((c :: rest).drop (munchLength (c :: rest)))
  termination_by t.length
  decreasing_by
    have := munchLength_pos (c :: rest)
    simp only [List.length_drop, List.length_cons]
    omega

/-- The name under which an unlisted character is spoken: its name, or the letter u and its code
point. -/
def fallbackName (c : Char) : Text :=
  (spokenName? c).getD ('u' :: Name.hexCode c.toNat)

/-- The spoken form of any operator. Characters that the table misses are said before their names. -/
def word (op : Text) : Text :=
  (spoken? op).getD (op.flatMap fun c => c :: fallbackName c)

/-- The spoken words of a stretch of punctuation. -/
def words (t : Text) : List Text := (split t).map word

end Dictation.Operator
