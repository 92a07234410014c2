import Dictation.Operator
import Dictation.Proofs.Rewrite.Keyword
/-!
# Operators in the order of their rules

Each operator has a rule that turns its name back into it. The operators are listed here in the order
of these rules, which decides what can stand around a name when its own rule comes. What is shown of
the table is that every pattern passes over the names and operators of the others.
-/
namespace Dictation

open Node Text

/-- An operator, its name, and the place of its rule among the rules for operators. -/
structure Sign where
  written : Text
  spoken : Text
  rank : Nat
  deriving DecidableEq, Repr

namespace Sign

/-- The operators in the order of their rules. -/
def rows : List (String × String × Nat) := [
  ("\"\"\"", "\"\"\"triple-quote", 0),
  ("'''", "'''triple-single-quote", 1),
  ("...", "...ellipsis", 2),
  ("!=", "!=not-equal", 3),
  ("==", "==equal-equal", 4),
  ("<=", "<=less-equal", 5),
  (">=", ">=greater-equal", 6),
  ("<<", "<<shift-left", 7),
  (">>", ">>shift-right", 8),
  ("**", "**asterisk-asterisk", 9),
  ("*=", "*=times-equals", 10),
  ("+=", "+=plus-equals", 11),
  ("-=", "-=minus-equals", 12),
  ("/=", "/=divide-equals", 13),
  ("//", "//floor-divide", 14),
  ("->", "->arrow", 15),
  ("=>", "=>fat-arrow", 16),
  ("::", "::double-colon", 17),
  (":=", ":=walrus", 18),
  ("&&", "&&and-and", 19),
  ("||", "||or-or", 20),
  ("(", "(open-paren", 21),
  ("[", "[open-bracket", 22),
  ("\x7b", "\x7bopen-brace", 23),
  (")", ")close-paren", 24),
  ("]", "]close-bracket", 25),
  ("\x7d", "\x7dclose-brace", 26),
  (":", ":colon", 27),
  (",", ",comma", 28),
  (";", ";semi-colon", 29),
  ("!", "!exclamation-point", 30),
  ("?", "?question-mark", 30),
  (".", ".dot", 31),
  ("_", "_under-score", 32),
  ("*", "*asterisk", 33),
  ("-", "-hyphen", 34),
  ("@", "@at", 35),
  ("/", "/slash", 36),
  ("\"", "\"double-quote", 37),
  ("\\", "\\back-slash", 38),
  ("#", "#sharp-sign", 39),
  ("$", "$dollar-sign", 40),
  ("%", "%percent", 41),
  ("&", "&ampersand", 42),
  ("'", "'quote", 43),
  ("+", "+plus", 44),
  ("<", "<less-than", 45),
  ("=", "=equals", 46),
  (">", ">greater-than", 47),
  ("^", "^caret", 48),
  ("\x60", "\x60back-tick", 49),
  ("|", "|bar", 50),
  ("~", "~tilde", 51)
  ]

def table : List Sign := rows.map fun e => ⟨e.1.toList, e.2.1.toList, e.2.2⟩

def spelled : { ss : List Sign // table = ss } :=
  ⟨_, by
    simp only [table, rows, List.map]
    repeat apply congrArg₂ List.cons (congr (congrArg₂ mk String.toList_ofList String.toList_ofList) rfl)
    rfl⟩

/-- The first rule that takes white space with it. -/
def firstTaking : Nat := 21

/-- The rule for the low line, which takes white space on both sides. -/
def low : Nat := 32

def firstChars : List Char :=
  ['!', '"', '#', '$', '%', '&', '\'', '(', ')', '*', '+', ',', '-', '.', '/', ':', ';', '<', '=', '>',
    '?', '@', '[', '\\', ']', '^', '_', '\x60', '\x7b', '|', '\x7d', '~']

/-- The characters that can follow a word when a rule comes. -/
def followers (rank : Nat) : List Char :=
  if rank < firstTaking then gapChars else gapChars ++ firstChars

/-- Whether operator and name are words as the other facts need them. -/
def isSound (s : Sign) : Bool :=
  isSolid s.written && isSolid s.spoken && s.spoken.getLast?.all isWordChar &&
    s.written.head?.all (fun a => decide (a ∈ firstChars) && (!isWordChar a || s.rank == low)) &&
    s.spoken.head?.all (fun a => decide (a ∈ firstChars) && (!isWordChar a || s.rank == low)) &&
    (s.rank != low || decide (s.written = ['_'] ∧ s.spoken = "_under-score".toList))

/-- Whether a pattern passes over a sign in every form that it can have when the pattern comes. -/
def isSkipped (n : Node) (rank : Nat) (s : Sign) : Bool :=
  if rank < s.rank then n.stopsIn (followers rank) s.spoken
  else n.stopsIn (followers rank) s.written &&
    (decide (s.rank ≤ low) || n.stopsIn (followers rank) s.spoken)

/-- Whether a keyword fits the signs at a place of the table: it reads the names of its place and
passes over all others. -/
def fits (w : Keyword) (rank : Nat) (s : Sign) : Bool :=
  if s.rank = rank then
    decide (s.written = w.sign) && w.tail.stopsIn (followers rank) (s.spoken.drop 1) &&
      match (sequence w.core).leftovers s.spoken with
      | some ([] :: ls) => ls.isEmpty || decide (rank ≤ low)
      | _ => false
  else isSkipped w.node.core rank s

theorem sound : ∀ s ∈ spelled.1, s.isSound = true := by
  decide +kernel

end Sign

namespace Keyword

theorem regular : ∀ w ∈ early ++ late, w.isRegular = true := by
  decide +kernel

theorem early_fits : ∀ e ∈ early.zipIdx, ∀ s ∈ Sign.spelled.1, Sign.fits e.1 e.2 s = true := by
  decide +kernel

theorem late_fits : ∀ e ∈ late.zipIdx 31, ∀ s ∈ Sign.spelled.1, Sign.fits e.1 e.2 s = true := by
  decide +kernel

end Keyword

end Dictation
