import Dictation.Pattern.Template
import Dictation.Text.Case
/-!
# Rewriting actions

What a rule puts in the place of a match: a template, or the result of one of the functions below.
-/
namespace Dictation

inductive ActionFunction where
  | caps
  | allCaps
  | lowercase
  | capNext
  | capCamel
  | camel
  | collapseSpaces
  | hexNumber
  | newLine
  | tabKey
  | backspace
  | dunderWrap
  | spellOutEscape
  | spellOutUnescape
  deriving DecidableEq, Repr

namespace ActionFunction

/-- Stands around each letter of a spelled-out word, so that no rule sees the word. -/
def spellMark : Char := '\ue000'

/-- The functions by name, in the order of their names. -/
def table : List (String × ActionFunction) := [
  ("all_caps", allCaps),
  ("backspace", backspace),
  ("camel", camel),
  ("cap_camel", capCamel),
  ("cap_next", capNext),
  ("caps", caps),
  ("collapse_spaces", collapseSpaces),
  ("dunder_wrap", dunderWrap),
  ("hex_number", hexNumber),
  ("lowercase", lowercase),
  ("new_line", newLine),
  ("spell_out_escape", spellOutEscape),
  ("spell_out_unescape", spellOutUnescape),
  ("tab_key", tabKey)]

/-- The function with a name; what precedes the last point of the name means nothing. -/
def ofName? (name : Text) : Option ActionFunction :=
  let short := match Text.splitLast? '.' name with
    | some (_, last) => last
    | none => name
  table.lookup (String.ofList short.trim)

/-- What the named group matched, else what the first group matched, else nothing. -/
def groupOr (p : Pattern) (m : Match) (name : Text) : Text :=
  match p.named? m name with
  | some t => t
  | none => (m.group? 1).getD []

/-- Words joined, the first in lower case and the others capitalised. -/
def camelCase : List Text → Text
  | [] => []
  | w :: ws => w.lower ++ ws.flatMap Text.title

def isCapWord (w : Text) : Bool :=
  w.length = 3 && (w.zip ['c', 'a', 'p']).all fun (a, b) => a = b || swapAsciiCase a = b

/-- Spoken digits as one literal. The word `cap` puts the next one into upper case. -/
def hexLiteral (upper : Bool) : List Text → Text
  | [] => []
  | w :: ws =>
    if isCapWord w then hexLiteral true ws
    else (if upper then w.upper else w.lower) ++ hexLiteral false ws

def apply (f : ActionFunction) (p : Pattern) (m : Match) : Text :=
  match f with
  | caps => (groupOr p m "word").title
  | allCaps => (groupOr p m "next").upper
  | lowercase => (groupOr p m "word").lower
  | capNext =>
    let this := (p.named? m "this").getD []
    match p.named? m "next" with
    | some next => this ++ ' ' :: next.title
    | none => this
  | capCamel => (groupOr p m "next").words.flatMap Text.title
  | camel => camelCase (groupOr p m "next").words
  | collapseSpaces => ((m.group? 1).getD m.text).filter (!Unicode.isBlank ·)
  | hexNumber => hexLiteral false m.text.words
  | newLine => ['\n']
  | tabKey => ['\t']
  | backspace => ['\x08']
  | dunderWrap => ['_', '_'] ++ (groupOr p m "next").trim ++ ['_', '_']
  | spellOutEscape => spellMark :: (groupOr p m "word").flatMap fun c => [c, spellMark]
  | spellOutUnescape => m.text.filter (· ≠ spellMark)

end ActionFunction

inductive Action where
  /-- A template in which a dollar sign names a group. -/
  | literal (template : Text)
  /-- A function, with its name as it was written. -/
  | function (name : Text) (f : ActionFunction)
  deriving DecidableEq, Repr

structure UnresolvedAction where
  name : Text
  deriving DecidableEq, Repr

def UnresolvedAction.message (e : UnresolvedAction) : Text :=
  "Unresolved action: ".toList ++ e.name

namespace Action

/-- Reads an action: a function name behind a colon, or a template. Of two colons at the start of a
template one is left. -/
def parse : Text → Except UnresolvedAction Action
  | ':' :: ':' :: rest => .ok (literal (':' :: rest))
  | ':' :: name =>
    match ActionFunction.ofName? name with
    | some f => .ok (function name f)
    | none => .error ⟨name⟩
  | t => .ok (literal t)

def apply (a : Action) (p : Pattern) (m : Match) : Text :=
  match a with
  | literal template => p.expand m template
  | function _ f => f.apply p m

end Action

end Dictation
