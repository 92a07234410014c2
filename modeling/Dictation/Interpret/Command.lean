import Dictation.Rewrite.Rule
/-!
# Spoken commands

A command rule carves commands out of an utterance, wherever its trigger is spoken in a context to
which it applies. A rule sees only the text that no earlier rule has turned into a command.
-/
namespace Dictation

/-- A tagged action with the values of its groups. -/
structure Command where
  tag : Text
  args : List Text
  /-- Values of named groups, ascending by name. -/
  named : List (Text × Text)
  deriving DecidableEq, Repr

/-- A piece of an utterance: text, or a command. -/
inductive Fragment where
  | literal (t : Text)
  | command (c : Command)
  deriving DecidableEq, Repr

structure CommandRule where
  /-- The pattern of the contexts; without one the rule applies to all. -/
  context : Option Pattern
  trigger : Pattern
  tag : Text
  deriving DecidableEq, Repr

namespace CommandRule

/-- The text of a context pattern, made to match whole names; none for all contexts. -/
def contextSource? (context : Text) : Option Text :=
  let context := context.trim
  if context = ['*'] || context.isEmpty then none
  else some ("^(?:".toList ++ context ++ ")$".toList)

/-- The text of a trigger pattern, made to match whole words. -/
def triggerSource (trigger : Text) : Text := "\\b(?:".toList ++ trigger ++ ")\\b".toList

def make? (context trigger tag : Text) : Option CommandRule := do
  let c ← match contextSource? context with
    | some source => (Pattern.compile? {} source).map some
    | none => some none
  let t ← Pattern.compile? { ignoreCase := true } (triggerSource trigger)
  return ⟨c, t, tag⟩

def ofFields : List Text → Except RowFault CommandRule
  | [context, trigger, tag] =>
    match make? context trigger tag with
    | some r => .ok r
    | none => .error .invalidPattern
  | fields => .error (.fieldCount 3 fields.length)

/-- Whether the rule is active in a context. -/
def appliesTo (r : CommandRule) (context : Text) : Bool :=
  match r.context with
  | none => true
  | some p => p.node.occursIn context

/-- The values of the groups, numbered from `index` on: the unnamed ones, and the named ones. -/
def groupValues (m : Match) (index : Nat) : List (Option Text) → List Text × List (Text × Text)
  | [] => ([], [])
  | name :: rest =>
    let value := (m.group? index).getD []
    let (args, named) := groupValues m (index + 1) rest
    match name with
    | some n => (args, (n, value) :: named)
    | none => (value :: args, named)

def command (r : CommandRule) (m : Match) : Command :=
  let (args, named) := groupValues m 1 r.trigger.groups
  ⟨r.tag, args, named.mergeSort fun a b => Text.le a.1 b.1⟩

/-- Fragments with a character in front of them. -/
def pushChar (c : Char) : List Fragment → List Fragment
  | .literal t :: rest => .literal (c :: t) :: rest
  | fragments => .literal [c] :: fragments

/-- The fragments of scanned parts: commands and the text between them. -/
def fragments (r : CommandRule) : List Part → List Fragment
  | [] => []
  | .kept c :: rest => pushChar c (r.fragments rest)
  | .found m :: rest => .command (r.command m) :: r.fragments rest

def split (r : CommandRule) (t : Text) : List Fragment := r.fragments (r.trigger.node.scan t)

/-- Carves commands out of a text; a command stays as it is. -/
def splitFragment (r : CommandRule) : Fragment → List Fragment
  | .literal t => r.split t
  | .command c => [.command c]

end CommandRule

/-- Command rules in the order in which they are applied. -/
structure CommandTable where
  rules : List CommandRule
  deriving DecidableEq, Repr

namespace CommandTable

/-- The table in a text, and the rows that were left out of it. -/
def parse (t : Text) : CommandTable × List SkippedRow :=
  let (rules, skipped) := readRows CommandRule.ofFields (tableRows t)
  (⟨rules⟩, skipped)

/-- What is said about a row that was left out. -/
def skippedMessage (s : SkippedRow) : Text :=
  "Skipping command trigger on line ".toList ++ Nat.toDigits 10 s.row ++ ": ".toList ++
    match s.fault with
    | .fieldCount _ _ => malformedMessage s.row s.fault.message
    | fault => fault.message

def shippedRows : List (List String) := [
  ["*", "correct that", "correct-that"],
  ["*", "verbatim\\s+(?P<content>.*?)(?:\\s+verbatim off|$)", "verbatim-content"]]

def shipped : CommandTable :=
  ⟨shippedRows.filterMap fun row => (CommandRule.ofFields (row.map String.toList)).toOption⟩

/-- The fragments of an utterance in a context. -/
def extract (table : CommandTable) (t context : Text) : List Fragment :=
  (table.rules.filter (·.appliesTo context)).foldl
    (fun fragments r => fragments.flatMap r.splitFragment) [.literal t]

end CommandTable

end Dictation
