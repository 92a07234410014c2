import Dictation.Rewrite.Action
/-!
# Rewriting rules

A rule replaces each match of a pattern, without regard to case. The rules of a table are applied in
order, each of them to the whole text.
-/
namespace Dictation

inductive RowFault where
  | fieldCount (expected found : Nat)
  | invalidPattern
  | unresolvedAction (e : UnresolvedAction)
  deriving DecidableEq, Repr

/-- What is said about a row with the given number. -/
def malformedMessage (row : Nat) (reason : Text) : Text :=
  "Malformed rule line ".toList ++ Nat.toDigits 10 row ++ ": ".toList ++ reason

/-- What is said about an invalid pattern, up to the reason. -/
def invalidPatternMessage : Text := "Invalid pattern: "

def RowFault.message : RowFault → Text
  | fieldCount expected found =>
    "expected ".toList ++ Nat.toDigits 10 expected ++ " tab-separated fields, found ".toList ++
      Nat.toDigits 10 found
  | invalidPattern => invalidPatternMessage
  | unresolvedAction e => e.message

structure Rule where
  /-- The pattern as it was written. -/
  source : Text
  pattern : Pattern
  action : Action
  deriving DecidableEq, Repr

namespace Rule

/-- Patterns of rules match in any case, and a point matches newlines, too. -/
def flags : Flags := { ignoreCase := true, dotAll := true }

/-- The rule with the given pattern and action. -/
def make? (source : Text) (a : Action) : Option Rule :=
  (Pattern.compile? flags source).map fun p => ⟨source, p, a⟩

def apply (r : Rule) (t : Text) : Text := r.pattern.replace (r.action.apply r.pattern) t

def ofFields : List Text → Except RowFault Rule
  | [source, action] =>
    match Action.parse action with
    | .error e => .error (.unresolvedAction e)
    | .ok a =>
      match make? source a with
      | some r => .ok r
      | none => .error .invalidPattern
  | fields => .error (.fieldCount 2 fields.length)

end Rule

/-- A row that was left out of a table: its number and what is wrong with it. -/
structure SkippedRow where
  row : Nat
  fault : RowFault
  deriving DecidableEq, Repr

/-- The rows of a table that are not blank, each with its number and its fields. -/
def tableRows (t : Text) : List (Nat × List Text) :=
  (t.lines.zipIdx 1).filterMap fun (line, n) =>
    if line.isBlankText then none
    else some (n, Text.fields '\t' (line.dropEndWhile (· = '\r')))

/-- The values of the rows of a table, and the rows that have none. -/
def readRows {α : Type} (ofFields : List Text → Except RowFault α) :
    List (Nat × List Text) → List α × List SkippedRow
  | [] => ([], [])
  | (n, fields) :: rest =>
    let (values, skipped) := readRows ofFields rest
    match ofFields fields with
    | .ok v => (v :: values, skipped)
    | .error fault => (values, ⟨n, fault⟩ :: skipped)

/-- Rules in the order in which they are applied. -/
structure RuleTable where
  rules : List Rule
  deriving DecidableEq, Repr

namespace RuleTable

/-- What is said about a table without any rule. -/
def emptyMessage : Text := "Rule table contains no usable rules"

/-- A table of the given rules; without rules there is none. -/
def ofRules? (rules : List Rule) : Option RuleTable :=
  if rules.isEmpty then none else some ⟨rules⟩

/-- The table in a text, and the rows that were left out of it. -/
def parse (t : Text) : Option RuleTable × List SkippedRow :=
  let (rules, skipped) := readRows Rule.ofFields (tableRows t)
  (ofRules? rules, skipped)

/-- What is said about a row that was left out. -/
def skippedMessage (s : SkippedRow) : Text :=
  "Skipping rule: ".toList ++ malformedMessage s.row s.fault.message

def apply (table : RuleTable) (t : Text) : Text := table.rules.foldl (fun t r => r.apply t) t

end RuleTable

end Dictation
