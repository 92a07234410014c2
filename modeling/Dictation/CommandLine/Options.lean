import Dictation.Text.Basic
/-!
# Options and operands

Arguments of a command line are options, which start with a minus sign, and operands. Options of one
letter can be written together; a value stands in the next argument or behind its option. Two minus
signs alone end the options. At some levels of a command line the first operand names a command, to
which the other arguments belong.
-/
namespace Dictation.CommandLine

inductive Misuse where
  | unknownOption (name : Text)
  | missingValue (name : Text)
  | needlessValue (name : Text)
  | invalidValue (name : Text)
  | repeatedOption (name : Text)
  | unexpectedOperand (t : Text)
  | missingOperand (name : Text)
  | missingCommand
  deriving DecidableEq, Repr

def Misuse.message : Misuse → Text
  | unknownOption name => "unknown option ".toList ++ name
  | missingValue name => "no value for option ".toList ++ name
  | needlessValue name => "option without a value: ".toList ++ name
  | invalidValue name => "invalid value for ".toList ++ name
  | repeatedOption name => "option given twice: ".toList ++ name
  | unexpectedOperand t => "unexpected argument ".toList ++ t
  | missingOperand name => "missing argument ".toList ++ name
  | missingCommand => "missing command"

inductive Stop where
  | help
  | version
  | misuse (e : Misuse)
  deriving DecidableEq, Repr

inductive OptionKind where
  /-- Is given or not. -/
  | flag
  /-- May be given more than once. -/
  | counter
  /-- Takes a value, of which some may be refused. -/
  | value (accepts : Text → Bool)
  /-- Ends the reading. -/
  | stops (s : Stop)

structure OptionSpec where
  letter : Option Char
  name : Text
  kind : OptionKind

/-- What is allowed at one level of a command line. -/
structure Level where
  options : List OptionSpec
  /-- The names of commands; without commands there can be operands. -/
  commands : List Text := []
  /-- The greatest number of operands, if there is one. -/
  mostOperands : Option Nat := none

structure Found where
  /-- Options by name with their values, in order. -/
  given : List (Text × Text) := []
  operands : List Text := []
  /-- A command and its arguments. -/
  command : Option (Text × List Text) := none
  deriving DecidableEq, Repr

/-- What is found, and an option that waits for its value. -/
abbrev Waiting := Found × Option Text

namespace Found

def isGiven (f : Found) (name : Text) : Bool := f.given.any (·.1 = name)

/-- Adds an option; only a counter may be there already. -/
def give (f : Found) (o : OptionSpec) (value : Text) : Except Stop Found :=
  let isCounter := match o.kind with
    | .counter => true
    | _ => false
  if f.isGiven o.name && !isCounter then .error (.misuse (.repeatedOption o.name))
  else .ok { f with given := f.given ++ [(o.name, value)] }

def giveValue (f : Found) (o : OptionSpec) (value : Text) : Except Stop Found :=
  match o.kind with
  | .value accepts =>
    if accepts value then f.give o value else .error (.misuse (.invalidValue o.name))
  | _ => .error (.misuse (.needlessValue o.name))

/-- Adds an option that stands without a value. One that takes a value waits for it. -/
def giveName (f : Found) (o : OptionSpec) : Except Stop Waiting :=
  match o.kind with
  | .value _ => .ok (f, some o.name)
  | .stops s => .error s
  | _ => (f.give o []).map fun f => (f, none)

/-- Adds an operand, if there may be one more. -/
def addOperand (f : Found) (l : Level) (t : Text) : Except Stop Found :=
  let most := if l.commands.isEmpty then l.mostOperands else some 0
  if most.any (· ≤ f.operands.length) then .error (.misuse (.unexpectedOperand t))
  else .ok { f with operands := f.operands ++ [t] }

end Found

namespace Level

def named? (l : Level) (name : Text) : Except Stop OptionSpec :=
  match l.options.find? (·.name = name) with
  | some o => .ok o
  | none => .error (.misuse (.unknownOption name))

def lettered? (l : Level) (c : Char) : Except Stop OptionSpec :=
  match l.options.find? (·.letter = some c) with
  | some o => .ok o
  | none => .error (.misuse (.unknownOption [c]))

/-- Reads an option by its name, with a value behind an equals sign if there is one. -/
def readName (l : Level) (f : Found) (t : Text) : Except Stop Waiting := do
  match Text.splitFirst? '=' t with
  | some (name, value) => return (← f.giveValue (← l.named? name) value, none)
  | none => f.giveName (← l.named? t)

/-- Reads options of one letter. What follows an option that takes a value is the value, with or without
an equals sign. -/
def readLetters (l : Level) (f : Found) : Text → Except Stop Waiting
  | [] => .ok (f, none)
  | c :: rest => do
    let o ← l.lettered? c
    match ← f.giveName o with
    | (f, none) => l.readLetters f rest
    | (f, some name) =>
      if rest.isEmpty then return (f, some name)
      return (← f.giveValue o (if rest.head? = some '=' then rest.drop 1 else rest), none)

/-- Whether an argument is an option or ends the options. A minus sign alone is an operand. -/
def isOption (t : Text) : Bool := t.head? = some '-' && t ≠ ['-']

def readOption (l : Level) (f : Found) (t : Text) : Except Stop Waiting :=
  match Text.dropPrefix? ['-', '-'] t with
  | some t => l.readName f t
  | none => l.readLetters f (t.drop 1)

/-- Reads arguments behind the end of the options. -/
def readOperands (l : Level) (f : Found) (ts : List Text) : Except Stop Found :=
  ts.foldlM (fun f t => f.addOperand l t) f

/-- Reads arguments; the first may be the value for which an option waits. -/
def read (l : Level) : Waiting → List Text → Except Stop Found
  | (f, none), [] => .ok f
  | (_, some name), [] => .error (.misuse (.missingValue name))
  | (f, some name), t :: ts => do
    if isOption t then throw (.misuse (.missingValue name))
    l.read (← f.giveValue (← l.named? name) t, none) ts
  | (f, none), t :: ts => do
    if t = ['-', '-'] then l.readOperands f ts
    else if isOption t then l.read (← l.readOption f t) ts
    else if t ∈ l.commands then return { f with command := some (t, ts) }
    else l.read (← f.addOperand l t, none) ts

end Level

end Dictation.CommandLine
