import Dictation.CommandLine.Options
import Dictation.Report
import Dictation.Settings
/-!
# Requests

What can be asked for on the command line.
-/
namespace Dictation.CommandLine

open Files

inductive Request where
  | encode (paths : List Path) (output : Option Path)
  /-- Texts to interpret; without any the input is read, as texts or as records. -/
  | decode (texts : List Text) (records : Bool)
  | segment (words : List Text)
  | listVocabularies
  | importVocabulary (source : Path)
  /-- About the vocabulary of a language, else of the language that is set. -/
  | vocabularyInfo (language : Option Text)
  deriving DecidableEq, Repr

/-- A request with the options that go with any request. -/
structure Invocation where
  request : Request
  overrides : Settings.Overrides
  format : Report.Format
  noColor : Bool
  deriving DecidableEq, Repr

def helpOption : OptionSpec := ⟨some 'h', "help", .stops .help⟩

def commonOptions : List OptionSpec := [
  ⟨some 'v', "verbose", .counter⟩,
  ⟨none, "no-color", .flag⟩,
  ⟨some 'l', "language", .value fun _ => true⟩,
  ⟨some 'd', "dictionary", .value fun t => !t.isEmpty⟩,
  ⟨none, "no-guess", .flag⟩,
  ⟨some 'f', "format", .value fun t => (Report.Format.ofName? t).isSome⟩,
  helpOption]

def topLevel : Level where
  options := ⟨some 'V', "version", .stops .version⟩ :: commonOptions
  commands := ["encode", "decode", "segment", "dict", "help"]

def encodeLevel : Level where
  options := ⟨some 'o', "output", .value fun t => !t.isEmpty⟩ :: commonOptions

def decodeLevel : Level where
  options := ⟨none, "records", .flag⟩ :: commonOptions

def segmentLevel : Level where
  options := commonOptions

def dictLevel : Level where
  options := commonOptions
  commands := ["list", "import", "info", "help"]

/-- The level of a command with at most so many operands. -/
def operandLevel (most : Nat) : Level where
  options := commonOptions
  mostOperands := some most

/-- The value of an option; one given at an inner level wins. The levels come outermost first. -/
def valueOf? (levels : List Found) (name : String) : Option Text :=
  levels.reverse.findSome? fun f => f.given.reverse.lookup name.toList

def invoke (levels : List Found) (request : Request) : Invocation where
  request := request
  overrides := {
    language := valueOf? levels "language"
    dictionary := valueOf? levels "dictionary"
    noGuess := (valueOf? levels "no-guess").isSome }
  format := ((valueOf? levels "format").bind Report.Format.ofName?).getD .text
  noColor := (valueOf? levels "no-color").isSome

def needOperand (name : String) (f : Found) : Except Stop (List Text) :=
  if f.operands.isEmpty then .error (.misuse (.missingOperand name)) else .ok f.operands

def checkPath (name : String) (t : Text) : Except Stop Path :=
  if t.isEmpty then .error (.misuse (.invalidValue name)) else .ok t

def readEncode (outer : List Found) (args : List Text) : Except Stop Invocation := do
  let f ← encodeLevel.read ({}, none) args
  let paths ← (← needOperand "PATHS" f).mapM (checkPath "PATHS")
  return invoke (outer ++ [f]) (.encode paths (valueOf? [f] "output"))

def readDecode (outer : List Found) (args : List Text) : Except Stop Invocation := do
  let f ← decodeLevel.read ({}, none) args
  return invoke (outer ++ [f]) (.decode f.operands (f.isGiven "records"))

def readSegment (outer : List Found) (args : List Text) : Except Stop Invocation := do
  let f ← segmentLevel.read ({}, none) args
  return invoke (outer ++ [f]) (.segment (← needOperand "WORDS" f))

def readList (outer : List Found) (args : List Text) : Except Stop Invocation := do
  let f ← (operandLevel 0).read ({}, none) args
  return invoke (outer ++ [f]) .listVocabularies

def readImport (outer : List Found) (args : List Text) : Except Stop Invocation := do
  let f ← (operandLevel 1).read ({}, none) args
  let source ← checkPath "FILE" ((← needOperand "FILE" f).headD [])
  return invoke (outer ++ [f]) (.importVocabulary source)

def readInfo (outer : List Found) (args : List Text) : Except Stop Invocation := do
  let f ← (operandLevel 1).read ({}, none) args
  return invoke (outer ++ [f]) (.vocabularyInfo f.operands.head?)

/-- The names of the commands inside a command. -/
def innerCommands (name : Text) : List Text :=
  if name = "dict".toList then dictLevel.commands else []

/-- What a call for help on a command leads to: each name stands inside the one before it. -/
def helpOn : List Text → List Text → Stop
  | _, [] => .help
  | commands, name :: names =>
    if name ∈ commands then helpOn (innerCommands name) names
    else .misuse (.unexpectedOperand name)

def readDict (outer : List Found) (args : List Text) : Except Stop Invocation := do
  let f ← dictLevel.read ({}, none) args
  match f.command with
  | none => throw (.misuse .missingCommand)
  | some (name, args) =>
    if name = "list".toList then readList (outer ++ [f]) args
    else if name = "import".toList then readImport (outer ++ [f]) args
    else if name = "info".toList then readInfo (outer ++ [f]) args
    else throw (helpOn dictLevel.commands args)

/-- The invocation that arguments stand for. Without a command only help is given. -/
def readArguments (args : List Text) : Except Stop Invocation := do
  let f ← topLevel.read ({}, none) args
  match f.command with
  | none => throw .help
  | some (name, args) =>
    if name = "encode".toList then readEncode [f] args
    else if name = "decode".toList then readDecode [f] args
    else if name = "segment".toList then readSegment [f] args
    else if name = "dict".toList then readDict [f] args
    else throw (helpOn topLevel.commands args)

end Dictation.CommandLine
