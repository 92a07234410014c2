import Dictation.CommandLine.Request
import Dictation.Files.Inputs
import Dictation.Json.Parser
import Dictation.Settings.Sources
import Dictation.Source.Document
/-!
# Running requests

What a request writes and with which status the program ends: 0 if all went well, 1 if some files
could not be encoded, and 2 if the request failed or was not understood.
-/
namespace Dictation.CommandLine

open Files

structure Outcome where
  status : Nat := 0
  output : Text := []
  errors : Text := []
  deriving DecidableEq, Repr

namespace Outcome

def ofText (t : Text) : Outcome := { output := t }

def errorLine (f : Failure) : Text := Report.line ("Error: ".toList ++ f.account)

/-- The outcome after something was written and a failure, if any, put an end to it. -/
def ofProgress (written : Text) : Option Failure → Outcome
  | none => { output := written }
  | some f => { status := 2, output := written, errors := errorLine f }

def ofTask : Except Failure Outcome → Outcome
  | .ok o => o
  | .error f => ofProgress [] (some f)

end Outcome

structure Surroundings where
  directories : Directories
  /-- Whether the output goes to a terminal, which can show emphasis. -/
  terminal : Bool

/-- The record on a line with the given number: the line itself with the number as its name, or what
the line says. -/
def recordOfLine (records : Bool) (number : Nat) (line : Text) : Except Failure Record :=
  if records then
    match (Json.parse? line).bind Record.ofJson? with
    | some r => .ok r
    | none => .error (.invalidRecord number)
  else .ok { Record.ofText line with uttid := Nat.toDigits 10 number }

def textOfLine (line : Bytes) : Except Failure Text :=
  match line.text? with
  | some t => .ok t
  | none => .error (.during .readInput (.io .notText))

/-- The report on a line; a blank line has none. -/
def decodeLine (report : Record → Text) (records : Bool) (number : Nat) (line : Bytes) :
    Except Failure Text := do
  let t ← textOfLine line
  if t.isBlankText then return []
  return report (← recordOfLine records number t)

/-- Reports on lines up to the first that fails. -/
def decodeLines (report : Record → Text) (records : Bool) : Nat → List Bytes → Text × Option Failure
  | _, [] => ([], none)
  | number, line :: lines =>
    match decodeLine report records number line with
    | .error f => ([], some f)
    | .ok t =>
      let (written, failure) := decodeLines report records (number + 1) lines
      (t ++ written, failure)

/-- Reports on the segments of words up to the first that fails. -/
def segmentWords (s : Segmenter) (report : Text → List Text → Text) :
    List Text → Segmenter.Memo → Text × Option Failure
  | [], _ => ([], none)
  | word :: words, memo =>
    match (s.segmentMemo word).run memo with
    | (.error e, _) => ([], some (.vocabulary e))
    | (.ok segments, memo) =>
      let (written, failure) := segmentWords s report words memo
      (report word segments ++ written, failure)

/-- A file with its statements or what went wrong with it. -/
structure EncodedFile where
  path : Path
  result : Except Failure (List (List Text))

namespace EncodedFile

def statements (f : EncodedFile) : List (List Text) := f.result.toOption.getD []

def failure? (f : EncodedFile) : Option Failure :=
  match f.result with
  | .ok _ => none
  | .error e => some e

/-- What is written for a file; nothing if it failed. -/
def report (format : Report.Format) (f : EncodedFile) : Text :=
  match f.result with
  | .ok wss => Report.statements format f.path wss
  | .error _ => []

end EncodedFile

/-- The kind of a document with the given path. -/
def documentKind (p : Path) : Source.DocumentKind := .ofExtension ((Path.extension? p).getD [])

def encodeText (s : Segmenter) (k : Combiners) (p : Path) (t : Text) (memo : Segmenter.Memo) :
    Except Failure (List (List Text)) × Segmenter.Memo :=
  let (result, memo) := (Source.encodeDocument s.segmentMemo k (documentKind p) t).run memo
  (result.mapError fun e => .during (.encode p) (.vocabulary e), memo)

/-- The outcome of encoding: what is written for the files, and what is said about them. -/
def encodingOutcome (format : Report.Format) (toFile : Bool) (files : List EncodedFile) : Outcome :=
  let failures := files.filterMap EncodedFile.failure?
  let count := (files.flatMap (·.statements)).length
  { status := if failures.isEmpty then 0 else 1
    output := if toFile then [] else files.flatMap (·.report format)
    errors := failures.flatMap Outcome.errorLine ++
      Report.summary files.length count failures.length }

def kilobytes (bytes : Nat) : Text := Nat.toDigits 10 (bytes / 1024)

def importHint (language : Text) : Text :=
  "Run dictate dict import <FILE> --language ".toList ++ language ++ " to install ".toList

def listReport (directory : Path) (vs : List InstalledVocabulary) : Text :=
  if vs.isEmpty then
    Report.line "No dictionaries installed." ++ Report.line (importHint "en_US" ++ "one.".toList)
  else
    Report.line "Installed dictionaries:" ++ Report.line [] ++
      vs.flatMap (fun v => Report.line ("  ✓ ".toList ++ v.language ++ " (".toList ++
        kilobytes v.size ++ "KB)".toList)) ++
      Report.line [] ++ Report.line ("Data directory: ".toList ++ directory)

def missingReport (language : Text) : Text :=
  Report.line ("✗ Dictionary for ".toList ++ language ++ " not found.".toList) ++
    Report.line (importHint language ++ "it.".toList)

def infoReport (v : InstalledVocabulary) : Text :=
  Report.line ("Dictionary: ".toList ++ v.language) ++
    Report.line ("  Path: ".toList ++ v.path) ++
    Report.line ("  Size: ".toList ++ kilobytes v.size ++ " KB".toList) ++
    Report.line ("  Entries: ".toList ++ Nat.toDigits 10 v.entryCount) ++
    Report.line "  Format: FST (word and pronunciation keys)"

def importingReport (source : Path) (language : Text) : Text :=
  Report.line ("Importing ".toList ++ source ++ " as ".toList ++ language ++ "...".toList)

def importedReport (v : InstalledVocabulary) : Text :=
  Report.line ("✓ Dictionary installed: ".toList ++ v.path ++ " (".toList ++
    Nat.toDigits 10 v.entryCount ++ " entries)".toList)

section
variable {m : Type → Type} [Monad m] [FileSystem m]

/-- Encodes files one after the other with one memo. -/
def encodeFiles (s : Segmenter) (k : Combiners) : List Path → Segmenter.Memo → m (List EncodedFile)
  | [], _ => return []
  | p :: ps, memo => do
    match ← readText p with
    | .error e => return ⟨p, .error (.during (.readFile p) (.io e))⟩ :: (← encodeFiles s k ps memo)
    | .ok t =>
      let (result, memo) := encodeText s k p t memo
      return ⟨p, result⟩ :: (← encodeFiles s k ps memo)

/-- Encodes files with a new memo, and writes their statements to a file if one is named. -/
def encodeAll (s : Segmenter) (k : Combiners) (format : Report.Format) (inputs : List Path)
    (output : Option Path) : Task m Outcome := do
  let encoding : m (List EncodedFile) := encodeFiles s k inputs ∅
  let files ← encoding
  if let some p := output then
    let content := Bytes.ofText (files.flatMap (·.report format))
    during (.createOutput p) (attempt (FileSystem.write p content))
  return encodingOutcome format output.isSome files

def runEncode (around : Surroundings) (settings : Settings) (format : Report.Format)
    (paths : List Path) (output : Option Path) : Task m Outcome := do
  let inputs ← resolveInputs paths
  let s ← settings.segmenter around.directories
  encodeAll s settings.combiners format inputs output

def runDecode (settings : Settings) (format : Report.Format) (colored : Bool)
    (input : m Bytes) (texts : List Text) (records : Bool) : Task m Outcome := do
  let i ← settings.interpreter
  let report := fun r => Report.interpretations format colored (i.interpret r)
  if !texts.isEmpty then
    return .ofText (report (.ofText (Text.join [' '] texts)))
  let (written, failure) := decodeLines report records 1 (← input).lines
  return .ofProgress written failure

def runSegment (around : Surroundings) (settings : Settings) (format : Report.Format)
    (colored : Bool) (words : List Text) : Task m Outcome := do
  let s ← settings.segmenter around.directories
  let (written, failure) := segmentWords s (Report.segmentation format colored) words ∅
  return .ofProgress written failure

def dataDirectory (around : Surroundings) : Task m Path :=
  match around.directories.data with
  | some p => return p
  | none => throw .noDataDirectory

def runList (around : Surroundings) : Task m Outcome := do
  let directory ← dataDirectory around
  let (vs, _) ← installedVocabularies directory
  return .ofText (listReport directory vs)

def runInfo (around : Surroundings) (language : Text) : Task m Outcome := do
  let p := InstalledVocabulary.pathIn (← dataDirectory around) language
  let present : m Bool := pathExists p
  if ← present then return .ofText (infoReport (← readInstalled p))
  return .ofText (missingReport language)

def runImport (around : Surroundings) (source : Path) (language : Text) : m Outcome := do
  let before := importingReport source language
  let work : Task m InstalledVocabulary := do
    importVocabulary (← dataDirectory around) source language
  match ← work.run with
  | .ok v => return .ofText (before ++ importedReport v)
  | .error f => return .ofProgress before (some f)

/-- Runs an invocation under the settings in force. -/
def runInvocation (around : Surroundings) (input : m Bytes) (call : Invocation) : Task m Outcome := do
  let settings ← Settings.load around.directories call.overrides
  let colored := around.terminal && !call.noColor
  match call.request with
  | .encode paths output => runEncode around settings call.format paths output
  | .decode texts records => runDecode settings call.format colored input texts records
  | .segment words => runSegment around settings call.format colored words
  | .listVocabularies => runList around
  | .importVocabulary source => ExceptT.lift (runImport around source settings.language)
  | .vocabularyInfo language => runInfo around (language.getD settings.language)

def usage : Text := "Translate between source code and dictation words

Usage: dictate [OPTIONS] <COMMAND>

Commands:
  encode <PATHS>...      Encode source files into dictation statements
  decode [TEXT]...       Interpret recognized speech
  segment <WORDS>...     Show how words are split into dictionary words
  dict list              List installed dictionaries
  dict import <FILE>     Install a pronunciation listing for the language
  dict info [LANGUAGE]   Show dictionary info
"

def versionLine : Text := Report.line "dictate 0.1.0"

/-- The outcome when arguments are not read to their end. -/
def Stop.outcome : Stop → Outcome
  | help => { output := usage }
  | version => { output := versionLine }
  | misuse e => { status := 2, errors := Report.line ("error: ".toList ++ e.message) }

/-- Runs a command line. The input is read only if it is needed. -/
def run (around : Surroundings) (input : m Bytes) (args : List Text) : m Outcome := do
  match readArguments args with
  | .error stop => return stop.outcome
  | .ok call => return .ofTask (← (runInvocation around input call).run)

end

end Dictation.CommandLine
