import Dictation.Settings
import Dictation.Vocabulary.BuiltIn
import Dictation.Vocabulary.Layered
import Dictation.Segmentation
import Dictation.Vocabulary.Store
/-!
# Settings and files

Settings are read from files, and they name files: vocabularies and tables.
-/
namespace Dictation

open Files

/-- Where a program keeps its files; a directory may be unknown. -/
structure Directories where
  /-- The directory of the settings for all projects. -/
  settings : Option Path
  /-- The directory of installed vocabularies. -/
  data : Option Path
  deriving DecidableEq, Repr

namespace Settings

/-- The file of the settings for the project in the working directory. -/
def projectFile : Path := ".dictate.toml"

/-- The files with settings, those for the project last. -/
def files (ds : Directories) : List Path :=
  (ds.settings.map (Path.join · "config.toml")).toList ++ [projectFile]

variable {m : Type → Type} [Monad m] [FileSystem m]

def read (p : Path) : Task m Settings := do
  let t ← during (.readSettings p) (attempt (readText p))
  match parse? t with
  | some s => return s
  | none => throw (.malformedSettings p)

/-- Lays the settings in a file, if there is one, over others. -/
def overlayFile (s : Settings) (p : Path) : Task m Settings := do
  let present : m Bool := pathExists p
  if ← present then return s.overlaid (← read p) else return s

/-- The settings in force: defaults, those for all projects, those for the project, and those for a
single run, the later over the earlier. -/
def load (ds : Directories) (o : Overrides) : Task m Settings := do
  let s ← (files ds).foldlM overlayFile {}
  return s.overridden o

/-- The vocabulary that is chosen, else the one that is installed for the language, else the built-in
one. -/
def baseVocabulary (s : Settings) (ds : Directories) : Task m Vocabulary := do
  match s.dictionary, ds.data with
  | some p, _ => openVocabulary p
  | none, none => return WordList.builtIn.toVocabulary
  | none, some directory =>
    let p := InstalledVocabulary.pathIn directory s.language
    let present : m Bool := pathExists p
    if ← present then openVocabulary p else return WordList.builtIn.toVocabulary

/-- The vocabulary with the custom words, whose pronunciations come first. -/
def vocabulary (s : Settings) (ds : Directories) : Task m Vocabulary := do
  let base ← s.baseVocabulary ds
  match s.customDictionary with
  | none => return base
  | some p =>
    let custom ← openListing (.readCustomWords p) p
    return .layered [custom.toVocabulary, base]

def segmenter (s : Settings) (ds : Directories) : Task m Segmenter := do
  return ⟨← s.vocabulary ds, s.guessRunTogether⟩

def readTable (p : Path) : Task m Text := during (.readTable p) (attempt (readText p))

/-- The rules that are set, else the shipped ones. -/
def ruleTable (s : Settings) : Task m RuleTable := do
  match s.rules with
  | none => return .shipped
  | some p =>
    match (RuleTable.parse (← readTable p)).1 with
    | some table => return table
    | none => throw .emptyTable

/-- The commands that are set, else the shipped ones. -/
def commandTable (s : Settings) : Task m CommandTable := do
  match s.commands with
  | none => return .shipped
  | some p => return (CommandTable.parse (← readTable p)).1

/-- An interpreter in the context that is set. -/
def interpreter (s : Settings) : Task m Interpreter := do
  let rules ← s.ruleTable
  let i := Interpreter.new rules (← s.commandTable)
  return if s.context = Interpreter.rootContext then i else i.pushContext s.context

end Settings

end Dictation
