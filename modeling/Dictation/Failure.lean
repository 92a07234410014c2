import Dictation.Files.FileSystem
import Dictation.Message
import Dictation.Rewrite.Rule
/-!
# Failures

Why a task was given up. A failure may have happened during an activity; it is told by the activity
and what went wrong in it.
-/
namespace Dictation

open Files

inductive Activity where
  | readVocabulary (p : Path)
  | openVocabulary (p : Path)
  | mapVocabulary (p : Path)
  | createVocabulary (p : Path)
  | finishVocabulary
  | createDataDirectory
  | readPronunciations (p : Path)
  | readCustomWords (p : Path)
  | readTable (p : Path)
  | readSettings (p : Path)
  | walk (p : Path)
  | readFile (p : Path)
  | encode (p : Path)
  | createOutput (p : Path)
  | readInput
  deriving DecidableEq, Repr

def Activity.message : Activity → Text
  | readVocabulary p => "Failed to read dictionary: ".toList ++ p
  | openVocabulary p => "Failed to open dictionary: ".toList ++ p
  | mapVocabulary p => "Failed to map dictionary: ".toList ++ p
  | createVocabulary p => "Failed to create dictionary: ".toList ++ p
  | finishVocabulary => "Failed to finalize dictionary"
  | createDataDirectory => "Failed to create data directory"
  | readPronunciations p => "Failed to read pronunciation file: ".toList ++ p
  | readCustomWords p => "Failed to read custom dictionary: ".toList ++ p
  | readTable p => "Failed to read table: ".toList ++ p
  | readSettings p => "Failed to read config file: ".toList ++ p
  | walk p => "Error walking ".toList ++ p
  | readFile p => "Failed to read file: ".toList ++ p
  | encode p => "Failed to encode ".toList ++ p
  | createOutput p => "Failed to create output file: ".toList ++ p
  | readInput => "Failed to read stdin"

inductive Failure where
  | during (a : Activity) (cause : Failure)
  | io (e : IoError)
  | vocabulary (e : VocabularyError)
  /-- A file is no compiled vocabulary. -/
  | notCompiled
  /-- A compiled vocabulary does not take a key. -/
  | refusedKey
  /-- A file holds no settings. -/
  | malformedSettings (p : Path)
  /-- A pronunciation file has no entries. -/
  | noEntries (p : Path)
  | emptyTable
  | missingFile (p : Path)
  | noFiles
  | noDataDirectory
  /-- A line of the input is no record. -/
  | invalidRecord (line : Nat)
  deriving DecidableEq, Repr

namespace Failure

/-- The failure told by the activity, or else by what went wrong. -/
def message : Failure → Text
  | during a _ => a.message
  | io e => e.message
  | vocabulary e => e.message
  | notCompiled => "Failed to parse dictionary"
  | refusedKey => "Failed to insert word into dictionary"
  | malformedSettings p => "Failed to parse config file: ".toList ++ p
  | noEntries p => "No entries found in ".toList ++ p
  | emptyTable => RuleTable.emptyMessage
  | missingFile p => "File not found: ".toList ++ p
  | noFiles => "No files found in the provided paths"
  | noDataDirectory => "Failed to get data directory"
  | invalidRecord line => "Invalid record on line ".toList ++ Nat.toDigits 10 line

def account : Failure → Text
  | during a cause => a.message ++ ": ".toList ++ cause.account
  | f => f.message

/-- What went wrong, apart from what was being done. -/
def root : Failure → Failure
  | during _ cause => cause.root
  | f => f

end Failure

/-- Work that may fail. -/
abbrev Task (m : Type → Type) := ExceptT Failure m

section
variable {m : Type → Type} [Monad m] {α : Type}

/-- Does something that the file system may refuse. -/
def attempt (x : m (Except IoError α)) : Task m α := ExceptT.mk do
  return (← x).mapError Failure.io

def during (a : Activity) (x : Task m α) : Task m α := ExceptT.mk do
  return (← x.run).mapError (Failure.during a)

end

end Dictation
