import Dictation.Failure
import Dictation.Vocabulary.Compiled
import Dictation.Vocabulary.WordList
/-!
# Vocabularies in files

A vocabulary file is a listing of entries or, if its name says so, a compiled vocabulary. Compiled
vocabularies are installed in a directory, one for each language.
-/
namespace Dictation

open Files

/-- The extension of files with compiled vocabularies. -/
def compiledExtension : Text := "dict"

structure InstalledVocabulary where
  language : Text
  path : Path
  entryCount : Nat
  /-- The size of its file in bytes. -/
  size : Nat
  deriving DecidableEq, Repr

namespace InstalledVocabulary

/-- The place of the vocabulary of a language in a directory of installed ones. -/
def pathIn (directory : Path) (language : Text) : Path :=
  Path.join directory (language ++ '.' :: compiledExtension)

/-- What is said about a file that is passed over. -/
def skippedMessage (p : Path) : Text := "Skipping unreadable dictionary ".toList ++ p

def le (a b : InstalledVocabulary) : Bool := Text.le a.language b.language

end InstalledVocabulary

section
variable {m : Type → Type} [Monad m] [FileSystem m]

/-- The bytes of a file with a compiled vocabulary. -/
def readCompiled (p : Path) : Task m Bytes := ExceptT.mk do
  match ← FileSystem.read p with
  | .ok bs => return .ok bs
  | .error .isDirectory => return .error (.during (.mapVocabulary p) (.io .noDevice))
  | .error e => return .error (.during (.openVocabulary p) (.io e))

def openCompiled (p : Path) : Task m CompiledVocabulary := do
  match CompiledVocabulary.ofBytes? (← readCompiled p) with
  | some v => return v
  | none => throw .notCompiled

def openListing (a : Activity) (p : Path) : Task m WordList := do
  let t ← during a (attempt (readText p))
  return WordList.empty.add (Entry.ofListing t)

def openVocabulary (p : Path) : Task m Vocabulary := do
  if Path.extension? p = some compiledExtension then
    return (← openCompiled p).toVocabulary
  return (← openListing (.readVocabulary p) p).toVocabulary

/-- Compiles entries into a file and gives the number of keys. The file is empty until all keys are taken. -/
def buildVocabulary (es : List Entry) (p : Path) : Task m Nat := do
  let v := CompiledVocabulary.build es
  during (.createVocabulary p) (attempt (FileSystem.write p []))
  if !CompiledVocabulary.areTaken (v.keys.map Bytes.ofText) then throw .refusedKey
  during .finishVocabulary (attempt (FileSystem.write p v.toBytes))
  return v.size

def readInstalled (p : Path) : Task m InstalledVocabulary := do
  let v ← openCompiled p
  return ⟨(Path.stem? p).getD "unknown", p, v.size, v.toBytes.length⟩

/-- Compiles a pronunciation file and installs it for a language. -/
def importVocabulary (directory source : Path) (language : Text) : Task m InstalledVocabulary := do
  during .createDataDirectory (attempt (FileSystem.createDirectories directory))
  let t ← during (.readPronunciations source) (attempt (readText source))
  let es := Entry.ofListing t
  if es.isEmpty then throw (.noEntries source)
  let p := InstalledVocabulary.pathIn directory language
  let _ ← buildVocabulary es p
  readInstalled p

/-- Reads vocabularies; gives those that can be read and the paths of the others. -/
def readEachInstalled : List Path → m (List InstalledVocabulary × List Path)
  | [] => pure ([], [])
  | p :: ps => do
    let result ← (readInstalled p).run
    let (found, skipped) ← readEachInstalled ps
    match result with
    | .ok v => return (v :: found, skipped)
    | .error _ => return (found, p :: skipped)

/-- The vocabularies in a directory in the order of their languages, and the files passed over. A
directory that is missing holds none. -/
def installedVocabularies (directory : Path) : Task m (List InstalledVocabulary × List Path) := do
  let present : m Bool := pathExists directory
  if !(← present) then return ([], [])
  let names ← attempt (FileSystem.list directory)
  let paths := (names.map (Path.join directory)).filter fun p =>
    Path.extension? p = some compiledExtension
  let reading : m (List InstalledVocabulary × List Path) := readEachInstalled paths
  let (found, skipped) ← reading
  return (found.mergeSort InstalledVocabulary.le, skipped.mergeSort Text.le)

end

end Dictation
