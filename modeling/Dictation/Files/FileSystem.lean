import Dictation.Files.Path
import Dictation.Text.Utf8
/-!
# File systems

What a program asks of a file system. Nothing else is known of it, so that the same program runs on
the files of a machine and on files that are a value.
-/
namespace Dictation.Files

inductive Kind where
  | file
  | directory
  deriving DecidableEq, Repr

inductive IoError where
  | notFound
  | alreadyExists
  | noDevice
  | notDirectory
  | isDirectory
  /-- The bytes of a file are no text. -/
  | notText
  /-- Any other reason, as the system gives it. -/
  | other (reason : String)
  deriving DecidableEq, Repr

def systemReason (reason : String) (number : Nat) : Text :=
  reason.toList ++ " (os error ".toList ++ Nat.toDigits 10 number ++ [')']

def IoError.message : IoError → Text
  | notFound => systemReason "No such file or directory" 2
  | alreadyExists => systemReason "File exists" 17
  | noDevice => systemReason "No such device" 19
  | notDirectory => systemReason "Not a directory" 20
  | isDirectory => systemReason "Is a directory" 21
  | notText => "stream did not contain valid UTF-8"
  | other reason => reason

class FileSystem (m : Type → Type) where
  /-- What stands at a path, if anything does. -/
  kind? : Path → m (Option Kind)
  /-- The content of a file. -/
  read : Path → m (Except IoError Bytes)
  /-- The names in a directory, in no order. -/
  list : Path → m (Except IoError (List Text))
  /-- The absolute path of what stands at a path, without steps to parents. -/
  locate : Path → m (Option Path)
  /-- Makes a directory and those above it, as far as they are missing. -/
  createDirectories : Path → m (Except IoError Unit)
  /-- Gives a file a content. -/
  write : Path → Bytes → m (Except IoError Unit)

section
variable {m : Type → Type} [Monad m] [FileSystem m]

def pathExists (p : Path) : m Bool := do return (← FileSystem.kind? p).isSome

def isFile (p : Path) : m Bool := do return (← FileSystem.kind? p) = some .file

def readText (p : Path) : m (Except IoError Text) := do
  match ← FileSystem.read p with
  | .error e => return .error e
  | .ok bs =>
    match bs.text? with
    | some t => return .ok t
    | none => return .error .notText

end

end Dictation.Files
