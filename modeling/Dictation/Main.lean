import Dictation.CommandLine.Run
/-!
# The program

The files, the input and the surroundings of the machine on which the program runs.
-/
namespace Dictation

open Files CommandLine

def Files.IoError.ofSystem : IO.Error → IoError
  | .noFileOrDirectory _ _ _ => .notFound
  | .alreadyExists _ _ _ => .alreadyExists
  | .inappropriateType _ 20 _ => .notDirectory
  | .inappropriateType _ 21 _ => .isDirectory
  | e => .other (toString e)

/-- Does something that the machine may refuse. -/
def attemptOnMachine {α : Type} (x : IO α) : IO (Except IoError α) :=
  try return .ok (← x) catch e => return .error (.ofSystem e)

def kindOnMachine (p : Path) : IO (Option Kind) := do
  try
    let found ← IO.FS.realPath (String.ofList p)
    return some (if ← found.isDir then .directory else .file)
  catch _ => return none

def readOnMachine (p : Path) : IO Bytes := do
  if (← kindOnMachine p) = some .directory then
    throw (.inappropriateType (some (String.ofList p)) 21 "")
  return (← IO.FS.readBinFile (String.ofList p)).toList

def listOnMachine (p : Path) : IO (List Text) := do
  let directory ← IO.FS.realPath (String.ofList p)
  return (← directory.readDir).toList.map (·.fileName.toList)

instance : FileSystem IO where
  kind? := kindOnMachine
  read p := attemptOnMachine (readOnMachine p)
  list p := attemptOnMachine (listOnMachine p)
  locate p := do
    try return some (← IO.FS.realPath (String.ofList p)).toString.toList catch _ => return none
  createDirectories p := attemptOnMachine (IO.FS.createDirAll (String.ofList p))
  write p content :=
    attemptOnMachine (IO.FS.writeBinFile (String.ofList p) ⟨content.toArray⟩)

/-- Everything that a stream still holds, after what was read from it. -/
partial def readToEnd (s : IO.FS.Stream) (before : ByteArray) : IO ByteArray := do
  let more ← s.read 65536
  if more.isEmpty then return before else readToEnd s (before ++ more)

/-- A base directory: the one that a variable names by an absolute path, or else one below the home
directory. -/
def baseDirectory? (variableName below : String) : IO (Option Path) := do
  let named := ((← IO.getEnv variableName).map String.toList).filter Path.isAbsolute
  let home := (← IO.getEnv "HOME").map String.toList
  return named.or (home.map (Path.join · below))

def surroundings : IO Surroundings := do
  let own := Option.map (Path.join · "dictate")
  return {
    directories := {
      settings := own (← baseDirectory? "XDG_CONFIG_HOME" ".config")
      data := own (← baseDirectory? "XDG_DATA_HOME" ".local/share") }
    terminal := ← (← IO.getStdout).isTty }

end Dictation

open Dictation in
def main (args : List String) : IO UInt32 := do
  let input : IO Bytes := do return (← readToEnd (← IO.getStdin) .empty).toList
  let outcome ← CommandLine.run (← surroundings) input (args.map String.toList)
  IO.print (String.ofList outcome.output)
  IO.eprint (String.ofList outcome.errors)
  return UInt32.ofNat outcome.status
