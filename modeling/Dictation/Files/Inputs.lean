import Dictation.Failure
import Dictation.Files.IgnoreRules
/-!
# Input files

The files that some paths stand for: files as they are named, and all files below directories but for
those that are hidden or left out by rules. Rules of nearer directories come before those of outer
ones. Some rules count only inside a repository, up to its own directory.
-/
namespace Dictation.Files

/-- The rules that a directory adds for what is below it. -/
structure Level where
  rules : IgnoreRules
  /-- Rules that count only inside a repository. -/
  repositoryRules : IgnoreRules
  excludeRules : IgnoreRules
  isRepository : Bool
  deriving Repr

/-- The levels that count in a directory, the nearest first, each with the way from its directory. -/
abbrev Levels := List (Level × List Text)

namespace Levels

/-- What the first level with anything to say says. -/
def firstVerdict? (ls : Levels) (rules : Level → IgnoreRules) (name : Text) (k : Kind) :
    Option Verdict :=
  ls.findSome? fun (level, way) =>
    (rules level).verdict? (Bytes.ofText (Text.join ['/'] (way ++ [name]))) k

/-- The levels up to the directory of the repository; none outside of any. -/
def inRepository (ls : Levels) : Levels :=
  if ls.any (·.1.isRepository) then
    ls.takeWhile (!·.1.isRepository) ++ (ls.dropWhile (!·.1.isRepository)).take 1
  else []

/-- What the rules say about a name in the directory. -/
def verdict? (ls : Levels) (name : Text) (k : Kind) : Option Verdict :=
  ((ls.firstVerdict? (·.rules) name k).or
    (ls.inRepository.firstVerdict? (·.repositoryRules) name k)).or
    (ls.inRepository.firstVerdict? (·.excludeRules) name k)

/-- Whether a name in the directory is passed over. Rules can bring back what is hidden. -/
def skips (ls : Levels) (name : Text) (k : Kind) : Bool :=
  match ls.verdict? name k with
  | some .ignored => true
  | some .restored => false
  | none => name.head? = some '.'

def enter (ls : Levels) (name : Text) (level : Level) : Levels :=
  (level, []) :: ls.map fun (l, way) => (l, way ++ [name])

end Levels

section
variable {m : Type → Type} [Monad m] [FileSystem m]

/-- The rules in a file; none if it cannot be read. -/
def readRules (p : Path) : m IgnoreRules := do
  match ← FileSystem.read p with
  | .ok bs => return .ofBytes bs
  | .error _ => return []

def readLevel (directory : Path) : m Level := do
  let below := Path.join directory
  let repository ← pathExists (below ".git")
  return {
    rules := ← readRules (below ".ignore")
    repositoryRules := ← readRules (below ".gitignore")
    excludeRules := ← readRules (below ".git/info/exclude")
    isRepository := repository || (← pathExists (below ".jj")) }

/-- The levels above a directory of which the path from the root is known: the root's first, each for
the rest of the path. -/
def outerLevels : Path → List Text → Levels → m Levels
  | _, [], found => pure found
  | directory, name :: names, found => do
    let level ← readLevel directory
    outerLevels (Path.join directory name) names ((level, name :: names) :: found)

/-- The levels in a directory at which a search begins. -/
def startLevels (directory : Path) : m Levels := do
  let names := ((← FileSystem.locate directory).map Path.components).getD []
  let outer ← outerLevels ['/'] names []
  return (← readLevel directory, []) :: outer

def deepest : Nat := 4096

/-- The files below a directory, down to a depth. -/
def filesBelow (start : Path) : Nat → Levels → Path → Task m (List Path)
  | 0, _, _ => return []
  | depth + 1, ls, directory => do
    let names ← during (.walk start) (attempt (FileSystem.list directory))
    let found ← names.mapM fun name => do
      let p := Path.join directory name
      let kind : m (Option Kind) := FileSystem.kind? p
      match ← kind with
      | none => return []
      | some k =>
        if ls.skips name k then return []
        match k with
        | .file => return [p]
        | .directory =>
          let level : m Level := readLevel p
          filesBelow start depth (ls.enter name (← level)) p
    return found.flatten

def filesAt (p : Path) : Task m (List Path) := do
  let kind : m (Option Kind) := FileSystem.kind? p
  match ← kind with
  | some .file => return [p]
  | some .directory =>
    let levels : m Levels := startLevels p
    filesBelow p deepest (← levels) p
  | none => throw (.missingFile p)

/-- The files that some paths stand for, in order and without repetitions. -/
def resolveInputs (ps : List Path) : Task m (List Path) := do
  let found := (← ps.mapM filesAt).flatten
  if found.isEmpty then throw .noFiles
  return Path.dropSame (found.mergeSort Path.le)

end

end Dictation.Files
