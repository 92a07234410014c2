import Dictation.Files.FileSystem
/-!
# Disks

A file system that is a value: what stands at which place, and a working directory. A place is named
by the components of its path from the root. Everything stands in a directory.
-/
namespace Dictation.Files

inductive Item where
  | file (content : Bytes)
  | directory
  deriving DecidableEq, Repr

def Item.kind : Item → Kind
  | file _ => .file
  | directory => .directory

abbrev Place := List Text

structure Disk where
  /-- What stands at places below the root. -/
  items : List (Place × Item)
  workingDirectory : Place
  deriving DecidableEq, Repr

namespace Disk

/-- A disk with nothing but a working directory, which is not made yet. -/
def empty (workingDirectory : Place) : Disk := ⟨[], workingDirectory⟩

def item? (d : Disk) (place : Place) : Option Item :=
  if place.isEmpty then some .directory else d.items.lookup place

/-- The places from the root to a place, without the root. -/
def wayTo (place : Place) : List Place := (List.range' 1 place.length).map (place.take ·)

def put (d : Disk) (place : Place) (item : Item) : Disk :=
  { d with items := (place, item) :: d.items.filter (·.1 ≠ place) }

/-- A disk with directories at the given places, where nothing stands there yet. -/
def fill (d : Disk) (places : List Place) : Disk :=
  places.foldl (fun d place => if (d.item? place).isSome then d else d.put place .directory) d

/-- Puts an item at a place, and directories above it. -/
def install (d : Disk) (place : Place) (item : Item) : Disk :=
  (d.fill (wayTo place.dropLast)).put place item

/-- Where a step from a place leads. -/
def enter (place : Place) (step : Text) : Place :=
  if step = ['.'] then place
  else if step = ['.', '.'] then place.dropLast
  else place ++ [step]

/-- Follows steps from a place. Each step is made in a directory; the last may lead to a place where
nothing stands. -/
def follow (d : Disk) : List Text → Place → Except IoError Place
  | [], place => .ok place
  | step :: steps, place =>
    match d.item? place with
    | none => .error .notFound
    | some (.file _) => .error .notDirectory
    | some .directory => d.follow steps (enter place step)

/-- The steps of a path. One that ends in a slash steps into what stands there. -/
def steps (p : Path) : List Text :=
  (Text.fields '/' p).filter (!·.isEmpty) ++ if p.getLast? = some '/' then [['.']] else []

/-- The place where a path begins. -/
def start (d : Disk) (p : Path) : Place := if p.isAbsolute then [] else d.workingDirectory

def resolve (d : Disk) (p : Path) : Except IoError Place :=
  if p.isEmpty then .error .notFound else d.follow (steps p) (d.start p)

def find (d : Disk) (p : Path) : Except IoError (Place × Item) := do
  let place ← d.resolve p
  match d.item? place with
  | some item => return (place, item)
  | none => throw .notFound

def read (d : Disk) (p : Path) : Except IoError Bytes := do
  match ← d.find p with
  | (_, .file content) => return content
  | (_, .directory) => throw .isDirectory

/-- The names at places directly below a place. -/
def namesBelow (d : Disk) (place : Place) : List Text :=
  d.items.filterMap fun (p, _) => if p.dropLast = place then p.getLast? else none

def list (d : Disk) (p : Path) : Except IoError (List Text) := do
  match ← d.find p with
  | (place, .directory) => return d.namesBelow place
  | (_, .file _) => throw .notDirectory

def pathOf (place : Place) : Path :=
  if place.isEmpty then ['/'] else place.flatMap ('/' :: ·)

/-- Makes directories at places, from the outermost on. -/
def makeAll : List Place → Disk → Except IoError Disk
  | [], d => .ok d
  | place :: inner, d =>
    match d.item? place with
    | none => makeAll inner (d.put place .directory)
    | some .directory => makeAll inner d
    | some (.file _) => .error (if inner.isEmpty then .alreadyExists else .notDirectory)

/-- The places to which steps lead one after the other. -/
def along : Place → List Text → List Place
  | _, [] => []
  | place, step :: steps => enter place step :: along (enter place step) steps

/-- Makes a directory and those on the way to it. -/
def createDirectories (d : Disk) (p : Path) : Except IoError Disk :=
  makeAll (along (d.start p) (Path.components p)) d

/-- Gives a file a content. A path that ends in a slash names no file. -/
def write (d : Disk) (p : Path) (content : Bytes) : Except IoError Disk := do
  let place ← d.resolve (p.dropEndWhile (· = '/'))
  if p.getLast? = some '/' then throw .isDirectory
  if d.item? place = some .directory then throw .isDirectory
  return d.put place (.file content)

def change (f : Disk → Except IoError Disk) : StateM Disk (Except IoError Unit) := do
  match f (← get) with
  | .ok d =>
    set d
    return .ok ()
  | .error e => return .error e

instance : FileSystem (StateM Disk) where
  kind? p := do return ((← get).find p).toOption.map (·.2.kind)
  read p := do return (← get).read p
  list p := do return (← get).list p
  locate p := do return ((← get).find p).toOption.map (pathOf ·.1)
  createDirectories p := change (·.createDirectories p)
  write p content := change (·.write p content)

end Disk

end Dictation.Files
