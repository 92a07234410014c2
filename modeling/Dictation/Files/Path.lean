import Dictation.Text.Basic
/-!
# Paths

A path is text with slashes between its components. Doubled slashes and single points between
components mean nothing.
-/
namespace Dictation.Files

abbrev Path := Text

namespace Path

def isAbsolute (p : Path) : Bool := p.head? = some '/'

/-- The components of a path, without the root and without points. -/
def components (p : Path) : List Text :=
  (Text.fields '/' p).filter fun c => c ≠ [] && c ≠ ['.']

/-- The last component, unless it goes to the parent. -/
def fileName? (p : Path) : Option Text :=
  match p.components.getLast? with
  | some name => if name = ['.', '.'] then none else some name
  | none => none

/-- A file name before and after its last point. A point that begins the name starts no extension. -/
def splitName (name : Text) : Text × Option Text :=
  match Text.splitLast? '.' name with
  | some (stem, extension) => if stem.isEmpty then (name, none) else (stem, some extension)
  | none => (name, none)

def extension? (p : Path) : Option Text := p.fileName?.bind fun name => (splitName name).2

def stem? (p : Path) : Option Text := p.fileName?.map fun name => (splitName name).1

/-- A path below another one; an absolute path stands for itself. -/
def join (base p : Path) : Path :=
  if p.isAbsolute || base.isEmpty then p
  else if base.getLast? = some '/' then base ++ p
  else base ++ '/' :: p

/-- The parts by which paths are ordered: the root, a point at the beginning, and the components. -/
def sortKey (p : Path) : List Text :=
  (if p.isAbsolute then [['/']] else if (Text.fields '/' p).head? = some ['.'] then [['.']] else []) ++
    p.components

/-- The rank of a part: the root, a point, a step to the parent, names. -/
def partRank (part : Text) : Nat :=
  if part = ['/'] then 0 else if part = ['.'] then 1 else if part = ['.', '.'] then 2 else 3

def lePart (a b : Text) : Bool :=
  if partRank a = partRank b then Text.le a b else partRank a < partRank b

def leKey : List Text → List Text → Bool
  | [], _ => true
  | _ :: _, [] => false
  | a :: as, b :: bs => if a = b then leKey as bs else lePart a b

def le (p q : Path) : Bool := leKey p.sortKey q.sortKey

/-- Of neighbouring paths with the same parts, only the first. -/
def dropSame : List Path → List Path
  | p :: q :: rest => if p.sortKey = q.sortKey then dropSame (p :: rest) else p :: dropSame (q :: rest)
  | ps => ps

end Path

end Dictation.Files
