import Dictation.Files.Glob.Parse
import Dictation.Files.FileSystem
/-!
# Ignore rules

Files that say which files and directories are left out when a directory is searched. Of several rules
for one path the last decides; a rule may also bring a path back.
-/
namespace Dictation.Files

structure IgnoreRule where
  glob : Glob
  /-- Brings paths back instead of leaving them out. -/
  restores : Bool
  directoriesOnly : Bool
  deriving Repr

inductive Verdict where
  | ignored
  | restored
  deriving DecidableEq, Repr

namespace IgnoreRule

/-- A line without the white space at its end, unless that is escaped. -/
def trimLine (line : Text) : Text :=
  if ("\\ ".toList).isSuffixOf line then line else line.trimEnd

/-- What is left of a line behind the signs in front of it: whether it restores, whether it starts at
the directory of the rules, and the rest. -/
def splitSigns (line : Text) : Bool × Bool × Text :=
  match line with
  | '\\' :: '!' :: _ | '\\' :: '#' :: _ => (false, false, line.drop 1)
  | '!' :: '/' :: rest => (true, true, rest)
  | '!' :: rest => (true, false, rest)
  | '/' :: rest => (false, true, rest)
  | _ => (false, false, line)

/-- A glob without the slash at its end, which may be escaped. -/
def dropSlash (t : Text) : Text :=
  let t := t.dropLast
  if t.getLast? = some '\\' then t.dropLast else t

/-- A glob as it is matched against whole paths. Without a slash it matches at any depth; with stars
behind the last slash it matches what is in a directory but not the directory. -/
def wholeGlob (anchored : Bool) (t : Text) : Text :=
  let anywhere := !anchored && !t.contains '/' && t ≠ "**".toList
  let t := if anywhere then "**/".toList ++ t else t
  if ("/**".toList).isSuffixOf t then t ++ "/*".toList else t

/-- The rule on a line, if there is a valid one. -/
def ofLine? (line : Text) : Option IgnoreRule := do
  let line := trimLine line
  if line.isEmpty || line.head? = some '#' then none
  let (restores, anchored, t) := splitSigns line
  let directoriesOnly := t.getLast? = some '/'
  let t := if directoriesOnly then dropSlash t else t
  return ⟨← Glob.parse? (wholeGlob anchored t), restores, directoriesOnly⟩

/-- What a rule says about a path, if it says anything. -/
def verdict? (r : IgnoreRule) (path : Bytes) (k : Kind) : Option Verdict :=
  if (!r.directoriesOnly || k = .directory) && r.glob.accepts path then
    some (if r.restores then .restored else .ignored)
  else none

end IgnoreRule

abbrev IgnoreRules := List IgnoreRule

namespace IgnoreRules

/-- The texts of lines up to the first that is no text. -/
def textLines : List Bytes → List Text
  | [] => []
  | line :: rest =>
    match line.text? with
    | some t => t :: textLines rest
    | none => []

/-- The rules in a file. It may start with a byte order mark. -/
def ofBytes (bs : Bytes) : IgnoreRules :=
  let lines := match textLines bs.lines with
    | first :: rest => first.dropWhile (· = '\ufeff') :: rest
    | [] => []
  lines.filterMap IgnoreRule.ofLine?

/-- What the rules say about a path relative to their directory. -/
def verdict? (rules : IgnoreRules) (path : Bytes) (k : Kind) : Option Verdict :=
  rules.reverse.findSome? fun r => r.verdict? path k

end IgnoreRules

end Dictation.Files
