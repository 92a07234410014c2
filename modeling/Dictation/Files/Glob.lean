import Dictation.Text.Utf8
/-!
# Globs

Patterns of relative paths. A path is matched as bytes. Question marks and stars match within a
component; two stars between slashes match any number of components.
-/
namespace Dictation.Files

inductive GlobToken where
  | literal (bs : Bytes)
  /-- Any byte but a slash. -/
  | any
  /-- Any bytes but slashes. -/
  | star
  | set (negated : Bool) (ranges : List (UInt8 × UInt8))
  /-- Two stars at the beginning: any components in front. -/
  | leading
  /-- Two stars between slashes. -/
  | between
  /-- Two stars behind the last slash. -/
  | trailing
  /-- One of several branches. Without branches it stands for nothing. -/
  | alternatives (branches : List (List GlobToken))
  deriving Repr

abbrev Glob := List GlobToken

namespace Glob

def slash : UInt8 := 0x2F

def ends : Bytes → List Bytes
  | [] => [[]]
  | b :: rest => (b :: rest) :: ends rest

def endsAfterSlash : Bytes → List Bytes
  | [] => []
  | b :: rest => if b = slash then rest :: endsAfterSlash rest else endsAfterSlash rest

/-- The ends that begin no later than the first slash. -/
def endsToSlash : Bytes → List Bytes
  | [] => [[]]
  | b :: rest => (b :: rest) :: if b = slash then [] else endsToSlash rest

def dropLiteral (bs t : Bytes) : List Bytes :=
  if bs.isPrefixOf t then [t.drop bs.length] else []

def dropOne (p : UInt8 → Bool) : Bytes → List Bytes
  | b :: rest => if p b then [rest] else []
  | [] => []

mutual

/-- What may follow the part that a token matches. -/
def tokenRests : GlobToken → Bytes → List Bytes
  | .literal bs, t => dropLiteral bs t
  | .any, t => dropOne (· ≠ slash) t
  | .star, t => endsToSlash t
  | .set negated ranges, t =>
    dropOne (fun b => (ranges.any fun r => r.1 ≤ b && b ≤ r.2) ≠ negated) t
  | .leading, t => t :: endsAfterSlash t
  | .between, t => (dropOne (· = slash) t).flatMap fun rest => rest :: endsAfterSlash rest
  | .trailing, t => (dropOne (· = slash) t).flatMap ends
  | .alternatives [], t => [t]
  | .alternatives (branch :: branches), t => rests branch t ++ branchRests branches t

/-- What may follow the parts that tokens match one after the other. -/
def rests : List GlobToken → Bytes → List Bytes
  | [], t => [t]
  | token :: tokens, t => ((tokenRests token t).flatMap fun rest => rests tokens rest).eraseDups

/-- What may follow the part that one of some branches matches. -/
def branchRests : List (List GlobToken) → Bytes → List Bytes
  | [], _ => []
  | branch :: branches, t => rests branch t ++ branchRests branches t

end

/-- Whether a glob matches a whole path. Two stars alone match everything. -/
def accepts (g : Glob) (path : Bytes) : Bool :=
  match g with
  | [.leading] => true
  | _ => (rests g path).any (·.isEmpty)

end Glob

end Dictation.Files
