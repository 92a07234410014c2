import Dictation.Pattern.Node
/-!
# Searching

The ways through a pattern are the places to which it can lead, in order of preference. Of two ways to
one place only the preferred one counts, so that there are never more ways than places. A text is
scanned from left to right, and the search goes on behind each match.
-/
namespace Dictation

/-- A place in a text, with what was remembered on the way to it. -/
structure Cursor where
  /-- The character before the place. -/
  before : Option Char
  rest : Text
  /-- The number of characters consumed on the way. -/
  used : Nat
  /-- The texts of groups, the newest first. -/
  groups : List (Nat × Text)
  /-- The marks passed since the last character. -/
  passed : List Nat
  deriving DecidableEq, Repr

namespace Cursor

def start (before : Option Char) (rest : Text) : Cursor := ⟨before, rest, 0, [], []⟩

def consume? (c : Cursor) (s : CharSet) : Option Cursor :=
  match c.rest with
  | [] => none
  | d :: rest => if s.contains d then some ⟨some d, rest, c.used + 1, c.groups, []⟩ else none

/-- Passes a mark that was not passed since the last character. -/
def pass? (c : Cursor) (m : Nat) : Option Cursor :=
  if m ∈ c.passed then none else some { c with passed := m :: c.passed }

def passAny? (c : Cursor) : Option Nat → Option Cursor
  | none => some c
  | some m => c.pass? m

/-- Whether two ways lead to one place, from which the same ways go on. -/
def meets (c d : Cursor) : Bool := c.used = d.used && c.passed = d.passed

def textTo (c later : Cursor) : Text := c.rest.take (later.used - c.used)

/-- Remembers what group `index` matched from `c` on. -/
def remember (index : Nat) (c later : Cursor) : Cursor :=
  { later with groups := (index, c.textTo later) :: later.groups }

/-- Only the first of several ways to one place. -/
def distinct (cs : List Cursor) : List Cursor := cs.eraseDupsBy meets

/-- Puts a way in front of others, unless one of them leads to the same place. -/
def addTo (found : List Cursor) (c : Cursor) : List Cursor :=
  if found.any c.meets then found else c :: found

end Cursor

namespace Node

/-- Repeats a body from a place on. The last way found comes first. Each repetition that is followed
by another one has to consume something; the bound exceeds the number of such repetitions. -/
def iterate (body : Cursor → List Cursor) (m : Option Nat) (greedy : Bool) :
    Nat → List Cursor → Cursor → List Cursor
  | 0, found, _ => found
  | bound + 1, found, c =>
    let goOn (later : Cursor) (found : List Cursor) :=
      if c.used < later.used then iterate body m greedy bound found later else found
    ((body c).filterMap (·.passAny? m)).foldl
      (fun found later =>
        if found.any later.meets then found
        else if greedy then Cursor.addTo (goOn later found) later
        else goOn later (later :: found))
      found

/-- Repeats a body from each of some places on. `zero` says that it may also not be repeated at all.
-/
def iterateAll (body : Cursor → List Cursor) (m : Option Nat) (greedy zero : Bool)
    (cs : List Cursor) : List Cursor :=
  let visit (found : List Cursor) (c : Cursor) :=
    let more := iterate body m greedy (c.rest.length + 1)
    if !zero then more found c
    else if found.any c.meets then found
    else if greedy then Cursor.addTo (more found c) c
    else more (c :: found) c
  (cs.foldl visit []).reverse

/-- The ways that lead from places through a node. -/
def ways : Node → List Cursor → List Cursor
  | empty, cs => cs
  | set s, cs => cs.filterMap (·.consume? s)
  | assertion a, cs => cs.filter fun c => a.holds c.before c.rest
  | group index body, cs =>
    Cursor.distinct (cs.flatMap fun c => (body.ways [c]).map (Cursor.remember index c))
  | seq a b, cs => b.ways (a.ways cs)
  | alt a b, cs => Cursor.distinct (cs.flatMap fun c => a.ways [c] ++ b.ways [c])
  | opt greedy body, cs =>
    Cursor.distinct (cs.flatMap fun c =>
      if greedy then body.ways [c] ++ [c] else c :: body.ways [c])
  | star m greedy body, cs =>
    iterateAll (fun c => body.ways [c]) m greedy true (cs.filterMap (·.passAny? m))
  | plus m greedy body, cs => iterateAll (fun c => body.ways [c]) m greedy false cs
  | mark m, cs => cs.filterMap (·.pass? m)

end Node

/-- A match: its text and what its groups matched, the newest first. -/
structure Match where
  text : Text
  groups : List (Nat × Text)
  deriving DecidableEq, Repr

/-- What group `index` matched; group 0 is the whole match. -/
def Match.group? (m : Match) (index : Nat) : Option Text :=
  if index = 0 then some m.text else m.groups.lookup index

namespace Node

/-- The match that starts at the given place, if there is one. -/
def matchAt? (n : Node) (before : Option Char) (t : Text) : Option Match :=
  let c := Cursor.start before t
  (n.ways [c]).head?.map fun later => ⟨c.textTo later, later.groups⟩

end Node

/-- A part of a scanned text: a character outside all matches, or a match. -/
inductive Part where
  | kept (c : Char)
  | found (m : Match)
  deriving DecidableEq, Repr

namespace Part

def text : Part → Text
  | kept c => [c]
  | found m => m.text

end Part

namespace Node

/-- The match at the given place, unless it is empty right behind another match. -/
def fresh? (n : Node) (behind : Bool) (before : Option Char) (t : Text) : Option Match :=
  (n.matchAt? before t).filter fun m => !(behind && m.text.isEmpty)

/-- Scans a text. The next `skip` characters belong to a match found already, and `behind` says that
a match ends right before them. -/
def scanFrom (n : Node) (skip : Nat) (behind : Bool) (before : Option Char) : Text → List Part
  | [] =>
    match n.fresh? behind before [] with
    | some m => [.found m]
    | none => []
  | c :: rest =>
    match skip with
    | skip + 1 => scanFrom n skip true (some c) rest
    | 0 =>
      match n.fresh? behind before (c :: rest) with
      | some m =>
        if m.text.isEmpty then .found m :: .kept c :: scanFrom n 0 false (some c) rest
        else .found m :: scanFrom n (m.text.length - 1) true (some c) rest
      | none => .kept c :: scanFrom n 0 false (some c) rest

def scan (n : Node) (t : Text) : List Part := n.scanFrom 0 false none t

/-- Whether a text has a match anywhere. -/
def occursIn (n : Node) (t : Text) : Bool :=
  (n.scan t).any fun p =>
    match p with
    | .found _ => true
    | .kept _ => false

end Node

end Dictation
