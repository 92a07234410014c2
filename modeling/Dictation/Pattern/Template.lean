import Dictation.Pattern.Parse
import Dictation.Pattern.Search
/-!
# Replacement templates

A template is text in which a dollar sign names a group, by its index or its name, with or without
braces. A doubled dollar sign is a dollar sign.
-/
namespace Dictation

inductive Slot where
  | char (c : Char)
  | index (i : Nat)
  | name (n : Text)
  deriving DecidableEq, Repr

namespace Slot

/-- Characters of a group name without braces. -/
def isNameChar (c : Char) : Bool := isAsciiWordChar c

/-- A decimal number below 2⁶⁴, with or without a plus sign. -/
def number? (t : Text) : Option Nat :=
  let ds := if t.head? = some '+' then t.drop 1 else t
  if ds.isEmpty || !ds.all (fun c => '0' ≤ c && c ≤ '9') then none
  else
    let n := ds.foldl (fun n d => 10 * n + (d.toNat - '0'.toNat)) 0
    if n < UInt64.size then some n else none

def ofReference (t : Text) : Slot :=
  match number? t with
  | some i => index i
  | none => name t

/-- The slots of a template. A dollar sign that names nothing stands for itself. -/
def ofTemplate (t : Text) : List Slot :=
  match t with
  | [] => []
  | '$' :: '$' :: rest => char '$' :: ofTemplate rest
  | '$' :: '\x7b' :: rest =>
    if '\x7d' ∈ rest then
      let name := rest.takeWhile (· ≠ '\x7d')
      ofReference name :: ofTemplate (rest.drop (name.length + 1))
    else char '$' :: ofTemplate ('\x7b' :: rest)
  | '$' :: rest =>
    let name := rest.takeWhile isNameChar
    if name.isEmpty then char '$' :: ofTemplate rest
    else ofReference name :: ofTemplate (rest.drop name.length)
  | c :: rest => char c :: ofTemplate rest
  termination_by t.length
  decreasing_by all_goals (simp only [List.length_drop, List.length_cons]; omega)

/-- The text for a slot; a group that matched nothing has none. -/
def fill (p : Pattern) (m : Match) : Slot → Text
  | char c => [c]
  | index i => (m.group? i).getD []
  | name n => ((p.index? n).bind m.group?).getD []

end Slot

def Pattern.expand (p : Pattern) (m : Match) (template : Text) : Text :=
  (Slot.ofTemplate template).flatMap (Slot.fill p m)

def Pattern.replace (p : Pattern) (replacement : Match → Text) (t : Text) : Text :=
  (p.node.scan t).flatMap fun part =>
    match part with
    | .kept c => [c]
    | .found m => replacement m

def Pattern.named? (p : Pattern) (m : Match) (name : Text) : Option Text :=
  (p.index? name).bind m.group?

end Dictation
