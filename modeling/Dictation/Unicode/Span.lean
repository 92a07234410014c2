/-!
# Sets of code points

A set of characters is an ascending list of spans. A span holds every `step`-th code point from
`first` to `last`; spans do not overlap, so a search ends at the first span that begins later.
-/
namespace Dictation.Unicode

/-- Every `step`-th code point from `first` to `last`. -/
structure Span where
  first : Nat
  last : Nat
  step : Nat
  deriving DecidableEq, Repr

/-- Whether a code point is in one of the ascending spans. -/
def Span.mem : List Span → Nat → Bool
  | [], _ => false
  | s :: rest, n =>
    if n < s.first then false
    else if n ≤ s.last then (n - s.first) % s.step == 0
    else mem rest n

/-- A span of code points together with the image of its first one; the others follow at the same
distance. -/
structure Shift where
  first : Nat
  last : Nat
  step : Nat
  image : Nat
  deriving DecidableEq, Repr

/-- The image of a code point under ascending shifts, if one of them moves it. -/
def Shift.moved? : List Shift → Nat → Option Nat
  | [], _ => none
  | s :: rest, n =>
    if n < s.first then none
    else if n ≤ s.last then
      if (n - s.first) % s.step == 0 then some (s.image + (n - s.first)) else none
    else moved? rest n

/-- The code points that a list of shifts sends to `n`, in order. -/
def Shift.preimages (shifts : List Shift) (n : Nat) : List Nat :=
  shifts.filterMap fun s =>
    let source := s.first + (n - s.image)
    if s.image ≤ n && source ≤ s.last && (n - s.image) % s.step == 0 then some source else none

end Dictation.Unicode
