import Dictation.Token
import Dictation.Text.Utf8
import Std.Data.HashMap
/-!
# Classifiers

A classifier keeps the categories that it has found. The runs of a text are read one at a time, from
the byte that the last one ended at: the first character gives the category, and the run ends at the
first one of another category. Iterations may be interleaved, and all of them share one classifier.
-/
namespace Dictation

/-- Characters are hashed by their code points. -/
instance (priority := high) hashableChar : Hashable Char := instHashableChar

structure Classifier where
  combiners : Combiners
  cache : Std.HashMap Char Category := ∅

/-- What is done with a classifier. There is no result where a text would be cut inside a
character. -/
abbrev Classifying := StateT Classifier Option

namespace Classifier

/-- The category of a character, from the cache if it is there. -/
def classify (c : Char) : Classifying Category := do
  let s ← get
  match s.cache[c]? with
  | some g => return g
  | none =>
    let g := s.combiners.categoryOf c
    set { s with cache := s.cache.insert c g }
    return g

/-- The byte at which the first character of another category than `g` stands, or the end, where the
text begins at the byte `n`. -/
def endOf (g : Category) : Nat → Text → Classifying Nat
  | n, [] => return n
  | n, c :: rest => do
    if (← classify c) ≠ g then return n
    endOf g (n + c.utf8Size) rest

end Classifier

/-- An iteration over the runs of a text that has come to a byte. -/
structure RunIterator where
  text : Text
  position : Nat := 0

namespace RunIterator

open Classifier

/-- The next run, if there is one, and the iteration behind it. -/
def next (it : RunIterator) : Classifying (Option (Run × RunIterator)) := do
  let (_, rest) ← StateT.lift (it.text.splitAtByte? it.position)
  match rest with
  | [] => return none
  | c :: others =>
    let g ← classify c
    let n ← endOf g c.utf8Size others
    let (run, _) ← StateT.lift (rest.splitAtByte? n)
    return some (⟨g, run⟩, { it with position := it.position + n })

/-! An iteration ends, since each run takes at least one byte. -/

theorem le_of_endOf {g : Category} {n m : Nat} {t : Text} {s s' : Classifier}
    (h : endOf g n t s = some (m, s')) : n ≤ m := by
  induction t generalizing n s with
  | nil =>
    cases h
    exact Nat.le_refl _
  | cons c rest ih =>
    obtain ⟨⟨d, after⟩, _, h⟩ := Option.bind_eq_some_iff.mp h
    by_cases hd : d = g
    · simp only [hd, ne_eq, not_true_eq_false, if_false] at h
      exact Nat.le_trans (Nat.le_add_right n c.utf8Size) (ih h)
    · simp only [ne_eq, hd, not_false_eq_true, if_true] at h
      cases h
      exact Nat.le_refl _

theorem lt_of_next {it it' : RunIterator} {r : Run} {s s' : Classifier}
    (h : it.next s = some (some (r, it'), s')) :
    it'.text.byteSize - it'.position < it.text.byteSize - it.position := by
  obtain ⟨⟨⟨before, rest⟩, s₁⟩, hlift, h⟩ := Option.bind_eq_some_iff.mp h
  obtain ⟨parts, hsplit, hparts⟩ := Option.bind_eq_some_iff.mp hlift
  cases hparts
  cases rest with
  | nil => cases h
  | cons c others =>
    obtain ⟨⟨g, s₂⟩, _, h⟩ := Option.bind_eq_some_iff.mp h
    obtain ⟨⟨n, s₃⟩, hend, h⟩ := Option.bind_eq_some_iff.mp h
    obtain ⟨⟨⟨run, _⟩, s₄⟩, _, h⟩ := Option.bind_eq_some_iff.mp h
    cases h
    have hn := le_of_endOf hend
    have hc := c.utf8Size_pos
    have hlt := Text.lt_byteSize_of_splitAtByte? hsplit
    simp only
    omega

def collect (it : RunIterator) (s : Classifier) : Option (List Run × Classifier) :=
  match _h : it.next s with
  | none => none
  | some (none, s') => some ([], s')
  | some (some (r, it'), s') => (it'.collect s').map fun (rs, s'') => (r :: rs, s'')
termination_by it.text.byteSize - it.position
decreasing_by exact lt_of_next _h

end RunIterator

/-- A classifier and the iterations begun with it. -/
structure Session where
  classifier : Classifier
  iterations : List RunIterator := []

namespace Session

def new (k : Combiners) : Session := { classifier := { combiners := k } }

inductive Request where
  | classify (c : Char)
  /-- To begin an iteration over the runs of a text. -/
  | start (t : Text)
  /-- The next run of the iteration that was begun as the `i`-th one. -/
  | next (i : Nat)
  deriving DecidableEq, Repr

inductive Reply where
  | category (g : Category)
  | started
  | run (r : Run)
  | finished
  deriving DecidableEq, Repr

def answer : Request → StateT Session Option Reply
  | .classify c, s =>
    (Classifier.classify c s.classifier).map fun (g, after) => (.category g, { s with classifier := after })
  | .start t, s => some (.started, { s with iterations := s.iterations ++ [{ text := t }] })
  | .next i, s =>
    match s.iterations[i]? with
    | none => some (.finished, s)
    | some it => (it.next s.classifier).map fun
      | (none, after) => (.finished, { s with classifier := after })
      | (some (r, later), after) =>
        (.run r, { classifier := after, iterations := s.iterations.set i later })

/-- What is answered to requests, one after another. -/
def serve (requests : List Request) : StateT Session Option (List Reply) := requests.mapM answer

end Session

end Dictation
