import Dictation.Pattern.Assertion
/-!
# Pattern nodes

The tree that a pattern is read into. Earlier alternatives are preferred, and a greedy repetition
prefers to go on.

A repetition without an upper bound could go round without consuming anything. Inside such a
repetition there are marks, which may be passed once only before the next character is consumed.
-/
namespace Dictation

inductive Node where
  | empty
  | set (s : CharSet)
  | assertion (a : Assertion)
  /-- Remembers the text that the body matches. -/
  | group (index : Nat) (body : Node)
  | seq (a b : Node)
  | alt (a b : Node)
  | opt (greedy : Bool) (body : Node)
  /-- Any number of repetitions; every one has to consume something. The mark is passed before each
  decision to go on. -/
  | star (mark : Option Nat) (greedy : Bool) (body : Node)
  /-- One repetition or more. The mark is passed after each repetition. -/
  | plus (mark : Option Nat) (greedy : Bool) (body : Node)
  | mark (m : Nat)
  deriving DecidableEq, Repr

namespace Node

def sequence : List Node → Node
  | [] => empty
  | [n] => n
  | n :: rest => seq n (sequence rest)

def alternatives : List Node → Node
  | [] => empty
  | [n] => n
  | n :: rest => alt n (alternatives rest)

/-- Whether every match consumes something. -/
def consumes : Node → Bool
  | empty | assertion _ | mark _ | opt _ _ | star _ _ _ => false
  | set _ => true
  | group _ body | plus _ _ body => body.consumes
  | seq a b => a.consumes || b.consumes
  | alt a b => a.consumes && b.consumes

/-- Whether no match consumes anything. -/
def isZeroWidth : Node → Bool
  | empty | assertion _ | mark _ => true
  | set _ => false
  | group _ body | opt _ body | star _ _ body | plus _ _ body => body.isZeroWidth
  | seq a b | alt a b => a.isZeroWidth && b.isZeroWidth

/-- Exactly `n` times the body. -/
def copies (n : Nat) (body : Node) : Node := sequence (List.replicate n body)

def atMost (greedy : Bool) (body : Node) : Nat → Node
  | 0 => empty
  | 1 => opt greedy body
  | n + 1 => opt greedy (seq body (atMost greedy body n))

/-- Any number of repetitions. A body that can match nothing is tried at least once, if at all. -/
def many (greedy : Bool) (body : Node) : Node :=
  if body.consumes then star none greedy body else opt greedy (plus none greedy body)

def atLeast (greedy : Bool) (body : Node) : Nat → Node
  | 0 => many greedy body
  | 1 => plus none greedy body
  | n + 1 => seq (copies n body) (plus none greedy body)

/-- Between `least` and `most` times the body. -/
def between (greedy : Bool) (body : Node) (least most : Nat) : Node :=
  if least = most then copies least body
  else if least = 0 then atMost greedy body most
  else seq (copies least body) (atMost greedy body (most - least))

/-- A repetition from `least` times on, up to `most` times if a bound is given. More than one
repetition of a body without width adds nothing. -/
def repeated (greedy : Bool) (body : Node) (least : Nat) (most : Option Nat) : Node :=
  let (least, most) :=
    if body.isZeroWidth then (min least 1, some (min (most.getD 1) 1)) else (least, most)
  match most with
  | some n => between greedy body least n
  | none => atLeast greedy body least

def marked (n : Node) (next : Nat) : Node × Nat := (seq (mark next) n, next + 1)

/-- Sets the marks. `inside` says that an enclosing repetition could go round in place, and `next` is
the first mark that is still free. -/
def withMarks (inside : Bool) : Node → Nat → Node × Nat
  | empty, next => (empty, next)
  | set s, next => (set s, next)
  | mark m, next => (mark m, next)
  | assertion a, next => if inside then marked (assertion a) next else (assertion a, next)
  | group i body, next =>
    let (body, next) := withMarks inside body next
    if inside then
      let (n, next) := marked (group i body) next
      (seq n (mark next), next + 1)
    else (group i body, next)
  | seq a b, next =>
    let (a, next) := withMarks inside a next
    let (b, next) := withMarks inside b next
    (seq a b, next)
  | alt a b, next =>
    let (a, next) := withMarks inside a next
    let (b, next) := withMarks inside b next
    if inside then marked (alt a b) next else (alt a b, next)
  | opt greedy body, next =>
    let (body, next) := withMarks inside body next
    if inside then marked (opt greedy body) next else (opt greedy body, next)
  | star _ greedy body, next =>
    let (body, next) := withMarks inside body next
    if inside then (star (some next) greedy body, next + 1) else (star none greedy body, next)
  | plus _ greedy body, next =>
    let inside := inside || !body.consumes
    let (body, next) := withMarks inside body next
    if inside then (plus (some next) greedy body, next + 1) else (plus none greedy body, next)

end Node

end Dictation
