import Dictation.Interpret.Command
import Dictation.Rewrite.Shipped
/-!
# Interpretation of utterances

Commands are carved out of an utterance first; what is left is rewritten. Contexts are entered and
left like a stack whose root is never left.
-/
namespace Dictation

/-- One utterance as a recogniser delivers it. -/
structure Record where
  text : Text
  uttid : Text
  isPartial : Bool
  nbest : List Text
  deriving DecidableEq, Repr

namespace Record

def ofText (t : Text) : Record := ⟨t, [], false, []⟩

end Record

inductive Interpretation where
  | text (t : Text)
  | command (c : Command)
  deriving DecidableEq, Repr

/-- A record together with one of its interpretations. -/
structure InterpretedRecord where
  record : Record
  interpreted : Interpretation
  deriving DecidableEq, Repr

structure Interpreter where
  rules : RuleTable
  commands : CommandTable
  /-- The contexts entered, the current one first. -/
  contexts : List Text
  deriving DecidableEq, Repr

namespace Interpreter

def rootContext : Text := "default"

def new (rules : RuleTable) (commands : CommandTable) : Interpreter := ⟨rules, commands, []⟩

def currentContext (i : Interpreter) : Text := i.contexts.headD rootContext

def pushContext (i : Interpreter) (context : Text) : Interpreter :=
  { i with contexts := context :: i.contexts }

/-- Leaves the current context, which is given with the result. The root is not left. -/
def popContext (i : Interpreter) : Option Text × Interpreter :=
  (i.contexts.head?, { i with contexts := i.contexts.drop 1 })

/-- The interpretation of a fragment; text that rewrites to nothing has none. -/
def interpretFragment? (rules : RuleTable) : Fragment → Option Interpretation
  | .command c => some (.command c)
  | .literal t =>
    let rewritten := (rules.apply t.trim).trimOf ' '
    if rewritten.isEmpty then none else some (.text rewritten)

/-- The interpretations of a text. There is always one, if only the empty text. -/
def interpretText (i : Interpreter) (t : Text) : List Interpretation :=
  match (i.commands.extract t i.currentContext).filterMap (interpretFragment? i.rules) with
  | [] => [.text []]
  | results => results

def interpret (i : Interpreter) (r : Record) : List InterpretedRecord :=
  (i.interpretText r.text).map fun interpreted => ⟨r, interpreted⟩

end Interpreter

end Dictation
