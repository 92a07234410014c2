import Dictation.Interpret.Interpreter
import Dictation.Json.Value
/-!
# Records as JSON

A record is an object with the text and up to three other fields, or an array of the values of these
fields from the first one on. Interpreted records are printed as objects.
-/
namespace Dictation

namespace Record

/-- The value of a field. A field given twice makes the object no record. -/
def fieldValue? (fields : List (Text × Json)) (name : String) : Option (Option Json) :=
  match fields.filter (·.1 = name.toList) with
  | [] => some none
  | [(_, v)] => some (some v)
  | _ => none

/-- A value of the wanted form, or the default if there is no value. -/
def valueOr {α : Type} (form : Json → Option α) (default : α) : Option Json → Option α
  | some v => form v
  | none => some default

def ofValues? (text uttid isPartial nbest : Option Json) : Option Record := do
  return ⟨← (← text).string?, ← valueOr Json.string? [] uttid, ← valueOr Json.bool? false isPartial,
    ← valueOr Json.strings? [] nbest⟩

def ofJson? : Json → Option Record
  | .object fields => do
    ofValues? (← fieldValue? fields "text") (← fieldValue? fields "uttid")
      (← fieldValue? fields "partial") (← fieldValue? fields "nbest")
  | .array vs => if vs.length ≤ 4 then ofValues? vs[0]? vs[1]? vs[2]? vs[3]? else none
  | _ => none

def fields (r : Record) : List (Text × Json) :=
  [("text".toList, .string r.text), ("uttid".toList, .string r.uttid),
    ("partial".toList, .bool r.isPartial)] ++
    if r.nbest.isEmpty then [] else [("nbest".toList, .strings r.nbest)]

end Record

def Command.toJson (c : Command) : Json :=
  .object <| [("tag".toList, .string c.tag)] ++
    (if c.args.isEmpty then [] else [("args".toList, .strings c.args)]) ++
    if c.named.isEmpty then []
    else [("named".toList, .object (c.named.map fun (n, v) => (n, .string v)))]

def Interpretation.toJson : Interpretation → Json
  | text t => .object [("type".toList, .string "text"), ("value".toList, .string t)]
  | command c => .object [("type".toList, .string "command"), ("value".toList, c.toJson)]

def InterpretedRecord.toJson (r : InterpretedRecord) : Json :=
  .object (r.record.fields ++ [("interpreted".toList, r.interpreted.toJson)])

end Dictation
