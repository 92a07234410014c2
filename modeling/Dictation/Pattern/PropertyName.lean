import Dictation.Pattern.CharSet
import Dictation.Text.Basic
import Dictation.Unicode.Script
import Dictation.Unicode.SymbolKind
/-!
# Names of character properties

The names under which a pattern can ask for a property. Case, blanks, hyphens and low lines in a name
mean nothing, nor does `is` in front of it.
-/
namespace Dictation

open Unicode

/-- A property name without what means nothing in it. `is` is dropped only at the very front, and not
from `isc`, which is a name of its own. -/
def looseName (name : Text) : Text :=
  let lowered := name.map fun c => if 'A' ≤ c && c ≤ 'Z' then Char.ofNat (c.toNat + 32) else c
  let kept := fun (cs : Text) => cs.filter fun c => c.toNat < 0x80 && c ∉ [' ', '-', '_']
  match Text.dropPrefix? ['i', 's'] lowered with
  | some rest => if kept rest = ['c'] then ['i', 's', 'c'] else kept rest
  | none => kept lowered

/-- Names of general categories, separated by blanks. -/
def categoryNames : List (String × List GeneralCategory) := [
  ("l letter", GeneralCategory.letters),
  ("lc casedletter", [.uppercaseLetter, .lowercaseLetter, .titlecaseLetter]),
  ("lu uppercaseletter", [.uppercaseLetter]),
  ("ll lowercaseletter", [.lowercaseLetter]),
  ("lt titlecaseletter", [.titlecaseLetter]),
  ("lm modifierletter", [.modifierLetter]),
  ("lo otherletter", [.otherLetter]),
  ("m mark combiningmark", GeneralCategory.marks),
  ("mn nonspacingmark", [.nonspacingMark]),
  ("mc spacingmark", [.spacingMark]),
  ("me enclosingmark", [.enclosingMark]),
  ("n number", GeneralCategory.numbers),
  ("nd decimalnumber digit", [.decimalNumber]),
  ("nl letternumber", [.letterNumber]),
  ("no othernumber", [.otherNumber]),
  ("p punctuation punct", GeneralCategory.punctuation),
  ("pc connectorpunctuation", [.connectorPunctuation]),
  ("pd dashpunctuation", [.dashPunctuation]),
  ("ps openpunctuation", [.openPunctuation]),
  ("pe closepunctuation", [.closePunctuation]),
  ("pi initialpunctuation", [.initialPunctuation]),
  ("pf finalpunctuation", [.finalPunctuation]),
  ("po otherpunctuation", [.otherPunctuation]),
  ("s symbol", GeneralCategory.symbols),
  ("sm mathsymbol", [.mathSymbol]),
  ("sc currencysymbol", [.currencySymbol]),
  ("sk modifiersymbol", [.modifierSymbol]),
  ("so othersymbol", [.otherSymbol]),
  ("z separator", GeneralCategory.separators),
  ("zs spaceseparator", [.spaceSeparator]),
  ("zl lineseparator", [.lineSeparator]),
  ("zp paragraphseparator", [.paragraphSeparator]),
  ("c other", GeneralCategory.others),
  ("cc control cntrl", [.control]),
  ("cf format", [.format]),
  ("cs surrogate", [.surrogate]),
  ("co privateuse", [.privateUse]),
  ("cn unassigned", [.unassigned])]

/-- Names of other properties, separated by blanks. -/
def propertyNames : List (String × CharProperty) := [
  ("alphabetic alpha", .alphabetic),
  ("cased", .cased),
  ("caseignorable ci", .caseIgnorable),
  ("lowercase lower", .lowercase),
  ("uppercase upper", .uppercase),
  ("whitespace wspace space", .whiteSpace)]

/-- The value of the first entry that has the name. -/
def namedValue? {α : Type} (table : List (String × α)) (name : Text) : Option α :=
  (table.find? fun e => name ∈ Text.words e.1).map (·.2)

def categorySet? (name : Text) : Option CharSet :=
  if name = "any".toList then some (.property .any)
  else if name = "ascii".toList then some (.property .ascii)
  else if name = "assigned".toList then some (.compl (.category [.unassigned]))
  else (namedValue? categoryNames name).map .category

def scriptSet? (name : Text) : Option CharSet := (namedValue? scripts name).map .spans

/-- The characters that a property name stands for. -/
def propertySet? (name : Text) : Option CharSet :=
  let name := looseName name
  match namedValue? propertyNames name, namedValue? symbolKinds name with
  | some p, _ => some (.property p)
  | none, some ss => some (.spans ss)
  | none, none => (categorySet? name).or (scriptSet? name)

/-- The characters with the given value of a property. -/
def propertyValueSet? (property value : Text) : Option CharSet :=
  if looseName property ∈ Text.words "gc generalcategory" then categorySet? (looseName value)
  else if looseName property ∈ Text.words "sc script" then scriptSet? (looseName value)
  else none

end Dictation
