import Dictation.Category
import Dictation.Files.Path
import Dictation.Interpret.Interpreter
import Dictation.Toml.Parser
/-!
# Settings

What a user can configure, and how it is written in a TOML document. Settings are laid over others:
what the upper ones leave at its default shows through.
-/
namespace Dictation

open Files

structure Settings where
  /-- Selects the combiners and the installed vocabulary. -/
  language : Text := "en_US"
  decimalSeparator : Option Char := none
  thousandsSeparator : Option Char := none
  /-- A vocabulary to use in place of the installed one. -/
  dictionary : Option Path := none
  /-- A listing whose words are added to the vocabulary. -/
  customDictionary : Option Path := none
  /-- Whether words that were written together are taken apart. -/
  guessRunTogether : Bool := true
  rules : Option Path := none
  commands : Option Path := none
  /-- The context in which interpretation starts. -/
  context : Text := Interpreter.rootContext
  deriving DecidableEq, Repr

namespace Settings

/-- The item of an entry in the wanted form, if there is an entry. An item of another form is
refused. -/
def entry? {α : Type} (form : Toml.Item → Option α) (es : Toml.Entries) (key : String) :
    Option (Option α) :=
  match es.lookup key.toList with
  | none => some none
  | some item => (form item).map some

def asText? : Toml.Item → Option Text
  | .string t => some t
  | _ => none

def asChar? : Toml.Item → Option Char
  | .string [c] => some c
  | _ => none

def asFlag? : Toml.Item → Option Bool
  | .boolean b => some b
  | _ => none

/-- The settings in the entries of a document. Entries with other keys mean nothing. -/
def ofEntries? (es : Toml.Entries) : Option Settings := do
  let defaults : Settings := {}
  return {
    language := (← entry? asText? es "language").getD defaults.language
    decimalSeparator := ← entry? asChar? es "decimal_separator"
    thousandsSeparator := ← entry? asChar? es "thousands_separator"
    dictionary := ← entry? asText? es "dictionary"
    customDictionary := ← entry? asText? es "custom_dictionary"
    guessRunTogether := (← entry? asFlag? es "guess_run_together").getD defaults.guessRunTogether
    rules := ← entry? asText? es "rules"
    commands := ← entry? asText? es "commands"
    context := (← entry? asText? es "context").getD defaults.context }

def parse? (t : Text) : Option Settings := (Toml.parse? t).bind ofEntries?

/-- The upper value, unless it is the default. -/
def overlay (default lower upper : Text) : Text := if upper = default then lower else upper

/-- The settings `upper` laid over others. Whether to guess has no default that shows through: the
upper settings decide. -/
def overlaid (lower upper : Settings) : Settings :=
  let defaults : Settings := {}
  { language := overlay defaults.language lower.language upper.language
    decimalSeparator := upper.decimalSeparator.or lower.decimalSeparator
    thousandsSeparator := upper.thousandsSeparator.or lower.thousandsSeparator
    dictionary := upper.dictionary.or lower.dictionary
    customDictionary := upper.customDictionary.or lower.customDictionary
    guessRunTogether := upper.guessRunTogether
    rules := upper.rules.or lower.rules
    commands := upper.commands.or lower.commands
    context := overlay defaults.context lower.context upper.context }

structure Overrides where
  language : Option Text := none
  dictionary : Option Path := none
  noGuess : Bool := false
  deriving DecidableEq, Repr

/-- Settings with what is set for a single run. -/
def overridden (s : Settings) (o : Overrides) : Settings :=
  { s with
    language := o.language.getD s.language
    dictionary := o.dictionary.or s.dictionary
    guessRunTogether := s.guessRunTogether && !o.noGuess }

/-- The combiners of the language, but for separators that are set. -/
def combiners (s : Settings) : Combiners :=
  let k := Combiners.forLanguage s.language
  ⟨s.decimalSeparator.getD k.decimal, s.thousandsSeparator.getD k.thousands⟩

end Settings

end Dictation
