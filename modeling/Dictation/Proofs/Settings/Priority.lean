import Dictation.Proofs.Files.Tasks
import Dictation.Proofs.Text.Utf8
import Dictation.Settings.Sources
/-!
# Which settings are in force

What is set for a single run comes first, then what the file of the project sets, then what the file
for all projects sets, and then the defaults. A file cannot set a language or a context back to the
default: a default there counts as nothing that is set.
-/
namespace Dictation.Settings

open Files

/-- What stands at a place for settings: the entries of a well-formed document, or nothing. -/
inductive Holds (d : Disk) : Option Path → Option Toml.Entries → Prop where
  | unknown : Holds d none none
  | absent {p : Path} {e : IoError} : d.find p = .error e → Holds d (some p) none
  | document {p : Path} {bs : Bytes} {t : Text} {es : Toml.Entries} {s : Settings} : d.read p = .ok bs →
    bs.text? = some t → Toml.parse? t = some es → ofEntries? es = some s → Holds d (some p) (some es)

theorem holds_of_read {d : Disk} {p : Path} {t : Text} {s : Settings} (hread : d.read p = .ok (Bytes.ofText t))
    (hparse : parse? t = some s) : Holds d (some p) (Toml.parse? t) := by
  obtain ⟨es, hes, hentries⟩ := Option.bind_eq_some_iff.mp hparse
  rw [hes]
  exact .document hread (Bytes.text?_ofText t) hes hentries

def given? {α : Type} (form : Toml.Item → Option α) (file : Option Toml.Entries) (key : String) :
    Option α :=
  file.bind fun es => (es.lookup key.toList).bind form

/-- The value that a file sets for a key, unless it is the default. -/
def changed? (file : Option Toml.Entries) (key : String) (default : Text) : Option Text :=
  (given? asText? file key).filter (· ≠ default)

def described (file : Option Toml.Entries) : Settings :=
  let defaults : Settings := {}
  { language := (given? asText? file "language").getD defaults.language
    decimalSeparator := given? asChar? file "decimal_separator"
    thousandsSeparator := given? asChar? file "thousands_separator"
    dictionary := given? asText? file "dictionary"
    customDictionary := given? asText? file "custom_dictionary"
    guessRunTogether := (given? asFlag? file "guess_run_together").getD defaults.guessRunTogether
    rules := given? asText? file "rules"
    commands := given? asText? file "commands"
    context := (given? asText? file "context").getD defaults.context }

theorem eq_given? {α : Type} {form : Toml.Item → Option α} {es : Toml.Entries} {key : String}
    {value : Option α} (h : entry? form es key = some value) : value = given? form (some es) key := by
  unfold entry? at h
  unfold given?
  rw [Option.bind_some]
  cases hlookup : es.lookup key.toList with
  | none =>
    rw [hlookup] at h
    cases h
    rfl
  | some item =>
    rw [hlookup] at h
    obtain ⟨a, ha, rfl⟩ := Option.map_eq_some_iff.mp h
    exact ha.symm

theorem eq_described {es : Toml.Entries} {s : Settings} (h : ofEntries? es = some s) :
    s = described (some es) := by
  unfold ofEntries? at h
  simp only [Option.bind_eq_bind, Option.bind_eq_some_iff, Option.pure_def, Option.some.injEq] at h
  obtain ⟨_, hlanguage, _, hdecimal, _, hthousands, _, hdictionary, _, hcustom, _, hguess, _, hrules, _,
    hcommands, _, hcontext, rfl⟩ := h
  rw [eq_given? hlanguage, eq_given? hdecimal, eq_given? hthousands,
    eq_given? hdictionary, eq_given? hcustom, eq_given? hguess,
    eq_given? hrules, eq_given? hcommands, eq_given? hcontext]
  rfl

/-- Settings with those of a file laid over them, if there is one. -/
def laid (s : Settings) (file : Option Toml.Entries) : Settings :=
  match file with
  | none => s
  | some es => s.overlaid (described (some es))

theorem read_run {d : Disk} {p : Path} {bs : Bytes} {t : Text} {s : Settings} (hread : d.read p = .ok bs)
    (htext : bs.text? = some t) (hparse : parse? t = some s) :
    (read p : Task (StateM Disk) Settings).run.run d = (.ok s, d) := by
  unfold read
  rw [bind_run (during_run (attempt_run (readText_run hread htext)) _), hparse]
  rfl

theorem overlayFile_run {d : Disk} {p : Path} {file : Option Toml.Entries} (h : Holds d (some p) file)
    (s : Settings) : (overlayFile s p : Task (StateM Disk) Settings).run.run d = (.ok (s.laid file), d) := by
  unfold overlayFile
  rw [bind_run (lift_run (pathExists_run d p))]
  cases h with
  | absent hfind =>
    rw [hfind]
    rfl
  | document hread htext hparse hentries =>
    obtain ⟨place, hfind⟩ := find_of_read hread
    have hparse? := (congrArg (·.bind ofEntries?) hparse).trans hentries
    rw [hfind]
    change ((read p : Task (StateM Disk) Settings) >>= fun upper => pure (s.overlaid upper)).run.run d = _
    rw [bind_run (read_run hread htext hparse?), eq_described hentries]
    rfl

theorem load_run {ds : Directories} {d : Disk} {shared project : Option Toml.Entries}
    (hshared : Holds d (ds.settings.map (Path.join · "config.toml")) shared)
    (hproject : Holds d (some projectFile) project) (o : Overrides) :
    (load ds o : Task (StateM Disk) Settings).run.run d =
      (.ok (((laid {} shared).laid project).overridden o), d) := by
  have hfiles : ((files ds).foldlM overlayFile {} : Task (StateM Disk) Settings).run.run d =
      (.ok ((laid {} shared).laid project), d) := by
    unfold files
    cases hplace : ds.settings.map (Path.join · "config.toml") with
    | none =>
      rw [hplace] at hshared
      cases hshared
      change ((overlayFile {} projectFile : Task (StateM Disk) Settings) >>= pure).run.run d = _
      rw [bind_run (overlayFile_run hproject {})]
      rfl
    | some p =>
      rw [hplace] at hshared
      change ((overlayFile {} p : Task (StateM Disk) Settings) >>= fun s =>
        overlayFile s projectFile >>= pure).run.run d = _
      rw [bind_run (overlayFile_run hshared {}), bind_run (overlayFile_run hproject _)]
      rfl
  unfold load
  rw [bind_run hfiles]
  rfl

/-- The settings in force, field by field. Nothing is said of a project's file that is silent on
guessing while the file for all projects forbids it. -/
structure InForce (o : Overrides) (shared project : Option Toml.Entries) (s : Settings) : Prop where
  language : s.language = (o.language.or ((changed? project "language" "en_US").or
    (changed? shared "language" "en_US"))).getD "en_US"
  context : s.context = ((changed? project "context" "default").or
    (changed? shared "context" "default")).getD "default"
  decimalSeparator : s.decimalSeparator =
    (given? asChar? project "decimal_separator").or (given? asChar? shared "decimal_separator")
  thousandsSeparator : s.thousandsSeparator =
    (given? asChar? project "thousands_separator").or (given? asChar? shared "thousands_separator")
  dictionary : s.dictionary = o.dictionary.or
    ((given? asText? project "dictionary").or (given? asText? shared "dictionary"))
  customDictionary : s.customDictionary =
    (given? asText? project "custom_dictionary").or (given? asText? shared "custom_dictionary")
  rules : s.rules = (given? asText? project "rules").or (given? asText? shared "rules")
  commands : s.commands = (given? asText? project "commands").or (given? asText? shared "commands")
  noGuess : o.noGuess = true → s.guessRunTogether = false
  guessRunTogether : o.noGuess = false →
    (project ≠ none → given? asFlag? shared "guess_run_together" = some false →
      given? asFlag? project "guess_run_together" ≠ none) →
    s.guessRunTogether = ((given? asFlag? project "guess_run_together").or
      (given? asFlag? shared "guess_run_together")).getD true

theorem overlay_getD (value : Option Text) (default lower : Text) :
    overlay default lower (value.getD default) = (value.filter (· ≠ default)).getD lower := by
  unfold overlay
  cases value with
  | none => simp
  | some v => by_cases h : v = default <;> simp [Option.filter, h]

/-- What a file changes, field by field. About guessing it decides even where it is silent. -/
theorem laid_eq (s : Settings) (file : Option Toml.Entries) : s.laid file = {
    language := (changed? file "language" "en_US").getD s.language
    decimalSeparator := (given? asChar? file "decimal_separator").or s.decimalSeparator
    thousandsSeparator := (given? asChar? file "thousands_separator").or s.thousandsSeparator
    dictionary := (given? asText? file "dictionary").or s.dictionary
    customDictionary := (given? asText? file "custom_dictionary").or s.customDictionary
    guessRunTogether :=
      if file = none then s.guessRunTogether else (given? asFlag? file "guess_run_together").getD true
    rules := (given? asText? file "rules").or s.rules
    commands := (given? asText? file "commands").or s.commands
    context := (changed? file "context" "default").getD s.context } := by
  cases file with
  | none => rfl
  | some es =>
    rw [changed?, changed?, ← overlay_getD, ← overlay_getD]
    rfl

theorem inForce_laid (o : Overrides) (shared project : Option Toml.Entries) :
    InForce o shared project (((laid {} shared).laid project).overridden o) := by
  simp only [laid_eq, overridden]
  exact {
    language := by simp only [Option.getD_or]
    context := by simp only [Option.getD_or]; rfl
    decimalSeparator := by simp only [Option.or_none]
    thousandsSeparator := by simp only [Option.or_none]
    dictionary := by simp only [Option.or_none]
    customDictionary := by simp only [Option.or_none]
    rules := by simp only [Option.or_none]
    commands := by simp only [Option.or_none]
    noGuess := fun h => by rw [h, Bool.not_true, Bool.and_false]
    guessRunTogether := fun h hsilent => by
      rw [h, Bool.not_false, Bool.and_true]
      cases project with
      | none => cases shared <;> rfl
      | some es =>
        rw [if_neg (Option.some_ne_none es)]
        cases hproject : given? asFlag? (some es) "guess_run_together" with
        | some b => rfl
        | none =>
          cases hshared : given? asFlag? shared "guess_run_together" with
          | none => rfl
          | some b =>
            cases b with
            | true => rfl
            | false => exact absurd hproject (hsilent (Option.some_ne_none es) hshared) }

/-- The settings in force are read from well-formed files by priority. -/
theorem load_inForce {ds : Directories} {d : Disk} {shared project : Option Toml.Entries}
    (hshared : Holds d (ds.settings.map (Path.join · "config.toml")) shared)
    (hproject : Holds d (some projectFile) project) (o : Overrides) :
    ∃ s, (load ds o : Task (StateM Disk) Settings).run.run d = (.ok s, d) ∧ InForce o shared project s :=
  ⟨_, load_run hshared hproject o, inForce_laid o shared project⟩

/-- A disk with a file for all projects and a file of the project. -/
def twoFiles (shared project : String) : Disk where
  items := [(["settings".toList], .directory),
    (["settings".toList, "config.toml".toList], .file (Bytes.ofText shared)),
    (["work".toList], .directory), (["work".toList, ".dictate.toml".toList], .file (Bytes.ofText project))]
  workingDirectory := ["work".toList]

/-- Where the settings for all projects are on that disk. -/
def settingsDirectory : Directories := ⟨some "/settings".toList, none⟩

theorem load_inForce_twoFiles :
    let shared := "language = \"de_DE\"\ndecimal_separator = \".\"\nguess_run_together = false"
    let project := "context = \"editor\"\nguess_run_together = true"
    let o : Overrides := { dictionary := some "words.txt".toList }
    let d := twoFiles shared project
    Holds d (settingsDirectory.settings.map (Path.join · "config.toml")) (Toml.parse? shared) ∧
      Holds d (some projectFile) (Toml.parse? project) ∧
      ∃ s, (load settingsDirectory o : Task (StateM Disk) Settings).run.run d = (.ok s, d) ∧
        InForce o (Toml.parse? shared) (Toml.parse? project) s := by
  intro shared project o d
  have hshared : parse? shared =
      some { language := "de_DE".toList, decimalSeparator := some '.', guessRunTogether := false } := by
    decide +kernel
  have hproject : parse? project = some { context := "editor".toList } := by decide +kernel
  have hfile : Holds d (settingsDirectory.settings.map (Path.join · "config.toml")) (Toml.parse? shared) :=
    holds_of_read (p := "/settings/config.toml".toList) rfl hshared
  have hlocal : Holds d (some projectFile) (Toml.parse? project) := holds_of_read rfl hproject
  exact ⟨hfile, hlocal, load_inForce hfile hlocal o⟩

/-- A file of the project does not set the language and the context back to the defaults, and by its
silence it sets guessing back. -/
theorem load_not_set_back :
    let shared := "language = \"de_DE\"\ncontext = \"editor\"\nguess_run_together = false"
    let project := "language = \"en_US\"\ncontext = \"default\""
    given? asText? (Toml.parse? project) "language" = some "en_US".toList ∧
      given? asText? (Toml.parse? project) "context" = some "default".toList ∧
      given? asFlag? (Toml.parse? project) "guess_run_together" = none ∧
      given? asFlag? (Toml.parse? shared) "guess_run_together" = some false ∧
      ((load settingsDirectory {} : Task (StateM Disk) Settings).run.run (twoFiles shared project)).1 =
        .ok { language := "de_DE".toList, context := "editor".toList, guessRunTogether := true } := by
  intro shared project
  have hshared : parse? shared =
      some { language := "de_DE".toList, context := "editor".toList, guessRunTogether := false } := by
    decide +kernel
  have hproject : parse? project = some {} := by decide +kernel
  have hfile : Holds (twoFiles shared project)
      (settingsDirectory.settings.map (Path.join · "config.toml")) (Toml.parse? shared) :=
    holds_of_read (p := "/settings/config.toml".toList) rfl hshared
  have hlocal : Holds (twoFiles shared project) (some projectFile) (Toml.parse? project) :=
    holds_of_read rfl hproject
  refine ⟨by decide +kernel, by decide +kernel, by decide +kernel, by decide +kernel, ?_⟩
  rw [load_run hfile hlocal]
  decide +kernel

end Dictation.Settings
