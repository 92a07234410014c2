import Dictation.Proofs.Vocabulary.ReadBack
/-!
# Runs of imports

However many pronunciation files are imported one after the other, an import that fails leaves every file as it
is, and what is installed afterwards are the languages that were imported at least once, each with what its last
listing says. This follows from what one import does: it makes missing directories, and only with a listing in
hand it puts one file where no directory stands.
-/
namespace Dictation

open Files

/-- The name of the file with the vocabulary of a language. -/
def dictName (language : Text) : Text := language ++ '.' :: compiledExtension

theorem splitName_dictName {language : Text} (h : language ≠ []) :
    Path.splitName (dictName language) = (language, some compiledExtension) := by
  have hlast : Text.splitLast? '.' (dictName language) = some (language, compiledExtension) := by
    have hreverse : (dictName language).reverse = compiledExtension.reverse ++ '.' :: language.reverse := by
      simp [dictName]
    have hno : ∀ c ∈ compiledExtension.reverse, decide (c ≠ '.') = true := by decide
    rw [Text.splitLast?, hreverse, Text.splitFirst?, List.dropWhile_append_of_pos hno, List.takeWhile_append_of_pos hno]
    simp
  rw [Path.splitName, hlast]
  dsimp only
  rw [List.isEmpty_eq_false_iff.mpr h, if_neg Bool.false_ne_true]

theorem isName_dictName {language : Text} (h : '/' ∉ language) : Disk.IsName (dictName language) := by
  have hlength : 5 ≤ (dictName language).length := by
    have hextension : compiledExtension.length = 4 := by decide
    rw [dictName, List.length_append, List.length_cons, hextension]
    omega
  refine ⟨?_, ?_, ?_, ?_⟩
  · intro hnil
    rw [hnil] at hlength
    exact absurd hlength (by decide)
  · intro hslash
    rcases List.mem_append.mp hslash with hslash | hslash
    · exact h hslash
    · exact absurd hslash (by decide)
  · intro hpoint
    rw [hpoint] at hlength
    exact absurd hlength (by decide)
  · intro hparent
    rw [hparent] at hlength
    exact absurd hlength (by decide)

theorem dictName_inj {a b : Text} (h : dictName a = dictName b) : a = b := List.append_cancel_right h

theorem fileName?_join {directory : Path} (hdirectory : directory ≠ []) {name : Text} (h : Disk.IsName name) :
    Path.fileName? (Path.join directory name) = some name := by
  obtain ⟨q, hjoin, _, _⟩ := Disk.join_eq hdirectory h
  have hlast : (Path.components (q ++ '/' :: name)).getLast? = some name := by
    rw [Path.components, Text.fields_append, Text.fields_of_not_mem h.slash_not_mem, List.filter_append,
      List.filter_cons_of_pos (by simpa using ⟨h.ne_nil, h.ne_point⟩), List.filter_nil, List.getLast?_concat]
  rw [hjoin, Path.fileName?, hlast]
  exact if_neg h.ne_parent

section
variable {d : Disk} {p : Path}

def installedAt (d : Disk) (p : Path) : Option InstalledVocabulary :=
  ((d.read p).toOption.bind CompiledVocabulary.ofBytes?).map fun v =>
    ⟨(Path.stem? p).getD "unknown", p, v.size, v.toBytes.length⟩

theorem readCompiled_run (d : Disk) (p : Path) : ∃ r,
    (readCompiled p : Task (StateM Disk) Bytes).run.run d = (r, d) ∧ r.toOption = (d.read p).toOption := by
  have hdisk : (FileSystem.read p : StateM Disk (Except IoError Bytes)).run d = (d.read p, d) := rfl
  change ∃ r, (FileSystem.read p >>= _ : StateM Disk _).run d = (r, d) ∧ _
  rw [state_bind_run hdisk]
  cases d.read p with
  | ok bs => exact ⟨_, rfl, rfl⟩
  | error e => cases e <;> exact ⟨_, rfl, rfl⟩

theorem readInstalled_run (d : Disk) (p : Path) : ∃ r,
    (readInstalled p : Task (StateM Disk) InstalledVocabulary).run.run d = (r, d) ∧
      r.toOption = installedAt d p := by
  obtain ⟨bytes, hbytes, hread⟩ := readCompiled_run d p
  rw [installedAt, ← hread]
  cases bytes with
  | error e => exact ⟨_, bind_run_error (bind_run_error hbytes _) _, rfl⟩
  | ok bs =>
    cases hv : CompiledVocabulary.ofBytes? bs with
    | none =>
      have hopen : (openCompiled p : Task (StateM Disk) CompiledVocabulary).run.run d = (.error .notCompiled, d) := by
        rw [openCompiled, bind_run hbytes, hv]
        rfl
      exact ⟨_, bind_run_error hopen _, by simp [hv, Except.toOption]⟩
    | some v =>
      have hopen : (openCompiled p : Task (StateM Disk) CompiledVocabulary).run.run d = (.ok v, d) := by
        rw [openCompiled, bind_run hbytes, hv]
        rfl
      refine ⟨_, (bind_run hopen _).trans rfl, by simp [hv, Except.toOption]⟩

theorem readEachInstalled_run (d : Disk) (ps : List Path) : ∃ skipped,
    (readEachInstalled ps : StateM Disk _).run d = ((ps.filterMap (installedAt d), skipped), d) := by
  induction ps with
  | nil => exact ⟨[], rfl⟩
  | cons p ps ih =>
    obtain ⟨skipped, hrest⟩ := ih
    obtain ⟨r, hr, hfound⟩ := readInstalled_run d p
    rw [readEachInstalled, state_bind_run hr, state_bind_run hrest, List.filterMap_cons, ← hfound]
    cases r with
    | ok v => exact ⟨skipped, rfl⟩
    | error e => exact ⟨p :: skipped, rfl⟩

/-- The vocabularies that are found by the names below a place when a path leads there. -/
def foundBelow (d : Disk) (p : Path) (place : Place) : List InstalledVocabulary :=
  (((d.namesBelow place).map (Path.join p)).filter fun q => Path.extension? q = some compiledExtension).filterMap
    (installedAt d)

theorem installedVocabularies_run {place : Place} (h : d.find p = .ok (place, .directory)) : ∃ skipped,
    (installedVocabularies p : Task (StateM Disk) _).run.run d =
      (.ok ((foundBelow d p place).mergeSort InstalledVocabulary.le, skipped), d) := by
  have hpresent : (liftM (pathExists p : StateM Disk Bool) : Task (StateM Disk) Bool).run.run d = (.ok true, d) :=
    lift_run (by rw [pathExists_run, h]; rfl)
  have hlist : (FileSystem.list p : StateM Disk _).run d = (.ok (d.namesBelow place), d) := by
    have hnames : d.list p = .ok (d.namesBelow place) := by
      rw [Disk.list, h]
      rfl
    exact congrArg (·, d) hnames
  obtain ⟨skipped, hread⟩ := readEachInstalled_run d
    (((d.namesBelow place).map (Path.join p)).filter fun q => Path.extension? q = some compiledExtension)
  refine ⟨skipped.mergeSort Text.le, ?_⟩
  have hnames : (attempt (FileSystem.list p : StateM Disk _)).run.run d = (.ok (d.namesBelow place), d) :=
    attempt_run hlist
  rw [installedVocabularies, bind_run hpresent]
  refine (bind_run hnames _).trans ?_
  exact bind_run (lift_run hread) _

theorem installedVocabularies_missing (h : ∀ found, d.find p ≠ .ok found) :
    (installedVocabularies p : Task (StateM Disk) _).run.run d = (.ok ([], []), d) := by
  have hpresent : (liftM (pathExists p : StateM Disk Bool) : Task (StateM Disk) Bool).run.run d = (.ok false, d) := by
    refine lift_run ?_
    rw [pathExists_run]
    cases hfind : d.find p with
    | ok found => exact absurd hfind (h found)
    | error e => rfl
  rw [installedVocabularies, bind_run hpresent]
  rfl

/-- A vocabulary that is compiled from a listing. -/
def compiledFrom (listing : Text) : CompiledVocabulary := .build (Entry.ofListing listing)

theorem installedAt_compiled {listing : Text} (h : d.read p = .ok (compiledFrom listing).toBytes) :
    installedAt d p = some ⟨(Path.stem? p).getD "unknown", p, (compiledFrom listing).size,
      (compiledFrom listing).toBytes.length⟩ := by
  have hbytes := CompiledVocabulary.ofBytes?_toBytes (CompiledVocabulary.isAscending_build (Entry.ofListing listing))
  rw [installedAt, h, Except.toOption, Option.bind_some, compiledFrom, hbytes]
  rfl

/-- What an import makes of a disk, with the listing that it takes in. It takes none in if it fails; the
directories that it has made by then stay. -/
def imported (directory source : Path) (language : Text) (d : Disk) : Option Text × Disk :=
  match d.createDirectories directory with
  | .error _ => (none, d)
  | .ok made =>
    match (made.read source).toOption.bind Bytes.text? with
    | none => (none, made)
    | some listing =>
      if (Entry.ofListing listing).isEmpty then (none, made)
      else
        match made.write (InstalledVocabulary.pathIn directory language) (compiledFrom listing).toBytes with
        | .error _ => (none, made)
        | .ok after => (some listing, after)

/-- An import makes directories or fails. With directories made it fails, or it has read a listing and puts what
is compiled from it into one file. -/
inductive Imports (directory source : Path) (language : Text) (d : Disk) : Option Text × Disk → Prop where
  | unmade : Imports directory source language d (none, d)
  | failed {made : Disk} (hmade : d.createDirectories directory = .ok made) :
      Imports directory source language d (none, made)
  | imported {made after : Disk} {listing : Text} (hmade : d.createDirectories directory = .ok made)
      (hlisting : (made.read source).toOption.bind Bytes.text? = some listing)
      (hwrite : made.write (InstalledVocabulary.pathIn directory language) (compiledFrom listing).toBytes = .ok after) :
      Imports directory source language d (some listing, after)

theorem imports_imported (directory source : Path) (language : Text) (d : Disk) :
    Imports directory source language d (imported directory source language d) := by
  unfold imported
  split
  case h_1 => exact .unmade
  case h_2 made hmade =>
    split
    case h_1 => exact .failed hmade
    case h_2 listing hlisting =>
      split
      case isTrue => exact .failed hmade
      case isFalse =>
        split
        case h_1 => exact .failed hmade
        case h_2 after hwrite => exact .imported hmade hlisting hwrite

theorem createDirectories_run (d : Disk) (p : Path) :
    (FileSystem.createDirectories p : StateM Disk (Except IoError Unit)).run d =
      match d.createDirectories p with
      | .ok made => (.ok (), made)
      | .error e => (.error e, d) := by
  have hget : (get : StateM Disk Disk).run d = (d, d) := rfl
  change (Disk.change (·.createDirectories p)).run d = _
  rw [Disk.change, state_bind_run hget]
  cases d.createDirectories p <;> rfl

theorem importVocabulary_run (directory source : Path) (language : Text) (d : Disk) : ∃ r,
    (importVocabulary directory source language : Task (StateM Disk) InstalledVocabulary).run.run d =
      (r, (imported directory source language d).2) ∧
      r.toOption.isSome = (imported directory source language d).1.isSome := by
  have hcreate := createDirectories_run d directory
  unfold imported
  cases hmade : d.createDirectories directory with
  | error e =>
    rw [hmade] at hcreate
    exact ⟨_, bind_run_error (during_run (attempt_run hcreate) .createDataDirectory) _, rfl⟩
  | ok made =>
    rw [hmade] at hcreate
    have hcreated : (during .createDataDirectory (attempt (FileSystem.createDirectories directory)) :
        Task (StateM Disk) Unit).run.run d = (.ok (), made) :=
      during_run (attempt_run hcreate) .createDataDirectory
    have hread : (FileSystem.read source : StateM Disk _).run made = (made.read source, made) := rfl
    have htext := during_run (attempt_run (readText_state hread)) (.readPronunciations source)
    rw [importVocabulary, bind_run hcreated]
    dsimp only
    rw [← toOption_textIn]
    cases hcontent : textIn (made.read source) with
    | error e =>
      rw [hcontent] at htext
      exact ⟨_, bind_run_error htext _, rfl⟩
    | ok listing =>
      rw [hcontent] at htext
      rw [bind_run htext]
      dsimp only [Except.toOption]
      split
      case isTrue => exact ⟨_, rfl, rfl⟩
      case isFalse =>
        cases hwrite : made.write (InstalledVocabulary.pathIn directory language) (compiledFrom listing).toBytes with
        | error e =>
          obtain ⟨failure, hbuild⟩ := buildVocabulary_run_error hwrite
          exact ⟨_, bind_run_error hbuild _, rfl⟩
        | ok after =>
          obtain ⟨r, hr, hfound⟩ := readInstalled_run after (InstalledVocabulary.pathIn directory language)
          rw [installedAt_compiled (Disk.read_write hwrite)] at hfound
          have hread : r.toOption.isSome = true := by rw [hfound, Option.isSome_some]
          exact ⟨r, (bind_run (buildVocabulary_run hwrite) _).trans hr, hread⟩

end

/-- The text of a source when an import reads it: the directories are made by then. -/
def listingAt (directory source : Path) (d : Disk) : Text :=
  match d.createDirectories directory with
  | .ok made => ((made.read source).toOption.bind Bytes.text?).getD []
  | .error _ => []

theorem listingAt_eq {directory source : Path} {d made : Disk} {listing : Text}
    (hmade : d.createDirectories directory = .ok made)
    (hlisting : (made.read source).toOption.bind Bytes.text? = some listing) :
    listingAt directory source d = listing := by
  rw [listingAt, hmade]
  dsimp only
  rw [hlisting, Option.getD_some]

/-- One import. If it succeeds, the language and the listing are put in front of those that were imported. -/
def importNext (directory : Path) (state : List (Text × Text) × Disk) (call : Path × Text) :
    List (Text × Text) × Disk :=
  match (importVocabulary directory call.1 call.2 : Task (StateM Disk) InstalledVocabulary).run.run state.2 with
  | (.ok _, after) => ((call.2, listingAt directory call.1 state.2) :: state.1, after)
  | (.error _, after) => (state.1, after)

theorem importNext_eq (directory : Path) (state : List (Text × Text) × Disk) (call : Path × Text) :
    importNext directory state call =
      ((imported directory call.1 call.2 state.2).1.toList.map (call.2, ·) ++ state.1,
        (imported directory call.1 call.2 state.2).2) := by
  obtain ⟨r, hrun, hsome⟩ := importVocabulary_run directory call.1 call.2 state.2
  have himports := imports_imported directory call.1 call.2 state.2
  rw [importNext, hrun]
  generalize imported directory call.1 call.2 state.2 = result at himports hsome ⊢
  cases r with
  | ok v =>
    cases himports with
    | unmade | failed => exact absurd hsome.symm Bool.false_ne_true
    | imported hmade hlisting =>
      dsimp only
      rw [listingAt_eq hmade hlisting]
      rfl
  | error e =>
    cases himports with
    | unmade | failed => rfl
    | imported => exact absurd hsome Bool.false_ne_true

/-- What was imported, the last listing first, and the disk after a run of imports into a directory. -/
def importAll (directory : Path) (calls : List (Path × Text)) (d : Disk) : List (Text × Text) × Disk :=
  calls.foldl (importNext directory) ([], d)

/-- Whether nothing stands where a path leads, or an empty directory. -/
structure Files.Disk.IsVacant (d : Disk) (p : Path) : Prop where
  not_file (content : Bytes) : d.item? (d.placeOf p) ≠ some (.file content)
  namesBelow_eq : d.namesBelow (d.placeOf p) = []

namespace Files.Disk

variable {d : Disk} {p : Path}

theorem isVacant_of_list (h : d.list p = .ok []) : d.IsVacant p := by
  unfold list at h
  cases hfind : d.find p with
  | error e =>
    rw [hfind] at h
    cases h
  | ok found =>
    obtain ⟨place, item⟩ := found
    obtain ⟨hresolve, hitem⟩ := find_eq_ok_iff.mp hfind
    obtain rfl := eq_placeOf hresolve
    rw [hfind] at h
    cases item with
    | file content => cases h
    | directory =>
      refine ⟨fun content hfile => ?_, Except.ok.inj h⟩
      rw [hitem] at hfile
      cases hfile

/-- Where nothing stands and everything stands in a directory, nothing stands below. -/
theorem isVacant_of_missing (hin : ∀ place name, (d.item? (place ++ [name])).isSome → d.item? place = some .directory)
    (h : d.item? (d.placeOf p) = none) : d.IsVacant p := by
  refine ⟨fun content hfile => ?_, List.eq_nil_iff_forall_not_mem.mpr fun name hname => ?_⟩
  · rw [h] at hfile
    cases hfile
  · have hdirectory := hin _ _ (mem_namesBelow.mp hname)
    rw [h] at hdirectory
    cases hdirectory

end Files.Disk

/-- What a run of imports preserves: in the directory there are just the files of the languages that were
imported, each with what is compiled from the last listing for it. -/
structure Installs (directory : Path) (log : List (Text × Text)) (d : Disk) : Prop where
  isName_work : ∀ name ∈ d.workingDirectory, Disk.IsName name
  isName_below : ∀ name ∈ d.namesBelow (d.placeOf directory), Disk.IsName name
  nodup_below : (d.namesBelow (d.placeOf directory)).Nodup
  isName_language : ∀ language ∈ log.map Prod.fst, language ≠ [] ∧ '/' ∉ language
  not_file (content : Bytes) : d.item? (d.placeOf directory) ≠ some (.file content)
  find_directory : log ≠ [] → d.find directory = .ok (d.placeOf directory, .directory)
  item?_eq_file (name : Text) (content : Bytes) :
    d.item? (d.placeOf directory ++ [name]) = some (.file content) ↔
      ∃ language listing, log.lookup language = some listing ∧ name = dictName language ∧
        content = (compiledFrom listing).toBytes

namespace Installs

variable {directory : Path} {log : List (Text × Text)} {d : Disk}

theorem of_isVacant (hwork : ∀ name ∈ d.workingDirectory, Disk.IsName name) (h : d.IsVacant directory) :
    Installs directory [] d where
  isName_work := hwork
  isName_below name hname := by
    rw [h.namesBelow_eq] at hname
    cases hname
  nodup_below := h.namesBelow_eq ▸ List.nodup_nil
  isName_language := nofun
  not_file := h.not_file
  find_directory hlog := absurd rfl hlog
  item?_eq_file name content := by
    refine iff_of_false (fun hitem => ?_) nofun
    have hname : name ∈ d.namesBelow (d.placeOf directory) := Disk.mem_namesBelow.mpr (by rw [hitem]; rfl)
    rw [h.namesBelow_eq] at hname
    cases hname

theorem put_directory (h : Installs directory log d) {place : Place} (hplace : ∀ name ∈ place, Disk.IsName name)
    (hnone : d.item? place = none) : Installs directory log (d.put place .directory) := by
  have hne : place ≠ [] := by
    rintro rfl
    cases hnone
  have hother {other : Place} {content : Bytes} :
      (d.put place .directory).item? other = some (.file content) ↔ d.item? other = some (.file content) := by
    rw [Disk.item?_put hne]
    split
    case isTrue heq => rw [heq, hnone]; exact iff_of_false nofun nofun
    case isFalse => rfl
  refine ⟨h.isName_work, fun name hname => ?_, Disk.nodup_namesBelow_put h.nodup_below _, h.isName_language,
    fun content hitem => h.not_file content (hother.mp hitem), fun hlog => ?_,
    fun name content => hother.trans (h.item?_eq_file name content)⟩
  · rw [Disk.mem_namesBelow, Disk.item?_put hne] at hname
    split at hname
    case isTrue heq => exact hplace name (heq ▸ List.mem_append_right _ List.mem_cons_self)
    case isFalse => exact h.isName_below name (Disk.mem_namesBelow.mpr hname)
  · obtain ⟨hresolve, hitem⟩ := Disk.find_eq_ok_iff.mp (h.find_directory hlog)
    refine Disk.find_eq_ok_iff.mpr ⟨Disk.resolve_put (by rw [hnone]; exact nofun) hresolve, ?_⟩
    change (d.put place .directory).item? (d.placeOf directory) = _
    rw [Disk.item?_put hne, hitem, ite_self]

theorem createDirectories (h : Installs directory log d) {p : Path} {made : Disk}
    (hmade : d.createDirectories p = .ok made) : Installs directory log made :=
  Disk.createDirectories_induction h.isName_work (fun _ _ hplace hnone hd => hd.put_directory hplace hnone) hmade h

/-- A listing that is compiled into the file of a language takes the place of the one before it. -/
theorem write (h : Installs directory log d) (hdirectory : directory ≠ []) {language listing : Text}
    (hlanguage : language ≠ [] ∧ '/' ∉ language) {after : Disk}
    (hwrite : d.write (InstalledVocabulary.pathIn directory language) (compiledFrom listing).toBytes = .ok after) :
    Installs directory ((language, listing) :: log) after := by
  have hname := isName_dictName hlanguage.2
  obtain ⟨place, hresolve, _, hplace, rfl⟩ := Disk.write_eq_ok_iff.mp hwrite
  obtain ⟨hfind, rfl⟩ := (Disk.resolve_join_iff hdirectory hname).mp hresolve
  have hne : d.placeOf directory ++ [dictName language] ≠ [] := by simp
  have hother {item : Item} : (d.put (d.placeOf directory ++ [dictName language]) item).item? (d.placeOf directory) =
      d.item? (d.placeOf directory) := by
    rw [Disk.item?_put hne, if_neg (by simp)]
  refine ⟨h.isName_work, fun name hbelow => ?_, Disk.nodup_namesBelow_put h.nodup_below _, ?_, fun content hitem => ?_,
    fun _ => ?_, fun name content => ?_⟩
  · rw [Disk.mem_namesBelow, Disk.item?_put hne] at hbelow
    split at hbelow
    case isTrue heq =>
      obtain rfl := List.singleton_inj.mp (List.append_cancel_left heq)
      exact hname
    case isFalse => exact h.isName_below name (Disk.mem_namesBelow.mpr hbelow)
  · rintro other (_ | ⟨_, hmem⟩)
    · exact hlanguage
    · exact h.isName_language other hmem
  · exact h.not_file content (hother.symm.trans hitem)
  · obtain ⟨hway, hitem⟩ := Disk.find_eq_ok_iff.mp hfind
    exact Disk.find_eq_ok_iff.mpr ⟨Disk.resolve_put hplace hway, hother.trans hitem⟩
  · change (d.put _ _).item? (d.placeOf directory ++ [name]) = _ ↔ _
    rw [Disk.item?_put hne]
    by_cases hsame : name = dictName language
    · rw [if_pos (by rw [hsame]), Option.some.injEq, Item.file.injEq]
      constructor
      · intro hcontent
        exact ⟨language, listing, List.lookup_cons_self, hsame, hcontent.symm⟩
      · rintro ⟨other, listing', hlookup, hname', rfl⟩
        obtain rfl := dictName_inj (hsame.symm.trans hname')
        rw [List.lookup_cons_self] at hlookup
        cases hlookup
        rfl
    · rw [if_neg (by simpa using hsame), h.item?_eq_file]
      refine exists_congr fun other => exists_congr fun listing' => and_congr_left fun hand => ?_
      have hne' : other ≠ language := fun heq => hsame (heq ▸ hand.1)
      rw [List.lookup_cons, beq_eq_false_iff_ne.mpr hne']

end Installs

/-- An installed vocabulary that was compiled from a listing. -/
def InstalledVocabulary.compiled (directory : Path) (language listing : Text) : InstalledVocabulary :=
  ⟨language, pathIn directory language, (compiledFrom listing).size, (compiledFrom listing).toBytes.length⟩

/-- Whether vocabularies are those of the languages that were imported, in the order of the languages. -/
structure IsInventory (directory : Path) (log : List (Text × Text)) (vs : List InstalledVocabulary) : Prop where
  ascending : vs.Pairwise fun v v' => v.language.Before v'.language
  mem_iff (v : InstalledVocabulary) : v ∈ vs ↔
    ∃ language listing, log.lookup language = some listing ∧ v = .compiled directory language listing

theorem IsInventory.eq {directory : Path} {log : List (Text × Text)} {vs vs' : List InstalledVocabulary}
    (h : IsInventory directory log vs) (h' : IsInventory directory log vs') : vs = vs' := by
  have hnodup {us : List InstalledVocabulary} (hus : IsInventory directory log us) : us.Nodup :=
    hus.ascending.imp fun hbefore heq => hbefore.2 (congrArg _ heq)
  refine List.Perm.eq_of_pairwise (fun v v' _ _ hbefore hafter => ?_) h.ascending h'.ascending ?_
  · exact absurd (Text.le_antisymm hbefore.1 hafter.1) hbefore.2
  · exact (List.perm_ext_iff_of_nodup (hnodup h) (hnodup h')).mpr fun v => (h.mem_iff v).trans (h'.mem_iff v).symm

namespace Installs

variable {directory : Path} {log : List (Text × Text)} {d : Disk}

theorem language_of_lookup (h : Installs directory log d) {language listing : Text}
    (hlookup : log.lookup language = some listing) : language ≠ [] ∧ '/' ∉ language := by
  obtain ⟨_, _, rfl, _⟩ := List.lookup_eq_some_iff.mp hlookup
  exact h.isName_language language (by simp)

/-- The names of compiled vocabularies in the directory are read as those vocabularies, and nothing else is. -/
theorem installedAt_join (h : Installs directory log d) (hdirectory : directory ≠ [])
    (hfind : d.find directory = .ok (d.placeOf directory, .directory)) {name : Text} (hname : Disk.IsName name)
    {v : InstalledVocabulary} :
    installedAt d (Path.join directory name) = some v ↔ ∃ language listing, log.lookup language = some listing ∧
      name = dictName language ∧ v = .compiled directory language listing := by
  have hread {content : Bytes} : d.read (Path.join directory name) = .ok content ↔
      d.item? (d.placeOf directory ++ [name]) = some (.file content) := read_join_iff hdirectory hfind hname
  have hcompiled {language listing : Text} (hlookup : log.lookup language = some listing)
      (hsame : name = dictName language) : installedAt d (Path.join directory name) =
        some (.compiled directory language listing) := by
    have hlanguage := h.language_of_lookup hlookup
    have hstem : Path.stem? (Path.join directory name) = some language := by
      rw [Path.stem?, fileName?_join hdirectory hname, hsame]
      exact congrArg (fun parts => some parts.1) (splitName_dictName hlanguage.1)
    rw [installedAt_compiled (hread.mpr ((h.item?_eq_file name _).mpr ⟨language, listing, hlookup, hsame, rfl⟩)),
      hstem, hsame]
    rfl
  constructor
  · intro hfound
    obtain ⟨content, hcontent⟩ : ∃ content, d.read (Path.join directory name) = .ok content := by
      cases hread' : d.read (Path.join directory name) with
      | ok content => exact ⟨content, rfl⟩
      | error e =>
        rw [installedAt, hread'] at hfound
        cases hfound
    obtain ⟨language, listing, hlookup, hsame, _⟩ := (h.item?_eq_file name content).mp (hread.mp hcontent)
    rw [hcompiled hlookup hsame] at hfound
    cases hfound
    exact ⟨language, listing, hlookup, hsame, rfl⟩
  · rintro ⟨language, listing, hlookup, hsame, rfl⟩
    exact hcompiled hlookup hsame

theorem mem_foundBelow (h : Installs directory log d) (hdirectory : directory ≠ [])
    (hfind : d.find directory = .ok (d.placeOf directory, .directory)) {v : InstalledVocabulary} :
    v ∈ foundBelow d directory (d.placeOf directory) ↔
      ∃ language listing, log.lookup language = some listing ∧ v = .compiled directory language listing := by
  simp only [foundBelow, List.mem_filterMap, List.mem_filter, List.mem_map]
  constructor
  · rintro ⟨_, ⟨⟨name, hname, rfl⟩, _⟩, hv⟩
    obtain ⟨language, listing, hlookup, _, rfl⟩ :=
      (h.installedAt_join hdirectory hfind (h.isName_below name hname)).mp hv
    exact ⟨language, listing, hlookup, rfl⟩
  · rintro ⟨language, listing, hlookup, rfl⟩
    obtain ⟨hne, hslash⟩ := h.language_of_lookup hlookup
    have hname := isName_dictName hslash
    have hbelow : dictName language ∈ d.namesBelow (d.placeOf directory) := by
      rw [Disk.mem_namesBelow, (h.item?_eq_file _ _).mpr ⟨language, listing, hlookup, rfl, rfl⟩]
      rfl
    refine ⟨_, ⟨⟨_, hbelow, rfl⟩, ?_⟩,
      (h.installedAt_join hdirectory hfind hname).mpr ⟨language, listing, hlookup, rfl, rfl⟩⟩
    rw [Path.extension?, fileName?_join hdirectory hname, Option.bind_some, splitName_dictName hne]
    exact decide_eq_true rfl

theorem pairwise_foundBelow (h : Installs directory log d) (hdirectory : directory ≠ [])
    (hfind : d.find directory = .ok (d.placeOf directory, .directory)) :
    (foundBelow d directory (d.placeOf directory)).Pairwise fun v v' => v.language ≠ v'.language := by
  have hpaths : ((d.namesBelow (d.placeOf directory)).map (Path.join directory)).Pairwise fun q q' =>
      ∀ v, installedAt d q = some v → ∀ v', installedAt d q' = some v' → v.language ≠ v'.language := by
    rw [List.pairwise_map]
    refine h.nodup_below.imp_of_mem fun {name name'} hname hname' hne v hv v' hv' hsame => hne ?_
    obtain ⟨language, _, _, rfl, rfl⟩ := (h.installedAt_join hdirectory hfind (h.isName_below name hname)).mp hv
    obtain ⟨language', _, _, rfl, rfl⟩ :=
      (h.installedAt_join hdirectory hfind (h.isName_below name' hname')).mp hv'
    exact congrArg dictName hsame
  exact (hpaths.filter _).filterMap (installedAt d) fun _ _ hdistinct => hdistinct

theorem exists_isInventory (h : Installs directory log d) (hdirectory : directory ≠ []) : ∃ vs skipped,
    (installedVocabularies directory : Task (StateM Disk) _).run.run d = (.ok (vs, skipped), d) ∧
      IsInventory directory log vs := by
  by_cases hfind : d.find directory = .ok (d.placeOf directory, .directory)
  · obtain ⟨skipped, hrun⟩ := installedVocabularies_run hfind
    have hsorted : ((foundBelow d directory (d.placeOf directory)).mergeSort InstalledVocabulary.le).Pairwise
        fun v v' => InstalledVocabulary.le v v' = true :=
      List.pairwise_mergeSort (fun a b c => Text.le_trans a.language b.language c.language)
        (fun a b => Text.le_total a.language b.language) _
    have hdistinct := (List.mergeSort_perm (foundBelow d directory (d.placeOf directory)) InstalledVocabulary.le
      |>.pairwise_iff Ne.symm).mpr (h.pairwise_foundBelow hdirectory hfind)
    exact ⟨_, skipped, hrun, hsorted.and hdistinct,
      fun v => List.mem_mergeSort.trans (h.mem_foundBelow hdirectory hfind)⟩
  · have hlog : log = [] := by
      by_contra hne
      exact hfind (h.find_directory hne)
    subst hlog
    refine ⟨[], [], installedVocabularies_missing fun found hfound => ?_, .nil, fun v => iff_of_false nofun nofun⟩
    obtain ⟨place, item⟩ := found
    obtain ⟨hresolve, hitem⟩ := Disk.find_eq_ok_iff.mp hfound
    obtain rfl := Disk.eq_placeOf hresolve
    cases item with
    | directory => exact hfind hfound
    | file content => exact h.not_file content hitem

theorem read_pathIn (h : Installs directory log d) (hdirectory : directory ≠ []) {language listing : Text}
    (hlookup : log.lookup language = some listing) :
    d.read (InstalledVocabulary.pathIn directory language) = .ok (compiledFrom listing).toBytes := by
  have hlog : log ≠ [] := by
    rintro rfl
    cases hlookup
  have hname := isName_dictName (h.language_of_lookup hlookup).2
  exact (read_join_iff hdirectory (h.find_directory hlog) hname).mpr
    ((h.item?_eq_file _ _).mpr ⟨language, listing, hlookup, rfl, rfl⟩)

theorem failed (h : Installs directory log d) {source : Path} {language : Text} {after : Disk}
    (himport : Imports directory source language d (none, after)) : Installs directory log after := by
  cases himport with
  | unmade => exact h
  | failed hmade => exact h.createDirectories hmade

theorem importNext {state : List (Text × Text) × Disk} (h : Installs directory state.1 state.2)
    (hdirectory : directory ≠ []) {call : Path × Text} (hlanguage : call.2 ≠ [] ∧ '/' ∉ call.2) :
    Installs directory (importNext directory state call).1 (importNext directory state call).2 := by
  have himport := imports_imported directory call.1 call.2 state.2
  rw [importNext_eq]
  generalize imported directory call.1 call.2 state.2 = result at himport
  cases himport with
  | unmade => exact h
  | failed hmade => exact h.createDirectories hmade
  | imported hmade _ hwrite => exact (h.createDirectories hmade).write hdirectory hlanguage hwrite

theorem importAll {calls : List (Path × Text)} (hdirectory : directory ≠ [])
    (hcalls : ∀ call ∈ calls, call.2 ≠ [] ∧ '/' ∉ call.2) (state : List (Text × Text) × Disk)
    (h : Installs directory state.1 state.2) :
    Installs directory (calls.foldl (Dictation.importNext directory) state).1
      (calls.foldl (Dictation.importNext directory) state).2 := by
  induction calls generalizing state with
  | nil => exact h
  | cons call calls ih =>
    have hlanguage := hcalls call List.mem_cons_self
    exact ih (fun other hother => hcalls other (List.mem_cons_of_mem call hother)) _ (h.importNext hdirectory hlanguage)

end Installs

theorem imports_of_run {directory source : Path} {language : Text} {d after : Disk} {e : Failure}
    (h : (importVocabulary directory source language : Task (StateM Disk) _).run.run d = (.error e, after)) :
    Imports directory source language d (none, after) := by
  obtain ⟨r, hrun, hsome⟩ := importVocabulary_run directory source language d
  obtain ⟨rfl, hafter⟩ := Prod.mk.inj (hrun.symm.trans h)
  have hnone : (imported directory source language d).1 = none := Option.not_isSome_iff_eq_none.mp (by
    rw [← hsome]
    exact Bool.false_ne_true)
  have himported : imported directory source language d = (none, after) := Prod.ext hnone hafter
  exact himported ▸ imports_imported directory source language d

theorem Imports.item?_eq_file_iff {directory source : Path} {language : Text} {d after : Disk}
    (hwork : ∀ name ∈ d.workingDirectory, Disk.IsName name)
    (h : Imports directory source language d (none, after)) (place : Place) (content : Bytes) :
    after.item? place = some (.file content) ↔ d.item? place = some (.file content) := by
  cases h with
  | unmade => rfl
  | failed hmade =>
    refine Disk.createDirectories_induction (motive := fun made => made.item? place = some (.file content) ↔ _)
      hwork (fun made other _ hnone hmade => ?_) hmade Iff.rfl
    have hne : other ≠ [] := by
      rintro rfl
      cases hnone
    rw [← hmade, Disk.item?_put hne]
    split
    case isTrue heq => rw [heq, hnone]; exact iff_of_false nofun nofun
    case isFalse => rfl

theorem size_compiledFrom (listing : Text) : (compiledFrom listing).size =
    ((Entry.ofListing listing).map fun e => (e.word, e.pronunciation)).dedup.length := by
  have hlisted : ∀ e ∈ Entry.ofListing listing, e.IsListed := fun e he => Entry.isListed_of_mem he
  have hpairs : Entry.distinct (Entry.ofListing listing) =
      ((Entry.ofListing listing).map fun e => (e.word, e.pronunciation)).dedup := by
    rw [Entry.distinct, List.filter_eq_self.mpr fun e he => by simpa using (hlisted e he).word_ne_nil]
    exact congrArg List.dedup (List.map_congr_left fun e he => by rw [(hlisted e he).word_lower])
  rw [compiledFrom, CompiledVocabulary.size_build fun e he => (hlisted e he).tab_not_mem, hpairs]

/-- After a run of imports into a directory in which nothing stood, what is installed are the languages that
were imported, in order and each once, each with the pairs of words and pronunciations in the last listing that
was imported for it. A further import that fails leaves what is installed and every file as it is. The empty path
leads to no directory. -/
theorem installed_importAll {directory : Path} (hdirectory : directory ≠ []) {d : Disk}
    (hwork : ∀ name ∈ d.workingDirectory, Disk.IsName name) (hvacant : d.IsVacant directory)
    {calls : List (Path × Text)} (hcalls : ∀ call ∈ calls, call.2 ≠ [] ∧ '/' ∉ call.2)
    {log : List (Text × Text)} {after : Disk} (hrun : importAll directory calls d = (log, after)) :
    ∃ vs skipped,
      (installedVocabularies directory : Task (StateM Disk) _).run.run after = (.ok (vs, skipped), after) ∧
      (vs.map (·.language)).Pairwise Text.Before ∧
      (∀ language, language ∈ vs.map (·.language) ↔ language ∈ log.map Prod.fst) ∧
      (∀ v ∈ vs, ∃ listing, log.lookup v.language = some listing ∧
        v.entryCount = ((Entry.ofListing listing).map fun e => (e.word, e.pronunciation)).dedup.length ∧
        v.path = InstalledVocabulary.pathIn directory v.language ∧
        after.read v.path = .ok (CompiledVocabulary.build (Entry.ofListing listing)).toBytes) ∧
      ∀ (source : Path) (language : Text) (e : Failure) (after' : Disk),
        (importVocabulary directory source language : Task (StateM Disk) _).run.run after = (.error e, after') →
        (∃ skipped', (installedVocabularies directory : Task (StateM Disk) _).run.run after' =
          (.ok (vs, skipped'), after')) ∧
        (∀ v ∈ vs, after'.read v.path = after.read v.path) ∧
        ∀ place content, after'.item? place = some (.file content) ↔ after.item? place = some (.file content) := by
  have hinstalls : Installs directory log after := by
    have hall := Installs.importAll hdirectory hcalls ([], d) (.of_isVacant hwork hvacant)
    rwa [← importAll, hrun] at hall
  obtain ⟨vs, skipped, hlisted, hinventory⟩ := hinstalls.exists_isInventory hdirectory
  refine ⟨vs, skipped, hlisted, List.pairwise_map.mpr hinventory.ascending, fun language => ?_, fun v hv => ?_,
    fun source language e after' hfailed => ?_⟩
  · have hlookup : language ∈ log.map Prod.fst ↔ ∃ listing, log.lookup language = some listing := by
      rw [← Option.isSome_iff_exists, Option.isSome_iff_ne_none, ne_eq, List.lookup_eq_none_iff]
      simp
    rw [hlookup, List.mem_map]
    constructor
    · rintro ⟨v, hv, rfl⟩
      obtain ⟨_, listing, hfound, rfl⟩ := (hinventory.mem_iff v).mp hv
      exact ⟨listing, hfound⟩
    · rintro ⟨listing, hlookup⟩
      exact ⟨_, (hinventory.mem_iff _).mpr ⟨language, listing, hlookup, rfl⟩, rfl⟩
  · obtain ⟨language, listing, hlookup, rfl⟩ := (hinventory.mem_iff v).mp hv
    exact ⟨listing, hlookup, size_compiledFrom listing, rfl, hinstalls.read_pathIn hdirectory hlookup⟩
  · have himport := imports_of_run hfailed
    have hinstalls' := hinstalls.failed himport
    obtain ⟨vs', skipped', hlisted', hinventory'⟩ := hinstalls'.exists_isInventory hdirectory
    obtain rfl := hinventory.eq hinventory'
    refine ⟨⟨skipped', hlisted'⟩, fun v hv => ?_, himport.item?_eq_file_iff hinstalls.isName_work⟩
    obtain ⟨language, listing, hlookup, rfl⟩ := (hinventory.mem_iff v).mp hv
    exact (hinstalls'.read_pathIn hdirectory hlookup).trans (hinstalls.read_pathIn hdirectory hlookup).symm

/-- A listing that is no text, one that is missing, and a language that is imported again, into a directory that
is missing and into an empty one. -/
theorem installed_importAll_again :
    let d := ((((Disk.empty []).put ["a".toList] (.file (Bytes.ofText "r R\nr(2) S\nR R\n"))).put ["b".toList]
      (.file (Bytes.ofText "k K\n"))).put ["c".toList] (.file [0xFF])).put ["spare".toList] .directory
    let calls : List (Path × Text) := [("/b", "fr"), ("/c", "fr"), ("/none", "en"), ("/b", "de"), ("/a", "fr")]
    (∀ call ∈ calls, call.2 ≠ [] ∧ '/' ∉ call.2) ∧ ∀ directory ∈ ["/data".toList, "/spare".toList],
      d.IsVacant directory ∧ ∃ after vs skipped,
        (importAll directory calls d).2 = after ∧
        (installedVocabularies directory : Task (StateM Disk) _).run.run after = (.ok (vs, skipped), after) ∧
        (vs.map (·.language)).Pairwise Text.Before ∧
        (∀ language, language ∈ vs.map (·.language) ↔ language ∈ ["fr".toList, "de".toList]) ∧
        ∃ v ∈ vs, v.language = "fr".toList ∧ v.entryCount = 2 := by
  intro d calls
  have hin (place : Place) (name : Text) (h : (d.item? (place ++ [name])).isSome) : d.item? place = some .directory := by
    have hroot : ∀ item ∈ d.items, item.1.dropLast = [] := by decide
    obtain ⟨⟨other, item⟩, hitem, hname⟩ := List.mem_filterMap.mp (Disk.mem_namesBelow.mpr h)
    dsimp only at hname
    split at hname
    case isTrue hplace =>
      rw [← hplace, hroot _ hitem]
      rfl
    case isFalse => cases hname
  have hvacant : ∀ directory ∈ ["/data".toList, "/spare".toList], d.IsVacant directory := by
    rintro directory (_ | ⟨_, _ | ⟨_, hnil⟩⟩)
    · exact Disk.isVacant_of_missing hin (by decide +kernel)
    · exact Disk.isVacant_of_list (by decide +kernel)
    · cases hnil
  have hcalls : ∀ call ∈ calls, call.2 ≠ [] ∧ '/' ∉ call.2 := by decide
  have hlog : ∀ directory ∈ ["/data".toList, "/spare".toList], (importAll directory calls d).1 =
      [("fr".toList, "r R\nr(2) S\nR R\n".toList), ("de".toList, "k K\n".toList), ("fr".toList, "k K\n".toList)] := by
    have hnext (directory : Path) := funext fun state => funext (importNext_eq directory state)
    simp only [importAll, hnext]
    decide +kernel
  have hne : ∀ directory ∈ ["/data".toList, "/spare".toList], directory ≠ [] := by decide
  have hwork : ∀ name ∈ d.workingDirectory, Disk.IsName name := fun _ hname => absurd hname List.not_mem_nil
  clear_value d calls
  refine ⟨hcalls, fun directory hdirectory => ⟨hvacant directory hdirectory, ?_⟩⟩
  have hlog := hlog directory hdirectory
  generalize hrun : importAll directory calls d = state at hlog ⊢
  obtain ⟨log, after⟩ := state
  dsimp only at hlog
  obtain ⟨vs, skipped, hlisted, hbefore, hlanguages, hentries, _⟩ :=
    installed_importAll (hne directory hdirectory) hwork (hvacant directory hdirectory) hcalls hrun
  subst hlog
  have hmem (language : Text) :
      language ∈ vs.map (·.language) ↔ language ∈ ["fr".toList, "de".toList] := by
    rw [hlanguages]
    simp only [List.map_cons, List.map_nil, List.mem_cons, List.not_mem_nil, or_false]
    exact ⟨fun h => h.elim .inl fun h => h.symm, fun h => h.elim .inl fun h => .inr (.inl h)⟩
  obtain ⟨v, hv, hfr⟩ := List.mem_map.mp ((hmem "fr".toList).mpr List.mem_cons_self)
  obtain ⟨listing, hlookup, hcount, _⟩ := hentries v hv
  rw [hfr, List.lookup_cons_self] at hlookup
  cases hlookup
  exact ⟨_, vs, skipped, rfl, hlisted, hbefore, hmem, v, hv, hfr, hcount.trans (by decide +kernel)⟩

end Dictation
