import Dictation.Failure
import Dictation.Files.Disk
import Dictation.Proofs.Text.Fields
import Mathlib.Data.List.Basic
/-!
# Tasks on a disk

What a task gives and what it makes of the state, such as a disk, from what its parts give. The file
that is written at a path is read at that path: no step on the way there is made in it, since it stands
where no directory stood. A path leads to the same place on any disk where it leads anywhere, and making
directories only adds some where nothing stood.
-/
namespace Dictation.Files

namespace Disk

variable {d : Disk} {place : Place} {content : Bytes}

theorem item?_put (hplace : place ≠ []) (item : Item) (other : Place) :
    (d.put place item).item? other = if other = place then some item else d.item? other := by
  unfold item? put
  by_cases hsame : other = place
  · subst hsame
    rw [if_pos rfl, if_neg (by simpa using hplace), List.lookup_cons_self]
  · rw [if_neg hsame]
    split
    · rfl
    · rw [List.lookup_cons, beq_eq_false_iff_ne.mpr hsame]
      dsimp only
      induction d.items with
      | nil => rfl
      | cons entry entries ih =>
        by_cases hentry : entry.1 = place
        · rw [List.filter_cons_of_neg (by simpa using hentry), ih, List.lookup_cons, hentry,
            beq_eq_false_iff_ne.mpr hsame]
        · rw [List.filter_cons_of_pos (by simpa using hentry), List.lookup_cons, List.lookup_cons, ih]

/-- The way to a place is the same with something else where no directory stood. -/
theorem follow_put (hplace : d.item? place ≠ some .directory) {item : Item} {steps : List Text}
    {start found : Place} (h : d.follow steps start = .ok found) :
    (d.put place item).follow steps start = .ok found := by
  have hne : place ≠ [] := by
    rintro rfl
    exact hplace rfl
  induction steps generalizing start with
  | nil => exact h
  | cons step steps ih =>
    rw [follow] at h ⊢
    cases hitem : d.item? start with
    | none =>
      rw [hitem] at h
      cases h
    | some found =>
      cases found with
      | file content =>
        rw [hitem] at h
        cases h
      | directory =>
        have hother : start ≠ place := fun heq => hplace (heq ▸ hitem)
        rw [hitem] at h
        rw [item?_put hne, if_neg hother, hitem]
        exact ih h

theorem resolve_put (hplace : d.item? place ≠ some .directory) {item : Item} {p : Path} {found : Place}
    (h : d.resolve p = .ok found) : (d.put place item).resolve p = .ok found := by
  unfold resolve at h ⊢
  split
  case isTrue hempty =>
    rw [if_pos hempty] at h
    cases h
  case isFalse hempty =>
    rw [if_neg hempty] at h
    exact follow_put hplace h

theorem find_eq_ok_iff {p : Path} {item : Item} :
    d.find p = .ok (place, item) ↔ d.resolve p = .ok place ∧ d.item? place = some item := by
  unfold find
  cases d.resolve p with
  | error e => exact iff_of_false nofun nofun
  | ok found =>
    simp only [bind, Except.bind, Except.ok.injEq]
    constructor
    · intro h
      split at h
      case h_1 other hother =>
        cases h
        exact ⟨rfl, hother⟩
      case h_2 => cases h
    · rintro ⟨rfl, hitem⟩
      rw [hitem]
      rfl

theorem dropEndWhile_of_getLast? {p : Path} (h : p.getLast? ≠ some '/') : p.dropEndWhile (· = '/') = p := by
  obtain ⟨t, hp⟩ : ∃ t : Text, p = t.reverse := ⟨_, (List.reverse_reverse p).symm⟩
  subst hp
  cases t with
  | nil => rfl
  | cons c t =>
    rw [List.getLast?_reverse] at h
    have hc : c ≠ '/' := fun heq => h (heq ▸ rfl)
    rw [Text.dropEndWhile, List.reverse_reverse, List.dropWhile_cons_of_neg (by simpa using hc)]

theorem write_eq_ok_iff {d' : Disk} {p : Path} : d.write p content = .ok d' ↔
    ∃ place, d.resolve p = .ok place ∧ p.getLast? ≠ some '/' ∧ d.item? place ≠ some .directory ∧
      d' = d.put place (.file content) := by
  have hwrite : d.write p content = (d.resolve (p.dropEndWhile (· = '/'))).bind fun place =>
      if p.getLast? = some '/' then .error .isDirectory
      else if d.item? place = some .directory then .error .isDirectory
      else .ok (d.put place (.file content)) := rfl
  rw [hwrite]
  by_cases hslash : p.getLast? = some '/'
  · refine iff_of_false ?_ fun ⟨_, _, hne, _⟩ => hne hslash
    cases d.resolve (p.dropEndWhile (· = '/')) with
    | error e => exact nofun
    | ok place =>
      rw [Except.bind, if_pos hslash]
      exact nofun
  · rw [dropEndWhile_of_getLast? hslash]
    cases d.resolve p with
    | error e => exact iff_of_false nofun nofun
    | ok place =>
      rw [Except.bind, if_neg hslash]
      by_cases hdirectory : d.item? place = some .directory
      · rw [if_pos hdirectory]
        refine iff_of_false nofun ?_
        rintro ⟨_, hplace, _, hnot, _⟩
        cases hplace
        exact hnot hdirectory
      · rw [if_neg hdirectory]
        constructor
        · rintro h
          cases h
          exact ⟨place, rfl, hslash, hdirectory, rfl⟩
        · rintro ⟨_, hplace, _, _, rfl⟩
          cases hplace
          rfl

theorem read_write {d' : Disk} {p : Path} (h : d.write p content = .ok d') : d'.read p = .ok content := by
  obtain ⟨place, hresolve, _, hplace, rfl⟩ := write_eq_ok_iff.mp h
  have hne : place ≠ [] := by
    rintro rfl
    exact hplace rfl
  have hfind : (d.put place (.file content)).find p = .ok (place, .file content) :=
    find_eq_ok_iff.mpr ⟨resolve_put hplace hresolve, by rw [item?_put hne, if_pos rfl]⟩
  rw [read, hfind]
  rfl

theorem put_put (item item' : Item) : (d.put place item).put place item' = d.put place item' := by
  simp [put, List.filter_cons_of_neg]

theorem write_write {d' : Disk} {p : Path} (h : d.write p content = .ok d') (content' : Bytes) :
    d'.write p content' = d.write p content' := by
  obtain ⟨place, hresolve, hslash, hplace, rfl⟩ := write_eq_ok_iff.mp h
  have hne : place ≠ [] := by
    rintro rfl
    exact hplace rfl
  have hitem : (d.put place (.file content)).item? place ≠ some .directory := by
    rw [item?_put hne, if_pos rfl]
    exact nofun
  rw [write_eq_ok_iff.mpr ⟨place, hresolve, hslash, hplace, rfl⟩, ← put_put (.file content) (.file content')]
  exact write_eq_ok_iff.mpr ⟨place, resolve_put hplace hresolve, hslash, hitem, rfl⟩

/-- What may be written at a path at all may be anything. -/
theorem exists_write {d' : Disk} {p : Path} (h : d.write p content = .ok d') (content' : Bytes) :
    ∃ d'', d.write p content' = .ok d'' := by
  obtain ⟨place, hresolve, hslash, hplace, _⟩ := write_eq_ok_iff.mp h
  exact ⟨_, write_eq_ok_iff.mpr ⟨place, hresolve, hslash, hplace, rfl⟩⟩

theorem follow_append (xs ys : List Text) (start : Place) :
    d.follow (xs ++ ys) start = (d.follow xs start).bind (d.follow ys) := by
  induction xs generalizing start with
  | nil => rfl
  | cons x xs ih =>
    rw [List.cons_append, follow, follow]
    cases d.item? start with
    | none => rfl
    | some item =>
      cases item with
      | file content => rfl
      | directory => exact ih _

theorem follow_cons_eq_ok_iff {step : Text} {steps : List Text} {start : Place} :
    d.follow (step :: steps) start = .ok place ↔
      d.item? start = some .directory ∧ d.follow steps (enter start step) = .ok place := by
  rw [follow]
  cases d.item? start with
  | none => simp
  | some item => cases item <;> simp

theorem eq_foldl_of_follow {steps : List Text} {start : Place} (h : d.follow steps start = .ok place) :
    place = steps.foldl enter start := by
  induction steps generalizing start with
  | nil =>
    cases h
    rfl
  | cons step steps ih => exact ih (follow_cons_eq_ok_iff.mp h).2

/-- The place to which a path leads if it leads anywhere. -/
def placeOf (d : Disk) (p : Path) : Place := (steps p).foldl enter (d.start p)

theorem eq_placeOf {p : Path} (h : d.resolve p = .ok place) : place = d.placeOf p := by
  unfold resolve at h
  split at h
  · cases h
  · exact eq_foldl_of_follow h

/-- Whether a text names something in a directory. -/
structure IsName (name : Text) : Prop where
  ne_nil : name ≠ []
  slash_not_mem : '/' ∉ name
  ne_point : name ≠ ['.']
  ne_parent : name ≠ ['.', '.']

def partsOf (p : Path) : List Text := (Text.fields '/' p).filter (!·.isEmpty)

theorem getLast?_ne_of_isName {name : Text} (h : IsName name) : name.getLast? ≠ some '/' :=
  fun hlast => h.slash_not_mem (List.mem_of_getLast? hlast)

theorem partsOf_name {name : Text} (h : IsName name) (p : Path) :
    partsOf (p ++ '/' :: name) = partsOf p ++ [name] := by
  have hname : [name].filter (!·.isEmpty) = [name] := by simp [h.ne_nil]
  rw [partsOf, Text.fields_append, Text.fields_of_not_mem h.slash_not_mem, List.filter_append, hname]
  rfl

theorem join_eq {p : Path} (hp : p ≠ []) {name : Text} (h : IsName name) :
    ∃ q : Path, Path.join p name = q ++ '/' :: name ∧ partsOf q = partsOf p ∧
      Path.isAbsolute (q ++ '/' :: name) = p.isAbsolute := by
  have hrelative : Path.isAbsolute name = false := by
    rw [Path.isAbsolute, decide_eq_false_iff_not]
    exact fun hhead => h.slash_not_mem (List.mem_of_mem_head? hhead)
  rw [Path.join, hrelative, List.isEmpty_eq_false_iff.mpr hp, Bool.or_self, if_neg Bool.false_ne_true]
  split
  case isTrue hslash =>
    obtain ⟨q, rfl⟩ := List.getLast?_eq_some_iff.mp hslash
    refine ⟨q, by rw [List.append_assoc]; rfl, ?_, ?_⟩
    · rw [partsOf, partsOf, Text.fields_append, List.filter_append]
      exact (List.append_nil _).symm
    · cases q <;> rfl
  case isFalse =>
    obtain ⟨c, rest, rfl⟩ := List.exists_cons_of_ne_nil hp
    exact ⟨_, rfl, rfl, rfl⟩

theorem steps_eq (p : Path) : steps p = partsOf p ++ if p.getLast? = some '/' then [['.']] else [] := rfl

theorem find_directory_iff {p : Path} (hp : p ≠ []) :
    d.find p = .ok (place, .directory) ↔
      d.follow (partsOf p) (d.start p) = .ok place ∧ d.item? place = some .directory := by
  rw [find_eq_ok_iff, resolve, List.isEmpty_eq_false_iff.mpr hp, if_neg Bool.false_ne_true, steps_eq, follow_append]
  refine and_congr_left fun hplace => ?_
  cases d.follow (partsOf p) (d.start p) with
  | error e => exact iff_of_false nofun nofun
  | ok found =>
    rw [Except.bind]
    split
    case isTrue =>
      rw [follow_cons_eq_ok_iff]
      have hstay : enter found ['.'] = found := if_pos rfl
      rw [hstay]
      refine ⟨And.right, fun h => ⟨?_, h⟩⟩
      cases h
      exact hplace
    case isFalse => rfl

/-- A path into a directory leads below the place of that directory. -/
theorem resolve_join_iff {p : Path} (hp : p ≠ []) {name : Text} (h : IsName name) :
    d.resolve (Path.join p name) = .ok place ↔
      d.find p = .ok (d.placeOf p, .directory) ∧ place = d.placeOf p ++ [name] := by
  obtain ⟨q, hjoin, hparts, habsolute⟩ := join_eq hp h
  have hresolve : d.resolve (Path.join p name) = (d.follow (partsOf p) (d.start p)).bind (d.follow [name]) := by
    have hsteps : steps (q ++ '/' :: name) = partsOf p ++ [name] := by
      rw [steps_eq, partsOf_name h, hparts, if_neg, List.append_nil]
      rw [List.getLast?_append_of_ne_nil _ (List.cons_ne_nil _ _)]
      obtain ⟨c, rest, hname⟩ := List.exists_cons_of_ne_nil h.ne_nil
      rw [hname, List.getLast?_cons_cons, ← hname]
      exact getLast?_ne_of_isName h
    rw [hjoin, resolve, List.isEmpty_eq_false_iff.mpr (by simp), if_neg Bool.false_ne_true, start, habsolute, hsteps,
      follow_append]
    rfl
  have hname : ∀ found, d.follow [name] found = .ok place ↔
      d.item? found = some .directory ∧ place = found ++ [name] := by
    intro found
    rw [follow_cons_eq_ok_iff, enter, if_neg h.ne_point, if_neg h.ne_parent, follow, Except.ok.injEq,
      @eq_comm _ (found ++ [name])]
  rw [hresolve]
  constructor
  · intro hfound
    obtain ⟨found, hway, hlast⟩ : ∃ found, d.follow (partsOf p) (d.start p) = .ok found ∧
        d.follow [name] found = .ok place := by
      cases hway : d.follow (partsOf p) (d.start p) with
      | error e =>
        rw [hway] at hfound
        cases hfound
      | ok found =>
        rw [hway] at hfound
        exact ⟨found, rfl, hfound⟩
    obtain ⟨hitem, rfl⟩ := (hname found).mp hlast
    have hfind := (find_directory_iff hp).mpr ⟨hway, hitem⟩
    have hplace := eq_placeOf (find_eq_ok_iff.mp hfind).1
    rw [← hplace]
    exact ⟨hfind, rfl⟩
  · rintro ⟨hfind, rfl⟩
    obtain ⟨hway, hitem⟩ := (find_directory_iff hp).mp hfind
    rw [hway]
    exact (hname _).mpr ⟨hitem, rfl⟩

theorem item?_append (place : Place) (name : Text) : d.item? (place ++ [name]) = d.items.lookup (place ++ [name]) :=
  if_neg (by simp)

theorem nameBelow_eq_some_iff {place below : Place} {name : Text} :
    (if place.dropLast = below then place.getLast? else none) = some name ↔ place = below ++ [name] := by
  rw [Option.ite_none_right_eq_some, List.getLast?_eq_some_iff]
  constructor
  · rintro ⟨hbelow, front, rfl⟩
    rw [List.dropLast_concat] at hbelow
    rw [hbelow]
  · rintro rfl
    exact ⟨List.dropLast_concat, _, rfl⟩

theorem mem_namesBelow {name : Text} : name ∈ d.namesBelow place ↔ (d.item? (place ++ [name])).isSome = true := by
  rw [namesBelow, List.mem_filterMap, item?_append, Option.isSome_iff_ne_none, ne_eq, List.lookup_eq_none_iff]
  simp only [nameBelow_eq_some_iff, not_forall, bne_iff_ne, ne_eq, not_not]
  exact ⟨fun ⟨e, he, hname⟩ => ⟨e, he, hname.symm⟩, fun ⟨e, he, hname⟩ => ⟨e, he, hname.symm⟩⟩

theorem nodup_namesBelow_put {below : Place} (h : (d.namesBelow below).Nodup) (item : Item) :
    ((d.put place item).namesBelow below).Nodup := by
  have hrest : ((d.items.filter (·.1 ≠ place)).filterMap fun e =>
      if e.1.dropLast = below then e.1.getLast? else none).Nodup :=
    h.sublist (List.filter_sublist.filterMap _)
  change (((place, item) :: d.items.filter (·.1 ≠ place)).filterMap fun e =>
      if e.1.dropLast = below then e.1.getLast? else none).Nodup
  rw [List.filterMap_cons]
  dsimp only
  cases hname : (if place.dropLast = below then place.getLast? else none : Option Text) with
  | none => exact hrest
  | some name =>
    refine List.nodup_cons.mpr ⟨fun hmem => ?_, hrest⟩
    obtain ⟨e, he, hsame⟩ := List.mem_filterMap.mp hmem
    have hother : e.1 ≠ place := by simpa using (List.mem_filter.mp he).2
    exact hother ((nameBelow_eq_some_iff.mp hsame).trans (nameBelow_eq_some_iff.mp hname).symm)

/-- Making directories preserves what a directory put where nothing stood does. -/
theorem makeAll_induction {motive : Disk → Prop} {places : List Place}
    (hput : ∀ d place, place ∈ places → d.item? place = none → motive d → motive (d.put place .directory))
    {d' : Disk} (h : makeAll places d = .ok d') (hd : motive d) : motive d' := by
  induction places generalizing d with
  | nil =>
    cases h
    exact hd
  | cons place inner ih =>
    have hinner := fun d other hother => hput d other (List.mem_cons_of_mem place hother)
    rw [makeAll] at h
    split at h
    case h_1 hnone => exact ih hinner h (hput d place List.mem_cons_self hnone hd)
    case h_2 => exact ih hinner h hd
    case h_3 => cases h

theorem mem_along {start : Place} {steps : List Text} (h : place ∈ along start steps) {name : Text}
    (hname : name ∈ place) : name ∈ start ∨ name ∈ steps ∧ name ≠ ['.'] ∧ name ≠ ['.', '.'] := by
  induction steps generalizing start with
  | nil => cases h
  | cons step steps ih =>
    have henter : ∀ name ∈ enter start step,
        name ∈ start ∨ name ∈ step :: steps ∧ name ≠ ['.'] ∧ name ≠ ['.', '.'] := by
      intro name hname
      unfold enter at hname
      split at hname
      · exact .inl hname
      · split at hname
        · exact .inl (List.dropLast_subset _ hname)
        · rcases List.mem_append.mp hname with hname | hname
          · exact .inl hname
          · obtain rfl := List.mem_singleton.mp hname
            exact .inr ⟨List.mem_cons_self, ‹_›, ‹_›⟩
    rcases List.mem_cons.mp h with rfl | h
    · exact henter name hname
    · rcases ih h with hstart | ⟨hstep, hplain⟩
      · exact henter name hstart
      · exact .inr ⟨List.mem_cons_of_mem step hstep, hplain⟩

/-- Directories are made where nothing stood and under names that are fit for it. -/
theorem createDirectories_induction {motive : Disk → Prop} {p : Path}
    (hwork : ∀ name ∈ d.workingDirectory, IsName name)
    (hput : ∀ d place, (∀ name ∈ place, IsName name) → d.item? place = none → motive d →
      motive (d.put place .directory))
    {d' : Disk} (h : d.createDirectories p = .ok d') (hd : motive d) : motive d' := by
  refine makeAll_induction (fun d' place hplace hnone hd' => hput d' place (fun name hname => ?_) hnone hd') h hd
  rcases mem_along hplace hname with hstart | ⟨hstep, hpoint, hparent⟩
  · unfold start at hstart
    split at hstart
    · cases hstart
    · exact hwork name hstart
  · obtain ⟨hfield, hne⟩ := List.mem_filter.mp hstep
    refine ⟨?_, fun hslash => (Text.mem_fields hfield hslash).2 rfl, hpoint, hparent⟩
    simpa using (Bool.and_eq_true _ _ |>.mp hne).1

end Disk

section
variable {α β σ : Type} {d d' : σ}

theorem state_bind_run {x : StateM σ α} {a : α} (h : x.run d = (a, d')) (f : α → StateM σ β) :
    (x >>= f).run d = (f a).run d' := by
  rw [StateT.run_bind, h]
  rfl

theorem bind_run {x : Task (StateM σ) α} {a : α} (h : x.run.run d = (.ok a, d'))
    (f : α → Task (StateM σ) β) : (x >>= f).run.run d = (f a).run.run d' := by
  rw [ExceptT.run_bind, StateT.run_bind, h]
  rfl

theorem bind_run_error {x : Task (StateM σ) α} {e : Failure} (h : x.run.run d = (.error e, d'))
    (f : α → Task (StateM σ) β) : (x >>= f).run.run d = (.error e, d') := by
  rw [ExceptT.run_bind, StateT.run_bind, h]
  rfl

theorem exists_of_bind_run {x : Task (StateM σ) α} {f : α → Task (StateM σ) β} {b : β}
    (h : (x >>= f).run.run d = (.ok b, d')) :
    ∃ a after, x.run.run d = (.ok a, after) ∧ (f a).run.run after = (.ok b, d') := by
  cases hx : x.run.run d with
  | mk result after =>
    cases result with
    | ok a => exact ⟨a, after, rfl, (bind_run hx f).symm.trans h⟩
    | error e =>
      rw [ExceptT.run_bind, StateT.run_bind, hx] at h
      cases h

theorem lift_run {x : StateM σ α} {a : α} (h : x.run d = (a, d')) :
    (liftM x : Task (StateM σ) α).run.run d = (.ok a, d') := by
  change (Except.ok (x.run d).1, (x.run d).2) = _
  rw [h]

theorem attempt_run {x : StateM σ (Except IoError α)} {r : Except IoError α} (h : x.run d = (r, d')) :
    (attempt x).run.run d = (r.mapError Failure.io, d') := by
  change ((x.run d).1.mapError Failure.io, (x.run d).2) = _
  rw [h]

theorem during_run {x : Task (StateM σ) α} {r : Except Failure α} (h : x.run.run d = (r, d'))
    (act : Activity) : (during act x).run.run d = (r.mapError (Failure.during act), d') := by
  change ((x.run.run d).1.mapError (Failure.during act), (x.run.run d).2) = _
  rw [h]

end

def textIn : Except IoError Bytes → Except IoError Text
  | .error e => .error e
  | .ok bs =>
    match bs.text? with
    | some t => .ok t
    | none => .error .notText

theorem toOption_textIn (r : Except IoError Bytes) : (textIn r).toOption = r.toOption.bind Bytes.text? := by
  cases r with
  | error e => rfl
  | ok bs =>
    dsimp only [textIn, Except.toOption, Option.bind_some]
    cases bs.text? <;> rfl

theorem readText_state {σ : Type} [FileSystem (StateM σ)] {d d' : σ} {p : Path}
    {r : Except IoError Bytes} (h : (FileSystem.read p : StateM σ (Except IoError Bytes)).run d = (r, d')) :
    (readText p : StateM σ (Except IoError Text)).run d = (textIn r, d') := by
  unfold readText
  rw [state_bind_run h]
  cases r with
  | error e => rfl
  | ok bs =>
    dsimp only [textIn]
    cases bs.text? <;> rfl

section
variable {d : Disk} {p : Path}

theorem pathExists_run (d : Disk) (p : Path) :
    (pathExists p : StateM Disk Bool).run d = ((d.find p).toOption.isSome, d) := by
  change (((d.find p).toOption.map (·.2.kind)).isSome, d) = _
  rw [Option.isSome_map]

theorem find_of_read {bs : Bytes} (h : d.read p = .ok bs) : ∃ place, d.find p = .ok (place, .file bs) := by
  unfold Disk.read at h
  cases hfind : d.find p with
  | error e =>
    rw [hfind] at h
    cases h
  | ok found =>
    rw [hfind] at h
    obtain ⟨place, item⟩ := found
    cases item with
    | directory => cases h
    | file content =>
      cases h
      exact ⟨place, rfl⟩

theorem read_join_iff (hp : p ≠ []) (hfind : d.find p = .ok (d.placeOf p, .directory)) {name : Text}
    (hname : Disk.IsName name) {bs : Bytes} :
    d.read (Path.join p name) = .ok bs ↔ d.item? (d.placeOf p ++ [name]) = some (.file bs) := by
  have hresolve := (Disk.resolve_join_iff hp hname).mpr ⟨hfind, rfl⟩
  constructor
  · intro hread
    obtain ⟨place, hplace⟩ := find_of_read hread
    obtain ⟨hway, hitem⟩ := Disk.find_eq_ok_iff.mp hplace
    rw [hresolve] at hway
    cases hway
    exact hitem
  · intro hitem
    rw [Disk.read, Disk.find_eq_ok_iff.mpr ⟨hresolve, hitem⟩]
    rfl

theorem readText_run {bs : Bytes} {t : Text} (hread : d.read p = .ok bs) (htext : bs.text? = some t) :
    (readText p : StateM Disk (Except IoError Text)).run d = (.ok t, d) := by
  have hdisk : (FileSystem.read p : StateM Disk (Except IoError Bytes)).run d = (.ok bs, d) :=
    congrArg (·, d) hread
  rw [readText_state hdisk, textIn, htext]

theorem write_run {d' : Disk} {bs : Bytes} (h : d.write p bs = .ok d') :
    (FileSystem.write p bs : StateM Disk (Except IoError Unit)).run d = (.ok (), d') := by
  have hget : (get : StateM Disk Disk).run d = (d, d) := rfl
  change (Disk.change (·.write p bs)).run d = _
  rw [Disk.change, state_bind_run hget, h]
  rfl

theorem write_run_error {bs : Bytes} {e : IoError} (h : d.write p bs = .error e) :
    (FileSystem.write p bs : StateM Disk (Except IoError Unit)).run d = (.error e, d) := by
  have hget : (get : StateM Disk Disk).run d = (d, d) := rfl
  change (Disk.change (·.write p bs)).run d = _
  rw [Disk.change, state_bind_run hget, h]
  rfl

end

end Dictation.Files
