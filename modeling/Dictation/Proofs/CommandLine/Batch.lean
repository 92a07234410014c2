import Dictation.CommandLine.Run
import Dictation.Proofs.Files.PathOrder
import Dictation.Proofs.Segmentation.Interleaving
import Dictation.Proofs.Source.Encoding
/-!
# Files of a batch do not disturb one another

Files that are encoded together share a memo. Still each gives what it gives alone, in whatever order
their turns come, and one that fails is only left out.
-/
namespace Dictation.CommandLine

open Files Segmenter

/-- A file that is encoded alone, with a new memo. -/
def encodedAlone (s : Segmenter) (k : Combiners) (p : Path) : Except IoError Text → EncodedFile
  | .error e => ⟨p, .error (.during (.readFile p) (.io e))⟩
  | .ok t => ⟨p, (encodeText s k p t ∅).1⟩

/-- A file that is encoded among others, by accesses to a memo. -/
def encodeSteps (s : Segmenter) (k : Combiners) (p : Path) : Except IoError Text → Process EncodedFile
  | .error e => return ⟨p, .error (.during (.readFile p) (.io e))⟩
  | .ok t => do
    let result ← (Source.encodeDocument s.segmentSteps k (documentKind p) t).run
    return ⟨p, result.mapError fun e => .during (.encode p) (.vocabulary e)⟩

section
variable (s : Segmenter) (k : Combiners) (p : Path)

theorem encodeSteps_run (t : Text) (memo : Memo) :
    (encodeSteps s k p (.ok t)).run memo =
      (⟨p, (encodeText s k p t memo).1⟩, (encodeText s k p t memo).2) := by
  have hrun := Source.encodeDocument_rel running s.segmentMemo_running k (documentKind p) t memo
  rw [encodeSteps, Process.run_bind, ← hrun]
  rfl

theorem encodedAlone_ok (t : Text) :
    encodedAlone s k p (.ok t) =
      ⟨p, (Source.encodeDocument s.segment k (documentKind p) t).mapError fun e =>
        .during (.encode p) (.vocabulary e)⟩ := by
  have hrun := (Source.encodeDocument_computes s k (documentKind p) t ∅ s.sound_empty).1
  rw [encodedAlone, encodeText, ← hrun]
  rfl

/-- Among others, a file gives what it gives alone. -/
theorem encodeSteps_gives (read : Except IoError Text) :
    (encodeSteps s k p read).Gives s (encodedAlone s k p read) := by
  cases read with
  | error e => rfl
  | ok t =>
    have hdocument := Source.encodeDocument_rel s.giving s.segmentSteps_giving k (documentKind p) t
    rw [encodedAlone_ok]
    exact Process.Gives.bind hdocument rfl

end

section
variable {W : Type} [FileSystem (StateM W)] {w : W} {s : Segmenter} {k : Combiners}
  {reads : Path → Except IoError Bytes}

/-- One after the other, from a sound memo, files give what they give alone. -/
theorem encodeFiles_run (order : List Path)
    (hreads : ∀ p ∈ order, (FileSystem.read p : StateM W (Except IoError Bytes)).run w = (reads p, w))
    {memo : Memo} (hmemo : s.Sound memo) :
    (encodeFiles s k order memo : StateM W (List EncodedFile)).run w =
      (order.map fun p => encodedAlone s k p (textIn (reads p)), w) := by
  induction order generalizing memo with
  | nil => rfl
  | cons p order ih =>
    have hread := readText_state (hreads p List.mem_cons_self)
    have hrest (memo : Memo) (hmemo : s.Sound memo) :=
      ih (fun q hq => hreads q (List.mem_cons_of_mem p hq)) hmemo
    rw [encodeFiles, state_bind_run hread, List.map_cons]
    cases htext : textIn (reads p) with
    | error e =>
      dsimp only
      rw [state_bind_run (hrest memo hmemo)]
      rfl
    | ok t =>
      obtain ⟨hvalue, hsound⟩ := (encodeSteps_gives s k p (.ok t)).run hmemo
      rw [encodeSteps_run] at hvalue hsound
      dsimp only
      rw [state_bind_run (hrest _ hsound), ← hvalue]
      rfl

/-- What is written and said if each file gives what it gives alone. -/
def separateOutcome (format : Report.Format) (toFile : Bool) (alone : Path → EncodedFile)
    (files : List Path) : Outcome :=
  let failed := files.countP fun p => (alone p).failure?.isSome
  let statements := (files.flatMap fun p => (alone p).statements).length
  { status := if failed = 0 then 0 else 1
    output := if toFile then [] else files.flatMap fun p => (alone p).report format
    errors := (files.filterMap fun p => (alone p).failure?).flatMap Outcome.errorLine ++
      Report.summary files.length statements failed }

theorem encodingOutcome_map (format : Report.Format) (toFile : Bool) (alone : Path → EncodedFile)
    (files : List Path) :
    encodingOutcome format toFile (files.map alone) = separateOutcome format toFile alone files := by
  have hfailures : (files.map alone).filterMap EncodedFile.failure? =
      files.filterMap fun p => (alone p).failure? := List.filterMap_map
  have hcount : (files.filterMap fun p => (alone p).failure?).length =
      files.countP fun p => (alone p).failure?.isSome := List.length_filterMap_eq_countP
  have hnone : (files.filterMap fun p => (alone p).failure?).isEmpty = true ↔
      (files.countP fun p => (alone p).failure?.isSome) = 0 := by
    rw [← hcount, List.length_eq_zero_iff, List.isEmpty_iff]
  simp only [encodingOutcome, separateOutcome, hfailures, hcount, hnone, List.flatMap_map,
    List.length_map]

/-- The results of files in the order of the files. -/
def inPathOrder (files : List Path) (results : List EncodedFile) : List EncodedFile :=
  files.filterMap fun p => results.find? (·.path = p)

theorem inPathOrder_map {alone : Path → EncodedFile} (halone : ∀ p, (alone p).path = p)
    {order files : List Path} (h : order.Perm files) :
    inPathOrder files (order.map alone) = files.map alone := by
  have hfind : ∀ p ∈ files, (order.map alone).find? (·.path = p) = some (alone p) := by
    intro p hp
    rw [List.find?_map]
    cases hfound : order.find? ((fun f : EncodedFile => f.path = p) ∘ alone) with
    | none =>
      have hnone := List.find?_eq_none.mp hfound p (h.mem_iff.mpr hp)
      simp [halone] at hnone
    | some q =>
      have hq := List.find?_some hfound
      rw [Function.comp_apply, halone, decide_eq_true_eq] at hq
      rw [hq, Option.map_some]
  rw [inPathOrder, List.filterMap_congr hfind, List.filterMap_eq_map']

end

/-- A batch of files in a world that stays as it is while they are read. The vocabulary of its segmenter
is any, one that fails included. -/
structure Batch (W : Type) [FileSystem (StateM W)] where
  world : W
  segmenter : Segmenter
  combiners : Combiners
  paths : List Path
  /-- The files for which the paths stand. -/
  files : List Path
  /-- What is read of a file. -/
  reads : Path → Except IoError Bytes
  files_run : (resolveInputs paths : Task (StateM W) (List Path)).run.run world = (.ok files, world)
  read_run : ∀ p ∈ files,
    (FileSystem.read p : StateM W (Except IoError Bytes)).run world = (reads p, world)

namespace Batch

variable {W : Type} [FileSystem (StateM W)] (b : Batch W)

def alone (p : Path) : EncodedFile := encodedAlone b.segmenter b.combiners p (textIn (b.reads p))

/-- A file of the batch, encoded among others. -/
def steps (p : Path) : Process EncodedFile :=
  encodeSteps b.segmenter b.combiners p (textIn (b.reads p))

/-- The files one after the other in some order, with one memo. -/
def encodeIn (order : List Path) : List EncodedFile × W :=
  (encodeFiles b.segmenter b.combiners order ∅ : StateM W (List EncodedFile)).run b.world

/-- The whole run with some output, once the files are found. -/
def run (format : Report.Format) (output : Option Path) : Except Failure Outcome × W :=
  (encodeAll b.segmenter b.combiners format b.files output : Task (StateM W) Outcome).run.run b.world

def separateText (format : Report.Format) : Text := b.files.flatMap fun p => (b.alone p).report format

/-- No file of the batch makes a difference to another one. -/
structure Undisturbed (format : Report.Format) : Prop where
  /-- The files are those that were found, in the order of paths. -/
  inputs : ∃ found,
    (b.paths.mapM filesAt : Task (StateM W) (List (List Path))).run.run b.world = (.ok found, b.world) ∧
      IsSorting found.flatten b.files
  /-- What a file gives as the only one, with a new memo. -/
  alone : ∀ p ∈ b.files, b.encodeIn [p] = ([b.alone p], b.world)
  /-- One after the other, in any order, files give the same. -/
  inOrder : ∀ order, order.Perm b.files →
    b.encodeIn order = (order.map b.alone, b.world) ∧
      inPathOrder b.files (b.encodeIn order).1 = b.files.map b.alone
  /-- The accesses of a file encode it, if nothing comes in between. -/
  steps : ∀ p ∈ b.files, ∀ t memo, textIn (b.reads p) = .ok t →
    (b.steps p).run memo =
      let (result, after) := encodeText b.segmenter b.combiners p t memo
      (⟨p, result⟩, after)
  /-- At the same time, with one memo, files give the same. -/
  interleaved : ∀ memo results,
    Schedule ∅ (b.files.map b.steps) memo (results.map .done) → results = b.files.map b.alone
  /-- However far they have come at the same time, they can come to their ends. -/
  finishes : ∀ memo ps, Schedule ∅ (b.files.map b.steps) memo ps →
    ∃ memo', Schedule memo ps memo' ((b.files.map b.alone).map .done)
  /-- What is written and said follows from what each file gives alone. -/
  outcome : ∀ toFile,
    encodingOutcome format toFile (b.files.map b.alone) = separateOutcome format toFile b.alone b.files
  printed : b.run format none = (.ok (separateOutcome format false b.alone b.files), b.world)
  written : ∀ p r w',
    (FileSystem.write p (Bytes.ofText (b.separateText format)) : StateM W (Except IoError Unit)).run b.world
      = (r, w') →
    b.run format (some p) =
      ((r.map fun _ => separateOutcome format true b.alone b.files).mapError fun e =>
        .during (.createOutput p) (.io e), w')
  /-- A command whose settings stand for the segmenter does the same. -/
  command : ∀ (around : Surroundings) (settings : Settings) (output : Option Path),
    settings.combiners = b.combiners →
    (settings.segmenter around.directories : Task (StateM W) Segmenter).run.run b.world
      = (.ok b.segmenter, b.world) →
    (runEncode around settings format b.paths output : Task (StateM W) Outcome).run.run b.world
      = b.run format output

theorem encodeIn_eq {order : List Path} (h : order ⊆ b.files) :
    b.encodeIn order = (order.map b.alone, b.world) :=
  encodeFiles_run order (fun p hp => b.read_run p (h hp)) b.segmenter.sound_empty

theorem steps_gives (files : List Path) :
    List.Forall₂ (Process.Gives b.segmenter) (files.map b.alone) (files.map b.steps) := by
  rw [List.forall₂_map_left_iff, List.forall₂_map_right_iff]
  exact List.forall₂_same.mpr fun p _ => encodeSteps_gives _ _ p _

theorem alone_path (p : Path) : (b.alone p).path = p := by
  unfold alone
  cases textIn (b.reads p) <;> rfl

theorem run_eq (format : Report.Format) (output : Option Path) :
    b.run format output = (do
      if let some p := output then
        let content := Bytes.ofText ((b.files.map b.alone).flatMap (·.report format))
        during (.createOutput p) (attempt (FileSystem.write p content))
      return encodingOutcome format output.isSome (b.files.map b.alone) :
        Task (StateM W) Outcome).run.run b.world :=
  bind_run (lift_run (b.encodeIn_eq (List.Subset.refl b.files))) _

theorem undisturbed (format : Report.Format) : b.Undisturbed format where
  inputs := isSorting_of_resolveInputs b.files_run
  alone := fun p hp => b.encodeIn_eq (List.cons_subset.mpr ⟨hp, List.nil_subset _⟩)
  inOrder := by
    intro order horder
    have hencode := b.encodeIn_eq horder.subset
    exact ⟨hencode, by rw [hencode, inPathOrder_map b.alone_path horder]⟩
  steps := by
    intro p _ t memo ht
    rw [steps, ht, encodeSteps_run]
  interleaved := fun memo results h => h.results b.segmenter.sound_empty (b.steps_gives b.files)
  finishes := by
    intro memo ps h
    obtain ⟨hmemo, hps⟩ := h.keeps b.segmenter.sound_empty (b.steps_gives b.files)
    exact exists_schedule hmemo hps
  outcome toFile := encodingOutcome_map format toFile b.alone b.files
  printed := by
    rw [b.run_eq, ← encodingOutcome_map]
    rfl
  written := by
    intro p r w' h
    rw [separateText, ← List.flatMap_map] at h
    have hwrite := during_run (attempt_run h) (.createOutput p)
    rw [b.run_eq, ← encodingOutcome_map]
    dsimp only
    rw [ExceptT.run_bind, StateT.run_bind, hwrite]
    cases r <;> rfl
  command := by
    intro around settings output hcombiners hsegmenter
    rw [run, ← hcombiners]
    apply (bind_run b.files_run _).trans
    exact bind_run hsegmenter _

/-- A text, a file that is none, and a text with another word behind the first. -/
def threeFiles : Disk :=
  ⟨[(["a.txt"], .file (Bytes.ofText "so")), (["b.txt"], .file [0xFF]),
    (["c.txt"], .file (Bytes.ofText "so no"))], []⟩

theorem resolveInputs_threeFiles :
    (resolveInputs [("c.txt" : Text), "a.txt", "b.txt"] : Task (StateM Disk) (List Path)).run.run threeFiles =
      (.ok [("a.txt" : Text), "b.txt", "c.txt"], threeFiles) := by
  have hfound : ([("c.txt" : Text), "a.txt", "b.txt"].mapM filesAt : Task (StateM Disk) _).run.run threeFiles =
      (.ok [[("c.txt" : Text)], [("a.txt" : Text)], [("b.txt" : Text)]], threeFiles) := rfl
  have hsort (p q r : Path) (hpq : p.le q = true) (hrp : r.le p = false) (hrq : r.le q = false) :
      [r, p, q].mergeSort Path.le = [p, q, r] := by
    simp [List.mergeSort, List.MergeSort.Internal.splitInTwo, hpq, hrp, hrq]
  have hkeys (p q r : Path) (hpq : p.sortKey ≠ q.sortKey) (hqr : q.sortKey ≠ r.sortKey) :
      Path.dropSame [p, q, r] = [p, q, r] := by
    simp [Path.dropSame, hpq, hqr]
  unfold resolveInputs
  rw [bind_run hfound]
  change (Except.ok (Path.dropSame ([("c.txt" : Text), "a.txt", "b.txt"].mergeSort Path.le)), threeFiles) = _
  rw [hsort _ _ _ (by decide +kernel) (by decide +kernel) (by decide +kernel),
    hkeys _ _ _ (by decide +kernel) (by decide +kernel)]

def ofThreeFiles (s : Segmenter) : Batch Disk where
  world := threeFiles
  segmenter := s
  combiners := Settings.combiners {}
  paths := [("c.txt" : Text), "a.txt", "b.txt"]
  files := [("a.txt" : Text), "b.txt", "c.txt"]
  reads := threeFiles.read
  files_run := resolveInputs_threeFiles
  read_run := fun _ _ => rfl

/-- A vocabulary with one word, which fails when it is asked for another one. -/
def failingAtNo : Vocabulary where
  isEmpty := false
  haveWords query :=
    if ("no" : Text) ∈ query then .error (.unavailable "torn page")
    else .ok ((WordList.ofWords ["so"]).haveWords query)

/-- One file is no text, and at another one the vocabulary fails halfway. Nothing comes of it for the
first one, and the status is 1. With the words that are built in, a command does the same as a batch. -/
theorem ofThreeFiles_undisturbed :
    let b := ofThreeFiles ⟨failingAtNo, true⟩
    b.Undisturbed .text ∧
      (b.alone "a.txt").statements = [["so".toList]] ∧
      (b.alone "b.txt").failure? = some (.during (.readFile "b.txt") (.io .notText)) ∧
      (b.alone "c.txt").failure? =
        some (.during (.encode "c.txt") (.vocabulary (.unavailable "torn page"))) ∧
      (∃ o, b.run .text none = (.ok o, threeFiles) ∧ o.status = 1 ∧
        o.output = (b.alone "a.txt").report .text) ∧
      ∀ output, (runEncode ⟨⟨none, none⟩, false⟩ {} .text ["c.txt", "a.txt", "b.txt"] output :
          Task (StateM Disk) Outcome).run.run threeFiles =
        (ofThreeFiles ⟨WordList.builtIn.toVocabulary, true⟩).run .text output := by
  intro b
  have h := b.undisturbed .text
  have hfirst : b.alone "a.txt" = ⟨"a.txt", .ok [["so".toList]]⟩ := encodedAlone_ok _ _ _ "so"
  have hthird : b.alone "c.txt" =
      ⟨"c.txt", .error (.during (.encode "c.txt") (.vocabulary (.unavailable "torn page")))⟩ :=
    encodedAlone_ok _ _ _ "so no"
  have hsecond : b.alone "b.txt" = ⟨"b.txt", .error (.during (.readFile "b.txt") (.io .notText))⟩ := rfl
  refine ⟨h, ?_, ?_, ?_, ⟨_, h.printed, ?_, ?_⟩, fun output => ?_⟩
  · rw [hfirst]
    rfl
  · rw [hsecond]
    rfl
  · rw [hthird]
    rfl
  · have hfails : 0 < b.files.countP fun p => (b.alone p).failure?.isSome :=
      List.countP_pos_iff.mpr ⟨("b.txt" : Text), .tail _ (.head _), rfl⟩
    exact if_neg (Nat.ne_of_gt hfails)
  · change (b.alone "a.txt").report .text ++ ((b.alone "b.txt").report .text ++
      ((b.alone "c.txt").report .text ++ [])) = _
    have hnone (p : Path) (f : Failure) : EncodedFile.report .text ⟨p, .error f⟩ = [] := rfl
    rw [hsecond, hthird, hnone, hnone]
    simp only [List.append_nil]
  · have hopened : (Settings.segmenter {} ⟨none, none⟩ : Task (StateM Disk) Segmenter).run.run threeFiles =
        (.ok ⟨WordList.builtIn.toVocabulary, true⟩, threeFiles) := rfl
    have hbuiltIn := (ofThreeFiles ⟨WordList.builtIn.toVocabulary, true⟩).undisturbed .text
    exact hbuiltIn.command ⟨⟨none, none⟩, false⟩ {} output rfl hopened

end Batch

end Dictation.CommandLine
