import Dictation.Proofs.Files.Tasks
import Dictation.Proofs.Vocabulary.Agreement
import Dictation.Vocabulary.Store
import Mathlib.Data.List.Dedup
/-!
# Compiled vocabularies hold what was built

A vocabulary that is compiled into a file and opened again has one key for each word in lower case with each
of its pronunciations. The keys ascend as byte strings, and the answer to a word is its pronunciations, each
once and in order, whatever tabs they hold and whatever other words begin with it.
-/
namespace Dictation

namespace Entry

/-- The words of entries in lower case with their pronunciations, each pair once. -/
def distinct (es : List Entry) : List (Text × Text) :=
  ((es.filter (!·.word.isEmpty)).map fun e => (e.word.lower, e.pronunciation)).dedup

/-- The pronunciations of a word in lower case, each once and in order. -/
def pronunciationsOf (es : List Entry) (word : Text) : List Text :=
  ((es.filter (·.word.lower = word)).map (·.pronunciation)).dedup.mergeSort Text.le

theorem mem_distinct {es : List Entry} {word p : Text} : (word, p) ∈ distinct es ↔
    ∃ e ∈ es, e.word ≠ [] ∧ e.word.lower = word ∧ e.pronunciation = p := by
  simp [distinct, and_assoc]

theorem mem_pronunciationsOf {es : List Entry} {word p : Text} : p ∈ pronunciationsOf es word ↔
    ∃ e ∈ es, e.word.lower = word ∧ e.pronunciation = p := by
  simp [pronunciationsOf, List.mem_mergeSort, and_assoc]

end Entry

namespace CompiledVocabulary

variable {es : List Entry}

theorem pairwise_build (es : List Entry) : (build es).keys.Pairwise Text.Before := by
  have : IsTrans Text Text.Before := ⟨fun _ _ _ => Text.Before.trans⟩
  exact List.isChain_iff_pairwise.mp (isAscending_iff.mp (isAscending_build es))

theorem pairwise_pronunciations (es : List Entry) (word : Text) :
    ((build es).pronunciations word).Pairwise Text.Before := by
  refine (pairwise_build es).filterMap _ fun a b hab p hp q hq => ?_
  rw [Text.dropPrefix?_eq_some_iff] at hp hq
  subst hp hq
  exact ⟨(Text.le_append_left _ p q).symm.trans hab.1, fun heq => hab.2 (heq ▸ rfl)⟩

section
variable (htab : ∀ e ∈ es, '\t' ∉ e.word)
include htab

theorem key_lower_inj {e : Entry} (he : e ∈ es) {word p : Text} (hword : '\t' ∉ word) :
    key e.word.lower e.pronunciation = key word p ↔ e.word.lower = word ∧ e.pronunciation = p :=
  key_inj (fun hmem => htab e he (Text.tab_of_mem_lower hmem)) hword

theorem size_build : (build es).size = (Entry.distinct es).length := by
  have hnodup : (build es).keys.Nodup := (pairwise_build es).imp And.right
  have hpairs : ((Entry.distinct es).map fun pair => key pair.1 pair.2).Nodup := by
    refine List.Nodup.map_on ?_ (List.nodup_dedup _)
    rintro ⟨word, p⟩ hpair ⟨word', p'⟩ hpair' hkey
    obtain ⟨e, he, _, rfl, rfl⟩ := Entry.mem_distinct.mp hpair
    obtain ⟨e', he', _, rfl, rfl⟩ := Entry.mem_distinct.mp hpair'
    have hword := fun hmem => htab e' he' (Text.tab_of_mem_lower hmem)
    obtain ⟨hsame, hsame'⟩ := (key_lower_inj htab he hword).mp hkey
    rw [hsame, hsame']
  have hperm : (build es).keys.Perm ((Entry.distinct es).map fun pair => key pair.1 pair.2) := by
    refine (List.perm_ext_iff_of_nodup hnodup hpairs).mpr fun k => ?_
    rw [mem_build, List.mem_map]
    constructor
    · rintro ⟨e, he, hne, rfl⟩
      exact ⟨(e.word.lower, e.pronunciation), Entry.mem_distinct.mpr ⟨e, he, hne, rfl, rfl⟩, rfl⟩
    · rintro ⟨⟨word, p⟩, hpair, rfl⟩
      obtain ⟨e, he, hne, rfl, rfl⟩ := Entry.mem_distinct.mp hpair
      exact ⟨e, he, hne, rfl⟩
  rw [size, hperm.length_eq, List.length_map]

/-- The keys that begin with a word and a tab have the pronunciations of that word, and of no other. -/
theorem pronunciations_build {word : Text} (hword : '\t' ∉ word) (hne : word ≠ []) :
    (build es).pronunciations word = Entry.pronunciationsOf es word := by
  have hsorted := pairwise_pronunciations es word
  have hmem : ∀ p, p ∈ (build es).pronunciations word ↔ p ∈ Entry.pronunciationsOf es word := by
    intro p
    rw [mem_pronunciations, mem_build, Entry.mem_pronunciationsOf]
    refine exists_congr fun e => and_congr_right fun he => ?_
    rw [key_lower_inj htab he hword]
    refine ⟨And.right, fun h => ⟨?_, h⟩⟩
    rintro hnil
    rw [hnil] at h
    exact hne h.1.symm
  have hnodup : (Entry.pronunciationsOf es word).Nodup :=
    (List.mergeSort_perm _ _).nodup_iff.mpr (List.nodup_dedup _)
  refine List.Perm.eq_of_pairwise (fun a b _ _ hab hba => Text.le_antisymm hab hba) (hsorted.imp And.left)
    (List.pairwise_mergeSort Text.le_trans Text.le_total _) ?_
  exact (List.perm_ext_iff_of_nodup (hsorted.imp And.right) hnodup).mpr hmem

end

end CompiledVocabulary

section
open Files

variable {d : Disk} {p : Path}

theorem buildVocabulary_run {d' : Disk} {es : List Entry}
    (h : d.write p (CompiledVocabulary.build es).toBytes = .ok d') :
    (buildVocabulary es p : Task (StateM Disk) Nat).run.run d =
      (.ok (CompiledVocabulary.build es).size, d') := by
  obtain ⟨emptied, hempty⟩ := Disk.exists_write h []
  have hcreated := during_run (attempt_run (write_run hempty)) (.createVocabulary p)
  have hwritten := during_run (attempt_run (write_run ((Disk.write_write hempty _).trans h))) .finishVocabulary
  rw [buildVocabulary, bind_run hcreated]
  dsimp only
  rw [CompiledVocabulary.areTaken_build, Bool.not_true, if_neg Bool.false_ne_true]
  exact (bind_run hwritten _).trans rfl

theorem buildVocabulary_run_error {es : List Entry} {e : IoError}
    (h : d.write p (CompiledVocabulary.build es).toBytes = .error e) :
    ∃ failure, (buildVocabulary es p : Task (StateM Disk) Nat).run.run d = (.error failure, d) := by
  cases hempty : d.write p [] with
  | ok emptied =>
    obtain ⟨after, hafter⟩ := Disk.exists_write hempty (CompiledVocabulary.build es).toBytes
    rw [h] at hafter
    cases hafter
  | error e' =>
    have hcreated := during_run (attempt_run (write_run_error hempty)) (.createVocabulary p)
    exact ⟨_, bind_run_error hcreated _⟩

theorem openCompiled_run {v : CompiledVocabulary} (hread : d.read p = .ok v.toBytes)
    (hv : CompiledVocabulary.isAscending v.keys = true) :
    (openCompiled p : Task (StateM Disk) CompiledVocabulary).run.run d = (.ok v, d) := by
  have hbytes : (readCompiled p : Task (StateM Disk) Bytes).run.run d = (.ok v.toBytes, d) := by
    have hdisk : (FileSystem.read p : StateM Disk (Except IoError Bytes)).run d = (.ok v.toBytes, d) :=
      congrArg (·, d) hread
    change (FileSystem.read p >>= _ : StateM Disk _).run d = _
    rw [state_bind_run hdisk]
    rfl
  rw [openCompiled, bind_run hbytes, CompiledVocabulary.ofBytes?_toBytes hv]
  rfl

/-- A compiled vocabulary is opened as it was built, wherever a file can be written. Its size is the number of
pairs of a word in lower case and a pronunciation, and of each word in a query it gives just the pronunciations
that its entries give. The keys ascend as byte strings. -/
theorem openCompiled_buildVocabulary {es : List Entry} (htab : ∀ e ∈ es, '\t' ∉ e.word) {d₀ : Disk} {bs : Bytes}
    (hwritable : d.write p bs = .ok d₀) : ∃ d' v,
      (buildVocabulary es p : Task (StateM Disk) Nat).run.run d = (.ok (Entry.distinct es).length, d') ∧
      (openCompiled p : Task (StateM Disk) CompiledVocabulary).run.run d' = (.ok v, d') ∧
      v.size = (Entry.distinct es).length ∧
      (v.keys.map Bytes.ofText).Pairwise (· < ·) ∧
      ∀ query : List Text, (∀ w ∈ query, '\t' ∉ w) → ∃ a, v.toVocabulary.haveWords query = .ok a ∧
        ∀ w ∈ query, w ≠ [] → a.of w.lower = Entry.pronunciationsOf es w.lower := by
  obtain ⟨d', hwrite⟩ := Disk.exists_write hwritable (CompiledVocabulary.build es).toBytes
  have hsize := CompiledVocabulary.size_build htab
  refine ⟨d', CompiledVocabulary.build es, hsize ▸ buildVocabulary_run hwrite,
    openCompiled_run (Disk.read_write hwrite) (CompiledVocabulary.isAscending_build es), hsize, ?_, ?_⟩
  · exact List.pairwise_map.mpr ((CompiledVocabulary.pairwise_build es).imp
      Bytes.ofText_lt_ofText)
  · intro query hquery
    refine ⟨_, Vocabulary.haveWords_compiled _ hquery, fun w hw hne => ?_⟩
    rw [Answers.of_toQuery _ query w hw, if_neg hne]
    exact CompiledVocabulary.pronunciations_build htab (fun hmem => hquery w hw (Text.tab_of_mem_lower hmem))
      (Text.lower_ne_nil hne)

/-- A word that begins another one, a tab in a pronunciation, an entry that comes twice and one without a word. -/
theorem openCompiled_buildVocabulary_read :
    let es : List Entry := [⟨"Read", "R IY D"⟩, ⟨"read", "R\tEH D"⟩, ⟨"re", "R EY"⟩, ⟨"", "EH"⟩, ⟨"read", "R IY D"⟩]
    let d := Disk.empty []
    (∀ e ∈ es, '\t' ∉ e.word) ∧ (∃ d₀, d.write "/en.dict" [] = .ok d₀) ∧ ∃ d' v,
      (buildVocabulary es "/en.dict" : Task (StateM Disk) Nat).run.run d = (.ok 3, d') ∧
      (openCompiled "/en.dict" : Task (StateM Disk) CompiledVocabulary).run.run d' = (.ok v, d') ∧
      v.size = 3 ∧ (v.keys.map Bytes.ofText).Pairwise (· < ·) ∧
      ∃ a, v.toVocabulary.haveWords ["READ"] = .ok a ∧
        a.of "read" = ["R\tEH D".toList, "R IY D".toList] := by
  intro es d
  have htab : ∀ e ∈ es, '\t' ∉ e.word := by decide
  have hwritable : d.write "/en.dict" [] = .ok (d.put ["en.dict".toList] (.file [])) := by decide
  have hdistinct : (Entry.distinct es).length = 3 := by decide
  have hread : Entry.pronunciationsOf es "read" = ["R\tEH D".toList, "R IY D".toList] := by
    have hgiven : ((es.filter (·.word.lower = "read".toList)).map (·.pronunciation)).dedup =
        ["R\tEH D".toList, "R IY D".toList] := by decide
    rw [Entry.pronunciationsOf, hgiven]
    exact List.mergeSort_of_pairwise (by decide)
  have hlower : Text.lower "READ" = "read".toList := by decide
  obtain ⟨d', v, hbuilt, hopened, hsize, hkeys, hanswers⟩ := openCompiled_buildVocabulary htab hwritable
  rw [hdistinct] at hbuilt hsize
  obtain ⟨a, ha, hof⟩ := hanswers ["READ"] (by decide)
  have hword := hof "READ" List.mem_cons_self (by decide)
  rw [hlower, hread] at hword
  exact ⟨htab, ⟨_, hwritable⟩, d', v, hbuilt, hopened, hsize, hkeys, a, ha, hword⟩

end

end Dictation
