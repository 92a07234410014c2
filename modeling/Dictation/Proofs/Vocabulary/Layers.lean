import Dictation.Proofs.Vocabulary.Stores
import Mathlib.Data.List.Forall2
import Mathlib.Data.Set.List
/-!
# Layers of vocabularies

A word has the same pronunciations wherever it is asked for: alone or among other words, and in any casing. In
layers of vocabularies they are those of the first layer, then those of the second one, and so on, each layer's
once. So the words that are known are those that some word list or compiled vocabulary knows, however deep it
lies.
-/
namespace Dictation

namespace Answers

/-- Whether each word is answered once, under its own length. -/
structure IsProper (a : Answers) : Prop where
  sized : ∀ e ∈ a.entries, e.1 = .of e.1.word
  nodup : (a.entries.map (·.1)).Nodup

theorem isProper_empty : empty.IsProper := ⟨nofun, List.nodup_nil⟩

private theorem map_fst_putEntry (key : Sized) (prons : List Text) (es : List (Sized × List Text)) :
    (putEntry key prons es).map (·.1) =
      if key ∈ es.map (·.1) then es.map (·.1) else es.map (·.1) ++ [key] := by
  induction es with
  | nil => rfl
  | cons e es ih =>
    rw [putEntry]
    by_cases h : e.1 = key
    · simp [h]
    · simp only [if_neg h, List.map_cons, ih, List.mem_cons, Ne.symm h, false_or]
      split <;> rfl

theorem IsProper.put {a : Answers} (h : a.IsProper) (word : Text) (prons : List Text) :
    (a.put word prons).IsProper := by
  have hkeys := map_fst_putEntry (.of word) prons a.entries
  have hof : (Sized.of word).word = word := rfl
  constructor
  · intro e he
    have hmem : e.1 ∈ (putEntry (.of word) prons a.entries).map (·.1) := List.mem_map_of_mem he
    rw [hkeys] at hmem
    have hcases : e.1 ∈ a.entries.map (·.1) ∨ e.1 = .of word := by
      split at hmem
      · exact .inl hmem
      · simpa using hmem
    rcases hcases with hold | hnew
    · obtain ⟨e', he', hsame⟩ := List.mem_map.mp hold
      rw [← hsame]
      exact h.sized e' he'
    · rw [hnew, hof]
  · change ((putEntry (.of word) prons a.entries).map (·.1)).Nodup
    rw [hkeys]
    split
    case isTrue => exact h.nodup
    case isFalse hnot =>
      exact (List.perm_append_singleton _ _).nodup_iff.mpr (List.nodup_cons.mpr ⟨hnot, h.nodup⟩)

theorem of_append (a : Answers) (word w : Text) (prons : List Text) :
    (a.append word prons).of w = if word = w then a.of w ++ prons else a.of w := by
  rw [append, of_put]
  by_cases h : word = w
  · rw [if_pos h, if_pos h, h]
  · rw [if_neg h, if_neg h]

private theorem isProper_foldl {α : Type} {step : Answers → α → Answers}
    (hstep : ∀ a x, a.IsProper → (step a x).IsProper) {a : Answers} (h : a.IsProper) (xs : List α) :
    (xs.foldl step a).IsProper := by
  induction xs generalizing a with
  | nil => exact h
  | cons x xs ih => exact ih (hstep a x h)

theorem IsProper.merge {found : Answers} (h : found.IsProper) (more : Answers) :
    (Vocabulary.mergeAnswers found more).IsProper :=
  isProper_foldl (fun _ _ h => h.put _ _) h _

theorem isProper_toQuery (f : Text → List Text) (query : List Text) : (toQuery f query).IsProper :=
  isProper_foldl (fun _ _ h => h.put _ _) isProper_empty _

theorem of_merge (found : Answers) {more : Answers} (h : more.IsProper) (w : Text) :
    (Vocabulary.mergeAnswers found more).of w = found.of w ++ more.of w := by
  obtain ⟨entries⟩ := more
  obtain ⟨hsized, hnodup⟩ := h
  rw [Vocabulary.mergeAnswers, toList, List.foldl_map]
  change _ = found.of w ++ (entries.lookup (.of w)).getD []
  induction entries generalizing found with
  | nil => exact (List.append_nil _).symm
  | cons e entries ih =>
    obtain ⟨hfresh, hrest⟩ := List.nodup_cons.mp hnodup
    rw [List.foldl_cons, ih _ (fun e' he' => hsized e' (List.mem_cons_of_mem e he')) hrest, of_append,
      List.lookup_cons]
    have hkey : (Sized.of w == e.1) = decide (e.1.word = w) := by
      rw [hsized e List.mem_cons_self, Bool.eq_iff_iff, beq_iff_eq, decide_eq_true_iff, Sized.of_inj, eq_comm]
      rfl
    rw [hkey]
    by_cases hw : e.1.word = w
    · -- The word does not come again.
      have hnone : entries.lookup (.of w) = none := by
        rw [List.lookup_eq_none_iff]
        intro e' he'
        rw [bne_iff_ne, ← hw, ← hsized e List.mem_cons_self]
        intro heq
        exact hfresh (List.mem_map.mpr ⟨e', he', heq.symm⟩)
      simp [hw, hnone]
    · simp [hw]

def asked (query : List Text) : List Text := (query.filter (!·.isEmpty)).map Text.lower

theorem of_toQuery_eq (f : Text → List Text) (query : List Text) (w : Text) :
    (toQuery f query).of w = if w ∈ asked query then f w else [] :=
  of_foldl_put f _ _ w

theorem lower_mem_asked {query : List Text} {w : Text} (h : w ∈ query) : w.lower ∈ asked query ↔ w ≠ [] := by
  constructor
  · rintro hmem rfl
    obtain ⟨v, hv, hlower⟩ := List.mem_map.mp hmem
    have hne : v ≠ [] := by simpa using (List.mem_filter.mp hv).2
    exact Text.lower_ne_nil hne hlower
  · intro hne
    exact List.mem_map_of_mem (List.mem_filter.mpr ⟨h, by simpa using hne⟩)

end Answers

namespace Vocabulary

/-- Word lists and compiled vocabularies, in layers of layers to any depth. -/
inductive Nest where
  | wordList (l : WordList)
  | compiled (v : CompiledVocabulary)
  | layers (ns : List Nest)

namespace Nest

mutual
def toVocabulary : Nest → Vocabulary
  | wordList l => l.toVocabulary
  | compiled v => v.toVocabulary
  | layers ns => Vocabulary.layered (toVocabularies ns)

def toVocabularies : List Nest → List Vocabulary
  | [] => []
  | n :: ns => n.toVocabulary :: toVocabularies ns
end

mutual
/-- The word lists and compiled vocabularies of a nest, in the order of the layers. -/
def leaves : Nest → List Vocabulary
  | wordList l => [l.toVocabulary]
  | compiled v => [v.toVocabulary]
  | layers ns => leavesOf ns

def leavesOf : List Nest → List Vocabulary
  | [] => []
  | n :: ns => n.leaves ++ leavesOf ns
end

theorem toVocabularies_eq (ns : List Nest) : toVocabularies ns = ns.map toVocabulary := by
  induction ns with
  | nil => rfl
  | cons n ns ih => rw [toVocabularies, ih, List.map_cons]

theorem leavesOf_eq (ns : List Nest) : leavesOf ns = ns.flatMap leaves := by
  induction ns with
  | nil => rfl
  | cons n ns ih => rw [leavesOf, ih, List.flatMap_cons]

/-- What holds of the leaves, and of layers if it holds of each of them, holds of every nest. -/
theorem ind {motive : Nest → Prop} (wordList : ∀ l, motive (wordList l)) (compiled : ∀ v, motive (compiled v))
    (layers : ∀ ns, (∀ n ∈ ns, motive n) → motive (layers ns)) : ∀ n, motive n
  | .wordList l => wordList l
  | .compiled v => compiled v
  | .layers ns => layers ns fun n _ => ind wordList compiled layers n

mutual
/-- The pronunciations of a word in lower case, layer by layer. -/
def pronunciations : Nest → Text → List Text
  | wordList l, w => l.answers.of w
  | compiled v, w => v.pronunciations w
  | layers ns, w => pronunciationsOf ns w

def pronunciationsOf : List Nest → Text → List Text
  | [], _ => []
  | n :: ns, w => n.pronunciations w ++ pronunciationsOf ns w
end

end Nest

section
variable {α β : Type} {f : α → Except VocabularyError β}

theorem mapM_eq_ok_iff {xs : List α} {ys : List β} :
    xs.mapM f = .ok ys ↔ List.Forall₂ (fun x y => f x = .ok y) xs ys := by
  induction xs generalizing ys with
  | nil =>
    rw [List.mapM_nil, List.forall₂_nil_left_iff]
    exact ⟨fun h => by cases h; rfl, fun h => by rw [h]; rfl⟩
  | cons x xs ih =>
    rw [List.mapM_cons, List.forall₂_cons_left_iff]
    cases hx : f x with
    | error e => simp [bind, Except.bind]
    | ok y =>
      cases hxs : xs.mapM f with
      | error e =>
        simp only [bind, Except.bind, reduceCtorEq, Except.ok.injEq, false_iff]
        rintro ⟨_, ys', -, hys, -⟩
        rw [ih.mpr hys] at hxs
        cases hxs
      | ok ys' =>
        simp only [bind, Except.bind, pure, Except.pure, Except.ok.injEq]
        constructor
        · rintro rfl
          exact ⟨y, ys', rfl, ih.mp hxs, rfl⟩
        · rintro ⟨_, _, rfl, hys, rfl⟩
          cases hxs.symm.trans (ih.mpr hys)
          rfl

end

theorem haveWords_layered (vs : List Vocabulary) (query : List Text) :
    (layered vs).haveWords query =
      (vs.mapM fun v : Vocabulary => v.haveWords query).map fun as => as.foldl mergeAnswers .empty := by
  change vs.foldlM _ Answers.empty = _
  generalize Answers.empty = found
  induction vs generalizing found with
  | nil => rfl
  | cons v vs ih =>
    rw [List.foldlM_cons, List.mapM_cons]
    cases v.haveWords query with
    | error e => rfl
    | ok a =>
      refine (ih (mergeAnswers found a)).trans ?_
      cases vs.mapM fun v : Vocabulary => v.haveWords query <;> rfl

theorem of_foldl_merge {as : List Answers} (has : ∀ a ∈ as, a.IsProper) (found : Answers) (w : Text) :
    (as.foldl mergeAnswers found).of w = found.of w ++ as.flatMap (·.of w) := by
  induction as generalizing found with
  | nil => exact (List.append_nil _).symm
  | cons a as ih =>
    obtain ⟨ha, has⟩ := List.forall_mem_cons.mp has
    rw [List.foldl_cons, ih has, Answers.of_merge found ha, List.append_assoc, List.flatMap_cons]

theorem isProper_foldl_merge (as : List Answers) {found : Answers} (h : found.IsProper) :
    (as.foldl mergeAnswers found).IsProper := by
  induction as generalizing found with
  | nil => exact h
  | cons a as ih => exact ih (h.merge a)

namespace Nest

variable {query : List Text} {a : Answers}

theorem haveWords_layers_iff {ns : List Nest} : (layers ns).toVocabulary.haveWords query = .ok a ↔
    ∃ as, List.Forall₂ (fun n b => n.toVocabulary.haveWords query = .ok b) ns as ∧
      a = as.foldl mergeAnswers .empty := by
  have hmap : (layers ns).toVocabulary.haveWords query =
      (ns.mapM fun n : Nest => n.toVocabulary.haveWords query).map fun as => as.foldl mergeAnswers .empty := by
    rw [toVocabulary, toVocabularies_eq, haveWords_layered, List.mapM_map]
    rfl
  rw [hmap]
  constructor
  · intro h
    cases has : ns.mapM fun n : Nest => n.toVocabulary.haveWords query with
    | error e =>
      rw [has] at h
      cases h
    | ok as =>
      rw [has] at h
      cases h
      exact ⟨as, mapM_eq_ok_iff.mp has, rfl⟩
  · rintro ⟨as, has, rfl⟩
    rw [mapM_eq_ok_iff.mpr has]
    rfl

theorem pronunciations_layers (ns : List Nest) (w : Text) :
    (layers ns).pronunciations w = ns.flatMap (·.pronunciations w) := by
  rw [pronunciations]
  induction ns with
  | nil => rfl
  | cons n ns ih => rw [pronunciationsOf, ih, List.flatMap_cons]

/-- What a nest answers to a query. -/
structure Sound (n : Nest) (query : List Text) (a : Answers) : Prop where
  isProper : a.IsProper
  of_eq : ∀ w, a.of w = if w ∈ Answers.asked query then n.pronunciations w else []

theorem of_layers {ns : List Nest} {as : List Answers} (h : List.Forall₂ (fun n b => Sound n query b) ns as)
    (w : Text) : (as.foldl mergeAnswers .empty).of w = as.flatMap (·.of w) := by
  have hproper : ∀ b ∈ as, b.IsProper := by
    induction h with
    | nil => simp
    | cons hb _ ih => exact List.forall_mem_cons.mpr ⟨hb.isProper, ih⟩
  rw [of_foldl_merge hproper, Answers.of_empty, List.nil_append]

theorem sound_layers {ns : List Nest} {as : List Answers}
    (h : List.Forall₂ (fun n b => Sound n query b) ns as) :
    Sound (layers ns) query (as.foldl mergeAnswers .empty) := by
  refine ⟨isProper_foldl_merge as Answers.isProper_empty, fun w => ?_⟩
  rw [of_layers h, pronunciations_layers]
  induction h with
  | nil => simp
  | cons hb _ ih =>
    rw [List.flatMap_cons, List.flatMap_cons, hb.of_eq, ih]
    split <;> rfl

theorem sound_of_haveWords (n : Nest) (h : n.toVocabulary.haveWords query = .ok a) : Sound n query a := by
  induction n using ind generalizing a with
  | wordList l =>
    cases h
    exact ⟨Answers.isProper_toQuery _ query, Answers.of_toQuery_eq _ query⟩
  | compiled v =>
    rw [eq_of_haveWords_compiled h]
    exact ⟨Answers.isProper_toQuery _ query, Answers.of_toQuery_eq _ query⟩
  | layers ns ih =>
    obtain ⟨as, has, rfl⟩ := haveWords_layers_iff.mp h
    exact sound_layers (((List.forall₂_and_left ns as).mpr ⟨fun n hn => @ih n hn, has⟩).imp
      fun _ _ hb => hb.1 hb.2)

/-- A compiled vocabulary that answers a query was asked for no tab. -/
theorem tab_not_mem_of_haveWords {v : CompiledVocabulary} (h : v.haveWords query = .ok a) {w : Text}
    (hw : w ∈ query) : '\t' ∉ w.lower := by
  by_cases hne : w = []
  · rw [hne]
    exact List.not_mem_nil
  have hkept : w ∈ query.filter (!·.isEmpty) := List.mem_filter.mpr ⟨hw, by simpa using hne⟩
  rw [CompiledVocabulary.haveWords] at h
  generalize query.filter (!·.isEmpty) = ws at h hkept
  generalize Answers.empty = found at h
  induction ws generalizing found with
  | nil => cases hkept
  | cons u ws ih =>
    rw [List.foldlM_cons] at h
    split at h
    · cases h
    case isFalse htab =>
      rcases List.mem_cons.mp hkept with rfl | hkept
      · exact htab
      · exact ih hkept _ h

/-- A nest that answers a query answers any other one for the same words, in whatever casing. -/
theorem exists_haveWords (n : Nest) (h : n.toVocabulary.haveWords query = .ok a) {query' : List Text}
    (hsame : ∀ u ∈ query', ∃ w ∈ query, u.lower = w.lower) :
    ∃ b, n.toVocabulary.haveWords query' = .ok b := by
  induction n using ind generalizing a with
  | wordList l => exact ⟨_, rfl⟩
  | compiled v =>
    refine ⟨_, haveWords_compiled_lower v fun u hu htab => ?_⟩
    obtain ⟨w, hw, hlower⟩ := hsame u hu
    exact tab_not_mem_of_haveWords h hw (hlower ▸ htab)
  | layers ns ih =>
    obtain ⟨as, has, rfl⟩ := haveWords_layers_iff.mp h
    have hall : ∃ bs, List.Forall₂ (fun (n : Nest) b => n.toVocabulary.haveWords query' = .ok b) ns bs := by
      clear h
      induction has with
      | nil => exact ⟨[], .nil⟩
      | cons hn _ ihs =>
        obtain ⟨b, hb⟩ := ih _ List.mem_cons_self hn
        obtain ⟨bs, hbs⟩ := ihs fun n hn => ih n (List.mem_cons_of_mem _ hn)
        exact ⟨b :: bs, .cons hb hbs⟩
    obtain ⟨bs, hbs⟩ := hall
    exact ⟨_, haveWords_layers_iff.mpr ⟨bs, hbs, rfl⟩⟩

theorem exists_layers {ns : List Nest} (h : (layers ns).toVocabulary.haveWords query = .ok a) :
    ∃ as, List.Forall₂ (fun n b => n.toVocabulary.haveWords query = .ok b) ns as ∧
      ∀ w, a.of w = as.flatMap (·.of w) := by
  obtain ⟨as, has, rfl⟩ := haveWords_layers_iff.mp h
  exact ⟨as, has, of_layers (has.imp fun n _ hb => n.sound_of_haveWords hb)⟩

theorem exists_alone (n : Nest) (h : n.toVocabulary.haveWords query = .ok a) {w u : Text} (hw : w ∈ query)
    (hu : u.lower = w.lower) :
    ∃ b, n.toVocabulary.haveWords [u] = .ok b ∧ a.of w.lower = b.of w.lower := by
  have hsingle : ∃ b, n.toVocabulary.haveWords [u] = .ok b :=
    n.exists_haveWords h fun u' hu' => ⟨w, hw, List.mem_singleton.mp hu' ▸ hu⟩
  obtain ⟨b, hb⟩ := hsingle
  refine ⟨b, hb, ?_⟩
  have hempty : u = [] ↔ w = [] := by
    rw [← Text.lower_eq_nil_iff, hu, Text.lower_eq_nil_iff]
  have hasked : w.lower ∈ Answers.asked [u] ↔ w ≠ [] := by
    rw [← hu, Answers.lower_mem_asked List.mem_cons_self, ne_eq, hempty]
  simp only [(n.sound_of_haveWords h).of_eq, (n.sound_of_haveWords hb).of_eq, hasked, Answers.lower_mem_asked hw]

theorem contains_eq_true_iff {v : Vocabulary} {w : Text} (h : v.haveWords [w] = .ok a) :
    v.contains w = .ok true ↔ a.of w.lower ≠ [] := by
  have hcontains : v.contains w = .ok (a.knows w.lower) := by
    rw [contains, h]
    rfl
  rw [hcontains, Except.ok.injEq, Answers.knows]
  simp

/-- A nest knows just the words that one of its leaves knows. -/
theorem contains_iff (n : Nest) {w : Text} (h : n.toVocabulary.haveWords [w] = .ok a) :
    n.toVocabulary.contains w = .ok true ↔ ∃ leaf ∈ n.leaves, leaf.contains w = .ok true := by
  induction n using ind generalizing a with
  | wordList l => simp [leaves, toVocabulary]
  | compiled v => simp [leaves, toVocabulary]
  | layers ns ih =>
    obtain ⟨as, has, hof⟩ := exists_layers h
    rw [contains_eq_true_iff h, hof, leaves, leavesOf_eq]
    clear h hof
    induction has with
    | nil => simp
    | @cons n b ns as hn _ ihs =>
      have hfirst := ih n List.mem_cons_self hn
      rw [contains_eq_true_iff hn] at hfirst
      simp only [List.flatMap_cons, List.mem_append, or_and_right, exists_or, ← hfirst,
        ← ihs fun m hm => ih m (List.mem_cons_of_mem n hm)]
      rw [ne_eq, List.append_eq_nil_iff, not_and_or]

/-- Of a query that is answered, each word has the pronunciations that it has alone and in any casing. In layers
they are those of the layers, in order and once each. A word is known just if a leaf knows it. -/
theorem haveWords_agree (n : Nest) (h : n.toVocabulary.haveWords query = .ok a) :
    (∀ w ∈ query, ∀ u : Text, u.lower = w.lower →
      ∃ b, n.toVocabulary.haveWords [u] = .ok b ∧ a.of w.lower = b.of w.lower) ∧
    (∀ ns, n = layers ns → ∃ as, List.Forall₂ (fun m b => m.toVocabulary.haveWords query = .ok b) ns as ∧
      ∀ w ∈ query, a.of w.lower = as.flatMap (·.of w.lower)) ∧
    ∀ w ∈ query, ∃ known, n.toVocabulary.contains w = .ok known ∧
      (known = true ↔ ∃ leaf ∈ n.leaves, leaf.contains w = .ok true) := by
  refine ⟨fun w hw u hu => n.exists_alone h hw hu, ?_, fun w hw => ?_⟩
  · rintro ns rfl
    obtain ⟨as, has, hof⟩ := exists_layers h
    exact ⟨as, has, fun w _ => hof w.lower⟩
  · obtain ⟨b, hb, _⟩ := n.exists_alone h hw rfl
    refine ⟨b.knows w.lower, by rw [contains, hb]; rfl, ?_⟩
    rw [← n.contains_iff hb, contains_eq_true_iff hb, Answers.knows]
    simp

/-- A word in two layers, a word in two casings, the empty word and an unknown one. -/
theorem haveWords_agree_read :
    let v : CompiledVocabulary := ⟨["blue\tB L UW", "read\tR EH D"]⟩
    let n := layers [wordList (.ofWords ["read"]), layers [compiled v, wordList .empty]]
    let a : Answers := .put (.put .empty "read" [[], "R EH D"]) "green" []
    let query : List Text := ["Read", "", "READ", "green"]
    n.toVocabulary.haveWords query = .ok a ∧
      (∃ b, n.toVocabulary.haveWords ["rEAD"] = .ok b ∧ a.of "read" = b.of "read") ∧
      ∃ known, n.toVocabulary.contains "READ" = .ok known ∧
        (known = true ↔ ∃ leaf ∈ n.leaves, leaf.contains "READ" = .ok true) := by
  intro v n a query
  have h : n.toVocabulary.haveWords query = .ok a := by decide +kernel
  obtain ⟨hsingle, _, hknown⟩ := n.haveWords_agree h
  exact ⟨h, hsingle "READ" (by decide) "rEAD" (by decide), hknown "READ" (by decide)⟩

theorem stored (n : Nest) : Stored n.toVocabulary := by
  induction n using ind with
  | wordList l => exact .wordList l
  | compiled v => exact .compiled v
  | layers ns ih =>
    rw [toVocabulary, toVocabularies_eq]
    exact .layered _ (List.forall_mem_map.mpr ih)

theorem reliable (n : Nest) : n.toVocabulary.Reliable ('\t' ∉ ·) where
  answers := n.stored.answering
  consistent := by
    intro query a w _ ha hw
    obtain ⟨b, hb, hsame⟩ := n.exists_alone ha hw rfl
    rw [contains, hb, Answers.knows, hsame]
    rfl

end Nest

theorem Stored.exists_nest {v : Vocabulary} (hv : Stored v) : ∃ n : Nest, n.toVocabulary = v := by
  induction hv with
  | wordList l => exact ⟨.wordList l, rfl⟩
  | compiled v => exact ⟨.compiled v, rfl⟩
  | layered layers _ ih =>
    have hlayers : layers ∈ Set.range (List.map Nest.toVocabulary) := by
      rw [Set.range_list_map]
      exact ih
    obtain ⟨ns, rfl⟩ := hlayers
    exact ⟨.layers ns, by rw [Nest.toVocabulary, Nest.toVocabularies_eq]⟩

/-- Stored vocabularies answer every query without a tab, and the same for a word wherever it is asked for. -/
theorem Stored.reliable {v : Vocabulary} (hv : Stored v) : v.Reliable ('\t' ∉ ·) := by
  obtain ⟨n, rfl⟩ := hv.exists_nest
  exact n.reliable

end Vocabulary

end Dictation
