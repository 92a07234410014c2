import Dictation.Proofs.Rewrite.IdleRules
import Dictation.Proofs.Rewrite.OperatorText
/-!
# Words that are rewritten where they stand

The rules for digits replace whole words and touch nothing else, so that a text of words with blanks
between them stays one, with digits in the place of their names.
-/
namespace Dictation

open Node Text

/-- What the rule for a whole word needs of its word. -/
structure WholeWord (s : String) : Prop where
  plain : (sequence (literal s)).plain = true
  unmarked : (wholeWord s).unmarked = true
  consumes : (wholeWord s).consumes = true
  skipsGaps : (wholeWord s).skipsGaps = true
  solid : isSolid s.toList = true
  first : ∀ a ∈ s.toList.head?, isWordChar a = true
  last : ∀ a ∈ s.toList.getLast?, isWordChar a = true
  reads : (sequence (literal s)).leftovers s.toList = some [[]]

theorem core_wholeWord (s : String) : (wholeWord s).core = wholeWord s := by
  unfold wholeWord
  cases literal s with
  | nil => rfl
  | cons n ns => rfl

theorem head_append_of_ne_nil {x : Text} (hx : x ≠ []) (t : Text) : (x ++ t).head? = x.head? := by
  obtain ⟨a, y, rfl⟩ := List.exists_cons_of_ne_nil hx
  rfl

namespace WholeWord

variable {s : String} (hs : WholeWord s)
include hs

theorem matchAt? {b : Option Char} (hb : ∀ a ∈ b, isWordChar a = false) {t : Text}
    (ht : ∀ a ∈ t.head?, isWordChar a = false) :
    (wholeWord s).matchAt? b (s.toList ++ t) = some ⟨s.toList, []⟩ := by
  have hne := ne_nil_of_isSolid hs.solid
  have hstart : Assertion.holds (.boundary .unicode) b (s.toList ++ t) = true := by
    refine boundary_before hb ?_
    rw [head_append_of_ne_nil hne]
    exact ⟨_, List.head?_eq_some_head hne, hs.first _ (List.head?_eq_some_head hne)⟩
  refine matchAt?_of_run hs.unmarked ?_
  rw [wholeWord, List.cons_append, run_sequence_cons]
  refine (if_pos hstart).trans ?_
  rw [run_sequence_append]
  refine run_of_leftovers hs.plain hs.reads rfl rfl ?_
  exact if_pos (Keyword.boundary_holds (g := []) hs.solid hs.last ht b)

theorem replaceFrom_wordsIn {f : Match → Text} {y : Text} (hf : ∀ m, f m = y) {g : Text}
    {ts : List (Text × Text)} (hts : Spaced g ts)
    (hwords : ∀ x ∈ ts.map Prod.fst, isSolid x = true ∧
      (x ≠ s.toList → (wholeWord s).core.stopsIn gapChars x = true)) {b : Option Char}
    (hstart : ts ≠ [] → g = [] → ∀ a ∈ b, isWordChar a = false) :
    (wholeWord s).replaceFrom f b (wordsIn g ts) =
      wordsIn g (ts.map fun t => (if t.1 = s.toList then y else t.1, t.2)) := by
  induction ts generalizing g b with
  | nil => exact replaceFrom_eq_self hs.consumes f ((deadIn_end hs.skipsGaps hts).misses b)
  | cons t ts ih =>
    obtain ⟨x, h⟩ := t
    obtain ⟨hg, hne, hrest⟩ := hts
    obtain ⟨hsolid, hstops⟩ := hwords x List.mem_cons_self
    have hnext := head_wordsIn hrest hne
    have hmore := fun b => ih hrest (fun z hz => hwords z (List.mem_cons_of_mem x hz)) (b := b)
      fun hts hnil => absurd hnil (hne hts)
    by_cases hx : x = s.toList
    · -- The gap in front is skipped, and the word is found behind it.
      have hskip := deadIn_gap hs.skipsGaps hg (x ++ wordsIn h ts)
      rw [core_wholeWord] at hskip
      have hbefore : ∀ a ∈ lastOf b g, isWordChar a = false := by
        intro a ha
        cases hlast : g.getLast? with
        | none =>
          rw [lastOf, hlast, Option.none_or] at ha
          exact hstart (List.cons_ne_nil _ ts) (List.getLast?_eq_none_iff.mp hlast) a ha
        | some c =>
          rw [lastOf, hlast, Option.some_or] at ha
          cases ha
          exact isWordChar_of_mem_gapChars a (hg a (List.mem_of_getLast? hlast))
      have hmatch := hs.matchAt? hbefore
        (t := wordsIn h ts) fun a ha => isWordChar_of_mem_gapChars a (hnext a ha)
      change (wholeWord s).replaceFrom f b (g ++ (x ++ wordsIn h ts)) = _
      rw [replaceFrom_misses hs.consumes f (hskip.misses b), hx,
        replaceFrom_found hs.consumes f hmatch rfl, hf, hmore, List.map_cons, if_pos rfl]
      rfl
    · have hdead : (wholeWord s).core.DeadIn x (wordsIn h ts) := deadIn_of_stopsIn (hstops hx) hnext
      have hskip := (deadIn_word hs.skipsGaps hg hsolid hdead).misses b
      change (wholeWord s).replaceFrom f b (g ++ (x ++ wordsIn h ts)) = _
      rw [← List.append_assoc, replaceFrom_misses hs.consumes f hskip, hmore, List.map_cons,
        if_neg hx, List.append_assoc]
      rfl

end WholeWord

def digitNames : List (String × Char) := [
  ("zero", '0'), ("one", '1'), ("two", '2'), ("three", '3'), ("four", '4'), ("five", '5'),
  ("six", '6'), ("seven", '7'), ("eight", '8'), ("nine", '9')]

theorem digitNames_whole : ∀ e ∈ digitNames, WholeWord e.1 := by
  have h : ∀ e ∈ digitNames, (sequence (literal e.1)).plain = true ∧
      (wholeWord e.1).unmarked = true ∧ (wholeWord e.1).consumes = true ∧
      (wholeWord e.1).skipsGaps = true ∧ isSolid e.1.toList = true ∧
      (e.1.toList.head?.all isWordChar) = true ∧ (e.1.toList.getLast?.all isWordChar) = true ∧
      (sequence (literal e.1)).leftovers e.1.toList = some [[]] := by decide
  intro e he
  obtain ⟨hplain, hunmarked, hconsumes, hgaps, hsolid, hfirst, hlast, hreads⟩ := h e he
  exact ⟨hplain, hunmarked, hconsumes, hgaps, hsolid, Option.all_eq_true _ _ |>.mp hfirst,
    Option.all_eq_true _ _ |>.mp hlast, hreads⟩

namespace RuleTable

def digitRow (e : String × Char) : Pattern × Action := (⟨wholeWord e.1, []⟩, .literal [e.2])

theorem wordRows_digits : (wordRows.drop 5).take 10 = digitNames.map digitRow := by
  decide

end RuleTable

/-- A word after the rule for the name of a digit. -/
def swapName (e : String × Char) (x : Text) : Text := if x = e.1.toList then [e.2] else x

def swapNames (x : Text) : Text := digitNames.foldl (fun x e => swapName e x) x

namespace RuleTable

theorem map_withBlanks (f : Text → Text) (xs : List Text) :
    (withBlanks xs).map (fun t => (f t.1, t.2)) = withBlanks (xs.map f) := by
  induction xs with
  | nil => rfl
  | cons x xs ih =>
    cases xs with
    | nil => rfl
    | cons y xs => exact congrArg ((f x, [' ']) :: ·) ih

theorem rewrite_digitRow {e : String × Char} (he : e ∈ digitNames) {xs : List Text}
    (hxs : ∀ x ∈ xs, isSolid x = true ∧
      (x ≠ e.1.toList → (wholeWord e.1).core.stopsIn gapChars x = true)) :
    rewrite (digitRow e) (join [' '] xs) = join [' '] (xs.map (swapName e)) := by
  have hliteral : ∀ e ∈ digitNames, Slot.quoted [e.2] = [e.2] := by decide
  have hf : ∀ m, (digitRow e).2.apply (digitRow e).1 m = [e.2] := by
    intro m
    have hquoted := Slot.expand_quoted ⟨wholeWord e.1, []⟩ m [e.2]
    rw [hliteral e he] at hquoted
    exact hquoted
  have hreplace := (digitNames_whole e he).replaceFrom_wordsIn hf (spaced_withBlanks xs)
    (by rwa [map_fst_withBlanks]) (b := none) fun _ _ a ha => by cases ha
  have hmap := map_withBlanks (swapName e) xs
  unfold swapName at hmap
  rw [rewrite_eq, ← wordsIn_withBlanks]
  refine hreplace.trans ?_
  rw [hmap, wordsIn_withBlanks]
  rfl

theorem foldl_digitRows {ws : List Text}
    (hws : ∀ x ∈ ws, isSolid x = true ∧ ∀ e ∈ digitNames, swapName e x ∈ ws ∧
      (x ≠ e.1.toList → (wholeWord e.1).core.stopsIn gapChars x = true))
    {xs : List Text} (hxs : ∀ x ∈ xs, x ∈ ws) :
    (digitNames.map digitRow).foldl (fun t r => rewrite r t) (join [' '] xs) =
      join [' '] (xs.map swapNames) := by
  have hall : ∀ es : List (String × Char), (∀ e ∈ es, e ∈ digitNames) → ∀ xs : List Text,
      (∀ x ∈ xs, x ∈ ws) → (es.map digitRow).foldl (fun t r => rewrite r t) (join [' '] xs) =
        join [' '] (xs.map fun x => es.foldl (fun x e => swapName e x) x) := by
    intro es hes
    induction es with
    | nil =>
      intro xs _
      simp
    | cons e es ih =>
      intro xs hxs
      have he := hes e List.mem_cons_self
      have hone := rewrite_digitRow he fun x hx =>
        ⟨(hws x (hxs x hx)).1, ((hws x (hxs x hx)).2 e he).2⟩
      have hmore := ih (fun e' he' => hes e' (List.mem_cons_of_mem e he')) (xs.map (swapName e))
        (by
          intro x hx
          obtain ⟨y, hy, rfl⟩ := List.mem_map.mp hx
          exact ((hws y (hxs y hy)).2 e he).1)
      rw [List.map_cons, List.foldl_cons, hone, hmore, List.map_map]
      rfl
  exact hall digitNames (fun _ => id) xs hxs

end RuleTable

end Dictation
