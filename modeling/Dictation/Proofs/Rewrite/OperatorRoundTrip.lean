import Dictation.Proofs.Operator.LongestMatch
import Dictation.Proofs.Rewrite.OperatorText
/-!
# Spoken operators are written again

Operators that are spoken one after the other come back when the shipped rules are applied, exactly if
no low line follows an operator whose rule comes after the one for the low line.
-/
namespace Dictation

open Text Sign

namespace Operator

/-- The signs in a spoken form. Only the names of control keys stand for none. -/
def signs (spoken : Text) : List Sign :=
  (fields ' ' spoken).filterMap fun x => spelled.1.find? fun s => s.spoken = x

/-- The operators whose rules come after the one for the low line. -/
def behindLowLine : List Text :=
  [['*'], ['-'], ['@'], ['/'], [':', '/', '/'], ['"'], ['\\'], ['#'], ['$'], ['%'], ['&'], ['\''],
    ['+'], ['<'], ['='], ['>'], ['^'], ['\x60'], ['|'], ['~']]

/-- Whether two operators can be spoken one after the other. -/
def Separate (op op' : Text) : Prop := ¬ (op ∈ behindLowLine ∧ op' = ['_'])

instance (op op' : Text) : Decidable (Separate op op') := inferInstanceAs (Decidable (¬ _))

/-- What is required of an entry of the table. -/
def isEntry (e : Text × Text) : Bool :=
  (fields ' ' e.2).all (fun x => decide (x ∈ spokenWords)) &&
    decide ((fields ' ' e.2).filter (fun x => x ∉ keyNames) = (signs e.2).map spoken) &&
    decide (e.1.filter (!Unicode.isBlank ·) = (signs e.2).flatMap written) &&
    if e.1.isBlankText then (signs e.2).isEmpty
    else !(signs e.2).isEmpty && decide ((signs e.2).IsChain Clear) &&
      (signs e.2).head?.all (fun s => decide (s.rank = low) == decide (e.1 = ['_'])) &&
      (signs e.2).getLast?.all (fun s => decide (low < s.rank) == decide (e.1 ∈ behindLowLine))

theorem table_entries : ∀ e ∈ spelledTable.1, e.1 ≠ ['\r'] → isEntry e = true := by
  decide +kernel

/-- An entry of the table other than the carriage return. -/
structure Entry (e : Text × Text) : Prop where
  words : ∀ x ∈ fields ' ' e.2, x ∈ spokenWords
  names : (fields ' ' e.2).filter (fun x => x ∉ keyNames) = (signs e.2).map spoken
  written : e.1.filter (!Unicode.isBlank ·) = (signs e.2).flatMap written
  key : e.1.isBlankText = true → signs e.2 = []
  ne_nil : e.1.isBlankText = false → signs e.2 ≠ []
  clear : (signs e.2).IsChain Clear
  head : ∀ s ∈ (signs e.2).head?, s.rank = low ↔ e.1 = ['_']
  last : ∀ s ∈ (signs e.2).getLast?, low < s.rank ↔ e.1 ∈ behindLowLine

theorem Entry.of_mem {e : Text × Text} (he : e ∈ spelledTable.1) (hreturn : e.1 ≠ ['\r']) :
    Entry e := by
  have h := table_entries e he hreturn
  unfold isEntry at h
  simp only [Bool.and_eq_true, List.all_eq_true, decide_eq_true_eq] at h
  obtain ⟨⟨⟨hwords, hnames⟩, hwritten⟩, h⟩ := h
  split at h
  case isTrue hblank =>
    have hnil : signs e.2 = [] := List.isEmpty_iff.mp h
    refine ⟨hwords, hnames, hwritten, fun _ => hnil, fun hnot => ?_, ?_, ?_, ?_⟩
    · rw [hblank] at hnot
      cases hnot
    · rw [hnil]
      exact List.isChain_nil
    · rw [hnil]
      exact fun s hs => by cases hs
    · rw [hnil]
      exact fun s hs => by cases hs
  case isFalse hblank =>
    simp only [Bool.and_eq_true, Bool.not_eq_true', List.isEmpty_eq_false_iff, decide_eq_true_eq,
      Option.all_eq_true, beq_iff_eq, decide_eq_decide] at h
    obtain ⟨⟨⟨hne, hclear⟩, hhead⟩, hlast⟩ := h
    exact ⟨hwords, hnames, hwritten, fun h => absurd h hblank, fun _ => hne, hclear, hhead, hlast⟩

theorem mem_spelled_of_mem_signs {spoken : Text} {s : Sign} (hs : s ∈ signs spoken) :
    s ∈ spelled.1 := by
  obtain ⟨x, _, hx⟩ := List.mem_filterMap.mp hs
  exact List.mem_of_find?_eq_some hx

theorem entries_of_mapM {ops words : List Text} (h : ops.mapM spoken? = some words) :
    ∃ es : List (Text × Text), es.map Prod.fst = ops ∧ es.map Prod.snd = words ∧
      ∀ e ∈ es, e ∈ spelledTable.1 := by
  induction ops generalizing words with
  | nil =>
    rw [List.mapM_nil] at h
    cases h
    exact ⟨[], rfl, rfl, fun e he => absurd he List.not_mem_nil⟩
  | cons op ops ih =>
    rw [List.mapM_cons] at h
    obtain ⟨spoken, hspoken, h⟩ := Option.bind_eq_some_iff.mp h
    obtain ⟨more, hmore, h⟩ := Option.bind_eq_some_iff.mp h
    cases h
    obtain ⟨es, rfl, rfl, hes⟩ := ih hmore
    refine ⟨(op, spoken) :: es, rfl, rfl, fun e he => ?_⟩
    rcases List.mem_cons.mp he with rfl | he
    · exact mem_table_of_spoken? hspoken
    · exact hes e he

theorem isChain_signs {es : List (Text × Text)} (hes : ∀ e ∈ es, Entry e) :
    (es.flatMap fun e => signs e.2).IsChain Clear ↔
      ((es.map Prod.fst).filter (!·.isBlankText)).IsChain Separate := by
  -- Keys stand for no signs.
  have hkeys : (es.flatMap fun e => signs e.2) =
      ((es.filter fun e => !e.1.isBlankText).map fun e => signs e.2).flatten := by
    induction es with
    | nil => rfl
    | cons e es ih =>
      have he := hes e List.mem_cons_self
      have hmore := ih fun e' he' => hes e' (List.mem_cons_of_mem e he')
      cases hblank : e.1.isBlankText with
      | true =>
        rw [List.flatMap_cons, he.key hblank, hmore, List.filter_cons_of_neg (by simp [hblank])]
        rfl
      | false =>
        rw [List.flatMap_cons, hmore, List.filter_cons_of_pos (by simp [hblank])]
        rfl
  have hfirst : (es.map Prod.fst).filter (!·.isBlankText) =
      (es.filter fun e => !e.1.isBlankText).map Prod.fst := List.filter_map
  have hentry : ∀ e ∈ es.filter (fun e => !e.1.isBlankText), Entry e ∧ signs e.2 ≠ [] := by
    intro e he
    obtain ⟨he, hblank⟩ := List.mem_filter.mp he
    exact ⟨hes e he, (hes e he).ne_nil (by simpa using hblank)⟩
  rw [hkeys, hfirst]
  generalize es.filter (fun e => !e.1.isBlankText) = es' at hentry
  have hpair : ∀ e ∈ es', ∀ e' ∈ es',
      (∀ s ∈ (signs e.2).getLast?, ∀ s' ∈ (signs e'.2).head?, Clear s s') ↔
        Separate e.1 e'.1 := by
    intro e he e' he'
    obtain ⟨hentry₁, hne⟩ := hentry e he
    obtain ⟨hentry₂, hne'⟩ := hentry e' he'
    have hlast := List.getLast?_eq_some_getLast hne
    have hhead := List.head?_eq_some_head hne'
    have hiff := and_congr (hentry₁.last _ hlast) (hentry₂.head _ hhead)
    rw [hlast, hhead]
    constructor
    · exact fun h hcut => h _ rfl _ rfl (hiff.mpr hcut)
    · rintro h s ⟨⟩ s' ⟨⟩ hcut
      exact h (hiff.mp hcut)
  have hnil : [] ∉ es'.map fun e => signs e.2 := by
    intro h
    obtain ⟨e, he, hsigns⟩ := List.mem_map.mp h
    exact (hentry e he).2 hsigns
  have hclear : ∀ l ∈ es'.map fun e => signs e.2, l.IsChain Clear := by
    intro l hl
    obtain ⟨e, he, rfl⟩ := List.mem_map.mp hl
    exact (hentry e he).1.clear
  rw [List.isChain_flatten hnil, and_iff_right hclear, List.isChain_map, List.isChain_map]
  exact List.IsChain.iff_of_mem_imp fun e e' he he' => hpair e he e' he'

end Operator

namespace RuleTable

theorem filter_apply_join {xs : List Text} {ss : List Sign} (hxs : ∀ x ∈ xs, x ∈ spokenWords)
    (hss : ∀ s ∈ ss, s ∈ spelled.1) (hsame : xs.filter (fun x => x ∉ keyNames) = ss.map spoken) :
    (shipped.apply (join [' '] xs)).filter (!Unicode.isBlank ·) = forms 52 ss := by
  obtain ⟨g, ts, hwords, hspaced, hbefore⟩ := rewrite_wordRows (spaced_withBlanks xs) (by
    rw [map_fst_withBlanks]
    exact hxs)
  rw [map_fst_withBlanks, hsame] at hwords
  obtain ⟨us, rfl, hplaced, hrender⟩ := placed_of_spaced hss hspaced hwords
  obtain ⟨g', us', hsame', hplaced', hmiddle⟩ := signRows_inPlace.rewrite_render hplaced
  have hlength : 0 + signRows.length = 52 := by decide
  rw [hlength] at hplaced' hmiddle
  rw [shipped_apply, rows_eq, List.foldl_append, List.foldl_append, ← wordsIn_withBlanks, hbefore,
    ← hrender, hmiddle, rewrite_frameRows hplaced', filter_render hplaced', hsame']

open Operator in
/-- Spoken operators come back, apart from white space, exactly if no low line follows an operator
whose rule comes after the one for the low line. -/
theorem apply_spoken_iff {ops words : List Text} (hspoken : ops.mapM spoken? = some words)
    (hreturn : ['\r'] ∉ ops) :
    (shipped.apply (join [' '] words)).filter (!Unicode.isBlank ·) =
        ops.flatten.filter (!Unicode.isBlank ·) ↔
      (ops.filter (!·.isBlankText)).IsChain Separate := by
  obtain ⟨es, rfl, rfl, htable⟩ := entries_of_mapM hspoken
  have hes : ∀ e ∈ es, Entry e := by
    intro e he
    refine .of_mem (htable e he) fun h => hreturn ?_
    rw [← h]
    exact List.mem_map_of_mem he
  have hss : ∀ s ∈ es.flatMap (fun e => signs e.2), s ∈ spelled.1 := by
    intro s hs
    obtain ⟨e, _, hs⟩ := List.mem_flatMap.mp hs
    exact mem_spelled_of_mem_signs hs
  have hwords : ∀ x ∈ (es.map Prod.snd).flatMap (fields ' '), x ∈ spokenWords := by
    intro x hx
    obtain ⟨w, hw, hx⟩ := List.mem_flatMap.mp hx
    obtain ⟨e, he, rfl⟩ := List.mem_map.mp hw
    exact (hes e he).words x hx
  have hnames : ((es.map Prod.snd).flatMap (fields ' ')).filter (fun x => x ∉ keyNames) =
      (es.flatMap fun e => signs e.2).map spoken := by
    rw [List.filter_flatMap, List.flatMap_map, List.map_flatMap]
    exact List.flatMap_congr fun e he => (hes e he).names
  have hwritten : (es.map Prod.fst).flatten.filter (!Unicode.isBlank ·) =
      (es.flatMap fun e => signs e.2).flatMap written := by
    rw [List.flatMap_assoc, List.filter_flatten, List.map_map, ← List.flatMap_def]
    exact List.flatMap_congr fun e he => (hes e he).written
  rw [← join_flatMap_fields, filter_apply_join hwords hss hnames, hwritten, forms_eq_iff hss,
    isChain_signs hes]

open Operator in
/-- Behind a colon, a low line does no harm. -/
theorem apply_equals_colon_low_line :
    [['='], [':'], ['_']].mapM spoken? =
        some ["=equals".toList, ":colon".toList, "_under-score".toList] ∧
      (shipped.apply "=equals :colon _under-score".toList).filter (!Unicode.isBlank ·) =
        ['=', ':', '_'] := by
  have hspoken : [['='], [':'], ['_']].mapM spoken? =
      some ["=equals".toList, ":colon".toList, "_under-score".toList] := by decide
  exact ⟨hspoken, (apply_spoken_iff hspoken (by decide)).mpr (by decide)⟩

open Operator in
/-- Behind an equals sign, it takes the blank that ends the name of the equals sign. -/
theorem apply_equals_low_line :
    [['='], ['_']].mapM spoken? = some ["=equals".toList, "_under-score".toList] ∧
      (shipped.apply "=equals _under-score".toList).filter (!Unicode.isBlank ·) =
        "=equals_".toList ∧
      "=equals_".toList ≠ [['='], ['_']].flatten := by
  have hforms := @filter_apply_join ["=equals".toList, "_under-score".toList]
    (signs "=equals _under-score".toList) (by decide) (by decide) (by decide)
  refine ⟨by decide, hforms.trans (by decide), by decide⟩

end RuleTable

end Dictation
