import Dictation.Proofs.Source.Spoken
import Mathlib.Data.List.Chain
/-!
# Grouping of runs

How the runs of a text are grouped into tokens. A token is either one run that stands between words,
or runs none of which does, as many as there are up to the next one that does. A combiner is told by
the run behind it; as runs are maximal, that run is never a combiner too, and so a token shows by
itself of which of the two sorts it is.
-/
namespace Dictation

theorem Combiners.isChain_runs (k : Combiners) (x : Text) :
    (k.runs x).IsChain fun r next => r.category ≠ next.category := by
  induction x with
  | nil => exact .nil
  | cons c rest ih =>
    unfold runs Run.prepend
    split
    case h_1 => exact .singleton _
    case h_2 r others hruns =>
      rw [hruns] at ih
      split
      case isTrue hsame =>
        -- The longer run has the category of the shorter one.
        cases others with
        | nil => exact .singleton _
        | cons next others =>
          rw [List.isChain_cons_cons] at ih ⊢
          exact ⟨hsame ▸ ih.1, ih.2⟩
      case isFalse hother => exact .cons_cons (fun h => hother h.symm) ih

namespace Token

/-- Whether no word goes on into the given runs: there are none, or the first stands between words. -/
def EndsWord (rest : List Run) : Prop := ∀ next ∈ rest.head?, next.category.splitsWords = true

/-- Whether a run in front of the given ones is a token of its own: it stands between words, or it is a
combiner behind which no word goes on. -/
def StandsAlone (r : Run) (rest : List Run) : Prop :=
  r.category.splitsWords = true ∨ r.category = .combiner ∧ EndsWord rest

theorem splitsAt_cons_iff (r : Run) (rest : List Run) :
    splitsAt (r :: rest) = true ↔ StandsAlone r rest := by
  unfold StandsAlone EndsWord
  cases hr : r.category <;> cases rest <;> simp [splitsAt, hr, Category.splitsWords]

theorem isSplitting_of_standsAlone {t : Token} {r : Run} {rest : List Run} (ht : t.runs = [r])
    (h : StandsAlone r rest) : t.isSplitting = true := by
  unfold isSplitting
  rw [ht]
  rcases h with h | ⟨h, _⟩ <;> simp [h]

/-- Whether a token in front of the given runs is one that they leave no choice about. -/
inductive Fits (t : Token) (rest : List Run) : Prop where
  /-- A run that stands alone. -/
  | alone (r : Run) (runs_eq : t.runs = [r]) (h : StandsAlone r rest)
  /-- Runs none of which stands alone, in front of one that does or of nothing. -/
  | joined (ne_nil : t.runs ≠ [])
      (h : ∀ front r back, t.runs = front ++ r :: back → ¬ StandsAlone r (back ++ rest))
      (ends : splitsAt rest = true)

theorem Fits.runs_ne_nil {t : Token} {rest : List Run} (h : Fits t rest) : t.runs ≠ [] := by
  cases h with
  | alone r hruns => simp [hruns]
  | joined hne => exact hne

theorem group_cons_of_splitsAt {r : Run} {rest : List Run}
    (h : splitsAt (r :: rest) = true ∨ splitsAt rest = true) : group (r :: rest) = ⟨[r]⟩ :: group rest := by
  rw [group, if_pos (by simpa using h)]

theorem group_cons_of_not {r : Run} {rest : List Run} (hr : splitsAt (r :: rest) ≠ true)
    (hrest : splitsAt rest ≠ true) :
    ∃ t ts, group rest = t :: ts ∧ group (r :: rest) = ⟨r :: t.runs⟩ :: ts := by
  have hne : rest ≠ [] := by
    rintro rfl
    exact hrest rfl
  obtain ⟨t, ts, hgroup⟩ := List.exists_cons_of_ne_nil (group_ne_nil hne)
  refine ⟨t, ts, hgroup, ?_⟩
  rw [group, if_neg (by simp [hr, hrest]), hgroup]
  rfl

theorem flatMap_group (rs : List Run) : (group rs).flatMap Token.runs = rs := by
  induction rs with
  | nil => rfl
  | cons r rest ih =>
    by_cases h : splitsAt (r :: rest) = true ∨ splitsAt rest = true
    · rw [group_cons_of_splitsAt h, List.flatMap_cons, ih]
      rfl
    · obtain ⟨hr, hrest⟩ := not_or.mp h
      obtain ⟨t, ts, hgroup, hcons⟩ := group_cons_of_not hr hrest
      rw [hgroup, List.flatMap_cons] at ih
      rw [hcons, List.flatMap_cons, ← ih]
      rfl

theorem fits_of_group {rs : List Run} {before after : List Token} {t : Token}
    (h : group rs = before ++ t :: after) : Fits t (after.flatMap Token.runs) := by
  induction rs generalizing before t after with
  | nil => simp [group] at h
  | cons r rest ih =>
    by_cases hends : splitsAt (r :: rest) = true ∨ splitsAt rest = true
    · rw [group_cons_of_splitsAt hends] at h
      rcases List.cons_eq_append_iff.mp h with ⟨rfl, htokens⟩ | ⟨before, rfl, htokens⟩
      case inr => exact ih htokens
      case inl =>
        obtain ⟨rfl, rfl⟩ := List.cons.inj htokens
        rw [flatMap_group]
        by_cases hr : splitsAt (r :: rest) = true
        · exact .alone r rfl ((splitsAt_cons_iff r rest).mp hr)
        · refine .joined (List.cons_ne_nil r []) (fun front r' back hruns => ?_) (hends.resolve_left hr)
          obtain ⟨rfl, hback⟩ | ⟨front, rfl, hback⟩ := List.cons_eq_append_iff.mp hruns
          case inr => simp at hback
          obtain ⟨rfl, rfl⟩ := List.cons.inj hback
          exact fun halone => hr ((splitsAt_cons_iff r' rest).mpr halone)
    · obtain ⟨hr, hrest⟩ := not_or.mp hends
      obtain ⟨t', ts, hgroup, hcons⟩ := group_cons_of_not hr hrest
      rw [hcons] at h
      rcases List.cons_eq_append_iff.mp h with ⟨rfl, htokens⟩ | ⟨before, rfl, htokens⟩
      case inr =>
        have hrest' : group rest = (t' :: before) ++ t :: after := hgroup.trans (congrArg (t' :: ·) htokens)
        exact ih hrest'
      case inl =>
        obtain ⟨rfl, rfl⟩ := List.cons.inj htokens
        have hall := flatMap_group rest
        rw [hgroup, List.flatMap_cons] at hall
        have hgroup' : group rest = [] ++ t' :: after := hgroup
        cases ih hgroup' with
        | alone r' hruns halone =>
          -- The first of the others would be a token of its own.
          rw [← hall, hruns] at hrest
          exact absurd ((splitsAt_cons_iff _ _).mpr halone) hrest
        | joined _ hnone hlater =>
          refine .joined (List.cons_ne_nil r t'.runs) (fun front r' back hruns => ?_) hlater
          rcases List.cons_eq_append_iff.mp hruns with ⟨rfl, hback⟩ | ⟨front, rfl, hback⟩
          case inr => exact hnone front r' back hback
          obtain ⟨rfl, rfl⟩ := List.cons.inj hback
          rw [hall]
          exact fun halone => hr ((splitsAt_cons_iff r' rest).mpr halone)

/-- Behind runs that belong together stands a run that is a token of its own. -/
theorem isChain_group (rs : List Run) :
    (group rs).IsChain fun t next => t.isSplitting = true ∨ next.isSplitting = true := by
  refine List.isChain_iff_forall_rel_of_append_cons_cons.mpr fun t next before after h => ?_
  cases fits_of_group h with
  | alone r hruns halone => exact .inl (isSplitting_of_standsAlone hruns halone)
  | joined _ _ hends =>
    have hnext : group rs = (before ++ [t]) ++ next :: after := by simpa using h
    cases fits_of_group hnext with
    | alone r hruns halone => exact .inr (isSplitting_of_standsAlone hruns halone)
    | joined hne hnone _ =>
      -- The next token begins with a run that stands alone.
      obtain ⟨r, back, hruns⟩ := List.exists_cons_of_ne_nil hne
      rw [List.flatMap_cons, hruns, List.cons_append, splitsAt_cons_iff] at hends
      exact absurd hends (hnone [] r back hruns)

structure Grouping (rs : List Run) (ts : List Token) : Prop where
  /-- The tokens consist of the runs, in order. -/
  runs : ts.flatMap Token.runs = rs
  /-- No token is empty. -/
  ne_nil : ∀ t ∈ ts, t.runs ≠ []
  /-- A run that stands between words is the only one of its token. -/
  only : ∀ t ∈ ts, ∀ r ∈ t.runs, r.category.splitsWords = true → t.runs = [r]
  /-- A combiner is the only run of its token just if no word goes on behind it. -/
  combiner : ∀ before t after, ts = before ++ t :: after →
    ∀ front r back, t.runs = front ++ r :: back → r.category = .combiner →
      (t.runs = [r] ↔ EndsWord (back ++ after.flatMap Token.runs))
  /-- No other token ends with a combiner. -/
  last : ∀ t ∈ ts, ∀ r ∈ t.runs.getLast?, r.category = .combiner → t.runs = [r]
  /-- Of two tokens in a row one stands between words. -/
  apart : ts.IsChain fun t next => t.isSplitting = true ∨ next.isSplitting = true
  /-- The tokens that stand between words are those of a run that stands alone. -/
  splitting : ∀ before t after, ts = before ++ t :: after →
    (t.isSplitting = true ↔ ∃ r, t.runs = [r] ∧ StandsAlone r (after.flatMap Token.runs))

section
variable {rs : List Run} (hrs : rs.IsChain fun r next => r.category ≠ next.category)
include hrs

/-- The last run of a token whose runs belong together is no combiner: the run behind it would have to
be one too. -/
theorem combiner_of_group {before after : List Token} {t : Token} (h : group rs = before ++ t :: after)
    {front : List Run} {r : Run} (ht : t.runs = front ++ [r]) (hr : r.category = .combiner) :
    StandsAlone r (after.flatMap Token.runs) := by
  cases fits_of_group h with
  | alone r' hruns halone =>
    rw [hruns] at ht
    obtain ⟨rfl, rfl⟩ : front = [] ∧ r = r' := by
      cases front with
      | nil => simpa using ht.symm
      | cons _ _ => simp at ht
    exact halone
  | joined _ _ hends =>
    refine .inr ⟨hr, fun next hnext => ?_⟩
    obtain ⟨later, hlater⟩ := List.head?_eq_some_iff.mp hnext
    rw [hlater, splitsAt_cons_iff] at hends
    refine hends.resolve_right fun hcombiner => ?_
    have hall := flatMap_group rs
    rw [h, List.flatMap_append, List.flatMap_cons, ht, hlater] at hall
    rw [← hall] at hrs
    have hpair : [r, next].IsChain fun r next => r.category ≠ next.category :=
      hrs.infix ⟨before.flatMap Token.runs ++ front, later, by simp⟩
    exact (List.isChain_cons_cons.mp hpair).1 (hr.trans hcombiner.1.symm)

theorem isSplitting_iff_of_group {before after : List Token} {t : Token}
    (h : group rs = before ++ t :: after) :
    t.isSplitting = true ↔ ∃ r, t.runs = [r] ∧ StandsAlone r (after.flatMap Token.runs) := by
  refine ⟨fun hsplitting => ?_, fun ⟨r, ht, halone⟩ => isSplitting_of_standsAlone ht halone⟩
  unfold isSplitting at hsplitting
  split at hsplitting
  case h_2 => cases hsplitting
  case h_1 r ht =>
    refine ⟨r, ht, ?_⟩
    rcases Bool.or_eq_true_iff.mp hsplitting with hr | hr
    · exact .inl hr
    · have ht' : t.runs = [] ++ [r] := ht
      exact combiner_of_group hrs h ht' (by simpa using hr)

theorem combiner_iff_of_group {before after : List Token} {t : Token}
    (h : group rs = before ++ t :: after) {front : List Run} {r : Run} {back : List Run}
    (ht : t.runs = front ++ r :: back) (hr : r.category = .combiner) :
    t.runs = [r] ↔ EndsWord (back ++ after.flatMap Token.runs) := by
  have hnot : r.category.splitsWords ≠ true := by simp [hr, Category.splitsWords]
  constructor
  · intro honly
    obtain ⟨rfl, rfl⟩ : front = [] ∧ back = [] := by
      rw [honly] at ht
      have hlength := congrArg List.length ht
      simp only [List.length_cons, List.length_nil, List.length_append] at hlength
      exact ⟨List.eq_nil_of_length_eq_zero (by omega), List.eq_nil_of_length_eq_zero (by omega)⟩
    exact ((combiner_of_group hrs h ht hr).resolve_left hnot).2
  · intro hends
    cases fits_of_group h with
    | alone r' hruns _ =>
      have hmem : r ∈ t.runs := ht ▸ List.mem_append_right front List.mem_cons_self
      rw [hruns] at hmem
      rw [hruns, List.mem_singleton.mp hmem]
    | joined _ hnone _ => exact absurd (.inr ⟨hr, hends⟩) (hnone front r back ht)

theorem grouping_group : Grouping rs (group rs) where
  runs := flatMap_group rs
  ne_nil t ht := (runs_of_mem_group ht).1
  only t ht r hr hsplits := by
    obtain ⟨before, after, h⟩ := List.append_of_mem ht
    obtain ⟨front, back, hruns⟩ := List.append_of_mem hr
    cases fits_of_group h with
    | alone r' honly _ =>
      rw [honly] at hr
      rw [honly, List.mem_singleton.mp hr]
    | joined _ hnone _ => exact absurd (.inl hsplits) (hnone front r back hruns)
  combiner _ _ _ h _ _ _ ht hr := combiner_iff_of_group hrs h ht hr
  last t ht r hlast hr := by
    obtain ⟨before, after, h⟩ := List.append_of_mem ht
    obtain ⟨front, hruns⟩ := List.getLast?_eq_some_iff.mp hlast
    refine (combiner_iff_of_group hrs h hruns hr).mpr ?_
    have hnot : r.category.splitsWords ≠ true := by simp [hr, Category.splitsWords]
    exact ((combiner_of_group hrs h hruns hr).resolve_left hnot).2
  apart := isChain_group rs
  splitting _ _ _ h := isSplitting_iff_of_group hrs h

end

/-- The tokens of a text group its runs, and none of them is without text. -/
theorem tokens_grouping (k : Combiners) (x : Text) :
    Grouping (k.runs x) (k.tokens x) ∧ ∀ t ∈ k.tokens x, t.text ≠ [] := by
  refine ⟨grouping_group (k.isChain_runs x), fun t ht => ?_⟩
  obtain ⟨hne, hmem⟩ := runs_of_mem_group ht
  obtain ⟨r, others, hruns⟩ := List.exists_cons_of_ne_nil hne
  have hr : r.text ≠ [] := text_ne_nil_of_mem_runs (hmem r (hruns ▸ List.mem_cons_self))
  simp [text, hruns, hr]

/-- A point within a number and one behind it. -/
example : (({} : Combiners).tokens "3.14. a".toList).map Token.text =
    ["3.14".toList, ['.'], [' '], ['a']] := by
  decide

end Token

end Dictation
