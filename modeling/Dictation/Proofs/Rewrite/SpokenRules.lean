import Dictation.Proofs.Rewrite.SentenceEnd
/-!
# The rules for operators on spoken operators

Each rule for operators is the rule of its place in the table of signs. The rule for the end of a
sentence is the one with a longer reach: it looks at the word behind the gap, which can only be the
start of the name of a low line, and leaves one blank before it.
-/
namespace Dictation

open Node Text

namespace Keyword

open Sign

/-- A keyword that fits the table is the rule of its place. -/
theorem steps {w : Keyword} {rank : Nat} (hw : w.Regular)
    (hfits : ∀ s ∈ spelled.1, fits w rank s = true)
    (hkeeps : rank < firstTaking → w.before = false ∧ w.after = false)
    (htakes : rank = low → w.before = true) {f : Match → Text} (hf : ∀ m, f m = w.sign) :
    Steps rank w.node f w.before w.after where
  consumes := hw.consumes
  skipsGaps := hw.skipsGaps
  keeps := hkeeps
  takes := htakes
  hit s hs hrank g h t hg hh ht hend _ b := by
    obtain ⟨_, hsolid, hlast, _⟩ := sound_parts hs
    have hfit := hfits s hs
    unfold fits at hfit
    rw [if_pos hrank] at hfit
    simp only [Bool.and_eq_true, decide_eq_true_eq] at hfit
    obtain ⟨⟨hwritten, _⟩, hleft⟩ := hfit
    split at hleft
    case h_1 ls hls =>
      obtain ⟨b', hreplace⟩ := replaceFrom_hit hw hsolid hlast hls hg hh ht hend hf b
      refine ⟨b', if w.after then [] else h, ?_, ?_, ?_, by rw [hwritten]; exact hreplace⟩
      · split
        · exact isGap_nil
        · exact hh
      · rintro rfl
        exact ite_self []
      · intro hside hne
        rw [hside]
        exact hne
    case h_2 => cases hleft
  skip s hs hrank ss t ht := by
    have hfit := hfits s hs
    unfold fits at hfit
    rw [if_neg hrank] at hfit
    exact deadIn_form hrank hfit ss ht
  stuck s hs hrank hlow t ht hend := by
    obtain ⟨_, hsolid, hlast, _⟩ := sound_parts hs
    have hfit := hfits s hs
    unfold fits at hfit
    rw [if_pos hrank] at hfit
    simp only [Bool.and_eq_true, decide_eq_true_eq] at hfit
    obtain ⟨⟨_, hstops⟩, hleft⟩ := hfit
    split at hleft
    case h_1 ls hls =>
      rw [decide_eq_false (Nat.not_le.mpr hlow), Bool.or_false, List.isEmpty_iff] at hleft
      rw [hleft] at hls
      exact deadIn_stuck hw hsolid hlast hls hstops ht hend
    case h_2 => cases hleft

end Keyword

namespace RuleTable

open Sign

def signRows : List (Pattern × Action) :=
  Keyword.early.map Keyword.row ++
    [(⟨sentenceEnd, [some "this".toList, some "next".toList]⟩, .function "cap_next" .capNext)] ++
    Keyword.late.map Keyword.row

theorem rows_eq : rows = wordRows ++ (signRows ++ frameRows) := by
  unfold rows signRows
  simp only [List.append_assoc]

/-- Whether the rows are the rules of the places from `rank` on. -/
def InPlace : Nat → List (Pattern × Action) → Prop
  | _, [] => True
  | rank, r :: rs =>
    (∃ before after, Steps rank r.1.node (r.2.apply r.1) before after) ∧ InPlace (rank + 1) rs

theorem InPlace.append {rank : Nat} {rs rs' : List (Pattern × Action)} (h : InPlace rank rs)
    (h' : InPlace (rank + rs.length) rs') : InPlace rank (rs ++ rs') := by
  induction rs generalizing rank with
  | nil => exact h'
  | cons r rs ih =>
    refine ⟨h.1, ih h.2 ?_⟩
    rw [Nat.add_right_comm]
    exact h'

theorem inPlace_keywords {ws : List Keyword} {rank : Nat} (hregular : ∀ w ∈ ws, w.Regular)
    (hfits : ∀ e ∈ ws.zipIdx rank, ∀ s ∈ spelled.1, fits e.1 e.2 s = true)
    (hkeeps : ∀ e ∈ ws.zipIdx rank, e.2 < firstTaking → e.1.before = false ∧ e.1.after = false)
    (htakes : ∀ e ∈ ws.zipIdx rank, e.2 = low → e.1.before = true) :
    InPlace rank (ws.map Keyword.row) := by
  induction ws generalizing rank with
  | nil => trivial
  | cons w ws ih =>
    rw [List.zipIdx_cons] at hfits hkeeps htakes
    refine ⟨⟨w.before, w.after, ?_⟩, ?_⟩
    · exact Keyword.steps (hregular w List.mem_cons_self) (hfits (w, rank) List.mem_cons_self)
        (hkeeps (w, rank) List.mem_cons_self) (htakes (w, rank) List.mem_cons_self)
        (fun m => Slot.expand_quoted _ m w.sign)
    · exact ih (fun w' hw' => hregular w' (List.mem_cons_of_mem w hw'))
        (fun e he => hfits e (List.mem_cons_of_mem _ he))
        (fun e he => hkeeps e (List.mem_cons_of_mem _ he))
        (fun e he => htakes e (List.mem_cons_of_mem _ he))

theorem signRows_inPlace : InPlace 0 signRows := by
  have hregular : ∀ w ∈ Keyword.early ++ Keyword.late, w.Regular :=
    fun w hw => .of_isRegular (Keyword.regular w hw)
  have hlate : InPlace 31 (Keyword.late.map Keyword.row) :=
    inPlace_keywords (fun w hw => hregular w (List.mem_append_right _ hw)) Keyword.late_fits
      (by decide) (by decide)
  refine InPlace.append (InPlace.append ?_ ?_) hlate
  · exact inPlace_keywords (fun w hw => hregular w (List.mem_append_left _ hw)) Keyword.early_fits
      (by decide) (by decide)
  · exact ⟨⟨true, false, sentenceEnd_steps⟩, trivial⟩

/-- Rules in place bring the layout to the place behind them. -/
theorem InPlace.rewrite_render {rank : Nat} {rs : List (Pattern × Action)} (hrs : InPlace rank rs)
    {g : Text} {ts : List (Sign × Text)} (hts : Placed rank g ts) :
    ∃ g' ts', ts'.map Prod.fst = ts.map Prod.fst ∧ Placed (rank + rs.length) g' ts' ∧
      rs.foldl (fun t r => rewrite r t) (render rank g ts) = render (rank + rs.length) g' ts' := by
  induction rs generalizing rank g ts with
  | nil => exact ⟨g, ts, rfl, hts, rfl⟩
  | cons r rs ih =>
    obtain ⟨⟨before, after, hstep⟩, hrest⟩ := hrs
    obtain ⟨ts', hsame, hplaced, hone⟩ := hstep.replaceFrom_render hts none
    obtain ⟨g'', ts'', hsame', hplaced', hmore⟩ := ih hrest hplaced
    have hlength : rank + (r :: rs).length = rank + 1 + rs.length := by
      rw [List.length_cons]
      omega
    refine ⟨g'', ts'', hsame'.trans hsame, ?_, ?_⟩
    · rw [hlength]
      exact hplaced'
    · rw [List.foldl_cons, rewrite_eq, hone, hmore, hlength]

end RuleTable

end Dictation
