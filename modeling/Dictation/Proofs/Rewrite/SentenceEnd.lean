import Dictation.Proofs.Rewrite.Stages
/-!
# The end of a sentence

The rule for the end of a sentence reaches further than the other rules for operators: it also takes
the word behind the gap and writes it again, capitalised, behind one blank. Among spoken operators that
word can only be the start of the name of a low line, which has no other capital form.
-/
namespace Dictation.RuleTable

open Node Text Sign

def sentenceSigns : CharSet := .folded (.unionAll [.one '.', .one '?', .one '!'])

def sentenceNames : Node :=
  alternatives [sequence (literal "period"), sequence (literal "question-mark"),
    sequence (literal "exclamation-point")]

def sentenceNext : Node := seq someBlanks (group 2 wordChars)

theorem sentenceEnd_eq :
    sentenceEnd = seq blanks (seq (group 1 (set sentenceSigns))
      (seq sentenceNames (seq bound (opt true sentenceNext)))) := rfl

theorem sentenceEnd_unmarked : sentenceEnd.unmarked = true := by decide

theorem sentenceEnd_consumes : sentenceEnd.consumes = true := rfl

theorem sentenceEnd_skipsGaps : sentenceEnd.skipsGaps = true := by decide

def sentenceAction : Match → Text :=
  ActionFunction.apply .capNext ⟨sentenceEnd, [some "this".toList, some "next".toList]⟩

theorem sentenceNext_dead {h t : Text} (hh : IsGap h) (hblank : ∀ a ∈ t.head?, Unicode.isBlank a = false)
    (ht : ∀ a ∈ t.head?, isWordChar a = false) : sentenceNext.Dead (h ++ t) := by
  rintro c d hc ⟨e, hblanks, hword⟩
  obtain ⟨x, _, hx, hall⟩ := hblanks.reads_plus_set
  obtain ⟨e', hlead, _⟩ := hword
  obtain ⟨y, hne, hy, hword⟩ := hlead.reads_plus_set
  obtain ⟨a, y, rfl⟩ := List.exists_cons_of_ne_nil hne
  have ha : isWordChar a = true := hword a List.mem_cons_self
  have heq := hx.rest_eq
  rw [hc, hy.rest_eq] at heq
  rcases List.append_eq_append_iff.mp heq with ⟨z, hxz, htz⟩ | ⟨z, hhz, htz⟩
  · cases z with
    | nil =>
      rw [ht a (by rw [htz]; rfl)] at ha
      cases ha
    | cons b z =>
      have hb : Unicode.isBlank b = true := hall b (by rw [hxz]; exact List.mem_append_right h List.mem_cons_self)
      rw [hblank b (by rw [htz]; rfl)] at hb
      cases hb
  · cases z with
    | nil =>
      rw [ht a (by rw [← List.nil_append t, ← htz]; rfl)] at ha
      cases ha
    | cons b z =>
      rw [List.cons_append, List.cons_append, List.cons.injEq] at htz
      rw [htz.1, isWordChar_of_mem_gapChars b
        (hh b (by rw [hhz]; exact List.mem_append_right x List.mem_cons_self))] at ha
      cases ha

/-- The end of a sentence reads the gap in front, its sign and its name. -/
theorem sentenceEnd_run {α : Type} {k : Cursor → Option α} {a : Char} {name g rest : Text}
    (ha : sentenceSigns.contains a = true) (hblank : Unicode.isBlank a = false)
    (hname : sentenceNames.leftovers name = some [[]]) (hg : IsGap g) {c : Cursor}
    (hc : c.rest = g ++ (a :: (name ++ rest))) (hp : c.passed = []) {r : α}
    (hend : Assertion.holds (.boundary .unicode) (lastOf c.before (g ++ a :: name)) rest = true)
    (hk : (opt true sentenceNext).run k
      ((c.past (g ++ a :: name) rest).holding ((1, [a]) :: c.groups)) = some r) :
    sentenceEnd.run k c = some r := by
  rw [sentenceEnd_eq, run_seq]
  refine run_star_set hg.isBlank (fun b hb => ?_) hc hp ?_
  · cases hb
    exact hblank
  · rw [run_seq, run_group, run_set, Cursor.consume?_past rfl, if_pos ha, Option.bind_some, run_seq]
    refine run_of_leftovers (t := name) (by rfl) hname rfl rfl ?_
    rw [Cursor.remember_past 1 rfl, Cursor.past_past, Cursor.holding_past, Cursor.past_past,
      List.append_assoc, List.singleton_append, run_seq]
    exact (if_pos hend).trans hk

section
variable {a : Char} {name g h t : Text} (ha : sentenceSigns.contains a = true)
  (hsolid : isSolid (a :: name) = true) (hlast : ∀ b ∈ (a :: name).getLast?, isWordChar b = true)
  (hname : sentenceNames.leftovers name = some [[]]) (hg : IsGap g) (hh : IsGap h)
include ha hsolid hlast hname hg hh

theorem matchAt?_sentenceEnd (hblank : ∀ a ∈ t.head?, Unicode.isBlank a = false)
    (ht : ∀ a ∈ t.head?, isWordChar a = false)
    (hend : ∀ a ∈ (h ++ t).head?, isWordChar a = false) (b : Option Char) :
    sentenceEnd.matchAt? b ((g ++ a :: name) ++ (h ++ t)) = some ⟨g ++ a :: name, [(1, [a])]⟩ := by
  refine matchAt?_of_run sentenceEnd_unmarked ?_
  refine sentenceEnd_run ha (isBlank_of_isSolid hsolid List.mem_cons_self) hname hg
    (List.append_assoc g (a :: name) (h ++ t)) rfl (Keyword.boundary_holds hsolid hlast hend b) ?_
  rw [run_opt_greedy, run_eq_none (by rfl) fun d => sentenceNext_dead hh hblank ht _ d rfl]
  rfl

theorem matchAt?_sentenceEnd_next {x : Text} (hne : h ≠ []) (hx : x ≠ [])
    (hword : ∀ a ∈ x, isWordChar a = true) (hblank : ∀ a ∈ x, Unicode.isBlank a = false)
    (ht : ∀ a ∈ t.head?, isWordChar a = false) (b : Option Char) :
    sentenceEnd.matchAt? b (((g ++ a :: name) ++ (h ++ x)) ++ t) =
      some ⟨(g ++ a :: name) ++ (h ++ x), [(2, x), (1, [a])]⟩ := by
  have htext : ((g ++ a :: name) ++ (h ++ x)) ++ t = g ++ (a :: (name ++ (h ++ (x ++ t)))) := by
    simp only [List.append_assoc, List.cons_append]
  refine matchAt?_of_run sentenceEnd_unmarked ?_
  refine sentenceEnd_run ha (isBlank_of_isSolid hsolid List.mem_cons_self) hname hg
    htext rfl (Keyword.boundary_holds hsolid hlast (fun c hc => ?_) b) ?_
  · obtain ⟨c', h', rfl⟩ := List.exists_cons_of_ne_nil hne
    cases hc
    exact isWordChar_of_mem_gapChars c (hh c List.mem_cons_self)
  · refine (run_opt_greedy _ _ _).trans (Option.or_eq_some_iff.mpr (Or.inl ?_))
    refine run_plus_set (s := .space) hne hh.isBlank (fun c hc => ?_) rfl
      (run_plus_set (s := .word) hx hword ht rfl ?_)
    · obtain ⟨c', x', rfl⟩ := List.exists_cons_of_ne_nil hx
      cases hc
      exact hblank c List.mem_cons_self
    · rw [Cursor.remember_past 2 rfl, Cursor.holding_past, Cursor.past_past, Cursor.holding_past,
        Cursor.past_past, List.append_assoc (g ++ a :: name) h x]
      rfl

end

/-- Whether the rule passes over a sign, or the sign is one of its own. -/
def sentenceEndFits (s : Sign) : Bool :=
  if s.rank = 30 then
    match s.spoken with
    | [] => false
    | a :: name => decide (s.written = [a]) && sentenceSigns.contains a &&
        decide (sentenceNames.leftovers name = some [[]])
  else isSkipped sentenceEnd.core 30 s

theorem sentenceEnd_fits : ∀ s ∈ spelled.1, sentenceEndFits s = true := by
  decide +kernel

/-- Read as a word, the start of the name of a low line is left as it is. -/
theorem sentenceAction_next (x : Text) (a : Char) :
    sentenceAction ⟨x, [(2, "_under".toList), (1, [a])]⟩ = a :: " _under".toList := by
  have htitle : Text.title "_under".toList = "_under".toList := by decide
  change [a] ++ ' ' :: Text.title "_under".toList = _
  rw [htitle]
  rfl

theorem deadIn_under (t : Text) :
    sentenceEnd.core.DeadIn "_under".toList ("-score".toList ++ t) := by
  have hstops : sentenceEnd.core.stopsIn ['-'] "_under".toList = true := by decide
  refine deadIn_of_stopsIn hstops fun a ha => ?_
  cases ha
  exact List.mem_singleton_self '-'

theorem sentenceEnd_steps : Steps 30 sentenceEnd sentenceAction true false where
  consumes := sentenceEnd_consumes
  skipsGaps := sentenceEnd_skipsGaps
  keeps := fun hlt => absurd hlt (by decide)
  takes := fun _ => rfl
  hit s hs hrank g h t hg hh hblank hend hfollows b := by
    obtain ⟨_, hsolid, hlast, _⟩ := sound_parts hs
    have hfit := sentenceEnd_fits s hs
    unfold sentenceEndFits at hfit
    rw [if_pos hrank] at hfit
    split at hfit
    case h_1 => cases hfit
    case h_2 a name hspoken =>
      simp only [Bool.and_eq_true, decide_eq_true_eq] at hfit
      obtain ⟨⟨hwritten, ha⟩, hname⟩ := hfit
      rw [hspoken] at hsolid hlast
      rw [hspoken, hwritten, if_pos rfl]
      simp only [List.nil_append]
      rw [← List.append_assoc g]
      rcases hfollows with ht | ⟨hne, t', rfl⟩
      · have hmatch := matchAt?_sentenceEnd ha hsolid hlast hname hg hh hblank ht hend b
        exact ⟨_, h, hh, id, fun _ => id, replaceFrom_found sentenceEnd_consumes _ hmatch rfl⟩
      · -- The word behind the gap is the start of the name of a low line.
        have hsplit : "_under-score".toList ++ t' = "_under".toList ++ ("-score".toList ++ t') := by
          rw [← List.append_assoc]
          rfl
        have hspace : IsGap [' '] := fun c hc => List.mem_singleton.mp hc ▸ List.mem_cons_self
        have hunder : isSolid "_under".toList = true := by decide
        have hmatch := matchAt?_sentenceEnd_next (x := "_under".toList) (t := "-score".toList ++ t')
          ha hsolid hlast hname hg hh hne (by decide)
          (List.all_eq_true.mp (by decide)) (fun c => isBlank_of_isSolid hunder)
          (fun c hc => by cases hc; decide) b
        have hfound := replaceFrom_found sentenceEnd_consumes sentenceAction hmatch rfl
        have hmisses := replaceFrom_misses sentenceEnd_consumes sentenceAction
          ((deadIn_word sentenceEnd_skipsGaps hspace hunder (deadIn_under t')).misses b)
        refine ⟨b, [' '], hspace, fun hnil => absurd hnil hne, fun _ _ => List.cons_ne_nil _ _, ?_⟩
        -- Both scans go on behind the same character.
        have hbehind : lastOf b ((g ++ a :: name) ++ (h ++ "_under".toList)) = some 'r' := by
          rw [lastOf_append, lastOf_append]
          rfl
        have hbehind' : lastOf b ([' '] ++ "_under".toList) = some 'r' := by
          rw [lastOf_append]
          rfl
        rw [sentenceAction_next, hbehind] at hfound
        rw [hbehind'] at hmisses
        rw [hsplit, ← List.append_assoc h, ← List.append_assoc _ (h ++ _), hfound,
          ← List.append_assoc [' '], hmisses]
        rfl
  skip s hs hrank ss t ht := by
    have hfit := sentenceEnd_fits s hs
    unfold sentenceEndFits at hfit
    rw [if_neg hrank] at hfit
    exact deadIn_form hrank hfit ss ht
  stuck s hs hrank hlow := absurd hlow (by decide)

end Dictation.RuleTable
