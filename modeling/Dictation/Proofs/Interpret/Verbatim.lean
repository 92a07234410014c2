import Dictation.Proofs.Interpret.Uncommanded
import Dictation.Proofs.Rewrite.IdleRules
import Dictation.Proofs.Unicode.Folding
import Mathlib.Data.List.Infix
/-!
# Verbatim content

What is dictated verbatim is passed on as it is, up to the closing phrase or else up to the end. The trigger
as a whole has to end at the end of a word, though. Behind the closing phrase it does, but without that phrase
the content itself has to end with a character of a word.
-/
namespace Dictation

open Node Text

/-- No end of a phrase but the whole of it begins a text. -/
def OpensApart (p t : Text) : Prop := ∀ x ∈ p.tail.tails, x = [] ∨ ¬ x <+: t

instance (p t : Text) : Decidable (OpensApart p t) :=
  inferInstanceAs (Decidable (∀ x ∈ p.tail.tails, x = [] ∨ ¬ x <+: t))

variable {p w a b : Text}

theorem prefix_of_opensApart (h : OpensApart p b) (hw : w ≠ []) (hp : p <+: w ++ b) : p <+: w := by
  obtain ⟨rest, hrest⟩ := hp
  rcases List.append_eq_append_iff.mp hrest with ⟨x, hwp, _⟩ | ⟨x, hpw, hb⟩
  · exact ⟨x, hwp.symm⟩
  · have hend : x ∈ p.tail.tails := by
      rw [List.mem_tails, hpw, List.tail_append_of_ne_nil hw]
      exact List.suffix_append _ x
    rcases h x hend with rfl | hnot
    · rw [List.append_nil] at hpw
      exact ⟨[], by rw [hpw, List.append_nil]⟩
    · exact absurd ⟨rest, hb.symm⟩ hnot

theorem infix_of_opensApart (h : OpensApart p b) (hp : p <:+: a ++ b) : p <:+: a ∨ p <:+: b := by
  rcases List.infix_append_iff.mp hp with ha | hb | ⟨x, y, rfl, hx, hy⟩
  · exact .inl ha
  · exact .inr hb
  · by_cases hnil : x = []
    · subst hnil
      exact .inr hy.isInfix
    · have hfront := prefix_of_opensApart h hnil ((List.prefix_append_right_inj x).mpr hy)
      exact .inl (hfront.isInfix.trans hx.isInfix)

theorem exists_behind_blanks {t g u v : Text} (ht : t ≠ []) (hlast : ∀ c ∈ t.getLast?, Unicode.isBlank c = false)
    (hg : ∀ c ∈ g, Unicode.isBlank c = true) (h : t ++ u = g ++ v) :
    ∃ w, w ≠ [] ∧ t = g ++ w ∧ v = w ++ u := by
  have hnot : ∀ x, g ≠ t ++ x := by
    rintro x rfl
    have hend := List.getLast?_eq_some_getLast ht
    have hblank := hg _ (List.mem_append_left x (List.getLast_mem ht))
    rw [hlast _ hend] at hblank
    cases hblank
  rcases List.append_eq_append_iff.mp h with ⟨x, hgx, _⟩ | ⟨w, htw, hv⟩
  · exact absurd hgx (hnot x)
  · refine ⟨w, ?_, htw, hv⟩
    rintro rfl
    exact hnot [] (by rw [htw, List.append_nil, List.append_nil])

namespace Node

theorem reads_literal {s : String} (hs : ∀ a ∈ s.toList, a ∈ ' ' :: smallLetters ∧ a ≠ 'k' ∧ a ≠ 's')
    {c d : Cursor} (h : (sequence (literal s)).Leads c d) :
    ∃ x, c.Reads x d ∧ x.map Char.toLower = s.toList := by
  unfold literal at h
  generalize s.toList = t at hs h ⊢
  induction t generalizing c with
  | nil =>
    cases h
    exact ⟨[], .refl d, rfl⟩
  | cons a t ih =>
    rw [List.map_cons, leads_sequence_cons] at h
    obtain ⟨e, hfirst, hrest⟩ := h
    obtain ⟨ha, hk, hs'⟩ := hs a List.mem_cons_self
    obtain ⟨b, hb, hreads⟩ := Cursor.reads_consume? hfirst
    obtain ⟨x, hx, hlower⟩ := ih (fun b hb => hs b (List.mem_cons_of_mem a hb)) hrest
    refine ⟨[b] ++ x, hreads.trans hx, ?_⟩
    rw [List.singleton_append, List.map_cons, hlower, toLower_of_counterpart ha hk hs' hb]

end Node

namespace CommandTable

def contentChars : CharSet := .compl (.one '\n')

def closing : Node := alt (sequence (someBlanks :: literal "verbatim off")) (assertion .textEnd)

def verbatimParts : List Node := [someBlanks, group 1 (star none false (set contentChars)), closing]

def verbatimNode : Node := sequence [bound, sequence (literal "verbatim" ++ verbatimParts), bound]

def correctNode : Node := sequence [bound, sequence (literal "correct that"), bound]

def correctRule : CommandRule := ⟨none, ⟨correctNode, []⟩, "correct-that".toList⟩

def verbatimRule : CommandRule := ⟨none, ⟨verbatimNode, [some "content".toList]⟩, "verbatim-content".toList⟩

theorem shipped_rules : shipped.rules = [correctRule, verbatimRule] := by
  decide +kernel

/-- What can be dictated verbatim: one line that does not hold the phrases of commands. -/
structure IsVerbatim (content : Text) : Prop where
  trimmed : content.IsTrimmed
  line : '\n' ∉ content
  unclosed : ¬ "verbatim off".toList <:+: content.map Char.toLower
  uncorrected : ¬ "correct that".toList <:+: content.map Char.toLower

instance (content : Text) : Decidable (IsVerbatim content) :=
  decidable_of_iff
    ((content ≠ [] ∧ (∀ a ∈ content.head?, Unicode.isBlank a = false) ∧
        ∀ a ∈ content.getLast?, Unicode.isBlank a = false) ∧ '\n' ∉ content ∧
      ¬ "verbatim off".toList <:+: content.map Char.toLower ∧
      ¬ "correct that".toList <:+: content.map Char.toLower)
    ⟨fun ⟨⟨hne, hhead, hlast⟩, hline, hoff, hthat⟩ => ⟨⟨hne, hhead, hlast⟩, hline, hoff, hthat⟩,
      fun h => ⟨⟨h.trimmed.ne_nil, h.trimmed.head, h.trimmed.last⟩, h.line, h.unclosed, h.uncorrected⟩⟩

def verbatimCommand (content : Text) : Command :=
  ⟨"verbatim-content".toList, [], [("content".toList, content)]⟩

/-- What stands behind the content: the closing phrase or nothing. -/
inductive IsClosing : Text → Prop where
  | phrase : IsClosing " verbatim off".toList
  | none : IsClosing []

variable {content tail : Text}

theorem IsClosing.apart (h : IsClosing tail) : OpensApart "verbatim off".toList (tail.map Char.toLower) ∧
    OpensApart "correct that".toList (tail.map Char.toLower) ∧
    ¬ "correct that".toList <:+: tail.map Char.toLower := by
  cases h <;> decide +kernel

theorem closing_captures (h : IsClosing tail) (b : Option Char) : closing.Captures b tail [] [] := by
  cases h with
  | phrase =>
    have hphrase : (sequence (someBlanks :: literal "verbatim off")).Takes " verbatim off".toList [] :=
      Takes.seq (x := [' ']) (takes_space (by decide)) (Takes.of_leftovers (by decide) (by decide) _)
    exact .left (.of_takes hphrase b)
  | none =>
    have hdead : (sequence (someBlanks :: literal "verbatim off")).Dead ([] ++ []) := dead_nil (by decide)
    exact .right (by decide) hdead (.assertion rfl)

section
variable (h : IsVerbatim content) (htail : IsClosing tail)
include h htail

theorem correct_misses : correctNode.Misses none ("verbatim ".toList ++ content ++ tail) [] := by
  obtain ⟨_, hopens, hbehind⟩ := htail.apart
  have hfree : ¬ "correct that".toList <:+: ("verbatim ".toList ++ content ++ tail).map Char.toLower := by
    rw [List.map_append, List.map_append]
    intro hin
    rcases infix_of_opensApart hopens hin with hin | hin
    · rcases List.infix_append_iff.mp hin with hin | hin | ⟨x, y, hxy, hx, hy⟩
      · exact absurd hin (by decide +kernel)
      · exact h.uncorrected hin
      · -- The word in front ends with no part of the other phrase.
        have hnone : ∀ x ∈ "correct that".toList.inits,
            x = [] ∨ ¬ x <:+ "verbatim ".toList.map Char.toLower := by
          decide +kernel
        rcases hnone x ((List.mem_inits _ _).mpr ⟨y, hxy.symm⟩) with rfl | hnot
        · exact h.uncorrected (hxy ▸ hy.isInfix)
        · exact hnot hx
    · exact hbehind hin
  apply DeadIn.misses
  intro y a z hyz c d hc hd
  obtain ⟨_, ⟨_, rfl⟩, hword⟩ := leads_sequence_cons.mp hd
  obtain ⟨e, hphrase, _⟩ := leads_sequence_cons.mp hword
  obtain ⟨x, hx, hlower⟩ := reads_literal (by decide +kernel) hphrase
  refine hfree ⟨y.map Char.toLower, e.rest.map Char.toLower, ?_⟩
  have hrest : a :: z = x ++ e.rest := by
    rw [← hx.rest_eq, hc, List.append_nil]
  rw [hyz, hrest, List.map_append, List.map_append, hlower, List.append_assoc]

/-- Inside the content nothing can close it. -/
theorem closing_dead : closing.DeadIn content tail := by
  intro y a z hyz c d hc hd
  rcases hd with hd | ⟨hholds, _⟩
  · obtain ⟨e, hblanks, hphrase⟩ := leads_sequence_cons.mp hd
    obtain ⟨g, _, hg, hall⟩ := hblanks.reads_plus_set
    obtain ⟨x, hx, hlower⟩ := reads_literal (by decide +kernel) hphrase
    have htext : (a :: z) ++ tail = g ++ (x ++ d.rest) := by
      rw [← hx.rest_eq, ← hg.rest_eq, hc]
      rfl
    have hlast : ∀ b ∈ (a :: z).getLast?, Unicode.isBlank b = false := by
      intro b hb
      refine h.trimmed.last b ?_
      rw [hyz, List.getLast?_append, Option.mem_def.mp hb]
      rfl
    -- The content does not end with blanks, so that the phrase begins inside it.
    obtain ⟨w, hw, hzw, hrest⟩ := exists_behind_blanks (List.cons_ne_nil a z) hlast hall htext
    have hbegins : "verbatim off".toList <+: w.map Char.toLower ++ tail.map Char.toLower :=
      ⟨d.rest.map Char.toLower, by rw [← hlower, ← List.map_append, hrest, List.map_append]⟩
    have hinside := prefix_of_opensApart htail.apart.1 (by simpa using hw) hbegins
    refine h.unclosed (hinside.isInfix.trans ⟨(y ++ g).map Char.toLower, [], ?_⟩)
    rw [hyz, hzw, List.append_nil, ← List.map_append, List.append_assoc]
  · rw [hc] at hholds
    cases hholds

/-- The trigger takes the whole utterance if a word ends there. -/
theorem matchAt?_verbatim
    (hend : Assertion.holds (.boundary .unicode) (lastOf content.getLast? tail) [] = true) :
    verbatimNode.matchAt? none ("verbatim ".toList ++ content ++ tail) =
      some ⟨"verbatim ".toList ++ content ++ tail, [(1, content)]⟩ := by
  have hline : ∀ a ∈ content, contentChars.contains a = true := by
    intro a ha
    have hnot : ¬ (CharSet.one '\n').contains a = true := fun hone =>
      h.line (CharSet.contains_one.mp hone ▸ ha)
    simpa [contentChars, CharSet.contains] using hnot
  have hdead : (sequence [closing]).DeadIn content (tail ++ []) := by
    rw [List.append_nil]
    exact closing_dead h htail
  have hgroup : (sequence [group 1 (star none false (set contentChars)), closing]).Captures (some ' ')
      (content ++ tail) [(1, content)] [] :=
    .leastAny hline (by decide) hdead (closing_captures htail _) 1
  have hblank : ∀ a ∈ (content ++ tail ++ []).head?, Unicode.isBlank a = false := by
    intro a ha
    refine h.trimmed.head a ?_
    obtain ⟨b, x, rfl⟩ := List.exists_cons_of_ne_nil h.trimmed.ne_nil
    exact ha
  have hparts : (sequence verbatimParts).Captures (some 'm') ([' '] ++ (content ++ tail)) [(1, content)] [] :=
    .sequence_cons (.of_takes (takes_space hblank) _) hgroup
  have hword : (sequence (literal "verbatim")).Captures none "verbatim".toList []
      ([' '] ++ (content ++ tail) ++ []) :=
    .of_takes (Takes.of_leftovers (by decide) (by decide) _) none
  have hinner : (sequence (literal "verbatim" ++ verbatimParts)).Captures none
      ("verbatim".toList ++ ([' '] ++ (content ++ tail))) [(1, content)] [] :=
    .sequence_append hword hparts
  have hlast : ∀ b, lastOf b content = content.getLast? := by
    intro b
    rw [lastOf, List.getLast?_eq_some_getLast h.trimmed.ne_nil, Option.some_or]
  have hbehind : (sequence [bound]).Captures
      (lastOf none ("verbatim".toList ++ ([' '] ++ (content ++ tail)))) [] [] [] := by
    rw [lastOf_append, lastOf_append, lastOf_append, hlast]
    exact .assertion hend
  have hbody : (sequence [sequence (literal "verbatim" ++ verbatimParts), bound]).Captures none
      ("verbatim".toList ++ ([' '] ++ (content ++ tail)) ++ []) [(1, content)] [] :=
    .sequence_cons hinner hbehind
  have hstart : Assertion.holds (.boundary .unicode) none
      ("verbatim".toList ++ ([' '] ++ (content ++ tail)) ++ [] ++ []) = true :=
    boundary_before (by simp) ⟨'v', rfl, by decide⟩
  have hall : verbatimNode.Captures none
      ([] ++ ("verbatim".toList ++ ([' '] ++ (content ++ tail)) ++ [])) [(1, content)] [] :=
    .sequence_cons (.assertion hstart) hbody
  have hmatch := hall.matchAt? (by decide)
  simpa using hmatch

end

/-- Without the closing phrase, the trigger finds nothing if no word ends where the content does. -/
theorem verbatim_misses (h : IsVerbatim content) (hlast : ∀ a ∈ content.getLast?, isWordChar a = false) :
    verbatimNode.Misses none ("verbatim ".toList ++ content) [] := by
  intro y a z hyz
  apply matchAt?_eq_none
  rw [List.append_nil]
  intro d hd
  obtain ⟨_, ⟨_, rfl⟩, hparts⟩ := leads_sequence_cons.mp hd
  obtain ⟨e, hinner, hend⟩ := leads_sequence_cons.mp hparts
  obtain ⟨f, hword, hbehind⟩ := leads_sequence_append.mp hinner
  obtain ⟨g, hblanks, hrest⟩ := leads_sequence_cons.mp hbehind
  obtain ⟨p, hgroup, hclosing⟩ := leads_sequence_cons.mp hrest
  obtain ⟨x, hx, hlower⟩ := reads_literal (by decide +kernel) hword
  obtain ⟨b, hbne, hb, _⟩ := hblanks.reads_plus_set
  obtain ⟨u, hu, _⟩ := hgroup.reads
  have htext : a :: z = x ++ (b ++ (u ++ p.rest)) := by
    rw [← hu.rest_eq, ← hb.rest_eq, ← hx.rest_eq]
    rfl
  rcases hclosing with hphrase | ⟨hholds, rfl⟩
  · -- The phrase stands behind the word and a blank, so that it is part of the content.
    obtain ⟨q, hmore, hletters⟩ := leads_sequence_cons.mp hphrase
    obtain ⟨v, _, hv, _⟩ := hmore.reads_plus_set
    obtain ⟨w, hw, hwlower⟩ := reads_literal (by decide +kernel) hletters
    rw [hv.rest_eq, hw.rest_eq] at htext
    have hxlen : x.length = 8 := by
      have hlen := congrArg List.length hlower
      rwa [List.length_map] at hlen
    have hbpos := List.length_pos_iff.mpr hbne
    have hwhole : y ++ x ++ b ++ (u ++ (v ++ (w ++ e.rest))) = "verbatim ".toList ++ content := by
      rw [hyz, htext]
      simp
    obtain ⟨r, hr⟩ : "verbatim ".toList <+: y ++ x ++ b := by
      refine List.prefix_of_prefix_length_le ⟨content, hwhole.symm⟩ (List.prefix_append _ _) ?_
      rw [List.length_append, List.length_append]
      exact (show 9 ≤ y.length + x.length + b.length by omega)
    rw [← hr, List.append_assoc] at hwhole
    have hcontent := List.append_cancel_left hwhole
    refine h.unclosed ⟨(r ++ u ++ v).map Char.toLower, e.rest.map Char.toLower, ?_⟩
    rw [← hcontent, ← hwlower]
    simp
  · -- At the end of the utterance no word ends.
    have hnil : e.rest = [] := by
      simpa [Assertion.holds] using hholds
    have hbefore : e.before = content.getLast? := by
      have hreads := (hx.trans hb).trans hu
      have hwhole := hreads.rest_eq
      rw [hnil, List.append_nil] at hwhole
      have hlasts : (y ++ a :: z).getLast? = content.getLast? := by
        rw [← hyz, List.getLast?_append, List.getLast?_eq_some_getLast h.trimmed.ne_nil, Option.some_or]
      rw [hreads.before_eq, ← hwhole, ← hlasts, List.getLast?_append]
      rfl
    obtain ⟨hboundary, _⟩ := hend
    rw [hnil, hbefore] at hboundary
    rw [List.getLast?_eq_some_getLast h.trimmed.ne_nil] at hboundary hlast
    simp [Assertion.holds, WordRule.holds, hlast] at hboundary

theorem verbatimRule_consumes : verbatimRule.trigger.node.consumes = true := by
  decide

theorem extract_eq {t : Text} (h : correctRule.split t = [.literal t]) (context : Text) :
    shipped.extract t context = verbatimRule.split t := by
  have happly : ∀ r ∈ shipped.rules, r.appliesTo context = true := by
    rw [shipped_rules]
    simp [CommandRule.appliesTo, correctRule, verbatimRule]
  rw [extract, List.filter_eq_self.mpr happly, shipped_rules, List.foldl_cons, List.foldl_cons, List.foldl_nil,
    List.flatMap_singleton, CommandRule.splitFragment, h, List.flatMap_singleton]
  rfl

theorem split_of_match {r : CommandRule} (hn : r.trigger.node.consumes = true) {m : Match}
    (h : r.trigger.node.matchAt? none m.text = some m) : r.split m.text = [.command (r.command m)] := by
  rw [← List.append_nil m.text] at h
  have hscan := scanFrom_found hn h
  rw [scanFrom_nil hn, List.append_nil] at hscan
  rw [CommandRule.split, scan, hscan]
  rfl

theorem correctRule_split (h : IsVerbatim content) (htail : IsClosing tail) :
    correctRule.split ("verbatim ".toList ++ content ++ tail) =
      [.literal ("verbatim ".toList ++ content ++ tail)] := by
  have hconsumes : correctRule.trigger.node.consumes = true := by decide
  have hne : "verbatim ".toList ++ content ++ tail ≠ [] := by simp
  exact correctRule.split_of_misses hconsumes hne (correct_misses h htail)

theorem command_verbatim (t content : Text) :
    verbatimRule.command ⟨t, [(1, content)]⟩ = verbatimCommand content := by
  have hvalues : CommandRule.groupValues ⟨t, [(1, content)]⟩ 1 verbatimRule.trigger.groups =
      ([], [("content".toList, content)]) := rfl
  rw [CommandRule.command, hvalues]
  exact congrArg (Command.mk _ _) (List.mergeSort_singleton _)

theorem extract_verbatim (h : IsVerbatim content) (htail : IsClosing tail)
    (hend : Assertion.holds (.boundary .unicode) (lastOf content.getLast? tail) [] = true) (context : Text) :
    shipped.extract ("verbatim ".toList ++ content ++ tail) context = [.command (verbatimCommand content)] := by
  have hsplit := split_of_match (m := ⟨"verbatim ".toList ++ content ++ tail, [(1, content)]⟩)
    verbatimRule_consumes (matchAt?_verbatim h htail hend)
  rw [command_verbatim] at hsplit
  rw [extract_eq (correctRule_split h htail)]
  exact hsplit

theorem extract_unended (h : IsVerbatim content) (hlast : ∀ a ∈ content.getLast?, isWordChar a = false)
    (context : Text) : shipped.extract ("verbatim ".toList ++ content) context =
      [.literal ("verbatim ".toList ++ content)] := by
  have hne : "verbatim ".toList ++ content ≠ [] := by simp
  have hcorrect := correctRule_split h .none
  rw [List.append_nil] at hcorrect
  rw [extract_eq hcorrect]
  exact verbatimRule.split_of_misses verbatimRule_consumes hne (verbatim_misses h hlast)

end CommandTable

namespace Interpreter

open CommandTable

variable {content : Text}

theorem interpretText_of_command {rules : RuleTable} {commands : CommandTable} {t : Text} {c : Command}
    (h : commands.extract t rootContext = [.command c]) :
    (new rules commands).interpretText t = [.command c] := by
  unfold interpretText
  simp only [new, currentContext, List.headD_nil, h, List.filterMap_cons, interpretFragment?, List.filterMap_nil]

theorem interpretText_unended (h : IsVerbatim content) (hlast : ∀ a ∈ content.getLast?, isWordChar a = false) :
    (new .shipped .shipped).interpretText ("verbatim ".toList ++ content) =
      [.text ((RuleTable.shipped.apply ("verbatim ".toList ++ content)).trimOf ' ')] := by
  have htrimmed : IsTrimmed ("verbatim ".toList ++ content) := by
    refine ⟨by simp, ?_, ?_⟩
    · intro a ha
      cases ha
      decide
    · intro a ha
      apply h.trimmed.last a
      rwa [List.getLast?_append, List.getLast?_eq_some_getLast h.trimmed.ne_nil, Option.some_or,
        ← List.getLast?_eq_some_getLast] at ha
  have htext := interpretText_of_literal .shipped (extract_unended h hlast rootContext)
  rwa [htrimmed.trim] at htext

/-- Verbatim content is passed on as it is if the closing phrase follows, and at the end of an utterance just
if it ends with a character of a word. -/
theorem interpretText_verbatim (h : IsVerbatim content) :
    (new .shipped .shipped).interpretText ("verbatim ".toList ++ content ++ " verbatim off".toList) =
        [.command (verbatimCommand content)] ∧
      ((new .shipped .shipped).interpretText ("verbatim ".toList ++ content) =
        [.command (verbatimCommand content)] ↔ ∃ a ∈ content.getLast?, isWordChar a = true) ∧
      ((∀ a ∈ content.getLast?, isWordChar a = false) →
        (new .shipped .shipped).interpretText ("verbatim ".toList ++ content) =
          [.text ((RuleTable.shipped.apply ("verbatim ".toList ++ content)).trimOf ' ')]) := by
  have hclosed : Assertion.holds (.boundary .unicode) (lastOf content.getLast? " verbatim off".toList) [] = true :=
    boundary_behind ⟨'f', rfl, by decide⟩ (by simp)
  refine ⟨interpretText_of_command (extract_verbatim h .phrase hclosed rootContext), ?_, ?_⟩
  · constructor
    · intro hcommand
      by_contra hnone
      have hlast : ∀ a ∈ content.getLast?, isWordChar a = false := by
        intro a ha
        by_contra hword
        exact hnone ⟨a, ha, by simpa using hword⟩
      rw [interpretText_unended h hlast] at hcommand
      simp at hcommand
    · intro hlast
      have hend := boundary_behind (b := content.getLast?) hlast (t := []) (by simp)
      have hextract := extract_verbatim h .none hend rootContext
      rw [List.append_nil] at hextract
      exact interpretText_of_command hextract
  · intro hlast
    exact interpretText_unended h hlast

/-- Content with an operator in it that ends with a word. -/
theorem interpretText_verbatim_three_plus_four :
    IsVerbatim "three + four".toList ∧
      (new .shipped .shipped).interpretText "verbatim three + four verbatim off".toList =
        [.command (verbatimCommand "three + four".toList)] ∧
      (new .shipped .shipped).interpretText "verbatim three + four".toList =
        [.command (verbatimCommand "three + four".toList)] := by
  have hcontent : IsVerbatim "three + four".toList := by decide +kernel
  obtain ⟨hclosed, hopen, _⟩ := interpretText_verbatim hcontent
  exact ⟨hcontent, hclosed, hopen.mpr ⟨'r', rfl, by decide⟩⟩

/-- A full stop at the end of the content is not a character of a word. -/
theorem interpretText_verbatim_stop :
    IsVerbatim "stop.".toList ∧
      (new .shipped .shipped).interpretText "verbatim stop.".toList ≠
        [.command (verbatimCommand "stop.".toList)] := by
  have hcontent : IsVerbatim "stop.".toList := by decide +kernel
  have hlast : ∀ a ∈ "stop.".toList.getLast?, isWordChar a = false := by decide
  have htext := interpretText_unended hcontent hlast
  rw [show "verbatim stop.".toList = "verbatim ".toList ++ "stop.".toList by decide, htext]
  exact ⟨hcontent, by simp⟩

end Interpreter

end Dictation
