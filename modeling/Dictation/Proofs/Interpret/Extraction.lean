import Dictation.Interpret.Command
import Dictation.Proofs.Pattern.Scanning
import Dictation.Proofs.Text.Order
import Mathlib.Data.List.Basic
import Mathlib.Data.List.Induction
/-!
# Slices of an utterance

Every fragment stands for a slice of the utterance, and the slices make up the utterance in order. A rule
divides the slices that are still text and keeps the others, so a command stays where it was found, as a
match inside the text that the rules before it had left.
-/
namespace Dictation

open Text

namespace Node

variable {n : Node}

/-- Parts that follow one another in a text behind `before`, each match where the pattern finds it. -/
inductive Scans (n : Node) : Option Char → Text → List Part → Prop
  | nil (before : Option Char) : Scans n before [] []
  | kept {before : Option Char} {c : Char} {t : Text} {parts : List Part}
      (h : Scans n (some c) t parts) : Scans n before (c :: t) (.kept c :: parts)
  | found {before : Option Char} {m : Match} {t : Text} {parts : List Part}
      (hm : n.matchAt? before (m.text ++ t) = some m) (h : Scans n (lastOf before m.text) t parts) :
      Scans n before (m.text ++ t) (.found m :: parts)

theorem exists_matchAt?_of_fresh? {behind : Bool} {before : Option Char} {t : Text} {m : Match}
    (h : n.fresh? behind before t = some m) :
    ∃ rest, t = m.text ++ rest ∧ n.matchAt? before (m.text ++ rest) = some m := by
  have hmatch : n.matchAt? before t = some m := (Option.filter_eq_some_iff.mp h).1
  obtain ⟨d, _, hreads, _⟩ := leads_of_matchAt? hmatch
  have ht : t = m.text ++ d.rest := hreads.rest_eq
  exact ⟨d.rest, ht, ht ▸ hmatch⟩

/-- Behind the characters that belong to a match already, the scan goes through the rest of the text. -/
theorem scans_scanFrom (t : Text) (skip : Nat) (behind : Bool) (before : Option Char)
    (h : skip ≤ t.length) :
    n.Scans (lastOf before (t.take skip)) (t.drop skip) (n.scanFrom skip behind before t) := by
  induction t generalizing skip behind before with
  | nil =>
    obtain rfl : skip = 0 := Nat.le_zero.mp h
    unfold scanFrom
    cases hfresh : n.fresh? behind before [] with
    | none => exact .nil before
    | some m =>
      obtain ⟨rest, hnil, hm⟩ := exists_matchAt?_of_fresh? hfresh
      obtain ⟨htext, rfl⟩ := List.append_eq_nil_iff.mp hnil.symm
      have hscans := Scans.found hm (.nil _)
      rwa [htext] at hscans
  | cons c t ih =>
    cases skip with
    | succ skip =>
      have hrest := ih skip true (some c) (Nat.le_of_succ_le_succ h)
      rw [List.take_succ_cons, List.drop_succ_cons, lastOf_cons]
      exact hrest
    | zero =>
      have hnext := ih 0 false (some c) (Nat.zero_le _)
      unfold scanFrom
      cases hfresh : n.fresh? behind before (c :: t) with
      | none => exact .kept hnext
      | some m =>
        obtain ⟨rest, ht, hm⟩ := exists_matchAt?_of_fresh? hfresh
        cases htext : m.text with
        | nil =>
          -- An empty match: the character behind it is kept.
          rw [htext, List.nil_append] at ht
          rw [← ht] at hm
          have hscans := Scans.found hm (Scans.kept hnext)
          simpa [htext] using hscans
        | cons d x =>
          rw [htext, List.cons_append, List.cons.injEq] at ht
          obtain ⟨rfl, rfl⟩ := ht
          have hrest := ih x.length true (some c) (by simp)
          rw [List.take_left, List.drop_left, ← lastOf_cons before, ← htext] at hrest
          have hscans := Scans.found hm hrest
          simpa [htext] using hscans

theorem scans_scan (n : Node) (t : Text) : n.Scans none t (n.scan t) :=
  scans_scanFrom t 0 false none (Nat.zero_le _)

end Node

/-- A fragment with the slice of the utterance that it stands for. -/
structure Excerpt where
  fragment : Fragment
  text : Text
  deriving DecidableEq, Repr

namespace Excerpt

/-- The text of which the slices are made. -/
def textOf (ss : List Excerpt) : Text := ss.flatMap text

@[simp] theorem textOf_nil : textOf [] = [] := rfl

@[simp] theorem textOf_cons (s : Excerpt) (ss : List Excerpt) :
    textOf (s :: ss) = s.text ++ textOf ss := rfl

@[simp] theorem textOf_append (ss ss' : List Excerpt) :
    textOf (ss ++ ss') = textOf ss ++ textOf ss' := List.flatMap_append

def ofText (t : Text) : Excerpt := ⟨.literal t, t⟩

end Excerpt

open Excerpt

namespace CommandRule

def pushExcerpt (c : Char) : List Excerpt → List Excerpt
  | ⟨.literal t, x⟩ :: ss => ⟨.literal (c :: t), c :: x⟩ :: ss
  | ss => ofText [c] :: ss

/-- The fragments of scanned parts with their slices. -/
def excerpts (r : CommandRule) : List Part → List Excerpt
  | [] => []
  | .kept c :: parts => pushExcerpt c (r.excerpts parts)
  | .found m :: parts => ⟨.command (r.command m), m.text⟩ :: r.excerpts parts

def splitExcerpt (r : CommandRule) : Excerpt → List Excerpt
  | ⟨.literal t, _⟩ => r.excerpts (r.trigger.node.scan t)
  | ⟨.command c, x⟩ => [⟨.command c, x⟩]

theorem fragment_pushExcerpt (c : Char) (ss : List Excerpt) :
    (pushExcerpt c ss).map (·.fragment) = pushChar c (ss.map (·.fragment)) := by
  rcases ss with _ | ⟨⟨_ | _, x⟩, ss⟩ <;> rfl

theorem fragment_excerpts (r : CommandRule) (parts : List Part) :
    (r.excerpts parts).map (·.fragment) = r.fragments parts := by
  induction parts with
  | nil => rfl
  | cons p parts ih =>
    cases p with
    | kept c => rw [excerpts, fragment_pushExcerpt, ih, fragments]
    | found m => rw [excerpts, List.map_cons, ih, fragments]

theorem fragment_splitExcerpt (r : CommandRule) (s : Excerpt) :
    (r.splitExcerpt s).map (·.fragment) = r.splitFragment s.fragment := by
  rcases s with ⟨t | c, x⟩
  · exact r.fragment_excerpts _
  · rfl

/-- The text of a group; a group that was not used has none. -/
def groupText (m : Match) (index : Nat) : Text := (m.group? index).getD []

/-- The texts of the groups without names, in order. -/
def unnamedTexts (m : Match) (groups : List (Option Text)) (index : Nat) : List Text :=
  (groups.zipIdx index).filterMap fun g => if g.1.isNone then some (groupText m g.2) else none

/-- The names of the other groups with their texts, in order. -/
def namedTexts (m : Match) (groups : List (Option Text)) (index : Nat) : List (Text × Text) :=
  (groups.zipIdx index).filterMap fun g => g.1.map (·, groupText m g.2)

theorem groupValues_eq (m : Match) (groups : List (Option Text)) (index : Nat) :
    groupValues m index groups = (unnamedTexts m groups index, namedTexts m groups index) := by
  induction groups generalizing index with
  | nil => rfl
  | cons name groups ih =>
    rw [groupValues, ih]
    cases name <;> rfl

section
variable (r : CommandRule) (m : Match)

theorem command_tag : (r.command m).tag = r.tag := rfl

theorem command_args : (r.command m).args = unnamedTexts m r.trigger.groups 1 := by
  rw [command, groupValues_eq]

theorem command_named : (r.command m).named =
    (namedTexts m r.trigger.groups 1).mergeSort fun a b => Text.le a.1 b.1 := by
  rw [command, groupValues_eq]

/-- A command with the tag of a rule and the groups of a match: the texts of those without names in order, and
those of the others ascending by name. -/
structure Carries (c : Command) : Prop where
  tag : c.tag = r.tag
  args : c.args = unnamedTexts m r.trigger.groups 1
  named : c.named.Perm (namedTexts m r.trigger.groups 1)
  ascending : c.named.Pairwise fun a b => Text.le a.1 b.1 = true

theorem carries_command : r.Carries m (r.command m) where
  tag := r.command_tag m
  args := r.command_args m
  named := by
    rw [command_named]
    exact List.mergeSort_perm _ _
  ascending := by
    rw [command_named]
    exact List.pairwise_mergeSort (fun a b c => Text.le_trans a.1 b.1 c.1)
      (fun a b => Text.le_total a.1 b.1) _

end

/-- Slices behind `before` as the rule leaves them: text of at least one character, or a match of the
trigger in the text in which it stands. -/
inductive Carved (r : CommandRule) : Option Char → List Excerpt → Prop
  | nil (before : Option Char) : Carved r before []
  | literal {before : Option Char} {x : Text} {ss : List Excerpt} (hx : x ≠ [])
      (h : Carved r (lastOf before x) ss) : Carved r before (ofText x :: ss)
  | command {before : Option Char} {m : Match} {ss : List Excerpt}
      (hm : r.trigger.node.matchAt? before (m.text ++ textOf ss) = some m)
      (h : Carved r (lastOf before m.text) ss) :
      Carved r before (⟨.command (r.command m), m.text⟩ :: ss)

variable {r : CommandRule}

theorem textOf_pushExcerpt (c : Char) (ss : List Excerpt) :
    textOf (pushExcerpt c ss) = c :: textOf ss := by
  rcases ss with _ | ⟨⟨_ | _, x⟩, ss⟩ <;> rfl

theorem Carved.pushExcerpt {c : Char} {ss : List Excerpt} (h : r.Carved (some c) ss)
    (before : Option Char) : r.Carved before (pushExcerpt c ss) := by
  have hc : [c] ≠ [] := List.cons_ne_nil c []
  cases h with
  | nil => exact .literal hc (.nil _)
  | literal hx hss => exact .literal (List.cons_ne_nil c _) (by rwa [lastOf_cons])
  | command hm hss => exact .literal hc (.command hm hss)

theorem carved_of_scans {before : Option Char} {t : Text} {parts : List Part}
    (h : r.trigger.node.Scans before t parts) :
    textOf (r.excerpts parts) = t ∧ r.Carved before (r.excerpts parts) := by
  induction h with
  | nil before => exact ⟨rfl, .nil before⟩
  | kept _ ih =>
    obtain ⟨htext, hcarved⟩ := ih
    exact ⟨by rw [excerpts, textOf_pushExcerpt, htext], hcarved.pushExcerpt _⟩
  | found hm _ ih =>
    obtain ⟨htext, hcarved⟩ := ih
    rw [← htext] at hm
    exact ⟨by rw [excerpts, textOf_cons, htext], .command hm hcarved⟩

theorem textOf_split (t : Text) : textOf (r.splitExcerpt (ofText t)) = t :=
  (carved_of_scans (Node.scans_scan _ t)).1

theorem carved_split (t : Text) : r.Carved none (r.splitExcerpt (ofText t)) :=
  (carved_of_scans (Node.scans_scan _ t)).2

namespace Carved

variable {before : Option Char} {ss : List Excerpt}

theorem text_of_literal (h : r.Carved before ss) {s : Excerpt} (hs : s ∈ ss) {u : Text}
    (hu : s.fragment = .literal u) : u = s.text ∧ u ≠ [] := by
  induction h with
  | nil => exact absurd hs List.not_mem_nil
  | literal hx _ ih =>
    rcases List.mem_cons.mp hs with rfl | hs
    · cases hu
      exact ⟨rfl, hx⟩
    · exact ih hs
  | command _ _ ih =>
    rcases List.mem_cons.mp hs with rfl | hs
    · cases hu
    · exact ih hs

theorem match_of_command {front back : List Excerpt} {c : Command} {x : Text}
    (h : r.Carved before (front ++ ⟨.command c, x⟩ :: back)) :
    ∃ m, r.trigger.node.matchAt? (lastOf before (textOf front)) (x ++ textOf back) = some m ∧
      m.text = x ∧ c = r.command m := by
  induction front generalizing before with
  | nil =>
    cases h with
    | command hm _ => exact ⟨_, hm, rfl, rfl⟩
  | cons s front ih =>
    rw [textOf_cons, lastOf_append]
    cases h with
    | literal _ h => exact ih h
    | command _ h => exact ih h

end Carved

end CommandRule

namespace Excerpt

/-- Text that is kept as text stands for itself. -/
def Faithful (s : Excerpt) : Prop := ∀ u, s.fragment = .literal u → s.text = u

theorem Faithful.eq_ofText {s : Excerpt} (h : s.Faithful) {u : Text} (hu : s.fragment = .literal u) :
    s = ofText u := by
  obtain ⟨_, x⟩ := s
  cases hu
  have htext : x = u := h u rfl
  rw [htext]
  rfl

theorem Faithful.textOf_split {s : Excerpt} (h : s.Faithful) (r : CommandRule) :
    textOf (r.splitExcerpt s) = s.text := by
  cases hs : s.fragment with
  | literal u =>
    rw [h.eq_ofText hs, r.textOf_split]
    rfl
  | command c =>
    obtain ⟨_, x⟩ := s
    cases hs
    simp [CommandRule.splitExcerpt]

theorem textOf_flatMap_split {ss : List Excerpt} (h : ∀ s ∈ ss, s.Faithful) (r : CommandRule) :
    textOf (ss.flatMap r.splitExcerpt) = textOf ss := by
  induction ss with
  | nil => rfl
  | cons s ss ih =>
    have hs := h s List.mem_cons_self
    have hss := ih fun s' hs' => h s' (List.mem_cons_of_mem s hs')
    rw [List.flatMap_cons, textOf_append, hs.textOf_split, hss, textOf_cons]

theorem exists_of_flatMap_eq {f : Excerpt → List Excerpt} {ss front back : List Excerpt} {s : Excerpt}
    (h : ss.flatMap f = front ++ s :: back) :
    ∃ first e last left right, ss = first ++ e :: last ∧ f e = left ++ s :: right ∧
      front = first.flatMap f ++ left := by
  induction ss generalizing front with
  | nil => simp at h
  | cons e ss ih =>
    rw [List.flatMap_cons, List.append_eq_append_iff] at h
    rcases h with ⟨mid, hfront, hss⟩ | ⟨mid, he, hback⟩
    · obtain ⟨first, e', last, left, right, rfl, he', hmid⟩ := ih hss
      exact ⟨e :: first, e', last, left, right, rfl, he', by simp [hfront, hmid]⟩
    · cases mid with
      | nil =>
        have hss : ss.flatMap f = [] ++ s :: back := hback.symm
        obtain ⟨first, e', last, left, right, rfl, he', hmid⟩ := ih hss
        exact ⟨e :: first, e', last, left, right, rfl, he', by simp [he, ← hmid]⟩
      | cons s' mid =>
        obtain ⟨rfl, _⟩ := List.cons.inj hback
        exact ⟨[], e, ss, front, mid, rfl, he, rfl⟩

end Excerpt

namespace CommandTable

/-- What the rules that apply to a context make of slices. -/
def refine (rules : List CommandRule) (context : Text) (ss : List Excerpt) : List Excerpt :=
  (rules.filter (·.appliesTo context)).foldl (fun ss r => ss.flatMap r.splitExcerpt) ss

/-- The slices of an utterance, each with its fragment. -/
def excerpts (rules : List CommandRule) (context t : Text) : List Excerpt :=
  refine rules context [ofText t]

variable {context t : Text} {rules : List CommandRule}

theorem refine_append (earlier later : List CommandRule) (ss : List Excerpt) :
    refine (earlier ++ later) context ss = refine later context (refine earlier context ss) := by
  rw [refine, List.filter_append, List.foldl_append]
  rfl

theorem refine_cons (r : CommandRule) (rules : List CommandRule) (ss : List Excerpt) :
    refine (r :: rules) context ss =
      refine rules context (if r.appliesTo context then ss.flatMap r.splitExcerpt else ss) := by
  by_cases h : r.appliesTo context = true <;> simp [refine, h]

theorem excerpts_concat (rules : List CommandRule) (r : CommandRule) :
    excerpts (rules ++ [r]) context t =
      if r.appliesTo context then (excerpts rules context t).flatMap r.splitExcerpt
      else excerpts rules context t := by
  rw [excerpts, refine_append, refine_cons]
  rfl

/-- The slices are those of the fragments. -/
theorem fragment_refine (rules : List CommandRule) (ss : List Excerpt) :
    (refine rules context ss).map (·.fragment) =
      (rules.filter (·.appliesTo context)).foldl
        (fun fragments r => fragments.flatMap r.splitFragment) (ss.map (·.fragment)) := by
  unfold refine
  induction rules.filter (·.appliesTo context) generalizing ss with
  | nil => rfl
  | cons r rules ih =>
    rw [List.foldl_cons, List.foldl_cons, ih, List.map_flatMap, List.flatMap_map]
    simp only [r.fragment_splitExcerpt]

theorem refine_eq_flatMap (rules : List CommandRule) (ss : List Excerpt) :
    refine rules context ss = ss.flatMap fun s => refine rules context [s] := by
  induction rules generalizing ss with
  | nil => exact (List.flatMap_singleton' ss).symm
  | cons r rules ih =>
    by_cases h : r.appliesTo context = true
    · simp only [refine_cons, h, if_true, List.flatMap_singleton]
      rw [ih, List.flatMap_assoc]
      simp only [← ih]
    · simp only [refine_cons, h, if_false, Bool.false_eq_true]
      exact ih ss

theorem refine_command (rules : List CommandRule) (c : Command) (x : Text) :
    refine rules context [⟨.command c, x⟩] = [⟨.command c, x⟩] := by
  induction rules with
  | nil => rfl
  | cons r rules ih => simpa [refine_cons, CommandRule.splitExcerpt] using ih

/-- Text of the utterance stands for itself, and only of an empty utterance it is empty. -/
theorem literal_excerpts (rules : List CommandRule) :
    ∀ s ∈ excerpts rules context t, ∀ u, s.fragment = .literal u → s.text = u ∧ (u = [] → t = []) := by
  induction rules using List.reverseRecOn with
  | nil =>
    intro s hs u hu
    obtain rfl := List.mem_singleton.mp hs
    cases hu
    exact ⟨rfl, id⟩
  | append_singleton rules r ih =>
    intro s hs u hu
    rw [excerpts_concat] at hs
    split at hs
    · obtain ⟨e, he, hse⟩ := List.mem_flatMap.mp hs
      cases hfragment : e.fragment with
      | literal v =>
        rw [Faithful.eq_ofText (fun u hu => (ih e he u hu).1) hfragment] at hse
        obtain ⟨htext, hne⟩ := (r.carved_split v).text_of_literal hse hu
        exact ⟨htext.symm, fun hnil => absurd hnil hne⟩
      | command c =>
        obtain ⟨_, x⟩ := e
        cases hfragment
        obtain rfl := List.mem_singleton.mp hse
        cases hu
    · exact ih s hs u hu

theorem faithful_of_mem_excerpts {s : Excerpt} (hs : s ∈ excerpts rules context t) : s.Faithful :=
  fun u hu => (literal_excerpts rules s hs u hu).1

theorem textOf_excerpts (rules : List CommandRule) : textOf (excerpts rules context t) = t := by
  induction rules using List.reverseRecOn with
  | nil => exact List.append_nil t
  | append_singleton rules r ih =>
    rw [excerpts_concat]
    split
    · rw [textOf_flatMap_split fun s hs => faithful_of_mem_excerpts hs, ih]
    · exact ih

theorem textOf_front {first rest : List Excerpt} {r : CommandRule}
    (h : excerpts rules context t = first ++ rest) :
    textOf (first.flatMap r.splitExcerpt) = textOf first :=
  textOf_flatMap_split (fun _ hs => faithful_of_mem_excerpts (h ▸ List.mem_append_left _ hs)) r

/-- Behind the text `ahead` of the utterance, the rule finds a command: its slice `x` is a match of the
trigger in a slice that the earlier rules have left as text, and it carries the rule's tag and the groups of
the match. -/
def FoundBy (earlier : List CommandRule) (r : CommandRule) (context t ahead : Text) (c : Command)
    (x : Text) : Prop :=
  ∃ first last left right m,
    excerpts earlier context t = first ++ ofText (left ++ x ++ right) :: last ∧
      ahead = textOf first ++ left ∧
      r.trigger.node.matchAt? (lastOf none left) (x ++ right) = some m ∧ m.text = x ∧
      c = r.command m ∧ r.Carries m c

theorem foundBy_of_split {front : List Excerpt} {c : Command} {x : Text} {r : CommandRule}
    {first last left right : List Excerpt} {u : Text}
    (hfirst : excerpts rules context t = first ++ ofText u :: last)
    (hsplit : r.splitExcerpt (ofText u) = left ++ ⟨.command c, x⟩ :: right)
    (hfront : front = first.flatMap r.splitExcerpt ++ left) :
    FoundBy rules r context t (textOf front) c x := by
  have hcarved := r.carved_split u
  have hu := r.textOf_split u
  rw [hsplit] at hcarved hu
  obtain ⟨m, hm, hx, hc⟩ := hcarved.match_of_command
  have hspan : u = textOf left ++ x ++ textOf right := by simpa using hu.symm
  refine ⟨first, last, textOf left, textOf right, m, hspan ▸ hfirst, ?_, hm, hx, hc, hc ▸ r.carries_command m⟩
  rw [hfront, textOf_append, textOf_front hfirst]

theorem command_excerpts (rules : List CommandRule) {front back : List Excerpt} {c : Command} {x : Text}
    (h : excerpts rules context t = front ++ ⟨.command c, x⟩ :: back) :
    ∃ earlier r later, rules = earlier ++ r :: later ∧ r.appliesTo context = true ∧
      FoundBy earlier r context t (textOf front) c x := by
  induction rules using List.reverseRecOn generalizing front back with
  | nil =>
    exfalso
    have hmem : (⟨.command c, x⟩ : Excerpt) ∈ excerpts [] context t := by simp [h]
    cases List.mem_singleton.mp hmem
  | append_singleton rules r ih =>
    -- What an earlier rule has found is found by it among more rules, too.
    have hearlier {front back : List Excerpt}
        (h : excerpts rules context t = front ++ ⟨.command c, x⟩ :: back) :
        ∃ earlier r' later, rules ++ [r] = earlier ++ r' :: later ∧ r'.appliesTo context = true ∧
          FoundBy earlier r' context t (textOf front) c x := by
      obtain ⟨earlier, r', later, rfl, happlies, hfound⟩ := ih h
      exact ⟨earlier, r', later ++ [r], by simp, happlies, hfound⟩
    rw [excerpts_concat] at h
    by_cases happlies : r.appliesTo context = true
    · rw [if_pos happlies] at h
      obtain ⟨first, e, last, left, right, hfirst, he, hfront⟩ := exists_of_flatMap_eq h
      have hmem : e ∈ excerpts rules context t := by simp [hfirst]
      cases hfragment : e.fragment with
      | literal u =>
        obtain rfl := (faithful_of_mem_excerpts hmem).eq_ofText hfragment
        exact ⟨rules, r, [], rfl, happlies, foundBy_of_split hfirst he hfront⟩
      | command c' =>
        -- The rule keeps the command, and the text in front of it stays what it was.
        obtain ⟨_, x'⟩ := e
        cases hfragment
        rcases List.append_eq_singleton_iff.mp he.symm with ⟨rfl, hs⟩ | ⟨_, hs⟩
        · obtain ⟨hs, _⟩ := List.cons.inj hs
          rw [hfront, List.append_nil, textOf_front hfirst]
          exact hearlier (hs ▸ hfirst)
        · exact absurd hs (List.cons_ne_nil _ _)
    · rw [if_neg happlies] at h
      exact hearlier h

/-- How the fragments of an utterance make it up. -/
structure Slicing (table : CommandTable) (context t : Text) : Prop where
  /-- The slices belong to the fragments, one by one. -/
  fragments : (excerpts table.rules context t).map (·.fragment) = table.extract t context
  /-- Together they are the whole utterance. -/
  whole : textOf (excerpts table.rules context t) = t
  /-- Text is its slice, and is not empty. -/
  literal : ∀ s ∈ excerpts table.rules context t, ∀ u, s.fragment = .literal u →
    s.text = u ∧ (u = [] → t = [])
  /-- A command stands where a rule that applies has found it. -/
  command : ∀ front c x back, excerpts table.rules context t = front ++ ⟨.command c, x⟩ :: back →
    ∃ earlier r later, table.rules = earlier ++ r :: later ∧ r.appliesTo context = true ∧
      FoundBy earlier r context t (textOf front) c x
  /-- Later rules divide text, slice by slice, and keep the commands. -/
  later : ∀ earlier later, table.rules = earlier ++ later →
    excerpts table.rules context t = (excerpts earlier context t).flatMap fun s =>
      match s.fragment with
      | .literal u => excerpts later context u
      | .command _ => [s]

/-- Commands are carved out of an utterance without changing, moving or losing any of its text. -/
theorem extract_slicing (table : CommandTable) (context t : Text) : table.Slicing context t where
  fragments := fragment_refine table.rules _
  whole := textOf_excerpts table.rules
  literal := literal_excerpts table.rules
  command := fun _ _ _ _ h => command_excerpts table.rules h
  later := by
    intro earlier later hrules
    rw [hrules, excerpts, refine_append, refine_eq_flatMap]
    apply List.flatMap_congr
    intro s hs
    cases hfragment : s.fragment with
    | literal u => rw [(faithful_of_mem_excerpts hs).eq_ofText hfragment]; rfl
    | command c =>
      obtain ⟨_, x⟩ := s
      cases hfragment
      exact refine_command later c x

/-- Between two pieces of text, a match may have no characters. -/
example : (excerpts [⟨none, ⟨.star none true (.set (.one 'x')), []⟩, []⟩] [] ['a', 'x', 'b']).map (·.text) =
    [[], ['a'], ['x'], ['b'], []] := by
  decide +kernel

end CommandTable

end Dictation
