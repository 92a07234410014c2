import Dictation.Proofs.Rewrite.SpokenRules
/-!
# Spoken operators before their rules

The text that is spoken for operators consists of words with single blanks between them. Of the rules
before those for operators, only the two for control keys find something in it. They turn the names of
the keys into white space, which is then part of the gap between the names that are left.
-/
namespace Dictation

open Node Text Sign

/-- A gap and the words behind it, each with the gap that follows it. -/
def wordsIn (g : Text) : List (Text × Text) → Text
  | [] => g
  | (x, h) :: ts => g ++ (x ++ wordsIn h ts)

def Spaced (g : Text) : List (Text × Text) → Prop
  | [] => IsGap g
  | (_, h) :: ts => IsGap g ∧ (ts ≠ [] → h ≠ []) ∧ Spaced h ts

section
variable {g h x : Text} {ts : List (Text × Text)}

theorem Spaced.isGap (hts : Spaced g ts) : IsGap g := by
  cases ts with
  | nil => exact hts
  | cons t ts => exact hts.1

theorem Spaced.of_gap (hts : Spaced g ts) (hh : IsGap h) : Spaced h ts := by
  cases ts with
  | nil => exact hh
  | cons t ts => exact ⟨hh, hts.2⟩

theorem wordsIn_eq_append (g : Text) (ts : List (Text × Text)) :
    wordsIn g ts = g ++ wordsIn [] ts := by
  cases ts with
  | nil => exact (List.append_nil g).symm
  | cons t ts => rfl

theorem head_wordsIn (hts : Spaced h ts) (hne : ts ≠ [] → h ≠ []) :
    ∀ a ∈ (wordsIn h ts).head?, a ∈ gapChars := by
  intro a ha
  cases ts with
  | nil => exact hts a (List.mem_of_head? ha)
  | cons t ts =>
    obtain ⟨c, h', hh⟩ := List.exists_cons_of_ne_nil (hne (List.cons_ne_nil t ts))
    rw [wordsIn_eq_append, hh] at ha
    cases ha
    exact hts.isGap a (by rw [hh]; exact List.mem_cons_self)

theorem Spaced.deadIn {n : Node} (hn : n.skipsGaps = true) (hts : Spaced g ts)
    (hwords : ∀ x ∈ ts.map Prod.fst, isSolid x = true ∧ n.core.stopsIn gapChars x = true) :
    n.DeadIn (wordsIn g ts) [] := by
  induction ts generalizing g with
  | nil => exact deadIn_end hn hts
  | cons t ts ih =>
    obtain ⟨x, h⟩ := t
    obtain ⟨hg, hne, hrest⟩ := hts
    obtain ⟨hsolid, hstops⟩ := hwords x List.mem_cons_self
    have hdead : n.core.DeadIn x (wordsIn h ts) :=
      deadIn_of_stopsIn hstops (head_wordsIn hrest hne)
    have hword := deadIn_word hn hg hsolid hdead
    change n.DeadIn (g ++ (x ++ wordsIn h ts)) []
    rw [← List.append_assoc]
    refine .append ?_ (ih hrest fun y hy => hwords y (List.mem_cons_of_mem x hy))
    rw [List.append_nil]
    exact hword

theorem mem_wordsIn (hts : Spaced g ts) {a : Char} (ha : a ∈ wordsIn g ts) :
    a ∈ gapChars ∨ ∃ x ∈ ts.map Prod.fst, a ∈ x := by
  induction ts generalizing g with
  | nil => exact Or.inl (hts a ha)
  | cons t ts ih =>
    obtain ⟨x, h⟩ := t
    obtain ⟨hg, _, hrest⟩ := hts
    rcases List.mem_append.mp ha with ha | ha
    · exact Or.inl (hg a ha)
    · rcases List.mem_append.mp ha with ha | ha
      · exact Or.inr ⟨x, List.mem_cons_self, ha⟩
      · exact (ih hrest ha).imp_right fun ⟨y, hy, ha⟩ => ⟨y, List.mem_cons_of_mem x hy, ha⟩

/-- Whether a pattern finds nothing among the words of a list: it needs a digit, or it stops in each
of the words. -/
def isIdle (ws : List Text) (n : Node) : Bool :=
  n.consumes && (n.mustRead (fun s => decide (s = .digit)) ||
    n.skipsGaps && ws.all fun x => n.core.stopsIn gapChars x)

/-- Whether a word has no digits. -/
def isDigitless (x : Text) : Bool := x.all fun a => !CharSet.digit.contains a

theorem digit_of_mem_gapChars : ∀ a ∈ gapChars, CharSet.digit.contains a = false := by
  have hall : isDigitless gapChars = true := by decide
  simpa [isDigitless] using hall

theorem RuleTable.rewrite_idle {ws : List Text} {r : Pattern × Action}
    (hr : isIdle ws r.1.node = true) (hts : Spaced g ts)
    (hws : ∀ x ∈ ws, isSolid x = true ∧ isDigitless x = true)
    (hwords : ∀ x ∈ ts.map Prod.fst, x ∈ ws) : rewrite r (wordsIn g ts) = wordsIn g ts := by
  obtain ⟨hconsumes, hcases⟩ := Bool.and_eq_true _ _ |>.mp hr
  rw [rewrite_eq]
  refine replaceFrom_eq_self hconsumes _ (DeadIn.misses ?_ none)
  rcases Bool.or_eq_true _ _ |>.mp hcases with hdigit | hstops
  · intro y c z hyz
    refine .of_mustRead hdigit fun a ha s hs => ?_
    have hmem : a ∈ wordsIn g ts := by
      rw [hyz]
      rw [List.append_nil] at ha
      exact List.mem_append_right y ha
    rw [of_decide_eq_true hs]
    rcases mem_wordsIn hts hmem with hgap | ⟨x, hx, hax⟩
    · exact digit_of_mem_gapChars a hgap
    · have hall := List.all_eq_true.mp (hws x (hwords x hx)).2 a hax
      rw [Bool.not_eq_true'] at hall
      exact hall
  · obtain ⟨hgaps, hall⟩ := Bool.and_eq_true _ _ |>.mp hstops
    refine hts.deadIn hgaps fun x hx => ⟨(hws x (hwords x hx)).1, ?_⟩
    exact List.all_eq_true.mp hall x (hwords x hx)

end

/-- The name of a key, with the white space on both sides. -/
def keyNode (name : List Node) : Node :=
  seq blanks (seq bound (sequence (name ++ [bound, blanks])))

/-- The rule for a key: it reads the name `x`, and puts the white space `c` in its place. -/
structure KeyRule (x : Text) (c : Char) (name : List Node) : Prop where
  plain : (sequence name).plain = true
  unmarked : (keyNode name).unmarked = true
  consumes : (keyNode name).consumes = true
  skipsGaps : (keyNode name).skipsGaps = true
  solid : isSolid x = true
  first : ∀ a ∈ x.head?, isWordChar a = true
  last : ∀ a ∈ x.getLast?, isWordChar a = true
  reads : (sequence name).leftovers x = some [[]]
  writes : c ∈ gapChars

section
variable {x : Text} {c : Char} {name : List Node} (hkey : KeyRule x c name)
include hkey

theorem KeyRule.matchAt? {g h t : Text} (hg : IsGap g) (hh : IsGap h) {b : Option Char}
    (hstart : g = [] → ∀ a ∈ b, isWordChar a = false)
    (ht : ∀ a ∈ t.head?, Unicode.isBlank a = false)
    (hend : ∀ a ∈ (h ++ t).head?, isWordChar a = false) :
    (keyNode name).matchAt? b ((g ++ (x ++ h)) ++ t) = some ⟨g ++ (x ++ h), []⟩ := by
  have htext : (g ++ (x ++ h)) ++ t = g ++ (x ++ (h ++ t)) := by
    rw [List.append_assoc, List.append_assoc]
  have hbound : Assertion.holds (.boundary .unicode) (lastOf b g) (x ++ (h ++ t)) = true := by
    obtain ⟨a, x', hx⟩ := List.exists_cons_of_ne_nil (ne_nil_of_isSolid hkey.solid)
    have hword := hkey.first a (by rw [hx]; rfl)
    have hbefore : ∀ a ∈ lastOf b g, isWordChar a = false := by
      intro a' ha'
      cases hlast : g.getLast? with
      | none =>
        rw [lastOf, hlast, Option.none_or] at ha'
        exact hstart (List.getLast?_eq_none_iff.mp hlast) a' ha'
      | some d =>
        rw [lastOf, hlast, Option.some_or] at ha'
        cases ha'
        exact isWordChar_of_mem_gapChars a' (hg a' (List.mem_of_getLast? hlast))
    rw [hx]
    unfold Assertion.holds
    cases hlast : lastOf b g with
    | none => simp [WordRule.holds, hword]
    | some d => simp [WordRule.holds, hword, hbefore d hlast]
  refine matchAt?_of_run hkey.unmarked ?_
  refine run_star_set hg.isBlank (fun a ha => ?_) htext rfl ?_
  · obtain ⟨a', x', hx⟩ := List.exists_cons_of_ne_nil (ne_nil_of_isSolid hkey.solid)
    rw [hx] at ha
    cases ha
    exact isBlank_of_isSolid hkey.solid (by rw [hx]; exact List.mem_cons_self)
  · refine (if_pos hbound).trans ?_
    rw [run_sequence_append]
    refine run_of_leftovers hkey.plain hkey.reads rfl rfl ?_
    rw [Cursor.past_past]
    refine (if_pos (Keyword.boundary_holds hkey.solid hkey.last hend b)).trans ?_
    refine run_star_set hh.isBlank ht rfl rfl ?_
    rw [Cursor.past_past, List.append_assoc g x h]
    rfl

/-- The rule for a key turns its name into white space, wherever it stands, and passes over all other
words. -/
theorem KeyRule.replaceFrom_wordsIn {f : Match → Text} (hf : ∀ m, f m = [c]) {g : Text}
    {ts : List (Text × Text)} (hts : Spaced g ts)
    (hwords : ∀ y ∈ ts.map Prod.fst, isSolid y = true ∧
      (y ≠ x → (keyNode name).core.stopsIn gapChars y = true)) (b : Option Char)
    (hstart : ts ≠ [] → g = [] → ∀ a ∈ b, isWordChar a = false) :
    ∃ g' ts', ts'.map Prod.fst = (ts.map Prod.fst).filter (· ≠ x) ∧ Spaced g' ts' ∧
      (g ≠ [] → g' ≠ []) ∧ (keyNode name).replaceFrom f b (wordsIn g ts) = wordsIn g' ts' := by
  induction ts generalizing g b with
  | nil =>
    exact ⟨g, [], rfl, hts, id,
      replaceFrom_eq_self hkey.consumes f ((deadIn_end hkey.skipsGaps hts).misses b)⟩
  | cons t ts ih =>
    obtain ⟨y, h⟩ := t
    obtain ⟨hg, hne, hrest⟩ := hts
    obtain ⟨hsolid, hstops⟩ := hwords y List.mem_cons_self
    have hmore : ∀ z ∈ ts.map Prod.fst, isSolid z = true ∧
        (z ≠ x → (keyNode name).core.stopsIn gapChars z = true) :=
      fun z hz => hwords z (List.mem_cons_of_mem y hz)
    have hnext := head_wordsIn hrest hne
    by_cases hy : y = x
    · -- The name is taken together with both gaps, and white space comes in its place.
      subst hy
      have hblank : ∀ a ∈ (wordsIn [] ts).head?, Unicode.isBlank a = false := by
        intro a ha
        cases ts with
        | nil => cases ha
        | cons t ts =>
          obtain ⟨z, h'⟩ := t
          have hz := (hmore z List.mem_cons_self).1
          obtain ⟨a', z', hz'⟩ := List.exists_cons_of_ne_nil (ne_nil_of_isSolid hz)
          change a ∈ ([] ++ (z ++ _)).head? at ha
          rw [hz'] at ha
          cases ha
          exact isBlank_of_isSolid hz (by rw [hz']; exact List.mem_cons_self)
      have hend : ∀ a ∈ (h ++ wordsIn [] ts).head?, isWordChar a = false := by
        rw [← wordsIn_eq_append]
        exact fun a ha => isWordChar_of_mem_gapChars a (hnext a ha)
      have hmatch := hkey.matchAt? hg hrest.isGap (hstart (List.cons_ne_nil _ ts)) hblank hend
      have hfound := replaceFrom_found hkey.consumes f hmatch rfl
      obtain ⟨g', ts', hsame, hspaced, _, hreplace⟩ :=
        ih (hrest.of_gap isGap_nil) hmore (lastOf b (g ++ (y ++ h))) (fun hts' _ a ha => by
          obtain ⟨d, h', hh⟩ := List.exists_cons_of_ne_nil (hne hts')
          rw [lastOf, List.getLast?_append, List.getLast?_append, hh,
            List.getLast?_eq_some_getLast (List.cons_ne_nil d h'), Option.some_or, Option.some_or,
            Option.some_or] at ha
          cases ha
          refine isWordChar_of_mem_gapChars _ (hrest.isGap _ ?_)
          rw [hh]
          exact List.getLast_mem _)
      refine ⟨c :: g', ts', ?_, ?_, fun _ => List.cons_ne_nil c g', ?_⟩
      · rw [hsame, List.map_cons, List.filter_cons_of_neg (by simp)]
      · refine hspaced.of_gap fun a ha => ?_
        rcases List.mem_cons.mp ha with rfl | ha
        · exact hkey.writes
        · exact hspaced.isGap a ha
      · rw [hf, hreplace] at hfound
        change (keyNode name).replaceFrom f b (g ++ (y ++ wordsIn h ts)) = _
        rw [wordsIn_eq_append h ts, wordsIn_eq_append (c :: g') ts', ← List.append_assoc y,
          ← List.append_assoc g, hfound, wordsIn_eq_append g' ts']
        rfl
    · have hdead : (keyNode name).core.DeadIn y (wordsIn h ts) := deadIn_of_stopsIn (hstops hy) hnext
      have hword := deadIn_word hkey.skipsGaps hg hsolid hdead
      obtain ⟨h', ts', hsame, hspaced, hkeep, hreplace⟩ :=
        ih hrest hmore (lastOf b (g ++ y)) (fun hts' hnil => absurd hnil (hne hts'))
      refine ⟨g, (y, h') :: ts', ?_, ⟨hg, fun hts' => ?_, hspaced⟩, id, ?_⟩
      · rw [List.map_cons, List.map_cons, hsame, List.filter_cons_of_pos (by simpa using hy)]
      · refine hkeep (hne ?_)
        rintro rfl
        exact hts' (List.map_eq_nil_iff.mp hsame)
      · change (keyNode name).replaceFrom f b (g ++ (y ++ wordsIn h ts)) = g ++ (y ++ wordsIn h' ts')
        rw [← List.append_assoc, replaceFrom_misses hkey.consumes f (hword.misses b), hreplace,
          List.append_assoc]

end

def keyNames : List Text := ["new-line".toList, "tab-key".toList]

def spokenWords : List Text := keyNames ++ spelled.1.map Sign.spoken

theorem spokenWords_sound : ∀ x ∈ spokenWords, isSolid x = true ∧ isDigitless x = true := by
  decide

namespace RuleTable

def newLineName : List Node := literal "new" ++ [blankOrHyphen] ++ literal "line"

def tabKeyName : List Node := literal "tab" ++ [blankOrHyphen] ++ literal "key"

theorem newLine_keyRule : KeyRule "new-line".toList '\n' newLineName where
  plain := by decide
  unmarked := by decide
  consumes := by decide
  skipsGaps := by decide
  solid := by decide
  first := Option.all_eq_true _ _ |>.mp (by decide)
  last := Option.all_eq_true _ _ |>.mp (by decide)
  reads := by decide
  writes := by decide

theorem tabKey_keyRule : KeyRule "tab-key".toList '\t' tabKeyName where
  plain := by decide
  unmarked := by decide
  consumes := by decide
  skipsGaps := by decide
  solid := by decide
  first := Option.all_eq_true _ _ |>.mp (by decide)
  last := Option.all_eq_true _ _ |>.mp (by decide)
  reads := by decide
  writes := by decide

theorem wordRows_keys : (wordRows.drop 1).take 2 =
    [(⟨keyNode newLineName, []⟩, .function "new_line" .newLine),
      (⟨keyNode tabKeyName, []⟩, .function "tab_key" .tabKey)] := by
  decide

theorem wordRows_idle :
    ∀ r ∈ wordRows.take 1 ++ wordRows.drop 3, isIdle spokenWords r.1.node = true := by
  decide +kernel

theorem keys_pass : ∀ x ∈ spokenWords,
    (x ≠ "new-line".toList → (keyNode newLineName).core.stopsIn gapChars x = true) ∧
      (x ≠ "tab-key".toList → (keyNode tabKeyName).core.stopsIn gapChars x = true) := by
  decide

variable {g : Text} {ts : List (Text × Text)}

theorem foldl_idle {ws : List Text} (hws : ∀ x ∈ ws, isSolid x = true ∧ isDigitless x = true)
    {rs : List (Pattern × Action)} (hrs : ∀ r ∈ rs, isIdle ws r.1.node = true) (hts : Spaced g ts)
    (hwords : ∀ x ∈ ts.map Prod.fst, x ∈ ws) :
    rs.foldl (fun t r => rewrite r t) (wordsIn g ts) = wordsIn g ts := by
  induction rs with
  | nil => rfl
  | cons r rs ih =>
    rw [List.foldl_cons, rewrite_idle (hrs r List.mem_cons_self) hts hws hwords]
    exact ih fun r' hr' => hrs r' (List.mem_cons_of_mem r hr')

/-- The rules before those for operators remove the names of keys, and leave the other words in
gaps. -/
theorem rewrite_wordRows (hts : Spaced g ts) (hwords : ∀ x ∈ ts.map Prod.fst, x ∈ spokenWords) :
    ∃ g' ts', ts'.map Prod.fst = (ts.map Prod.fst).filter (· ∉ keyNames) ∧ Spaced g' ts' ∧
      wordRows.foldl (fun t r => rewrite r t) (wordsIn g ts) = wordsIn g' ts' := by
  have hsplit : wordRows = wordRows.take 1 ++ ((wordRows.drop 1).take 2 ++ wordRows.drop 3) := by
    rfl
  have hkeys (a b x : Text) : (decide (x ≠ b) && decide (x ≠ a)) = decide (x ∉ [a, b]) := by
    simp [Bool.and_comm]
  have hstart : ∀ a ∈ (none : Option Char), isWordChar a = false := fun a ha => by cases ha
  obtain ⟨g₁, ts₁, hsame₁, hspaced₁, _, hline⟩ := newLine_keyRule.replaceFrom_wordsIn
    (f := (Action.function "new_line".toList .newLine).apply ⟨keyNode newLineName, []⟩)
    (fun _ => rfl) hts
    (fun x hx => ⟨(spokenWords_sound x (hwords x hx)).1, (keys_pass x (hwords x hx)).1⟩)
    none (fun _ _ => hstart)
  have hwords₁ : ∀ x ∈ ts₁.map Prod.fst, x ∈ spokenWords := by
    intro x hx
    rw [hsame₁] at hx
    exact hwords x (List.mem_filter.mp hx).1
  obtain ⟨g₂, ts₂, hsame₂, hspaced₂, _, htab⟩ := tabKey_keyRule.replaceFrom_wordsIn
    (f := (Action.function "tab_key".toList .tabKey).apply ⟨keyNode tabKeyName, []⟩)
    (fun _ => rfl) hspaced₁
    (fun x hx => ⟨(spokenWords_sound x (hwords₁ x hx)).1, (keys_pass x (hwords₁ x hx)).2⟩)
    none (fun _ _ => hstart)
  have hwords₂ : ∀ x ∈ ts₂.map Prod.fst, x ∈ spokenWords := by
    intro x hx
    rw [hsame₂] at hx
    exact hwords₁ x (List.mem_filter.mp hx).1
  refine ⟨g₂, ts₂, ?_, hspaced₂, ?_⟩
  · rw [hsame₂, hsame₁, List.filter_filter]
    exact List.filter_congr fun x _ => hkeys "new-line".toList "tab-key".toList x
  · rw [hsplit, List.foldl_append, List.foldl_append,
      foldl_idle spokenWords_sound (fun r hr => wordRows_idle r (List.mem_append_left _ hr)) hts hwords,
      wordRows_keys, List.foldl_cons, List.foldl_cons, List.foldl_nil, rewrite_eq, rewrite_eq,
      hline, htab,
      foldl_idle spokenWords_sound (fun r hr => wordRows_idle r (List.mem_append_right _ hr)) hspaced₂
        hwords₂]

end RuleTable

end Dictation
