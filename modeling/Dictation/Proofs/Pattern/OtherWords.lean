import Dictation.Proofs.Pattern.Captures
import Dictation.Proofs.Rewrite.Keyword
import Dictation.Proofs.Text.Alphabet
/-!
# Words that a pattern does not begin with

Many patterns begin with one of a few words and go on behind the end of that word. They find nothing
in any other word of letters. A pattern is followed letter by letter here, with what remains of the
words that it may read, without regard to case.
-/
namespace Dictation.Node

open Text

/-- What remains of those words that begin with `c`. -/
def behind (c : Char) (ws : List Text) : List Text := ws.filterMap (dropPrefix? [c])

/-- What can follow a word of letters: white space or a low line. -/
def stopChars : List Char := '_' :: gapChars

theorem gaps_stop : ∀ a ∈ gapChars, a ∈ stopChars := fun _ ha => List.mem_cons_of_mem _ ha

section
variable (next : List Char)

/-- Whether no character of the set can follow, unless one of the words ends here. -/
def endsWords (s : CharSet) (ws : List Text) : Bool :=
  asciiLetters.all (!s.contains ·) && (decide ([] ∈ ws) || next.all (!s.contains ·))

/-- Whether a node leads nowhere before words other than `ws` that are followed by one of the characters
`next`, if what follows it says so for what remains of `ws` there. -/
def avoids : Node → (List Text → Bool) → List Text → Bool
  | empty, k, ws => k ws
  | set (.counterpart c), k, ws =>
    if c ∈ smallLetters then k (behind c ws) else endsWords next (.counterpart c) ws
  | set s, _, ws => endsWords next s ws
  | assertion (.boundary .unicode), _, ws => decide ([] ∈ ws)
  | assertion _, _, _ => false
  | group _ body, k, ws => body.avoids k ws
  | seq a b, k, ws => a.avoids (b.avoids k) ws
  | alt a b, k, ws => a.avoids k ws && b.avoids k ws
  | opt _ body, k, ws => body.avoids k ws && k ws
  | star _ _ body, k, ws => body.avoids (fun _ => false) ws && k ws
  | plus _ _ body, _, ws => body.avoids (fun _ => false) ws
  | mark _, _, _ => false

end

/-- A place within or before a word of letters that is none of `ws`, with `rest` behind the word. -/
structure Before (ws : List Text) (rest : Text) (c : Cursor) : Prop where
  word : ∃ x, c.rest = x ++ rest ∧ (∀ a ∈ x, a ∈ asciiLetters) ∧ x.map Char.toLower ∉ ws
  /-- Where one of `ws` is finished, the word has begun. -/
  begun : [] ∈ ws → ∃ a ∈ c.before, isWordChar a = true

theorem Before.of_reads_nil {ws : List Text} {rest : Text} {c d : Cursor} (h : Before ws rest c)
    (hd : c.Reads [] d) : Before ws rest d where
  word := by
    rw [← List.nil_append d.rest, ← hd.rest_eq]
    exact h.word
  begun hws := by
    rw [hd.before_eq]
    exact h.begun hws

theorem boundary_sound {ws : List Text} {rest : Text} (hws : [] ∈ ws) {c : Cursor} (h : Before ws rest c)
    (d : Cursor) : ¬ bound.Leads c d := by
  rintro ⟨hholds, _⟩
  obtain ⟨b, hb, hword⟩ := h.begun hws
  obtain ⟨x, hx, hletters, hother⟩ := h.word
  cases x with
  | nil => exact hother hws
  | cons a x =>
    rw [Option.mem_def] at hb
    have ha := (asciiLetters_sound a (hletters a List.mem_cons_self)).1
    rw [hx, hb] at hholds
    simp [Assertion.holds, WordRule.holds, hword, ha] at hholds

section
variable {next : List Char} {rest : Text} (hrest : ∀ a ∈ rest.head?, a ∈ next)
include hrest

theorem Before.head {ws : List Text} {c : Cursor} (h : Before ws rest c) :
    ∀ a ∈ c.rest.head?, a ∈ asciiLetters ∨ [] ∉ ws ∧ a ∈ next := by
  obtain ⟨x, hx, hletters, hother⟩ := h.word
  intro a ha
  rw [hx] at ha
  cases x with
  | nil => exact .inr ⟨hother, hrest a ha⟩
  | cons b x =>
    cases ha
    exact .inl (hletters a List.mem_cons_self)

theorem endsWords_sound {s : CharSet} {ws : List Text} (hs : endsWords next s ws = true) {c : Cursor}
    (h : Before ws rest c) (d : Cursor) : ¬ (set s).Leads c d := by
  intro hlead
  obtain ⟨a, ha, hreads⟩ := Cursor.reads_consume? hlead
  obtain ⟨hletters, hgaps⟩ := Bool.and_eq_true _ _ |>.mp hs
  have hhead : a ∈ c.rest.head? := by
    rw [hreads.rest_eq]
    rfl
  rcases h.head hrest a hhead with hletter | ⟨hopen, hgap⟩
  · have hnot := List.all_eq_true.mp hletters a hletter
    simp [ha] at hnot
  · have hnot := List.all_eq_true.mp ((Bool.or_eq_true _ _ |>.mp hgaps).resolve_left (by simpa using hopen)) a hgap
    simp [ha] at hnot

variable (hnext : ∀ a ∈ next, a ∈ stopChars)
include hnext

/-- A small letter in the pattern reads that letter in one of its cases. -/
theorem letter_sound {c : Char} (hc : c ∈ smallLetters) {ws : List Text} {p q : Cursor}
    (h : Before ws rest p) (hlead : (set (.counterpart c)).Leads p q) : Before (behind c ws) rest q := by
  have hsame : ∀ c ∈ smallLetters, (∀ a ∈ asciiLetters,
      (CharSet.counterpart c).contains a = true → a.toLower = c) ∧
      ∀ a ∈ stopChars, (CharSet.counterpart c).contains a = false := by decide +kernel
  obtain ⟨hletter, hgap⟩ := hsame c hc
  obtain ⟨a, ha, hreads⟩ := Cursor.reads_consume? hlead
  obtain ⟨x, hx, hletters, hother⟩ := h.word
  have hpx := hx.symm.trans hreads.rest_eq
  cases x with
  | nil =>
    have hhead : a ∈ rest.head? := by
      rw [List.nil_append] at hpx
      rw [hpx]
      rfl
    rw [hgap a (hnext a (hrest a hhead))] at ha
    cases ha
  | cons b x =>
    obtain ⟨rfl, hq⟩ := List.cons.inj hpx
    have hb := hletters b List.mem_cons_self
    refine ⟨⟨x, hq.symm, fun a ha => hletters a (List.mem_cons_of_mem b ha), fun hmem => ?_⟩, fun _ => ?_⟩
    · obtain ⟨w, hw, hdrop⟩ := List.mem_filterMap.mp hmem
      refine hother ?_
      cases w with
      | nil => cases hdrop
      | cons e w =>
        rw [dropPrefix?] at hdrop
        split at hdrop
        case isTrue he =>
          cases hdrop
          rw [List.map_cons, hletter b hb ha, he]
          exact hw
        case isFalse => cases hdrop
    · exact ⟨b, by rw [hreads.before_eq]; rfl, (asciiLetters_sound b hb).1⟩

theorem avoids_sound {n : Node} {k : List Text → Bool} {ws : List Text} (hn : n.avoids next k ws = true)
    {c d : Cursor} (hc : Before ws rest c) (h : n.Leads c d) :
    ∃ ws', k ws' = true ∧ Before ws' rest d := by
  induction n generalizing k ws c d with
  | empty =>
    cases h
    exact ⟨ws, hn, hc⟩
  | set s =>
    have hends : endsWords next s ws = true → ∃ ws', k ws' = true ∧ Before ws' rest d :=
      fun hs => absurd h (endsWords_sound hrest hs hc d)
    cases s with
    | counterpart a =>
      unfold avoids at hn
      split at hn
      case isTrue ha => exact ⟨_, hn, letter_sound hrest hnext ha hc h⟩
      case isFalse => exact hends hn
    | _ => exact hends hn
  | assertion a =>
    cases a with
    | boundary r =>
      cases r with
      | unicode => exact absurd h (boundary_sound (of_decide_eq_true hn) hc d)
      | ascii => cases hn
    | _ => cases hn
  | group i body ih =>
    obtain ⟨e, hlead, rfl⟩ := h
    obtain ⟨ws', hk, he⟩ := ih hn hc hlead
    exact ⟨ws', hk, he.word, he.begun⟩
  | seq a b iha ihb =>
    obtain ⟨e, ha, hb⟩ := h
    obtain ⟨ws', hws', he⟩ := iha hn hc ha
    exact ihb hws' he hb
  | alt a b iha ihb =>
    obtain ⟨hna, hnb⟩ := Bool.and_eq_true _ _ |>.mp hn
    exact h.elim (iha hna hc) (ihb hnb hc)
  | opt greedy body ih =>
    obtain ⟨hbody, hk⟩ := Bool.and_eq_true _ _ |>.mp hn
    rcases h with rfl | h
    · exact ⟨ws, hk, hc⟩
    · exact ih hbody hc h
  | star m greedy body ih =>
    obtain ⟨hbody, hk⟩ := Bool.and_eq_true _ _ |>.mp hn
    obtain ⟨e, hpass, hrounds⟩ := h
    have he := Cursor.reads_passAny? hpass
    rcases Relation.ReflTransGen.cases_head hrounds with rfl | ⟨_, ⟨e', hlead, _⟩, _⟩
    · exact ⟨ws, hk, hc.of_reads_nil he⟩
    · obtain ⟨ws', hws', _⟩ := ih hbody (hc.of_reads_nil he) hlead
      cases hws'
  | plus m greedy body ih =>
    obtain ⟨e, ⟨e', hlead, _⟩, _⟩ := Relation.TransGen.head'_iff.mp h
    obtain ⟨ws', hws', _⟩ := ih hn hc hlead
    cases hws'
  | mark m => cases hn

end

/-- A word of letters that is none of `ws` in any case. -/
structure OtherWord (ws : List Text) (x : Text) : Prop where
  ne_nil : x ≠ []
  letters : ∀ a ∈ x, a ∈ asciiLetters
  other : x.map Char.toLower ∉ ws

theorem OtherWord.of_lower {ws : List Text} {x y : Text} (hx : OtherWord ws x)
    (hletters : ∀ a ∈ y, a ∈ asciiLetters) (hlower : y.map Char.toLower = x.map Char.toLower) :
    OtherWord ws y where
  ne_nil := by
    rintro rfl
    exact hx.ne_nil (List.map_eq_nil_iff.mp hlower.symm)
  letters := hletters
  other := by
    rw [hlower]
    exact hx.other

theorem OtherWord.lower {ws : List Text} {w : Text} (hne : w ≠ []) (hw : ∀ a ∈ w, a ∈ asciiLetters)
    (h : w.lower ∉ ws) : OtherWord ws w.lower := by
  have hsmall : ∀ a ∈ w.lower, a ∈ smallLetters := by
    rw [lower_letters hw]
    intro a ha
    obtain ⟨b, hb, rfl⟩ := List.mem_map.mp ha
    exact toLower_mem (hw b hb)
  have hletters : ∀ a ∈ w.lower, a ∈ asciiLetters := fun a ha => (smallLetters_sound a (hsmall a ha)).1
  refine ⟨?_, hletters, ?_⟩
  · rw [lower_letters hw]
    exact mt List.map_eq_nil_iff.mp hne
  · rwa [← lower_letters hletters, lower_small hsmall]

theorem OtherWord.isSolid {ws : List Text} {x : Text} (h : OtherWord ws x) : isSolid x = true :=
  isSolid_of_isBlank h.ne_nil fun a ha => (asciiLetters_sound a (h.letters a ha)).2.1

section
variable {next : List Char} (hnext : ∀ a ∈ next, a ∈ stopChars)
include hnext

theorem dead_of_avoids {n : Node} {ws : List Text} (hn : n.avoids next (fun _ => false) ws = true)
    (hws : [] ∉ ws) {x rest : Text} (hx : OtherWord ws x) (hrest : ∀ a ∈ rest.head?, a ∈ next) :
    n.Dead (x ++ rest) := by
  intro c d hc hd
  obtain ⟨ws', hws', _⟩ := avoids_sound hrest hnext hn ⟨⟨x, hc, hx.letters, hx.other⟩, fun h => absurd h hws⟩ hd
  cases hws'

theorem deadIn_letters {n : Node} (hn : n.avoids next (fun _ => false) [] = true) {x rest : Text}
    (hx : ∀ a ∈ x, a ∈ asciiLetters) (hrest : ∀ a ∈ rest.head?, a ∈ next) : n.DeadIn x rest := by
  intro y c z hyz
  rw [← List.cons_append]
  refine dead_of_avoids hnext hn List.not_mem_nil ⟨List.cons_ne_nil c z, fun a ha => ?_, List.not_mem_nil⟩ hrest
  exact hx a (by rw [hyz]; exact List.mem_append_right y ha)

end

/-- Whether a pattern begins with one of `ws` at the start of a word, or else with no letter. White
space may precede it. -/
def opensWith (ws : List Text) (n : Node) : Bool :=
  match n.core with
  | seq (assertion (.boundary .unicode)) m => m.avoids gapChars (fun _ => false) ws
  | m => m.avoids gapChars (fun _ => false) []

/-- No match starts in a word or in the gap before it, wherever it stands. -/
def Passes (n : Node) (x : Text) : Prop :=
  ∀ (g rest : Text) (before : Option Char), IsGap g → (∀ a ∈ rest.head?, a ∈ gapChars) →
    n.Misses before (g ++ x) rest

/-- A pattern that needs the start of a word in front finds nothing inside a word. -/
theorem not_leads_inside {n m : Node} (hn : n.core = seq bound m) {c d : Cursor} {a b : Char} {t : Text}
    (hbefore : c.before = some a) (hrest : c.rest = b :: t) (ha : a ∈ asciiLetters)
    (hb : b ∈ asciiLetters) : ¬ n.Leads c d := by
  intro h
  obtain ⟨hworda, _⟩ := asciiLetters_sound a ha
  obtain ⟨hwordb, hblank, _⟩ := asciiLetters_sound b hb
  obtain ⟨x, e, hx, hall, hcore⟩ := h.core
  have hnil : x = [] := by
    have heq := hrest.symm.trans hx.rest_eq
    cases x with
    | nil => rfl
    | cons a' x =>
      obtain ⟨rfl, _⟩ := List.cons.inj heq
      rw [hall b List.mem_cons_self] at hblank
      cases hblank
  subst hnil
  rw [hn] at hcore
  obtain ⟨_, ⟨hholds, _⟩, _⟩ := hcore
  have herest : e.rest = b :: t := hx.rest_eq.symm.trans hrest
  have hebefore : e.before = some a := hx.before_eq.trans hbefore
  rw [herest, hebefore] at hholds
  simp [Assertion.holds, WordRule.holds, hworda, hwordb] at hholds

theorem passes_of_opensWith {n : Node} {ws : List Text} (hgaps : n.skipsGaps = true)
    (hn : n.opensWith ws = true) (hws : [] ∉ ws) {x : Text} (hx : OtherWord ws x) : n.Passes x := by
  intro g rest before hg hrest
  unfold opensWith at hn
  split at hn
  case h_1 m hcore =>
    obtain ⟨c, y, rfl⟩ := List.exists_cons_of_ne_nil hx.ne_nil
    have hc : c ∈ asciiLetters := hx.letters c List.mem_cons_self
    have hstart : n.core.DeadIn [c] (y ++ rest) := by
      refine deadIn_cons_iff.mpr ⟨?_, deadIn_nil _ _⟩
      rw [hcore]
      rintro p q hp ⟨_, ⟨_, rfl⟩, hm⟩
      exact dead_of_avoids gaps_stop hn hws hx hrest _ q hp hm
    have hfirst := deadIn_word hgaps hg (by simp [isSolid, (asciiLetters_sound c hc).2.1]) hstart
    rw [show g ++ c :: y = (g ++ [c]) ++ y by simp]
    refine (hfirst.misses before).append fun u d v huv => ?_
    -- Before every other letter stands a letter.
    have hlast : ∃ a ∈ asciiLetters, lastOf (lastOf before (g ++ [c])) u = some a := by
      rw [lastOf_concat]
      cases hu : u.getLast? with
      | none => exact ⟨c, hc, by rw [lastOf, hu, Option.none_or]⟩
      | some a =>
        refine ⟨a, hx.letters a (List.mem_cons_of_mem c ?_), by rw [lastOf, hu, Option.some_or]⟩
        rw [huv]
        exact List.mem_append_left _ (List.mem_of_getLast? hu)
    obtain ⟨a, ha, hbefore⟩ := hlast
    have hd : d ∈ asciiLetters :=
      hx.letters d (List.mem_cons_of_mem c (by rw [huv]; exact List.mem_append_right u List.mem_cons_self))
    exact matchAt?_eq_none fun q => not_leads_inside hcore hbefore rfl ha hd
  case h_2 m _ =>
    exact (deadIn_word hgaps hg hx.isSolid (deadIn_letters gaps_stop hn hx.letters hrest)).misses before

theorem passes_of_stopsIn {n : Node} (hgaps : n.skipsGaps = true) {x : Text}
    (hlast : ∀ a ∈ x.getLast?, Unicode.isBlank a = false) (hne : x ≠ [])
    (hx : n.core.stopsIn gapChars x = true) : n.Passes x := by
  intro g rest before hg hrest
  refine (DeadIn.of_core ((deadIn_gap hgaps hg _).append (deadIn_of_stopsIn hx hrest)) fun a ha => ?_).misses before
  rw [List.getLast?_append, List.getLast?_eq_some_getLast hne, Option.some_or] at ha
  exact hlast a (by rwa [List.getLast?_eq_some_getLast hne])

/-- A pattern that passes over all words finds nothing among them. -/
theorem misses_spaced {n : Node} {xs : List Text} (hxs : ∀ x ∈ xs, n.Passes x) (before : Option Char)
    {rest : Text} (hrest : ∀ a ∈ rest.head?, a ∈ gapChars) :
    n.Misses before (xs.flatMap (' ' :: ·)) rest := by
  induction xs generalizing before with
  | nil => exact misses_nil n before rest
  | cons x xs ih =>
    rw [List.flatMap_cons]
    refine Misses.append ?_ (ih (fun y hy => hxs y (List.mem_cons_of_mem x hy)) _)
    refine hxs x List.mem_cons_self [' '] _ before isGap_blank fun a ha => ?_
    cases xs with
    | nil => exact hrest a ha
    | cons y xs =>
      cases ha
      exact List.mem_cons_self

end Dictation.Node
