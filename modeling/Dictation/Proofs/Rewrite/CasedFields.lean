import Dictation.Casing
import Dictation.Proofs.Rewrite.Markers
import Dictation.Source.Identifier
/-!
# Fields of a name and their case

A field of a name is spoken word by word behind a marker for its case, and a word for the low line stands
behind it. Each rule for a marker writes the fields of one casing. Most markers also take the first half
of the word for the low line, which stays what it is.
-/
namespace Dictation

open Node Text

namespace Casing

def write : Casing → List Text → Text
  | capCamel, ws => ws.flatMap title
  | camel, ws => ActionFunction.camelCase ws
  | allCaps, ws => (join [' '] ws).upper
  | cap, ws => (join [' '] ws).title
  | plain, ws => join [' '] ws

/-- Whether words are written as one. There is then no gap behind them, either. -/
def glues : Casing → Bool
  | capCamel | camel => true
  | _ => false

/-- The place of a casing among the rules. A plain field is what it is at any time. -/
def rank : Casing → Nat
  | capCamel => 0
  | camel => 1
  | allCaps => 2
  | cap => 3
  | plain => 5

theorem rank_inj {c d : Casing} (h : c.rank = d.rank) : c = d := by
  cases c <;> cases d <;> first | rfl | cases h

/-- What stands before the word for a low line behind a field that was written. -/
def gap (c : Casing) : Text := if c.glues then [] else [' ']

/-- The word for a low line behind a field that was written. -/
def low (c : Casing) : Text := if c = allCaps then "_UNDER-score".toList else Source.under

end Casing

/-- A field of a name: its casing and its words. -/
structure NameField where
  casing : Casing
  words : List Text

/-- A field that can be read back. -/
structure NameField.Valid (f : NameField) : Prop where
  ne_nil : f.words ≠ []
  other : ∀ w ∈ f.words, OtherWord triggerWords w
  single : f.casing.glues = false → ∃ w, f.words = [w]

theorem Node.OtherWord.isWord {ws : List Text} {x : Text} (h : OtherWord ws x) : IsWord x where
  ne_nil := h.ne_nil
  chars a ha := (asciiLetters_sound a (h.letters a ha)).1
  blank a ha := (asciiLetters_sound a (h.letters a ha)).2.1

section
variable {s : String} (hs : Marker s) (hn : (markedWords s).consumes = true)
  (hstops : (markedWords s).stopsIn gapChars "-score".toList = true) {ws : List Text} (hne : ws ≠ [])
  (hws : ∀ w ∈ ws, IsWord w) (f : Match → Text) {b : Option Char} (hb : ∀ a ∈ b, isWordChar a = false)
include hs hn hne hws hb

theorem replaceFrom_words :
    (markedWords s).replaceFrom f b (s.toList ++ ([' '] ++ join [' '] ws)) =
      f ⟨s.toList ++ ([' '] ++ join [' '] ws), [(1, join [' '] ws)]⟩ := by
  obtain ⟨w, ws, rfl⟩ := List.exists_cons_of_ne_nil hne
  have hdead : (seq someBlanks wordChars).Dead [] := ((Begins.set .space).plus none true).seq.dead nofun
  have hmatch := markedWords_matchAt? hs hb hws (t := []) nofun hdead
  have hfound := replaceFrom_found hn f hmatch rfl
  rw [replaceFrom_nil hn, List.append_nil, List.append_nil] at hfound
  exact hfound

include hstops

theorem replaceFrom_words_under {rest : Text} (hrest : ∀ a ∈ rest.head?, a ∈ gapChars) :
    ∃ b', (markedWords s).replaceFrom f b
        (s.toList ++ ([' '] ++ join [' '] (ws ++ ["_under".toList])) ++ ("-score".toList ++ rest)) =
      f ⟨s.toList ++ ([' '] ++ join [' '] (ws ++ ["_under".toList])),
        [(1, join [' '] (ws ++ ["_under".toList]))]⟩ ++
          ("-score".toList ++ (markedWords s).replaceFrom f b' rest) := by
  obtain ⟨w, ws, rfl⟩ := List.exists_cons_of_ne_nil hne
  have hunder : IsWord "_under".toList := ⟨by decide, by decide, by decide⟩
  have hall : ∀ y ∈ (w :: ws) ++ ["_under".toList], IsWord y := by
    intro y hy
    rcases List.mem_append.mp hy with hy | hy
    · exact hws y hy
    · exact List.mem_singleton.mp hy ▸ hunder
  have hhyphen : ∀ a ∈ ("-score".toList ++ rest).head?, isWordChar a = false ∧ Unicode.isBlank a = false := by
    intro a ha
    cases ha
    decide
  have hdead : (seq someBlanks wordChars).Dead ("-score".toList ++ rest) :=
    ((Begins.set .space).plus none true).seq.dead fun a ha => (hhyphen a ha).2
  have hmatch := markedWords_matchAt? hs hb hall (fun a ha => (hhyphen a ha).1) hdead
  have hmiss : ∀ b, (markedWords s).Misses b "-score".toList rest := fun b =>
    (deadIn_of_stopsIn hstops hrest).misses b
  have hfound := replaceFrom_found hn f hmatch rfl
  rw [replaceFrom_misses hn f (hmiss _)] at hfound
  exact ⟨_, hfound⟩

end

namespace RuleTable

/-- A rule that writes the fields of one casing, wherever they stand. -/
structure Writes (r : Pattern × Action) (c : Casing) : Prop where
  last {ws : List Text} {b : Option Char} : (⟨c, ws⟩ : NameField).Valid → (∀ a ∈ b, isWordChar a = false) →
    r.1.node.replaceFrom (r.2.apply r.1) b (join [' '] (c.markers ++ ws)) = c.write ws
  inner {ws : List Text} {b : Option Char} {rest : Text} : (⟨c, ws⟩ : NameField).Valid →
    (∀ a ∈ b, isWordChar a = false) → (∀ a ∈ rest.head?, a ∈ gapChars) →
    ∃ b', r.1.node.replaceFrom (r.2.apply r.1) b
        (join [' '] (c.markers ++ ws) ++ ([' '] ++ Source.under) ++ rest) =
      c.write ws ++ (c.gap ++ c.low) ++ r.1.node.replaceFrom (r.2.apply r.1) b' rest

theorem under_halves : Source.under = "_under".toList ++ "-score".toList := by decide

/-- A rule for several words writes fields if it writes their words and keeps the half of the word
behind them. -/
theorem writes_words {s : String} (hs : s ∈ markers) {r : Pattern × Action} {c : Casing}
    (hr : r.1.node = markedWords s) (hmarkers : c.markers ≠ [] ∧ join [' '] c.markers = s.toList)
    (hwrite : ∀ {ws : List Text} (t : Text), (⟨c, ws⟩ : NameField).Valid →
      r.2.apply r.1 ⟨t, [(1, join [' '] ws)]⟩ = c.write ws)
    (hunder : ∀ {ws : List Text} (t : Text), (⟨c, ws⟩ : NameField).Valid →
      r.2.apply r.1 ⟨t, [(1, join [' '] (ws ++ ["_under".toList]))]⟩ ++ "-score".toList =
        c.write ws ++ (c.gap ++ c.low)) : Writes r c := by
  have hnode : ∀ s ∈ markers, (markedWords s).consumes = true ∧
      (markedWords s).stopsIn gapChars "-score".toList = true := by decide
  obtain ⟨hn, hstops⟩ := hnode s hs
  obtain ⟨hne, hjoin⟩ := hmarkers
  have hspoken : ∀ {ws : List Text}, ws ≠ [] → join [' '] (c.markers ++ ws) = s.toList ++ ([' '] ++ join [' '] ws) := by
    intro ws hws
    rw [join_append hne hws, hjoin, List.append_assoc]
  constructor
  · intro ws b hvalid hb
    have hwords : ∀ w ∈ ws, IsWord w := fun w hw => (hvalid.other w hw).isWord
    rw [hspoken hvalid.ne_nil, hr,
      replaceFrom_words (markers_sound s hs) hn hvalid.ne_nil hwords (r.2.apply r.1) hb]
    exact hwrite _ hvalid
  · intro ws b rest hvalid hb hrest
    have hwords : ∀ w ∈ ws, IsWord w := fun w hw => (hvalid.other w hw).isWord
    have htext : join [' '] (c.markers ++ ws) ++ ([' '] ++ Source.under) ++ rest =
        s.toList ++ ([' '] ++ join [' '] (ws ++ ["_under".toList])) ++ ("-score".toList ++ rest) := by
      rw [hspoken hvalid.ne_nil, join_append hvalid.ne_nil (List.cons_ne_nil _ _), under_halves]
      simp only [join, List.append_assoc]
    obtain ⟨b', hfound⟩ := replaceFrom_words_under (markers_sound s hs) hn hstops hvalid.ne_nil hwords
      (r.2.apply r.1) hb hrest
    rw [htext, hr, hfound, ← List.append_assoc, hunder _ hvalid]
    exact ⟨b', rfl⟩

theorem words_valid {c : Casing} {ws : List Text} (h : (⟨c, ws⟩ : NameField).Valid) :
    (join [' '] ws).words = ws ∧ (join [' '] (ws ++ ["_under".toList])).words = ws ++ ["_under".toList] := by
  have hsolid : ∀ w ∈ ws, isSolid w = true := fun w hw => (h.other w hw).isSolid
  have hunder : isSolid "_under".toList = true := by decide
  refine ⟨words_join hsolid, words_join fun w hw => ?_⟩
  rcases List.mem_append.mp hw with hw | hw
  · exact hsolid w hw
  · exact List.mem_singleton.mp hw ▸ hunder

theorem title_under : title "_under".toList = "_under".toList := by decide

theorem capCamelRow_writes : Writes capCamelRow .capCamel := by
  refine writes_words (s := "cap camel") (by decide) rfl (by decide) (fun {ws} t h => ?_) fun {ws} t h => ?_
  · change (join [' '] ws).words.flatMap title = ws.flatMap title
    rw [(words_valid h).1]
  · change (join [' '] (ws ++ ["_under".toList])).words.flatMap title ++ _ = ws.flatMap title ++ Source.under
    rw [(words_valid h).2, List.flatMap_append, List.flatMap_singleton, title_under, under_halves,
      List.append_assoc]

theorem camelRow_writes : Writes camelRow .camel := by
  refine writes_words (s := "camel") (by decide) rfl (by decide) (fun {ws} t h => ?_) fun {ws} t h => ?_
  · change ActionFunction.camelCase (join [' '] ws).words = ActionFunction.camelCase ws
    rw [(words_valid h).1]
  · change ActionFunction.camelCase (join [' '] (ws ++ ["_under".toList])).words ++ _ =
      ActionFunction.camelCase ws ++ Source.under
    obtain ⟨w, us, rfl⟩ := List.exists_cons_of_ne_nil h.ne_nil
    rw [(words_valid h).2, List.cons_append, ActionFunction.camelCase, ActionFunction.camelCase,
      List.flatMap_append, List.flatMap_singleton, title_under, under_halves]
    simp only [List.append_assoc]

theorem allCapsRow_writes : Writes allCapsRow .allCaps := by
  refine writes_words (s := "all caps") (by decide) rfl (by decide) (fun {ws} t h => rfl) fun {ws} t h => ?_
  obtain ⟨w, rfl⟩ := h.single rfl
  have hunder : upper [' '] ++ (upper "_under".toList ++ "-score".toList) = [' '] ++ "_UNDER-score".toList := by
    decide
  have happend : ∀ x y : Text, upper (x ++ y) = upper x ++ upper y := fun x y => List.flatMap_append
  change upper (w ++ [' '] ++ "_under".toList) ++ _ = upper w ++ ([' '] ++ "_UNDER-score".toList)
  rw [happend, happend, ← hunder]
  simp only [List.append_assoc]

/-- The rule for a single word leaves the word for the low line alone. -/
theorem capsRow_writes : Writes capsRow .cap := by
  have hnode : (markedWord "cap").consumes = true ∧
      (markedWord "cap").stopsIn gapChars ([' '] ++ Source.under) = true := by decide
  obtain ⟨hn, hstops⟩ := hnode
  have hmarker := markers_sound "cap" (by decide)
  constructor
  · intro ws b h hb
    obtain ⟨w, rfl⟩ := h.single rfl
    have hword : IsWord w := (h.other w List.mem_cons_self).isWord
    have hmatch := markedWord_matchAt? hmarker hb hword (t := []) nofun
    have hfound := replaceFrom_found hn (capsRow.2.apply capsRow.1) hmatch rfl
    rw [replaceFrom_nil hn, List.append_nil, List.append_nil] at hfound
    exact hfound
  · intro ws b rest h hb hrest
    obtain ⟨w, rfl⟩ := h.single rfl
    have hword : IsWord w := (h.other w List.mem_cons_self).isWord
    have hblank : ∀ a ∈ (([' '] ++ Source.under) ++ rest).head?, isWordChar a = false := by
      intro a ha
      cases ha
      decide
    have hmatch := markedWord_matchAt? hmarker hb hword hblank
    have hmiss : ∀ b, (markedWord "cap").Misses b ([' '] ++ Source.under) rest := fun b =>
      (deadIn_of_stopsIn hstops hrest).misses b
    have hfound := replaceFrom_found hn (capsRow.2.apply capsRow.1) hmatch rfl
    have hgroup : ∀ x y : Text, x ++ (([' '] ++ Source.under) ++ y) = x ++ ([' '] ++ Source.under) ++ y :=
      fun x y => (List.append_assoc x _ y).symm
    rw [replaceFrom_misses hn (capsRow.2.apply capsRow.1) (hmiss _), hgroup, hgroup] at hfound
    exact ⟨_, hfound⟩

end RuleTable

namespace NameField

variable {f : NameField}

/-- A field of a single word is another word when it is written. -/
theorem Valid.write_other (h : f.Valid) (hglues : f.casing.glues = false) :
    OtherWord triggerWords (f.casing.write f.words) := by
  obtain ⟨c, ws⟩ := f
  obtain ⟨w, hw⟩ := h.single hglues
  obtain rfl : ws = [w] := hw
  have hword : OtherWord triggerWords w := h.other w List.mem_cons_self
  cases c with
  | capCamel => cases hglues
  | camel => cases hglues
  | allCaps => exact hword.of_lower (upper_mem hword.letters).1 (upper_mem hword.letters).2
  | cap => exact hword.of_lower (title_mem hword.letters).1 (title_mem hword.letters).2
  | plain => exact hword

theorem Valid.write_letters (h : f.Valid) : ∀ a ∈ f.casing.write f.words, a ∈ asciiLetters := by
  by_cases hglues : f.casing.glues = true
  · obtain ⟨c, ws⟩ := f
    have htitles : ∀ us : List Text, (∀ w ∈ us, OtherWord triggerWords w) →
        ∀ a ∈ us.flatMap title, a ∈ asciiLetters := by
      intro us hus a ha
      obtain ⟨w, hw, ha⟩ := List.mem_flatMap.mp ha
      exact (title_mem (hus w hw).letters).1 a ha
    cases c with
    | capCamel => exact htitles ws h.other
    | camel =>
      obtain ⟨w, us, rfl⟩ := List.exists_cons_of_ne_nil h.ne_nil
      have hw : ∀ a ∈ w, a ∈ asciiLetters := (h.other w List.mem_cons_self).letters
      intro a ha
      rcases List.mem_append.mp ha with ha | ha
      · rw [lower_letters hw] at ha
        obtain ⟨b, hb, rfl⟩ := List.mem_map.mp ha
        exact (smallLetters_sound _ (toLower_mem (hw b hb))).1
      · exact htitles us (fun w hw => h.other w (List.mem_cons_of_mem _ hw)) a ha
    | _ => cases hglues
  · exact (h.write_other (by simpa using hglues)).letters

theorem Valid.write_ne_nil (h : f.Valid) : f.casing.write f.words ≠ [] := by
  obtain ⟨c, ws⟩ := f
  obtain ⟨w, us, rfl⟩ := List.exists_cons_of_ne_nil h.ne_nil
  have hw := h.other w List.mem_cons_self
  have htitle : w.title ≠ [] := fun hnil => hw.ne_nil (by
    have hlower := (title_mem hw.letters).2
    rw [hnil] at hlower
    exact List.map_eq_nil_iff.mp hlower.symm)
  by_cases hglues : c.glues = true
  · cases c with
    | capCamel => exact List.append_ne_nil_of_left_ne_nil htitle _
    | camel =>
      refine List.append_ne_nil_of_left_ne_nil ?_ _
      rw [lower_letters hw.letters]
      exact mt List.map_eq_nil_iff.mp hw.ne_nil
    | _ => cases hglues
  · exact (h.write_other (by simpa using hglues)).ne_nil

variable (k : Nat)

/-- A field before the rule of a certain place. -/
def form (f : NameField) : Text :=
  if f.casing.rank < k then f.casing.write f.words else join [' '] (f.casing.markers ++ f.words)

/-- What stands for the low line behind a field. -/
def under (f : NameField) : Text :=
  if f.casing.rank < k then f.casing.gap ++ f.casing.low else [' '] ++ Source.under

theorem form_succ {k : Nat} (h : f.casing.rank ≠ k) : f.form (k + 1) = f.form k := by
  have hiff : f.casing.rank < k + 1 ↔ f.casing.rank < k := by omega
  simp only [form, hiff]

theorem under_succ {k : Nat} (h : f.casing.rank ≠ k) : f.under (k + 1) = f.under k := by
  have hiff : f.casing.rank < k + 1 ↔ f.casing.rank < k := by omega
  simp only [under, hiff]

theorem Valid.form_ne_nil (h : f.Valid) : f.form k ≠ [] := by
  unfold form
  split
  · exact h.write_ne_nil
  · obtain ⟨w, us, hw⟩ := List.exists_cons_of_ne_nil h.ne_nil
    have hmem : w ∈ f.words := hw ▸ List.mem_cons_self
    obtain ⟨a, x, ha⟩ := List.exists_cons_of_ne_nil (h.other w hmem).ne_nil
    exact List.ne_nil_of_mem (mem_join_of_mem (List.mem_append_right _ hmem) (ha ▸ List.mem_cons_self))

end NameField

/-- What a pattern needs to pass over all fields, except those for the rule of a certain place. -/
structure Passing (k : Nat) (n : Node) : Prop where
  consumes : n.consumes = true
  blank (b : Option Char) (rest : Text) : n.Misses b [' '] rest
  low : n.Passes Source.under ∧ n.Passes "_UNDER-score".toList
  dunder : n.Passes Source.dunder
  other {x : Text} : OtherWord triggerWords x → n.Passes x
  /-- Letters right before a low line or the end. -/
  apart {x rest : Text} (b : Option Char) : (∀ a ∈ x, a ∈ asciiLetters) → (∀ a ∈ rest.head?, a = '_') →
    n.Misses b x rest
  spoken {f : NameField} {rest : Text} (b : Option Char) : f.Valid → k < f.casing.rank →
    (∀ a ∈ rest.head?, a ∈ gapChars) → n.Misses b (join [' '] (f.casing.markers ++ f.words)) rest

namespace Passing

variable {k : Nat} {n : Node} (hn : Passing k n) {f : NameField} (hf : f.Valid) (hrank : f.casing.rank ≠ k)
include hn hf hrank

theorem misses_form (b : Option Char) : n.Misses b (f.form k) [] := by
  unfold NameField.form
  split
  case isTrue => exact hn.apart b hf.write_letters nofun
  case isFalse h => exact hn.spoken b hf (by omega) nofun

theorem misses_under (b : Option Char) {rest : Text} (hrest : ∀ a ∈ rest.head?, a ∈ gapChars) :
    n.Misses b (f.form k ++ f.under k) rest := by
  unfold NameField.form NameField.under
  split
  case isTrue =>
    unfold Casing.gap Casing.low
    by_cases hglues : f.casing.glues = true
    · have hcase : f.casing ≠ .allCaps := by
        intro h
        rw [h] at hglues
        cases hglues
      rw [if_pos hglues, if_neg hcase]
      refine (hn.apart b hf.write_letters fun a ha => ?_).append (hn.low.1 [] rest _ isGap_nil hrest)
      cases ha
      rfl
    · have hother := hf.write_other (by simpa using hglues)
      have hgap : ∀ x : Text, ∀ a ∈ ([' '] ++ x ++ rest).head?, a ∈ gapChars := by
        intro x a ha
        cases ha
        exact List.mem_cons_self
      rw [if_neg hglues]
      refine (hn.other hother [] _ b isGap_nil (hgap _)).append ?_
      split
      · exact hn.low.2 [' '] rest _ isGap_blank hrest
      · exact hn.low.1 [' '] rest _ isGap_blank hrest
  case isFalse h =>
    refine (hn.spoken b hf (by omega) fun a ha => ?_).append (hn.low.1 [' '] rest _ isGap_blank hrest)
    cases ha
    exact List.mem_cons_self

end Passing

/-- Whether a pattern for words behind a marker stops at low lines and in other words. -/
def Node.isMarked (n m : Node) : Bool :=
  n.consumes && n.skipsGaps && n.opensWith triggerWords && m.avoids ['_'] (fun _ => false) [] &&
    [Source.under, "_UNDER-score".toList, Source.dunder].all (n.core.stopsIn gapChars)

section
variable {n m : Node} (hnode : n = seq bound m)
include hnode

theorem deadIn_bound {x rest : Text} (h : m.DeadIn x rest) : n.DeadIn x rest := by
  rintro y a z hyz c d hc hd
  rw [hnode] at hd
  obtain ⟨e, ⟨_, rfl⟩, hlead⟩ := hd
  exact h y a z hyz _ d hc hlead

theorem passing_of {k : Nat} (hmarked : n.isMarked m = true) (hspoken : ∀ (c : Casing) (ws : List Text) (b : Option Char) (rest : Text),
      (⟨c, ws⟩ : NameField).Valid → k < c.rank → (∀ a ∈ rest.head?, a ∈ gapChars) →
        (∀ x ∈ c.markers, n.core.stopsIn gapChars x = true) ∨ n.Misses b (join [' '] (c.markers ++ ws)) rest) :
    Passing k n := by
  obtain ⟨hconsumes, hgaps, hopens, hapart, hlow⟩ : n.consumes = true ∧ n.skipsGaps = true ∧
      n.opensWith triggerWords = true ∧ m.avoids ['_'] (fun _ => false) [] = true ∧
      ∀ x ∈ [Source.under, "_UNDER-score".toList, Source.dunder], n.core.stopsIn gapChars x = true := by
    simpa [Node.isMarked, and_assoc] using hmarked
  have hlast : ∀ x ∈ [Source.under, "_UNDER-score".toList, Source.dunder], x ≠ [] ∧
      x.getLast?.all (!Unicode.isBlank ·) = true := by decide
  have hpass : ∀ x ∈ [Source.under, "_UNDER-score".toList, Source.dunder], n.Passes x := fun x hx =>
    passes_of_stopsIn hgaps (by simpa [Option.all_eq_true] using (hlast x hx).2) (hlast x hx).1 (hlow x hx)
  refine ⟨hconsumes, ?blank, ⟨hpass _ (by simp), hpass _ (by simp)⟩, hpass _ (by simp), ?other, ?apart, ?spoken⟩
  case blank =>
    intro b rest
    have hdead := deadIn_gap hgaps isGap_blank rest
    rw [show n.core = n by rw [hnode]; rfl] at hdead
    exact hdead.misses b
  case other => exact fun hx => passes_of_opensWith hgaps hopens (by decide) hx
  case apart =>
    intro x rest b hx hrest
    have hstop : ∀ a ∈ ['_'], a ∈ stopChars := by decide
    refine (deadIn_bound hnode ?_).misses b
    exact deadIn_letters hstop hapart hx fun a ha => List.mem_singleton.mpr (hrest a ha)
  case spoken =>
    intro f rest b hf hrank hrest
    rcases hspoken f.casing f.words b rest hf hrank hrest with hstops | hmiss
    · have hsolid : ∀ c : Casing, ∀ x ∈ c.markers, x ≠ [] ∧ x.getLast?.all (!Unicode.isBlank ·) = true := by
        intro c
        cases c <;> decide
      refine misses_words (fun x hx => ?_) b hrest
      rcases List.mem_append.mp hx with hx | hx
      · obtain ⟨hne, hlast⟩ := hsolid f.casing x hx
        exact passes_of_stopsIn hgaps (by simpa [Option.all_eq_true] using hlast) hne (hstops x hx)
      · exact passes_of_opensWith hgaps hopens (by decide) (hf.other x hx)
    · exact hmiss

end

/-- Behind the marker `cap` stands a word other than `camel`. -/
theorem misses_cap {w rest : Text} (hw : OtherWord triggerWords w) (hrest : ∀ a ∈ rest.head?, a ∈ gapChars)
    (b : Option Char) : (markedWords "cap camel").Misses b (join [' '] ["cap".toList, w]) rest := by
  have hnode : markedWords "cap camel" = sequence (bound :: (literal "cap " ++ (literal "camel" ++
      [someBlanks, group 1 (seq wordChars (star none true (seq someBlanks wordChars)))]))) ∧
      (sequence (literal "cap ")).leftovers "cap ".toList = some [[]] ∧
      (sequence (literal "camel" ++ [someBlanks, group 1 (seq wordChars (star none true
        (seq someBlanks wordChars)))])).avoids gapChars (fun _ => false) triggerWords = true ∧
      (markedWords "cap camel").stopsIn [' '] "ap".toList = true ∧
      (markedWords "cap camel").skipsGaps = true ∧ (markedWords "cap camel").opensWith triggerWords = true := by
    decide
  obtain ⟨hsplit, hreads, havoids, hstops, hgaps, hopens⟩ := hnode
  have hdead : (markedWords "cap camel").Dead ("cap ".toList ++ (w ++ rest)) := by
    intro c d hc hd
    rw [hsplit] at hd
    obtain ⟨e, ⟨_, rfl⟩, hlead⟩ := leads_sequence_cons.mp hd
    obtain ⟨e', hcap, hcamel⟩ := leads_sequence_append.mp hlead
    obtain ⟨l, hl, he'⟩ := leavesOnly_leftovers _ hreads hc hcap
    rw [List.mem_singleton.mp hl] at he'
    exact dead_of_avoids gaps_stop havoids (by decide) hw hrest e' d he' hcamel
  have htext : join [' '] ["cap".toList, w] = ['c'] ++ ("ap".toList ++ ([' '] ++ w)) := rfl
  have hfirst : (markedWords "cap camel").DeadIn ['c'] (("ap".toList ++ ([' '] ++ w)) ++ rest) :=
    deadIn_cons_iff.mpr ⟨hdead, deadIn_nil _ _⟩
  rw [htext]
  refine (hfirst.misses b).append ?_
  refine Misses.append (DeadIn.misses (deadIn_of_stopsIn hstops fun a ha => ?_) _) ?_
  · cases ha
    exact List.mem_cons_self
  · exact passes_of_opensWith hgaps hopens (by decide) hw [' '] rest _ isGap_blank hrest

namespace RuleTable

theorem markedWords_eq : ∀ s ∈ markers, markedWords s = seq bound (sequence (literal s ++
    [someBlanks, group 1 (seq wordChars (star none true (seq someBlanks wordChars)))])) ∧
    markedWord s = seq bound (sequence (literal s ++ [someBlanks, group 1 wordChars])) := by
  decide

theorem capCamelRow_passing : Passing 0 capCamelRow.1.node := by
  refine passing_of (markedWords_eq "cap camel" (by decide)).1 (by decide) ?_
  intro c ws b rest h hrank hrest
  cases c with
  | capCamel => cases hrank
  | cap =>
    obtain ⟨w, rfl⟩ := h.single rfl
    exact .inr (misses_cap (h.other w List.mem_cons_self) hrest b)
  | _ => exact .inl (by decide)

theorem camelRow_passing : Passing 1 camelRow.1.node := by
  refine passing_of (markedWords_eq "camel" (by decide)).1 (by decide) ?_
  intro c ws b rest h hrank hrest
  cases c with
  | capCamel => cases hrank
  | camel => exact absurd hrank (by decide)
  | _ => exact .inl (by decide)

theorem allCapsRow_passing : Passing 2 allCapsRow.1.node := by
  refine passing_of (markedWords_eq "all caps" (by decide)).1 (by decide) ?_
  intro c ws b rest h hrank hrest
  cases c with
  | cap => exact .inl (by decide)
  | plain => exact .inl (by decide)
  | _ => exact absurd hrank (by decide)

theorem capsRow_passing : Passing 3 capsRow.1.node := by
  refine passing_of (markedWords_eq "cap" (by decide)).2 (by decide) ?_
  intro c ws b rest h hrank hrest
  cases c with
  | plain => exact .inl (by decide)
  | _ => exact absurd hrank (by decide)

theorem lowercase_passing : Passing 4 (markedWord "lowercase") := by
  refine passing_of (markedWords_eq "lowercase" (by decide)).2 (by decide) ?_
  intro c ws b rest h hrank hrest
  cases c with
  | plain => exact .inl (by decide)
  | _ => exact absurd hrank (by decide)

end RuleTable

end Dictation
