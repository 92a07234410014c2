import Dictation.Proofs.Rewrite.CasedFields
/-!
# Names and their case

A name is spoken field by field, with a word for each low line between them and maybe with a marker for
doubled low lines in front. The rules for markers write its fields, the fields of one casing after those
of another.
-/
namespace Dictation

open Node Text

/-- A text with a blank before it, unless it is empty. -/
def spaced (t : Text) : Text := if t.isEmpty then [] else ' ' :: t

theorem head_spaced (t : Text) : ∀ a ∈ (spaced t).head?, a ∈ gapChars := by
  intro a ha
  unfold spaced at ha
  split at ha
  · cases ha
  · cases ha
    exact List.mem_cons_self

/-- A name is a list of fields, of which some are empty. -/
abbrev NameFields := List (Option NameField)

namespace NameFields

def Valid (ps : NameFields) : Prop := ∀ f, some f ∈ ps → f.Valid

section
variable (k : Nat)

/-- A field, and what stands behind it for a low line. -/
def field : Option NameField → Text
  | none => []
  | some f => f.form k

def under : Option NameField → Text
  | none => Source.under
  | some f => f.under k

/-- A name before the rule of a certain place. -/
def text : NameFields → Text
  | [] => []
  | [p] => field k p
  | p :: q :: ps => field k p ++ under k p ++ spaced (text (q :: ps))

end

theorem Valid.tail {p : Option NameField} {ps : NameFields} (h : Valid (p :: ps)) : Valid ps :=
  fun f hf => h f (List.mem_cons_of_mem p hf)

theorem Valid.head {p : Option NameField} {ps : NameFields} (h : Valid (p :: ps)) : ∀ f, p = some f → f.Valid :=
  fun f hf => h f (hf ▸ List.mem_cons_self)

theorem under_ne_nil (k : Nat) (p : Option NameField) : under k p ≠ [] := by
  have hlow : ∀ c : Casing, c.gap ++ c.low ≠ [] := by
    intro c
    cases c <;> decide
  have hunder : Source.under ≠ [] := by decide
  cases p with
  | none => exact hunder
  | some f =>
    change (if _ then _ else _) ≠ []
    split
    · exact hlow f.casing
    · exact List.append_ne_nil_of_right_ne_nil _ hunder

theorem text_eq_nil_iff {ps : NameFields} (h : Valid ps) (k : Nat) : text k ps = [] ↔ ps = [] ∨ ps = [none] := by
  match ps with
  | [] => simp [text]
  | [none] => simp [text, field]
  | [some f] => simp [text, field, (h f List.mem_cons_self).form_ne_nil k]
  | p :: q :: ps => simp [text, under_ne_nil]

end NameFields

namespace RuleTable

section
variable {r : Pattern × Action} {c : Casing} (hwrites : Writes r c) (hpassing : Passing c.rank r.1.node)
include hwrites hpassing

theorem replaceFrom_field {p : Option NameField} (hp : ∀ f, p = some f → f.Valid) {b : Option Char}
    (hb : ∀ a ∈ b, isWordChar a = false) :
    r.1.node.replaceFrom (r.2.apply r.1) b (NameFields.field c.rank p) = NameFields.field (c.rank + 1) p := by
  cases p with
  | none => exact replaceFrom_nil hpassing.consumes _ b
  | some f =>
    have hf := hp f rfl
    by_cases hrank : f.casing.rank = c.rank
    · obtain ⟨d, ws⟩ := f
      obtain rfl : d = c := Casing.rank_inj hrank
      simp only [NameFields.field, NameField.form, Nat.lt_irrefl, if_false, Nat.lt_succ_self, if_true]
      exact hwrites.last hf hb
    · change _ = f.form (c.rank + 1)
      rw [NameField.form_succ hrank]
      exact replaceFrom_eq_self hpassing.consumes _ (hpassing.misses_form hf hrank b)

theorem replaceFrom_field_under {p : Option NameField} (hp : ∀ f, p = some f → f.Valid) {b : Option Char}
    (hb : ∀ a ∈ b, isWordChar a = false) {rest : Text} (hrest : ∀ a ∈ rest.head?, a ∈ gapChars) :
    ∃ b', r.1.node.replaceFrom (r.2.apply r.1) b (NameFields.field c.rank p ++ NameFields.under c.rank p ++ rest) =
      NameFields.field (c.rank + 1) p ++ NameFields.under (c.rank + 1) p ++
        r.1.node.replaceFrom (r.2.apply r.1) b' rest := by
  cases p with
  | none =>
    have hmiss := hpassing.low.1 [] rest b isGap_nil hrest
    exact ⟨_, replaceFrom_misses hpassing.consumes _ hmiss⟩
  | some f =>
    have hf := hp f rfl
    by_cases hrank : f.casing.rank = c.rank
    · obtain ⟨d, ws⟩ := f
      obtain rfl : d = c := Casing.rank_inj hrank
      simp only [NameFields.field, NameFields.under, NameField.form, NameField.under, Nat.lt_irrefl, if_false,
        Nat.lt_succ_self, if_true]
      exact hwrites.inner hf hb hrest
    · have hmiss := hpassing.misses_under hf hrank b hrest
      change ∃ b', _ = f.form (c.rank + 1) ++ f.under (c.rank + 1) ++ _
      rw [NameField.form_succ hrank, NameField.under_succ hrank]
      exact ⟨_, replaceFrom_misses hpassing.consumes _ hmiss⟩

theorem replaceFrom_name {ps : NameFields} (hps : ps.Valid) {b : Option Char}
    (hb : ∀ a ∈ b, isWordChar a = false) :
    r.1.node.replaceFrom (r.2.apply r.1) b (NameFields.text c.rank ps) = NameFields.text (c.rank + 1) ps := by
  induction ps generalizing b with
  | nil => exact replaceFrom_nil hpassing.consumes _ b
  | cons p ps ih =>
    cases ps with
    | nil => exact replaceFrom_field hwrites hpassing hps.head hb
    | cons q ps =>
      obtain ⟨b', hfield⟩ := replaceFrom_field_under hwrites hpassing hps.head hb
        (head_spaced (NameFields.text c.rank (q :: ps)))
      have hmore : r.1.node.replaceFrom (r.2.apply r.1) b' (spaced (NameFields.text c.rank (q :: ps))) =
          spaced (NameFields.text (c.rank + 1) (q :: ps)) := by
        have hiff := (NameFields.text_eq_nil_iff hps.tail c.rank).trans
          (NameFields.text_eq_nil_iff hps.tail (c.rank + 1)).symm
        by_cases hnil : NameFields.text c.rank (q :: ps) = []
        · rw [hnil, hiff.mp hnil]
          exact replaceFrom_nil hpassing.consumes _ b'
        · have hblank : ∀ a ∈ lastOf b' [' '], isWordChar a = false := by
            intro a ha
            cases ha
            decide
          have hskip := replaceFrom_misses hpassing.consumes (r.2.apply r.1)
            (hpassing.blank b' (NameFields.text c.rank (q :: ps)))
          rw [ih hps.tail hblank] at hskip
          rw [spaced, spaced, List.isEmpty_eq_false_iff.mpr hnil, List.isEmpty_eq_false_iff.mpr (mt hiff.mpr hnil)]
          exact hskip
      rw [NameFields.text, hfield, hmore]
      rfl

end

theorem misses_name {k : Nat} {n : Node} (hn : Passing k n) {ps : NameFields} (hps : ps.Valid)
    (hrank : ∀ c : Casing, c.rank ≠ k) (b : Option Char) : n.Misses b (NameFields.text k ps) [] := by
  induction ps generalizing b with
  | nil => exact misses_nil n b []
  | cons p ps ih =>
    cases ps with
    | nil =>
      cases p with
      | none => exact misses_nil n b []
      | some f => exact hn.misses_form (hps f List.mem_cons_self) (hrank _) b
    | cons q ps =>
      have hmore : ∀ b, n.Misses b (spaced (NameFields.text k (q :: ps))) [] := by
        intro b
        unfold spaced
        split
        · exact misses_nil n b []
        · exact (hn.blank b _).append (ih hps.tail _)
      have hhead : ∀ a ∈ (spaced (NameFields.text k (q :: ps)) ++ []).head?, a ∈ gapChars := by
        rw [List.append_nil]
        exact head_spaced _
      rw [NameFields.text]
      refine Misses.append ?_ (hmore _)
      cases p with
      | none => exact hn.low.1 [] _ b isGap_nil hhead
      | some f => exact hn.misses_under (hps f List.mem_cons_self) (hrank _) b hhead

end RuleTable

/-- A text behind the marker for doubled low lines, or without it. -/
def marked (doubled : Bool) (t : Text) : Text := if doubled then Source.dunder ++ ' ' :: t else t

namespace RuleTable

theorem misses_dunder {k : Nat} {n : Node} (hn : Passing k n) (t : Text) :
    n.Misses none (Source.dunder ++ [' ']) t := by
  refine (hn.dunder [] _ none isGap_nil fun a ha => ?_).append (hn.blank _ t)
  cases ha
  exact List.mem_cons_self

theorem rewrite_marked {r : Pattern × Action} {c : Casing} (hwrites : Writes r c)
    (hpassing : Passing c.rank r.1.node) {ps : NameFields} (hps : ps.Valid) (doubled : Bool) :
    rewrite r (marked doubled (ps.text c.rank)) = marked doubled (ps.text (c.rank + 1)) := by
  rw [rewrite_eq]
  cases doubled with
  | false => exact replaceFrom_name hwrites hpassing hps nofun
  | true =>
    have hblank : ∀ a ∈ lastOf none (Source.dunder ++ [' ']), isWordChar a = false := by
      intro a ha
      cases ha
      decide
    have hskip := replaceFrom_misses hpassing.consumes (r.2.apply r.1)
      (misses_dunder hpassing (ps.text c.rank))
    rw [replaceFrom_name hwrites hpassing hps hblank, List.append_assoc, List.append_assoc] at hskip
    exact hskip

theorem lowercaseRow_rewrite {a : Action} {gs : List (Option Text)} {ps : NameFields} (hps : ps.Valid)
    (doubled : Bool) :
    rewrite (⟨markedWord "lowercase", gs⟩, a) (marked doubled (ps.text 4)) = marked doubled (ps.text 4) := by
  have hrank : ∀ c : Casing, c.rank ≠ 4 := by
    intro c
    cases c <;> decide
  refine rewrite_of_misses lowercase_passing.consumes ?_
  cases doubled with
  | false => exact misses_name lowercase_passing hps hrank none
  | true =>
    have h := (misses_dunder lowercase_passing (ps.text 4 ++ [])).append
      (misses_name lowercase_passing hps hrank (lastOf none (Source.dunder ++ [' '])))
    rw [List.append_assoc] at h
    exact h

def markerRows : List (Pattern × Action) :=
  [capCamelRow, camelRow, allCapsRow, capsRow,
    (⟨markedWord "lowercase", [some "word".toList]⟩, .function "lowercase" .lowercase)]

theorem foldl_markerRows {ps : NameFields} (hps : ps.Valid) (doubled : Bool) :
    markerRows.foldl (fun t r => rewrite r t) (marked doubled (ps.text 0)) = marked doubled (ps.text 4) := by
  simp only [markerRows, List.foldl_cons, List.foldl_nil]
  rw [show rewrite capCamelRow (marked doubled (ps.text 0)) = marked doubled (ps.text 1) from
      rewrite_marked capCamelRow_writes capCamelRow_passing hps doubled,
    show rewrite camelRow (marked doubled (ps.text 1)) = marked doubled (ps.text 2) from
      rewrite_marked camelRow_writes camelRow_passing hps doubled,
    show rewrite allCapsRow (marked doubled (ps.text 2)) = marked doubled (ps.text 3) from
      rewrite_marked allCapsRow_writes allCapsRow_passing hps doubled,
    show rewrite capsRow (marked doubled (ps.text 3)) = marked doubled (ps.text 4) from
      rewrite_marked capsRow_writes capsRow_passing hps doubled]
  exact lowercaseRow_rewrite hps doubled

end RuleTable

namespace NameFields

def fieldWords : Option NameField → List Text
  | none => []
  | some f => f.casing.markers ++ f.words

def words : NameFields → List Text
  | [] => []
  | [p] => fieldWords p
  | p :: q :: ps => fieldWords p ++ Source.under :: words (q :: ps)

/-- The words that are spoken for names apart from their own. -/
def units : List Text := [Source.under, "cap".toList, "camel".toList, "all".toList, "caps".toList, Source.dunder]

theorem units_sound : Units units triggerWords ∧ ∀ u ∈ units, isSolid u = true := by
  have h : [] ∉ units ∧ (∀ u ∈ units, u.getLast?.all (!Unicode.isBlank ·) = true) ∧ [] ∉ triggerWords ∧
      ∀ u ∈ units, isSolid u = true := by decide
  obtain ⟨hne, hlast, hwords, hsolid⟩ := h
  exact ⟨⟨hne, fun u hu => by simpa [Option.all_eq_true] using hlast u hu, hwords⟩, hsolid⟩

theorem words_cases {ps : NameFields} (hps : ps.Valid) : ∀ x ∈ words ps, x ∈ units ∨ OtherWord triggerWords x := by
  have hmarkers : ∀ c : Casing, ∀ x ∈ c.markers, x ∈ units := by
    intro c
    cases c <;> decide
  have hfield : ∀ p, (∀ f, p = some f → f.Valid) → ∀ x ∈ fieldWords p, x ∈ units ∨ OtherWord triggerWords x := by
    intro p hp x hx
    cases p with
    | none => cases hx
    | some f =>
      rcases List.mem_append.mp hx with hx | hx
      · exact .inl (hmarkers f.casing x hx)
      · exact .inr ((hp f rfl).other x hx)
  induction ps with
  | nil => nofun
  | cons p ps ih =>
    cases ps with
    | nil => exact hfield p hps.head
    | cons q ps =>
      intro x hx
      rcases List.mem_append.mp hx with hx | hx
      · exact hfield p hps.head x hx
      · rcases List.mem_cons.mp hx with rfl | hx
        · exact .inl List.mem_cons_self
        · exact ih hps.tail x hx

theorem words_solid {ps : NameFields} (hps : ps.Valid) : ∀ x ∈ words ps, isSolid x = true := fun x hx =>
  (words_cases hps x hx).elim (units_sound.2 x) fun h => h.isSolid

theorem join_cons_spaced (x : Text) {xs : List Text} (hxs : ∀ y ∈ xs, isSolid y = true) :
    join [' '] (x :: xs) = x ++ spaced (join [' '] xs) := by
  cases xs with
  | nil => exact (List.append_nil x).symm
  | cons y ys =>
    have hne : join [' '] (y :: ys) ≠ [] := by
      rw [join_eq_flatMap]
      exact List.append_ne_nil_of_left_ne_nil (ne_nil_of_isSolid (hxs y List.mem_cons_self)) _
    rw [join_cons (List.cons_ne_nil y ys), spaced, List.isEmpty_eq_false_iff.mpr hne, List.append_assoc]
    rfl

/-- Before all rules, a name is its words with blanks between them. -/
theorem text_zero {ps : NameFields} (hps : ps.Valid) : text 0 ps = join [' '] (words ps) := by
  induction ps with
  | nil => rfl
  | cons p ps ih =>
    cases ps with
    | nil =>
      cases p with
      | none => rfl
      | some f => rfl
    | cons q ps =>
      have hmore := join_cons_spaced Source.under (words_solid hps.tail)
      rw [text, ih hps.tail, words]
      cases p with
      | none => exact hmore.symm
      | some f =>
        have hne : fieldWords (some f) ≠ [] :=
          List.append_ne_nil_of_right_ne_nil _ (hps f List.mem_cons_self).ne_nil
        rw [join_append hne (List.cons_ne_nil _ _), hmore]
        change join [' '] (fieldWords (some f)) ++ ([' '] ++ Source.under) ++ _ = _
        simp only [List.append_assoc]

/-- The words for a name, with the one for doubled low lines or without it. -/
def spoken (doubled : Bool) (ps : NameFields) : List Text :=
  if doubled then Source.dunder :: words ps else words ps

theorem spoken_cases {ps : NameFields} (hps : ps.Valid) (doubled : Bool) :
    ∀ x ∈ spoken doubled ps, x ∈ units ∨ OtherWord triggerWords x := by
  have hdunder : Source.dunder ∈ units := by decide
  intro x hx
  cases doubled with
  | false => exact words_cases hps x hx
  | true =>
    rcases List.mem_cons.mp hx with rfl | hx
    · exact .inl hdunder
    · exact words_cases hps x hx

theorem marked_text_zero {ps : NameFields} (hps : ps.Valid) (hne : words ps ≠ []) (doubled : Bool) :
    marked doubled (text 0 ps) = join [' '] (spoken doubled ps) := by
  rw [text_zero hps]
  cases doubled with
  | false => rfl
  | true =>
    change Source.dunder ++ ' ' :: join [' '] (words ps) = join [' '] (Source.dunder :: words ps)
    rw [join_cons hne, List.append_assoc]
    rfl

end NameFields

end Dictation
