import Dictation.Proofs.Rewrite.Frames
import Dictation.Proofs.Rewrite.SpokenWords
import Dictation.Proofs.Text.Fields
/-!
# What becomes of spoken operators

The shipped rules turn a text of spoken operators into the operators, with white space between some of
them. Only the name of an operator that a low line follows can stay, if its own rule comes after the
rule for the low line, which takes away the white space that shows where the name ends.
-/
namespace Dictation

open Text Sign

/-- Words with one blank between any two of them. -/
def withBlanks : List Text → List (Text × Text)
  | [] => []
  | [x] => [(x, [])]
  | x :: y :: xs => (x, [' ']) :: withBlanks (y :: xs)

theorem map_fst_withBlanks (xs : List Text) : (withBlanks xs).map Prod.fst = xs := by
  induction xs with
  | nil => rfl
  | cons x xs ih =>
    cases xs with
    | nil => rfl
    | cons y xs => exact congrArg (x :: ·) ih

theorem wordsIn_withBlanks (xs : List Text) : wordsIn [] (withBlanks xs) = join [' '] xs := by
  induction xs with
  | nil => rfl
  | cons x xs ih =>
    cases xs with
    | nil => exact List.append_nil x
    | cons y xs =>
      change x ++ wordsIn [' '] (withBlanks (y :: xs)) = _
      rw [wordsIn_eq_append, ih, ← List.append_assoc]
      rfl

theorem spaced_withBlanks (xs : List Text) : Spaced [] (withBlanks xs) := by
  induction xs with
  | nil => exact isGap_nil
  | cons x xs ih =>
    cases xs with
    | nil => exact ⟨isGap_nil, fun h => absurd rfl h, isGap_nil⟩
    | cons y xs => exact ⟨isGap_nil, fun _ => List.cons_ne_nil _ _, ih.of_gap isGap_blank⟩

namespace Sign

theorem placed_of_spaced {ss : List Sign} (hss : ∀ s ∈ ss, s ∈ spelled.1) {g : Text}
    {ts : List (Text × Text)} (hts : Spaced g ts) (hsame : ts.map Prod.fst = ss.map spoken) :
    ∃ us, us.map Prod.fst = ss ∧ Placed 0 g us ∧ render 0 g us = wordsIn g ts := by
  induction ts generalizing ss g with
  | nil =>
    obtain rfl : ss = [] := List.map_eq_nil_iff.mp hsame.symm
    exact ⟨[], rfl, hts, rfl⟩
  | cons t ts ih =>
    obtain ⟨x, h⟩ := t
    obtain ⟨hg, hne, hrest⟩ := hts
    cases ss with
    | nil => cases hsame
    | cons s ss =>
      rw [List.map_cons, List.map_cons, List.cons.injEq] at hsame
      obtain ⟨rfl, hsame⟩ := hsame
      obtain ⟨us, rfl, hplaced, hrender⟩ :=
        ih (fun s' hs' => hss s' (List.mem_cons_of_mem s hs')) hrest hsame
      have hform : s.form 0 (us.map Prod.fst) = s.spoken := by
        unfold form isDone
        rw [decide_eq_false (Nat.not_lt_zero s.rank)]
        rfl
      refine ⟨(s, h) :: us, rfl, ⟨hg, hss s List.mem_cons_self, ?_, hplaced⟩, ?_⟩
      · cases hus : us.map Prod.fst with
        | nil => trivial
        | cons s' ss =>
          have hts' : ts ≠ [] := by
            rintro rfl
            rw [hus] at hsame
            cases hsame
          exact ⟨fun _ => hne hts', fun _ _ => hne hts', fun hlt => absurd hlt (Nat.not_lt_zero low)⟩
      · change g ++ (s.form 0 (us.map Prod.fst) ++ render 0 h us) = g ++ (s.spoken ++ wordsIn h ts)
        rw [hform, hrender]

/-- What stands in a text for some operators, without the gaps. -/
def forms (rank : Nat) : List Sign → Text
  | [] => []
  | s :: ss => s.form rank ss ++ forms rank ss

variable {rank : Nat} {g : Text} {ts : List (Sign × Text)} {ss : List Sign}

theorem IsGap.filter (hg : IsGap g) : g.filter (!Unicode.isBlank ·) = [] :=
  List.filter_eq_nil_iff.mpr fun a ha => by rw [hg.isBlank a ha]; decide

theorem filter_solid {x : Text} (hx : isSolid x = true) : x.filter (!Unicode.isBlank ·) = x :=
  List.filter_eq_self.mpr fun a ha => by rw [isBlank_of_isSolid hx ha]; rfl

theorem filter_render (hts : Placed rank g ts) :
    (render rank g ts).filter (!Unicode.isBlank ·) = forms rank (ts.map Prod.fst) := by
  induction ts generalizing g with
  | nil => exact IsGap.filter hts
  | cons t ts ih =>
    obtain ⟨s, h⟩ := t
    obtain ⟨hg, hs, _, hrest⟩ := hts
    change (g ++ (_ ++ render rank h ts)).filter _ = s.form rank _ ++ forms rank _
    rw [List.filter_append, List.filter_append, IsGap.filter hg, filter_solid (isSolid_form hs _),
      ih hrest, List.nil_append]

/-- An operator does not keep the name of the next one from being seen. -/
def Clear (s s' : Sign) : Prop := ¬ (low < s.rank ∧ s'.rank = low)

instance (s s' : Sign) : Decidable (Clear s s') := inferInstanceAs (Decidable (¬ _))

theorem length_sound : ∀ s ∈ spelled.1, s.rank < 52 ∧ s.written.length < s.spoken.length := by
  decide

theorem form_last (hs : s ∈ spelled.1) (ss : List Sign) :
    s.form 52 ss = if s.isStuck ss then s.spoken else s.written := by
  unfold form isDone
  rw [decide_eq_true (length_sound s hs).1]
  cases s.isStuck ss with
  | true => rfl
  | false => rfl

theorem length_forms_le (hss : ∀ s ∈ ss, s ∈ spelled.1) :
    (ss.flatMap written).length ≤ (forms 52 ss).length := by
  induction ss with
  | nil => exact Nat.le_refl 0
  | cons s ss ih =>
    have hs := hss s List.mem_cons_self
    have hmore := ih fun s' hs' => hss s' (List.mem_cons_of_mem s hs')
    have hlength := (length_sound s hs).2
    have hform : s.written.length ≤ (s.form 52 ss).length := by
      rw [form_last hs]
      split
      · exact Nat.le_of_lt hlength
      · exact Nat.le_refl _
    rw [List.flatMap_cons, forms, List.length_append, List.length_append]
    exact Nat.add_le_add hform hmore

theorem isStuck_eq_false_iff (s : Sign) (ss : List Sign) :
    s.isStuck ss = false ↔ ∀ s' ∈ ss.head?, Clear s s' := by
  unfold isStuck Clear
  cases ss with
  | nil => simp
  | cons s' ss => simp

/-- In the end all operators stand there if none keeps the next one's name from being seen. -/
theorem forms_eq_iff (hss : ∀ s ∈ ss, s ∈ spelled.1) :
    forms 52 ss = ss.flatMap written ↔ ss.IsChain Clear := by
  induction ss with
  | nil => exact ⟨fun _ => List.isChain_nil, fun _ => rfl⟩
  | cons s ss ih =>
    have hs := hss s List.mem_cons_self
    have hmore : ∀ s' ∈ ss, s' ∈ spelled.1 := fun s' hs' => hss s' (List.mem_cons_of_mem s hs')
    rw [List.isChain_cons, ← isStuck_eq_false_iff, ← ih hmore, forms, List.flatMap_cons,
      form_last hs]
    cases hstuck : s.isStuck ss with
    | false =>
      rw [if_neg Bool.false_ne_true]
      exact ⟨fun h => ⟨rfl, List.append_cancel_left h⟩, fun h => congrArg _ h.2⟩
    | true =>
      refine ⟨fun h => ?_, fun h => absurd h.1 (by decide)⟩
      -- A name is longer than its operator.
      have hlength := congrArg List.length h
      rw [if_pos rfl, List.length_append, List.length_append] at hlength
      have hlt := (length_sound s hs).2
      have hle := length_forms_le hmore
      omega

end Sign

end Dictation
