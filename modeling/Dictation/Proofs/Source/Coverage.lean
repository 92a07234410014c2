import Dictation.Proofs.Source.Reading
/-!
# Nothing of a source is lost

The texts of the lexemes stand in the source one behind the other, and what stands between them means
nothing. Only the markers of closed blocks and the newline at the end of a source have no text.
-/
namespace Dictation.Source

/-- The texts of some lexemes stand in a text, in order and apart, with nothing of a meaning outside
them. -/
inductive Covers : List Lexeme → Text → Prop
  | done : Covers [] []
  | lexeme {l : Lexeme} {ls : List Lexeme} {rest : Text} :
      Covers ls rest → Covers (l :: ls) (l.text ++ rest)
  | skip {c : Char} {ls : List Lexeme} {rest : Text} :
      Meaningless c rest → Covers ls rest → Covers ls (c :: rest)

theorem Covers.idle_append {ls : List Lexeme} {rest : Text} (h : Covers ls rest) {g : Text}
    (hg : IsIdle g) : Covers ls (g ++ rest) := by
  induction g with
  | nil => exact h
  | cons c g ih => exact .skip (hg.1.append rest) (ih hg.2)

/-- A gap means nothing, and of the lexemes only markers of closed blocks have no text. -/
def Slice.IsSound : Slice → Prop
  | .lexeme l => l.text = [] ↔ l.kind = .dedent
  | .gap g => IsIdle g

theorem isSound_of_text_ne_nil {l : Lexeme} (h : l.text ≠ []) (hkind : l.kind ≠ .dedent) :
    (Slice.lexeme l).IsSound :=
  iff_of_false h hkind

theorem covers_of_isSound {ss : List Slice} (h : ∀ s ∈ ss, s.IsSound) :
    Covers (ss.filterMap Slice.lexeme?) (ss.flatMap Slice.text) := by
  induction ss with
  | nil => exact .done
  | cons s ss ih =>
    have hrest := ih fun s' hs' => h s' (List.mem_cons_of_mem s hs')
    cases s with
    | lexeme l => exact .lexeme hrest
    | gap g => exact hrest.idle_append (h _ List.mem_cons_self)

theorem isSound_dedent : dedent.IsSound := iff_of_true rfl rfl

theorem Step.isSound {p q : Place} {t u : Text} {ss : List Slice} (h : Step p t ss q u) :
    (∀ s ∈ ss, s.IsSound) ∧ t = ss.flatMap Slice.text ++ u := by
  cases h with
  | @free g _ _ hg =>
    refine ⟨?_, by simp [Slice.text]⟩
    intro s hs
    rw [List.mem_singleton.mp hs]
    exact hg
  | @opened g _ column _ hg _ =>
    refine ⟨?_, by simp [Slice.text]⟩
    intro s hs
    rw [List.mem_singleton.mp hs]
    exact isSound_of_text_ne_nil hg nofun
  | @closed g _ done kept _ hg _ =>
    have hnone : (List.replicate done.length dedent).flatMap Slice.text = [] := by
      rw [List.flatMap_eq_nil_iff]
      intro s hs
      rw [List.eq_of_mem_replicate hs]
      rfl
    refine ⟨?_, by simp [hnone, Slice.text]⟩
    intro s hs
    rcases List.mem_append.mp hs with hs | hs
    · rw [List.eq_of_mem_replicate hs]
      exact isSound_dedent
    · rw [List.mem_singleton.mp hs]
      exact hg
  | @passed g _ _ hg =>
    refine ⟨?_, by simp [Slice.text]⟩
    intro s hs
    rw [List.mem_singleton.mp hs]
    exact hg
  | ended _ =>
    cases p.lineOpen with
    | true =>
      refine ⟨?_, by simp [Slice.text]⟩
      intro s hs
      rw [if_pos rfl] at hs
      rw [List.mem_singleton.mp hs]
      exact isSound_of_text_ne_nil (List.cons_ne_nil _ _) nofun
    | false =>
      refine ⟨?_, by simp [Slice.text]⟩
      intro s hs
      rw [if_neg Bool.false_ne_true] at hs
      rw [List.mem_singleton.mp hs]
      exact isIdle_of_forall fun c hc => by rw [List.mem_singleton.mp hc]; simp
  | @read l gaps _ depth _ hkind hl hgaps =>
    have htexts : (gaps.map Slice.gap).flatMap Slice.text = gaps.flatten := by
      rw [List.flatMap_map, List.flatten_eq_flatMap]
      rfl
    refine ⟨?_, by rw [List.flatMap_cons, htexts, List.append_assoc]; rfl⟩
    intro s hs
    rcases List.mem_cons.mp hs with rfl | hs
    · refine isSound_of_text_ne_nil hl fun hdedent => ?_
      rw [hdedent] at hkind
      cases hkind
    · obtain ⟨g, hg, rfl⟩ := List.mem_map.mp hs
      exact hgaps g hg

theorem Reaches.isSound {t : Text} {out : List Slice} {p : Place} {u : Text}
    (h : Reaches t out p u) : (∀ s ∈ out, s.IsSound) ∧ t = out.flatMap Slice.text ++ u := by
  induction h with
  | start => exact ⟨fun s hs => absurd hs List.not_mem_nil, rfl⟩
  | @step out p u _ hu ih =>
    obtain ⟨hsound, htext⟩ := (step_advance p hu).isSound
    refine ⟨fun s hs => (List.mem_append.mp hs).elim (ih.1 s) (hsound s), ?_⟩
    rw [List.flatMap_append, List.append_assoc, ← htext]
    exact ih.2

/-- What the end of a source adds: a newline for an open line, and a marker for each open block. -/
def endLexemes (p : Place) : List Lexeme :=
  (if p.lineOpen then [⟨.newline, []⟩] else []) ++ List.replicate p.indents.length ⟨.dedent, []⟩

theorem lexemes_finish (p : Place) : (finish p).filterMap Slice.lexeme? = endLexemes p := by
  unfold finish endLexemes
  rw [List.filterMap_append, List.filterMap_replicate_of_some (show dedent.lexeme? = _ from rfl)]
  cases p.lineOpen with
  | true => rfl
  | false => rfl

theorem text_endLexemes (p : Place) : ∀ l ∈ endLexemes p, l.text = [] := by
  intro l hl
  rcases List.mem_append.mp hl with hl | hl
  · split at hl
    · rw [List.mem_singleton.mp hl]
    · cases hl
  · rw [List.eq_of_mem_replicate hl]

theorem kind_endLexemes (p : Place) : ∀ l ∈ endLexemes p, l.kind = .dedent ∨ l.kind = .newline := by
  intro l hl
  rcases List.mem_append.mp hl with hl | hl
  · split at hl
    · rw [List.mem_singleton.mp hl]
      exact Or.inr rfl
    · cases hl
  · rw [List.eq_of_mem_replicate hl]
    exact Or.inl rfl

theorem pairwise_endLexemes (p : Place) :
    (endLexemes p).Pairwise fun _ l' => l'.kind = .dedent := by
  refine List.pairwise_append.mpr ⟨?_, ?_, ?_⟩
  · split
    · exact List.pairwise_singleton _ _
    · exact .nil
  · exact List.pairwise_replicate.mpr (Or.inr rfl)
  · intro l _ l' hl'
    rw [List.eq_of_mem_replicate hl']

theorem lexemes_eq (t : Text) :
    ∃ out p, Reaches t out p [] ∧ lexemes t = out.filterMap Slice.lexeme? ++ endLexemes p := by
  obtain ⟨out, p, h, hslices⟩ := exists_reaches_nil t
  exact ⟨out, p, h, by rw [lexemes, hslices, List.filterMap_append, lexemes_finish]⟩

theorem Covers.append {ls ls' : List Lexeme} {t t' : Text} (h : Covers ls t) (h' : Covers ls' t') :
    Covers (ls ++ ls') (t ++ t') := by
  induction h with
  | done => exact h'
  | lexeme _ ih =>
    rw [List.append_assoc]
    exact .lexeme ih
  | skip hc _ ih => exact .skip (hc.append t') ih

theorem covers_of_text_eq_nil {ls : List Lexeme} (h : ∀ l ∈ ls, l.text = []) : Covers ls [] := by
  induction ls with
  | nil => exact .done
  | cons l ls ih =>
    have hl := Covers.lexeme (l := l) (ih fun l' hl' => h l' (List.mem_cons_of_mem l hl'))
    rw [h l List.mem_cons_self] at hl
    exact hl

/-- What was read has text, but for markers of closed blocks. -/
theorem Reaches.text_eq_nil {t : Text} {out : List Slice} {p : Place} {u : Text}
    (h : Reaches t out p u) : ∀ l ∈ out.filterMap Slice.lexeme?, l.text = [] ↔ l.kind = .dedent := by
  intro l hl
  obtain ⟨s, hs, hsl⟩ := List.mem_filterMap.mp hl
  cases s with
  | lexeme l' =>
    cases hsl
    exact h.isSound.1 _ hs
  | gap g => cases hsl

theorem kind_of_text_eq_nil {t : Text} {l : Lexeme} (hl : l ∈ lexemes t) (hnil : l.text = []) :
    l.kind = .dedent ∨ l.kind = .newline := by
  obtain ⟨out, p, h, hlexemes⟩ := lexemes_eq t
  rw [hlexemes] at hl
  rcases List.mem_append.mp hl with hl | hl
  · exact Or.inl ((h.text_eq_nil l hl).mp hnil)
  · exact kind_endLexemes p l hl

/-- The lexemes of a source stand in it in order and apart, and every character outside them is white
space or the backslash of a line that goes on. The markers of closed blocks have no text; of all other
lexemes only a newline at the end of the source has none, behind which nothing but such markers
comes. -/
theorem lexemes_cover (t : Text) :
    Covers (lexemes t) t ∧
      (∀ l ∈ lexemes t, l.kind = .dedent → l.text = []) ∧
      (∀ l ∈ lexemes t, l.text = [] → l.kind = .dedent ∨ l.kind = .newline) ∧
      (lexemes t).Pairwise fun l l' => l.kind = .newline → l.text = [] → l'.kind = .dedent := by
  obtain ⟨out, p, h, hlexemes⟩ := lexemes_eq t
  obtain ⟨hsound, htext⟩ := h.isSound
  rw [List.append_nil] at htext
  have hread := h.text_eq_nil
  have hcovers := (covers_of_isSound hsound).append (covers_of_text_eq_nil (text_endLexemes p))
  rw [← htext, List.append_nil] at hcovers
  -- What was read has text, so that all the rest is said of the end.
  have hnewline : ∀ l ∈ out.filterMap Slice.lexeme?, l.kind = .newline → l.text ≠ [] := by
    intro l hl hkind hnil
    rw [(hread l hl).mp hnil] at hkind
    cases hkind
  refine ⟨hlexemes ▸ hcovers, fun l hl hkind => ?_, fun l hl => kind_of_text_eq_nil hl, ?_⟩
  · rw [hlexemes] at hl
    rcases List.mem_append.mp hl with hl | hl
    · exact (hread l hl).mpr hkind
    · exact text_endLexemes p l hl
  rw [hlexemes]
  refine List.pairwise_append.mpr ⟨?_, ?_, ?_⟩
  · exact List.pairwise_of_forall_mem_list fun l hl _ _ hkind hnil =>
      absurd hnil (hnewline l hl hkind)
  · exact (pairwise_endLexemes p).imp fun hl' _ _ => hl'
  · intro l hl l' _ hkind hnil
    exact absurd hnil (hnewline l hl hkind)

/-- A comment with a return behind it, a line that goes on, and a block that the end closes. -/
example : lexemes "if a:# b\r\n\tc\\\n+1".toList =
    [⟨.name, "if".toList⟩, ⟨.name, ['a']⟩, ⟨.operator, [':']⟩, ⟨.comment, "# b".toList⟩,
      ⟨.newline, ['\n']⟩, ⟨.indent, ['\t']⟩, ⟨.name, ['c']⟩, ⟨.operator, ['+']⟩, ⟨.number, ['1']⟩,
      ⟨.newline, []⟩, ⟨.dedent, []⟩] := by
  decide +kernel

end Dictation.Source
