import Dictation.Proofs.Source.Layout
import Dictation.Proofs.Source.LineEnds
/-!
# Lines without layout

A line of blanks or with nothing but a comment leaves the place as it finds it. So one that is put in where
a line begins changes no lexeme of the text in front and none of the text behind.
-/
namespace Dictation.Source

theorem lineStep_newline {p : Place} (hp : p.depth = 0) (rest : Text) :
    lineStep p '\n' rest = (if p.lineOpen then [.lexeme ⟨.newline, ['\n']⟩] else [.gap ['\n']], 0,
      { p with lineOpen := false, lineStart := true }) := by
  simp [lineStep, hp, isSpacing, isIndentation]

theorem advance_newline {p : Place} (hp : p.lineStart = false) (hdepth : p.depth = 0) (rest : Text) :
    advance p ('\n' :: rest) = (if p.lineOpen then [.lexeme ⟨.newline, ['\n']⟩] else [.gap ['\n']],
      { p with lineOpen := false, lineStart := true }, rest) := by
  rw [advance_cons hp, lineStep_newline hdepth]
  rfl

/-- A line begins only behind a newline outside brackets. -/
theorem lineStart_advance {p : Place} {t : Text} (ht : t ≠ []) (h : (advance p t).2.1.lineStart = true) :
    p.lineStart = false ∧ p.depth = 0 ∧ ∃ rest, t = '\n' :: rest := by
  have hstep := step_advance p ht
  generalize hadvance : advance p t = next at h hstep
  obtain ⟨ss, q, u⟩ := next
  dsimp only at h hstep
  cases hstep with
  | free _ _ => cases h
  | opened _ _ _ => cases h
  | closed _ _ _ => cases h
  | passed hp _ => exact absurd (hp.symm.trans h) Bool.false_ne_true
  | ended hp =>
    refine ⟨hp, ?_, _, rfl⟩
    by_contra hdepth
    rw [advance_cons hp] at hadvance
    have hplace := congrArg (·.2.1.lineStart) hadvance
    simp [lineStep, hdepth, isSpacing, isIndentation, hp] at hplace
  | read hp _ _ _ => exact absurd (hp.symm.trans h) Bool.false_ne_true

theorem Reaches.behind {a b : Text} {out : List Slice} {p : Place} (h : Reaches (a ++ b) out p b)
    (hp : p.lineStart = true) (b' : Text) : Reaches (a ++ b') out p b' := by
  generalize ht : a ++ b = t at h
  cases h with
  | start =>
    rw [List.append_left_eq_self.mp ht]
    exact .start
  | @step out q u h hne =>
    obtain ⟨hq, hdepth, rest, rfl⟩ := lineStart_advance hne hp
    simp only [advance_newline hq hdepth] at ht hp ⊢
    obtain ⟨front, rfl, hall⟩ := h.line (v := [])
    obtain rfl : a = front ++ ['\n'] := List.append_cancel_right (ht.trans (List.append_cons _ _ _))
    have hstep := (hall b').step (List.cons_ne_nil _ _)
    rw [List.nil_append, advance_newline hq hdepth, List.append_cons] at hstep
    exact hstep

section
variable {p : Place} {g : Text}

theorem slicesFrom_blanks (hp : p.lineStart = true) (hg : ∀ c ∈ g, isIndentation c = true) {c : Char}
    (hc : c ∈ ['\n', '\r', '#']) (rest : Text) :
    slicesFrom p (g ++ c :: rest) = .gap g :: slicesFrom { p with lineStart := false } (c :: rest) := by
  have hall : ∀ c ∈ ['\n', '\r', '#'], isIndentation c = false ∧ isLayoutFree [c] = true := by decide
  obtain ⟨hmargin, hfree⟩ := hall c hc
  have hindent : lineIndent p (g ++ c :: rest) = g := by
    rw [lineIndent, if_pos hp, List.takeWhile_append_of_pos hg,
      List.takeWhile_cons_of_neg (by rw [hmargin]; decide), List.append_nil]
  have hne : g ++ c :: rest ≠ [] := by simp
  have henter : enterLine p (g ++ c :: rest) = ([.gap g], { p with lineStart := false }) := by
    rw [enterLine, hp, Bool.true_and, if_pos (decide_eq_true hne), hindent, List.drop_left, layoutSlices]
    exact if_pos hfree
  rw [slicesFrom_advance p hne, advance_start hp, henter, hindent, List.drop_left]
  rfl

theorem slicesFrom_newline (hp : p.lineStart = false) (hdepth : p.depth = 0) (rest : Text) :
    slicesFrom p ('\n' :: rest) = (if p.lineOpen then .lexeme ⟨.newline, ['\n']⟩ else .gap ['\n']) ::
      slicesFrom { p with lineOpen := false, lineStart := true } rest := by
  rw [slicesFrom_advance p (List.cons_ne_nil _ _), advance_newline hp hdepth]
  cases p.lineOpen <;> rfl

variable (hp : p.lineStart = true) (hopen : p.lineOpen = false)
include hp hopen

theorem eq_behind_newline : ({ p with lineOpen := false, lineStart := true } : Place) = p := by
  rw [← hp, ← hopen]

variable (hdepth : p.depth = 0) (hg : ∀ c ∈ g, isIndentation c = true)
include hdepth hg

theorem slicesFrom_blankLine {eol : Text} (heol : eol ∈ [['\n'], ['\r', '\n']]) (b : Text) :
    ∃ gaps : List Text, slicesFrom p (g ++ (eol ++ b)) = gaps.map .gap ++ slicesFrom p b := by
  have hend := slicesFrom_newline (p := { p with lineStart := false }) rfl hdepth b
  dsimp only at hend
  rw [eq_behind_newline hp hopen] at hend
  rcases List.mem_pair.mp heol with rfl | rfl
  · refine ⟨[g, ['\n']], ?_⟩
    refine (slicesFrom_blanks hp hg (by decide) b).trans ?_
    rw [hend, hopen]
    rfl
  · refine ⟨[g, ['\r'], ['\n']], ?_⟩
    refine (slicesFrom_blanks hp hg (by decide) ('\n' :: b)).trans ?_
    have hreturn : lineStep { p with lineStart := false } '\r' ('\n' :: b) =
        ([.gap ['\r']], 0, { p with lineStart := false }) := rfl
    rw [slicesFrom_cons rfl, hreturn]
    dsimp only
    rw [List.drop_zero, hend, hopen]
    rfl

theorem slicesFrom_commentLine {c : Text} (hc : '\n' ∉ c) (b : Text) :
    ∃ returns, slicesFrom p (g ++ '#' :: (c ++ '\n' :: b)) =
      .gap g :: .lexeme ⟨.comment, '#' :: Text.dropEndWhile (· = '\r') c⟩ :: .gap returns ::
        .lexeme ⟨.newline, ['\n']⟩ :: slicesFrom p b := by
  have hline : (c ++ '\n' :: b).takeWhile (· ≠ '\n') = c := by
    rw [takeWhile_line (by decide), List.takeWhile_eq_self_iff]
    exact fun a ha => decide_eq_true fun h => hc (h ▸ ha)
  have hcomment : lineStep { p with lineStart := false } '#' (c ++ '\n' :: b) =
      ([.lexeme ⟨.comment, '#' :: Text.dropEndWhile (· = '\r') c⟩,
        .gap (c.drop (Text.dropEndWhile (· = '\r') c).length)], c.length,
        { p with lineOpen := true, lineStart := false }) := by
    simp only [lineStep, hline]
    rfl
  have hend := slicesFrom_newline (p := { p with lineOpen := true, lineStart := false }) rfl hdepth b
  dsimp only at hend
  rw [eq_behind_newline hp hopen] at hend
  refine ⟨c.drop (Text.dropEndWhile (· = '\r') c).length, ?_⟩
  refine (slicesFrom_blanks hp hg (by decide) _).trans ?_
  rw [slicesFrom_cons rfl, hcomment]
  dsimp only
  rw [List.drop_left, hend]
  rfl

end

/-- Lines without layout change nothing but that they are there. A line of blanks that is put in where a line
begins leaves all lexemes as they are; a comment there adds itself and its newline between what was read in
front and what is read behind. -/
theorem lexemes_inserted_line {a b : Text} {out : List Slice} {p : Place} (h : Reaches (a ++ b) out p b)
    (hp : p.lineStart = true) (hdepth : p.depth = 0) {g : Text} (hg : ∀ c ∈ g, isIndentation c = true) :
    (∀ eol ∈ [['\n'], ['\r', '\n']], lexemes (a ++ (g ++ (eol ++ b))) = lexemes (a ++ b)) ∧
      ∃ back, lexemes (a ++ b) = out.filterMap Slice.lexeme? ++ back ∧
        ∀ c : Text, '\n' ∉ c → lexemes (a ++ (g ++ '#' :: (c ++ '\n' :: b))) =
          out.filterMap Slice.lexeme? ++ (⟨.comment, '#' :: Text.dropEndWhile (· = '\r') c⟩ ::
            ⟨.newline, ['\n']⟩ :: back) := by
  obtain ⟨lines, layout, content, hlined⟩ := h.lined
  have hopen := hlined.lineStart hp
  have hfront : ∀ u, lexemes (a ++ u) = out.filterMap Slice.lexeme? ++ (slicesFrom p u).filterMap Slice.lexeme? := by
    intro u
    rw [lexemes, (h.behind hp u).slices_eq, List.filterMap_append]
  refine ⟨fun eol heol => ?_, (slicesFrom p b).filterMap Slice.lexeme?, hfront b, fun c hc => ?_⟩
  · obtain ⟨gaps, hgaps⟩ := slicesFrom_blankLine hp hopen hdepth hg heol b
    rw [hfront, hfront, hgaps, List.filterMap_append, lexeme?_gaps, List.nil_append]
  · obtain ⟨returns, hcomment⟩ := slicesFrom_commentLine hp hopen hdepth hg hc b
    rw [hfront, hcomment]
    rfl

theorem Reaches.next {t : Text} {out ss : List Slice} {p q : Place} {u v : Text} (h : Reaches t out p u)
    (hne : u ≠ []) (hadvance : advance p u = (ss, q, v)) : Reaches t (out ++ ss) q v := by
  have hstep := h.step hne
  rwa [hadvance] at hstep

/-- A comment at the margin between a statement and its block leaves the block open where it was. -/
theorem lexemes_inserted_line_block :
    let a : Text := "if x:\n"
    let b : Text := "  y\n"
    let out : List Slice := [.gap [], .lexeme ⟨.name, "if".toList⟩, .gap [' '], .lexeme ⟨.name, ['x']⟩,
      .lexeme ⟨.operator, [':']⟩, .lexeme ⟨.newline, ['\n']⟩]
    Reaches (a ++ b) out .initial b ∧ (∀ c ∈ [' ', '\t'], isIndentation c = true) ∧ '\n' ∉ "z\r".toList ∧
      lexemes "if x:\n \t\r\n  y\n".toList = lexemes "if x:\n  y\n".toList ∧
      ∃ back, lexemes "if x:\n  y\n".toList = out.filterMap Slice.lexeme? ++ back ∧
        lexemes "if x:\n \t#z\r\n  y\n".toList =
          out.filterMap Slice.lexeme? ++ (⟨.comment, "#z".toList⟩ :: ⟨.newline, ['\n']⟩ :: back) := by
  intro a b out
  have h1 : Reaches (a ++ b) [.gap []] ⟨0, [], false, false⟩ "if x:\n  y\n".toList :=
    Reaches.start.next (by decide) (by decide +kernel)
  have h2 : Reaches (a ++ b) [.gap [], .lexeme ⟨.name, "if".toList⟩] ⟨0, [], true, false⟩ " x:\n  y\n".toList :=
    h1.next (by decide) (by decide +kernel)
  have h3 : Reaches (a ++ b) [.gap [], .lexeme ⟨.name, "if".toList⟩, .gap [' ']] ⟨0, [], true, false⟩
      "x:\n  y\n".toList := h2.next (by decide) (by decide +kernel)
  have h4 : Reaches (a ++ b) [.gap [], .lexeme ⟨.name, "if".toList⟩, .gap [' '], .lexeme ⟨.name, ['x']⟩]
      ⟨0, [], true, false⟩ ":\n  y\n".toList := h3.next (by decide) (by decide +kernel)
  have h5 : Reaches (a ++ b) [.gap [], .lexeme ⟨.name, "if".toList⟩, .gap [' '], .lexeme ⟨.name, ['x']⟩,
      .lexeme ⟨.operator, [':']⟩] ⟨0, [], true, false⟩ "\n  y\n".toList :=
    h4.next (by decide) (by decide +kernel)
  have h : Reaches (a ++ b) out .initial b := h5.next (by decide) (by decide +kernel)
  have hg : ∀ c ∈ [' ', '\t'], isIndentation c = true := by decide
  have hc : '\n' ∉ "z\r".toList := by decide
  obtain ⟨hblank, back, hback, hcomment⟩ := lexemes_inserted_line h rfl rfl hg
  exact ⟨h, hg, hc, hblank ['\r', '\n'] (by decide), back, hback, hcomment _ hc⟩

end Dictation.Source
