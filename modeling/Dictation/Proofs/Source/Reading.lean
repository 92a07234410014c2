import Dictation.Source.Lexer
import Mathlib.Data.List.TakeWhile
/-!
# The reading of a source, step by step

The slices of a source are found one step after the other: where a line begins its indentation is
measured, and within a line some text is passed over, a line is ended or a lexeme is read. `Step` says
what a step can do, and nothing else of the lexer is used in what is shown of a reading.
-/
namespace Dictation.Source

def Kind.isLayout : Kind → Bool
  | indent | dedent => true
  | _ => false

def Kind.isContent (k : Kind) : Bool := !k.isLayout && k != .newline

/-- A character that means nothing before `rest`: white space, or the backslash of a line that goes on
behind its end. -/
def Meaningless (c : Char) (rest : Text) : Prop :=
  c ∈ [' ', '\t', '\x0c', '\r', '\n'] ∨
    c = '\\' ∧ (['\n'] <+: rest ∨ ['\r', '\n'] <+: rest)

/-- A text of which no character means anything. -/
def IsIdle : Text → Prop
  | [] => True
  | c :: rest => Meaningless c rest ∧ IsIdle rest

theorem Meaningless.append {c : Char} {rest : Text} (h : Meaningless c rest) (more : Text) :
    Meaningless c (rest ++ more) := by
  rcases h with h | ⟨rfl, h⟩
  · exact Or.inl h
  · exact Or.inr ⟨rfl, h.imp (·.trans (List.prefix_append _ _)) (·.trans (List.prefix_append _ _))⟩

theorem isIdle_of_forall {g : Text} (h : ∀ c ∈ g, c ∈ [' ', '\t', '\x0c', '\r', '\n']) :
    IsIdle g := by
  induction g with
  | nil => trivial
  | cons c g ih =>
    exact ⟨Or.inl (h c List.mem_cons_self), ih fun d hd => h d (List.mem_cons_of_mem c hd)⟩

theorem isIdle_of_isIndentation {g : Text} (h : ∀ c ∈ g, isIndentation c = true) : IsIdle g := by
  refine isIdle_of_forall fun c hc => ?_
  have hblank := h c hc
  simp only [isIndentation, Bool.or_eq_true, decide_eq_true_eq] at hblank
  rcases hblank with (rfl | rfl) | rfl <;> simp

theorem delimiter?_ne_nil {t d : Text} (h : delimiter? t = some d) : d ≠ [] := by
  have hall : ∀ d ∈ delimiters, d ≠ [] := by decide
  exact hall d (List.mem_of_find?_eq_some h)

theorem stringLength?_pos {t : Text} {n : Nat} (h : stringLength? t = some n) : 0 < n := by
  obtain ⟨⟨letters, d⟩, hstart, h⟩ := Option.bind_eq_some_iff.mp h
  obtain ⟨⟨body, _⟩, _, h⟩ := Option.bind_eq_some_iff.mp h
  cases h
  obtain ⟨d', hd, heq⟩ := Option.map_eq_some_iff.mp hstart
  cases heq
  have hlength := List.length_pos_iff.mpr (delimiter?_ne_nil hd)
  omega

theorem digitsLength_pos {isDigit : Char → Bool} {c : Char} {rest : Text} (h : isDigit c = true) :
    0 < digitsLength isDigit (c :: rest) := by
  simp [digitsLength, h]

theorem fractionLength?_pos {t : Text} {n : Nat} (h : fractionLength? t = some n) : 0 < n := by
  unfold fractionLength? at h
  split at h
  case h_1 rest =>
    split at h
    · cases h
      omega
    · cases h
  case h_2 =>
    split at h
    case isTrue hstart =>
      cases t with
      | nil => cases hstart
      | cons c rest =>
        have hpos : 0 < digitsLength isDecimalDigit (c :: rest) := digitsLength_pos hstart
        dsimp only at h
        split at h
        · cases h
          omega
        · cases h
          exact hpos
    · cases h

theorem numberLength?_pos {t : Text} {n : Nat} (h : numberLength? t = some n) : 0 < n := by
  unfold numberLength? at h
  split at h
  case h_1 m hradix =>
    cases h
    unfold radixLength? at hradix
    split at hradix
    · split at hradix
      · dsimp only at hradix
        split at hradix
        · cases hradix
        · cases hradix
          omega
      · cases hradix
    · cases hradix
  case h_2 =>
    obtain ⟨m, hfraction, rfl⟩ := Option.map_eq_some_iff.mp h
    have hpos := fractionLength?_pos hfraction
    dsimp only
    omega

theorem nameLength_pos {c : Char} {rest : Text} (h : isNameStart c = true) :
    0 < nameLength (c :: rest) := by
  have hchar : isNameChar c = true := by simp [isNameChar, h]
  simp [nameLength, hchar]

theorem operatorLength_pos (t : Text) : 0 < operatorLength t := by
  have hall : ∀ op ∈ longOperators, 0 < op.length := by decide
  unfold operatorLength
  split
  case h_1 op hop => exact hall op (List.mem_of_find?_eq_some hop)
  case h_2 => exact Nat.one_pos

theorem lexemeAt_content (c : Char) (rest : Text) :
    (lexemeAt (c :: rest)).1.isContent = true ∧ 0 < (lexemeAt (c :: rest)).2 := by
  unfold lexemeAt
  split
  case h_1 n hstring => exact ⟨rfl, stringLength?_pos hstring⟩
  case h_2 =>
    split
    case h_1 n _ hnumber => exact ⟨rfl, numberLength?_pos hnumber⟩
    case h_2 =>
      split
      case isTrue hname => exact ⟨rfl, nameLength_pos hname⟩
      case isFalse => exact ⟨rfl, operatorLength_pos _⟩

/-- What a step can do: the text before and after it, the slices it gives and the place it leads to. -/
inductive Step (p : Place) : Text → List Slice → Place → Text → Prop
  /-- A line without layout of its own. -/
  | free {g u : Text} : p.lineStart = true → IsIdle g →
      Step p (g ++ u) [.gap g] { p with lineStart := false } u
  /-- A block is opened. -/
  | opened {g u : Text} {column : Nat} : p.lineStart = true → g ≠ [] → p.column < column →
      Step p (g ++ u) [.lexeme ⟨.indent, g⟩]
        { p with lineStart := false, indents := column :: p.indents } u
  /-- The innermost blocks are closed, or none. -/
  | closed {g u : Text} {done kept : List Nat} : p.lineStart = true → IsIdle g →
      p.indents = done ++ kept →
      Step p (g ++ u) (List.replicate done.length dedent ++ [.gap g])
        { p with lineStart := false, indents := kept } u
  /-- Within a line, text is passed over. -/
  | passed {g u : Text} : p.lineStart = false → IsIdle g → Step p (g ++ u) [.gap g] p u
  /-- A line ends. It is closed if anything was read in it. -/
  | ended {u : Text} : p.lineStart = false →
      Step p ('\n' :: u) (if p.lineOpen then [.lexeme ⟨.newline, ['\n']⟩] else [.gap ['\n']])
        { p with lineOpen := false, lineStart := true } u
  /-- A lexeme is read, and the text behind it may be passed over at once. -/
  | read {l : Lexeme} {gaps : List Text} {u : Text} {depth : Nat} : p.lineStart = false →
      l.kind.isContent = true → l.text ≠ [] → (∀ g ∈ gaps, IsIdle g) →
      Step p (l.text ++ (gaps.flatten ++ u)) (.lexeme l :: gaps.map .gap)
        { p with depth, lineOpen := true } u

/-- One step of the reading: the slices it gives, the place it leads to and the text behind it. -/
def advance (p : Place) (t : Text) : List Slice × Place × Text :=
  if p.lineStart then
    ((enterLine p t).1, (enterLine p t).2, t.drop (lineIndent p t).length)
  else
    match t with
    | [] => ([], p, [])
    | c :: rest =>
      ((lineStep p c rest).1, (lineStep p c rest).2.2, rest.drop (lineStep p c rest).2.1)

theorem advance_start {p : Place} (hp : p.lineStart = true) (t : Text) :
    advance p t = ((enterLine p t).1, (enterLine p t).2, t.drop (lineIndent p t).length) :=
  if_pos hp

theorem advance_cons {p : Place} (hp : p.lineStart = false) (c : Char) (rest : Text) :
    advance p (c :: rest) = ((lineStep p c rest).1, (lineStep p c rest).2.2,
      rest.drop (lineStep p c rest).2.1) :=
  if_neg (by rw [hp]; decide)

theorem closeBlocks_eq (column : Nat) (indents : List Nat) :
    ∃ done, indents = done ++ (closeBlocks column indents).1 ∧
      (closeBlocks column indents).2 = done.length := by
  induction indents with
  | nil => exact ⟨[], rfl, rfl⟩
  | cons top rest ih =>
    unfold closeBlocks
    by_cases h : column < top
    · obtain ⟨done, hindents, hclosed⟩ := ih
      rw [if_pos h]
      exact ⟨top :: done, congrArg (top :: ·) hindents, congrArg (· + 1) hclosed⟩
    · rw [if_neg h]
      exact ⟨[], rfl, rfl⟩

theorem step_layoutSlices {p : Place} (hp : p.lineStart = true) {g : Text}
    (hg : ∀ c ∈ g, isIndentation c = true) (u : Text) :
    Step p (g ++ u) (layoutSlices p g u).1 (layoutSlices p g u).2 u := by
  have hidle := isIdle_of_isIndentation hg
  have hcolumn : ∀ q : Place, ({ q with lineStart := false } : Place).column = q.column :=
    fun _ => rfl
  unfold layoutSlices
  dsimp only
  rw [hcolumn]
  split
  · exact .free hp hidle
  split
  case isTrue hdeeper =>
    refine .opened hp ?_ hdeeper
    rintro rfl
    exact Nat.not_lt_zero _ hdeeper
  case isFalse =>
    obtain ⟨done, hindents, hclosed⟩ := closeBlocks_eq (columnAfter 0 g) p.indents
    rw [hclosed]
    exact .closed hp hidle hindents

theorem dropEndWhile_append (t : Text) :
    ∃ returns : Text, t = Text.dropEndWhile (· = '\r') t ++ returns ∧ ∀ c ∈ returns, c = '\r' := by
  refine ⟨(t.reverse.takeWhile (· = '\r')).reverse, ?_, fun c hc => ?_⟩
  · rw [Text.dropEndWhile, ← List.reverse_append, List.takeWhile_append_dropWhile,
      List.reverse_reverse]
  · simpa using List.mem_takeWhile_imp (List.mem_reverse.mp hc)

theorem step_lineStep {p : Place} (hp : p.lineStart = false) (c : Char) (rest : Text) :
    Step p (c :: rest) (lineStep p c rest).1 (lineStep p c rest).2.2
      (rest.drop (lineStep p c rest).2.1) := by
  unfold lineStep
  split
  case isTrue hspace =>
    refine Step.passed (g := [c]) hp (isIdle_of_forall fun d hd => ?_)
    rw [List.mem_singleton.mp hd]
    simp only [isSpacing, isIndentation, Bool.or_eq_true, decide_eq_true_eq] at hspace
    rcases hspace with ((rfl | rfl) | rfl) | rfl <;> simp
  split
  case isTrue hgoesOn =>
    simp only [Bool.and_eq_true, decide_eq_true_eq] at hgoesOn
    obtain ⟨rfl, hnext⟩ := hgoesOn
    obtain ⟨u, rfl⟩ := List.head?_eq_some_iff.mp hnext
    refine Step.passed (g := ['\\', '\n']) hp ⟨Or.inr ⟨rfl, Or.inl (List.prefix_refl _)⟩, ?_⟩
    exact isIdle_of_forall fun d hd => by rw [List.mem_singleton.mp hd]; simp
  split
  case isTrue hgoesOn =>
    simp only [Bool.and_eq_true, decide_eq_true_eq, List.isPrefixOf_iff_prefix] at hgoesOn
    obtain ⟨rfl, u, rfl⟩ := hgoesOn
    refine Step.passed (g := ['\\', '\r', '\n']) hp ⟨Or.inr ⟨rfl, Or.inr (List.prefix_refl _)⟩, ?_⟩
    exact isIdle_of_forall fun d hd => by
      rcases List.mem_cons.mp hd with rfl | hd
      · simp
      · rw [List.mem_singleton.mp hd]
        simp
  split
  case isTrue hline =>
    subst hline
    split
    · exact .ended hp
    · exact Step.passed (g := ['\n']) hp
        (isIdle_of_forall fun d hd => by rw [List.mem_singleton.mp hd]; simp)
  split
  case isTrue =>
    -- The returns at the end of a comment are no part of it.
    obtain ⟨returns, hline, hreturns⟩ := dropEndWhile_append (rest.takeWhile (· ≠ '\n'))
    have hrest : rest.takeWhile (· ≠ '\n') ++ rest.drop (rest.takeWhile (· ≠ '\n')).length = rest :=
      List.prefix_iff_eq_append.mp (List.takeWhile_prefix _)
    dsimp only
    generalize rest.takeWhile (· ≠ '\n') = line at hline hrest ⊢
    generalize Text.dropEndWhile (· = '\r') line = body at hline ⊢
    generalize rest.drop line.length = u at hrest ⊢
    subst hline hrest
    have hidle : ∀ g ∈ [returns], IsIdle g := by
      intro g hg
      rw [List.mem_singleton.mp hg]
      exact isIdle_of_forall fun d hd => by rw [hreturns d hd]; simp
    have hstep := @Step.read p ⟨.comment, c :: body⟩ [returns] u p.depth hp rfl
      (List.cons_ne_nil c body) hidle
    rw [List.drop_left, List.append_assoc]
    rw [List.flatten_singleton] at hstep
    exact hstep
  case isFalse =>
    obtain ⟨hkind, hpos⟩ := lexemeAt_content c rest
    obtain ⟨n, hn⟩ : ∃ n, (lexemeAt (c :: rest)).2 = n + 1 := ⟨_, (Nat.succ_pred_eq_of_pos hpos).symm⟩
    dsimp only
    rw [hn, Nat.add_sub_cancel]
    have hstep := @Step.read p ⟨(lexemeAt (c :: rest)).1, (c :: rest).take (n + 1)⟩ [] (rest.drop n)
      (if (lexemeAt (c :: rest)).1 = .operator
        then depthAfter ((c :: rest).take (n + 1)) p.depth else p.depth)
      hp hkind (List.cons_ne_nil _ _) (fun g hg => absurd hg List.not_mem_nil)
    have htext : c :: rest = (c :: rest).take (n + 1) ++ (([] : List Text).flatten ++ rest.drop n) :=
      (List.take_append_drop (n + 1) (c :: rest)).symm
    rw [← htext] at hstep
    exact hstep

theorem step_advance (p : Place) {t : Text} (ht : t ≠ []) :
    Step p t (advance p t).1 (advance p t).2.1 (advance p t).2.2 := by
  cases hp : p.lineStart with
  | true =>
    rw [advance_start hp]
    unfold enterLine
    rw [hp, Bool.true_and, if_pos (decide_eq_true ht)]
    have hindent : lineIndent p t = t.takeWhile isIndentation := if_pos hp
    have hsplit := List.prefix_iff_eq_append.mp (List.takeWhile_prefix (l := t) isIndentation)
    have hstep := step_layoutSlices hp (g := t.takeWhile isIndentation)
      (fun c hc => List.mem_takeWhile_imp hc) (t.drop (t.takeWhile isIndentation).length)
    rw [hsplit] at hstep
    rw [hindent]
    exact hstep
  | false =>
    obtain ⟨c, rest, rfl⟩ := List.exists_cons_of_ne_nil ht
    rw [advance_cons hp]
    exact step_lineStep hp c rest

theorem slicesFrom_nil (p : Place) : slicesFrom p [] = finish p := by
  have hindent : lineIndent p [] = [] := ite_self []
  have henter : enterLine p [] = ([], p) := by
    unfold enterLine
    rw [decide_eq_false (fun h => h rfl), Bool.and_false]
    rfl
  rw [slicesFrom]
  split
  case h_1 => rw [henter, List.nil_append]
  case h_2 h =>
    rw [hindent] at h
    cases h

theorem slicesFrom_cons {p : Place} (hp : p.lineStart = false) (c : Char) (rest : Text) :
    slicesFrom p (c :: rest) =
      (lineStep p c rest).1 ++ slicesFrom (lineStep p c rest).2.2
        (rest.drop (lineStep p c rest).2.1) := by
  have hindent : lineIndent p (c :: rest) = [] := if_neg (by rw [hp]; decide)
  have henter : enterLine p (c :: rest) = ([], p) := by
    unfold enterLine
    rw [hp, Bool.false_and]
    rfl
  rw [slicesFrom]
  split
  case h_1 h =>
    rw [hindent] at h
    cases h
  case h_2 d u h =>
    rw [hindent] at h
    cases h
    dsimp only
    rw [henter]
    rfl

theorem lineStart_enterLine {p : Place} (hp : p.lineStart = true) {t : Text} (ht : t ≠ []) :
    (enterLine p t).2.lineStart = false := by
  unfold enterLine
  rw [hp, Bool.true_and, if_pos (decide_eq_true ht)]
  unfold layoutSlices
  dsimp only
  split
  · rfl
  · split
    · rfl
    · rfl

theorem slicesFrom_advance (p : Place) {t : Text} (ht : t ≠ []) :
    slicesFrom p t = (advance p t).1 ++ slicesFrom (advance p t).2.1 (advance p t).2.2 := by
  cases hp : p.lineStart with
  | false =>
    obtain ⟨c, rest, rfl⟩ := List.exists_cons_of_ne_nil ht
    rw [advance_cons hp]
    exact slicesFrom_cons hp c rest
  | true =>
    rw [advance_start hp, slicesFrom]
    split
    case h_1 h => rw [h, slicesFrom_nil]
    case h_2 c rest h =>
      dsimp only
      rw [h, slicesFrom_cons (lineStart_enterLine hp ht), List.append_assoc]

/-- The reading of `t` has given the slices `out` when it stands at a place before some text. -/
inductive Reaches (t : Text) : List Slice → Place → Text → Prop
  | start : Reaches t [] .initial t
  | step {out : List Slice} {p : Place} {u : Text} : Reaches t out p u → u ≠ [] →
      Reaches t (out ++ (advance p u).1) (advance p u).2.1 (advance p u).2.2

/-- What was given before a place and what is given from there on are the slices of the source. -/
theorem Reaches.slices_eq {t : Text} {out : List Slice} {p : Place} {u : Text}
    (h : Reaches t out p u) : slices t = out ++ slicesFrom p u := by
  induction h with
  | start => rfl
  | step _ hu ih => rw [ih, slicesFrom_advance _ hu, List.append_assoc]

/-- What decreases from step to step: within a line text is read, and at its start indentation need
no longer be measured. -/
def remaining (p : Place) (t : Text) : Nat := 2 * t.length + p.lineStart.toNat

theorem remaining_advance_lt (p : Place) {t : Text} (ht : t ≠ []) :
    remaining (advance p t).2.1 (advance p t).2.2 < remaining p t := by
  unfold remaining
  cases hp : p.lineStart with
  | true =>
    rw [advance_start hp]
    dsimp only
    rw [lineStart_enterLine hp ht, List.length_drop]
    simp only [Bool.toNat_true, Bool.toNat_false]
    omega
  | false =>
    obtain ⟨c, rest, rfl⟩ := List.exists_cons_of_ne_nil ht
    have hle := Bool.toNat_le (lineStep p c rest).2.2.lineStart
    rw [advance_cons hp, List.length_drop, List.length_cons]
    dsimp only
    omega

theorem Reaches.exists_end {t : Text} {out : List Slice} {p : Place} {u : Text}
    (h : Reaches t out p u) : ∃ out' q, Reaches t out' q [] := by
  induction hn : remaining p u using Nat.strongRecOn generalizing out p u with
  | ind n ih =>
    by_cases hu : u = []
    · exact ⟨out, p, hu ▸ h⟩
    · exact ih _ (hn ▸ remaining_advance_lt p hu) (h.step hu) rfl

theorem exists_reaches_nil (t : Text) :
    ∃ out p, Reaches t out p [] ∧ slices t = out ++ finish p := by
  obtain ⟨out, p, h⟩ := (Reaches.start (t := t)).exists_end
  exact ⟨out, p, h, by rw [h.slices_eq, slicesFrom_nil]⟩

end Dictation.Source
