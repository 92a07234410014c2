import Dictation.Proofs.Source.Coverage
/-!
# The layout of a source

The lexemes of a source are lines, of which each has markers of blocks first, then something of
content and a newline at last. Blocks are closed only if they are open, and all of them are closed at
the end; the columns of the open ones rise from the margin inwards.

All of it holds of what any reading has given so far, since one step keeps it.
-/
namespace Dictation.Source

theorem kind_ne_newline_of_isLayout {l : Lexeme} (h : l.kind.isLayout = true) :
    l.kind ≠ .newline := by
  intro hkind
  rw [hkind] at h
  cases h

/-- A line of a source, with whatever blocks it opens or closes. -/
structure Line where
  layout : List Lexeme
  content : List Lexeme
  newline : Lexeme
  layout_isLayout : ∀ l ∈ layout, l.kind.isLayout = true
  content_ne_nil : content ≠ []
  content_isContent : ∀ l ∈ content, l.kind.isContent = true
  newline_kind : newline.kind = .newline

namespace Line

def body (line : Line) : List Lexeme := line.layout ++ line.content

def lexemes (line : Line) : List Lexeme := line.body ++ [line.newline]

theorem kind_ne_newline (line : Line) : ∀ l ∈ line.body, l.kind ≠ .newline := by
  intro l hl
  rcases List.mem_append.mp hl with hl | hl
  · exact kind_ne_newline_of_isLayout (line.layout_isLayout l hl)
  · intro hkind
    have hcontent := line.content_isContent l hl
    rw [hkind] at hcontent
    cases hcontent

end Line

/-- Lexemes as lines and a line that is not closed yet. -/
structure Lined (ls : List Lexeme) (p : Place) (lines : List Line)
    (layout content : List Lexeme) : Prop where
  eq : ls = lines.flatMap Line.lexemes ++ (layout ++ content)
  isLayout : ∀ l ∈ layout, l.kind.isLayout = true
  isContent : ∀ l ∈ content, l.kind.isContent = true
  /-- A line is open exactly if it has content. -/
  lineOpen : p.lineOpen = true ↔ content ≠ []
  /-- No line is open where indentation is measured. -/
  lineStart : p.lineStart = true → p.lineOpen = false

namespace Lined

variable {ls layout content : List Lexeme} {p : Place} {lines : List Line}

theorem initial : Lined [] .initial [] [] [] where
  eq := rfl
  isLayout := fun _ h => absurd h List.not_mem_nil
  isContent := fun _ h => absurd h List.not_mem_nil
  lineOpen := by decide
  lineStart := fun _ => rfl

theorem content_eq_nil (h : Lined ls p lines layout content) (hp : p.lineOpen = false) :
    content = [] := by
  by_contra hne
  rw [h.lineOpen.mpr hne] at hp
  cases hp

theorem addLayout (h : Lined ls p lines layout content) (hp : p.lineStart = true)
    (markers : List Lexeme) (hmarkers : ∀ l ∈ markers, l.kind.isLayout = true) (indents : List Nat) :
    Lined (ls ++ markers) { p with lineStart := false, indents } lines (layout ++ markers) content where
  eq := by
    rw [h.eq, h.content_eq_nil (h.lineStart hp)]
    simp
  isLayout l hl := (List.mem_append.mp hl).elim (h.isLayout l) (hmarkers l)
  isContent := h.isContent
  lineOpen := h.lineOpen
  lineStart hstart := by cases hstart

theorem addContent (h : Lined ls p lines layout content) (hp : p.lineStart = false) {l : Lexeme}
    (hl : l.kind.isContent = true) (depth : Nat) :
    Lined (ls ++ [l]) { p with depth, lineOpen := true } lines layout (content ++ [l]) where
  eq := by simp [h.eq]
  isLayout := h.isLayout
  isContent l' hl' := by
    rcases List.mem_append.mp hl' with hl' | hl'
    · exact h.isContent l' hl'
    · rw [List.mem_singleton.mp hl']
      exact hl
  lineOpen := by simp
  lineStart hstart := by
    rw [hp] at hstart
    cases hstart

theorem close (h : Lined ls p lines layout content) (hp : p.lineOpen = true) {n : Lexeme}
    (hn : n.kind = .newline) (q : Place) (hq : q.lineOpen = false) :
    ∃ line, Lined (ls ++ [n]) q (lines ++ [line]) [] [] :=
  ⟨⟨layout, content, n, h.isLayout, h.lineOpen.mp hp, h.isContent, hn⟩, {
    eq := by simp [h.eq, Line.lexemes, Line.body]
    isLayout := fun _ hl => absurd hl List.not_mem_nil
    isContent := fun _ hl => absurd hl List.not_mem_nil
    lineOpen := by simp [hq]
    lineStart := fun _ => hq }⟩

end Lined

theorem lexeme?_replicate_dedent (n : Nat) :
    (List.replicate n dedent).filterMap Slice.lexeme? = List.replicate n ⟨.dedent, []⟩ :=
  List.filterMap_replicate_of_some rfl

theorem lexeme?_gap (g : Text) : [Slice.gap g].filterMap Slice.lexeme? = [] := rfl

theorem lexeme?_gaps (gaps : List Text) : (gaps.map Slice.gap).filterMap Slice.lexeme? = [] := by
  rw [List.filterMap_eq_nil_iff]
  rintro _ hs
  obtain ⟨g, _, rfl⟩ := List.mem_map.mp hs
  rfl

theorem isLayout_of_mem_replicate {n : Nat} {l : Lexeme}
    (hl : l ∈ List.replicate n (⟨.dedent, []⟩ : Lexeme)) : l.kind.isLayout = true := by
  rw [List.eq_of_mem_replicate hl]
  rfl

theorem Step.lined {p q : Place} {t u : Text} {ss : List Slice} (h : Step p t ss q u)
    {ls layout content : List Lexeme} {lines : List Line} (hls : Lined ls p lines layout content) :
    ∃ lines' layout' content', Lined (ls ++ ss.filterMap Slice.lexeme?) q lines' layout' content' := by
  cases h with
  | free hp _ => exact ⟨_, _, _, hls.addLayout hp [] nofun p.indents⟩
  | @opened g _ column hp _ _ =>
    refine ⟨_, _, _, hls.addLayout hp [⟨.indent, g⟩] (fun l hl => ?_) _⟩
    rw [List.mem_singleton.mp hl]
    rfl
  | @closed g _ done kept hp _ _ =>
    have hmarkers := hls.addLayout hp _
      (fun l (hl : l ∈ List.replicate done.length ⟨.dedent, []⟩) => isLayout_of_mem_replicate hl) kept
    rw [List.filterMap_append, lexeme?_replicate_dedent, lexeme?_gap g, List.append_nil]
    exact ⟨_, _, _, hmarkers⟩
  | @passed g _ _ _ =>
    rw [lexeme?_gap g, List.append_nil]
    exact ⟨_, _, _, hls⟩
  | ended _ =>
    cases hopen : p.lineOpen with
    | true =>
      obtain ⟨line, hline⟩ := hls.close hopen (n := ⟨.newline, ['\n']⟩) rfl
        { p with lineOpen := false, lineStart := true } rfl
      exact ⟨_, _, _, hline⟩
    | false =>
      have hnil := hls.content_eq_nil hopen
      refine ⟨lines, layout, content, ?_, hls.isLayout, hls.isContent, ?_, fun _ => rfl⟩
      · rw [if_neg Bool.false_ne_true, lexeme?_gap, List.append_nil]
        exact hls.eq
      · simp [hnil]
  | @read l gaps _ depth hp hkind _ _ =>
    rw [List.filterMap_cons_some (show (Slice.lexeme l).lexeme? = some l from rfl), lexeme?_gaps]
    exact ⟨_, _, _, hls.addContent hp hkind depth⟩

theorem Reaches.lined {t : Text} {out : List Slice} {p : Place} {u : Text} (h : Reaches t out p u) :
    ∃ lines layout content, Lined (out.filterMap Slice.lexeme?) p lines layout content := by
  induction h with
  | start => exact ⟨_, _, _, .initial⟩
  | @step out p u _ hu ih =>
    obtain ⟨lines, layout, content, hls⟩ := ih
    rw [List.filterMap_append]
    exact (step_advance p hu).lined hls

/-- The lexemes of a source are lines, with markers of blocks behind them. -/
theorem exists_lines (t : Text) :
    ∃ (lines : List Line) (last : List Lexeme),
      lexemes t = lines.flatMap Line.lexemes ++ last ∧ ∀ l ∈ last, l.kind.isLayout = true := by
  obtain ⟨out, p, h, hlexemes⟩ := lexemes_eq t
  obtain ⟨lines, layout, content, hls⟩ := h.lined
  rw [hlexemes, endLexemes]
  cases hopen : p.lineOpen with
  | true =>
    obtain ⟨line, hline⟩ := hls.close hopen (n := ⟨.newline, []⟩) rfl
      { p with lineOpen := false } rfl
    refine ⟨lines ++ [line], List.replicate p.indents.length ⟨.dedent, []⟩, ?_,
      fun l hl => isLayout_of_mem_replicate hl⟩
    rw [if_pos rfl, ← List.append_assoc, hline.eq, List.append_nil, List.append_nil]
  | false =>
    refine ⟨lines, layout ++ List.replicate p.indents.length ⟨.dedent, []⟩, ?_, fun l hl => ?_⟩
    · rw [hls.eq, hls.content_eq_nil hopen]
      simp
    · exact (List.mem_append.mp hl).elim (hls.isLayout l) isLayout_of_mem_replicate

/-- How many blocks some lexemes open, and how many they close. -/
def opens (ls : List Lexeme) : Nat := ls.countP (·.kind = .indent)
def closes (ls : List Lexeme) : Nat := ls.countP (·.kind = .dedent)

/-- Lexemes that close a block only if one is open, and leave some open. -/
structure Nested (ls : List Lexeme) (left : Nat) : Prop where
  closes_le {front : List Lexeme} : front <+: ls → closes front ≤ opens front
  opens_eq : opens ls = closes ls + left

namespace Nested

variable {ls : List Lexeme} {n : Nat}

theorem nil : Nested [] 0 where
  closes_le h := by
    rw [List.prefix_nil.mp h]
    exact Nat.le_refl 0
  opens_eq := rfl

theorem concat (h : Nested ls n) (l : Lexeme) {m : Nat} (hm : opens (ls ++ [l]) = closes (ls ++ [l]) + m) :
    Nested (ls ++ [l]) m where
  closes_le hfront := by
    rcases List.prefix_concat_iff.mp hfront with rfl | hfront
    · exact hm ▸ Nat.le_add_right _ _
    · exact h.closes_le hfront
  opens_eq := hm

theorem opened (h : Nested ls n) (g : Text) : Nested (ls ++ [⟨.indent, g⟩]) (n + 1) := by
  have heq := h.opens_eq
  refine h.concat _ ?_
  simp only [opens, closes, List.countP_append] at heq ⊢
  simp
  omega

theorem closed (h : Nested ls (n + 1)) : Nested (ls ++ [⟨.dedent, []⟩]) n := by
  have heq := h.opens_eq
  refine h.concat _ ?_
  simp only [opens, closes, List.countP_append] at heq ⊢
  simp
  omega

theorem closedAll (h : Nested ls n) {m k : Nat} (hn : n = m + k) :
    Nested (ls ++ List.replicate m ⟨.dedent, []⟩) k := by
  induction m generalizing ls n with
  | zero => simpa [hn] using h
  | succ m ih =>
    have hclosed := (show Nested ls (m + k + 1) by rwa [hn, Nat.add_right_comm] at h).closed
    rw [List.replicate_succ, List.append_cons]
    exact ih hclosed rfl

theorem other (h : Nested ls n) {l : Lexeme} (hl : l.kind.isLayout = false) : Nested (ls ++ [l]) n := by
  have heq := h.opens_eq
  have hkind : l.kind ≠ .indent ∧ l.kind ≠ .dedent := by
    constructor <;> rintro hkind <;> simp [hkind, Kind.isLayout] at hl
  refine h.concat _ ?_
  simp only [opens, closes, List.countP_append] at heq ⊢
  simp [hkind]
  omega

end Nested

/-- Columns of open blocks, the innermost first, that rise from the margin inwards. -/
def Rising (indents : List Nat) : Prop := (0 :: indents.reverse).Pairwise (· < ·)

theorem rising_nil : Rising [] := List.pairwise_singleton _ _

theorem Rising.cons {indents : List Nat} (h : Rising indents) {column : Nat}
    (hcolumn : indents.headD 0 < column) : Rising (column :: indents) := by
  unfold Rising at h ⊢
  rw [List.reverse_cons, ← List.cons_append]
  refine List.pairwise_append.mpr ⟨h, List.pairwise_singleton _ _, fun i hi j hj => ?_⟩
  rw [List.mem_singleton.mp hj]
  cases indents with
  | nil => simpa [List.mem_singleton.mp hi] using hcolumn
  | cons top indents =>
    -- The innermost column is the last one and exceeds all others.
    rw [List.reverse_cons, ← List.cons_append] at h hi
    rcases List.mem_append.mp hi with hi | hi
    · exact ((List.pairwise_append.mp h).2.2 i hi top List.mem_cons_self).trans hcolumn
    · rw [List.mem_singleton.mp hi]
      exact hcolumn

theorem Rising.of_append {done kept : List Nat} (h : Rising (done ++ kept)) : Rising kept := by
  unfold Rising at h ⊢
  rw [List.reverse_append, ← List.cons_append] at h
  exact (List.pairwise_append.mp h).1

theorem Step.nested {p q : Place} {t u : Text} {ss : List Slice} (h : Step p t ss q u)
    {ls : List Lexeme} (hls : Nested ls p.indents.length) (hp : Rising p.indents) :
    Nested (ls ++ ss.filterMap Slice.lexeme?) q.indents.length ∧ Rising q.indents := by
  cases h with
  | @free g _ _ _ =>
    rw [lexeme?_gap, List.append_nil]
    exact ⟨hls, hp⟩
  | @opened g _ column _ _ hcolumn => exact ⟨hls.opened g, hp.cons hcolumn⟩
  | @closed g _ done kept _ _ hindents =>
    rw [hindents] at hls hp
    rw [List.filterMap_append, lexeme?_replicate_dedent, lexeme?_gap, List.append_nil]
    exact ⟨hls.closedAll List.length_append, hp.of_append⟩
  | passed _ _ =>
    rw [lexeme?_gap, List.append_nil]
    exact ⟨hls, hp⟩
  | ended _ =>
    refine ⟨?_, hp⟩
    cases p.lineOpen with
    | true => exact hls.other (l := ⟨.newline, ['\n']⟩) rfl
    | false =>
      rw [if_neg Bool.false_ne_true, lexeme?_gap, List.append_nil]
      exact hls
  | @read l gaps _ _ _ hkind _ _ =>
    rw [List.filterMap_cons_some (show (Slice.lexeme l).lexeme? = some l from rfl), lexeme?_gaps]
    exact ⟨hls.other (by simp [Kind.isContent] at hkind; exact hkind.1), hp⟩

/-- All along a reading the columns of the open blocks rise, and just these blocks are left open by
what was read. -/
theorem Reaches.nested {t : Text} {out : List Slice} {p : Place} {u : Text} (h : Reaches t out p u) :
    Nested (out.filterMap Slice.lexeme?) p.indents.length ∧ Rising p.indents := by
  induction h with
  | start => exact ⟨.nil, rising_nil⟩
  | @step out p u _ hu ih =>
    rw [List.filterMap_append]
    exact (step_advance p hu).nested ih.1 ih.2

theorem nested_lexemes (t : Text) : Nested (lexemes t) 0 := by
  obtain ⟨out, p, h, hlexemes⟩ := lexemes_eq t
  have hread := h.nested.1
  rw [hlexemes, endLexemes, ← List.append_assoc]
  refine Nested.closedAll ?_ rfl
  cases p.lineOpen with
  | true => exact hread.other (l := ⟨.newline, []⟩) rfl
  | false => simpa using hread

end Dictation.Source
