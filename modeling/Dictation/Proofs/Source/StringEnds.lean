import Dictation.Proofs.Source.Coverage
import Dictation.Proofs.Text.Utf8
import Dictation.Proofs.Vocabulary.Agreement
import Dictation.Source.Statement
/-!
# Where string literals end

The end of a string literal is found twice. Reading a source, a backslash keeps the next character from
ending the literal. Speaking it, a delimiter at its end is dropped, whatever stands in front. The two agree on
every literal that is terminated, and on one that is not just if it does not end like one that is.
-/
namespace Dictation.Source

open Text

/-- A text behind which nothing is escaped: each backslash in it escapes the character that follows. -/
inductive Passed : Text → Prop where
  | nil : Passed []
  | plain {c : Char} {x : Text} (hc : c ≠ '\\') (h : Passed x) : Passed (c :: x)
  | escape (c : Char) {x : Text} (h : Passed x) : Passed ('\\' :: c :: x)

theorem Passed.of_plain {c : Char} {x : Text} (hc : c ≠ '\\') (h : Passed (c :: x)) : Passed x := by
  cases h with
  | plain _ h => exact h
  | escape _ _ => exact absurd rfl hc

theorem Passed.of_escape {c : Char} {x : Text} (h : Passed ('\\' :: c :: x)) : Passed x := by
  cases h with
  | plain hc _ => exact absurd rfl hc
  | escape _ h => exact h

/-- Whether nothing is escaped behind a text. -/
def isPassed : Text → Bool
  | [] => true
  | ['\\'] => false
  | '\\' :: _ :: x => isPassed x
  | _ :: x => isPassed x

theorem isPassed_iff (x : Text) : isPassed x = true ↔ Passed x := by
  fun_induction isPassed x with
  | case1 => exact iff_of_true rfl .nil
  | case2 => exact iff_of_false (by simp) (by rintro (_ | ⟨hc, _⟩ | _); exact hc rfl)
  | case3 c x ih => exact ih.trans ⟨.escape c, Passed.of_escape⟩
  | case4 c x hone hmore ih =>
    have hc : c ≠ '\\' := by
      rintro rfl
      cases x with
      | nil => exact hone rfl rfl
      | cons d x => exact hmore d x rfl rfl
    exact ih.trans ⟨.plain hc, Passed.of_plain hc⟩

instance (x : Text) : Decidable (Passed x) := decidable_of_iff _ (isPassed_iff x)

/-- Length of a string body with its closing delimiter, in characters. -/
def bodyLength (delimiter : Text) : Text → Nat
  | [] => 0
  | c :: rest =>
    if c = '\\' then
      match rest with
      | [] => 1
      | _ :: rest => 2 + bodyLength delimiter rest
    else if c = '\n' && delimiter.length ≠ 3 then 0
    else if delimiter.isPrefixOf (c :: rest) then delimiter.length
    else 1 + bodyLength delimiter rest

/-- Whether a body with delimiter `d` may not go on at a place in front of `t`, where nothing is escaped. -/
def Stops (d t : Text) : Prop := d <+: t ∨ d.length ≠ 3 ∧ t.head? = some '\n'

theorem stops_delimiter (d u : Text) : Stops d (d ++ u) := .inl (List.prefix_append d u)

/-- Whether a body goes on all through `x`, with `rest` behind it. -/
def GoesOn (d x rest : Text) : Prop := ∀ y z, x = y ++ z → z ≠ [] → Passed y → ¬ Stops d (z ++ rest)

theorem goesOn_nil (d rest : Text) : GoesOn d [] rest := by
  intro y z h hz
  exact absurd (List.append_eq_nil_iff.mp h.symm).2 hz

theorem GoesOn.plain {d x rest : Text} {c : Char} (hc : c ≠ '\\') (hstart : ¬ Stops d (c :: (x ++ rest)))
    (h : GoesOn d x rest) : GoesOn d (c :: x) rest := by
  intro y z hyz hz hy
  cases y with
  | nil =>
    obtain rfl : c :: x = z := hyz
    exact hstart
  | cons a y =>
    obtain ⟨rfl, hx⟩ := List.cons.inj hyz
    exact h y z hx hz (hy.of_plain hc)

theorem GoesOn.escape {d x rest : Text} {c : Char} (hstart : ¬ Stops d ('\\' :: c :: (x ++ rest)))
    (h : GoesOn d x rest) : GoesOn d ('\\' :: c :: x) rest := by
  intro y z hyz hz hy
  rcases y with _ | ⟨a, _ | ⟨b, y⟩⟩
  · obtain rfl : '\\' :: c :: x = z := hyz
    exact hstart
  · obtain ⟨rfl, _⟩ := List.cons.inj hyz
    exact absurd hy (by decide)
  · obtain ⟨rfl, hrest⟩ := List.cons.inj hyz
    obtain ⟨rfl, hx⟩ := List.cons.inj hrest
    exact h y z hx hz hy.of_escape

/-- The first place where a body may not go on, and what stands there. -/
inductive BodyEnd (d : Text) : Text → Nat → Prop where
  /-- The delimiter, which belongs to the body. -/
  | closed {x rest : Text} (hx : Passed x) (h : GoesOn d x (d ++ rest)) :
      BodyEnd d (x ++ (d ++ rest)) (x.length + d.length)
  /-- The end of a line. -/
  | line {x rest : Text} (hd : d.length ≠ 3) (hx : Passed x) (h : GoesOn d x ('\n' :: rest)) :
      BodyEnd d (x ++ '\n' :: rest) x.length
  /-- The end of the source. -/
  | source {x : Text} (h : GoesOn d x []) : BodyEnd d x x.length

theorem BodyEnd.behind {d t : Text} {n : Nat} (p : Text) (hpassed : ∀ x, Passed x → Passed (p ++ x))
    (hgoes : ∀ x rest, t = x ++ rest → GoesOn d x rest → GoesOn d (p ++ x) rest) (h : BodyEnd d t n) :
    BodyEnd d (p ++ t) (p.length + n) := by
  cases h with
  | @closed x rest hx h =>
    have hend := BodyEnd.closed (hpassed x hx) (hgoes x _ rfl h)
    rwa [List.append_assoc, List.length_append, Nat.add_assoc] at hend
  | @line x rest hd hx h =>
    have hend := BodyEnd.line hd (hpassed x hx) (hgoes x _ rfl h)
    rwa [List.append_assoc, List.length_append] at hend
  | source h =>
    have hend := BodyEnd.source (hgoes t [] (List.append_nil t).symm h)
    rwa [List.length_append] at hend

theorem BodyEnd.plain {d t : Text} {n : Nat} {c : Char} (hc : c ≠ '\\') (hstart : ¬ Stops d (c :: t))
    (h : BodyEnd d t n) : BodyEnd d (c :: t) (1 + n) := by
  apply h.behind [c] (fun _ => .plain hc)
  rintro x rest rfl hx
  exact hx.plain hc hstart

theorem BodyEnd.escape {d t : Text} {n : Nat} {c : Char} (hstart : ¬ Stops d ('\\' :: c :: t))
    (h : BodyEnd d t n) : BodyEnd d ('\\' :: c :: t) (2 + n) := by
  apply h.behind ['\\', c] (fun _ => .escape c)
  rintro x rest rfl hx
  exact hx.escape hstart

theorem delimiters_sound : ∀ d ∈ delimiters, d ≠ [] ∧ (d.length = 1 ∨ d.length = 3) ∧
    ∀ c ∈ d.head?, isQuote c = true ∧ c ≠ '\\' ∧ c ≠ '\n' := by
  decide

theorem not_prefix_cons {d : Text} (hd : d ∈ delimiters) {c : Char} (hc : c = '\\' ∨ c = '\n') (t : Text) :
    ¬ d <+: c :: t := by
  obtain ⟨hne, _, hhead⟩ := delimiters_sound d hd
  obtain ⟨a, x, rfl⟩ := List.exists_cons_of_ne_nil hne
  intro hbegins
  obtain ⟨rfl, _⟩ := List.cons_prefix_cons.mp hbegins
  obtain ⟨_, hback, hline⟩ := hhead a rfl
  rcases hc with hc | hc
  · exact hback hc
  · exact hline hc

theorem not_stops_backslash {d : Text} (hd : d ∈ delimiters) (t : Text) : ¬ Stops d ('\\' :: t) := by
  rintro (hbegins | ⟨_, hhead⟩)
  · exact not_prefix_cons hd (.inl rfl) t hbegins
  · exact absurd hhead (by simp)

theorem bodyEnd_bodyLength {d : Text} (hd : d ∈ delimiters) (t : Text) : BodyEnd d t (bodyLength d t) := by
  fun_induction bodyLength d t with
  | case1 => exact .source (goesOn_nil d [])
  | case2 =>
    have hbody : GoesOn d ['\\'] [] := by
      intro y z hyz hz hy
      rcases List.append_eq_singleton_iff.mp hyz.symm with ⟨_, rfl⟩ | ⟨_, hnil⟩
      · exact not_stops_backslash hd []
      · exact absurd hnil hz
    exact .source hbody
  | case3 c rest ih => exact ih.escape (not_stops_backslash hd (c :: rest))
  | case4 c rest hc hline =>
    obtain ⟨rfl, hlength⟩ : c = '\n' ∧ d.length ≠ 3 := by simpa using hline
    exact .line (x := []) hlength .nil (goesOn_nil d _)
  | case5 c rest hc _ hdelimiter =>
    obtain ⟨u, hu⟩ := List.isPrefixOf_iff_prefix.mp hdelimiter
    have hbody : BodyEnd d ([] ++ (d ++ u)) (0 + d.length) := .closed .nil (goesOn_nil d _)
    rwa [Nat.zero_add, List.nil_append, hu] at hbody
  | case6 c rest hc hline hdelimiter ih =>
    refine ih.plain hc ?_
    rintro (hbegins | ⟨hlength, hhead⟩)
    · exact hdelimiter (List.isPrefixOf_iff_prefix.mpr hbegins)
    · exact hline (by simpa [hlength] using hhead)

theorem bodyLength_le {d : Text} (hd : d ∈ delimiters) (t : Text) : bodyLength d t ≤ t.length := by
  have hend := bodyEnd_bodyLength hd t
  generalize bodyLength d t = n at hend
  cases hend <;> simp

theorem byteSize_delimiter : ∀ d ∈ delimiters, d.byteSize = d.length := by
  decide

/-- The scan of a body comes to the byte behind its characters. -/
theorem endOfBody_eq {d : Text} (hd : d ∈ delimiters) (n : Nat) (t : Text) :
    endOfBody d false n t = n + byteSize (t.take (bodyLength d t)) := by
  have hsize := byteSize_delimiter d hd
  fun_induction bodyLength d t generalizing n with
  | case1 => rfl
  | case2 => rfl
  | case3 c rest ih =>
    have hscan : endOfBody d false n ('\\' :: c :: rest) =
        endOfBody d false (n + '\\'.utf8Size + c.utf8Size) rest := rfl
    rw [hscan, ih, Nat.add_comm 2, List.take_succ_cons, List.take_succ_cons, byteSize_cons, byteSize_cons]
    simp only [Nat.add_assoc]
  | case4 c rest hc hline =>
    rw [endOfBody, if_neg Bool.false_ne_true, if_neg hc, hsize, if_pos hline]
    rfl
  | case5 c rest hc hline hdelimiter =>
    have hbegins := List.isPrefixOf_iff_prefix.mp hdelimiter
    rw [endOfBody, if_neg Bool.false_ne_true, if_neg hc, hsize, if_neg hline, if_pos hdelimiter,
      ← List.prefix_iff_eq_take.mp hbegins, hsize]
  | case6 c rest hc hline hdelimiter ih =>
    rw [endOfBody, if_neg Bool.false_ne_true, if_neg hc, hsize, if_neg hline, if_neg hdelimiter, ih,
      Nat.add_comm 1, List.take_succ_cons, byteSize_cons, Nat.add_assoc]

theorem bodySize_eq {d : Text} (hd : d ∈ delimiters) (t : Text) :
    bodySize d t = byteSize (t.take (bodyLength d t)) := by
  rw [bodySize, endOfBody_eq hd, Nat.zero_add]

theorem splitAtByte?_bodySize {d : Text} (hd : d ∈ delimiters) (t : Text) :
    t.splitAtByte? (bodySize d t) = some (t.take (bodyLength d t), t.drop (bodyLength d t)) := by
  have hcut := splitAtByte?_append (t.take (bodyLength d t)) (t.drop (bodyLength d t))
  rwa [List.take_append_drop, ← bodySize_eq hd] at hcut

/-- A body that goes on is over before it may not. -/
theorem GoesOn.begins_of_stops {d x rest y u : Text} (h : GoesOn d x rest) (hxy : x ++ rest = y ++ u)
    (hy : Passed y) (hu : Stops d u) : x <+: y := by
  rcases List.append_eq_append_iff.mp hxy with ⟨z, hz, _⟩ | ⟨z, hz, hrest⟩
  · exact ⟨z, hz.symm⟩
  · by_cases hnil : z = []
    · have hx : x = y := by rw [hz, hnil, List.append_nil]
      exact hx ▸ List.prefix_rfl
    · exact absurd (hrest ▸ hu) (h y z hz hnil hy)

theorem GoesOn.ne {d x rest y z : Text} (hd : d ≠ []) (h : GoesOn d x rest) (hy : Passed y) :
    x ≠ y ++ (d ++ z) := by
  intro hx
  exact h y (d ++ z) hx (by simp [hd]) hy (.inl ⟨z ++ rest, (List.append_assoc d z rest).symm⟩)

/-- Whether a body ends with its delimiter, where nothing is escaped. -/
def Terminated (d b : Text) : Prop := ∃ x, b = x ++ d ∧ Passed x

/-- The scan of a body ends with the first delimiter or at the end of what a body may hold. -/
theorem ends_of_bodyLength {d b back : Text} (hd : d ∈ delimiters)
    (h : bodyLength d (b ++ back) = b.length) :
    (∀ x y, b = x ++ (d ++ y) → Passed x → y = []) ∧
      (¬ Terminated d b → back = [] ∨ d.length = 1 ∧ back.head? = some '\n') := by
  obtain ⟨hne, hlengths, _⟩ := delimiters_sound d hd
  have hend := bodyEnd_bodyLength hd (b ++ back)
  rw [h] at hend
  generalize ht : b ++ back = t at hend
  generalize hn : b.length = n at hend
  cases hend with
  | @closed x rest hx hgoes =>
    rw [← List.append_assoc] at ht
    obtain ⟨rfl, rfl⟩ := List.append_inj ht (by rw [hn, List.length_append])
    refine ⟨?_, fun hopen => absurd ⟨x, rfl, hx⟩ hopen⟩
    intro y z hyz hy
    have hle := (hgoes.begins_of_stops (u := d ++ (z ++ back)) (by rw [← List.append_assoc, hyz]; simp) hy
      (stops_delimiter d _)).length_le
    have hlength := congrArg List.length hyz
    simp only [List.length_append] at hlength
    exact List.eq_nil_of_length_eq_zero (by omega)
  | @line x rest hline hx hgoes =>
    obtain ⟨rfl, rfl⟩ := List.append_inj ht hn
    refine ⟨?_, fun _ => .inr ⟨hlengths.resolve_right hline, rfl⟩⟩
    intro y z hyz hy
    exact absurd hyz (hgoes.ne hne hy)
  | source hgoes =>
    obtain rfl : back = [] := by
      have hlength := congrArg List.length ht
      rw [List.length_append] at hlength
      exact List.eq_nil_of_length_eq_zero (by omega)
    rw [List.append_nil] at ht
    subst ht
    refine ⟨?_, fun _ => .inl rfl⟩
    intro y z hyz hy
    exact absurd hyz (hgoes.ne hne hy)

/-- A literal with the text behind it, as it is read: its letters, its delimiter and its body. -/
structure IsLiteral (letters d b back : Text) : Prop where
  start : stringStart? (letters ++ (d ++ (b ++ back))) = some (letters.length, d)
  length : stringLength? (letters ++ (d ++ (b ++ back))) = some (letters ++ (d ++ b)).length
  letters : ∀ c ∈ letters, isStringPrefix c = true
  delimiter : delimiter? (d ++ (b ++ back)) = some d
  /-- The first delimiter ends the body. -/
  first : ∀ x y, b = x ++ (d ++ y) → Passed x → y = []
  /-- Without a delimiter, the end of the source does or, with a short delimiter, that of the line. -/
  unterminated : ¬ Terminated d b → back = [] ∨ d.length = 1 ∧ back.head? = some '\n'

theorem mem_delimiters {t d : Text} (h : delimiter? t = some d) : d ∈ delimiters ∧ d <+: t := by
  have hbegins := List.find?_some h
  exact ⟨List.mem_of_find?_eq_some h, List.isPrefixOf_iff_prefix.mp hbegins⟩

theorem stringLength?_eq (t : Text) : stringLength? t = (stringStart? t).map fun (letters, d) =>
    letters + d.length + bodyLength d (t.drop (letters + d.length)) := by
  unfold stringLength?
  cases hstart : stringStart? t with
  | none => rfl
  | some start =>
    obtain ⟨letters, d⟩ := start
    obtain ⟨d', hdelimiter, hpair⟩ := Option.map_eq_some_iff.mp hstart
    cases hpair
    have hd := (mem_delimiters hdelimiter).1
    simp only [Option.bind_eq_bind, Option.bind_some, splitAtByte?_bodySize hd, List.length_take,
      Nat.min_eq_left (bodyLength_le hd _), Option.map_some]
    rfl

theorem isLiteral_of_stringLength? {t : Text} {n : Nat} (h : stringLength? t = some n) :
    ∃ letters d b back, t = letters ++ (d ++ (b ++ back)) ∧ n = (letters ++ (d ++ b)).length ∧
      IsLiteral letters d b back := by
  obtain ⟨⟨k, d⟩, hstart, hn⟩ := Option.map_eq_some_iff.mp (stringLength?_eq t ▸ h)
  obtain ⟨d', hdelimiter, hpair⟩ := Option.map_eq_some_iff.mp hstart
  cases hpair
  obtain ⟨u, hu⟩ : (t.take 2).takeWhile isStringPrefix <+: t :=
    (List.takeWhile_prefix _).trans (List.take_prefix 2 t)
  have hletters : ∀ c ∈ (t.take 2).takeWhile isStringPrefix, isStringPrefix c = true := fun c hc =>
    List.mem_takeWhile_imp hc
  generalize (t.take 2).takeWhile isStringPrefix = letters at *
  subst hu
  rw [List.drop_left] at hdelimiter
  obtain ⟨hd, v, rfl⟩ := mem_delimiters hdelimiter
  have hdrop : (letters ++ (d ++ v)).drop (letters.length + d.length) = v := by
    rw [← List.append_assoc, ← List.length_append, List.drop_left]
  dsimp only at hn
  rw [hdrop] at hn
  obtain ⟨b, back, rfl, hb⟩ : ∃ b back, v = b ++ back ∧ bodyLength d v = b.length := by
    refine ⟨v.take (bodyLength d v), v.drop (bodyLength d v), (List.take_append_drop _ v).symm, ?_⟩
    rw [List.length_take, Nat.min_eq_left (bodyLength_le hd v)]
  have hlength : n = (letters ++ (d ++ b)).length := by
    rw [← hn, hb, List.length_append, List.length_append, Nat.add_assoc]
  obtain ⟨hfirst, hopen⟩ := ends_of_bodyLength hd hb
  exact ⟨letters, d, b, back, rfl, hlength, hstart, hlength ▸ h, hletters, hdelimiter, hfirst, hopen⟩

theorem dropSuffix_append (d x : Text) : dropSuffix d (x ++ d) = x := by
  have hdrop : dropPrefix? d.reverse (x ++ d).reverse = some x.reverse := by
    rw [dropPrefix?_eq_some_iff, List.reverse_append]
  rw [dropSuffix, hdrop]
  exact List.reverse_reverse x

theorem dropSuffix_eq_self_iff {d b : Text} (hd : d ≠ []) : dropSuffix d b = b ↔ ¬ d <:+ b := by
  constructor
  · rintro hsame ⟨x, rfl⟩
    rw [dropSuffix_append] at hsame
    exact hd (List.self_eq_append_right.mp hsame)
  · intro hend
    unfold dropSuffix
    split
    case h_1 rest hrest =>
      have hb := congrArg List.reverse (dropPrefix?_eq_some_iff.mp hrest)
      rw [List.reverse_reverse, List.reverse_append, List.reverse_reverse] at hb
      exact absurd ⟨rest.reverse, hb.symm⟩ hend
    case h_2 => rfl

theorem delimiter?_of_append {d b back : Text} (h : delimiter? (d ++ (b ++ back)) = some d) :
    delimiter? (d ++ b) = some d := by
  obtain ⟨_, front, rest, hlist, hfront⟩ := List.find?_eq_some_iff_append.mp h
  refine List.find?_eq_some_iff_append.mpr ⟨?_, front, rest, hlist, ?_⟩
  · exact List.isPrefixOf_iff_prefix.mpr (List.prefix_append d b)
  · intro e he
    have hnot := hfront e he
    simp only [Bool.not_eq_true', ← Bool.not_eq_true, List.isPrefixOf_iff_prefix] at hnot ⊢
    intro hbegins
    rw [← List.append_assoc] at hnot
    exact hnot (hbegins.trans (List.prefix_append _ back))

theorem isQuote_of_isStringPrefix {c : Char} (h : isStringPrefix c = true) : isQuote c = false := by
  have hall : ∀ c ∈ ['r', 'b', 'u', 'f', 'R', 'B', 'U', 'F'], isQuote c = false := by decide
  exact hall c (by simpa [isStringPrefix] using h)

/-- The parts of a literal that was read. Only its body need not be the one that was read. -/
theorem IsLiteral.stringParts {letters d b back : Text} (h : IsLiteral letters d b back) :
    stringParts (letters ++ (d ++ b)) = ⟨letters, d, dropSuffix d b⟩ := by
  obtain ⟨hd, _⟩ := mem_delimiters h.delimiter
  obtain ⟨hne, _, hhead⟩ := delimiters_sound d hd
  have hletters : ∀ c ∈ letters, (!isQuote c) = true := by
    intro c hc
    rw [isQuote_of_isStringPrefix (h.letters c hc)]
    rfl
  have hquoted : (d ++ b).takeWhile (!isQuote ·) = [] ∧ (d ++ b).dropWhile (!isQuote ·) = d ++ b := by
    obtain ⟨a, x, rfl⟩ := List.exists_cons_of_ne_nil hne
    simp [(hhead a rfl).1]
  unfold Source.stringParts
  rw [List.takeWhile_append_of_pos hletters, List.dropWhile_append_of_pos hletters, hquoted.1, hquoted.2,
    List.append_nil]
  dsimp only
  rw [if_neg (by simp [hne]), delimiter?_of_append h.delimiter, Option.getD_some, List.drop_left]

theorem stringLength?_of_lexemeAt {t : Text} (h : (lexemeAt t).1 = .string) :
    stringLength? t = some (lexemeAt t).2 := by
  unfold lexemeAt at h ⊢
  split
  case h_1 n hn => exact hn
  case h_2 hnone =>
    rw [hnone] at h
    dsimp only at h
    split at h
    · cases h
    · split at h <;> cases h

theorem string_lineStep {p : Place} {c : Char} {rest : Text} {l : Lexeme}
    (hl : .lexeme l ∈ (lineStep p c rest).1) (hkind : l.kind = .string) :
    ∃ n, stringLength? (c :: rest) = some n ∧ l.text = (c :: rest).take n := by
  unfold lineStep at hl
  split at hl
  · simp at hl
  split at hl
  · simp at hl
  split at hl
  · simp at hl
  split at hl
  · split at hl
    · split at hl
      · simp at hl
        rw [hl] at hkind
        cases hkind
      · simp at hl
    · simp at hl
  split at hl
  · simp at hl
    rw [hl] at hkind
    cases hkind
  · simp at hl
    subst hl
    exact ⟨_, stringLength?_of_lexemeAt hkind, rfl⟩

theorem Step.isLayout {p q : Place} {t u : Text} {ss : List Slice} (h : Step p t ss q u)
    (hp : p.lineStart = true) {l : Lexeme} (hl : .lexeme l ∈ ss) : l.kind.isLayout = true := by
  cases h with
  | free => simp at hl
  | opened =>
    simp at hl
    rw [hl]
    rfl
  | closed =>
    simp only [List.mem_append, List.mem_singleton, reduceCtorEq, or_false] at hl
    cases List.eq_of_mem_replicate hl
    rfl
  | passed hline => simp [hp] at hline
  | ended hline => simp [hp] at hline
  | read hline => simp [hp] at hline

/-- Every lexeme that is no marker of blocks and no newline is read by a step within a line. -/
theorem exists_lineStep {t : Text} {l : Lexeme} (hl : l ∈ lexemes t) (hlayout : l.kind.isLayout = false)
    (hnewline : l.kind ≠ .newline) :
    ∃ front p c rest, t = front ++ c :: rest ∧ .lexeme l ∈ (lineStep p c rest).1 := by
  obtain ⟨out, p, hreaches, hlexemes⟩ := lexemes_eq t
  rw [hlexemes, List.mem_append] at hl
  rcases hl with hl | hl
  · obtain ⟨s, hs, hsl⟩ := List.mem_filterMap.mp hl
    cases s with
    | gap g => cases hsl
    | lexeme l' =>
      cases hsl
      clear hlexemes hl
      generalize ([] : Text) = u at hreaches
      induction hreaches with
      | start => cases hs
      | @step out p u hreaches hu ih =>
        rcases List.mem_append.mp hs with hs | hs
        · exact ih hs
        · cases hp : p.lineStart with
          | true =>
            rw [(step_advance p hu).isLayout hp hs] at hlayout
            cases hlayout
          | false =>
            obtain ⟨c, rest, rfl⟩ := List.exists_cons_of_ne_nil hu
            rw [advance_cons hp] at hs
            exact ⟨_, p, c, rest, hreaches.isSound.2, hs⟩
  · rcases kind_endLexemes p l hl with hend | hend
    · rw [hend] at hlayout
      cases hlayout
    · exact absurd hend hnewline

theorem exists_isLiteral {t : Text} {l : Lexeme} (hl : l ∈ lexemes t) (hkind : l.kind = .string) :
    ∃ front letters d b back, t = front ++ (l.text ++ back) ∧ l.text = letters ++ (d ++ b) ∧
      IsLiteral letters d b back := by
  obtain ⟨front, p, c, rest, rfl, hstep⟩ := exists_lineStep hl (by rw [hkind]; rfl) (by rw [hkind]; decide)
  obtain ⟨n, hn, htext⟩ := string_lineStep hstep hkind
  obtain ⟨letters, d, b, back, hrest, hlength, hliteral⟩ := isLiteral_of_stringLength? hn
  have hsplit : letters ++ (d ++ (b ++ back)) = letters ++ (d ++ b) ++ back := by simp
  have hwhole : l.text = letters ++ (d ++ b) := by
    rw [htext, hlength, hrest, hsplit, List.take_left]
  exact ⟨front, letters, d, b, back, by rw [hrest, hwhole, hsplit], hwhole, hliteral⟩

/-- A string literal is spoken with the letters and the delimiter with which it is read. The body that is
spoken is the one that was read without its delimiter, if it is terminated. If it is not, nothing of the body
is lost just if it does not end with the characters of the delimiter. -/
theorem cues_of_string {t : Text} {l : Lexeme} (hl : l ∈ lexemes t) (hkind : l.kind = .string) :
    ∃ front letters d b back body, t = front ++ (l.text ++ back) ∧ l.text = letters ++ (d ++ b) ∧
      IsLiteral letters d b back ∧
      (∀ k, l.cues k = letters.map (fun c => .fixed (lowerChar c)) ++ [.fixed (operatorWord d)] ++
        proseCues k body ++ [.fixed (operatorWord d)]) ∧
      (Terminated d b → b = body ++ d) ∧ (¬ Terminated d b → (body = b ↔ ¬ d <:+ b)) := by
  obtain ⟨front, letters, d, b, back, ht, hwhole, hliteral⟩ := exists_isLiteral hl hkind
  obtain ⟨hd, _⟩ := mem_delimiters hliteral.delimiter
  refine ⟨front, letters, d, b, back, dropSuffix d b, ht, hwhole, hliteral, ?_, ?_, ?_⟩
  · intro k
    rw [Lexeme.cues, hkind, hwhole]
    dsimp only
    rw [stringCues, hliteral.stringParts]
  · rintro ⟨x, rfl, _⟩
    rw [dropSuffix_append]
  · intro _
    exact dropSuffix_eq_self_iff (delimiters_sound d hd).1

/-- An escaped delimiter inside the body ends neither what is read nor what is spoken. -/
theorem cues_of_string_escaped :
    ⟨.string, "'a\\'b'".toList⟩ ∈ lexemes "x = 'a\\'b'\n".toList ∧
      ∃ body, "'a\\'b'".toList = '\'' :: body ++ ['\''] ∧
        ∀ k, Lexeme.cues k ⟨.string, "'a\\'b'".toList⟩ =
          .fixed (operatorWord ['\'']) :: proseCues k body ++ [.fixed (operatorWord ['\''])] := by
  have hmem : ⟨.string, "'a\\'b'".toList⟩ ∈ lexemes "x = 'a\\'b'\n".toList := by decide +kernel
  obtain ⟨_, letters, d, b, _, body, _, hwhole, hliteral, hcues, hterminated, _⟩ := cues_of_string hmem rfl
  have hknown : stringParts "'a\\'b'".toList = ⟨[], ['\''], "a\\'b".toList⟩ := by decide +kernel
  have hparts := hliteral.stringParts
  rw [← hwhole] at hparts
  obtain ⟨rfl, rfl, _⟩ := StringParts.mk.inj (hparts.symm.trans hknown)
  have hb : b = "a\\'b'".toList := by simpa using hwhole.symm
  have hbody := hterminated ⟨"a\\'b".toList, hb, by decide⟩
  refine ⟨hmem, body, ?_, hcues⟩
  rw [List.cons_append, ← hbody, hb]
  rfl

/-- The delimiter at the end of this literal is escaped, so that the literal is not terminated, but it is not
spoken as a part of the body. -/
theorem cues_of_string_open :
    ⟨.string, "\"a\\\"".toList⟩ ∈ lexemes "\"a\\\"".toList ∧ ¬ Terminated ['"'] "a\\\"".toList ∧
      (Lexeme.cues {} ⟨.string, "\"a\\\"".toList⟩) =
        .fixed (operatorWord ['"']) :: proseCues {} "a\\".toList ++ [.fixed (operatorWord ['"'])] ∧
      proseCues {} "a\\".toList ≠ proseCues {} "a\\\"".toList := by
  refine ⟨by decide +kernel, ?_, by decide +kernel, by decide +kernel⟩
  rintro ⟨x, hx, hpassed⟩
  have hsplit : "a\\".toList ++ ['"'] = x ++ ['"'] := hx
  obtain rfl := List.append_cancel_right hsplit
  exact absurd hpassed (by decide)

end Dictation.Source
