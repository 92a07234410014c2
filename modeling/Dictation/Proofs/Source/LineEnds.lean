import Dictation.Proofs.Source.StringEnds
/-!
# Reading up to a newline

Nothing looks beyond a newline that it does not pass: a number, a name, an operator or the opening of a
string is the same with whatever behind the newline, and so is the body of a string that ends in front
of it. So a reading that stands in front of a newline got there by the text up to it alone.
-/
namespace Dictation.Source

variable {w b : Text}

theorem takeWhile_line {p : Char → Bool} (hp : p '\n' = false) (w b : Text) :
    (w ++ '\n' :: b).takeWhile p = w.takeWhile p := by
  induction w with
  | nil => exact List.takeWhile_cons_of_neg (by rw [hp]; decide)
  | cons c w ih => rw [List.cons_append, List.takeWhile_cons, List.takeWhile_cons, ih]

theorem isPrefixOf_line {x : Text} (hx : '\n' ∉ x) (w b : Text) :
    x.isPrefixOf (w ++ '\n' :: b) = x.isPrefixOf w := by
  induction x generalizing w with
  | nil => rw [List.isPrefixOf_nil_left, List.isPrefixOf_nil_left]
  | cons a x ih =>
    obtain ⟨ha, hx⟩ := not_or.mp (mt List.mem_cons.mpr hx)
    cases w with
    | nil =>
      rw [List.nil_append, List.isPrefixOf_cons_cons, beq_eq_false_iff_ne.mpr (Ne.symm ha)]
      rfl
    | cons c w => rw [List.cons_append, List.isPrefixOf_cons_cons, List.isPrefixOf_cons_cons, ih hx]

theorem find?_isPrefixOf_line {xs : List Text} (hxs : ∀ x ∈ xs, '\n' ∉ x) (w b : Text) :
    xs.find? (·.isPrefixOf (w ++ '\n' :: b)) = xs.find? (·.isPrefixOf w) := by
  induction xs with
  | nil => rfl
  | cons x xs ih =>
    rw [List.find?_cons, List.find?_cons, isPrefixOf_line (hxs x List.mem_cons_self),
      ih fun y hy => hxs y (List.mem_cons_of_mem x hy)]

theorem drop_line {n : Nat} (hn : n ≤ w.length) (b : Text) :
    (w ++ '\n' :: b).drop n = w.drop n ++ '\n' :: b :=
  List.drop_append_of_le_length hn

theorem digitsLength_le (isDigit : Char → Bool) (t : Text) : digitsLength isDigit t ≤ t.length :=
  (List.takeWhile_prefix _).length_le

theorem digitsLength_line {isDigit : Char → Bool} (h : isDigit '\n' = false) (w b : Text) :
    digitsLength isDigit (w ++ '\n' :: b) = digitsLength isDigit w := by
  rw [digitsLength, digitsLength, takeWhile_line (by rw [h]; rfl)]

theorem isDecimalDigit_newline : isDecimalDigit '\n' = false := by decide

theorem startsWithDecimalDigit_line (w b : Text) :
    startsWithDecimalDigit (w ++ '\n' :: b) = startsWithDecimalDigit w := by
  cases w with
  | nil => exact isDecimalDigit_newline
  | cons c w => rfl

theorem radixDigit?_newline {letter : Char} {isDigit : Char → Bool} (h : radixDigit? letter = some isDigit) :
    isDigit '\n' = false := by
  unfold radixDigit? at h
  split at h
  · cases h
    rfl
  split at h
  · cases h
    rfl
  split at h
  · cases h
    rfl
  · cases h

theorem radixLength?_line (w b : Text) : radixLength? (w ++ '\n' :: b) = radixLength? w := by
  rcases w with _ | ⟨c, _ | ⟨letter, w⟩⟩
  · rfl
  · have hnone : radixDigit? '\n' = none := by decide
    by_cases hc : c = '0' <;> simp [radixLength?, hc, hnone]
  · by_cases hc : c = '0'
    · subst hc
      simp only [List.cons_append, radixLength?]
      cases hdigit : radixDigit? letter with
      | none => rfl
      | some isDigit => simp only [digitsLength_line (radixDigit?_newline hdigit)]
    · simp [radixLength?, hc]

theorem fractionLength?_point (rest : Text) : fractionLength? ('.' :: rest) =
    if startsWithDecimalDigit rest then some (1 + digitsLength isDecimalDigit rest) else none := rfl

/-- The digits behind a point, which may be missing, and the point. -/
def pointLength : Text → Nat
  | '.' :: rest => 1 + digitsLength isDecimalDigit rest
  | _ => 0

theorem fractionLength?_whole {t : Text} (ht : t.head? ≠ some '.') : fractionLength? t =
    if startsWithDecimalDigit t then
      some (digitsLength isDecimalDigit t + pointLength (t.drop (digitsLength isDecimalDigit t)))
    else none := by
  unfold fractionLength?
  split
  case h_1 => exact absurd rfl ht
  case h_2 =>
    dsimp only
    unfold pointLength
    split
    case isTrue =>
      split <;> simp [Nat.add_assoc, *]
    case isFalse => rfl

theorem pointLength_line (w b : Text) : pointLength (w ++ '\n' :: b) = pointLength w := by
  cases w with
  | nil => rfl
  | cons c w =>
    by_cases hc : c = '.'
    · subst hc
      exact congrArg (1 + ·) (digitsLength_line isDecimalDigit_newline w b)
    · simp [pointLength, hc]

theorem pointLength_le (t : Text) : pointLength t ≤ t.length := by
  unfold pointLength
  split
  case h_1 rest =>
    have hle := digitsLength_le isDecimalDigit rest
    rw [List.length_cons]
    omega
  case h_2 => exact Nat.zero_le _

theorem head?_line_eq {c : Char} (hc : c ≠ '\n') (w b : Text) :
    (w ++ '\n' :: b).head? = some c ↔ w.head? = some c := by
  cases w with
  | nil => simp [hc.symm]
  | cons a w => rfl

theorem fractionLength?_line (w b : Text) : fractionLength? (w ++ '\n' :: b) = fractionLength? w := by
  by_cases hpoint : w.head? = some '.'
  · obtain ⟨w, rfl⟩ := List.head?_eq_some_iff.mp hpoint
    rw [List.cons_append, fractionLength?_point, fractionLength?_point, startsWithDecimalDigit_line,
      digitsLength_line isDecimalDigit_newline]
  · have hle := digitsLength_le isDecimalDigit w
    rw [fractionLength?_whole hpoint, fractionLength?_whole (mt (head?_line_eq (by decide) w b).mp hpoint),
      startsWithDecimalDigit_line, digitsLength_line isDecimalDigit_newline, drop_line hle, pointLength_line]

theorem fractionLength?_le {t : Text} {n : Nat} (h : fractionLength? t = some n) : n ≤ t.length := by
  by_cases hpoint : t.head? = some '.'
  · obtain ⟨rest, rfl⟩ := List.head?_eq_some_iff.mp hpoint
    have hle := digitsLength_le isDecimalDigit rest
    rw [fractionLength?_point, Option.ite_none_right_eq_some, Option.some.injEq] at h
    rw [List.length_cons]
    omega
  · have hdigits := digitsLength_le isDecimalDigit t
    have hpart := pointLength_le (t.drop (digitsLength isDecimalDigit t))
    rw [fractionLength?_whole hpoint, Option.ite_none_right_eq_some, Option.some.injEq] at h
    rw [List.length_drop] at hpart
    omega

/-- The length of the sign that a text starts with. -/
def signLength (t : Text) : Nat := if t.head? ∈ [some '-', some '+'] then 1 else 0

theorem exponentLength_cons (e : Char) (rest : Text) : exponentLength (e :: rest) =
    if e ∈ ['e', 'E'] ∧ startsWithDecimalDigit (rest.drop (signLength rest)) then
      1 + signLength rest + digitsLength isDecimalDigit (rest.drop (signLength rest))
    else 0 := by
  rw [ite_and]
  rfl

theorem signLength_line (w b : Text) : signLength (w ++ '\n' :: b) = signLength w := by
  cases w with
  | nil => rfl
  | cons c w => rfl

theorem signLength_le (t : Text) : signLength t ≤ t.length := by
  cases t with
  | nil => exact Nat.le_refl 0
  | cons c t =>
    unfold signLength
    split
    · exact Nat.succ_le_succ (Nat.zero_le _)
    · exact Nat.zero_le _

theorem exponentLength_line (w b : Text) : exponentLength (w ++ '\n' :: b) = exponentLength w := by
  cases w with
  | nil => rfl
  | cons e w =>
    rw [List.cons_append, exponentLength_cons, exponentLength_cons, signLength_line,
      drop_line (signLength_le w), startsWithDecimalDigit_line, digitsLength_line isDecimalDigit_newline]

theorem exponentLength_le (t : Text) : exponentLength t ≤ t.length := by
  cases t with
  | nil => exact Nat.le_refl 0
  | cons e t =>
    have hsign := signLength_le t
    have hdigits := digitsLength_le isDecimalDigit (t.drop (signLength t))
    rw [List.length_drop] at hdigits
    rw [exponentLength_cons, List.length_cons]
    split <;> omega

theorem imaginaryLength_line (w b : Text) : imaginaryLength (w ++ '\n' :: b) = imaginaryLength w := by
  cases w with
  | nil => rfl
  | cons c w => rfl

theorem numberLength?_line (w b : Text) : numberLength? (w ++ '\n' :: b) = numberLength? w := by
  rw [numberLength?, numberLength?, radixLength?_line, fractionLength?_line]
  split
  case h_1 => rfl
  case h_2 =>
    cases hn : fractionLength? w with
    | none => rfl
    | some n =>
      have hle := fractionLength?_le hn
      have hexponent := exponentLength_le (w.drop n)
      rw [List.length_drop] at hexponent
      simp only [Option.map_some]
      rw [drop_line hle, exponentLength_line, drop_line (by omega), imaginaryLength_line]

theorem startsNumber_line (w b : Text) : startsNumber (w ++ '\n' :: b) = startsNumber w := by
  rcases w with _ | ⟨c, _ | ⟨d, w⟩⟩
  · rfl
  · by_cases hc : c = '.'
    · subst hc
      rfl
    · simp [startsNumber, hc]
  · by_cases hc : c = '.' <;> simp [startsNumber, hc]

theorem isNameChar_newline : isNameChar '\n' = false := by decide

theorem nameLength_line (w b : Text) : nameLength (w ++ '\n' :: b) = nameLength w := by
  rw [nameLength, nameLength, takeWhile_line isNameChar_newline]

theorem operatorLength_line (w b : Text) : operatorLength (w ++ '\n' :: b) = operatorLength w := by
  rw [operatorLength, operatorLength, find?_isPrefixOf_line (by decide)]

theorem delimiter?_line (w b : Text) : delimiter? (w ++ '\n' :: b) = delimiter? w :=
  find?_isPrefixOf_line (by decide) w b

theorem stringStart?_line (w b : Text) : stringStart? (w ++ '\n' :: b) = stringStart? w := by
  have hle : ((w.take 2).takeWhile isStringPrefix).length ≤ w.length :=
    ((List.takeWhile_prefix _).trans (List.take_prefix 2 w)).length_le
  have hletters : ((w ++ '\n' :: b).take 2).takeWhile isStringPrefix = (w.take 2).takeWhile isStringPrefix := by
    rw [← List.take_takeWhile, ← List.take_takeWhile, takeWhile_line rfl]
  rw [stringStart?, stringStart?, hletters, drop_line hle, delimiter?_line]

theorem bodyLength_escape (d : Text) (c : Char) (rest : Text) :
    bodyLength d ('\\' :: c :: rest) = 2 + bodyLength d rest := by
  rw [bodyLength.eq_def]
  exact if_pos rfl

theorem bodyLength_cons (d : Text) {c : Char} (hc : c ≠ '\\') (rest : Text) :
    bodyLength d (c :: rest) = if c = '\n' && d.length ≠ 3 then 0
      else if d.isPrefixOf (c :: rest) then d.length else 1 + bodyLength d rest := by
  rw [bodyLength.eq_def]
  exact if_neg hc

theorem bodyLength_line {d : Text} (hd : '\n' ∉ d) {w b : Text} (b' : Text)
    (h : bodyLength d (w ++ '\n' :: b) ≤ w.length) :
    bodyLength d (w ++ '\n' :: b') = bodyLength d (w ++ '\n' :: b) := by
  fun_induction bodyLength d w with
  | case1 =>
    -- Only a body in a long delimiter goes on here, and it does not end in front of the newline.
    have hprefix := isPrefixOf_line hd []
    simp only [List.nil_append] at h hprefix ⊢
    rw [bodyLength_cons d (by decide), hprefix] at h ⊢
    rw [bodyLength_cons d (by decide), hprefix]
    split
    case isTrue => rfl
    case isFalse hline =>
      rw [if_neg hline] at h
      split
      case isTrue => rfl
      case isFalse hdelimiter =>
        rw [if_neg hdelimiter, List.length_nil] at h
        omega
  | case2 =>
    rw [List.singleton_append, bodyLength_escape, List.length_singleton] at h
    omega
  | case3 c rest ih =>
    simp only [List.cons_append, List.length_cons, bodyLength_escape] at h ⊢
    rw [ih (by omega)]
  | case4 c rest hc hline =>
    rw [List.cons_append, List.cons_append, bodyLength_cons d hc, bodyLength_cons d hc, if_pos hline,
      if_pos hline]
  | case5 c rest hc hline hdelimiter =>
    have hprefix := isPrefixOf_line hd (c :: rest)
    simp only [List.cons_append] at hprefix ⊢
    rw [bodyLength_cons d hc, bodyLength_cons d hc, hprefix, hprefix, if_neg hline, if_neg hline,
      if_pos hdelimiter, if_pos hdelimiter]
  | case6 c rest hc hline hdelimiter ih =>
    have hprefix := isPrefixOf_line hd (c :: rest)
    simp only [List.cons_append] at h hprefix ⊢
    rw [bodyLength_cons d hc, hprefix, if_neg hline, if_neg hdelimiter] at h ⊢
    rw [bodyLength_cons d hc, hprefix, if_neg hline, if_neg hdelimiter, ih (by
      rw [List.length_cons] at h
      omega)]

/-- A string that ends in front of a newline is the same with anything behind the newline, and where there is
none there is none with anything else. -/
theorem stringLength?_line {w b : Text} (b' : Text)
    (h : ∀ n, stringLength? (w ++ '\n' :: b) = some n → n ≤ w.length) :
    stringLength? (w ++ '\n' :: b') = stringLength? (w ++ '\n' :: b) := by
  rw [stringLength?_eq, stringStart?_line] at h ⊢
  rw [stringLength?_eq, stringStart?_line]
  cases hstart : stringStart? w with
  | none => rfl
  | some start =>
    obtain ⟨letters, d⟩ := start
    obtain ⟨d', hdelimiter, hpair⟩ := Option.map_eq_some_iff.mp hstart
    obtain ⟨rfl, rfl⟩ := Prod.mk.inj hpair
    have hd := (mem_delimiters hdelimiter).1
    generalize ((w.take 2).takeWhile isStringPrefix).length = letters at *
    have hopen : letters + d'.length ≤ w.length := by
      obtain ⟨u, hu⟩ := (mem_delimiters hdelimiter).2
      have hlength := congrArg List.length hu
      have hpos := List.length_pos_iff.mpr (delimiters_sound d' hd).1
      rw [List.length_append, List.length_drop] at hlength
      omega
    have hbody := h _ (congrArg _ hstart)
    dsimp only at hbody
    rw [drop_line hopen] at hbody
    have hall : ∀ d ∈ delimiters, '\n' ∉ d := by decide
    have hsame := bodyLength_line (w := w.drop (letters + d'.length)) (hall d' hd) (b := b) b' (by
      rw [List.length_drop]
      omega)
    simp only [Option.map_some]
    rw [drop_line hopen, drop_line hopen, hsame]

theorem lexemeAt_line {c : Char} {w b : Text} (b' : Text)
    (h : (lexemeAt (c :: w ++ '\n' :: b)).2 ≤ (c :: w).length) :
    lexemeAt (c :: w ++ '\n' :: b') = lexemeAt (c :: w ++ '\n' :: b) := by
  have hstring : stringLength? (c :: w ++ '\n' :: b') = stringLength? (c :: w ++ '\n' :: b) := by
    refine stringLength?_line b' fun n hn => ?_
    rw [lexemeAt, hn] at h
    exact h
  have hhead : ∀ b, (c :: w ++ '\n' :: b).head? = some c := fun _ => rfl
  rw [lexemeAt, lexemeAt, hstring]
  simp only [numberLength?_line, startsNumber_line, nameLength_line, operatorLength_line, hhead]

theorem head?_line (w b b' : Text) : (w ++ '\n' :: b).head? = (w ++ '\n' :: b').head? := by
  cases w <;> rfl

theorem isPrefixOf_lineEnd (w b b' : Text) :
    ("\r\n".toList).isPrefixOf (w ++ '\n' :: b) = ("\r\n".toList).isPrefixOf (w ++ '\n' :: b') := by
  rcases w with _ | ⟨c, _ | ⟨d, w⟩⟩ <;> rfl

theorem lineStep_line (p : Place) {c : Char} {w b : Text} (b' : Text)
    (h : (lineStep p c (w ++ '\n' :: b)).2.1 ≤ w.length) :
    lineStep p c (w ++ '\n' :: b') = lineStep p c (w ++ '\n' :: b) := by
  unfold lineStep at h ⊢
  rw [head?_line w b' b, isPrefixOf_lineEnd w b' b]
  split
  · rfl
  split
  · rfl
  split
  · rfl
  split
  · rfl
  split
  case isTrue => rw [takeWhile_line rfl, takeWhile_line rfl]
  case isFalse hspace hgoesOn hreturn hline hcomment =>
    rw [if_neg hspace, if_neg hgoesOn, if_neg hreturn, if_neg hline, if_neg hcomment] at h
    have hle : (lexemeAt (c :: w ++ '\n' :: b)).2 ≤ (c :: w).length := Nat.le_add_of_sub_le h
    rw [← List.cons_append, ← List.cons_append, lexemeAt_line b' hle]
    simp only [List.take_append_of_le_length hle]

theorem isLayoutFree_line (w b : Text) : isLayoutFree (w ++ '\n' :: b) = isLayoutFree w := by
  cases w <;> rfl

theorem enterLine_line {p : Place} (hp : p.lineStart = true) (w b b' : Text) :
    enterLine p (w ++ '\n' :: b') = enterLine p (w ++ '\n' :: b) := by
  have hne : ∀ b, w ++ '\n' :: b ≠ [] := fun b => by simp
  have hle := (List.takeWhile_prefix (l := w) isIndentation).length_le
  simp only [enterLine, lineIndent, hp, hne, ne_eq, not_false_eq_true, decide_true, Bool.and_self, if_true,
    takeWhile_line (show isIndentation '\n' = false from rfl), drop_line hle, layoutSlices, isLayoutFree_line]

theorem advance_line {p : Place} {w v b : Text} (b' : Text)
    (h : (advance p (w ++ '\n' :: b)).2.2 = v ++ '\n' :: b) :
    advance p (w ++ '\n' :: b') =
      ((advance p (w ++ '\n' :: b)).1, (advance p (w ++ '\n' :: b)).2.1, v ++ '\n' :: b') := by
  cases hp : p.lineStart with
  | true =>
    have hle := (List.takeWhile_prefix (l := w) isIndentation).length_le
    have hindent : ∀ b, lineIndent p (w ++ '\n' :: b) = w.takeWhile isIndentation := fun b => by
      rw [lineIndent, if_pos hp, takeWhile_line rfl]
    rw [advance_start hp, hindent, drop_line hle] at h
    rw [advance_start hp, advance_start hp, hindent, drop_line hle, enterLine_line hp w b b',
      List.append_cancel_right h]
  | false =>
    cases w with
    | nil =>
      -- The newline itself is read.
      rw [List.nil_append, advance_cons hp] at h
      have hlength := congrArg List.length h
      simp only [List.length_drop, List.length_append, List.length_cons] at hlength
      omega
    | cons c w =>
      rw [List.cons_append, advance_cons hp] at h
      have hle : (lineStep p c (w ++ '\n' :: b)).2.1 ≤ w.length := by
        have hlength := congrArg List.length h
        simp only [List.length_drop, List.length_append, List.length_cons] at hlength
        omega
      rw [drop_line hle] at h
      rw [List.cons_append, List.cons_append, advance_cons hp, advance_cons hp, lineStep_line p b' hle,
        drop_line hle, List.append_cancel_right h]

/-- A reading that stands in front of a newline stands there with anything behind the newline. -/
theorem Reaches.line {t : Text} {out : List Slice} {p : Place} {v b : Text}
    (h : Reaches t out p (v ++ '\n' :: b)) :
    ∃ a, t = a ++ '\n' :: b ∧ ∀ b', Reaches (a ++ '\n' :: b') out p (v ++ '\n' :: b') := by
  generalize hu : v ++ '\n' :: b = u at h
  induction h generalizing v with
  | start => exact ⟨v, hu.symm, fun b' => .start⟩
  | @step out p u h hne ih =>
    obtain ⟨_, htext⟩ := (step_advance p hne).isSound
    generalize (advance p u).1.flatMap Slice.text = x at htext
    rw [← hu, ← List.append_assoc] at htext
    obtain ⟨a, rfl, hall⟩ := ih htext.symm
    subst htext
    refine ⟨a, rfl, fun b' => ?_⟩
    have hstep := Reaches.step (hall b') (by simp)
    rw [advance_line b' hu.symm] at hstep
    exact hstep

end Dictation.Source
