import Dictation.Proofs.Source.StringEnds
import Dictation.Proofs.Token.SingleWords
import Dictation.Proofs.Unicode.DigitNames
import Mathlib.Data.List.TakeWhile
/-!
# Prose in its frame

The body of a string or of a comment is spoken inside its frame, and no word of it is blank. Each newline of the
body is said once and nothing else is spoken alike: a newline stands in a piece of white space, a word of letters
has no hyphen, and no operator, numeral, marker or digit is named as a newline is.
-/
namespace Dictation

open Unicode

namespace Text

theorem flatten_wordPieces (t : Text) : (wordPieces t).flatten = t := by
  fun_induction wordPieces t with
  | case1 => rfl
  | case2 c rest ih => rw [List.flatten_cons, ih, List.cons_append, List.take_append_drop]

theorem eq_of_carriageReturn {c : Char} (h : WordBreak.of c = .carriageReturn) : c = '\r' := by
  simp only [WordBreak.of, ite_eq_iff, reduceCtorEq, and_false, or_false, and_true] at h
  exact h

/-- How many characters stand in front of the first newline. -/
def lineLength (t : Text) : Nat := (t.takeWhile (· ≠ '\n')).length

theorem newline_not_mem_take {t : Text} {n : Nat} (h : n ≤ lineLength t) : '\n' ∉ t.take n := by
  intro hmem
  have hstart : t.take n <+: t.takeWhile (· ≠ '\n') :=
    List.prefix_of_prefix_length_le (List.take_prefix n t) (List.takeWhile_prefix _)
      (Nat.le_trans (List.length_take_le n t) h)
  simpa using List.mem_takeWhile_imp (hstart.subset hmem)

namespace WordEnd

theorem next_newline (e : WordEnd) (marked : Bool) (count : Nat) : e.next marked count .lineFeed = none := by
  cases e with
  | space => rfl
  | middle need n => cases need <;> rfl
  | _ => rfl

theorem kept_succ {e : WordEnd} {count : Nat} (h : e.kept count ≤ count) : e.kept (count + 1) ≤ count + 1 := by
  cases e with
  | middle need n => exact Nat.le_succ_of_le h
  | _ => exact Nat.le_refl _

/-- A character in the middle of a word is kept only with what follows it. -/
theorem kept_next {e e' : WordEnd} {marked : Bool} {count : Nat} {w : WordBreak}
    (h : e.next marked count w = some e') : e'.kept (count + 1) ≤ count + 1 := by
  cases e' with
  | middle need n =>
    suffices hn : n = count by
      rw [hn]
      exact Nat.le_succ count
    cases e with
    | middle other m => cases other <;> cases w <;> cases h
    | _ => cases w <;> cases marked <;> cases h <;> rfl
  | _ => exact Nat.le_refl _

theorem kept_start (w : WordBreak) : (start w).kept 0 = 0 := by
  cases w <;> rfl

end WordEnd

theorem wordExtent_le {e : WordEnd} {joined marked : Bool} {count : Nat} {t : Text} (h : e.kept count ≤ count) :
    wordExtent e joined marked count t ≤ count + lineLength t := by
  have hline : ∀ {c : Char}, c ≠ '\n' → ∀ rest, lineLength (c :: rest) = lineLength rest + 1 := by
    intro c hc rest
    simp [lineLength, hc]
  have hclass : ∀ {c : Char}, WordBreak.of c ≠ .lineFeed → c ≠ '\n' := by
    rintro c hc rfl
    exact hc rfl
  fun_induction wordExtent e joined marked count t with
  | case1 => exact Nat.le_add_right_of_le h
  | case2 e joined marked count c rest w hattaches ih =>
    have hc : c ≠ '\n' := hclass fun heq => by simp [w, heq, WordBreak.attaches] at hattaches
    have := ih (WordEnd.kept_succ h)
    rw [hline hc]
    omega
  | case3 e joined marked count c rest w _ hpictograph ih =>
    have hc : c ≠ '\n' := by
      rintro rfl
      exact absurd (Bool.and_eq_true_iff.mp hpictograph).2 (by decide)
    have := ih (Nat.le_refl _)
    rw [hline hc]
    omega
  | case4 e joined marked count c rest w _ _ e' hnext ih =>
    have hc : c ≠ '\n' := hclass fun heq => by simp [w, heq, WordEnd.next_newline] at hnext
    have := ih (WordEnd.kept_next hnext)
    rw [hline hc]
    omega
  | case5 => exact Nat.le_add_right_of_le h

theorem firstExtent_le {c : Char} (hc : c ≠ '\r') (rest : Text) : firstExtent c rest ≤ lineLength rest := by
  have hextent : ∀ (e : WordEnd) (joined marked : Bool), e.kept 0 = 0 →
      wordExtent e joined marked 0 rest ≤ lineLength rest := by
    intro e joined marked he
    have hle := @wordExtent_le e joined marked 0 rest (Nat.le_of_eq he)
    rwa [Nat.zero_add] at hle
  unfold firstExtent
  split
  case h_1 hreturn => exact absurd (eq_of_carriageReturn hreturn) hc
  case h_2 => exact Nat.zero_le _
  case h_3 => exact Nat.zero_le _
  case h_4 =>
    split
    · split
      · exact hextent _ _ _ rfl
      · exact Nat.zero_le _
    · exact Nat.zero_le _
    · exact hextent _ _ _ (WordEnd.kept_start _)

theorem newline_of_mem_wordPieces {t piece : Text} (h : piece ∈ wordPieces t) :
    '\n' ∉ piece ∨ piece = ['\n'] ∨ piece = ['\r', '\n'] := by
  fun_induction wordPieces t with
  | case1 => cases h
  | case2 c rest ih =>
    rcases List.mem_cons.mp h with rfl | h
    case inr => exact ih h
    by_cases hline : c = '\n'
    · subst hline
      exact .inr (.inl rfl)
    by_cases hreturn : c = '\r'
    · subst hreturn
      have hextent : firstExtent '\r' rest = if rest.head? = some '\n' then 1 else 0 := rfl
      rw [hextent]
      split
      case isTrue hhead =>
        obtain ⟨rest, rfl⟩ := List.head?_eq_some_iff.mp hhead
        exact .inr (.inr rfl)
      case isFalse => exact .inl (by simp)
    · refine .inl fun hmem => ?_
      rcases List.mem_cons.mp hmem with hsame | hmem
      · exact hline hsame.symm
      · exact newline_not_mem_take (firstExtent_le hreturn rest) hmem

end Text

theorem isBlankText_of_isSolid {t : Text} (h : isSolid t = true) : t.isBlankText = false := by
  obtain ⟨c, rest, rfl⟩ := List.exists_cons_of_ne_nil (ne_nil_of_isSolid h)
  rw [Text.isBlankText, List.all_cons, isBlank_of_isSolid h List.mem_cons_self, Bool.false_and]

theorem ne_newLine_of_hyphen {t : Text} (h : '-' ∉ t) : t ≠ Source.newLine := by
  rintro rfl
  exact h (by decide)

theorem Combiners.isNamePart_hyphen (k : Combiners) : (k.categoryOf '-').isNamePart = false := by
  unfold categoryOf
  split
  · rfl
  · decide

theorem Combiners.isBlank_of_separator {k : Combiners} {c : Char} (h : k.categoryOf c = .separator) :
    isBlank c = true := by
  unfold categoryOf at h
  split at h
  · cases h
  split at h
  · cases h
  split at h
  case isTrue hblank => exact hblank
  case isFalse =>
    simp only [ite_eq_iff, reduceCtorEq, and_false, or_self] at h

theorem Operator.word_ne_newLine {op : Text} (hop : op ∈ compounds ∨ ∃ c, op = [c]) (hline : '\n' ∉ op) :
    word op ≠ Source.newLine := by
  unfold word
  cases hspoken : spoken? op with
  | some spoken =>
    have hall : ∀ e ∈ spelledTable.1, e.2 = Source.newLine → '\n' ∈ e.1 := by decide +kernel
    exact fun hsame => hline (hall _ (mem_table_of_spoken? hspoken) hsame)
  | none =>
    obtain ⟨c, rfl⟩ := hop.resolve_left fun hcompound => spoken?_of_mem_compounds hcompound hspoken
    rw [Option.getD_none, List.flatMap_singleton]
    intro hsame
    obtain ⟨rfl, hname⟩ := List.cons.inj (hsame.trans (by rfl : Source.newLine = 'n' :: "ew-line".toList))
    revert hname
    decide +kernel

namespace Cue

variable {k : Combiners} {t n w : Text} {segments : List Text}

theorem mem_frame (h : w ∈ frame n segments) : w ∈ [noSpace, spaces] ∨ ∃ x, (x = n ∨ x ∈ segments) ∧ w = x.lower := by
  unfold frame at h
  split at h
  · simp only [List.cons_append, List.mem_cons, List.mem_append, List.mem_map, List.not_mem_nil, or_false] at h
    rcases h with rfl | ⟨x, hx, rfl⟩ | rfl
    · exact .inl (by simp)
    · exact .inr ⟨x, .inr hx, rfl⟩
    · exact .inl (by simp)
  · exact .inr ⟨n, .inl rfl, List.mem_singleton.mp h⟩

theorem hyphen_not_mem_segments (hn : '-' ∉ n) (hsegments : Segmenter.Parted n segments) {x : Text}
    (hx : x ∈ segments) : '-' ∉ x := by
  obtain ⟨stretches, hpartition⟩ := hsegments.partition
  rw [← hpartition.segments_eq] at hx
  obtain ⟨stretch, hstretch, hx⟩ := List.mem_flatMap.mp hx
  cases stretch with
  | kept u =>
    obtain rfl := List.mem_singleton.mp hx
    exact fun hmem => hn (hpartition.text_eq ▸ List.mem_flatMap.mpr ⟨_, hstretch, hmem⟩)
  | spelled ds =>
    have hall : ∀ d ∈ asciiDigits, '-' ∉ digitWord d := by decide
    obtain ⟨d, hd, rfl⟩ := List.mem_map.mp hx
    exact hall d (mem_asciiDigits (List.all_eq_true.mp (hpartition.digits ds hstretch) d hd))

theorem frame_ne_newLine (hn : '-' ∉ n) (hsegments : Segmenter.Parted n segments) (hw : w ∈ frame n segments) :
    w ≠ Source.newLine := by
  rcases mem_frame hw with hframe | ⟨x, hx, rfl⟩
  · have hall : ∀ w ∈ [noSpace, spaces], w ≠ Source.newLine := by decide
    exact hall w hframe
  · refine ne_newLine_of_hyphen (mt Text.hyphen_of_mem_lower ?_)
    rcases hx with rfl | hx
    · exact hn
    · exact hyphen_not_mem_segments hn hsegments hx

theorem numeral_ne_newLine {c : Char} {ws : List Text} (h : numeralWords? c = some ws) (hw : w ∈ ws) :
    w ≠ Source.newLine := by
  have hall : ∀ w ∈ ws, w ≠ Source.newLine := by
    unfold numeralWords? at h
    split at h <;> cases h <;> decide
  exact hall w hw

theorem marker_ne_newLine {c : Casing} (h : w ∈ c.markers) : w ≠ Source.newLine := by
  have hall : ∀ w ∈ c.markers, w ≠ Source.newLine := by cases c <;> decide
  exact hall w h

/-- What is spoken of a text without newlines is not blank and no newline, whatever it comes from. -/
theorem Origin.ordinary {segment : Text → Except VocabularyError (List Text)} {cue : Cue}
    (hsegment : ∀ n, cue = .name n → ∀ segments, segment n = .ok segments → Segmenter.Parted n segments)
    (h : Origin (k.runs t) cue) (hspoken : Source.isSpoken cue = true) (hline : '\n' ∉ t)
    (hw : cue.Says segment w) : w.isBlankText = false ∧ w ≠ Source.newLine := by
  have hfixed : ∀ {u : Text}, Source.isSpoken (fixed u) = true → u.isBlankText = false := fun hu => by
    simpa [Source.isSpoken] using hu
  cases h with
  | @blank r hr hcategory =>
    cases hw
    have hblank : r.text.isBlankText = true := List.all_eq_true.mpr fun c hc =>
      Combiners.isBlank_of_separator ((Combiners.mem_run hr hc).2.trans hcategory)
    rw [hfixed hspoken] at hblank
    cases hblank
  | @operator r op hr _ _ hop =>
    cases hw
    have hkind := (Operator.longestMatch_split r.text).compound_or_character hop
    exact ⟨hfixed hspoken, Operator.word_ne_newLine hkind fun hmem => hline (mem_run_of_mem_split hr hop hmem).1⟩
  | numeral hc hmem =>
    cases hw
    exact ⟨hfixed hspoken, numeral_ne_newLine hc hmem⟩
  | marker hmem =>
    cases hw
    exact ⟨hfixed hspoken, marker_ne_newLine hmem⟩
  | @digit r c hr hcategory hc =>
    cases hw
    exact ⟨hfixed hspoken, digitWord_ne_newLine ((Combiners.mem_run hr hc).2.trans hcategory)⟩
  | @name n hne hmem =>
    cases hw with
    | name hsegments hw =>
      have hpart := isNamePart_of_mem_runs hmem
      have hsolid : Dictation.isSolid n = true :=
        isSolid_of_isBlank hne fun a ha => Combiners.isBlank_of_isNamePart (hpart a ha)
      have hhyphen : '-' ∉ n := fun ha => by
        have hnot := hpart _ ha
        rw [k.isNamePart_hyphen] at hnot
        cases hnot
      have hparted := hsegment n rfl _ hsegments
      exact ⟨isBlankText_of_isSolid (isSolid_of_mem_frame hsolid hparted hw),
        frame_ne_newLine hhyphen hparted hw⟩

end Cue

namespace Source

theorem of_isContraction {w : Text} (h : isContraction w = true) : isSolid w = true ∧ '-' ∉ w := by
  simp only [isContraction, Bool.and_eq_true] at h
  obtain ⟨⟨_, hletter⟩, hall⟩ := h
  have hchar : ∀ a ∈ w, isBlank a = false ∧ a ≠ '-' := by
    intro a ha
    have hkind := List.all_eq_true.mp hall a ha
    refine ⟨?_, fun hsame => absurd (hsame ▸ hkind) (by decide)⟩
    by_contra hblank
    have hnot := of_isBlank (p := fun a => (isAlphabetic a || isApostrophe a) = false) (by simpa using hblank)
      (by decide +kernel)
    rw [hkind] at hnot
    cases hnot
  obtain ⟨a, ha, _⟩ := List.any_eq_true.mp hletter
  exact ⟨isSolid_of_isBlank (List.ne_nil_of_mem ha) fun a ha => (hchar a ha).1, fun ha => (hchar _ ha).2 rfl⟩

/-- Words of which none is blank, with as many newlines said as a text has. -/
structure SaysLines (text : Text) (words : List Text) : Prop where
  solid : ∀ w ∈ words, w.isBlankText = false
  count : words.count newLine = text.count '\n'

theorem SaysLines.append {t u : Text} {ws vs : List Text} (h : SaysLines t ws) (h' : SaysLines u vs) :
    SaysLines (t ++ u) (ws ++ vs) where
  solid w hw := (List.mem_append.mp hw).elim (h.solid w) (h'.solid w)
  count := by rw [List.count_append, List.count_append, h.count, h'.count]

theorem SaysLines.of_ordinary {t : Text} {ws : List Text} (ht : '\n' ∉ t)
    (h : ∀ w ∈ ws, w.isBlankText = false ∧ w ≠ newLine) : SaysLines t ws where
  solid w hw := (h w hw).1
  count := by rw [List.count_eq_zero_of_not_mem ht, List.count_eq_zero_of_not_mem fun hw => (h _ hw).2 rfl]

variable {s : Segmenter}

theorem speakAll_pieceCues (hv : s.vocabulary.Answering) (k : Combiners) {piece : Text}
    (hline : '\n' ∉ piece ∨ piece.isBlankText = true) :
    Yields (Cue.speakAll s.segment (pieceCues k piece)) (SaysLines piece) := by
  unfold pieceCues
  split
  case isTrue hblank =>
    refine ⟨(piece.filter (· = '\n')).map fun _ => newLine, ?_, ?_⟩
    · rw [← Cue.speakAll_fixed s.segment, List.map_map]
      rfl
    · rw [List.map_const']
      refine ⟨fun w hw => ?_, ?_⟩
      · rw [List.eq_of_mem_replicate hw]
        decide
      · rw [List.count_replicate_self, List.count_eq_length_filter]
        rfl
  case isFalse hsolid =>
    have hline := hline.resolve_right hsolid
    split
    case isTrue hcontraction =>
      obtain ⟨hword, hhyphen⟩ := of_isContraction hcontraction
      refine ⟨[piece.lower], Cue.speakAll_fixed s.segment [piece.lower], .of_ordinary hline fun w hw => ?_⟩
      rw [List.mem_singleton.mp hw]
      exact ⟨isBlankText_of_isSolid (isSolid_lower hword), ne_newLine_of_hyphen (mt Text.hyphen_of_mem_lower hhyphen)⟩
    case isFalse =>
      have hnames := (Cue.namesIn_ofText k piece).filter isSpoken
      obtain ⟨words, hwords, hiff⟩ := Cue.mem_speakAll (hnames.exists_segments hv)
      refine ⟨words, hwords, .of_ordinary hline fun w hw => ?_⟩
      obtain ⟨cue, hcue, hsaid⟩ := (hiff w).mp hw
      obtain ⟨hfound, hspoken⟩ := List.mem_filter.mp hcue
      exact (Cue.origin_ofText hfound).ordinary (fun n hn => hnames.parted hv n (hn ▸ hcue)) hspoken hline hsaid

theorem speakAll_proseCues (hv : s.vocabulary.Answering) (k : Combiners) (t : Text) :
    Yields (Cue.speakAll s.segment (proseCues k t)) (SaysLines t) := by
  have hpieces : ∀ pieces : List Text, (∀ piece ∈ pieces, '\n' ∉ piece ∨ piece.isBlankText = true) →
      Yields (Cue.speakAll s.segment (pieces.flatMap (pieceCues k))) (SaysLines pieces.flatten) := by
    intro pieces hpieces
    induction pieces with
    | nil => exact .pure ⟨nofun, rfl⟩
    | cons piece pieces ih =>
      obtain ⟨hpiece, hpieces⟩ := List.forall_mem_cons.mp hpieces
      obtain ⟨words, hwords, hlines⟩ := speakAll_pieceCues hv k hpiece
      obtain ⟨others, hothers, hrest⟩ := ih hpieces
      exact ⟨words ++ others, Cue.speakAll_append hwords hothers, hlines.append hrest⟩
  have hwhole := hpieces (Text.wordPieces t) fun piece hpiece =>
    (Text.newline_of_mem_wordPieces hpiece).imp_right fun hline => by
      rcases hline with rfl | rfl <;> decide
  rwa [Text.flatten_wordPieces] at hwhole

theorem lexemeAt_ne_comment (t : Text) : (lexemeAt t).1 ≠ .comment := by
  unfold lexemeAt
  split
  · nofun
  · split
    · nofun
    · split <;> nofun

theorem comment_lineStep {p : Place} {c : Char} {rest : Text} {l : Lexeme}
    (hl : .lexeme l ∈ (lineStep p c rest).1) (hkind : l.kind = .comment) : l.text.head? = some '#' := by
  unfold lineStep at hl
  split at hl
  · simp at hl
  split at hl
  · simp at hl
  split at hl
  · simp at hl
  split at hl
  · split at hl
    · split at hl
      · simp at hl
        rw [hl] at hkind
        cases hkind
      · simp at hl
    · simp at hl
  split at hl
  case isTrue hsign =>
    simp at hl
    rw [hl, hsign]
    rfl
  case isFalse =>
    simp at hl
    rw [hl] at hkind
    exact absurd hkind (lexemeAt_ne_comment _)

theorem commentCues_eq (k : Combiners) (body : Text) : commentCues k ('#' :: body) =
    [.fixed "#sharp-sign"] ++ proseCues k body ++ [.fixed "#sharp-sign"] := by
  have hframe : operatorWord ['#'] = "#sharp-sign" := by decide +kernel
  rw [commentCues, hframe]
  rfl

theorem spoken?_delimiter {d : Text} (h : d ∈ delimiters) :
    Operator.spoken? d = some (operatorWord d) := by
  have hlisted : ∀ d ∈ delimiters, (Operator.spoken? d).isSome = true := by decide +kernel
  obtain ⟨spoken, hspoken⟩ := Option.isSome_iff_exists.mp (hlisted d h)
  rw [operatorWord, hspoken, Option.getD_some]

theorem speakAll_framed (hv : s.vocabulary.Answering) (k : Combiners) (front : List Text) (frame body : Text) :
    ∃ words, Cue.speakAll s.segment (proseCues k body) = .ok words ∧ SaysLines body words ∧
      ∀ memo, s.Sound memo → ((Cue.speakAll s.segmentMemo (front.map .fixed ++ [.fixed frame] ++
        proseCues k body ++ [.fixed frame])).run.run memo).1 = .ok (front ++ [frame] ++ words ++ [frame]) := by
  obtain ⟨words, hwords, hlines⟩ := speakAll_proseCues hv k body
  refine ⟨words, hwords, hlines, fun memo hmemo => ?_⟩
  have hspoken : Cue.speakAll s.segment (front.map .fixed ++ [.fixed frame] ++ proseCues k body ++
      [.fixed frame]) = .ok (front ++ [frame] ++ words ++ [frame]) :=
    Cue.speakAll_append (Cue.speakAll_append (Cue.speakAll_append (Cue.speakAll_fixed s.segment front)
      (Cue.speakAll_fixed s.segment [frame])) hwords) (Cue.speakAll_fixed s.segment [frame])
  exact (speakAll_rel s.computing (fun word _ => s.segmentMemo_computes word) memo hmemo).1.trans hspoken

/-- If the vocabulary answers, a string that is terminated is spoken as its letters in lower case, the name of its
delimiter, the words of its body and that name again, and a comment as the words of its body between two signs.
Of the words of the body none is blank, and as many are newlines as the body has. -/
theorem speakAll_prose (hv : s.vocabulary.Answering) (k : Combiners) {t : Text} {l : Lexeme} (hl : l ∈ lexemes t) :
    (l.kind = .string → ∃ letters d b back, l.text = letters ++ (d ++ b) ∧ IsLiteral letters d b back ∧
      (Terminated d b → ∃ body frame words, b = body ++ d ∧ Operator.spoken? d = some frame ∧
        Cue.speakAll s.segment (proseCues k body) = .ok words ∧ SaysLines body words ∧
        ∀ memo, s.Sound memo → ((Cue.speakAll s.segmentMemo (l.cues k)).run.run memo).1 =
          .ok (letters.map lowerChar ++ [frame] ++ words ++ [frame]))) ∧
    (l.kind = .comment → ∃ body words, l.text = '#' :: body ∧
      Cue.speakAll s.segment (proseCues k body) = .ok words ∧ SaysLines body words ∧
      ∀ memo, s.Sound memo → ((Cue.speakAll s.segmentMemo (l.cues k)).run.run memo).1 =
        .ok (["#sharp-sign".toList] ++ words ++ ["#sharp-sign".toList])) := by
  constructor
  · intro hkind
    obtain ⟨_, letters, d, b, back, _, htext, hliteral⟩ := exists_isLiteral hl hkind
    refine ⟨letters, d, b, back, htext, hliteral, ?_⟩
    rintro ⟨body, rfl, _⟩
    obtain ⟨words, hwords, hlines, hspoken⟩ := speakAll_framed hv k (letters.map lowerChar) (operatorWord d) body
    refine ⟨body, operatorWord d, words, rfl, spoken?_delimiter (mem_delimiters hliteral.delimiter).1, hwords,
      hlines, fun memo hmemo => ?_⟩
    rw [← hspoken memo hmemo, Lexeme.cues, hkind, htext, List.map_map]
    simp only [stringCues, hliteral.stringParts, dropSuffix_append]
    rfl
  · intro hkind
    obtain ⟨_, p, c, rest, _, hstep⟩ := exists_lineStep hl (by rw [hkind]; rfl) (by rw [hkind]; decide)
    obtain ⟨body, htext⟩ := List.head?_eq_some_iff.mp (comment_lineStep hstep hkind)
    obtain ⟨words, hwords, hlines, hspoken⟩ := speakAll_framed hv k [] "#sharp-sign" body
    refine ⟨body, words, htext, hwords, hlines, fun memo hmemo => ?_⟩
    rw [Lexeme.cues, hkind, htext]
    dsimp only
    rw [commentCues_eq]
    exact hspoken memo hmemo

/-- A string of two lines with a contraction, and a comment. -/
theorem speakAll_prose_twoLines :
    let s : Segmenter := ⟨(WordList.ofWords ["set", "this"]).toVocabulary, true⟩
    let t := "R'''Don't\r\nset this²'''  # stop\n".toList
    let l : Lexeme := ⟨.string, "R'''Don't\r\nset this²'''".toList⟩
    s.vocabulary.Answering ∧ l ∈ lexemes t ∧ ⟨.comment, "# stop".toList⟩ ∈ lexemes t ∧
      ∃ words, SaysLines "Don't\r\nset this²".toList words ∧ ∀ memo, s.Sound memo →
        ((Cue.speakAll s.segmentMemo (l.cues {})).run.run memo).1 =
          .ok (["r".toList, "'''triple-single-quote".toList] ++ words ++ ["'''triple-single-quote".toList]) := by
  intro s t l
  have hv : s.vocabulary.Answering := WordList.answering _
  have hl : l ∈ lexemes t := by decide +kernel
  have hcomment : ⟨.comment, "# stop".toList⟩ ∈ lexemes t := by decide +kernel
  obtain ⟨letters, d, b, back, htext, hliteral, hspoken⟩ := (speakAll_prose hv {} hl).1 rfl
  have hknown : stringParts l.text = ⟨['R'], "'''".toList, "Don't\r\nset this²".toList⟩ := by decide +kernel
  have hparts := hliteral.stringParts
  rw [← htext, hknown] at hparts
  obtain ⟨rfl, rfl, _⟩ := StringParts.mk.inj hparts
  have hb : b = "Don't\r\nset this²".toList ++ "'''".toList := by simpa [l] using htext.symm
  obtain ⟨body, frame, words, hbody, hframe, _, hlines, hwords⟩ := hspoken ⟨_, hb, by decide⟩
  obtain rfl := List.append_cancel_right (hbody.symm.trans hb)
  obtain rfl : frame = "'''triple-single-quote" := by
    have hknown : Operator.spoken? "'''".toList = some "'''triple-single-quote" := by decide +kernel
    exact Option.some.inj (hframe.symm.trans hknown)
  exact ⟨hv, hl, hcomment, words, hlines, hwords⟩

end Source

end Dictation
