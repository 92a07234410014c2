import Dictation.Proofs.Text.Fields
import Dictation.Proofs.Text.Words
import Dictation.Proofs.Unicode.Folding
import Dictation.Proofs.Vocabulary.Listing
/-!
# Listings read back

A listing that was written entry by entry gives these entries, whatever blank lines and comments stand between
them and however its lines end. The marks of the format may occur in words: a word may hold parentheses but not
end with a closing one, and may hold hashes and semicolons but not begin like a comment.
-/
namespace Dictation

open Unicode

namespace Text

theorem splitFirst?_append {sep : Char} {before : Text} (h : sep ∉ before) (after : Text) :
    splitFirst? sep (before ++ sep :: after) = some (before, after) := by
  have hbefore : ∀ c ∈ before, decide (c ≠ sep) = true := by
    intro c hc
    have hne : c ≠ sep := fun heq => h (heq ▸ hc)
    simpa using hne
  unfold splitFirst?
  rw [List.dropWhile_append_of_pos hbefore, List.dropWhile_cons_of_neg (by simp),
    List.takeWhile_append_of_pos hbefore, List.takeWhile_cons_of_neg (by simp), List.append_nil]

theorem splitFirst?_of_not_mem {sep : Char} {t : Text} (h : sep ∉ t) : splitFirst? sep t = none := by
  have hall : t.dropWhile (· ≠ sep) = [] := by
    rw [List.dropWhile_eq_nil_iff]
    intro c hc
    have hne : c ≠ sep := fun heq => h (heq ▸ hc)
    simpa using hne
  rw [splitFirst?, hall]

theorem splitLast?_append {sep : Char} (before : Text) {after : Text} (h : sep ∉ after) :
    splitLast? sep (before ++ sep :: after) = some (before, after) := by
  have hreverse : (before ++ sep :: after).reverse = after.reverse ++ sep :: before.reverse := by simp
  rw [splitLast?, hreverse, splitFirst?_append (by simpa using h)]
  simp

theorem lines_cons {line : Text} (h : '\n' ∉ line) (t : Text) :
    lines (line ++ '\n' :: t) = line.dropReturn :: lines t := by
  obtain ⟨f, fs, hf⟩ := List.exists_cons_of_ne_nil (fields_ne_nil '\n' t)
  unfold lines
  rw [fields_append, fields_of_not_mem h, hf]
  rfl

theorem lines_of_not_mem {line : Text} (h : '\n' ∉ line) : lines line = if line = [] then [] else [line] := by
  unfold lines
  rw [fields_of_not_mem h]
  cases line <;> rfl

theorem prefix_of_prefix_append {p x y : Text} (h : p <+: x ++ y) (hy : ∀ c ∈ y.head?, c ∉ p) : p <+: x := by
  rcases List.prefix_or_prefix_of_prefix h (List.prefix_append x y) with hp | ⟨q, rfl⟩
  · exact hp
  · cases q with
    | nil => simp
    | cons c q =>
      obtain ⟨back, hback⟩ := (List.prefix_append_right_inj x).mp h
      exact absurd (by simp) (hy c (by simp [← hback]))

end Text

namespace Entry

/-- What an entry of a listing may be: the word has no white space, is in lower case and looks neither like a
comment nor like a word with a number, and the pronunciation is a trimmed line in upper case. -/
structure IsWritable (e : Entry) : Prop where
  word_ne_nil : e.word ≠ []
  word_solid : ∀ c ∈ e.word, isBlank c = false
  word_lower : e.word.lower = e.word
  no_hash : ¬['#'] <+: e.word
  no_semicolons : ¬[';', ';', ';'] <+: e.word
  no_number : e.word.getLast? ≠ some ')'
  pronunciation_line : '\n' ∉ e.pronunciation
  pronunciation_trim : e.pronunciation.trim = e.pronunciation
  pronunciation_upper : e.pronunciation.upper = e.pronunciation

/-- The number of an alternate pronunciation as it is written behind a word. -/
def writtenNumber : Option Text → Text
  | none => []
  | some ds => '(' :: ds ++ [')']

def writtenWord (e : Entry) (number : Option Text) : Text := e.word ++ writtenNumber number

/-- Lines of a listing, with the entry that is written on them if there is one. -/
inductive IsLine : Option Entry → Text → Prop
  /-- The word, perhaps with a number behind it, a tab and the pronunciation. -/
  | entry (e : Entry) (number : Option Text) (h : ∀ ds ∈ number, ∀ d ∈ ds, isNumeric d = true) :
      IsLine (some e) (e.writtenWord number ++ '\t' :: e.pronunciation)
  | blank {line : Text} (h : ∀ c ∈ line, isBlank c = true) (hline : '\n' ∉ line) : IsLine none line
  | comment {mark line : Text} (h : mark = ['#'] ∨ mark = [';', ';', ';']) (hline : '\n' ∉ line) :
      IsLine none (mark ++ line)

def lineEnds : List Text := [['\n'], ['\r', '\n']]

/-- Texts in which the given entries are listed, each on a line of its own. The last line has no end. -/
inductive Lists : List Entry → Text → Prop
  | last {e? : Option Entry} {line : Text} (h : IsLine e? line) : Lists e?.toList line
  | line {e? : Option Entry} {line lineEnd : Text} {es : List Entry} {t : Text} (h : IsLine e? line)
      (hend : lineEnd ∈ lineEnds) (hrest : Lists es t) : Lists (e?.toList ++ es) (line ++ lineEnd ++ t)

theorem isNumeric_sound {d : Char} (h : isNumeric d = true) : isBlank d = false ∧ d ≠ '(' := by
  constructor
  · by_contra hblank
    have hnot := of_isBlank (p := (isNumeric · = false)) (by simpa using hblank) (by decide)
    rw [h] at hnot
    cases hnot
  · rintro rfl
    exact absurd h (by decide)

theorem ofLine?_congr {a b : Text} (h : a.trim = b.trim) : ofLine? a = ofLine? b := by
  unfold ofLine?
  rw [h]

theorem isComment_iff {line : Text} :
    isComment line = true ↔ ['#'] <+: line ∨ [';', ';', ';'] <+: line := by
  have hhash : line.head? = some '#' ↔ ['#'] <+: line := by
    cases line <;> simp [List.cons_prefix_cons, eq_comm]
  rw [isComment, Bool.or_eq_true, decide_eq_true_iff, hhash, List.isPrefixOf_iff_prefix]
  rfl

theorem ofLine?_of_skipped {line : Text} (h : line.trim = [] ∨ isComment line.trim = true) :
    ofLine? line = none := by
  unfold ofLine?
  rcases h with h | h <;> simp [h]

theorem ofLine?_blank {line : Text} (h : ∀ c ∈ line, isBlank c = true) : ofLine? line = none := by
  have htrim : line.trim = [] := Text.trim_append_blank [] h
  exact ofLine?_of_skipped (.inl htrim)

theorem ofLine?_comment {mark line : Text} (h : mark = ['#'] ∨ mark = [';', ';', ';']) :
    ofLine? (mark ++ line) = none := by
  have hmark : isSolid mark = true := by
    rcases h with rfl | rfl <;> decide
  refine ofLine?_of_skipped (.inr (isComment_iff.mpr ?_))
  rw [Text.trim_append hmark]
  rcases h with rfl | rfl
  · exact .inl (List.prefix_append _ _)
  · exact .inr (List.prefix_append _ _)

theorem head_writtenNumber (number : Option Text) {rest : Text} (hrest : ∀ c ∈ rest.head?, c = '\t') :
    ∀ c ∈ (writtenNumber number ++ rest).head?, c = '(' ∨ c = '\t' := by
  intro c hc
  cases number with
  | none => exact .inr (hrest c hc)
  | some ds =>
    cases hc
    exact .inl rfl

section
variable {e : Entry} (he : e.IsWritable) {number : Option Text}
  (hnumber : ∀ ds ∈ number, ∀ d ∈ ds, isNumeric d = true)
include he

/-- A line with a word is no comment, as its word does not begin like one. -/
theorem not_isComment_written (number : Option Text) {rest : Text} (hrest : ∀ c ∈ rest.head?, c = '\t') :
    isComment (e.writtenWord number ++ rest) = false := by
  have hmark : ∀ mark : Text, '(' ∉ mark → '\t' ∉ mark → mark <+: e.writtenWord number ++ rest → mark <+: e.word := by
    intro mark hopen htab hmark
    rw [writtenWord, List.append_assoc] at hmark
    refine Text.prefix_of_prefix_append hmark ?_
    intro c hc
    rcases head_writtenNumber number hrest c hc with rfl | rfl
    · exact hopen
    · exact htab
  rw [Bool.eq_false_iff, ne_eq, isComment_iff]
  rintro (h | h)
  · exact he.no_hash (hmark _ (by decide) (by decide) h)
  · exact he.no_semicolons (hmark _ (by decide) (by decide) h)

theorem trimEnd_pronunciation : Text.trimEnd ('\t' :: e.pronunciation) =
    if e.pronunciation = [] then [] else '\t' :: e.pronunciation := by
  by_cases hnil : e.pronunciation = []
  · rw [if_pos hnil, hnil]
    decide
  · rw [if_neg hnil]
    have htrimmed : e.pronunciation.IsTrimmed := by
      have htrim := Text.isTrimmed_trim (he.pronunciation_trim.symm ▸ hnil)
      rwa [he.pronunciation_trim] at htrim
    apply Text.trimEnd_of_getLast?
    intro c hc
    rw [List.getLast?_cons_of_ne_nil hnil] at hc
    exact htrimmed.last c hc

include hnumber

theorem isSolid_writtenWord : isSolid (e.writtenWord number) = true := by
  refine isSolid_of_isBlank (List.append_ne_nil_of_left_ne_nil he.word_ne_nil _) ?_
  intro c hc
  rcases List.mem_append.mp hc with hc | hc
  · exact he.word_solid c hc
  · cases number with
    | none => cases hc
    | some ds =>
      have hc' : c = '(' ∨ c ∈ ds ∨ c = ')' := by simpa [writtenNumber] using hc
      rcases hc' with rfl | hc' | rfl
      · decide
      · exact (isNumeric_sound (hnumber ds rfl c hc')).1
      · decide

theorem wordOf_writtenWord : wordOf (e.writtenWord number) = e.word := by
  have htrim : (e.writtenWord number).trim = e.writtenWord number :=
    (Text.isTrimmed_of_isSolid (isSolid_writtenWord he hnumber)).trim
  unfold wordOf
  dsimp only
  rw [htrim]
  cases number with
  | none =>
    have hword : e.writtenWord none = e.word := List.append_nil _
    rw [hword, if_neg he.no_number]
  | some ds =>
    have hparts : e.writtenWord (some ds) = e.word ++ '(' :: (ds ++ [')']) := rfl
    have hlast : (e.writtenWord (some ds)).getLast? = some ')' := by
      rw [writtenWord, writtenNumber, ← List.append_assoc, List.getLast?_concat]
    have hnone : '(' ∉ ds ++ [')'] := by
      intro hmem
      have hmem' : '(' ∈ ds := by simpa using hmem
      exact (isNumeric_sound (hnumber ds rfl _ hmem')).2 rfl
    rw [if_pos hlast, hparts, Text.splitLast?_append _ hnone]

/-- The word and the pronunciation are found whether or not the tab is still there. -/
theorem splitLine_written : splitLine (e.writtenWord number ++ Text.trimEnd ('\t' :: e.pronunciation)) =
    (e.writtenWord number, e.pronunciation) := by
  have hsolid : ∀ c ∈ e.writtenWord number, isBlank c = false := fun c hc =>
    isBlank_of_isSolid (isSolid_writtenWord he hnumber) hc
  have htab : '\t' ∉ e.writtenWord number := fun hmem => absurd (hsolid '\t' hmem) (by decide)
  rw [trimEnd_pronunciation he]
  split
  case isTrue hnil =>
    have hall : ∀ c ∈ e.writtenWord number, (!isBlank c) = true := by simpa using hsolid
    rw [List.append_nil, splitLine, Text.splitFirst?_of_not_mem htab, List.takeWhile_eq_self_iff.mpr hall,
      List.dropWhile_eq_nil_iff.mpr hall, hnil]
    rfl
  case isFalse => rw [splitLine, Text.splitFirst?_append htab]

theorem ofLine?_written : ofLine? (e.writtenWord number ++ '\t' :: e.pronunciation) = some e := by
  have hsolid := isSolid_writtenWord he hnumber
  have hhead : ∀ c ∈ (Text.trimEnd ('\t' :: e.pronunciation)).head?, c = '\t' := by
    rw [trimEnd_pronunciation he]
    split <;> simp
  unfold ofLine?
  dsimp only
  rw [Text.trim_append hsolid, not_isComment_written he number hhead, splitLine_written he hnumber]
  dsimp only
  rw [wordOf_writtenWord he hnumber, he.word_lower, he.pronunciation_trim, he.pronunciation_upper]
  simp [he.word_ne_nil, ne_nil_of_isSolid hsolid]

end

theorem IsLine.newline_not_mem {e? : Option Entry} {line : Text} (h : IsLine e? line)
    (he : ∀ e ∈ e?, e.IsWritable) : '\n' ∉ line := by
  cases h with
  | entry e number hnumber =>
    have hwritable := he e rfl
    intro hmem
    have hcases : '\n' ∈ e.writtenWord number ∨ '\n' ∈ e.pronunciation := by simpa using hmem
    rcases hcases with hword | hpron
    · exact absurd (isBlank_of_isSolid (isSolid_writtenWord hwritable hnumber) hword) (by decide)
    · exact hwritable.pronunciation_line hpron
  | blank _ hline => exact hline
  | comment h hline =>
    intro hmem
    rcases List.mem_append.mp hmem with hmem | hmem
    · rcases h with rfl | rfl <;> exact absurd hmem (by decide)
    · exact hline hmem

theorem IsLine.ofLine?_eq {e? : Option Entry} {line : Text} (h : IsLine e? line)
    (he : ∀ e ∈ e?, e.IsWritable) : ofLine? line = e? := by
  cases h with
  | entry e number hnumber => exact ofLine?_written (he e rfl) hnumber
  | blank h _ => exact ofLine?_blank h
  | comment h _ => exact ofLine?_comment h

theorem ofListing_line {line lineEnd : Text} (h : '\n' ∉ line) (hend : lineEnd ∈ lineEnds) (t : Text) :
    ofListing (line ++ lineEnd ++ t) = (ofLine? line).toList ++ ofListing t := by
  obtain ⟨before, hnot, htrim, htext⟩ : ∃ before : Text, '\n' ∉ before ∧ before.trim = line.trim ∧
      line ++ lineEnd ++ t = before ++ '\n' :: t := by
    have hcases : lineEnd = ['\n'] ∨ lineEnd = ['\r', '\n'] := by simpa [lineEnds] using hend
    rcases hcases with rfl | rfl
    · exact ⟨line, h, rfl, by simp⟩
    · exact ⟨line ++ ['\r'], by simp [h], Text.trim_append_blank line (by decide), by simp⟩
  have hline : ofLine? before.dropReturn = ofLine? line :=
    ofLine?_congr ((Text.trim_dropReturn before).trans htrim)
  rw [htext, ofListing, Text.lines_cons hnot, List.filterMap_cons, hline]
  cases ofLine? line <;> rfl

theorem ofListing_last {line : Text} (h : '\n' ∉ line) : ofListing line = (ofLine? line).toList := by
  rw [ofListing, Text.lines_of_not_mem h]
  split
  case isTrue hnil =>
    rw [hnil, ofLine?_blank (by simp)]
    rfl
  case isFalse =>
    rw [List.filterMap_cons]
    cases ofLine? line <;> rfl

/-- What is listed is what the listing is read as: all entries, in order, and nothing else. -/
theorem ofListing_lists {es : List Entry} {t : Text} (hes : ∀ e ∈ es, e.IsWritable) (h : Lists es t) :
    ofListing t = es := by
  induction h with
  | @last e? line hline =>
    have he : ∀ e ∈ e?, e.IsWritable := fun e he => hes e (Option.mem_toList.mpr he)
    rw [ofListing_last (hline.newline_not_mem he), hline.ofLine?_eq he]
  | @line e? line lineEnd es t hline hend _ ih =>
    have he : ∀ e ∈ e?, e.IsWritable := fun e he => hes e (List.mem_append_left _ (Option.mem_toList.mpr he))
    have hmore : ∀ e ∈ es, e.IsWritable := fun e he => hes e (List.mem_append_right _ he)
    rw [ofListing_line (hline.newline_not_mem he) hend, hline.ofLine?_eq he, ih hmore]

/-- A word with a number, a word that holds a parenthesis and has no pronunciation, and a word and a pronunciation
with marks of the format in them. -/
theorem ofListing_lists_read :
    let es : List Entry := [⟨"read", "R EH D"⟩, ⟨"a(b", []⟩, ⟨"c#;;;", "K\tL"⟩]
    let t : Text := ";;; words\r\nread(2)\tR EH D\n \n\na(b\t\r\n#\nc#;;;\tK\tL"
    (∀ e ∈ es, e.IsWritable) ∧ Lists es t ∧ ofListing t = es := by
  intro es t
  have hes : ∀ e ∈ es, e.IsWritable := by
    intro e he
    have hcases : e = ⟨"read", "R EH D"⟩ ∨ e = ⟨"a(b", []⟩ ∨ e = ⟨"c#;;;", "K\tL"⟩ := by simpa [es] using he
    rcases hcases with rfl | rfl | rfl <;> constructor <;> decide +kernel
  have hlf : ['\n'] ∈ lineEnds := by decide
  have hcrlf : ['\r', '\n'] ∈ lineEnds := by decide
  have hwords : IsLine none ([';', ';', ';'] ++ " words".toList) := .comment (.inr rfl) (by decide)
  have hspace : IsLine none [' '] := .blank (by decide) (by decide)
  have hempty : IsLine none [] := .blank (by decide) (by decide)
  have hhash : IsLine none (['#'] ++ []) := .comment (.inl rfl) (by decide)
  have ht : Lists es t := by
    refine .line hwords hcrlf (.line (.entry ⟨"read", "R EH D"⟩ (some ['2']) (by decide)) hlf ?_)
    refine .line hspace hlf (.line hempty hlf ?_)
    refine .line (.entry ⟨"a(b", []⟩ none (by decide)) hcrlf (.line hhash hlf ?_)
    exact .last (.entry ⟨"c#;;;", "K\tL"⟩ none (by decide))
  exact ⟨hes, ht, ofListing_lists hes ht⟩

end Entry

end Dictation
