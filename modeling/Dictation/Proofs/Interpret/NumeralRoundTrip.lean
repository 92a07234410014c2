import Dictation.Proofs.Interpret.Uncommanded
import Dictation.Proofs.Rewrite.SignedNumerals
/-!
# Spoken numbers read back

A number is spoken character by character. The rules write digits for their names and draw them
together, and then one of the rules for hexadecimal numbers, points and signs after the other finds its
words. All other rules and both triggers find nothing.
-/
namespace Dictation

open Node Text

/-- ASCII digits, at least one. -/
def IsDigits (ds : Text) : Prop := ds ≠ [] ∧ ∀ d ∈ ds, isAsciiDigit d = true

inductive IsUnsigned : Text → Prop
  | whole {ds : Text} : IsDigits ds → IsUnsigned ds
  | decimal {ds es : Text} : IsDigits ds → IsDigits es → IsUnsigned (ds ++ '.' :: es)
  | hexadecimal {hs : Text} : hs ≠ [] → (∀ h ∈ hs, Source.isHexDigit h = true) →
      IsUnsigned ('0' :: 'x' :: hs)

/-- The signs that a number can have, with the words for them. -/
def signs : List (Text × List Text) :=
  [([], []), (['+'], ["plus".toList]), (['-'], ["minus".toList])]

def IsNumber (n : Text) : Prop := ∃ s ∈ signs, ∃ t, IsUnsigned t ∧ n = s.1 ++ t

/-- The words for a sign, each with a blank behind it. -/
def signText (s : Text × List Text) : Text := s.2.flatMap (· ++ [' '])

theorem numberWords_eq {n : Text} (h : ∀ c ∈ n, (numeralWords? c).isSome = true) :
    numberWords n = .ok (n.flatMap spokenChar) := by
  induction n with
  | nil => rfl
  | cons c n ih =>
    obtain ⟨ws, hws⟩ := Option.isSome_iff_exists.mp (h c List.mem_cons_self)
    unfold numberWords
    rw [hws, ih fun d hd => h d (List.mem_cons_of_mem c hd), List.flatMap_cons, spokenChar, hws]
    rfl

def numeralChars : List Char := "0123456789abcdefABCDEFx.+-".toList

def numeralNames : List Text := [
  "zero", "one", "two", "three", "four", "five", "six", "seven", "eight", "nine",
  "a", "b", "c", "d", "e", "f", "cap", "x", "dot", "minus", "plus"].map String.toList

theorem numeralNames_sound : ∀ x ∈ numeralNames, isSolid x = true ∧ isDigitless x = true := by
  decide

theorem spokenChar_numeral : ∀ c ∈ numeralChars, (numeralWords? c).isSome = true ∧
    spokenChar c ≠ [] ∧ Unicode.isBlank c = false ∧ ∀ x ∈ spokenChar c, x ∈ numeralNames := by
  decide

/-- The words and the digits that come in the place of some of them. -/
def numeralForms : List Text := numeralNames ++ asciiDigits.map fun d => [d]

theorem numeralForms_sound : ∀ x ∈ numeralForms, isSolid x = true ∧ ∀ e ∈ digitNames,
    swapName e x ∈ numeralForms ∧
      (x ≠ e.1.toList → (wholeWord e.1).core.stopsIn gapChars x = true) := by
  decide +kernel

theorem triggers_idle : ∀ n ∈ CommandTable.triggers, n.skipsGaps = true ∧
    ∀ x ∈ numeralNames, n.core.stopsIn gapChars x = true := by
  decide

theorem triggers_miss {ws : List Text} (hws : ∀ x ∈ ws, x ∈ numeralNames) :
    ∀ n ∈ CommandTable.triggers, n.Misses none (join [' '] ws) [] := by
  intro n hn
  obtain ⟨hgaps, hstops⟩ := triggers_idle n hn
  exact misses_join hgaps (fun x hx => ⟨(numeralNames_sound x (hws x hx)).1, hstops x (hws x hx)⟩) none

namespace RuleTable

theorem foldl_numeralRows {ws : List Text} (hws : ∀ x ∈ ws, x ∈ numeralNames) {chs : List Chunk}
    (hvalid : ∀ ch ∈ chs, ch.Valid) (hapart : chs.IsChain Chunk.Apart)
    (hchs : ws.map swapNames = chs.flatMap Chunk.words) :
    (wordRows.take 16).foldl (fun t r => rewrite r t) (join [' '] ws) =
      join [' '] (chs.map Chunk.written) := by
  have hsplit : wordRows.take 16 = wordRows.take 5 ++ ((wordRows.drop 5).take 10 ++
      [(⟨spacedDigits, []⟩, .function "collapse_spaces" .collapseSpaces)]) := rfl
  have hidle : ∀ r ∈ wordRows.take 5, isIdle numeralNames r.1.node = true := by decide
  have hfirst : (wordRows.take 5).foldl (fun t r => rewrite r t) (join [' '] ws) = join [' '] ws := by
    rw [← wordsIn_withBlanks]
    exact foldl_idle numeralNames_sound hidle (spaced_withBlanks ws) (by rwa [map_fst_withBlanks])
  have hdigits := foldl_digitRows numeralForms_sound fun x hx => List.mem_append_left _ (hws x hx)
  have hspoken : join [' '] (ws.map swapNames) = join [' '] (chs.map Chunk.spoken) := by
    have hjoin : chs.map Chunk.spoken = (chs.map Chunk.words).map (join [' ']) := by
      rw [List.map_map]
      rfl
    rw [hchs, hjoin, join_map_join, List.flatMap]
    intro ts hts
    obtain ⟨ch, hch, rfl⟩ := List.mem_map.mp hts
    exact Chunk.words_ne_nil (hvalid ch hch)
  rw [hsplit, List.foldl_append, List.foldl_append, hfirst, wordRows_digits, hdigits, hspoken,
    List.foldl_cons, List.foldl_nil, rewrite_eq]
  exact replaceFrom_chunks hvalid hapart none

def digitChars : List Char := "0123456789abcdefABCDEFx.".toList

theorem signs_sound : ∀ s ∈ signs, hexNode.stopsIn ['0'] (signText s) = true ∧
    (∀ a ∈ lastOf none (signText s), isWordChar a = false) ∧
    (∀ a ∈ signText s, CharSet.digit.contains a = false ∧ a ∈ "minus pl".toList) ∧
    ∀ a ∈ s.1, a ∈ numeralChars := by
  decide

/-- Where no sign is spoken, the rules for signs find nothing, else one of them finds it. -/
theorem rewrite_signs {s : Text × List Text} (hs : s ∈ signs) {d : Char} (hd : d ∈ asciiDigits)
    {t : Text} (ht : ∀ a ∈ d :: t, a ∈ digitChars) :
    rewrite (signRow "plus" '+') (rewrite (signRow "minus" '-') (signText s ++ d :: t)) =
      s.1 ++ d :: t := by
  have hlacks : ∀ w ∈ ["minus", "plus"], lacks numeralChars (signedDigit w) = true := by decide
  have hminus : lacks (' ' :: "plus".toList ++ digitChars) (signedDigit "minus") = true := by
    decide
  have hmore : ∀ a ∈ digitChars, a ∈ numeralChars := by decide
  have hkept : ∀ w ∈ ["minus", "plus"], ∀ {c : Char} {u : Text}, (∀ a ∈ u, a ∈ numeralChars) →
      rewrite (signRow w c) u = u := fun w hw c u hu =>
    rewrite_of_misses (Bool.and_eq_true _ _ |>.mp (hlacks w hw)).1 (misses_of_lacks (hlacks w hw) hu none)
  have htail : ∀ a ∈ t, a ∈ numeralChars := fun a ha => hmore a (ht a (List.mem_cons_of_mem d ha))
  have hall : ∀ a ∈ d :: t, a ∈ numeralChars := fun a ha => hmore a (ht a ha)
  simp only [signs, List.mem_cons, List.not_mem_nil, or_false] at hs
  rcases hs with rfl | rfl | rfl
  · change rewrite _ (rewrite _ (d :: t)) = d :: t
    rw [hkept "minus" (by simp) hall, hkept "plus" (by simp) hall]
  · change rewrite _ (rewrite _ ("plus".toList ++ ' ' :: d :: t)) = '+' :: d :: t
    have hplus : ∀ a ∈ "plus".toList ++ ' ' :: d :: t, a ∈ ' ' :: "plus".toList ++ digitChars := by
      intro a ha
      rcases List.mem_append.mp ha with ha | ha
      · exact List.mem_append_left _ (List.mem_cons_of_mem ' ' ha)
      rcases List.mem_cons.mp ha with rfl | ha
      · exact List.mem_cons_self
      · exact List.mem_append_right _ (ht a ha)
    have hskip : rewrite (signRow "minus" '-') ("plus".toList ++ ' ' :: d :: t) =
        "plus".toList ++ ' ' :: d :: t :=
      rewrite_of_misses signWord_minus.consumes (misses_of_lacks hminus hplus none)
    rw [hskip]
    exact rewrite_signRow signWord_plus (hlacks "plus" (by simp)) hd htail
  · change rewrite _ (rewrite _ ("minus".toList ++ ' ' :: d :: t)) = '-' :: d :: t
    rw [rewrite_signRow signWord_minus (hlacks "minus" (by simp)) hd htail]
    exact hkept "plus" (by simp) (List.forall_mem_cons.mpr ⟨by decide, hall⟩)

/-- What the spoken words of a number without a sign become: chunks, and the number behind the words
for a sign. -/
structure Rewrites (t : Text) (chs : List Chunk) : Prop where
  ne_nil : chs ≠ []
  valid : ∀ ch ∈ chs, ch.Valid
  apart : chs.IsChain Chunk.Apart
  words : (t.flatMap spokenChar).map swapNames = chs.flatMap Chunk.words
  head : ∃ d u, t = d :: u ∧ d ∈ asciiDigits
  chars : ∀ a ∈ t, a ∈ digitChars
  /-- The rules for hexadecimal numbers and for points leave only the sign to be rewritten. -/
  written : ∀ s ∈ signs, rewrite dotRow (rewrite hexRow
    (signText s ++ join [' '] (chs.map Chunk.written))) = signText s ++ t

def signChars : List Char := "minus pl".toList

theorem rewrites_whole {ds : Text} (h : IsDigits ds) : Rewrites ds [.digits ds] := by
  have hds : ∀ d ∈ ds, d ∈ asciiDigits := fun d hd => mem_asciiDigits (h.2 d hd)
  have hchars : ∀ a ∈ asciiDigits, a ∈ digitChars := by decide
  have hlacks : ∀ n ∈ [hexNode, dotNode], lacks (signChars ++ asciiDigits) n = true := by
    decide
  refine ⟨List.cons_ne_nil _ _, ?_, .singleton _, ?_, ?_, fun a ha => hchars a (hds a ha), ?_⟩
  · exact List.forall_mem_singleton.mpr ⟨h.1, hds⟩
  · rw [List.flatMap_singleton, spokenChar_digits hds]
  · obtain ⟨d, u, rfl⟩ := List.exists_cons_of_ne_nil h.1
    exact ⟨d, u, rfl, hds d List.mem_cons_self⟩
  · intro s hs
    have htext : ∀ a ∈ signText s ++ ds, a ∈ signChars ++ asciiDigits := fun a ha =>
      List.mem_append.mpr ((List.mem_append.mp ha).imp (fun h => ((signs_sound s hs).2.2.1 a h).2) (hds a))
    have hkept : ∀ n ∈ [hexNode, dotNode], n.consumes = true ∧ n.Misses none (signText s ++ ds) [] :=
      fun n hn => ⟨(Bool.and_eq_true _ _ |>.mp (hlacks n hn)).1, misses_of_lacks (hlacks n hn) htext none⟩
    obtain ⟨hhex, hdot⟩ : rewrite hexRow (signText s ++ ds) = signText s ++ ds ∧
        rewrite dotRow (signText s ++ ds) = signText s ++ ds :=
      ⟨rewrite_of_misses (hkept hexNode (by simp)).1 (hkept hexNode (by simp)).2,
        rewrite_of_misses (hkept dotNode (by simp)).1 (hkept dotNode (by simp)).2⟩
    exact (congrArg (rewrite dotRow) hhex).trans hdot

theorem rewrites_decimal {ds es : Text} (hds : IsDigits ds) (hes : IsDigits es) :
    Rewrites (ds ++ '.' :: es) [.digits ds, .word "dot".toList, .digits es] := by
  have hds' : ∀ d ∈ ds, d ∈ asciiDigits := fun d hd => mem_asciiDigits (hds.2 d hd)
  have hes' : ∀ e ∈ es, e ∈ asciiDigits := fun e he => mem_asciiDigits (hes.2 e he)
  have hchars : ∀ a ∈ asciiDigits, a ∈ digitChars := by decide
  have hlacks : lacks (signChars ++ (" dot".toList ++ asciiDigits)) hexNode = true := by
    decide
  have hdot : (Chunk.word "dot".toList).Valid := ⟨by decide, by decide⟩
  refine ⟨List.cons_ne_nil _ _, ?_, ?_, ?_, ?_, ?_, ?_⟩
  · simp only [List.forall_mem_cons, List.not_mem_nil, false_implies, implies_true, and_true]
    exact ⟨⟨hds.1, hds'⟩, hdot, hes.1, hes'⟩
  · exact .cons_cons (fun h => by cases h.2) (.cons_cons (fun h => by cases h.1) (.singleton _))
  · rw [List.flatMap_append, List.map_append, spokenChar_digits hds', List.flatMap_cons,
      List.map_append, spokenChar_digits hes']
    have hpoint : (spokenChar '.').map swapNames = (Chunk.word "dot".toList).words := by
      decide
    rw [hpoint]
    simp [List.flatMap_cons]
  · obtain ⟨d, u, rfl⟩ := List.exists_cons_of_ne_nil hds.1
    exact ⟨d, _, rfl, hds' d List.mem_cons_self⟩
  · intro a ha
    rcases List.mem_append.mp ha with ha | ha
    · exact hchars a (hds' a ha)
    rcases List.mem_cons.mp ha with rfl | ha
    · decide
    · exact hchars a (hes' a ha)
  · intro s hs
    obtain ⟨_, _, hsign, _⟩ := signs_sound s hs
    have hjoin : join [' '] ([.digits ds, .word "dot".toList, .digits es].map Chunk.written) =
        ds ++ (" dot ".toList ++ es) := by
      simp [join, Chunk.written]
    have htext : ∀ a ∈ signText s ++ (ds ++ (" dot ".toList ++ es)),
        a ∈ signChars ++ (" dot".toList ++ asciiDigits) := by
      have hword : ∀ a ∈ " dot ".toList, a ∈ " dot".toList := by decide
      intro a ha
      rcases List.mem_append.mp ha with ha | ha
      · exact List.mem_append_left _ (hsign a ha).2
      refine List.mem_append_right _ (List.mem_append.mpr ?_)
      rcases List.mem_append.mp ha with ha | ha
      · exact .inr (hds' a ha)
      · exact (List.mem_append.mp ha).imp (hword a) (hes' a)
    have hskip : rewrite hexRow (signText s ++ (ds ++ (" dot ".toList ++ es))) =
        signText s ++ (ds ++ (" dot ".toList ++ es)) :=
      rewrite_of_misses (Bool.and_eq_true _ _ |>.mp hlacks).1 (misses_of_lacks hlacks htext none)
    rw [hjoin, hskip]
    exact rewrite_dotRow (fun a ha => (hsign a ha).1) ⟨hds.1, hds'⟩ ⟨hes.1, hes'⟩

theorem written_chunks {is : List HexItem} :
    (is.flatMap HexItem.chunks).map Chunk.written = is.flatMap HexItem.words := by
  rw [List.map_flatMap]
  congr 1
  funext i
  cases i with
  | digits ds | small c | capital c => rfl

theorem rewrites_hexadecimal {u : Text} (hne : u ≠ []) (hu : ∀ a ∈ u, Source.isHexDigit a = true) :
    ∃ chs, Rewrites ('0' :: 'x' :: u) chs := by
  have hdigits : ∀ a ∈ asciiDigits ++ hexLetters, a ∈ digitChars := by decide
  have hcapitals : ∀ l ∈ hexLetters, ∀ a ∈ upperChar l, a ∈ digitChars := by decide
  have hchars : ∀ a ∈ '0' :: 'x' :: u, a ∈ digitChars := by
    refine List.forall_mem_cons.mpr ⟨by decide, List.forall_mem_cons.mpr ⟨by decide, fun a ha => ?_⟩⟩
    rcases hexDigit_cases (hu a ha) with hdigit | hletter | ⟨l, hl, hupper⟩
    · exact hdigits a (List.mem_append_left _ hdigit)
    · exact hdigits a (List.mem_append_right _ hletter)
    · exact hcapitals l hl a (by rw [hupper]; exact List.mem_cons_self)
  obtain ⟨is, hvalid, hapart, hwritten, hwords⟩ := HexItem.exists_items hu
  obtain ⟨i, is, rfl⟩ : ∃ i js, is = i :: js :=
    List.exists_cons_of_ne_nil (by rintro rfl; exact hne hwritten.symm)
  have hzero : (Chunk.digits ['0']).Valid := ⟨by decide, by decide⟩
  have hx : (Chunk.word ['x']).Valid := ⟨by decide, by decide⟩
  refine ⟨.digits ['0'] :: .word ['x'] :: (i :: is).flatMap HexItem.chunks, List.cons_ne_nil _ _, ?_,
    ?_, ?_, ⟨'0', _, rfl, by decide⟩, hchars, fun s hs => ?_⟩
  · refine List.forall_mem_cons.mpr ⟨hzero, List.forall_mem_cons.mpr ⟨hx, fun ch hch => ?_⟩⟩
    obtain ⟨j, hj, hch⟩ := List.mem_flatMap.mp hch
    exact HexItem.chunks_valid (hvalid j hj) ch hch
  · refine .cons_cons (fun h => by cases h.2) (List.isChain_cons.mpr ⟨fun ch _ h => (by cases h.1), ?_⟩)
    exact HexItem.chunks_apart hapart
  · have hstart : (['0', 'x'].flatMap spokenChar).map swapNames = [['0'], ['x']] := by decide
    have hall : (['0', 'x'] ++ u).flatMap spokenChar =
        ['0', 'x'].flatMap spokenChar ++ u.flatMap spokenChar := List.flatMap_append
    change ((['0', 'x'] ++ u).flatMap spokenChar).map swapNames = _
    rw [hall, List.map_append, hstart, ← hwords]
    rfl
  · obtain ⟨hstops, hstart, hsign, _⟩ := signs_sound s hs
    have hlacks : lacks (signChars ++ digitChars) dotNode = true := by decide
    have htext : ∀ a ∈ signText s ++ '0' :: 'x' :: u, a ∈ signChars ++ digitChars := fun a ha =>
      List.mem_append.mpr ((List.mem_append.mp ha).imp (fun h => (hsign a h).2) (hchars a))
    have hjoin : join [' '] ((.digits ['0'] :: .word ['x'] :: (i :: is).flatMap HexItem.chunks).map
        Chunk.written) = "0 x".toList ++ (i :: is).flatMap HexItem.text := by
      rw [List.map_cons, List.map_cons, written_chunks, hexText_eq_join]
      rfl
    have hhex := rewrite_hexRow hstops hstart hvalid
    rw [hwritten] at hhex
    rw [hjoin, hhex]
    exact rewrite_of_misses (Bool.and_eq_true _ _ |>.mp hlacks).1 (misses_of_lacks hlacks htext none)

theorem exists_rewrites {t : Text} (h : IsUnsigned t) : ∃ chs, Rewrites t chs := by
  cases h with
  | whole h => exact ⟨_, rewrites_whole h⟩
  | decimal hds hes => exact ⟨_, rewrites_decimal hds hes⟩
  | hexadecimal hne hhs => exact rewrites_hexadecimal hne hhs

theorem signs_words : ∀ s ∈ signs, s.1.flatMap spokenChar = s.2 ∧ s.2.map swapNames = s.2 ∧
    ∀ w ∈ s.2, (Chunk.word w).Valid := by
  intro s hs
  simp only [signs, List.mem_cons, List.not_mem_nil, or_false] at hs
  rcases hs with rfl | rfl | rfl
  · exact ⟨rfl, rfl, nofun⟩
  all_goals
    refine ⟨by decide, by decide, List.forall_mem_singleton.mpr ⟨?_, ?_⟩⟩
    all_goals decide

theorem join_sign {s : Text × List Text} (hs : s ∈ signs) {ws : List Text} (hws : ws ≠ []) :
    join [' '] (s.2 ++ ws) = signText s ++ join [' '] ws := by
  simp only [signs, List.mem_cons, List.not_mem_nil, or_false] at hs
  rcases hs with rfl | rfl | rfl
  · rfl
  all_goals exact join_cons hws

theorem apart_words (ws : List Text) {chs : List Chunk} (h : chs.IsChain Chunk.Apart) :
    (ws.map Chunk.word ++ chs).IsChain Chunk.Apart := by
  induction ws with
  | nil => exact h
  | cons w ws ih => exact List.isChain_cons.mpr ⟨fun ch _ hdigits => (by cases hdigits.1), ih⟩

theorem rows_numerals : rows.take 16 = wordRows.take 16 ∧
    (rows.drop 16).take 4 = [hexRow, dotRow, signRow "minus" '-', signRow "plus" '+'] ∧
      ∀ r ∈ (rows.drop 16).drop 4, lacks numeralChars r.1.node = true := by
  rw [spelledRows.2]
  decide +kernel

theorem apply_numeral {s : Text × List Text} (hs : s ∈ signs) {t : Text} (ht : IsUnsigned t)
    (hchars : ∀ a ∈ s.1 ++ t, a ∈ numeralChars) :
    shipped.apply (join [' '] ((s.1 ++ t).flatMap spokenChar)) = s.1 ++ t := by
  obtain ⟨chs, h⟩ := exists_rewrites ht
  obtain ⟨hspoken, hswap, hsign⟩ := signs_words s hs
  obtain ⟨d, u, htext, hd⟩ := h.head
  obtain ⟨hfirst, hnumerals, hrest⟩ := rows_numerals
  have hnames : ∀ x ∈ (s.1 ++ t).flatMap spokenChar, x ∈ numeralNames := by
    intro x hx
    obtain ⟨a, ha, hxa⟩ := List.mem_flatMap.mp hx
    exact (spokenChar_numeral a (hchars a ha)).2.2.2 x hxa
  have hvalid : ∀ ch ∈ s.2.map Chunk.word ++ chs, ch.Valid := by
    intro ch hch
    rcases List.mem_append.mp hch with hch | hch
    · obtain ⟨w, hw, rfl⟩ := List.mem_map.mp hch
      exact hsign w hw
    · exact h.valid ch hch
  have hwords : ((s.1 ++ t).flatMap spokenChar).map swapNames =
      (s.2.map Chunk.word ++ chs).flatMap Chunk.words := by
    have hsame : (s.2.map Chunk.word).flatMap Chunk.words = s.2 := by
      rw [List.flatMap_map]
      exact List.flatMap_singleton' _
    rw [List.flatMap_append, hspoken, List.map_append, hswap, h.words, List.flatMap_append, hsame]
  have hdigits := foldl_numeralRows hnames hvalid (apart_words s.2 h.apart) hwords
  have hjoin : join [' '] ((s.2.map Chunk.word ++ chs).map Chunk.written) =
      signText s ++ join [' '] (chs.map Chunk.written) := by
    have hsame : (s.2.map Chunk.word).map Chunk.written = s.2 := by
      rw [List.map_map]
      exact List.map_id _
    rw [List.map_append, hsame, join_sign hs (by simpa using h.ne_nil)]
  have hsplit : rows = rows.take 16 ++ ((rows.drop 16).take 4 ++ (rows.drop 16).drop 4) := by
    rw [List.take_append_drop, List.take_append_drop]
  rw [shipped_apply, hsplit, List.foldl_append, List.foldl_append, hfirst, hdigits, hjoin, hnumerals]
  simp only [List.foldl_cons, List.foldl_nil]
  rw [h.written s hs, htext, rewrite_signs hs hd (htext ▸ h.chars), ← htext]
  exact foldl_of_lacks hrest hchars

end RuleTable

theorem IsNumber.chars {n : Text} (h : IsNumber n) : n ≠ [] ∧ ∀ a ∈ n, a ∈ numeralChars := by
  obtain ⟨s, hs, t, ht, rfl⟩ := h
  obtain ⟨chs, hrewrites⟩ := RuleTable.exists_rewrites ht
  obtain ⟨d, u, htext, _⟩ := hrewrites.head
  have hdigits : ∀ a ∈ RuleTable.digitChars, a ∈ numeralChars := by decide
  constructor
  · rw [htext]
    exact List.append_ne_nil_of_right_ne_nil s.1 (List.cons_ne_nil d u)
  · exact fun a ha => (List.mem_append.mp ha).elim ((RuleTable.signs_sound s hs).2.2.2 a)
      fun ha => hdigits a (hrewrites.chars a ha)

namespace Interpreter

/-- The words of a number are read back as the number. -/
theorem interpretText_numberWords {n : Text} (h : IsNumber n) :
    ∃ ws, numberWords n = .ok ws ∧
      (new .shipped .shipped).interpretText (join [' '] ws) = [.text n] := by
  obtain ⟨hne, hchars⟩ := h.chars
  obtain ⟨s, hs, t, ht, rfl⟩ := h
  have hspoken : ∀ x ∈ (s.1 ++ t).flatMap spokenChar, x ∈ numeralNames := by
    intro x hx
    obtain ⟨a, ha, hxa⟩ := List.mem_flatMap.mp hx
    exact (spokenChar_numeral a (hchars a ha)).2.2.2 x hxa
  have hwords : (s.1 ++ t).flatMap spokenChar ≠ [] := by
    obtain ⟨a, u, hu⟩ := List.exists_cons_of_ne_nil hne
    rw [hu, List.flatMap_cons]
    exact List.append_ne_nil_of_left_ne_nil
      (spokenChar_numeral a (hchars a (by rw [hu]; exact List.mem_cons_self))).2.1 _
  have hsolid : isSolid (s.1 ++ t) = true :=
    isSolid_of_isBlank hne fun a ha => (spokenChar_numeral a (hchars a ha)).2.2.1
  refine ⟨_, numberWords_eq fun a ha => (spokenChar_numeral a (hchars a ha)).1, ?_⟩
  exact interpretText_of_misses
    (isTrimmed_join hwords fun x hx => (numeralNames_sound x (hspoken x hx)).1) (triggers_miss hspoken)
    (RuleTable.apply_numeral hs ht hchars) (isTrimmed_of_isSolid hsolid)

/-- A hexadecimal number with a sign and a capital digit. -/
theorem interpretText_minus_zero_x_cap_a_three : IsNumber "-0xA3".toList ∧
    (new .shipped .shipped).interpretText "minus zero x cap a three".toList = [.text "-0xA3"] := by
  have hnumber : IsNumber "-0xA3".toList :=
    ⟨(['-'], ["minus".toList]), by decide, "0xA3".toList, .hexadecimal (by decide) (by decide), rfl⟩
  obtain ⟨ws, hws, hinterpret⟩ := interpretText_numberWords hnumber
  have hspoken : numberWords "-0xA3".toList =
      .ok (["minus", "zero", "x", "cap", "a", "three"].map String.toList) := by decide
  rw [hspoken] at hws
  cases hws
  exact ⟨hnumber, hinterpret⟩

end Interpreter

end Dictation
