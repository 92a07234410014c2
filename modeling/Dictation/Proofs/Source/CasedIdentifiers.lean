import Dictation.Proofs.Rewrite.LowLines
import Dictation.Proofs.Source.LetterNames
import Dictation.Proofs.Source.Statements
/-!
# Identifiers and their case

How the fields of an identifier are spoken if no word is taken apart. A field in small letters is spoken
as it is. Any other one has a marker from which its case can be told, unless its casing is plain.
-/
namespace Dictation

open Node Text

theorem title_lower {w : Text} (hw : ∀ a ∈ w, a ∈ asciiLetters) (h : Casing.isTitleWord w = true) :
    w.lower.title = w := by
  cases w with
  | nil => cases h
  | cons c w =>
    have hcase : ∀ a ∈ asciiLetters, (Unicode.isUppercase a = true → a.toLower.toUpper = a) ∧
        (Unicode.isUppercase a = false → a.toLower.toLower = a) := by decide
    obtain ⟨hupper, hrest⟩ := Bool.and_eq_true _ _ |>.mp h
    have hlower : ∀ a ∈ c :: w, a.toLower ∈ asciiLetters := fun a ha =>
      (smallLetters_sound _ (toLower_mem (hw a ha))).1
    have htail : w.map (Char.toLower ∘ Char.toLower) = w.map id := by
      refine List.map_congr_left fun a ha => (hcase a (hw a (List.mem_cons_of_mem c ha))).2 ?_
      have hnone : w.any Unicode.isUppercase = false := by simpa using hrest
      simpa using List.any_eq_false.mp hnone a ha
    rw [lower_letters hw, List.map_cons, title_letters, (hcase c (hw c List.mem_cons_self)).1 hupper,
      List.map_map, htail, List.map_id]
    intro b hb
    rcases List.mem_cons.mp hb with rfl | hb
    · exact hlower c List.mem_cons_self
    · obtain ⟨a, ha, rfl⟩ := List.mem_map.mp hb
      exact hlower a (List.mem_cons_of_mem c ha)

theorem upper_lower {w : Text} (hw : ∀ a ∈ w, a ∈ capitals) : w.lower.upper = w := by
  have hletters : ∀ a ∈ w, a ∈ asciiLetters := fun a ha => (capitals_sound a (hw a ha)).1
  have hsame : w.map (Char.toUpper ∘ Char.toLower) = w.map id :=
    List.map_congr_left fun a ha => (capitals_sound a (hw a ha)).2.2.1
  rw [lower_letters hletters, upper_letters, List.map_map, hsame, List.map_id]
  intro b hb
  obtain ⟨a, ha, rfl⟩ := List.mem_map.mp hb
  exact (smallLetters_sound _ (toLower_mem (hletters a ha))).1

section
variable {k : Combiners} {x : Text} (hx : k.Letters x)
include hx

theorem caseWords_small (hne : x ≠ []) (h : ∀ a ∈ x, a ∈ smallLetters) : Cue.caseWords k x = [x] := by
  have hruns := Combiners.runs_same hne fun a ha => Combiners.categoryOf_small (h a ha) (hx.uncombined a ha)
  rw [Cue.caseWords, hruns, Piece.split, Piece.splitAfter]
  simp [Piece.splitAfter, Piece.finish, Piece.word?, hne]

theorem caseWords_capitals (hne : x ≠ []) (h : ∀ a ∈ x, a ∈ capitals) : Cue.caseWords k x = [x] := by
  have hruns := Combiners.runs_same hne fun a ha => Combiners.categoryOf_capital (h a ha) (hx.uncombined a ha)
  rw [Cue.caseWords, hruns, Piece.split, Piece.splitAfter]
  simp [Piece.splitAfter, Piece.finish, Piece.word?, Piece.startsLower, hne]

theorem mem_caseWords {w : Text} (hw : w ∈ Cue.caseWords k x) : w ≠ [] ∧ ∀ a ∈ w, a ∈ asciiLetters := by
  obtain ⟨_, hflat, hne⟩ := Cue.split_letters hx
  refine ⟨?_, fun a ha => hx.letters a (hflat ▸ List.mem_flatten.mpr ⟨w, hw, ha⟩)⟩
  rintro rfl
  exact hne hw

theorem caseWords_upper (hne : x ≠ []) (h : (Cue.caseWords k x).all Casing.isUpperWord = true) :
    (∀ a ∈ x, a ∈ capitals) ∧ Cue.caseWords k x = [x] := by
  obtain ⟨_, hflat, _⟩ := Cue.split_letters hx
  have hcapitals : ∀ a ∈ x, a ∈ capitals := by
    intro a ha
    obtain ⟨w, hw, haw⟩ := List.mem_flatten.mp (hflat ▸ ha)
    have hnone : w.any Unicode.isLowercase = false := by
      simpa using (Bool.and_eq_true _ _ |>.mp (List.all_eq_true.mp h w hw)).2
    have hnot := List.any_eq_false.mp hnone a haw
    rcases List.mem_append.mp (hx.letters a ha) with hsmall | hcapital
    · rw [(smallLetters_sound a hsmall).2.2.2] at hnot
      exact absurd rfl hnot
    · exact hcapital
  exact ⟨hcapitals, caseWords_capitals hx hne hcapitals⟩

end

/-- What is required of a field: in small letters or of some casing, and without words that rules and
triggers begin with. -/
structure IsCasedField (k : Combiners) (x : Text) : Prop where
  letters : k.Letters x
  cased : (∀ a ∈ x, a ∈ smallLetters) ∨ Casing.ofWords (Cue.caseWords k x) ≠ .plain
  other : ∀ w ∈ Cue.caseWords k x, w.lower ∉ triggerWords

/-- A field stands for a text: the words for the text are those of the field, and they are written as
the text. -/
structure StandsFor (k : Combiners) (f : NameField) (x : Text) : Prop where
  valid : f.Valid
  words : f.words = (Cue.caseWords k x).map lower
  markers : f.casing.markers = Cue.markers (Cue.caseWords k x)
  written : f.casing.write f.words = x

theorem map_title_lower {ws : List Text} (hletters : ∀ w ∈ ws, ∀ a ∈ w, a ∈ asciiLetters)
    (h : ws.all Casing.isTitleWord = true) : (ws.map lower).flatMap title = ws.flatten := by
  rw [List.flatMap_map]
  have hone : ws.flatMap (fun w => w.lower.title) = ws.flatMap id :=
    List.flatMap_congr fun w hw => title_lower (hletters w hw) (List.all_eq_true.mp h w hw)
  rw [hone, List.flatMap_id]

theorem ofWords_cases (ws : List Text) : match Casing.ofWords ws with
    | .allCaps => ws.all Casing.isUpperWord = true
    | .capCamel => ws.all Casing.isTitleWord = true
    | .cap => ws.all Casing.isTitleWord = true ∧ ∃ w, ws = [w]
    | .camel => ∃ w us, ws = w :: us ∧ Casing.isLowerWord w = true ∧ us.all Casing.isTitleWord = true
    | .plain => True := by
  unfold Casing.ofWords
  cases ws with
  | nil => trivial
  | cons w us =>
    dsimp only
    by_cases hupper : ((w :: us).all Casing.isUpperWord) = true
    · rw [if_pos hupper]
      exact hupper
    · rw [if_neg hupper]
      by_cases htitle : ((w :: us).all Casing.isTitleWord) = true
      · rw [if_pos htitle]
        by_cases hnil : us.isEmpty = true
        · rw [if_pos hnil]
          exact ⟨htitle, w, by rw [List.isEmpty_iff.mp hnil]⟩
        · rw [if_neg hnil]
          exact htitle
      · rw [if_neg htitle]
        by_cases hcamel : (!us.isEmpty && Casing.isLowerWord w && us.all Casing.isTitleWord) = true
        · rw [if_pos hcamel]
          simp only [Bool.and_eq_true] at hcamel
          exact ⟨w, us, rfl, hcamel.1.2, hcamel.2⟩
        · rw [if_neg hcamel]
          trivial

/-- A marker is spoken for the casing of the words, unless they are a single letter. -/
theorem markers_eq (ws : List Text) : Cue.markers ws = (Casing.ofWords ws).markers ∨
    ∃ c, ws = [[c]] ∧ Cue.markers ws = if Unicode.isUppercase c then ["cap".toList] else [] := by
  unfold Cue.markers
  split
  · exact .inr ⟨_, rfl, rfl⟩
  · exact .inl rfl

section
variable {k : Combiners} {x : Text} (hne : x ≠ []) (h : IsCasedField k x)
include hne h

theorem standsFor_of_casing {c : Casing} (hmarkers : c.markers = Cue.markers (Cue.caseWords k x))
    (hwrite : c.write ((Cue.caseWords k x).map lower) = x)
    (hsingle : c.glues = false → ∃ w, Cue.caseWords k x = [w]) : ∃ f, StandsFor k f x := by
  refine ⟨⟨c, (Cue.caseWords k x).map lower⟩, ⟨?_, ?_, ?_⟩, rfl, hmarkers, hwrite⟩
  · intro hnil
    have hflat := (Cue.split_letters h.letters).2.1
    rw [List.map_eq_nil_iff.mp hnil] at hflat
    exact hne hflat.symm
  · intro w hw
    obtain ⟨v, hv, rfl⟩ := List.mem_map.mp hw
    obtain ⟨hvne, hletters⟩ := mem_caseWords h.letters hv
    exact .lower hvne hletters (h.other v hv)
  · intro hglues
    obtain ⟨w, hw⟩ := hsingle hglues
    exact ⟨w.lower, by rw [hw]; rfl⟩

theorem exists_standsFor_small (hsmall : ∀ a ∈ x, a ∈ smallLetters) : ∃ f, StandsFor k f x := by
  have hwords := caseWords_small h.letters hne hsmall
  obtain ⟨c, y, rfl⟩ := List.exists_cons_of_ne_nil hne
  obtain ⟨_, _, hupper, hlower⟩ := smallLetters_sound c (hsmall c List.mem_cons_self)
  have hplain : Casing.ofWords [c :: y] = .plain := by
    simp [Casing.ofWords, Casing.isUpperWord, Casing.isTitleWord, hupper, hlower]
  have hmarkers : Cue.markers [c :: y] = [] := by
    rcases markers_eq [c :: y] with heq | ⟨d, hd, heq⟩
    · rw [heq, hplain]
      rfl
    · cases hd
      rw [heq, hupper]
      rfl
  refine standsFor_of_casing (c := .plain) hne h ?_ ?_ fun _ => ⟨_, hwords⟩
  · rw [hwords, hmarkers]
    rfl
  · rw [hwords]
    exact lower_small hsmall

theorem exists_standsFor : ∃ f, StandsFor k f x := by
  by_cases hsmall : ∀ a ∈ x, a ∈ smallLetters
  · exact exists_standsFor_small hne h hsmall
  have hcased := h.cased.resolve_left hsmall
  have hletters : ∀ w ∈ Cue.caseWords k x, ∀ a ∈ w, a ∈ asciiLetters := fun w hw => (mem_caseWords h.letters hw).2
  have hflat := (Cue.split_letters h.letters).2.1
  have hcases := ofWords_cases (Cue.caseWords k x)
  rcases markers_eq (Cue.caseWords k x) with hmarkers | ⟨c, hwords, hmarkers⟩
  · cases hcasing : Casing.ofWords (Cue.caseWords k x) with
    | plain => exact absurd hcasing hcased
    | allCaps =>
      rw [hcasing] at hcases hmarkers
      obtain ⟨hcapitals, hwords⟩ := caseWords_upper h.letters hne hcases
      refine standsFor_of_casing hne h hmarkers.symm ?_ fun _ => ⟨_, hwords⟩
      rw [hwords]
      exact upper_lower hcapitals
    | capCamel =>
      rw [hcasing] at hcases hmarkers
      refine standsFor_of_casing hne h hmarkers.symm ?_ nofun
      exact (map_title_lower hletters hcases).trans hflat
    | cap =>
      rw [hcasing] at hcases hmarkers
      obtain ⟨htitle, w, hwords⟩ := hcases
      refine standsFor_of_casing hne h hmarkers.symm ?_ fun _ => ⟨w, hwords⟩
      rw [hwords] at htitle hletters hflat ⊢
      refine (title_lower (hletters w List.mem_cons_self) (by simpa using htitle)).trans ?_
      simpa using hflat
    | camel =>
      rw [hcasing] at hcases hmarkers
      obtain ⟨w, us, hwords, hlower, htitle⟩ := hcases
      refine standsFor_of_casing hne h hmarkers.symm ?_ nofun
      rw [hwords] at hletters hflat ⊢
      have hw : ∀ a ∈ w, a ∈ smallLetters := by
        have hnone : w.any Unicode.isUppercase = false := by simpa [Casing.isLowerWord] using hlower
        intro a ha
        refine (List.mem_append.mp (hletters w List.mem_cons_self a ha)).resolve_right fun hcapital => ?_
        exact List.any_eq_false.mp hnone a ha (capitals_sound a hcapital).2.2.2.1
      have hrest := map_title_lower (fun u hu => hletters u (List.mem_cons_of_mem w hu)) htitle
      change w.lower.lower ++ (us.map lower).flatMap title = x
      rw [lower_small hw, lower_small hw, hrest]
      exact hflat
  · -- A single capital is not spoken with `all caps`.
    rw [hwords] at hflat hmarkers
    obtain rfl : [c] = x := by simpa using hflat
    have hcapital : c ∈ capitals := by
      refine (List.mem_append.mp (h.letters.letters c List.mem_cons_self)).resolve_left fun hc => hsmall ?_
      exact fun a ha => List.mem_singleton.mp ha ▸ hc
    have hupper : Unicode.isUppercase c = true := (capitals_sound c hcapital).2.2.2.1
    rw [if_pos hupper] at hmarkers
    refine standsFor_of_casing (c := .cap) hne h ?_ ?_ fun _ => ⟨_, hwords⟩
    · rw [hwords, hmarkers]
      rfl
    · rw [hwords]
      exact title_lower h.letters.letters (by simp [Casing.isTitleWord, hupper])

end

theorem Segmenter.segment_unguessed {s : Segmenter} (h : s.guess = false) (w : Text) :
    s.segment w = .ok [w] :=
  segment_idle (by simp [h])

section
variable {segment : Text → Except VocabularyError (List Text)} (hsegment : ∀ w, segment w = .ok [w])
include hsegment

theorem speakAll_names (ws : List Text) : Cue.speakAll segment (ws.map .name) = .ok (ws.map lower) := by
  induction ws with
  | nil => rfl
  | cons w ws ih =>
    rw [List.map_cons, Cue.speakAll, ih, Cue.speak, hsegment]
    rfl

theorem speakAll_field {k : Combiners} {x : Text} (hne : x ≠ []) (hx : k.Letters x) {f : NameField}
    (hf : StandsFor k f x) :
    Cue.speakAll segment (Cue.ofText k x) = .ok (NameFields.fieldWords (some f)) := by
  rw [Cue.ofText_eq hne hx, NameFields.fieldWords, hf.markers, hf.words]
  exact Cue.speakAll_append (Cue.speakAll_fixed segment _) (speakAll_names hsegment _)

/-- The fields of an identifier are spoken as those of a name that is written as they are. -/
theorem exists_nameFields {k : Combiners} {xs : List Text} (hxs : ∀ x ∈ xs, IsCasedField k x) :
    ∃ ps : NameFields, ps.Valid ∧ ps.map NameFields.written = xs ∧
      Cue.speakAll segment (Source.joinCues [.fixed Source.under] (xs.map (Cue.ofText k))) = .ok ps.words := by
  induction xs with
  | nil => exact ⟨[], nofun, rfl, rfl⟩
  | cons x xs ih =>
    obtain ⟨ps, hps, hwritten, hspoken⟩ := ih fun y hy => hxs y (List.mem_cons_of_mem x hy)
    obtain ⟨p, hp, hx, hwords⟩ : ∃ p, (∀ f, p = some f → f.Valid) ∧ NameFields.written p = x ∧
        Cue.speakAll segment (Cue.ofText k x) = .ok (NameFields.fieldWords p) := by
      by_cases hne : x = []
      · subst hne
        exact ⟨none, nofun, rfl, rfl⟩
      · have hfield := hxs x List.mem_cons_self
        obtain ⟨f, hf⟩ := exists_standsFor hne hfield
        exact ⟨some f, fun g hg => Option.some.inj hg ▸ hf.valid, hf.written,
          speakAll_field hsegment hne hfield.letters hf⟩
    refine ⟨p :: ps, fun f hf => ?_, by rw [List.map_cons, hx, hwritten], ?_⟩
    · rcases List.mem_cons.mp hf with hf | hf
      · exact hp f hf.symm
      · exact hps f hf
    · cases ps with
      | nil =>
        rw [← hwritten]
        exact hwords
      | cons q qs =>
        have hne : xs.map (Cue.ofText k) ≠ [] := by simp [← hwritten]
        have hunder : Cue.speakAll segment [.fixed Source.under] = .ok [Source.under] := rfl
        rw [List.map_cons, Source.joinCues_cons hne, List.append_assoc]
        exact Cue.speakAll_append hwords (Cue.speakAll_append hunder hspoken)

end

/-- An identifier whose case can be told from its fields. -/
structure IsCasedIdentifier (k : Combiners) (n : Text) : Prop where
  ne_nil : n ≠ []
  chars : ∀ a ∈ n, a ∈ nameChars
  uncombined : ∀ a ∈ n, a ≠ '_' → k.has a = false
  cased : ∀ x ∈ fields '_' n, (∀ a ∈ x, a ∈ smallLetters) ∨ Casing.ofWords (Cue.caseWords k x) ≠ .plain
  other : ∀ x ∈ fields '_' n, ∀ w ∈ Cue.caseWords k x, w.lower ∉ triggerWords

instance (k : Combiners) (n : Text) : Decidable (IsCasedIdentifier k n) :=
  decidable_of_iff (n ≠ [] ∧ (∀ a ∈ n, a ∈ nameChars) ∧ (∀ a ∈ n, a ≠ '_' → k.has a = false) ∧
      ∀ x ∈ fields '_' n, ((∀ a ∈ x, a ∈ smallLetters) ∨ Casing.ofWords (Cue.caseWords k x) ≠ .plain) ∧
        ∀ w ∈ Cue.caseWords k x, w.lower ∉ triggerWords)
    ⟨fun ⟨hne, hchars, huncombined, hfields⟩ =>
      ⟨hne, hchars, huncombined, fun x hx => (hfields x hx).1, fun x hx => (hfields x hx).2⟩,
    fun h => ⟨h.ne_nil, h.chars, h.uncombined, fun x hx => ⟨h.cased x hx, h.other x hx⟩⟩⟩

theorem IsCasedIdentifier.fields {k : Combiners} {n : Text} (h : IsCasedIdentifier k n) :
    ∀ x ∈ Text.fields '_' n, IsCasedField k x := by
  intro x hx
  refine ⟨⟨fun a ha => ?_, fun a ha => ?_⟩, h.cased x hx, h.other x hx⟩
  · obtain ⟨hmem, hne⟩ := mem_fields hx ha
    exact (List.mem_cons.mp (h.chars a hmem)).resolve_left hne
  · obtain ⟨hmem, hne⟩ := mem_fields hx ha
    exact h.uncombined a hmem hne

theorem exists_spoken {segment : Text → Except VocabularyError (List Text)} (hsegment : ∀ w, segment w = .ok [w])
    {k : Combiners} {n : Text} (h : IsCasedIdentifier k n) :
    ∃ (doubled : Bool) (ps : NameFields), ps.Valid ∧ (doubled = true → ∃ f qs, ps = some f :: qs) ∧
      ps.name ≠ [] ∧ RuleTable.wrapped doubled ps.name = n ∧
      Cue.speakAll segment (Source.identifierCues k n) = .ok (NameFields.spoken doubled ps) := by
  unfold Source.identifierCues
  cases hinner : Source.dunderInner? n with
  | none =>
    obtain ⟨ps, hps, hwritten, hspoken⟩ := exists_nameFields hsegment h.fields
    have hname : ps.name = n := by rw [NameFields.name, hwritten, join_fields]
    refine ⟨false, ps, hps, nofun, hname ▸ h.ne_nil, hname, ?_⟩
    rw [← Source.fragmentCues_eq] at hspoken
    exact hspoken
  | some inner =>
    obtain ⟨hn, hne, hhead, _⟩ := Source.dunderInner?_eq_some_iff.mp hinner
    have hfields : ∀ x ∈ Text.fields '_' inner, IsCasedField k x := by
      have htwice : ∀ t, Text.fields '_' ('_' :: '_' :: t) = [] :: [] :: Text.fields '_' t := fun t => by
        rw [Text.fields, if_pos rfl, Text.fields, if_pos rfl]
      have htext : n = '_' :: '_' :: (inner ++ '_' :: ['_']) := by
        rw [hn, List.append_assoc]
        rfl
      intro x hx
      refine h.fields x ?_
      rw [htext, htwice, fields_append]
      exact List.mem_cons_of_mem _ (List.mem_cons_of_mem _ (List.mem_append_left _ hx))
    obtain ⟨ps, hps, hwritten, hspoken⟩ := exists_nameFields hsegment hfields
    have hname : ps.name = inner := by rw [NameFields.name, hwritten, join_fields]
    refine ⟨true, ps, hps, fun _ => ?_, hname ▸ hne, ?_, ?_⟩
    · -- The first field is not empty, because no further low line touches the doubled ones.
      obtain ⟨c, t, rfl⟩ := List.exists_cons_of_ne_nil hne
      have hc : c ≠ '_' := fun hc => hhead (congrArg some hc)
      obtain ⟨y, ys, hy⟩ := List.exists_cons_of_ne_nil (fields_ne_nil '_' t)
      rw [Text.fields, if_neg hc, hy] at hwritten
      obtain ⟨p, qs, rfl, hp, _⟩ := List.map_eq_cons_iff.mp hwritten
      cases p with
      | none => cases hp
      | some f => exact ⟨f, qs, rfl⟩
    · rw [hname, hn]
      rfl
    · rw [← Source.fragmentCues_eq] at hspoken
      have hdunder : Cue.speakAll segment [.fixed Source.dunder] = .ok [Source.dunder] := rfl
      exact Cue.speakAll_append hdunder hspoken

end Dictation
