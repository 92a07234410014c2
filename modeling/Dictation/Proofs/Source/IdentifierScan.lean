import Dictation.Proofs.Source.LetterNames
import Dictation.Proofs.Source.Statements
import Dictation.Text.Utf8
import Mathlib.Data.List.Chain
import Mathlib.Data.List.Infix
import Mathlib.Data.List.TakeWhile
/-!
# Identifiers in one scan

A name is taken apart at doubled low lines and its parts at single ones, each part by itself again. All
of this comes to one scan from left to right, which speaks a word for each low line and the words of each
stretch between low lines.
-/
namespace Dictation.Source

open Text

/-- A low line, or a stretch between low lines. -/
inductive NamePart where
  | lowLine
  | fragment (f : Text)
  deriving DecidableEq, Repr

namespace NamePart

def text : NamePart → Text
  | lowLine => ['_']
  | fragment f => f

def cues (k : Combiners) : NamePart → List Cue
  | lowLine => [.fixed under]
  | fragment f => Cue.ofText k f

end NamePart

def isFragmentChar (c : Char) : Bool := c != '_'

/-- The parts of a name from left to right. A stretch goes on up to the next low line. -/
def nameParts : Text → List NamePart
  | [] => []
  | c :: rest =>
    if c = '_' then .lowLine :: nameParts rest
    else .fragment (c :: rest.takeWhile isFragmentChar) :: nameParts (rest.dropWhile isFragmentChar)
  termination_by name => name.length
  decreasing_by
    · simp
    · have := List.length_dropWhile_le isFragmentChar rest
      simp only [List.length_cons]
      omega

@[simp] theorem nameParts_nil : nameParts [] = [] := by rw [nameParts]

@[simp] theorem nameParts_low (rest : Text) : nameParts ('_' :: rest) = .lowLine :: nameParts rest := by
  rw [nameParts, if_pos rfl]

theorem dropWhile_fragment (t : Text) :
    t.dropWhile isFragmentChar = [] ∨ ∃ u, t.dropWhile isFragmentChar = '_' :: u := by
  cases h : t.dropWhile isFragmentChar with
  | nil => exact .inl rfl
  | cons d u =>
    have hhead := List.head?_dropWhile_not isFragmentChar t
    rw [h] at hhead
    have hd : d = '_' := by simpa [isFragmentChar] using hhead
    exact .inr ⟨u, by rw [hd]⟩

theorem not_mem_takeWhile_fragment (t : Text) : '_' ∉ t.takeWhile isFragmentChar := by
  intro h
  have hlow := List.mem_takeWhile_imp h
  simp [isFragmentChar] at hlow

theorem nameParts_append {f t : Text} (hne : f ≠ []) (hf : '_' ∉ f) (ht : t = [] ∨ ∃ u, t = '_' :: u) :
    nameParts (f ++ t) = .fragment f :: nameParts t := by
  obtain ⟨c, f, rfl⟩ := List.exists_cons_of_ne_nil hne
  simp only [List.mem_cons, not_or] at hf
  have hstretch : ∀ a ∈ f, isFragmentChar a = true := by
    intro a ha
    simp only [isFragmentChar, bne_iff_ne]
    exact fun h => hf.2 (h ▸ ha)
  have hend : t.takeWhile isFragmentChar = [] ∧ t.dropWhile isFragmentChar = t := by
    obtain rfl | ⟨u, rfl⟩ := ht <;> simp [isFragmentChar]
  rw [List.cons_append, nameParts, if_neg (Ne.symm hf.1), List.takeWhile_append_of_pos hstretch,
    List.dropWhile_append_of_pos hstretch, hend.1, hend.2, List.append_nil]

/-- How a name is made of parts: nothing is lost, and no stretch could be longer. -/
structure PartsOf (name : Text) (parts : List NamePart) : Prop where
  text : parts.flatMap NamePart.text = name
  solid : ∀ f, .fragment f ∈ parts → f ≠ [] ∧ '_' ∉ f
  apart : parts.IsChain fun p q => p = .lowLine ∨ q = .lowLine

theorem partsOf_nameParts (name : Text) : PartsOf name (nameParts name) := by
  induction name using nameParts.induct with
  | case1 => exact ⟨by simp, by simp, by simp⟩
  | case2 rest ih =>
    rw [nameParts_low]
    refine ⟨by simp [NamePart.text, ih.text], by simpa using ih.solid, ?_⟩
    exact List.isChain_cons.mpr ⟨fun _ _ => .inl rfl, ih.apart⟩
  | case3 c rest hc ih =>
    rw [nameParts, if_neg hc]
    have hstretch : '_' ∉ c :: rest.takeWhile isFragmentChar := by
      simp only [List.mem_cons, not_or]
      exact ⟨Ne.symm hc, not_mem_takeWhile_fragment rest⟩
    refine ⟨by simp [NamePart.text, ih.text], ?_, ?_⟩
    · intro f hf
      rcases List.mem_cons.mp hf with hf | hf
      · cases hf
        exact ⟨List.cons_ne_nil _ _, hstretch⟩
      · exact ih.solid f hf
    · refine List.isChain_cons.mpr ⟨?_, ih.apart⟩
      intro p hp
      obtain hnil | ⟨u, hlow⟩ := dropWhile_fragment rest
      · simp [hnil] at hp
      · simp [hlow] at hp
        exact .inr hp.symm

theorem PartsOf.eq_nameParts {name : Text} {parts : List NamePart} (h : PartsOf name parts) :
    parts = nameParts name := by
  induction parts generalizing name with
  | nil =>
    have hname : name = [] := h.text.symm
    rw [hname, nameParts_nil]
  | cons p parts ih =>
    have hrest : PartsOf (parts.flatMap NamePart.text) parts :=
      ⟨rfl, fun f hf => h.solid f (List.mem_cons_of_mem p hf), h.apart.tail⟩
    have hname := h.text
    rw [List.flatMap_cons] at hname
    cases p with
    | lowLine =>
      rw [← hname, NamePart.text, List.singleton_append, nameParts_low, ← ih hrest]
    | fragment f =>
      obtain ⟨hne, hlow⟩ := h.solid f List.mem_cons_self
      have hbehind : parts.flatMap NamePart.text = [] ∨ ∃ u, parts.flatMap NamePart.text = '_' :: u := by
        cases parts with
        | nil => exact .inl rfl
        | cons q parts =>
          have hq : q = .lowLine := by
            simpa using (List.isChain_cons.mp h.apart).1 q (by simp)
          exact .inr ⟨_, by rw [hq]; rfl⟩
      rw [← hname, NamePart.text, nameParts_append hne hlow hbehind, ← ih hrest]

section
variable {m : Type → Type} [Monad m] (segment : Text → m (List Text)) (k : Combiners)

/-- The words of a part: one word for a low line, and the words of a stretch as a name of its own. -/
def NamePart.speak : NamePart → m (List Text)
  | lowLine => pure [under]
  | fragment f => Cue.speakAll segment (Cue.ofText k f)

/-- The words of the parts of a name, in order. -/
def scan (name : Text) : m (List Text) := do
  let words ← (nameParts name).mapM (NamePart.speak segment k)
  return words.flatten

variable [LawfulMonad m]

theorem speakAll_cues (p : NamePart) : Cue.speakAll segment (p.cues k) = p.speak segment k := by
  cases p with
  | lowLine => simp [NamePart.cues, NamePart.speak, Cue.speakAll, Cue.speak]
  | fragment f => rfl

theorem speakAll_parts (parts : List NamePart) :
    Cue.speakAll segment (parts.flatMap (NamePart.cues k)) = do
      let words ← parts.mapM (NamePart.speak segment k)
      return words.flatten := by
  induction parts with
  | nil => simp [Cue.speakAll]
  | cons p parts ih => simp [Cue.speakAll_append_eq, speakAll_cues, ih]

end

theorem joinCues_fields_append (k : Combiners) {x t : Text} (hx : '_' ∉ x)
    (ht : t = [] ∨ ∃ u, t = '_' :: u) :
    joinCues [.fixed under] ((fields '_' (x ++ t)).map (Cue.ofText k)) =
      Cue.ofText k x ++ joinCues [.fixed under] ((fields '_' t).map (Cue.ofText k)) := by
  obtain rfl | ⟨u, rfl⟩ := ht
  · rw [List.append_nil, fields_of_not_mem hx]
    exact (List.append_nil _).symm
  · have hne : (fields '_' u).map (Cue.ofText k) ≠ [] := by simp [fields_ne_nil]
    have hlow : fields '_' ('_' :: u) = [] :: fields '_' u := by rw [fields, if_pos rfl]
    rw [fields_append, fields_of_not_mem hx, hlow]
    simp only [List.singleton_append, List.map_cons, joinCues_cons hne, List.append_assoc]
    rfl

theorem joinCues_fields (k : Combiners) (name : Text) :
    joinCues [.fixed under] ((fields '_' name).map (Cue.ofText k)) =
      (nameParts name).flatMap (NamePart.cues k) := by
  induction name using nameParts.induct with
  | case1 =>
    rw [nameParts_nil]
    rfl
  | case2 rest ih =>
    have hne : (fields '_' rest).map (Cue.ofText k) ≠ [] := by simp [fields_ne_nil]
    rw [nameParts_low, fields, if_pos rfl, List.map_cons, joinCues_cons hne, ih]
    rfl
  | case3 c rest hc ih =>
    have hstretch : '_' ∉ c :: rest.takeWhile isFragmentChar := by
      simp only [List.mem_cons, not_or]
      exact ⟨Ne.symm hc, not_mem_takeWhile_fragment rest⟩
    have hsplit : c :: rest = (c :: rest.takeWhile isFragmentChar) ++ rest.dropWhile isFragmentChar := by
      simp
    rw [nameParts, if_neg hc, List.flatMap_cons, ← ih, hsplit,
      joinCues_fields_append k hstretch (dropWhile_fragment rest)]
    rfl

theorem join_doubledFields (name : Text) : join ['_', '_'] (doubledFields name) = name := by
  fun_induction doubledFields name with
  | case1 => rfl
  | case2 => rfl
  | case3 c d rest h ih =>
    obtain ⟨f, fs, hfields, _⟩ := doubledFields_cases rest
    rw [hfields] at ih ⊢
    rw [join_cons (List.cons_ne_nil f fs), ih, h.1, h.2]
    rfl
  | case4 c d rest _ hfields _ =>
    obtain ⟨f, fs, hf, _⟩ := doubledFields_cases (d :: rest)
    rw [hfields] at hf
    cases hf
  | case5 c d rest h f fs hfields ih =>
    rw [hfields] at ih
    cases fs with
    | nil => exact congrArg (c :: ·) ih
    | cons g fs => exact congrArg (c :: ·) ih

theorem not_infix_of_mem_doubledFields {name f : Text} (hf : f ∈ doubledFields name) :
    ¬ ['_', '_'] <:+: f := by
  fun_induction doubledFields name generalizing f with
  | case1 => simp [List.mem_singleton.mp hf]
  | case2 c => simp [List.mem_singleton.mp hf, List.infix_cons_iff]
  | case3 c d rest h ih =>
    rcases List.mem_cons.mp hf with rfl | hf
    · simp
    · exact ih hf
  | case4 c d rest _ hfields _ =>
    obtain ⟨f, fs, hf, _⟩ := doubledFields_cases (d :: rest)
    rw [hfields] at hf
    cases hf
  | case5 c d rest h g gs hfields ih =>
    rw [hfields] at ih
    rcases List.mem_cons.mp hf with rfl | hf
    · intro hlow
      rcases List.infix_cons_iff.mp hlow with hlow | hlow
      · -- The first part begins as the name does, which has no doubled low line there.
        have hjoin := join_doubledFields (d :: rest)
        rw [hfields] at hjoin
        obtain ⟨rfl, hg⟩ := List.cons_prefix_cons.mp hlow
        obtain ⟨t, rfl⟩ := hg
        have hd : '_' = d := by
          cases gs <;> exact (List.cons.inj hjoin).1
        exact h ⟨rfl, hd.symm⟩
      · exact ih List.mem_cons_self hlow
    · exact ih (List.mem_cons_of_mem g hf)

theorem length_lt_of_mem_doubledFields {name f : Text} (h : ['_', '_'] <:+: name)
    (hf : f ∈ doubledFields name) : f.length < name.length := by
  obtain ⟨g, gs, hfields, hone⟩ := doubledFields_cases name
  have hmem : g ∈ doubledFields name := by simp [hfields]
  have hgs : gs ≠ [] := by
    intro hnil
    exact not_infix_of_mem_doubledFields hmem (hone hnil ▸ h)
  have hlt := length_lt_join (List.cons_ne_nil '_' ['_']) hgs (hfields ▸ hf)
  rwa [← hfields, join_doubledFields] at hlt

theorem length_lt_of_mem_fields {name f : Text} (h : '_' ∈ name) (hf : f ∈ fields '_' name) :
    f.length < name.length := by
  obtain ⟨g, gs, hfields⟩ := List.exists_cons_of_ne_nil (fields_ne_nil '_' name)
  have hjoin := join_fields '_' name
  have hgs : gs ≠ [] := by
    rintro rfl
    have hname : g = name := by simpa [hfields, join] using hjoin
    have hmem : g ∈ fields '_' name := by simp [hfields]
    exact (mem_fields hmem (hname ▸ h)).2 rfl
  have hlt := length_lt_join (List.cons_ne_nil '_' []) hgs (hfields ▸ hf)
  rwa [← hfields, hjoin] at hlt

theorem length_lt_of_dunderInner? {name inner : Text} (h : dunderInner? name = some inner) :
    inner.length < name.length := by
  obtain ⟨rfl, _⟩ := dunderInner?_eq_some_iff.mp h
  simp
  omega

/-- The cues of a name that is taken apart at doubled low lines, or else at single ones, and whose parts
are taken apart in the same way. -/
def cuesByParts (k : Combiners) (name : Text) : List Cue :=
  match _ : dunderInner? name with
  | some inner => .fixed dunder :: cuesByParts k inner
  | none =>
    if ['_', '_'] <:+: name then
      joinCues [.fixed under, .fixed under] <|
        (doubledFields name).attach.map fun part => if part.1 = [] then [] else cuesByParts k part.1
    else if '_' ∈ name then
      joinCues [.fixed under] <|
        (fields '_' name).attach.map fun part => if part.1 = [] then [] else cuesByParts k part.1
    else Cue.ofText k name
  termination_by name.length
  decreasing_by
    · exact length_lt_of_dunderInner? ‹_›
    · exact length_lt_of_mem_doubledFields ‹_› part.2
    · exact length_lt_of_mem_fields ‹_› part.2

theorem dunderInner?_eq_none {name : Text} (h : ¬ ['_', '_'] <:+: name) : dunderInner? name = none := by
  cases hinner : dunderInner? name with
  | none => rfl
  | some inner =>
    obtain ⟨rfl, _⟩ := dunderInner?_eq_some_iff.mp hinner
    exact absurd ⟨[], inner ++ "__".toList, by simp⟩ h

theorem identifierCues_of_none {k : Combiners} {name : Text} (h : dunderInner? name = none) :
    identifierCues k name = joinCues [.fixed under] ((fields '_' name).map (Cue.ofText k)) := by
  rw [identifierCues, h]
  exact fragmentCues_eq k name

/-- What stands in doubled low lines does not begin with one, so that it is not of that form again. -/
theorem dunderInner?_inner {name inner : Text} (h : dunderInner? name = some inner) :
    dunderInner? inner = none := by
  obtain ⟨_, _, hhead, _⟩ := dunderInner?_eq_some_iff.mp h
  cases hinner : dunderInner? inner with
  | none => rfl
  | some x =>
    obtain ⟨hform, _⟩ := dunderInner?_eq_some_iff.mp hinner
    rw [hform] at hhead
    exact absurd rfl hhead

/-- Taking parts apart again gives the same cues as cutting twice. -/
theorem cuesByParts_eq (k : Combiners) (name : Text) : cuesByParts k name = identifierCues k name := by
  induction hn : name.length using Nat.strongRecOn generalizing name with
  | ind n ih =>
    subst hn
    rw [cuesByParts]
    split
    case h_1 inner hinner =>
      have hcues := ih _ (length_lt_of_dunderInner? hinner) inner rfl
      rw [hcues, identifierCues_of_none (dunderInner?_inner hinner), ← fragmentCues_eq, identifierCues, hinner]
    case h_2 hnone =>
      by_cases hdoubled : ['_', '_'] <:+: name
      · rw [if_pos hdoubled, identifierCues, hnone, fragmentCues,
          List.attach_map_val (f := fun part => if part = [] then [] else cuesByParts k part)]
        congr 1
        apply List.map_congr_left
        intro part hpart
        have hplain := dunderInner?_eq_none (not_infix_of_mem_doubledFields hpart)
        have hcues := ih _ (length_lt_of_mem_doubledFields hdoubled hpart) part rfl
        split
        case isTrue hnil => rw [hnil]; rfl
        case isFalse => rw [hcues, identifierCues_of_none hplain]
      · rw [if_neg hdoubled, identifierCues_of_none hnone]
        by_cases hlow : '_' ∈ name
        · rw [if_pos hlow,
            List.attach_map_val (f := fun part => if part = [] then [] else cuesByParts k part)]
          congr 1
          apply List.map_congr_left
          intro part hpart
          have hsingle : '_' ∉ part := fun h => (mem_fields hpart h).2 rfl
          have hplain : dunderInner? part = none :=
            dunderInner?_eq_none fun h => hsingle (h.subset List.mem_cons_self)
          have hcues := ih _ (length_lt_of_mem_fields hlow hpart) part rfl
          split
          case isTrue hnil => rw [hnil]; rfl
          case isFalse =>
            rw [hcues, identifierCues_of_none hplain, fields_of_not_mem hsingle]
            rfl
        · rw [if_neg hlow, fields_of_not_mem hlow]
          rfl

/-- A name in doubled low lines that no further low line touches. -/
structure InDoubled (name inner : Text) : Prop where
  form : name = "__".toList ++ inner ++ "__".toList
  long : 4 < name.byteSize
  head : inner.head? ≠ some '_'
  last : inner.getLast? ≠ some '_'

theorem length_le_foldl_utf8Size (t : Text) (n : Nat) :
    n + t.length ≤ t.foldl (fun n c => n + c.utf8Size) n := by
  induction t generalizing n with
  | nil => exact Nat.le_refl n
  | cons c t ih =>
    have hc := c.utf8Size_pos
    have hrest := ih (n + c.utf8Size)
    rw [List.foldl_cons, List.length_cons]
    omega

theorem inDoubled_iff {name inner : Text} : InDoubled name inner ↔ dunderInner? name = some inner := by
  rw [dunderInner?_eq_some_iff]
  constructor
  · intro h
    refine ⟨h.form, ?_, h.head, h.last⟩
    rintro rfl
    have hlong := h.long
    rw [h.form] at hlong
    exact absurd hlong (by decide)
  · rintro ⟨rfl, hne, hhead, hlast⟩
    have hpos := List.length_pos_iff.mpr hne
    have hbytes := length_le_foldl_utf8Size ("__".toList ++ inner ++ "__".toList) 0
    refine ⟨rfl, Nat.lt_of_lt_of_le ?_ hbytes, hhead, hlast⟩
    simp
    omega

/-- A name in doubled low lines is read as `dunder` and the scan of what they enclose, and any other
name as the scan of all of it. -/
theorem speakAll_identifier {s : Segmenter} (hs : s.vocabulary.Answering) (k : Combiners) (name : Text) :
    cuesByParts k name = identifierCues k name ∧
      (∀ t parts, PartsOf t parts ↔ parts = nameParts t) ∧
      ∃ words, Cue.speakAll s.segment (identifierCues k name) = .ok words ∧
        (∀ inner, InDoubled name inner → ∃ rest, scan s.segment k inner = .ok rest ∧
          words = dunder :: rest) ∧
        ((∀ inner, ¬ InDoubled name inner) → scan s.segment k name = .ok words) := by
  have hscan : ∀ t, Cue.speakAll s.segment (joinCues [.fixed under] ((fields '_' t).map (Cue.ofText k))) =
      scan s.segment k t := by
    intro t
    rw [joinCues_fields, speakAll_parts, scan]
  have hparts : ∀ t parts, PartsOf t parts ↔ parts = nameParts t := by
    intro t parts
    exact ⟨PartsOf.eq_nameParts, fun h => h ▸ partsOf_nameParts t⟩
  refine ⟨cuesByParts_eq k name, hparts, ?_⟩
  obtain ⟨words, hwords, _⟩ := Cue.speakAll_yields ((namesIn_identifierCues k name).exists_segments hs)
  refine ⟨words, hwords, ?_, ?_⟩
  · intro inner h
    obtain ⟨rest, hrest, _⟩ := Cue.speakAll_yields ((namesIn_fragmentCues k inner).exists_segments hs)
    have hall : Cue.speakAll s.segment (identifierCues k name) = .ok (dunder :: rest) := by
      rw [identifierCues, inDoubled_iff.mp h, Cue.speakAll, Cue.speak, hrest]
      rfl
    rw [fragmentCues_eq, hscan] at hrest
    exact ⟨rest, hrest, Except.ok.inj (hwords.symm.trans hall)⟩
  · intro h
    have hnone : dunderInner? name = none :=
      Option.eq_none_iff_forall_ne_some.mpr fun inner hinner => h inner (inDoubled_iff.mpr hinner)
    rw [← hwords, identifierCues_of_none hnone, hscan]

/-- Three low lines inside doubled ones are three words, and no part is empty. -/
theorem speakAll_a_low_low_low_b :
    let s : Segmenter := ⟨(WordList.ofWords []).toVocabulary, false⟩
    let words := ["a", "_under-score", "_under-score", "_under-score", "b"].map String.toList
    s.vocabulary.Answering ∧ InDoubled "__a___b__".toList "a___b".toList ∧
      scan s.segment {} "a___b".toList = .ok words ∧
      Cue.speakAll s.segment (identifierCues {} "__a___b__".toList) = .ok (dunder :: words) := by
  intro s words
  have hanswering : s.vocabulary.Answering := WordList.answering _
  have hform : InDoubled "__a___b__".toList "a___b".toList := inDoubled_iff.mpr (by decide)
  have hscan : scan s.segment {} "a___b".toList = .ok words := by decide +kernel
  obtain ⟨_, _, all, hall, hinner, _⟩ := speakAll_identifier hanswering {} "__a___b__".toList
  obtain ⟨rest, hrest, rfl⟩ := hinner _ hform
  rw [hscan] at hrest
  cases hrest
  exact ⟨hanswering, hform, hscan, hall⟩

end Dictation.Source
