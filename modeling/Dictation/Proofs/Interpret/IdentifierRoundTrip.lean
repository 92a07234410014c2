import Dictation.Proofs.Interpret.Uncommanded
import Dictation.Proofs.Source.CasedIdentifiers
/-!
# Identifiers read back

An identifier whose case can be told from its fields is spoken, without guessing, as words that are read
back as the identifier. Only the word `dunder` is lost where it stands behind two low lines.
-/
namespace Dictation

open Node Text

namespace Interpreter

/-- Triggers find nothing in a spoken name. -/
theorem triggers_miss_spoken {ps : NameFields} (hps : ps.Valid) (doubled : Bool) :
    ∀ n ∈ CommandTable.triggers, n.Misses none (join [' '] (NameFields.spoken doubled ps)) [] := by
  have hidle : ∀ n ∈ CommandTable.triggers, idleOn NameFields.units triggerWords n = true := by
    decide +kernel
  exact fun n hn => misses_of_idleOn NameFields.units_sound.1 (hidle n hn) (NameFields.spoken_cases hps doubled) none

/-- A spoken name is read back as it is written, but for the word `dunder` behind two low lines. -/
theorem interpretText_spoken {ps : NameFields} (hps : ps.Valid) {doubled : Bool}
    (hdoubled : doubled = true → ∃ f qs, ps = some f :: qs) (hne : ps.name ≠ []) :
    (new .shipped .shipped).interpretText (join [' '] (NameFields.spoken doubled ps)) =
      [.text (dropDunder (RuleTable.wrapped doubled ps.name))] := by
  have hsolid : ∀ x ∈ NameFields.spoken doubled ps, isSolid x = true := fun x hx =>
    (NameFields.spoken_cases hps doubled x hx).elim (NameFields.units_sound.2 x) fun h => h.isSolid
  have hspoken : NameFields.spoken doubled ps ≠ [] := by
    cases doubled with
    | false => exact NameFields.words_ne_nil hps hne
    | true => exact List.cons_ne_nil _ _
  have hwrapped : RuleTable.wrapped doubled ps.name ≠ [] := by
    cases doubled with
    | false => exact hne
    | true => exact List.append_ne_nil_of_left_ne_nil (List.append_ne_nil_of_right_ne_nil _ hne) _
  have hwritten : isSolid (dropDunder (RuleTable.wrapped doubled ps.name)) = true :=
    isSolid_of_isBlank (dropDunder_ne_nil hwrapped) fun a ha =>
      (RuleTable.nameChars_sound a
        (mem_dropDunder (RuleTable.mem_wrapped (NameFields.mem_name hps) doubled) a ha)).2
  exact interpretText_of_misses (isTrimmed_join hspoken hsolid) (triggers_miss_spoken hps doubled)
    (RuleTable.apply_spokenName hps hdoubled hne) (isTrimmed_of_isSolid hwritten)

/-- An identifier whose case can be told from its fields is read back without the word `dunder` behind two
low lines, so that it is itself just if it has no such word. -/
theorem interpretText_identifier {s : Segmenter} (hs : s.guess = false) {k : Combiners} {n : Text}
    (h : IsCasedIdentifier k n) :
    ∃ ws, Cue.speakAll s.segment (Source.identifierCues k n) = .ok ws ∧
      (new .shipped .shipped).interpretText (join [' '] ws) = [.text (dropDunder n)] ∧
      ((new .shipped .shipped).interpretText (join [' '] ws) = [.text n] ↔ ¬ "__dunder".toList <:+: n.lower) := by
  obtain ⟨doubled, ps, hps, hdoubled, hne, hname, hspoken⟩ := exists_spoken (Segmenter.segment_unguessed hs) h
  have hread := interpretText_spoken hps hdoubled hne
  rw [hname] at hread
  refine ⟨_, hspoken, hread, ?_⟩
  rw [hread, lower_name h.chars]
  refine Iff.trans ?_ (dropDunder_eq_self_iff n)
  simp

/-- A name with three casings between doubled low lines is read back as it was. -/
theorem interpretText_getItem_HTTP_X :
    let s : Segmenter := ⟨(WordList.ofWords []).toVocabulary, false⟩
    s.guess = false ∧ IsCasedIdentifier {} "__getItem_HTTP_X__".toList ∧
      ¬ "__dunder".toList <:+: Text.lower "__getItem_HTTP_X__".toList ∧
      ∃ ws, Cue.speakAll s.segment (Source.identifierCues {} "__getItem_HTTP_X__".toList) = .ok ws ∧
        (new .shipped .shipped).interpretText (join [' '] ws) = [.text "__getItem_HTTP_X__".toList] := by
  intro s
  have hname : IsCasedIdentifier {} "__getItem_HTTP_X__".toList := by decide +kernel
  have hfree : ¬ "__dunder".toList <:+: Text.lower "__getItem_HTTP_X__".toList := by decide +kernel
  obtain ⟨ws, hws, _, hread⟩ := interpretText_identifier (s := s) rfl hname
  exact ⟨rfl, hname, hfree, ws, hws, hread.mpr hfree⟩

/-- A name that begins with two low lines and `dunder` is not read back. -/
theorem interpretText_dunderella :
    let s : Segmenter := ⟨(WordList.ofWords []).toVocabulary, false⟩
    IsCasedIdentifier {} "__dunderella".toList ∧
      Cue.speakAll s.segment (Source.identifierCues {} "__dunderella".toList) =
        .ok (["_under-score", "_under-score", "dunderella"].map String.toList) ∧
      (new .shipped .shipped).interpretText "_under-score _under-score dunderella".toList =
        [.text "__ella".toList] ∧
      (new .shipped .shipped).interpretText "_under-score _under-score dunderella".toList ≠
        [.text "__dunderella".toList] := by
  intro s
  have hname : IsCasedIdentifier {} "__dunderella".toList := by decide +kernel
  have hwords : Cue.speakAll s.segment (Source.identifierCues {} "__dunderella".toList) =
      .ok (["_under-score", "_under-score", "dunderella"].map String.toList) := by decide +kernel
  obtain ⟨doubled, ps, hps, hdoubled, hne, hwritten, hspoken⟩ :=
    exists_spoken (Segmenter.segment_unguessed (s := s) rfl) hname
  have hread := interpretText_spoken hps hdoubled hne
  rw [hwords] at hspoken
  have hrest : dropDunder "ella".toList = "ella".toList := (dropDunder_eq_self_iff _).mpr (by decide)
  have hdropped : dropDunder "__dunderella".toList = "__".toList ++ "ella".toList :=
    (dropDunder_append "ella".toList).trans (congrArg _ hrest)
  rw [hwritten, ← Except.ok.inj hspoken, hdropped] at hread
  refine ⟨hname, hwords, hread, ?_⟩
  rw [show "_under-score _under-score dunderella".toList =
    join [' '] (["_under-score", "_under-score", "dunderella"].map String.toList) by decide, hread]
  simp

end Interpreter

end Dictation
