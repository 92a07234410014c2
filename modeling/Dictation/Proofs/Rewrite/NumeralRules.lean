import Dictation.Proofs.Rewrite.DigitWords
import Dictation.Proofs.Text.Alphabet
/-!
# The rules for numbers

Digits that were spoken one by one are drawn together first. Then hexadecimal digits behind `0 x`, the
word for the point between two digits and the words for the signs get their turn.
-/
namespace Dictation

open Node Text

theorem asciiDigits_sound : ∀ d ∈ asciiDigits, CharSet.digit.contains d = true ∧
    Unicode.isBlank d = false ∧ isWordChar d = true := by
  decide

theorem digit_space : CharSet.digit.contains ' ' = false := by decide

/-- Consecutive digits of a text, or another word. -/
inductive Chunk where
  | digits (ds : Text)
  | word (w : Text)
  deriving DecidableEq

namespace Chunk

def words : Chunk → List Text
  | digits ds => ds.map fun d => [d]
  | word w => [w]

def written : Chunk → Text
  | digits ds => ds
  | word w => w

def isDigits : Chunk → Bool
  | digits _ => true
  | word _ => false

/-- Digits are digits, and other words have none. -/
def Valid : Chunk → Prop
  | digits ds => ds ≠ [] ∧ ∀ d ∈ ds, d ∈ asciiDigits
  | word w => isSolid w = true ∧ isDigitless w = true

/-- Two chunks of digits do not stand side by side. -/
def Apart (a b : Chunk) : Prop := ¬ (a.isDigits = true ∧ b.isDigits = true)

theorem words_ne_nil {ch : Chunk} (h : ch.Valid) : ch.words ≠ [] := by
  cases ch with
  | digits ds => simpa [words] using h.1
  | word w => exact List.cons_ne_nil _ _

def spoken (ch : Chunk) : Text := join [' '] ch.words

end Chunk

def nextDigit : Node := seq someBlanks (set .digit)

def spacedDigits : Node := seq (set .digit) (plus none true nextDigit)

def blankDigits (ds : Text) : Text := ds.flatMap fun d => [' ', d]

theorem spoken_digits (d : Char) (ds : Text) :
    (Chunk.digits (d :: ds)).spoken = d :: blankDigits ds := by
  induction ds generalizing d with
  | nil => rfl
  | cons e ds ih => exact congrArg (d :: ' ' :: ·) (ih e)

theorem filter_blankDigits {ds : Text} (h : ∀ d ∈ ds, d ∈ asciiDigits) :
    (blankDigits ds).filter (!Unicode.isBlank ·) = ds := by
  induction ds with
  | nil => rfl
  | cons d ds ih =>
    have hd := (asciiDigits_sound d (h d List.mem_cons_self)).2.1
    rw [blankDigits, List.flatMap_cons, List.filter_append]
    rw [show ds.flatMap (fun d => [' ', d]) = blankDigits ds from rfl,
      ih fun e he => h e (List.mem_cons_of_mem d he)]
    simp [isBlank_space, hd]

theorem nextDigit_takes {d : Char} (hd : d ∈ asciiDigits) (rest : Text) :
    nextDigit.Takes [' ', d] rest := by
  obtain ⟨hdigit, hblank, _⟩ := asciiDigits_sound d hd
  refine Takes.seq (x := [' ']) (y := [d]) (.many (List.cons_ne_nil _ _) ?_ ?_) (.one hdigit rest)
  · intro a ha
    rw [List.mem_singleton.mp ha]
    exact isBlank_space
  · intro a ha
    cases ha
    exact hblank

/-- Behind the last digit there is no further one. -/
def EndsDigits (t : Text) : Prop :=
  ∃ g u, t = g ++ u ∧ (∀ a ∈ g, CharSet.digit.contains a = false) ∧
    (∀ a ∈ u.head?, Unicode.isBlank a = false ∧ CharSet.digit.contains a = false)

theorem EndsDigits.dead {t : Text} (h : EndsDigits t) : nextDigit.Dead t := by
  obtain ⟨g, u, rfl, hg, hu⟩ := h
  exact (Begins.set .digit).dead_behind_blanks hg (fun a ha => (hu a ha).1) fun a ha => (hu a ha).2

theorem endsDigits_nil : EndsDigits [] := ⟨[], [], rfl, by simp, by simp⟩

theorem spacedDigits_dead {d : Char} {t : Text} (h : EndsDigits t) : spacedDigits.Dead (d :: t) := by
  rintro c e hc ⟨f, hset, hplus⟩
  obtain ⟨a, _, hreads⟩ := Cursor.reads_consume? hset
  obtain ⟨_, ⟨_, hnext, _⟩, _⟩ := Relation.TransGen.head'_iff.mp hplus
  have hrest := hc.symm.trans hreads.rest_eq
  exact h.dead f _ (List.cons.inj hrest).2.symm hnext

theorem spacedDigits_matchAt? {d : Char} {ds : Text} (hd : ∀ e ∈ d :: ds, e ∈ asciiDigits)
    (hne : ds ≠ []) {t : Text} (h : EndsDigits t) (b : Option Char) :
    spacedDigits.matchAt? b ((d :: blankDigits ds) ++ t) = some ⟨d :: blankDigits ds, []⟩ := by
  obtain ⟨e, es, rfl⟩ := List.exists_cons_of_ne_nil hne
  have hdigit := (asciiDigits_sound d (hd d List.mem_cons_self)).1
  have htakes : spacedDigits.Takes ([d] ++ blankDigits (e :: es)) t := by
    refine .seq (.one hdigit _) (takes_plus (by rfl) h.dead (by simp) fun f fs hfs => ?_)
    exact nextDigit_takes (hd f (List.mem_cons_of_mem d (hfs.subset List.mem_cons_self))) _
  exact matchAt?_of_run (by rfl) (htakes _ some _ _ rfl rfl rfl)

def collapse (m : Match) : Text := ActionFunction.apply .collapseSpaces ⟨spacedDigits, []⟩ m

theorem replaceFrom_chunk {ch : Chunk} (hch : ch.Valid) {t : Text}
    (ht : ch.isDigits = true → EndsDigits t) (b : Option Char) :
    ∃ b', spacedDigits.replaceFrom collapse b (ch.spoken ++ t) =
      ch.written ++ spacedDigits.replaceFrom collapse b' t := by
  have hconsumes : spacedDigits.consumes = true := rfl
  cases ch with
  | word w =>
    have hdead : spacedDigits.DeadIn w t := (Begins.set .digit).seq.deadIn (fun a ha => by
      simpa using List.all_eq_true.mp hch.2 a ha) t
    exact ⟨_, replaceFrom_misses hconsumes collapse (hdead.misses b)⟩
  | digits ds =>
    obtain ⟨hne, hdigits⟩ := hch
    obtain ⟨d, ds, rfl⟩ := List.exists_cons_of_ne_nil hne
    rw [spoken_digits]
    by_cases hds : ds = []
    · subst hds
      have hdead : spacedDigits.DeadIn [d] t :=
        deadIn_cons_iff.mpr ⟨spacedDigits_dead (ht rfl), deadIn_nil _ _⟩
      exact ⟨_, replaceFrom_misses hconsumes collapse (hdead.misses b)⟩
    · have hmatch := spacedDigits_matchAt? hdigits hds (ht rfl) b
      have hcollapse : collapse ⟨d :: blankDigits ds, []⟩ = d :: ds := by
        change (d :: blankDigits ds).filter (!Unicode.isBlank ·) = _
        have hd := (asciiDigits_sound d (hdigits d List.mem_cons_self)).2.1
        rw [List.filter_cons_of_pos (by simp [hd]),
          filter_blankDigits fun e he => hdigits e (List.mem_cons_of_mem d he)]
      exact ⟨_, hcollapse ▸ replaceFrom_found hconsumes collapse hmatch rfl⟩

theorem head_spoken {ch : Chunk} (hch : ch.Valid) (hword : ch.isDigits = false) (t : Text) :
    ∀ a ∈ (ch.spoken ++ t).head?, Unicode.isBlank a = false ∧ CharSet.digit.contains a = false := by
  cases ch with
  | digits ds => cases hword
  | word w =>
    intro a ha
    change a ∈ (w ++ t).head? at ha
    rw [head_append_of_ne_nil (ne_nil_of_isSolid hch.1)] at ha
    have hmem := List.mem_of_head? ha
    exact ⟨isBlank_of_isSolid hch.1 hmem, by simpa using List.all_eq_true.mp hch.2 a hmem⟩

/-- Of all chunks, digits are drawn together. -/
theorem replaceFrom_chunks {chs : List Chunk} (hvalid : ∀ ch ∈ chs, ch.Valid)
    (hapart : chs.IsChain Chunk.Apart) (b : Option Char) :
    spacedDigits.replaceFrom collapse b (join [' '] (chs.map Chunk.spoken)) =
      join [' '] (chs.map Chunk.written) := by
  induction chs generalizing b with
  | nil => exact replaceFrom_nil (by rfl) collapse b
  | cons ch chs ih =>
    have hch := hvalid ch List.mem_cons_self
    have hmore := ih (fun ch' h => hvalid ch' (List.mem_cons_of_mem ch h)) (List.isChain_cons.mp hapart).2
    cases chs with
    | nil =>
      obtain ⟨b', hone⟩ := replaceFrom_chunk hch (fun _ => endsDigits_nil) b
      rw [List.append_nil, replaceFrom_nil (by rfl), List.append_nil] at hone
      exact hone
    | cons ch' chs =>
      have hch' := hvalid ch' (List.mem_cons_of_mem ch List.mem_cons_self)
      have hends : ch.isDigits = true → EndsDigits ([' '] ++ join [' '] ((ch' :: chs).map Chunk.spoken)) := by
        intro hdigits
        refine ⟨[' '], _, rfl, fun a ha => List.mem_singleton.mp ha ▸ digit_space, ?_⟩
        have hword : ch'.isDigits = false := by
          rw [← Bool.not_eq_true]
          exact fun h => (List.isChain_cons.mp hapart).1 ch' rfl ⟨hdigits, h⟩
        cases chs with
        | nil =>
          have hhead := head_spoken hch' hword []
          rwa [List.append_nil] at hhead
        | cons ch'' chs =>
          have hhead := head_spoken hch' hword ([' '] ++ join [' '] ((ch'' :: chs).map Chunk.spoken))
          rwa [← List.append_assoc] at hhead
      obtain ⟨b', hone⟩ := replaceFrom_chunk hch hends b
      have hblank : spacedDigits.DeadIn [' '] (join [' '] ((ch' :: chs).map Chunk.spoken)) :=
        (Begins.set .digit).seq.deadIn (fun a ha => List.mem_singleton.mp ha ▸ digit_space) _
      have hskip := replaceFrom_misses (by rfl) collapse (hblank.misses b')
      have hjoin : ∀ f : Chunk → Text, join [' '] ((ch :: ch' :: chs).map f) =
          f ch ++ ([' '] ++ join [' '] ((ch' :: chs).map f)) := fun f => by
        rw [← List.append_assoc]
        exact join_cons (List.cons_ne_nil _ _)
      rw [hjoin, hjoin, hone, hskip, hmore]

end Dictation
