import Dictation.Casing
import Dictation.Proofs.Token.MaximalRuns
/-!
# Words between changes of case

A name is cut into stretches of digits and words of three shapes: capitals, small letters, or one capital
before small letters. Small letters alone only begin the name or follow digits, and capitals alone are not
followed by letters other than a capital before small ones. There is one such cut, and its digits are the
runs of digits.
-/
namespace Dictation

/-- Whether a text is a stretch of characters of one category. -/
def Combiners.IsStretch (k : Combiners) (g : Category) (t : Text) : Prop :=
  t ≠ [] ∧ ∀ c ∈ t, k.categoryOf c = g

theorem Combiners.AreRuns.isStretch {k : Combiners} {t : Text} {rs : List Run} (h : k.AreRuns t rs)
    {r : Run} (hr : r ∈ rs) : k.IsStretch r.category r.text :=
  ⟨h.ne_nil r hr, h.category r hr⟩

/-- Whether a run consists of capitals, of small letters or of digits. -/
abbrev Run.IsCased (r : Run) : Prop :=
  r.category = .letter .upper ∨ r.category = .letter .lower ∨ r.category = .digit

namespace Piece

def text : Piece → Text
  | word w => w
  | digits ds => ds

def digits? : Piece → Option Text
  | word _ => none
  | digits ds => some ds

inductive Shape where
  | digits
  | upper
  | lower
  | capitalised
  deriving DecidableEq, Repr

namespace Shape

def first : Shape → Category
  | digits => .digit
  | upper | capitalised => .letter .upper
  | lower => .letter .lower

def later : Shape → Category
  | digits => .digit
  | upper => .letter .upper
  | lower | capitalised => .letter .lower

/-- Whether a piece of the first shape may stand in front of one of the second: small letters alone only
follow digits, capitals alone are followed by digits or by a capital before small letters, and digits are
not followed by digits. -/
def mayPrecede : Shape → Shape → Bool
  | digits, next => next ≠ digits
  | upper, next => next = digits || next = capitalised
  | lower, next | capitalised, next => next ≠ lower

variable {s : Shape}

theorem eq_digits (h : s.first = .digit) : s = digits := by cases s <;> first | rfl | cases h

theorem eq_lower (h : s.first = .letter .lower) : s = lower := by cases s <;> first | rfl | cases h

theorem upper_or_capitalised (h : s.first = .letter .upper) : s = upper ∨ s = capitalised := by
  cases s <;> first | exact .inl rfl | exact .inr rfl | cases h

theorem mayPrecede_of_ne {s' : Shape} (hs : s ≠ upper) (h : s'.first ≠ s.later) :
    s.mayPrecede s' = true := by
  cases s <;> cases s' <;> first | rfl | exact absurd rfl hs | exact absurd rfl h

end Shape

section
variable {k : Combiners} {s : Shape} {p : Piece}

/-- Whether a piece has a shape. -/
inductive HasShape (k : Combiners) : Shape → Piece → Prop
  | digits {ds : Text} (h : k.IsStretch .digit ds) : HasShape k .digits (.digits ds)
  | upper {w : Text} (h : k.IsStretch (.letter .upper) w) : HasShape k .upper (.word w)
  | lower {w : Text} (h : k.IsStretch (.letter .lower) w) : HasShape k .lower (.word w)
  | capitalised {c : Char} {w : Text} (hc : k.categoryOf c = .letter .upper)
      (h : k.IsStretch (.letter .lower) w) : HasShape k .capitalised (.word (c :: w))

theorem HasShape.text_eq (h : HasShape k s p) :
    ∃ c rest, p.text = c :: rest ∧ k.categoryOf c = s.first ∧
      (∀ d ∈ rest, k.categoryOf d = s.later) ∧ (s = .capitalised → rest ≠ []) := by
  have hstretch : ∀ {g : Category} {t : Text}, k.IsStretch g t →
      ∃ c rest, t = c :: rest ∧ k.categoryOf c = g ∧ ∀ d ∈ rest, k.categoryOf d = g := by
    intro g t ⟨hne, hall⟩
    obtain ⟨c, rest, rfl⟩ := List.exists_cons_of_ne_nil hne
    exact ⟨c, rest, rfl, hall c List.mem_cons_self, fun d hd => hall d (List.mem_cons_of_mem c hd)⟩
  cases h with
  | digits h | upper h | lower h =>
    obtain ⟨c, rest, rfl, hc, hrest⟩ := hstretch h
    exact ⟨c, rest, rfl, hc, hrest, by simp⟩
  | @capitalised c w hc h => exact ⟨c, w, rfl, hc, h.2, fun _ => h.1⟩

theorem HasShape.unique {s' : Shape} (h : HasShape k s p) (h' : HasShape k s' p) : s = s' := by
  obtain ⟨c, rest, htext, hc, hrest, hlong⟩ := h.text_eq
  obtain ⟨d, rest', htext', hd, hrest', hlong'⟩ := h'.text_eq
  obtain ⟨rfl, rfl⟩ : c = d ∧ rest = rest' := List.cons.inj (htext.symm.trans htext')
  have hfirst : s.first = s'.first := hc.symm.trans hd
  have hlater : rest ≠ [] → s.later = s'.later := by
    intro hne
    obtain ⟨e, he⟩ := List.exists_mem_of_ne_nil rest hne
    exact (hrest e he).symm.trans (hrest' e he)
  cases s <;> cases s' <;> try first | rfl | cases hfirst
  case upper.capitalised => cases hlater (hlong' rfl)
  case capitalised.upper => cases hlater (hlong rfl)

theorem HasShape.eq_of_text_eq {s' : Shape} {q : Piece} (hp : HasShape k s p) (hq : HasShape k s' q)
    (h : p.text = q.text) : p = q := by
  obtain ⟨c, rest, hpText, hc, _⟩ := hp.text_eq
  obtain ⟨d, rest', hqText, hd, _⟩ := hq.text_eq
  have hfirst : s.first = s'.first := by
    rw [hpText, hqText] at h
    rw [← hc, ← hd, (List.cons.inj h).1]
  cases p with
  | word w =>
    cases q with
    | word u => exact congrArg word h
    | digits ds =>
      cases hq
      cases hp <;> cases hfirst
  | digits ds =>
    cases q with
    | word u =>
      cases hp
      cases hq <;> cases hfirst
    | digits es => exact congrArg Piece.digits h

end

/-- Whether a piece may stand in front of another one, by their shapes. -/
def Follows (k : Combiners) (p next : Piece) : Prop :=
  ∃ s s', HasShape k s p ∧ HasShape k s' next ∧ s.mayPrecede s' = true

/-- Whether some pieces are a cut of a text into stretches of digits and words of the three shapes, where
each piece may stand in front of the next one. -/
structure IsCaseCut (k : Combiners) (t : Text) (ps : List Piece) : Prop where
  text : ps.flatMap Piece.text = t
  shape : ∀ p ∈ ps, ∃ s, HasShape k s p
  follows : ps.IsChain (Follows k)

section
variable {k : Combiners} {t : Text} {p q : Piece} {ps qs : List Piece}

theorem IsCaseCut.tail (h : IsCaseCut k t (p :: ps)) : IsCaseCut k (ps.flatMap Piece.text) ps where
  text := rfl
  shape q hq := h.shape q (List.mem_cons_of_mem p hq)
  follows := h.follows.tail

theorem IsCaseCut.next {s : Shape} (h : IsCaseCut k t (p :: ps)) (hp : HasShape k s p) {c : Char}
    {rest : Text} (hrest : ps.flatMap Piece.text = c :: rest) :
    ∃ q qs s', ps = q :: qs ∧ HasShape k s' q ∧ s.mayPrecede s' = true ∧
      s'.first = k.categoryOf c := by
  cases ps with
  | nil => cases hrest
  | cons q qs =>
    obtain ⟨s₁, s', hp', hq, hmay⟩ := (List.isChain_cons_cons.mp h.follows).1
    obtain rfl := hp'.unique hp
    obtain ⟨d, others, htext, hd, _⟩ := hq.text_eq
    rw [List.flatMap_cons, htext, List.cons_append] at hrest
    exact ⟨q, qs, s', rfl, hq, hmay, by rw [← hd, (List.cons.inj hrest).1]⟩

theorem IsCaseCut.rest_eq (hp : IsCaseCut k t (p :: ps)) (hq : IsCaseCut k t (q :: qs)) {more : Text}
    (h : q.text = p.text ++ more) : ps.flatMap Piece.text = more ++ qs.flatMap Piece.text := by
  have htext := hp.text.trans hq.text.symm
  rwa [List.flatMap_cons, List.flatMap_cons, h, List.append_assoc, List.append_cancel_left_eq] at htext

/-- Of two cuts that begin with capitals alone, one cannot take more of these: the other one would go on
with a capital before small letters, and the first one with these small letters. -/
theorem IsCaseCut.upper_not_longer (hp : IsCaseCut k t (p :: ps)) (hq : IsCaseCut k t (q :: qs))
    (hs : HasShape k .upper p) (hs' : HasShape k .upper q) {more : Text} (h : q.text = p.text ++ more) :
    more = [] := by
  have hrest := hp.rest_eq hq h
  have hcapitals : ∀ e ∈ q.text, k.categoryOf e = .letter .upper := by
    cases hs' with
    | upper hstretch => exact hstretch.2
  cases more with
  | nil => rfl
  | cons d more =>
    obtain ⟨p₂, ps₂, s₂, rfl, hs₂, hmay, hfirst⟩ := hp.next hs hrest
    rw [hcapitals d (by simp [h])] at hfirst
    obtain rfl : s₂ = .capitalised := by
      rcases Shape.upper_or_capitalised hfirst with rfl | rfl
      · cases hmay
      · rfl
    obtain ⟨d', small, htext, -, hsmall, hlong⟩ := hs₂.text_eq
    obtain ⟨e, small, rfl⟩ := List.exists_cons_of_ne_nil (hlong rfl)
    have he : k.categoryOf e = .letter .lower := hsmall e List.mem_cons_self
    rw [List.flatMap_cons, htext] at hrest
    have hbehind : e :: small ++ ps₂.flatMap Piece.text = more ++ qs.flatMap Piece.text :=
      (List.cons.inj hrest).2
    cases more with
    | nil =>
      obtain ⟨_, _, s₃, _, _, hmay₃, hfirst₃⟩ := hq.next hs' hbehind.symm
      obtain rfl := Shape.eq_lower (hfirst₃.trans he)
      cases hmay₃
    | cons f more =>
      obtain rfl := (List.cons.inj hbehind).1
      cases he.symm.trans (hcapitals e (by simp [h]))

theorem IsCaseCut.not_longer (hp : IsCaseCut k t (p :: ps)) (hq : IsCaseCut k t (q :: qs)) {more : Text}
    (h : q.text = p.text ++ more) : more = [] := by
  have hrest := hp.rest_eq hq h
  obtain ⟨s, hs⟩ := hp.shape p List.mem_cons_self
  obtain ⟨s', hs'⟩ := hq.shape q List.mem_cons_self
  obtain ⟨c, x, hpText, hc, hx, hlong⟩ := hs.text_eq
  obtain ⟨c', y, hqText, hc', hy, -⟩ := hs'.text_eq
  obtain ⟨rfl, rfl⟩ : c' = c ∧ y = x ++ more := by
    rw [hpText, hqText, List.cons_append] at h
    exact List.cons.inj h
  have hfirst : s.first = s'.first := hc.symm.trans hc'
  cases more with
  | nil => rfl
  | cons d more =>
    -- Behind the shorter piece stands one that begins in the middle of the longer one.
    obtain ⟨_, _, s₂, _, _, hmay, hfirst₂⟩ := hp.next hs hrest
    rw [hy d (by simp)] at hfirst₂
    cases s' with
    | digits =>
      obtain rfl := Shape.eq_digits hfirst
      obtain rfl := Shape.eq_digits hfirst₂
      cases hmay
    | lower =>
      obtain rfl := Shape.eq_lower hfirst
      obtain rfl := Shape.eq_lower hfirst₂
      cases hmay
    | capitalised =>
      obtain rfl := Shape.eq_lower hfirst₂
      rcases Shape.upper_or_capitalised hfirst with rfl | rfl <;> cases hmay
    | upper =>
      rcases Shape.upper_or_capitalised hfirst with rfl | rfl
      · exact hp.upper_not_longer hq hs hs' h
      · obtain ⟨e, he⟩ := List.exists_mem_of_ne_nil x (hlong rfl)
        cases (hx e he).symm.trans (hy e (List.mem_append_left _ he))

/-- A text has one cut at most. -/
theorem IsCaseCut.unique (hp : IsCaseCut k t ps) (hq : IsCaseCut k t qs) : ps = qs := by
  have hsolid : ∀ {t : Text} {p : Piece} {ps : List Piece}, IsCaseCut k t (p :: ps) → t ≠ [] := by
    intro t p ps h
    obtain ⟨s, hs⟩ := h.shape p List.mem_cons_self
    obtain ⟨c, rest, htext, _⟩ := hs.text_eq
    rw [← h.text, List.flatMap_cons, htext]
    exact List.cons_ne_nil _ _
  induction ps generalizing t qs with
  | nil =>
    cases qs with
    | nil => rfl
    | cons q qs => exact absurd hp.text.symm (hsolid hq)
  | cons p ps ih =>
    cases qs with
    | nil => exact absurd hq.text.symm (hsolid hp)
    | cons q qs =>
      have htext : p.text ++ ps.flatMap Piece.text = q.text ++ qs.flatMap Piece.text :=
        hp.text.trans hq.text.symm
      have hsame : p.text = q.text := by
        rcases List.append_eq_append_iff.mp htext with ⟨more, hmore, _⟩ | ⟨more, hmore, _⟩
        · rw [hmore, hp.not_longer hq hmore, List.append_nil]
        · rw [hmore, hq.not_longer hp hmore, List.append_nil]
      obtain ⟨s, hs⟩ := hp.shape p List.mem_cons_self
      obtain ⟨s', hs'⟩ := hq.shape q List.mem_cons_self
      obtain rfl := hs.eq_of_text_eq hs' hsame
      rw [hsame, List.append_cancel_left_eq] at htext
      rw [ih hp.tail (htext ▸ hq.tail)]

theorem IsCaseCut.cons {s : Shape} (hp : HasShape k s p) (h : IsCaseCut k t ps)
    (hnext : ∀ q ∈ ps.head?, Follows k p q) : IsCaseCut k (p.text ++ t) (p :: ps) where
  text := by rw [List.flatMap_cons, h.text]
  shape q hq := by
    rcases List.mem_cons.mp hq with rfl | hq
    · exact ⟨s, hp⟩
    · exact h.shape q hq
  follows := List.isChain_cons.mpr ⟨hnext, h.follows⟩

/-- Whether a piece may stand in front of others is told by the first character of these. -/
theorem IsCaseCut.follows_head {s : Shape} (hp : HasShape k s p) (h : IsCaseCut k t ps)
    (hnext : ∀ c ∈ t.head?, ∀ s', s'.first = k.categoryOf c → s.mayPrecede s' = true) :
    ∀ q ∈ ps.head?, Follows k p q := by
  intro q hq
  obtain ⟨qs, rfl⟩ := List.head?_eq_some_iff.mp hq
  obtain ⟨s', hs'⟩ := h.shape q List.mem_cons_self
  obtain ⟨c, rest, htext, hc, _⟩ := hs'.text_eq
  have hhead : t.head? = some c := by
    rw [← h.text, List.flatMap_cons, htext]
    rfl
  exact ⟨s, s', hp, hs', hnext c hhead s' hc.symm⟩

theorem IsCaseCut.cons_of_ne {s : Shape} (hs : s ≠ .upper) (hp : HasShape k s p) (h : IsCaseCut k t ps)
    (hne : ∀ c ∈ t.head?, k.categoryOf c ≠ s.later) : IsCaseCut k (p.text ++ t) (p :: ps) := by
  refine h.cons hp (h.follows_head hp fun c hc s' hfirst => ?_)
  exact Shape.mayPrecede_of_ne hs (hfirst ▸ hne c hc)

end

/-- How runs are cut into pieces. A run of capitals leaves its last one to the small letters behind it. -/
inductive Cuts : List Run → List Piece → Prop
  | nil : Cuts [] []
  | digits (ds : Text) {rest : List Run} {ps : List Piece} (h : Cuts rest ps) :
      Cuts (⟨.digit, ds⟩ :: rest) (.digits ds :: ps)
  | lower (w : Text) {rest : List Run} {ps : List Piece} (h : Cuts rest ps) :
      Cuts (⟨.letter .lower, w⟩ :: rest) (.word w :: ps)
  | upper (w : Text) {rest : List Run} {ps : List Piece} (hrest : startsLower rest = false)
      (h : Cuts rest ps) : Cuts (⟨.letter .upper, w⟩ :: rest) (.word w :: ps)
  | capitalised (u : Text) (c : Char) (w : Text) {rest : List Run} {ps : List Piece} (h : Cuts rest ps) :
      Cuts (⟨.letter .upper, u ++ [c]⟩ :: ⟨.letter .lower, w⟩ :: rest)
        (finish u ++ .word (c :: w) :: ps)

section
variable {k : Combiners} {t : Text} {rs : List Run} {ps : List Piece}

theorem finish_of_ne_nil {w : Text} (h : w ≠ []) : finish w = [word w] := if_neg (by simpa using h)

/-- Letters that are pending are a word of their own, unless small letters go on with it. -/
theorem splitAfter_eq (pending : Text) (hlower : startsLower rs = false) (hcased : ∀ r ∈ rs, r.IsCased) :
    splitAfter pending rs = finish pending ++ split rs := by
  cases rs with
  | nil => simp [splitAfter, split, finish]
  | cons r rest =>
    rcases hcased r List.mem_cons_self with hr | hr | hr
    · simp only [splitAfter, split, hr, finish]
      split <;> simp
    · simp [startsLower, hr] at hlower
    · simp [splitAfter, split, hr, finish]

theorem startsLower_tail {w : Text} (hruns : k.AreRuns t (⟨.letter .lower, w⟩ :: rs)) :
    startsLower rs = false := by
  cases rs with
  | nil => rfl
  | cons next rest =>
    have hne := (List.isChain_cons_cons.mp hruns.apart).1
    simpa [startsLower] using hne.symm

theorem split_lower {w : Text} (hruns : k.AreRuns t (⟨.letter .lower, w⟩ :: rs))
    (hcased : ∀ r ∈ rs, r.IsCased) : split (⟨.letter .lower, w⟩ :: rs) = word w :: split rs := by
  have hw : w ≠ [] := hruns.ne_nil ⟨.letter .lower, w⟩ List.mem_cons_self
  rw [split, splitAfter, List.nil_append, splitAfter_eq w (startsLower_tail hruns) hcased,
    finish_of_ne_nil hw]
  rfl

theorem split_upper_lower (u : Text) (c : Char) (w : Text) :
    split (⟨.letter .upper, u ++ [c]⟩ :: ⟨.letter .lower, w⟩ :: rs) =
      finish u ++ splitAfter (c :: w) rs := by
  have hlower : startsLower (⟨.letter .lower, w⟩ :: rs) = true := rfl
  cases u with
  | nil => rfl
  | cons a u =>
    have hlong : 1 < (a :: u ++ [c]).length := by simp
    have hlast : (a :: u ++ [c]).drop ((a :: u ++ [c]).length - 1) = [c] := by simp
    rw [split, splitAfter, hlower]
    simp only [hlong, decide_true, Bool.and_self, if_true, hlast, List.dropLast_concat, splitAfter]
    rfl

theorem cuts_split (hruns : k.AreRuns t rs) (hcased : ∀ r ∈ rs, r.IsCased) : Cuts rs (split rs) := by
  induction rs generalizing t with
  | nil => exact .nil
  | cons r rest ih =>
    obtain ⟨g, w⟩ := r
    have hw : w ≠ [] := hruns.ne_nil ⟨g, w⟩ List.mem_cons_self
    have hlater : ∀ r ∈ rest, r.IsCased := fun r hr => hcased r (List.mem_cons_of_mem _ hr)
    have hcuts := ih hruns.tail hlater
    obtain rfl | rfl | rfl : g = .letter .upper ∨ g = .letter .lower ∨ g = .digit :=
      hcased ⟨g, w⟩ List.mem_cons_self
    case inr.inl =>
      rw [split_lower hruns hlater]
      exact .lower w hcuts
    case inr.inr => exact .digits w hcuts
    case inl =>
      cases hlower : startsLower rest with
      | false =>
        have hsplit : split (⟨.letter .upper, w⟩ :: rest) = word w :: split rest := by
          rw [split, splitAfter, hlower, splitAfter_eq w hlower hlater, finish_of_ne_nil hw]
          rfl
        rw [hsplit]
        exact .upper w hlower hcuts
      | true =>
        -- The run of small letters is cut off as a word by itself, and here it is the end of one.
        obtain ⟨⟨g', w'⟩, rest, rfl⟩ : ∃ r' rest', rest = r' :: rest' :=
          List.exists_cons_of_ne_nil (by rintro rfl; cases hlower)
        obtain rfl : g' = .letter .lower := by simpa [startsLower] using hlower
        have hbehind := fun r hr => hlater r (List.mem_cons_of_mem _ hr)
        rw [split_lower hruns.tail hbehind] at hcuts
        cases hcuts with
        | lower _ hcuts =>
          rw [← List.dropLast_append_getLast hw, split_upper_lower,
            splitAfter_eq _ (startsLower_tail hruns.tail) hbehind]
          exact .capitalised _ _ w' hcuts

theorem Cuts.digits_eq (h : Cuts rs ps) :
    ps.filterMap digits? = (rs.filter (·.category = .digit)).map Run.text := by
  induction h with
  | nil => rfl
  | digits ds _ ih => exact congrArg (ds :: ·) ih
  | lower w _ ih => exact ih
  | upper w _ _ ih => exact ih
  | capitalised u c w _ ih =>
    have hfinish : (finish u).filterMap digits? = [] := by cases u <;> rfl
    rw [List.filterMap_append, hfinish]
    exact ih

theorem head_ne_lower (hruns : k.AreRuns t rs) (hlower : startsLower rs = false) :
    ∀ c ∈ (rs.flatMap Run.text).head?, k.categoryOf c ≠ .letter .lower := by
  cases rs with
  | nil => simp
  | cons r rest =>
    obtain ⟨hne, hcategory⟩ := hruns.isStretch (r := r) List.mem_cons_self
    intro c hc
    rw [List.flatMap_cons, List.head?_append_of_ne_nil _ hne] at hc
    rw [hcategory c (List.mem_of_mem_head? hc)]
    simpa [startsLower] using hlower

/-- The pieces of runs are a cut of their text: each run differs from the next one in category, which
bounds the shapes of what follows. -/
theorem Cuts.isCaseCut (h : Cuts rs ps) (hruns : k.AreRuns t rs) : IsCaseCut k t ps := by
  induction h generalizing t with
  | nil =>
    rw [← hruns.text]
    exact ⟨rfl, by simp, .nil⟩
  | @digits ds rest ps _ ih =>
    have hp : HasShape k .digits (.digits ds) := .digits (hruns.isStretch List.mem_cons_self)
    rw [← hruns.text]
    exact (ih hruns.tail).cons_of_ne (by decide) hp hruns.head_ne
  | @lower w rest ps _ ih =>
    have hp : HasShape k .lower (.word w) := .lower (hruns.isStretch List.mem_cons_self)
    rw [← hruns.text]
    exact (ih hruns.tail).cons_of_ne (by decide) hp hruns.head_ne
  | @upper w rest ps hlower _ ih =>
    have hp : HasShape k .upper (.word w) := .upper (hruns.isStretch List.mem_cons_self)
    have hrest := ih hruns.tail
    rw [← hruns.text]
    refine hrest.cons hp (hrest.follows_head hp fun c hc s' hfirst => ?_)
    -- Neither capitals nor small letters follow, so digits do.
    have hupper := hruns.head_ne c hc
    have hsmall := head_ne_lower hruns.tail hlower c hc
    rw [← hfirst] at hupper hsmall
    cases s' <;> first | rfl | exact absurd rfl hupper | exact absurd rfl hsmall
  | @capitalised u c w rest ps _ ih =>
    obtain ⟨_, hcapitals⟩ := hruns.isStretch List.mem_cons_self
    have hp : HasShape k .capitalised (.word (c :: w)) :=
      .capitalised (hcapitals c (by simp)) (hruns.isStretch (r := ⟨.letter .lower, w⟩) (by simp))
    have hcut : IsCaseCut k (c :: w ++ rest.flatMap Run.text) (.word (c :: w) :: ps) :=
      (ih hruns.tail.tail).cons_of_ne (by decide) hp hruns.tail.head_ne
    have htext : u ++ (c :: w ++ rest.flatMap Run.text) = t := by
      rw [← hruns.text]
      simp
    rw [← htext]
    by_cases hu : u = []
    · rw [hu]
      exact hcut
    · rw [finish_of_ne_nil hu]
      have hfirst : HasShape k .upper (.word u) := .upper ⟨hu, fun d hd => hcapitals d (by simp [hd])⟩
      refine hcut.cons hfirst fun q hq => ?_
      cases hq
      exact ⟨_, _, hfirst, hp, rfl⟩

/-- A name whose runs are capitals, small letters and digits has one cut into stretches of digits and words
of the three shapes, and its pieces are that cut. Its stretches of digits are the runs of digits. -/
theorem split_characterised (hruns : k.AreRuns t rs) (hcased : ∀ r ∈ rs, r.IsCased) :
    (∀ ps, IsCaseCut k t ps ↔ ps = split rs) ∧
      (split rs).filterMap digits? = (rs.filter (·.category = .digit)).map Run.text := by
  have hcuts := cuts_split hruns hcased
  have hcut := hcuts.isCaseCut hruns
  refine ⟨fun ps => ⟨fun h => h.unique hcut, ?_⟩, hcuts.digits_eq⟩
  rintro rfl
  exact hcut

/-- Four capitals, of which the last one begins a word, digits and a small letter. -/
theorem split_characterised_acronym :
    let t : Text := ['X', 'M', 'L', 'R', 'u', 'n', '2', 'x']
    let rs := ({} : Combiners).runs t
    ({} : Combiners).AreRuns t rs ∧ (∀ r ∈ rs, r.IsCased) ∧
      IsCaseCut {} t [.word ['X', 'M', 'L'], .word ['R', 'u', 'n'], .digits ['2'], .word ['x']] ∧
      (split rs).filterMap digits? = [['2']] := by
  intro t rs
  have hruns : ({} : Combiners).AreRuns t rs := Combiners.areRuns_runs {} t
  have hcased : ∀ r ∈ rs, r.IsCased := by decide
  obtain ⟨hcut, hdigits⟩ := split_characterised hruns hcased
  exact ⟨hruns, hcased, (hcut _).mpr (by decide), hdigits.trans (by decide)⟩

end

end Piece

end Dictation
