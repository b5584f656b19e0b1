import Mathlib.Data.List.Forall2
import Phrasebook.Pattern.Expression
import Phrasebook.Pattern.Matcher

/-!
# Phrasebook.Proofs.Wildcard

What a wildcard pattern means, said without tokens and rows.

`Finds p s` has three cases. Nothing as a pattern finds every phrase; a pattern without a star finds
the phrases that hold it somewhere, up to letter case; any other pattern is cut at every star, and a
phrase has to consist of the pieces, in order, with any texts between them (`Fits`).
`acceptsText_ofText_iff` ties this to the matcher of a text.

* `fits_star_cons_iff`, `fits_cons_iff`: a first star takes any text, and any other first character
  is met by the first character of the phrase.
* `fits_append_iff`: patterns side by side, the phrase split between them. It takes a pattern apart at
  any place, and at any of its stars (`fits_star_iff`).
* `finds_reverse_iff`: a pattern and a phrase read backwards.
* `freeStart_iff`, `freeEnd_iff`: which ends of a phrase a pattern leaves open. One is the mirror image
  of the other.
-/

namespace Phrasebook

namespace Pattern

open List (Forall₂)

/-- The text is the piece up to letter case: as long, and alike character by character. -/
def Spells (piece text : List Char) : Prop := Forall₂ Letter.Alike piece text

/-- The phrase is `t₀ ++ g₁ ++ t₁ ++ ⋯ ++ gₙ ++ tₙ` where every `tᵢ` spells its piece. The gaps `gᵢ`
are any texts; `rest` pairs each gap with the text behind it. -/
def Fits (pieces : List (List Char)) (s : List Char) : Prop :=
  ∃ (t : List Char) (rest : List (List Char × List Char)),
    Forall₂ Spells pieces (t :: rest.map Prod.snd) ∧ s = t ++ rest.flatMap fun p => p.1 ++ p.2

/-- The pattern finds the phrase. -/
def Finds (p s : List Char) : Prop :=
  if p = [] then True
  else if star ∈ p then Fits (p.splitOn star) s
  else ∃ x t y, Spells p t ∧ s = x ++ t ++ y

theorem alike_refl (c : Char) : Letter.Alike c c := .inl rfl

theorem spells_refl (w : List Char) : Spells w w := by
  induction w with
  | nil => exact .nil
  | cons c w ih => exact .cons (alike_refl c) ih

/-! ## Pieces -/

theorem fits_singleton_iff (w s : List Char) : Fits [w] s ↔ Spells w s := by
  constructor
  · intro hs
    obtain ⟨t, rest, h, rfl⟩ := hs
    cases h with
    | cons hw hr =>
      have : rest = [] := by simpa using List.forall₂_nil_left_iff.1 hr
      subst this
      simpa using hw
  · intro h
    exact ⟨s, [], .cons h .nil, by simp⟩

/-- The first piece and the gap behind it, taken off. -/
theorem fits_cons_cons_iff (w v : List Char) (vs : List (List Char)) (s : List Char) :
    Fits (w :: v :: vs) s ↔ ∃ t g q, s = t ++ g ++ q ∧ Spells w t ∧ Fits (v :: vs) q := by
  constructor
  · intro hs
    obtain ⟨t, rest, h, rfl⟩ := hs
    cases rest with
    | nil =>
      have := h.length_eq
      simp at this
    | cons p rest =>
      obtain ⟨g, u⟩ := p
      rw [List.map_cons, List.forall₂_cons] at h
      exact ⟨t, g, u ++ rest.flatMap fun p => p.1 ++ p.2, by simp, h.1, u, rest, h.2, rfl⟩
  · intro hs
    obtain ⟨t, g, q, rfl, ht, u, rest, h, rfl⟩ := hs
    exact ⟨t, (g, u) :: rest, .cons ht h, by simp⟩

/-! ## Patterns cut at their stars -/

theorem fits_splitOn_nil_iff (s : List Char) : Fits (([] : List Char).splitOn star) s ↔ s = [] := by
  rw [List.splitOn_nil, fits_singleton_iff]
  exact List.forall₂_nil_left_iff

/-- A first star takes any text. -/
theorem fits_star_cons_iff (p s : List Char) :
    Fits ((star :: p).splitOn star) s ↔ ∃ g q, s = g ++ q ∧ Fits (p.splitOn star) q := by
  obtain ⟨w, ws, hp⟩ := List.exists_cons_of_ne_nil (List.splitOn_ne_nil star p)
  have e : (star :: p).splitOn star = [] :: w :: ws := by
    rw [List.splitOn_cons_eq_if_modifyHead, if_pos (by simp), hp]
  rw [e, hp, fits_cons_cons_iff]
  constructor
  · intro h
    obtain ⟨t, g, q, rfl, ht, hq⟩ := h
    obtain rfl : t = [] := List.forall₂_nil_left_iff.1 ht
    exact ⟨g, q, by simp, hq⟩
  · intro h
    obtain ⟨g, q, rfl, hq⟩ := h
    exact ⟨[], g, q, by simp, .nil, hq⟩

/-- A first character that is no star is met by the first character of the phrase. -/
theorem fits_cons_iff {c : Char} (hc : c ≠ star) (p s : List Char) :
    Fits ((c :: p).splitOn star) s ↔
      ∃ d q, s = d :: q ∧ Letter.Alike c d ∧ Fits (p.splitOn star) q := by
  obtain ⟨w, ws, hp⟩ := List.exists_cons_of_ne_nil (List.splitOn_ne_nil star p)
  have e : (c :: p).splitOn star = (c :: w) :: ws := by
    rw [List.splitOn_cons_eq_if_modifyHead, if_neg (by simpa using hc), hp, List.modifyHead_cons]
  rw [e, hp]
  constructor
  · intro hs
    obtain ⟨t, rest, h, rfl⟩ := hs
    rw [List.forall₂_cons] at h
    obtain ⟨ht, hrest⟩ := h
    cases ht with
    | cons hd ht => exact ⟨_, _, rfl, hd, _, rest, .cons ht hrest, rfl⟩
  · intro hs
    obtain ⟨d, q, rfl, hd, t, rest, h, rfl⟩ := hs
    rw [List.forall₂_cons] at h
    exact ⟨d :: t, rest, .cons (.cons hd h.1) h.2, rfl⟩

/-- Patterns side by side: the phrase splits between them. -/
theorem fits_append_iff (u v s : List Char) :
    Fits ((u ++ v).splitOn star) s ↔
      ∃ r q, s = r ++ q ∧ Fits (u.splitOn star) r ∧ Fits (v.splitOn star) q := by
  induction u generalizing s with
  | nil =>
    simp only [List.nil_append, fits_splitOn_nil_iff]
    constructor
    · intro h
      exact ⟨[], s, rfl, rfl, h⟩
    · intro h
      obtain ⟨_, q, rfl, rfl, hq⟩ := h
      exact hq
  | cons c u ih =>
    by_cases hc : c = star
    · subst hc
      simp only [List.cons_append, fits_star_cons_iff, ih]
      constructor
      · intro h
        obtain ⟨g, _, rfl, r, q, rfl, hr, hq⟩ := h
        exact ⟨g ++ r, q, by simp, ⟨g, r, rfl, hr⟩, hq⟩
      · intro h
        obtain ⟨_, q, rfl, ⟨g, r, rfl, hr⟩, hq⟩ := h
        exact ⟨g, r ++ q, by simp, r, q, rfl, hr, hq⟩
    · simp only [List.cons_append, fits_cons_iff hc, ih]
      constructor
      · intro h
        obtain ⟨d, _, rfl, hd, r, q, rfl, hr, hq⟩ := h
        exact ⟨d :: r, q, rfl, ⟨d, r, rfl, hd, hr⟩, hq⟩
      · intro h
        obtain ⟨_, q, rfl, ⟨d, r, rfl, hd, hr⟩, hq⟩ := h
        exact ⟨d, r ++ q, rfl, hd, r, q, rfl, hr, hq⟩

/-- A pattern taken apart at one of its stars. -/
theorem fits_star_iff (u v s : List Char) :
    Fits ((u ++ star :: v).splitOn star) s ↔
      ∃ r g q, s = r ++ g ++ q ∧ Fits (u.splitOn star) r ∧ Fits (v.splitOn star) q := by
  simp only [fits_append_iff, fits_star_cons_iff]
  constructor
  · intro h
    obtain ⟨r, _, rfl, hr, g, q, rfl, hq⟩ := h
    exact ⟨r, g, q, by simp, hr, hq⟩
  · intro h
    obtain ⟨r, g, q, rfl, hr, hq⟩ := h
    exact ⟨r, g ++ q, by simp, hr, g, q, rfl, hq⟩

/-! ## Tokens -/

theorem accepts_anyRun_iff (ts : List Token) (s : List Char) :
    Accepts (.anyRun :: ts) s ↔ ∃ g q, s = g ++ q ∧ Accepts ts q := by
  induction s with
  | nil =>
    rw [accepts_anyRun_nil_iff]
    constructor
    · intro h
      exact ⟨[], [], rfl, h⟩
    · intro hs
      obtain ⟨g, q, e, h⟩ := hs
      obtain ⟨rfl, rfl⟩ := List.nil_eq_append_iff.1 e
      exact h
  | cons d s ih =>
    rw [accepts_anyRun_cons_iff, ih]
    constructor
    · intro hs
      rcases hs with h | ⟨g, q, rfl, h⟩
      · exact ⟨[], d :: s, rfl, h⟩
      · exact ⟨d :: g, q, rfl, h⟩
    · intro hs
      obtain ⟨g, q, e, h⟩ := hs
      cases g with
      | nil => exact .inl (by simpa [e] using h)
      | cons d' g =>
        rw [List.cons_append, List.cons.injEq] at e
        exact .inr ⟨g, q, e.2, h⟩

theorem accepts_literal_iff (c : Char) (ts : List Token) (s : List Char) :
    Accepts (.literal c :: ts) s ↔ ∃ d q, s = d :: q ∧ Letter.Alike c d ∧ Accepts ts q := by
  cases s with
  | nil => simp [not_accepts_literal_nil]
  | cons d s => simp [accepts_literal_cons_iff]

/-- A star in front of a star adds nothing, so collapsing keeps what is accepted. -/
theorem accepts_collapse_star_iff (p s : List Char) :
    Accepts (collapse (star :: p)) s ↔ Accepts (.anyRun :: collapse p) s := by
  rw [collapse, if_pos rfl]
  split
  · rename_i ts h
    rw [h]
    simp only [accepts_anyRun_iff]
    constructor
    · intro hs
      obtain ⟨g, q, rfl, h⟩ := hs
      exact ⟨g, q, rfl, [], q, rfl, h⟩
    · intro hs
      obtain ⟨g, _, rfl, g', q, rfl, h⟩ := hs
      exact ⟨g ++ g', q, by simp, h⟩
  · rfl

theorem accepts_collapse_iff (p s : List Char) :
    Accepts (collapse p) s ↔ Fits (p.splitOn star) s := by
  induction p generalizing s with
  | nil => rw [collapse, accepts_nil_iff, fits_splitOn_nil_iff]
  | cons c p ih =>
    by_cases hc : c = star
    · subst hc
      rw [accepts_collapse_star_iff, accepts_anyRun_iff, fits_star_cons_iff]
      simp only [ih]
    · rw [collapse, if_neg hc, accepts_literal_iff, fits_cons_iff hc]
      simp only [ih]

theorem accepts_literals_iff (p : List Char) (ts : List Token) (s : List Char) :
    Accepts (p.map .literal ++ ts) s ↔ ∃ t q, s = t ++ q ∧ Spells p t ∧ Accepts ts q := by
  induction p generalizing s with
  | nil => simp [Spells]
  | cons c p ih =>
    simp only [List.map_cons, List.cons_append, accepts_literal_iff, ih]
    constructor
    · intro h
      obtain ⟨d, _, rfl, hd, t, q, rfl, ht, hq⟩ := h
      exact ⟨d :: t, q, rfl, .cons hd ht, hq⟩
    · intro h
      obtain ⟨t, q, rfl, ht, hq⟩ := h
      cases ht with
      | cons hd ht => exact ⟨_, _, rfl, hd, _, q, rfl, ht, hq⟩

theorem accepts_tokens_iff {p : List Char} (hp : p ≠ []) (s : List Char) :
    Accepts (tokens p) s ↔ Finds p s := by
  rw [Finds, if_neg hp, tokens]
  split
  · exact accepts_collapse_iff p s
  · simp only [List.cons_append, accepts_anyRun_iff, accepts_literals_iff, accepts_nil_iff]
    constructor
    · intro h
      obtain ⟨x, _, rfl, t, _, rfl, ht, y, _, rfl, rfl⟩ := h
      exact ⟨x, t, y, ht, by simp⟩
    · intro h
      obtain ⟨x, t, y, ht, rfl⟩ := h
      exact ⟨x, t ++ y, by simp, t, y, rfl, ht, y, [], by simp, rfl⟩

/-! ## Consequences -/

theorem finds_nil (s : List Char) : Finds [] s := by
  rw [Finds, if_pos rfl]
  trivial

theorem finds_of_mem {p : List Char} (hp : star ∈ p) (s : List Char) :
    Finds p s ↔ Fits (p.splitOn star) s := by
  have hne : p ≠ [] := List.ne_nil_of_mem hp
  rw [Finds, if_neg hne, if_pos hp]

/-- A pattern without a star is looked for anywhere, nothing included. -/
theorem finds_of_not_mem {p : List Char} (hp : star ∉ p) (s : List Char) :
    Finds p s ↔ ∃ x t y, Spells p t ∧ s = x ++ t ++ y := by
  rw [Finds]
  split
  · subst p
    exact iff_of_true trivial ⟨s, [], [], .nil, by simp⟩
  · rfl

theorem finds_star_iff (u v s : List Char) :
    Finds (u ++ star :: v) s ↔
      ∃ r g q, s = r ++ g ++ q ∧ Fits (u.splitOn star) r ∧ Fits (v.splitOn star) q := by
  rw [finds_of_mem (by simp), fits_star_iff]

/-- Two stars side by side are one star. -/
theorem finds_star_star_iff (u v s : List Char) :
    Finds (u ++ star :: star :: v) s ↔ Finds (u ++ star :: v) s := by
  simp only [finds_star_iff, fits_star_cons_iff]
  constructor
  · intro h
    obtain ⟨r, g, _, rfl, hr, g', q, rfl, hq⟩ := h
    exact ⟨r, g ++ g', q, by simp, hr, hq⟩
  · intro h
    obtain ⟨r, g, q, rfl, hr, hq⟩ := h
    exact ⟨r, g, q, rfl, hr, [], q, rfl, hq⟩

theorem fits_stars_nil (n : Nat) : Fits ((List.replicate n star).splitOn star) [] := by
  induction n with
  | zero => exact (fits_splitOn_nil_iff []).2 rfl
  | succ n ih =>
    rw [List.replicate_succ, fits_star_cons_iff]
    exact ⟨[], [], rfl, ih⟩

theorem finds_stars (n : Nat) (s : List Char) : Finds (List.replicate n star) s := by
  cases n with
  | zero => exact finds_nil s
  | succ n =>
    rw [finds_of_mem (by simp), List.replicate_succ, fits_star_cons_iff]
    exact ⟨s, [], by simp, fits_stars_nil n⟩

/-- Cut at its stars, a pattern fits itself: every star takes itself. -/
theorem fits_self (p : List Char) : Fits (p.splitOn star) p := by
  induction p with
  | nil => exact (fits_splitOn_nil_iff []).2 rfl
  | cons c p ih =>
    by_cases hc : c = star
    · subst hc
      exact (fits_star_cons_iff p _).2 ⟨[star], p, rfl, ih⟩
    · exact (fits_cons_iff hc p _).2 ⟨c, p, rfl, alike_refl c, ih⟩

theorem finds_self (p : List Char) : Finds p p := by
  by_cases hp : star ∈ p
  · exact (finds_of_mem hp p).2 (fits_self p)
  · exact (finds_of_not_mem hp p).2 ⟨[], p, [], spells_refl p, by simp⟩

/-! ## Mirror images -/

/-- The mirror image of a pattern fits the mirror image of a phrase. -/
theorem fits_reverse {p s : List Char} (h : Fits (p.splitOn star) s) :
    Fits (p.reverse.splitOn star) s.reverse := by
  induction p generalizing s with
  | nil =>
    obtain rfl := (fits_splitOn_nil_iff s).1 h
    exact h
  | cons c p ih =>
    rw [List.reverse_cons, fits_append_iff]
    have hnil := (fits_splitOn_nil_iff []).2 rfl
    by_cases hc : c = star
    · subst hc
      obtain ⟨g, q, rfl, hq⟩ := (fits_star_cons_iff p s).1 h
      have hg := (fits_star_cons_iff [] g.reverse).2 ⟨g.reverse, [], by simp, hnil⟩
      exact ⟨q.reverse, g.reverse, List.reverse_append, ih hq, hg⟩
    · obtain ⟨d, q, rfl, hd, hq⟩ := (fits_cons_iff hc p s).1 h
      have hc := (fits_cons_iff hc [] [d]).2 ⟨d, [], rfl, hd, hnil⟩
      exact ⟨q.reverse, [d], List.reverse_cons, ih hq, hc⟩

theorem finds_reverse {p s : List Char} (h : Finds p s) : Finds p.reverse s.reverse := by
  by_cases hp : star ∈ p
  · rw [finds_of_mem hp] at h
    rw [finds_of_mem (List.mem_reverse.2 hp)]
    exact fits_reverse h
  · rw [finds_of_not_mem hp] at h
    rw [finds_of_not_mem (mt List.mem_reverse.1 hp)]
    obtain ⟨x, t, y, ht, rfl⟩ := h
    exact ⟨y.reverse, t.reverse, x.reverse, List.forall₂_reverse_iff.2 ht, by simp⟩

theorem finds_reverse_iff (p s : List Char) : Finds p.reverse s.reverse ↔ Finds p s := by
  constructor
  · intro h
    have := finds_reverse h
    rwa [List.reverse_reverse, List.reverse_reverse] at this
  · exact finds_reverse

/-! ## Ends of a phrase -/

/-- A phrase that begins with the character of a star is fitted only by a pattern that does. -/
theorem head?_of_fits {p s : List Char} (h : Fits (p.splitOn star) (star :: s)) :
    p.head? = some star := by
  cases p with
  | nil => cases (fits_splitOn_nil_iff _).1 h
  | cons c p =>
    by_cases hc : c = star
    · rw [hc]
      rfl
    · obtain ⟨d, q, e, hd, -⟩ := (fits_cons_iff hc p _).1 h
      cases e
      exact absurd (Letter.alike_star.1 hd) hc

theorem getLast?_of_fits {p s : List Char} (h : Fits (p.splitOn star) (s ++ [star])) :
    p.getLast? = some star := by
  have := fits_reverse h
  rw [List.reverse_concat] at this
  rw [← List.head?_reverse]
  exact head?_of_fits this

/-- The start of a phrase is free if a phrase that is found stays found behind any text. -/
def FreeStart (p : List Char) : Prop := ∀ x s, Finds p s → Finds p (x ++ s)

/-- The end of a phrase is free if a phrase that is found stays found in front of any text. -/
def FreeEnd (p : List Char) : Prop := ∀ x s, Finds p s → Finds p (s ++ x)

theorem freeStart_of_not_mem {p : List Char} (hp : star ∉ p) : FreeStart p := by
  intro x s h
  rw [finds_of_not_mem hp] at h ⊢
  obtain ⟨x', t, y, ht, rfl⟩ := h
  exact ⟨x ++ x', t, y, ht, by simp⟩

/-- The start is pinned exactly by a pattern with a star elsewhere but not there. The pattern finds
itself, and with a star in front of itself it would have to begin with a star. -/
theorem freeStart_iff (p : List Char) : FreeStart p ↔ (star ∈ p → p.head? = some star) := by
  constructor
  · intro hfree hp
    have h := hfree [star] p (finds_self p)
    rw [finds_of_mem hp] at h
    exact head?_of_fits h
  · intro h
    by_cases hp : star ∈ p
    · obtain ⟨p, rfl⟩ := List.head?_eq_some_iff.1 (h hp)
      intro x s hs
      rw [finds_of_mem hp, fits_star_cons_iff] at hs ⊢
      obtain ⟨g, q, rfl, hq⟩ := hs
      exact ⟨x ++ g, q, by simp, hq⟩
    · exact freeStart_of_not_mem hp

/-- The end of a phrase is the start of its mirror image. -/
theorem freeEnd_iff_freeStart_reverse (p : List Char) : FreeEnd p ↔ FreeStart p.reverse := by
  constructor
  · intro hfree x s hs
    rw [← finds_reverse_iff, List.reverse_reverse] at hs ⊢
    rw [List.reverse_append]
    exact hfree x.reverse s.reverse hs
  · intro hfree x s hs
    rw [← finds_reverse_iff] at hs ⊢
    rw [List.reverse_append]
    exact hfree x.reverse s.reverse hs

theorem freeEnd_iff (p : List Char) : FreeEnd p ↔ (star ∈ p → p.getLast? = some star) := by
  rw [freeEnd_iff_freeStart_reverse, freeStart_iff, List.mem_reverse, List.head?_reverse]

/-! ## Special characters -/

theorem lower_special : ∀ c ∈ Expression.special, Letter.lower c = c := by
  have h : (Expression.special.all fun c => Letter.lower c == c) = true := by decide +kernel
  intro c hc
  exact eq_of_beq (List.all_eq_true.1 h c hc)

theorem special_not_image {r : Letter.CaseRun} (hr : r ∈ Letter.caseRuns) {c : Char}
    (hc : c ∈ Expression.special) :
    c.toNat < r.image ∨ r.image + (r.last - r.first) < c.toNat := by
  have h : (Letter.caseRuns.all fun r => Expression.special.all fun c =>
      decide (c.toNat < r.image ∨ r.image + (r.last - r.first) < c.toNat)) = true := by
    decide +kernel
  exact of_decide_eq_true (List.all_eq_true.1 (List.all_eq_true.1 h r hr) c hc)

theorem special_not_relative {f : List Char} (hf : f ∈ Letter.relatives) {c : Char}
    (hc : c ∈ Expression.special) : c ∉ f := by
  have h : (Letter.relatives.all fun f => Expression.special.all fun c =>
      decide (c ∉ f)) = true := by
    decide +kernel
  exact of_decide_eq_true (List.all_eq_true.1 (List.all_eq_true.1 h f hf) c hc)

theorem eq_toNat_of_ofNat_eq {n : Nat} {c : Char} (h : Char.ofNat n = c) (hc : c ≠ '\x00') :
    n = c.toNat := by
  by_cases hv : n.isValidChar
  · rw [← h, Char.ofNat, dif_pos hv]
    rfl
  · rw [Char.ofNat, dif_neg hv] at h
    exact absurd h.symm hc

theorem lower_eq_special {c d : Char} (hc : c ∈ Expression.special) (h : Letter.lower d = c) :
    d = c := by
  unfold Letter.lower at h
  split at h
  · rename_i r hr
    have hmem := List.mem_of_find?_eq_some hr
    have hcov : r.covers d.toNat = true := by simpa using List.find?_some hr
    simp only [Letter.CaseRun.covers, Bool.and_eq_true, decide_eq_true_eq] at hcov
    have hne : c ≠ '\x00' := by
      rintro rfl
      exact absurd hc (by decide)
    have hval := eq_toNat_of_ofNat_eq h hne
    rcases special_not_image hmem hc with hlt | hlt <;> omega
  · exact h

/-- A special character is alike to itself only. -/
theorem alike_special_iff {c : Char} (hc : c ∈ Expression.special) (d : Char) :
    Letter.Alike c d ↔ d = c := by
  constructor
  · intro hs
    rcases hs with h | ⟨f, hf, hcf, -⟩
    · rw [lower_special c hc] at h
      exact lower_eq_special hc h.symm
    · rw [lower_special c hc] at hcf
      exact absurd hcf (special_not_relative hf hc)
  · rintro rfl
    exact alike_refl d

end Pattern

end Phrasebook
