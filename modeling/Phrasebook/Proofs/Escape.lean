import Mathlib
import Phrasebook.Markdown

/-!
# Phrasebook.Proofs.Escape

Escaped phrases are safe, and nothing of a phrase is lost.

The two escapes are looked at one at a time. Of each it is said which texts it writes and what it is
read back as (`withBackslashes_eq_iff`, `withEntities_eq_iff`). The outer one leaves the entities of
the inner one alone: a character that is not special is found at the same places as before
(`cons_suffix_withBackslashes_iff`, `prefix_withBackslashes_iff`). So a text is the escape of a phrase
exactly if it is safe and is read back as the phrase (`escape_eq_iff`).
-/

namespace Phrasebook

namespace Markdown

/-- What a text in markdown is made of. -/
inductive Piece where
  /-- A special character behind a backslash. -/
  | guarded (c : Char)
  /-- A character that stands for itself. -/
  | plain (c : Char)
  deriving DecidableEq, Repr

namespace Piece

def char : Piece → Char
  | guarded c => c
  | plain c => c

/-- The piece that an escape makes of a character. -/
def ofChar (c : Char) : Piece := if c ∈ special then guarded c else plain c

theorem char_ofChar (c : Char) : (ofChar c).char = c := by
  rw [ofChar]
  split <;> rfl

end Piece

/-- The pieces of a text, from left to right. -/
def pieces : List Char → List Piece
  | [] => []
  | '\\' :: c :: s =>
    if c ∈ special then .guarded c :: pieces s else .plain '\\' :: pieces (c :: s)
  | c :: s => .plain c :: pieces s

/-- The text without the backslashes of its guarded characters. -/
def bare (e : List Char) : List Char := (pieces e).map Piece.char

/-- No special character stands for itself. -/
def Guarded (e : List Char) : Prop := ∀ c, .plain c ∈ pieces e → c ∉ special

def entities : List (List Char) := ["&amp;".toList, "&lt;".toList, "&gt;".toList]

/-- Wherever there is an ampersand, an entity begins. -/
def AmpersandsBegin (e : List Char) : Prop :=
  ∀ v, '&' :: v <:+ e → ∃ name ∈ entities, name <+: '&' :: v

/-- A text in which entities are all there is of markup. -/
structure MarkupFree (e : List Char) : Prop where
  noLess : '<' ∉ e
  noGreater : '>' ∉ e
  ampersands : AmpersandsBegin e

/-- A text with neither markup nor markdown in it. -/
structure Safe (e : List Char) : Prop extends MarkupFree e where
  guarded : Guarded e

/-! ## Backslashes -/

theorem backslash_mem_special : '\\' ∈ special := by decide

theorem ne_backslash {c : Char} (hc : c ∉ special) : c ≠ '\\' :=
  (ne_of_mem_of_not_mem backslash_mem_special hc).symm

theorem pieces_cons {c : Char} (hc : c ≠ '\\') (s : List Char) :
    pieces (c :: s) = .plain c :: pieces s := by
  cases s with
  | nil => simp [pieces]
  | cons d s => simp [pieces, hc]

theorem pieces_guardChar_append (c : Char) (s : List Char) :
    pieces (guardChar c ++ s) = .ofChar c :: pieces s := by
  rw [guardChar, Piece.ofChar]
  split
  · rename_i hc
    simp [pieces, hc]
  · rename_i hc
    exact pieces_cons (ne_backslash hc) s

theorem withBackslashes_cons (c : Char) (s : List Char) :
    withBackslashes (c :: s) = guardChar c ++ withBackslashes s := List.flatMap_cons

theorem pieces_withBackslashes (t : List Char) :
    pieces (withBackslashes t) = t.map Piece.ofChar := by
  induction t with
  | nil => rfl
  | cons c t ih => rw [withBackslashes_cons, pieces_guardChar_append, ih, List.map_cons]

theorem bare_withBackslashes (t : List Char) : bare (withBackslashes t) = t := by
  rw [bare, pieces_withBackslashes, List.map_map]
  exact List.map_id'' Piece.char_ofChar t

theorem guarded_withBackslashes (t : List Char) : Guarded (withBackslashes t) := by
  intro c hc
  rw [pieces_withBackslashes] at hc
  obtain ⟨d, -, hd⟩ := List.mem_map.1 hc
  rw [Piece.ofChar] at hd
  split at hd
  · cases hd
  · rename_i hplain
    cases hd
    exact hplain

/-- Taking backslashes away and putting them back gives a guarded text again. -/
theorem withBackslashes_bare {e : List Char} (h : Guarded e) : withBackslashes (bare e) = e := by
  induction e using pieces.induct with
  | case1 => rfl
  | case2 c s hc ih =>
    have hpieces : pieces ('\\' :: c :: s) = .guarded c :: pieces s := by rw [pieces, if_pos hc]
    have hs : Guarded s := by
      intro d hd
      exact h d (hpieces ▸ List.mem_cons_of_mem _ hd)
    have ih : withBackslashes ((pieces s).map Piece.char) = s := ih hs
    rw [bare, hpieces, List.map_cons, Piece.char, withBackslashes_cons, guardChar, if_pos hc, ih]
    rfl
  | case3 c s hc ih =>
    have hplain : .plain '\\' ∈ pieces ('\\' :: c :: s) := by
      rw [pieces, if_neg hc]
      exact List.mem_cons_self
    exact absurd backslash_mem_special (h '\\' hplain)
  | case4 c s hne ih =>
    have hpieces : pieces (c :: s) = .plain c :: pieces s := by rw [pieces]; exact hne
    have hc : c ∉ special := h c (hpieces ▸ List.mem_cons_self)
    have hs : Guarded s := by
      intro d hd
      exact h d (hpieces ▸ List.mem_cons_of_mem _ hd)
    have ih : withBackslashes ((pieces s).map Piece.char) = s := ih hs
    rw [bare, hpieces, List.map_cons, Piece.char, withBackslashes_cons, guardChar, if_neg hc, ih]
    rfl

theorem withBackslashes_eq_iff (t e : List Char) :
    withBackslashes t = e ↔ Guarded e ∧ bare e = t := by
  constructor
  · rintro rfl
    exact ⟨guarded_withBackslashes t, bare_withBackslashes t⟩
  · rintro ⟨h, rfl⟩
    exact withBackslashes_bare h

/-! ## Entities -/

theorem withEntities_cons (c : Char) (s : List Char) :
    withEntities (c :: s) = entity c ++ withEntities s := List.flatMap_cons

theorem entity_of_ne {c : Char} (hamp : c ≠ '&') (hless : c ≠ '<') (hgreater : c ≠ '>') :
    entity c = [c] := by
  rw [entity] <;> assumption

theorem readEntities_cons {c : Char} (hc : c ≠ '&') (s : List Char) :
    readEntities (c :: s) = c :: readEntities s := by
  rw [readEntities] <;> simp [hc]

/-- An entity and its character, or a character that needs none. -/
theorem entity_cases (c : Char) :
    (entity c ∈ entities ∧ ∀ s, readEntities (entity c ++ s) = c :: readEntities s) ∨
      (entity c = [c] ∧ c ≠ '&' ∧ c ≠ '<' ∧ c ≠ '>') := by
  by_cases hamp : c = '&'
  · subst hamp
    exact .inl ⟨by decide, fun s => rfl⟩
  by_cases hless : c = '<'
  · subst hless
    exact .inl ⟨by decide, fun s => rfl⟩
  by_cases hgreater : c = '>'
  · subst hgreater
    exact .inl ⟨by decide, fun s => rfl⟩
  exact .inr ⟨entity_of_ne hamp hless hgreater, hamp, hless, hgreater⟩

theorem readEntities_withEntities (s : List Char) : readEntities (withEntities s) = s := by
  induction s with
  | nil => rfl
  | cons c s ih =>
    rw [withEntities_cons]
    rcases entity_cases c with ⟨-, hread⟩ | ⟨hself, hamp, -, -⟩
    · rw [hread, ih]
    · rw [hself, List.singleton_append, readEntities_cons hamp, ih]

theorem mem_entities_iff (name : List Char) :
    name ∈ entities ↔ name = "&amp;".toList ∨ name = "&lt;".toList ∨ name = "&gt;".toList := by
  simp [entities]

/-- The ampersand of an entity is its first character and no other. -/
theorem entities_shape {name : List Char} (h : name ∈ entities) :
    ∃ x, name = '&' :: x ∧ '&' ∉ x ∧ '<' ∉ x ∧ '>' ∉ x := by
  rcases (mem_entities_iff name).1 h with rfl | rfl | rfl
  · exact ⟨"amp;".toList, rfl, by decide, by decide, by decide⟩
  · exact ⟨"lt;".toList, rfl, by decide, by decide, by decide⟩
  · exact ⟨"gt;".toList, rfl, by decide, by decide, by decide⟩

namespace AmpersandsBegin

theorem append {t : List Char} (h : AmpersandsBegin t) {x : List Char} (hx : '&' ∉ x) :
    AmpersandsBegin (x ++ t) := by
  induction x with
  | nil => exact h
  | cons c x ih =>
    rw [List.mem_cons, not_or] at hx
    intro v hv
    rcases List.suffix_cons_iff.1 hv with heq | hv
    · exact absurd (List.cons.inj heq).1 hx.1
    · exact ih hx.2 v hv

theorem entity_append {t : List Char} (h : AmpersandsBegin t) {name : List Char}
    (hname : name ∈ entities) : AmpersandsBegin (name ++ t) := by
  obtain ⟨x, rfl, hx, -⟩ := entities_shape hname
  intro v hv
  rcases List.suffix_cons_iff.1 hv with heq | hv
  · exact ⟨_, hname, heq ▸ List.prefix_append _ _⟩
  · exact h.append hx v hv

theorem of_append {x t : List Char} (h : AmpersandsBegin (x ++ t)) : AmpersandsBegin t :=
  fun v hv => h v (hv.trans (List.suffix_append x t))

end AmpersandsBegin

namespace MarkupFree

theorem of_append {x t : List Char} (h : MarkupFree (x ++ t)) : MarkupFree t where
  noLess hmem := h.noLess (List.mem_append_right x hmem)
  noGreater hmem := h.noGreater (List.mem_append_right x hmem)
  ampersands := h.ampersands.of_append

end MarkupFree

theorem markupFree_withEntities (s : List Char) : MarkupFree (withEntities s) := by
  induction s with
  | nil =>
    refine ⟨List.not_mem_nil, List.not_mem_nil, ?_⟩
    intro v hv
    cases List.suffix_nil.1 hv
  | cons c s ih =>
    rw [withEntities_cons]
    rcases entity_cases c with ⟨hname, -⟩ | ⟨hself, hamp, hless, hgreater⟩
    · obtain ⟨x, hx, -, hless, hgreater⟩ := entities_shape hname
      refine ⟨?_, ?_, ih.ampersands.entity_append hname⟩
      · simp [hx, hless, ih.noLess]
      · simp [hx, hgreater, ih.noGreater]
    · rw [hself]
      refine ⟨?_, ?_, ih.ampersands.append (by simpa using hamp.symm)⟩
      · simp [hless.symm, ih.noLess]
      · simp [hgreater.symm, ih.noGreater]

/-- Reading the entities and writing them again gives a text without other markup again. -/
theorem withEntities_readEntities {t : List Char} (h : MarkupFree t) :
    withEntities (readEntities t) = t := by
  induction t using readEntities.induct with
  | case1 => rfl
  | case2 s ih =>
    have hs : MarkupFree s := h.of_append (x := "&amp;".toList)
    rw [readEntities, withEntities_cons, ih hs]
    rfl
  | case3 s ih =>
    have hs : MarkupFree s := h.of_append (x := "&lt;".toList)
    rw [readEntities, withEntities_cons, ih hs]
    rfl
  | case4 s ih =>
    have hs : MarkupFree s := h.of_append (x := "&gt;".toList)
    rw [readEntities, withEntities_cons, ih hs]
    rfl
  | case5 c s hnoAmp hnoLess hnoGreater ih =>
    have hc : c ≠ '&' := by
      rintro rfl
      obtain ⟨name, hname, rest, hrest⟩ := h.ampersands s List.suffix_rfl
      rcases (mem_entities_iff name).1 hname with rfl | rfl | rfl
      · exact hnoAmp rest rfl (List.cons.inj hrest).2.symm
      · exact hnoLess rest rfl (List.cons.inj hrest).2.symm
      · exact hnoGreater rest rfl (List.cons.inj hrest).2.symm
    have hless : c ≠ '<' := fun heq => h.noLess (heq ▸ List.mem_cons_self)
    have hgreater : c ≠ '>' := fun heq => h.noGreater (heq ▸ List.mem_cons_self)
    have hs : MarkupFree s := h.of_append (x := [c])
    rw [readEntities_cons hc, withEntities_cons, ih hs, entity_of_ne hc hless hgreater]
    rfl

theorem withEntities_eq_iff (s t : List Char) :
    withEntities s = t ↔ MarkupFree t ∧ readEntities t = s := by
  constructor
  · rintro rfl
    exact ⟨markupFree_withEntities s, readEntities_withEntities s⟩
  · rintro ⟨h, rfl⟩
    exact withEntities_readEntities h

/-! ## One escape in the other -/

/-- A character that is not special stands where it stood before. -/
theorem cons_suffix_withBackslashes_iff {c : Char} (hc : c ∉ special) (v t : List Char) :
    c :: v <:+ withBackslashes t ↔ ∃ w, c :: w <:+ t ∧ v = withBackslashes w := by
  induction t with
  | nil => simp [withBackslashes]
  | cons d t ih =>
    have hsplit : (∃ w, c :: w <:+ d :: t ∧ v = withBackslashes w) ↔
        (c = d ∧ v = withBackslashes t) ∨ ∃ w, c :: w <:+ t ∧ v = withBackslashes w := by
      simp only [List.suffix_cons_iff, List.cons.injEq, or_and_right, exists_or]
      simp
    rw [hsplit, ← ih, withBackslashes_cons, guardChar]
    split
    · rename_i hd
      -- Neither a backslash nor the character behind it is the one that is looked for.
      have hne : c ≠ d := (ne_of_mem_of_not_mem hd hc).symm
      simp [List.suffix_cons_iff, ne_backslash hc, hne]
    · simp [List.suffix_cons_iff]

theorem prefix_withBackslashes_iff {x : List Char} (hx : ∀ c ∈ x, c ∉ special) (t : List Char) :
    x <+: withBackslashes t ↔ x <+: t := by
  induction x generalizing t with
  | nil => simp
  | cons c x ih =>
    have hc := hx c List.mem_cons_self
    have ih := ih fun d hd => hx d (List.mem_cons_of_mem c hd)
    cases t with
    | nil => rfl
    | cons d t =>
      rw [withBackslashes_cons, guardChar]
      split
      · rename_i hd
        have hne : c ≠ d := (ne_of_mem_of_not_mem hd hc).symm
        simp [ne_backslash hc, hne]
      · simp [ih]

theorem ampersandsBegin_withBackslashes_iff (t : List Char) :
    AmpersandsBegin (withBackslashes t) ↔ AmpersandsBegin t := by
  have hamp : '&' ∉ special := by decide
  have hnames : ∀ name ∈ entities, ∀ c ∈ name, c ∉ special := by
    intro name hname
    rcases (mem_entities_iff name).1 hname with rfl | rfl | rfl <;> simp [special]
  -- An ampersand and what is behind it are taken over to the other text as a whole.
  have hbegin : ∀ w, (∃ name ∈ entities, name <+: '&' :: withBackslashes w) ↔
      ∃ name ∈ entities, name <+: '&' :: w := by
    intro w
    have hcons : '&' :: withBackslashes w = withBackslashes ('&' :: w) := rfl
    rw [hcons]
    exact exists_congr fun name => and_congr_right fun hname =>
      prefix_withBackslashes_iff (hnames name hname) _
  constructor
  · intro h w hw
    exact (hbegin w).1 (h _ ((cons_suffix_withBackslashes_iff hamp _ t).2 ⟨w, hw, rfl⟩))
  · intro h v hv
    obtain ⟨w, hw, rfl⟩ := (cons_suffix_withBackslashes_iff hamp v t).1 hv
    exact (hbegin w).2 (h w hw)

theorem mem_withBackslashes_iff {c : Char} (hc : c ∉ special) (t : List Char) :
    c ∈ withBackslashes t ↔ c ∈ t := by
  have hguard : ∀ d, c ∈ guardChar d ↔ c = d := by
    intro d
    rw [guardChar]
    split
    · simp [ne_backslash hc]
    · exact List.mem_singleton
  simp [withBackslashes, hguard]

theorem markupFree_withBackslashes_iff (t : List Char) :
    MarkupFree (withBackslashes t) ↔ MarkupFree t := by
  have hless : '<' ∉ special := by decide
  have hgreater : '>' ∉ special := by decide
  constructor
  · intro h
    refine ⟨?_, ?_, (ampersandsBegin_withBackslashes_iff t).1 h.ampersands⟩
    · rw [← mem_withBackslashes_iff hless]
      exact h.noLess
    · rw [← mem_withBackslashes_iff hgreater]
      exact h.noGreater
  · intro h
    refine ⟨?_, ?_, (ampersandsBegin_withBackslashes_iff t).2 h.ampersands⟩
    · rw [mem_withBackslashes_iff hless]
      exact h.noLess
    · rw [mem_withBackslashes_iff hgreater]
      exact h.noGreater

/-! ## Both escapes -/

/-- The escape of a phrase is the safe text that is read back as the phrase. -/
theorem escape_eq_iff (s e : List Char) : escape s = e ↔ Safe e ∧ readEntities (bare e) = s := by
  rw [escape, withBackslashes_eq_iff]
  constructor
  · rintro ⟨hguarded, hbare⟩
    obtain ⟨hfree, hread⟩ := (withEntities_eq_iff s (bare e)).1 hbare.symm
    rw [← markupFree_withBackslashes_iff, withBackslashes_bare hguarded] at hfree
    exact ⟨{ hfree with guarded := hguarded }, hread⟩
  · rintro ⟨hsafe, hread⟩
    have hfree : MarkupFree (bare e) := by
      rw [← markupFree_withBackslashes_iff, withBackslashes_bare hsafe.guarded]
      exact hsafe.toMarkupFree
    exact ⟨hsafe.guarded, ((withEntities_eq_iff s (bare e)).2 ⟨hfree, hread⟩).symm⟩

theorem escape_inj {s t : List Char} : escape s = escape t ↔ s = t := by
  constructor
  · intro h
    obtain ⟨-, hs⟩ := (escape_eq_iff s _).1 rfl
    obtain ⟨-, ht⟩ := (escape_eq_iff t _).1 rfl
    rw [← hs, ← ht, h]
  · rintro rfl
    rfl

theorem toList_line (x : String) : (line x).toList = '-' :: ' ' :: escape x.toList := by
  simp [line]

theorem line_inj {x y : String} : line x = line y ↔ x = y := by
  rw [← String.toList_inj, toList_line, toList_line, List.cons_inj_right, List.cons_inj_right,
    escape_inj, String.toList_inj]

/-- The reader of escapes does not have to know which characters are special. -/
theorem dropBackslashes_withBackslashes (t : List Char) :
    dropBackslashes (withBackslashes t) = t := by
  induction t with
  | nil => rfl
  | cons c t ih =>
    rw [withBackslashes_cons, guardChar]
    split
    · rw [List.cons_append, List.singleton_append, dropBackslashes, ih]
    · rename_i hc
      rw [List.singleton_append, dropBackslashes, ih]
      intro d s heq
      exact absurd heq (ne_backslash hc)

theorem unescape_escape (s : List Char) : unescape (escape s) = s := by
  rw [unescape, escape, dropBackslashes_withBackslashes, readEntities_withEntities]

/-- **Escaped phrases are safe, and nothing of a phrase is lost.** An escape has no angle bracket, an
ampersand only where an entity begins and a special character only behind a backslash; without those
backslashes, and with its entities read, it is the phrase again. Every text that is safe is the escape
of some phrase. -/
theorem escape_safe (x : String) :
    Safe (escape x.toList) ∧ readEntities (bare (escape x.toList)) = x.toList ∧
      unescape (escape x.toList) = x.toList ∧ (∀ y, line y = line x ↔ y = x) ∧
      ∀ e, Safe e ↔ ∃ y : String, escape y.toList = e := by
  obtain ⟨hsafe, hread⟩ := (escape_eq_iff x.toList _).1 rfl
  refine ⟨hsafe, hread, unescape_escape x.toList, fun y => line_inj, ?_⟩
  intro e
  constructor
  · intro he
    refine ⟨String.ofList (readEntities (bare e)), ?_⟩
    rw [String.toList_ofList]
    exact (escape_eq_iff _ e).2 ⟨he, rfl⟩
  · rintro ⟨y, hy⟩
    exact ((escape_eq_iff y.toList e).1 hy).1

-- What looks escaped already is escaped once more.
example : escape "&lt;\\*".toList = "&amp;lt;\\\\\\*".toList := by rfl

end Markdown

end Phrasebook
