import Phrasebook.Proofs.Search

/-!
# Phrasebook.Proofs.Symmetry

Two changes of a pattern and a phrase that no verdict notices.

* Letter case. `Letter.Alike` is an equivalence in which the star is alone (`equivalence_alike`), so
  alike texts are cut into alike parts and alike patterns find alike phrases (`finds_congr`). No
  coarser relation would do: the characters that are not alike are told apart by the patterns made of
  one of them (`alike_iff_finds`).
* Direction. A pattern read backwards finds the phrases read backwards (`finds_reverse_iff`).

`Matcher.verdict` makes a matcher and tests one phrase with it; whole verdicts are what stays the same
(`verdict_alike`, `verdict_reversed`).
-/

namespace Phrasebook

namespace Pattern

/-! ## Letter case -/

theorem equivalence_alike : Equivalence Letter.Alike where
  refl c := alike_refl c
  symm h := by
    rw [Letter.alike_iff_fold] at h ⊢
    exact h.symm
  trans h h' := by
    rw [Letter.alike_iff_fold] at h h' ⊢
    exact h.trans h'

/-- Texts that spell each other have one fold. -/
theorem spells_iff_fold (s t : List Char) : Spells s t ↔ s.map Letter.fold = t.map Letter.fold := by
  have hfold : Letter.Alike = fun c d => Letter.fold c = Letter.fold d := by
    funext c d
    exact propext (Letter.alike_iff_fold c d)
  rw [Spells, hfold, ← List.forall₂_eq_eq_eq, List.forall₂_map_left_iff, List.forall₂_map_right_iff]

theorem spells_symm {s t : List Char} (h : Spells s t) : Spells t s := by
  rw [spells_iff_fold] at h ⊢
  exact h.symm

theorem spells_trans {s t u : List Char} (h : Spells s t) (h' : Spells t u) : Spells s u := by
  rw [spells_iff_fold] at h h' ⊢
  exact h.trans h'

theorem exists_append_of_spells {x y s : List Char} (h : Spells (x ++ y) s) :
    ∃ x' y', s = x' ++ y' ∧ Spells x x' ∧ Spells y y' := by
  rw [spells_iff_fold, List.map_append] at h
  obtain ⟨x', y', rfl, hx, hy⟩ := List.map_eq_append_iff.1 h.symm
  exact ⟨x', y', rfl, (spells_iff_fold _ _).2 hx.symm, (spells_iff_fold _ _).2 hy.symm⟩

theorem eq_star_iff_of_alike {c d : Char} (h : Letter.Alike c d) : c = star ↔ d = star := by
  constructor
  · rintro rfl
    exact Letter.alike_star.1 (equivalence_alike.symm h)
  · rintro rfl
    exact Letter.alike_star.1 h

theorem star_mem_iff_of_spells {p p' : List Char} (h : Spells p p') : star ∈ p ↔ star ∈ p' := by
  induction h with
  | nil => rfl
  | cons hc _ ih =>
    rw [List.mem_cons, List.mem_cons, ih, eq_comm, eq_star_iff_of_alike hc, eq_comm]

theorem fits_congr {p p' s s' : List Char} (hp : Spells p p') (hs : Spells s s')
    (h : Fits (p.splitOn star) s) : Fits (p'.splitOn star) s' := by
  induction hp generalizing s s' with
  | nil =>
    obtain rfl := (fits_splitOn_nil_iff s).1 h
    exact (fits_splitOn_nil_iff s').2 (List.forall₂_nil_left_iff.1 hs)
  | @cons c c' p p' hc _ ih =>
    by_cases hstar : c = star
    · obtain rfl := (eq_star_iff_of_alike hc).1 hstar
      subst hstar
      obtain ⟨g, q, rfl, hq⟩ := (fits_star_cons_iff p s).1 h
      obtain ⟨g', q', rfl, -, hqq'⟩ := exists_append_of_spells hs
      exact (fits_star_cons_iff p' _).2 ⟨g', q', rfl, ih hqq' hq⟩
    · have hstar' := mt (eq_star_iff_of_alike hc).2 hstar
      obtain ⟨d, q, rfl, hd, hq⟩ := (fits_cons_iff hstar p s).1 h
      cases hs with
      | cons hdd' hqq' =>
        have hcd := equivalence_alike.trans hd hdd'
        have hcd' := equivalence_alike.trans (equivalence_alike.symm hc) hcd
        exact (fits_cons_iff hstar' p' _).2 ⟨_, _, rfl, hcd', ih hqq' hq⟩

theorem finds_congr {p p' s s' : List Char} (hp : Spells p p') (hs : Spells s s')
    (h : Finds p s) : Finds p' s' := by
  by_cases hstar : star ∈ p
  · rw [finds_of_mem hstar] at h
    rw [finds_of_mem ((star_mem_iff_of_spells hp).1 hstar)]
    exact fits_congr hp hs h
  · rw [finds_of_not_mem hstar] at h
    rw [finds_of_not_mem (mt (star_mem_iff_of_spells hp).2 hstar)]
    obtain ⟨x, t, y, ht, rfl⟩ := h
    obtain ⟨_, y', rfl, hs, -⟩ := exists_append_of_spells hs
    obtain ⟨x', t', rfl, -, htt'⟩ := exists_append_of_spells hs
    exact ⟨x', t', y', spells_trans (spells_symm hp) (spells_trans ht htt'), rfl⟩

theorem finds_congr_iff {p p' s s' : List Char} (hp : Spells p p') (hs : Spells s s') :
    Finds p s ↔ Finds p' s' := by
  constructor
  · exact finds_congr hp hs
  · exact finds_congr (spells_symm hp) (spells_symm hs)

theorem finds_singleton_iff {c : Char} (hc : c ≠ star) (s : List Char) :
    Finds [c] s ↔ ∃ d ∈ s, Letter.Alike c d := by
  rw [finds_of_not_mem (by simpa using hc.symm)]
  constructor
  · intro h
    obtain ⟨x, t, y, ht, rfl⟩ := h
    cases ht with
    | @cons _ d _ _ hd _ => exact ⟨d, by simp, hd⟩
  · intro h
    obtain ⟨d, hd, halike⟩ := h
    obtain ⟨x, y, rfl⟩ := List.append_of_mem hd
    exact ⟨x, [d], y, .cons halike .nil, by simp⟩

theorem alike_iff_finds (c d : Char) :
    Letter.Alike c d ↔ ∀ s, Finds [c] s ↔ Finds [d] s := by
  constructor
  · intro h s
    exact finds_congr_iff (.cons h .nil) (spells_refl s)
  · intro h
    by_cases hc : c = star
    · by_cases hd : d = star
      · rw [hc, hd]
        exact alike_refl star
      · -- A star finds a phrase without characters.
        have := (h []).1 (hc ▸ finds_stars 1 [])
        simp [finds_singleton_iff hd] at this
    · by_cases hd : d = star
      · have := (h []).2 (hd ▸ finds_stars 1 [])
        simp [finds_singleton_iff hc] at this
      · have := (h [c]).1 (finds_self [c])
        rw [finds_singleton_iff hd] at this
        exact equivalence_alike.symm (by simpa using this)

end Pattern

/-! ## Verdicts -/

open Pattern (Finds FreeStart FreeEnd Spells)

/-- A text read from its end. -/
def reversed (s : String) : String := String.ofList s.toList.reverse

namespace Matcher

/-- The verdict of a pattern on a phrase. -/
def verdict (pattern phrase : Value) : Except Fault Bool :=
  match compile pattern with
  | .error e => .error e
  | .ok m => m.accepts phrase

theorem compile_text (p : String) : compile (.text p) = .ok (ofText p) := by
  rw [compile, ofText]
  by_cases hp : p = ""
  · simp [Value.isNothing, hp]
  · simp [Value.isNothing, hp]

theorem verdict_text (p s : String) :
    verdict (.text p) (.text s) = .ok (decide (Finds p.toList s.toList)) := by
  have haccepts : (ofText p).acceptsText s = decide (Finds p.toList s.toList) := by
    rw [Bool.eq_iff_iff, acceptsText_ofText_iff, decide_eq_true_iff]
  rw [verdict, compile_text, ← haccepts]
  cases ofText p <;> rfl

/-- **A verdict does not depend on letter case.** Patterns and phrases that are alike character by
character have one verdict, and characters are alike exactly if no phrase tells the patterns made of
them apart. -/
theorem verdict_alike :
    (∀ p p' s s' : String, Spells p.toList p'.toList → Spells s.toList s'.toList →
      verdict (.text p) (.text s) = .ok (decide (Finds p.toList s.toList)) ∧
      verdict (.text p') (.text s') = .ok (decide (Finds p.toList s.toList))) ∧
    ∀ c d : Char, Letter.Alike c d ↔ ∀ s : String,
      verdict (.text (String.ofList [c])) (.text s) =
        verdict (.text (String.ofList [d])) (.text s) := by
  constructor
  · intro p p' s s' hp hs
    rw [verdict_text, verdict_text, decide_eq_decide.2 (Pattern.finds_congr_iff hp hs)]
    exact ⟨rfl, rfl⟩
  · intro c d
    simp only [verdict_text, Except.ok.injEq, decide_eq_decide, String.toList_ofList]
    rw [Pattern.alike_iff_finds]
    constructor
    · intro h s
      exact h s.toList
    · intro h s
      have := h (String.ofList s)
      rwa [String.toList_ofList] at this

/-- The long s, the Kelvin sign, the i with a dot and without, and the last sigma of a word. -/
theorem verdict_alike_letters : Spells "sk*iσ".toList "ſK*ıς".toList ∧
    Spells "SK-İΣ".toList "ſk-iς".toList ∧
    verdict (.text "sk*iσ") (.text "SK-İΣ") = .ok true ∧
    verdict (.text "ſK*ıς") (.text "ſk-iς") = .ok true := by
  have hp : Spells "sk*iσ".toList "ſK*ıς".toList :=
    (Pattern.spells_iff_fold _ _).2 (by decide +kernel)
  have hs : Spells "SK-İΣ".toList "ſk-iς".toList :=
    (Pattern.spells_iff_fold _ _).2 (by decide +kernel)
  have hfinds : Finds "sk*iσ".toList "SK-İΣ".toList := by decide +kernel
  obtain ⟨hverdict, hverdict'⟩ := verdict_alike.1 _ _ _ _ hp hs
  rw [decide_eq_true hfinds] at hverdict hverdict'
  exact ⟨hp, hs, hverdict, hverdict'⟩

/-- **A verdict stays the same when the pattern and the phrase are read backwards,** so what a pattern
says of the end of a phrase is what its mirror image says of the start. -/
theorem verdict_reversed (p s : String) :
    verdict (.text p) (.text s) = .ok (decide (Finds p.toList s.toList)) ∧
    verdict (.text (reversed p)) (.text (reversed s)) = .ok (decide (Finds p.toList s.toList)) ∧
    (FreeEnd p.toList ↔ FreeStart (reversed p).toList) := by
  have hfinds := Pattern.finds_reverse_iff p.toList s.toList
  refine ⟨verdict_text p s, ?_, ?_⟩
  · rw [verdict_text, reversed, reversed, String.toList_ofList, String.toList_ofList,
      decide_eq_decide.2 hfinds]
  · rw [reversed, String.toList_ofList, Pattern.freeEnd_iff_freeStart_reverse]

end Matcher

end Phrasebook
