import Phrasebook.Proofs.Search

/-!
# Phrasebook.Proofs.Narrowing

How the results of a query change when more is written into it.

* `narrows_iff`: texts around a pattern never bring in a phrase exactly if the pattern leaves both
  ends of a phrase free, as every pattern without a star does.
* `widens_iff`: a star put into a pattern never loses a phrase exactly if the pattern has a star
  already, or is nothing at all.
* `unchanged_iff`: in a pattern with a star a new one makes no difference exactly if it stands beside
  one. The phrase that shows a difference is the pattern with the new star. It has no more literals
  than the pattern without it has to meet, and a star where two of them have to be neighbours.

Bringing digits into Western form keeps stars where they are, so these are facts about queries
(`search_refined`, `search_widened`).
-/

namespace Phrasebook

namespace Pattern

/-! ## Texts around a pattern -/

theorem fits_of_not_mem_iff {p : List Char} (hp : star ∉ p) (s : List Char) :
    Fits (p.splitOn star) s ↔ Spells p s := by
  rw [List.splitOn_eq_singleton hp, fits_singleton_iff]

theorem finds_of_fits {p s : List Char} (h : Fits (p.splitOn star) s) : Finds p s := by
  by_cases hp : star ∈ p
  · exact (finds_of_mem hp s).2 h
  · exact (finds_of_not_mem hp s).2 ⟨[], s, [], (fits_of_not_mem_iff hp s).1 h, by simp⟩

/-- A phrase is found only if the pattern fits a part of it. -/
theorem exists_fits_of_finds {p s : List Char} (h : Finds p s) :
    ∃ x q y, s = x ++ q ++ y ∧ Fits (p.splitOn star) q := by
  by_cases hp : star ∈ p
  · exact ⟨[], s, [], by simp, (finds_of_mem hp s).1 h⟩
  · obtain ⟨x, t, y, ht, rfl⟩ := (finds_of_not_mem hp s).1 h
    exact ⟨x, t, y, rfl, (fits_of_not_mem_iff hp t).2 ht⟩

theorem free_of_not_mem {p : List Char} (hp : star ∉ p) : FreeStart p ∧ FreeEnd p := by
  rw [freeStart_iff, freeEnd_iff]
  exact ⟨fun h => absurd h hp, fun h => absurd h hp⟩

theorem narrows_iff (p : List Char) :
    (∀ u w s, Finds (u ++ p ++ w) s → Finds p s) ↔ FreeStart p ∧ FreeEnd p := by
  constructor
  · intro h
    by_cases hp : star ∈ p
    · -- A text in front of the pattern finds itself in front of the phrase.
      constructor
      · intro x s hs
        have hfits := (fits_append_iff x p _).2 ⟨x, s, rfl, fits_self x, (finds_of_mem hp s).1 hs⟩
        exact h x [] _ (finds_of_fits (by rwa [List.append_nil]))
      · intro x s hs
        have hfits := (fits_append_iff p x _).2 ⟨s, x, rfl, (finds_of_mem hp s).1 hs, fits_self x⟩
        exact h [] x _ (finds_of_fits (by rwa [List.nil_append]))
    · exact free_of_not_mem hp
  · intro hfree u w s h
    obtain ⟨hstart, hend⟩ := hfree
    obtain ⟨x, _, y, rfl, hq⟩ := exists_fits_of_finds h
    obtain ⟨_, b, rfl, hq, -⟩ := (fits_append_iff (u ++ p) w _).1 hq
    obtain ⟨a, t, rfl, -, ht⟩ := (fits_append_iff u p _).1 hq
    have hfound := hend (b ++ y) _ (hstart (x ++ a) t (finds_of_fits ht))
    simpa using hfound

/-! ## One star more -/

theorem eq_nil_of_head? {u v : List Char} (hu : star ∉ u)
    (h : (u ++ star :: v).head? = some star) : u = [] := by
  cases u with
  | nil => rfl
  | cons c u =>
    have hc : c = star := by simpa using h
    simp [hc] at hu

theorem eq_nil_of_getLast? {u v : List Char} (hv : star ∉ v)
    (h : (u ++ star :: v).getLast? = some star) : v = [] := by
  rw [← List.head?_reverse, List.reverse_append, List.reverse_cons, List.append_assoc,
    List.singleton_append] at h
  exact List.reverse_eq_nil_iff.1 (eq_nil_of_head? (by simpa using hv) h)

theorem widens_iff (u v : List Char) :
    (∀ s, Finds (u ++ v) s → Finds (u ++ star :: v) s) ↔ star ∈ u ++ v ∨ u ++ v = [] := by
  constructor
  · intro h
    by_cases hstar : star ∈ u ++ v
    · exact .inl hstar
    · -- Both ends are free, so they have to be free with the new star as well.
      have hfits (s : List Char) (hs : Finds (u ++ v) s) :
          Fits ((u ++ star :: v).splitOn star) s := (finds_of_mem (by simp) s).1 (h s hs)
      obtain ⟨hstart, hend⟩ := free_of_not_mem hstar
      have hhead := head?_of_fits (hfits _ (hstart [star] _ (finds_self (u ++ v))))
      have hlast := getLast?_of_fits (hfits _ (hend [star] _ (finds_self (u ++ v))))
      rw [List.mem_append, not_or] at hstar
      right
      rw [eq_nil_of_head? hstar.1 hhead, eq_nil_of_getLast? hstar.2 hlast, List.append_nil]
  · intro hcases s h
    rcases hcases with hstar | hnil
    · rw [finds_of_mem hstar] at h
      obtain ⟨r, q, rfl, hr, hq⟩ := (fits_append_iff u v s).1 h
      exact (finds_star_iff u v _).2 ⟨r, [], q, by simp, hr, hq⟩
    · obtain ⟨rfl, rfl⟩ := List.append_eq_nil_iff.1 hnil
      exact finds_stars 1 s

/-! ## Stars side by side -/

/-- The number of characters that are no stars. -/
def literals (s : List Char) : Nat := s.countP (· ≠ star)

theorem literals_append (s t : List Char) : literals (s ++ t) = literals s + literals t :=
  List.countP_append

theorem literals_star_cons (s : List Char) : literals (star :: s) = literals s := by
  simp [literals]

theorem literals_cons {c : Char} (hc : c ≠ star) (s : List Char) :
    literals (c :: s) = literals s + 1 := by
  simp [literals, hc]

/-- Every literal of a pattern is met by a character of its own that is no star. -/
theorem literals_le_of_fits {p s : List Char} (h : Fits (p.splitOn star) s) :
    literals p ≤ literals s := by
  induction p generalizing s with
  | nil => simp [literals]
  | cons c p ih =>
    by_cases hc : c = star
    · subst hc
      obtain ⟨g, q, rfl, hq⟩ := (fits_star_cons_iff p s).1 h
      have := ih hq
      rw [literals_star_cons, literals_append]
      omega
    · obtain ⟨d, q, rfl, hd, hq⟩ := (fits_cons_iff hc p s).1 h
      have hd : d ≠ star := by
        rintro rfl
        exact hc (Letter.alike_star.1 hd)
      have := ih hq
      rw [literals_cons hc, literals_cons hd]
      omega

/-- A pattern that fits the first part of itself has nothing but stars behind it. -/
theorem eq_star_of_fits {r b : List Char} (h : Fits ((r ++ b).splitOn star) r) :
    ∀ c ∈ b, c = star := by
  have hle := literals_le_of_fits h
  rw [literals_append] at hle
  have hzero : literals b = 0 := by omega
  simpa [literals] using hzero

theorem head?_of_fits_append {r b v x : List Char} (hr : Fits ((r ++ b).splitOn star) r)
    (hv : Fits (v.splitOn star) (b ++ star :: x)) : v.head? = some star := by
  have hstars := eq_star_of_fits hr
  cases b with
  | nil => exact head?_of_fits hv
  | cons c b =>
    obtain rfl := hstars c List.mem_cons_self
    exact head?_of_fits hv

/-- A star between the two patterns would stand beside another star. -/
def Beside (u v : List Char) : Prop := u.getLast? = some star ∨ v.head? = some star

theorem beside_of_fits {u v : List Char} (h : Fits ((u ++ v).splitOn star) (u ++ star :: v)) :
    Beside u v := by
  obtain ⟨r, q, hs, hr, hq⟩ := (fits_append_iff u v _).1 h
  -- The phrase is cut between what the two patterns fit, before its star or behind it.
  rcases List.append_eq_append_iff.1 hs with ⟨a, rfl, ha⟩ | ⟨b, rfl, rfl⟩
  · cases a with
    | nil =>
      rw [List.nil_append] at ha
      exact .inr (head?_of_fits (ha ▸ hq))
    | cons c a =>
      obtain ⟨rfl, rfl⟩ := List.cons_eq_cons.1 ha
      left
      have hr := fits_reverse hr
      have hq := fits_reverse hq
      rw [← List.head?_reverse]
      exact head?_of_fits_append (by simpa using hq) (by simpa using hr)
  · exact .inr (head?_of_fits_append hr hq)

theorem unchanged_iff {u v : List Char} (hstar : star ∈ u ++ v) :
    (∀ s, Finds (u ++ v) s ↔ Finds (u ++ star :: v) s) ↔ Beside u v := by
  constructor
  · intro h
    have := (h _).2 (finds_self (u ++ star :: v))
    rw [finds_of_mem hstar] at this
    exact beside_of_fits this
  · intro hbeside s
    rcases hbeside with hu | hv
    · obtain ⟨u, rfl⟩ := List.getLast?_eq_some_iff.1 hu
      rw [List.append_assoc, List.append_assoc]
      exact (finds_star_star_iff u v s).symm
    · obtain ⟨v, rfl⟩ := List.head?_eq_some_iff.1 hv
      exact (finds_star_star_iff u v s).symm

end Pattern

/-! ## Queries -/

open Pattern (Finds FreeStart FreeEnd Beside star narrows_iff widens_iff unchanged_iff)

theorem western_eq_star_iff (c : Char) : Digit.western c = star ↔ c = star := by
  constructor
  · intro h
    rcases Digit.western_cases c with ⟨-, hsame⟩ | hdigit
    · rw [← hsame, h]
    · rw [h] at hdigit
      exact absurd hdigit (by decide)
  · rintro rfl
    exact western_star

theorem star_mem_western_iff (s : String) : star ∈ (Digits.western s).toList ↔ star ∈ s.toList := by
  simp [western_eq_star_iff]

theorem beside_western_iff (u v : String) :
    Beside (Digits.western u).toList (Digits.western v).toList ↔ Beside u.toList v.toList := by
  simp [Beside, western_eq_star_iff]

theorem found_sublist_iff (p q : String) :
    (∀ phrases, (found phrases q).Sublist (found phrases p)) ↔
      ∀ s, Finds (Digits.western q).toList s → Finds (Digits.western p).toList s := by
  constructor
  · intro h s hs
    have hmem : String.ofList s ∈ found [String.ofList s] q := by
      simpa [found] using hs
    simpa [found] using (h [String.ofList s]).mem hmem
  · intro h phrases
    apply List.monotone_filter_right
    intro s hs
    rw [decide_eq_true_iff] at hs ⊢
    exact h s.toList hs

theorem found_eq_iff (p q : String) :
    (∀ phrases, found phrases q = found phrases p) ↔
      ∀ s, Finds (Digits.western q).toList s ↔ Finds (Digits.western p).toList s := by
  constructor
  · intro h s
    constructor
    · exact (found_sublist_iff p q).1 (fun phrases => by rw [h phrases]) s
    · exact (found_sublist_iff q p).1 (fun phrases => by rw [h phrases]) s
  · intro h phrases
    have hqp := (found_sublist_iff p q).2 (fun s => (h s).1) phrases
    have hpq := (found_sublist_iff q p).2 (fun s => (h s).2) phrases
    exact hqp.antisymm hpq

theorem search_eq_iff (phrases : List String) (q p : String) :
    search (.ofTexts phrases) (.text q) = search (.ofTexts phrases) (.text p) ↔
      found phrases q = found phrases p := by
  rw [search_eq_filter, search_eq_filter, Except.ok.injEq]
  exact List.map_inj_right fun _ _ h => Value.text.inj h

/-- A query that finds less can be asked of the results. -/
theorem found_found {p q : String}
    (h : ∀ s, Finds (Digits.western q).toList s → Finds (Digits.western p).toList s)
    (phrases : List String) : found (found phrases p) q = found phrases q := by
  rw [found, found, found, List.filter_filter]
  apply List.filter_congr
  intro s _
  have := h s.toList
  simpa using this

/-- **Writing more around a query without a star never brings in a phrase.** What is found then is a
part of what was found before, in the same order and as often, and it is enough to look for it there. -/
theorem search_refined {p : String} (hp : star ∉ p.toList) (phrases : List String) (u w : String) :
    search (.ofTexts phrases) (.text p) = .ok ((found phrases p).map .text) ∧
    search (.ofTexts phrases) (.text (u ++ p ++ w)) =
      .ok ((found phrases (u ++ p ++ w)).map .text) ∧
    search (.ofTexts (found phrases p)) (.text (u ++ p ++ w)) =
      .ok ((found phrases (u ++ p ++ w)).map .text) ∧
    (found phrases (u ++ p ++ w)).Sublist (found phrases p) := by
  have hfree : FreeStart (Digits.western p).toList ∧ FreeEnd (Digits.western p).toList := by
    rw [← star_mem_western_iff] at hp
    exact Pattern.free_of_not_mem hp
  have hnarrow : ∀ s, Finds (Digits.western (u ++ p ++ w)).toList s →
      Finds (Digits.western p).toList s := by
    intro s hs
    apply (narrows_iff _).2 hfree (Digits.western u).toList (Digits.western w).toList
    simpa using hs
  refine ⟨search_eq_filter _ _, search_eq_filter _ _, ?_, (found_sublist_iff _ _).2 hnarrow phrases⟩
  rw [search_eq_filter, found_found hnarrow]

/-- A digit that three phrases hold, and a query around it that is pinned at the end. -/
theorem search_refined_digit : star ∉ "۲".toList ∧
    search (.ofTexts ["A2b", "x2", "a2b?"]) (.text "۲") =
      .ok [.text "A2b", .text "x2", .text "a2b?"] ∧
    search (.ofTexts ["A2b", "x2", "a2b?"]) (.text ("*a" ++ "۲" ++ "b")) = .ok [.text "A2b"] ∧
    (found ["A2b", "x2", "a2b?"] ("*a" ++ "۲" ++ "b")).Sublist
      (found ["A2b", "x2", "a2b?"] "۲") := by
  have hstar : star ∉ "۲".toList := by decide
  obtain ⟨hplain, hrefined, -, hsublist⟩ := search_refined hstar ["A2b", "x2", "a2b?"] "*a" "b"
  have hall : found ["A2b", "x2", "a2b?"] "۲" = ["A2b", "x2", "a2b?"] := by decide +kernel
  have hone : found ["A2b", "x2", "a2b?"] ("*a" ++ "۲" ++ "b") = ["A2b"] := by decide +kernel
  refine ⟨hstar, ?_, ?_, hsublist⟩
  · rw [hplain, hall]
    rfl
  · rw [hrefined, hone]
    rfl

/-- **A star more in a query with a star never loses a phrase.** For some list of phrases it brings in
one, unless it stands beside another star. -/
theorem search_widened {u v : String} (hstar : star ∈ (u ++ v).toList) :
    (∀ phrases : List String,
      search (.ofTexts phrases) (.text (u ++ v)) = .ok ((found phrases (u ++ v)).map .text) ∧
      search (.ofTexts phrases) (.text (u ++ "*" ++ v)) =
        .ok ((found phrases (u ++ "*" ++ v)).map .text) ∧
      (found phrases (u ++ v)).Sublist (found phrases (u ++ "*" ++ v))) ∧
    ((∀ phrases : List String, search (.ofTexts phrases) (.text (u ++ v)) =
        search (.ofTexts phrases) (.text (u ++ "*" ++ v))) ↔ Beside u.toList v.toList) := by
  have htoList : (Digits.western (u ++ v)).toList =
      (Digits.western u).toList ++ (Digits.western v).toList := by simp
  rw [← star_mem_western_iff, htoList] at hstar
  constructor
  · intro phrases
    refine ⟨search_eq_filter _ _, search_eq_filter _ _, (found_sublist_iff _ _).2 ?_ phrases⟩
    rw [htoList, toList_western_star]
    exact (widens_iff _ _).2 (.inl hstar)
  · simp only [search_eq_iff]
    rw [found_eq_iff, htoList, toList_western_star, unchanged_iff hstar, beside_western_iff]

/-- A star is new in the middle of a piece: it brings in a phrase, so the two queries differ. -/
theorem search_widened_middle : star ∈ ("a" ++ "b*").toList ∧
    (found ["abc", "ayb"] ("a" ++ "b*")).Sublist (found ["abc", "ayb"] ("a" ++ "*" ++ "b*")) ∧
    ¬∀ phrases : List String, search (.ofTexts phrases) (.text ("a" ++ "b*")) =
      search (.ofTexts phrases) (.text ("a" ++ "*" ++ "b*")) := by
  have hstar : star ∈ ("a" ++ "b*").toList := by decide
  obtain ⟨hwider, hsame⟩ := search_widened hstar
  refine ⟨hstar, (hwider _).2.2, ?_⟩
  rw [hsame]
  unfold Beside
  decide

end Phrasebook
