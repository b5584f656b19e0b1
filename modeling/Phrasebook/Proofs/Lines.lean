import Phrasebook.Proofs.Escape
import Phrasebook.Proofs.Panel

/-!
# Phrasebook.Proofs.Lines

How many lines the results take, and what can be told from them.

Results are cut at their line feeds. Escaping keeps the line feeds of a phrase, so a phrase takes one
line more than it has of them (`length_cutLines_line`), and only phrases without any take one line
each. All phrases together are one escape, that of the phrases joined by what stands between two
items (`toList_rendered`): results look alike exactly if the phrases joined are alike.
-/

namespace Phrasebook

namespace Markdown

/-- The lines of a text, cut at its line feeds. -/
def cutLines (text : String) : List String := (text.toList.splitOn '\n').map String.ofList

def lineFeeds (x : String) : Nat := x.toList.count '\n'

/-- Lines put one below another. -/
def stack (ls : List String) : String := "\n".intercalate ls

/-- Phrases with the end of an item and the beginning of the next one between them. -/
def joined (ss : List String) : String := "\n- ".intercalate ss

theorem results_of_ne_nil (s : Selection) {ss : List String} (h : ss ≠ []) :
    results ⟨s, ss.map .text⟩ = .ok (stack (ss.map line)) := by
  have hne : (ss.map Value.text).isEmpty = false := by simpa using h
  rw [results, hne, lines_texts]
  rfl

/-! ## Cutting -/

theorem cutLines_stack {ls : List String} (h : ls ≠ []) :
    cutLines (stack ls) = ls.flatMap cutLines := by
  induction ls with
  | nil => exact absurd rfl h
  | cons x ls ih =>
    cases ls with
    | nil => simp [stack]
    | cons y ls =>
      have ih := ih (List.cons_ne_nil y ls)
      have hfeed : "\n".toList = ['\n'] := rfl
      rw [List.flatMap_cons, ← ih]
      simp only [cutLines, stack, String.intercalate_cons_cons, String.toList_append, hfeed,
        List.append_assoc, List.singleton_append, List.splitOn_append_cons_self, List.map_append]

theorem length_cutLines (x : String) : (cutLines x).length = lineFeeds x + 1 := by
  rw [cutLines, List.length_map, lineFeeds]
  induction x.toList with
  | nil => rfl
  | cons c s ih =>
    rw [List.splitOn_cons_eq_if_modifyHead]
    by_cases hc : c = '\n'
    · simp [hc, ih]
    · simp [hc, ih]

theorem cutLines_of_lineFeeds_eq_zero {x : String} (h : lineFeeds x = 0) : cutLines x = [x] := by
  rw [cutLines, List.splitOn_eq_singleton (List.count_eq_zero.1 h), List.map_singleton,
    String.ofList_toList]

/-! ## Escapes and line feeds -/

theorem count_flatMap_of_single {c : Char} {f : Char → List Char}
    (h : ∀ d, (f d).count c = [d].count c) (s : List Char) : (s.flatMap f).count c = s.count c := by
  induction s with
  | nil => rfl
  | cons d s ih =>
    rw [List.flatMap_cons, List.count_append, h, ih, ← List.count_append, List.singleton_append]

theorem count_feed_escape (s : List Char) : (escape s).count '\n' = s.count '\n' := by
  have hguard : ∀ d, (guardChar d).count '\n' = [d].count '\n' := by
    intro d
    rw [guardChar]
    split
    · rfl
    · rfl
  have hentity : ∀ d, (entity d).count '\n' = [d].count '\n' := by
    intro d
    unfold entity
    split <;> rfl
  rw [escape, withBackslashes, count_flatMap_of_single hguard, withEntities,
    count_flatMap_of_single hentity]

theorem lineFeeds_line (x : String) : lineFeeds (line x) = lineFeeds x := by
  rw [lineFeeds, toList_line, List.count_cons_of_ne (by decide), List.count_cons_of_ne (by decide),
    count_feed_escape, lineFeeds]

theorem length_cutLines_line (x : String) : (cutLines (line x)).length = lineFeeds x + 1 := by
  rw [length_cutLines, lineFeeds_line]

/-! ## All phrases as one -/

theorem escape_append (s t : List Char) : escape (s ++ t) = escape s ++ escape t := by
  simp [escape, withEntities, withBackslashes]

theorem escape_between : escape "\n- ".toList = "\n- ".toList := by rfl

/-- The results are a dash and the escape of the joined phrases. -/
theorem toList_rendered {ss : List String} (h : ss ≠ []) :
    (stack (ss.map line)).toList = '-' :: ' ' :: escape (joined ss).toList := by
  induction ss with
  | nil => exact absurd rfl h
  | cons x ss ih =>
    cases ss with
    | nil => simp [stack, joined, toList_line]
    | cons y ss =>
      have ih := ih (List.cons_ne_nil y ss)
      have hstack : stack ((x :: y :: ss).map line) = line x ++ "\n" ++ stack ((y :: ss).map line) :=
        String.intercalate_cons_cons
      have hjoined : joined (x :: y :: ss) = x ++ "\n- " ++ joined (y :: ss) :=
        String.intercalate_cons_cons
      rw [hstack, hjoined]
      simp only [String.toList_append, escape_append, ih, toList_line, escape_between]
      simp

theorem stack_eq_iff_joined {ss ts : List String} (hs : ss ≠ []) (ht : ts ≠ []) :
    stack (ts.map line) = stack (ss.map line) ↔ joined ts = joined ss := by
  rw [← String.toList_inj, toList_rendered ht, toList_rendered hs, List.cons_inj_right,
    List.cons_inj_right, escape_inj, String.toList_inj]

/-- The text for no phrases looks like no phrase. -/
theorem stack_ne_emptyText {ss : List String} (h : ss ≠ []) : stack (ss.map line) ≠ emptyText := by
  intro heq
  rw [← String.toList_inj, toList_rendered h] at heq
  have hhead : emptyText.toList.head? = some '_' := by decide +kernel
  rw [← heq] at hhead
  cases hhead

theorem results_eq_iff_joined (s s' : Selection) {ss : List String} (h : ss ≠ [])
    (ts : List String) :
    results ⟨s', ts.map .text⟩ = results ⟨s, ss.map .text⟩ ↔ ts ≠ [] ∧ joined ts = joined ss := by
  rw [results_of_ne_nil s h]
  by_cases ht : ts = []
  · subst ht
    have hempty : results ⟨s', [].map .text⟩ = .ok emptyText := rfl
    rw [hempty, Except.ok.injEq]
    exact iff_of_false (stack_ne_emptyText h).symm fun hne => hne.1 rfl
  · rw [results_of_ne_nil s' ht, Except.ok.injEq, stack_eq_iff_joined h ht]
    simp [ht]

/-! ## Lines and phrases -/

theorem cutLines_rendered {ss : List String} (h : ss ≠ []) :
    cutLines (stack (ss.map line)) = ss.flatMap fun x => cutLines (line x) := by
  rw [cutLines_stack (by simpa using h), List.flatMap_map]

theorem length_cutLines_rendered {ss : List String} (h : ss ≠ []) :
    (cutLines (stack (ss.map line))).length = ss.length + (ss.map lineFeeds).sum := by
  rw [cutLines_rendered h, List.length_flatMap]
  simp only [length_cutLines_line, List.sum_map_add]
  simp [Nat.add_comm]

theorem cutLines_rendered_iff {ss : List String} (h : ss ≠ []) :
    cutLines (stack (ss.map line)) = ss.map line ↔ ∀ x ∈ ss, lineFeeds x = 0 := by
  constructor
  · intro heq
    have hlength := length_cutLines_rendered h
    rw [heq, List.length_map] at hlength
    have hsum : (ss.map lineFeeds).sum = 0 := by omega
    simpa using List.sum_eq_zero_iff.1 hsum
  · intro hnone
    have hsingle : ∀ x ∈ ss, cutLines (line x) = [line x] := by
      intro x hx
      apply cutLines_of_lineFeeds_eq_zero
      rw [lineFeeds_line, hnone x hx]
    rw [cutLines_rendered h, List.flatMap_congr hsingle, ← List.map_eq_flatMap]

/-- The number that is shown is the number of lines exactly if no phrase has a line feed. -/
theorem count_eq_write_iff (s : Selection) {ss : List String} (h : ss ≠ []) :
    count ⟨s, ss.map .text⟩ = Numeral.write (cutLines (stack (ss.map line))).length ↔
      ∀ x ∈ ss, lineFeeds x = 0 := by
  have hcount : count ⟨s, ss.map .text⟩ = Numeral.write ss.length := by
    rw [count, Found.count, List.length_map]
  rw [hcount, Numeral.write_inj, length_cutLines_rendered h, Nat.cast_inj]
  constructor
  · intro heq
    have hsum : (ss.map lineFeeds).sum = 0 := by omega
    simpa using List.sum_eq_zero_iff.1 hsum
  · intro hnone
    rw [List.map_congr_left hnone]
    simp

/-- Where no phrase has a line feed, the phrases are read off the lines. -/
theorem results_eq_iff (s s' : Selection) {ss ts : List String} (h : ss ≠ [])
    (hs : ∀ x ∈ ss, lineFeeds x = 0) (ht : ∀ x ∈ ts, lineFeeds x = 0) :
    results ⟨s', ts.map .text⟩ = results ⟨s, ss.map .text⟩ ↔ ts = ss := by
  constructor
  · intro heq
    obtain ⟨hne, hjoined⟩ := (results_eq_iff_joined s s' h ts).1 heq
    have hstack := (stack_eq_iff_joined h hne).2 hjoined
    have hlines := (cutLines_rendered_iff hne).2 ht
    rw [hstack, (cutLines_rendered_iff h).2 hs] at hlines
    exact ((List.map_inj_right fun _ _ => line_inj.1).1 hlines).symm
  · rintro rfl
    exact (results_eq_iff_joined s s' h ts).2 ⟨h, rfl⟩

/-- **Phrases and lines.** The results of phrases are their lines in order, and a phrase takes one
line more than it has line feeds. Line by line they are the phrases behind dashes, and as many as the
count says, exactly if no phrase has a line feed. Results look alike exactly if the phrases joined
are alike; without line feeds that is if the phrases are. -/
theorem results_cut (s : Selection) {ss : List String} (h : ss ≠ []) :
    ∃ text, results ⟨s, ss.map .text⟩ = .ok text ∧
      cutLines text = (ss.flatMap fun x => cutLines (line x)) ∧
      (∀ x, (cutLines (line x)).length = lineFeeds x + 1) ∧
      (cutLines text).length = ss.length + (ss.map lineFeeds).sum ∧
      (cutLines text = ss.map line ↔ ∀ x ∈ ss, lineFeeds x = 0) ∧
      (count ⟨s, ss.map .text⟩ = Numeral.write (cutLines text).length ↔
        ∀ x ∈ ss, lineFeeds x = 0) ∧
      ∀ (s' : Selection) (ts : List String),
        (results ⟨s', ts.map .text⟩ = .ok text ↔ ts ≠ [] ∧ joined ts = joined ss) ∧
        ((∀ x ∈ ss, lineFeeds x = 0) → (∀ x ∈ ts, lineFeeds x = 0) →
          (results ⟨s', ts.map .text⟩ = .ok text ↔ ts = ss)) := by
  refine ⟨_, results_of_ne_nil s h, cutLines_rendered h, length_cutLines_line,
    length_cutLines_rendered h, cutLines_rendered_iff h, count_eq_write_iff s h, ?_⟩
  intro s' ts
  rw [← results_of_ne_nil s h]
  exact ⟨results_eq_iff_joined s s' h ts, results_eq_iff s s' h⟩

/-- Two phrases without line feeds, one of them with a special character. -/
theorem results_cut_two : ∃ text,
    results ⟨{}, [.text "a*", .text "- b"]⟩ = .ok text ∧
      cutLines text = ["- a\\*", "- - b"] ∧ count ⟨{}, [.text "a*", .text "- b"]⟩ = "2" := by
  obtain ⟨text, htext, -, -, -, hlines, -, -⟩ := results_cut {} (List.cons_ne_nil "a*" ["- b"])
  have hnone : ∀ x ∈ ["a*", "- b"], lineFeeds x = 0 := by decide +kernel
  refine ⟨text, htext, ?_, by decide +kernel⟩
  rw [hlines.2 hnone]
  decide +kernel

/-- One phrase with a line feed: it takes two lines, and looks like two phrases. -/
theorem results_line_feed :
    (¬∀ (s : Selection) (ss : List String) (text : String), ss ≠ [] →
      results ⟨s, ss.map .text⟩ = .ok text → cutLines text = ss.map line) ∧
    results ⟨{}, [.text "a\n- b"]⟩ = results ⟨{}, [.text "a", .text "b"]⟩ := by
  constructor
  · intro h
    have hlines := h {} ["a\n- b"] _ (by simp) (results_of_ne_nil {} (by simp))
    rw [cutLines_rendered_iff (by simp)] at hlines
    exact absurd (hlines "a\n- b" List.mem_cons_self) (by decide +kernel)
  · have hjoined : joined ["a\n- b"] = joined ["a", "b"] := by decide +kernel
    exact (results_eq_iff_joined {} {} (by simp) ["a\n- b"]).2 ⟨by simp, hjoined⟩

end Markdown

end Phrasebook
