import Phrasebook.CommandLine.Probe
import Phrasebook.Proofs.Panel

/-!
# Phrasebook.Proofs.Probe

The command line and the panel answer alike.

The command line makes a selection at once; the panel comes to it event by event, each handed what was
shown last (`Panel.after`). The effects of a category, a tier and a query touch one member each, so
their order does not matter (`foldl_effect_questions`), and both ways end in one search for one
selection.
-/

namespace Phrasebook

namespace Panel

/-- The events by which a panel is asked what the command line is asked at once. -/
def questions (n : Int) (t : Option Int) (query : String) : List Event :=
  .category (.int (n - 1)) :: .query (.text query) :: (t.map fun k => Event.tier (.int k)).toList

end Panel

open Panel (questions)

namespace Event

/-- Effects on different members commute. -/
theorem effect_comm {n : Int} {t : Option Int} {query : String} {e e' : Event}
    (he : e ∈ questions n t query) (he' : e' ∈ questions n t query) (start s : Plain) :
    e'.effect start (e.effect start s) = e.effect start (e'.effect start s) := by
  simp only [questions, List.mem_cons, Option.mem_toList, Option.map_eq_some_iff] at he he'
  rcases he with rfl | rfl | ⟨k, hk, rfl⟩ <;> rcases he' with rfl | rfl | ⟨k', hk', rfl⟩ <;> try rfl
  rw [hk, Option.some.injEq] at hk'
  rw [hk']

theorem foldl_effect_questions {n : Int} {t : Option Int} {query : String} {es : List Event}
    (h : es.Perm (questions n t query)) (start s : Plain) :
    es.foldl (fun s e => e.effect start s) s = ⟨max 0 (n - 1), t.or s.tier, query⟩ := by
  rw [h.foldl_eq' (fun e he e' he' s => effect_comm (h.mem_iff.1 he) (h.mem_iff.1 he') start s)]
  cases t <;> rfl

theorem isSent_of_mem_questions {n : Int} {t : Option Int} {query : String} {e : Event}
    (h : e ∈ questions n t query) : e.IsSent := by
  simp only [questions, List.mem_cons, Option.mem_toList, Option.map_eq_some_iff] at h
  rcases h with rfl | rfl | ⟨k, hk, rfl⟩
  · trivial
  · exact .inr ⟨query, rfl⟩
  · trivial

theorem not_beyond_of_mem_questions {n : Int} {t : Option Int} {query : String} {e : Event}
    (hn : Numeral.isWritable n = true) (ht : ∀ k ∈ t, Numeral.isWritable k = true)
    (h : e ∈ questions n t query) (writes : Bool) (f : Fault) : ¬e.Beyond writes f := by
  have hfinite : ∀ k : Int, ¬(Value.int k).IsInfinite := by
    rintro k ⟨x, negative, hx, -⟩
    cases hx
  simp only [questions, List.mem_cons, Option.mem_toList, Option.map_eq_some_iff] at h
  intro hbeyond
  rcases h with rfl | rfl | ⟨k, hk, rfl⟩
  · cases hbeyond with
    | infinite h => exact hfinite _ h
    | longCategory hv hlong =>
      cases hv
      rw [Numeral.isWritable_iff] at hn
      have hcast : ((10 ^ Numeral.maxDigits : Nat) : Int) = 10 ^ Numeral.maxDigits := by
        push_cast
        rfl
      rw [← hcast] at hlong
      omega
  · cases hbeyond with
    | infinite h => cases h
  · cases hbeyond with
    | infinite h => exact hfinite _ h
    | longTier hwrites hv hlong =>
      cases hv
      have hk' := (Numeral.isWritable_iff k).1 (ht k hk)
      omega

end Event

namespace Contents

variable (c : Contents) (labels : List String) (o : Outlet)

/-- Events that are not beyond the panel are answered, and what is shown last is what their effects
make. -/
theorem after_effects (es : List Event) (hsent : ∀ e ∈ es, e.IsSent)
    (hbeyond : ∀ e ∈ es, ∀ f, ¬e.Beyond ((c.bank labels).writesTier o) f) :
    (es.foldl (fun s e => e.effect (c.start labels) s) (c.start labels)).Settled (c.bank labels) o ∧
      (∀ a ∈ ((c.panel labels o).after es).answers, ∃ d, a = .ok d) ∧
      ((c.panel labels o).after es).shown = if es = [] then none else
        some (es.foldl (fun s e => e.effect (c.start labels) s) (c.start labels)).selection := by
  induction es using List.reverseRecOn with
  | nil => exact ⟨start_settled c labels o, nofun, rfl⟩
  | append_singleton es e ih =>
    obtain ⟨hsettled, hanswers, hshown⟩ := ih (fun e he => hsent e (List.mem_append_left _ he))
      (fun e he => hbeyond e (List.mem_append_left _ he))
    have hgiven : ((c.panel labels o).after es).shown.getD (c.start labels).selection =
        (es.foldl (fun s e => e.effect (c.start labels) s) (c.start labels)).selection := by
      rw [hshown]
      split
      · rename_i hnil
        rw [hnil]
        rfl
      · rfl
    obtain ⟨hnext, ss, hss⟩ := ask_of_not_beyond hgiven (hsent e (by simp)) hsettled
      (hbeyond e (by simp)) ((c.panel labels o).after es).meters
    obtain ⟨results, -, hanswer⟩ := Panel.display_ok hss
    rw [List.foldl_append, Panel.after_concat]
    refine ⟨hnext, ?_, ?_⟩
    · intro a ha
      rcases List.mem_append.1 ha with ha | ha
      · exact hanswers a ha
      · exact ⟨_, (List.mem_singleton.1 ha).trans hanswer⟩
    · rw [Panel.shown_serve, Panel.handle, Past.from?, hanswer, if_neg (by simp)]
      rfl

section Questions

variable {n : Int} {t : Option Int} (hn : Numeral.isWritable n = true)
  (ht : ∀ k ∈ t, Numeral.isWritable k = true) (query : String)

include hn ht

theorem questions_settled :
    Plain.Settled (c.bank labels) o ⟨max 0 (n - 1), t.or (c.start labels).tier, query⟩ := by
  have h := (after_effects c labels o (questions n t query)
    (fun e he => Event.isSent_of_mem_questions he)
    (fun e he => Event.not_beyond_of_mem_questions hn ht he _)).1
  rwa [Event.foldl_effect_questions (List.Perm.refl _)] at h

/-- Whichever question comes last, it leads to the search for what all of them ask. -/
theorem ask_last {before : List Event} {last : Event}
    (h : (before ++ [last]).Perm (questions n t query)) :
    (∀ a ∈ ((c.panel labels o).after (.load :: before)).answers, ∃ d, a = .ok d) ∧
      ∃ shown, ((c.panel labels o).after (.load :: before)).shown = some shown ∧
        ∀ m, (c.panel labels o).ask last (some shown) m = (Finder.ofBank (c.bank labels) o).search
          (Plain.selection ⟨max 0 (n - 1), t.or (c.start labels).tier, query⟩) m := by
  have hmem : ∀ e ∈ before ++ [last], e ∈ questions n t query := fun e he => h.mem_iff.1 he
  have hsent : ∀ e ∈ Event.load :: before, e.IsSent := by
    intro e he
    rcases List.mem_cons.1 he with rfl | he
    · trivial
    · exact Event.isSent_of_mem_questions (hmem e (List.mem_append_left _ he))
  have hbeyond : ∀ e ∈ Event.load :: before, ∀ f, ¬e.Beyond ((c.bank labels).writesTier o) f := by
    intro e he f hf
    rcases List.mem_cons.1 he with rfl | he
    · cases hf with
      | infinite h => cases h
    · exact Event.not_beyond_of_mem_questions hn ht (hmem e (List.mem_append_left _ he)) _ f hf
  have hlast := hmem last (by simp)
  obtain ⟨-, hanswers, hshown⟩ := after_effects c labels o _ hsent hbeyond
  rw [if_neg (List.cons_ne_nil _ _)] at hshown
  have heffect := Event.foldl_effect_questions h (c.start labels) (c.start labels)
  rw [List.foldl_append] at heffect
  refine ⟨hanswers, _, hshown, fun m => ?_⟩
  rw [ask_eq_search rfl (Event.isSent_of_mem_questions hlast) fun hinfinite =>
    Event.not_beyond_of_mem_questions hn ht hlast false _ (.infinite hinfinite)]
  exact congrArg (fun s => (Finder.ofBank (c.bank labels) o).search (Plain.selection s) _) heffect

end Questions

end Contents

/-! ## The command line -/

theorem Bank.ofDocument_of_load {s : Surroundings} {path : Option String} {labels : List String}
    {b : Bank} {rs : List Record} (h : load s path labels = .ok (b, rs)) :
    ∃ document, ofDocument document labels = .ok b := by
  have hfinish : ∀ document origin, load.finish s labels document origin = .ok (b, rs) →
      ofDocument document labels = .ok b := by
    intro document origin hfinish
    rw [load.finish] at hfinish
    split at hfinish
    · cases hfinish
    · rename_i hdocument
      cases hfinish
      exact hdocument
  rw [load] at h
  split at h
  · split at h
    · cases h
    · exact ⟨_, hfinish _ _ h⟩
  · exact ⟨_, hfinish _ _ h⟩

namespace CommandLine

theorem selection_bank (c : Contents) (labels : List String) {a : Arguments} {n : Int}
    {t : Option Int} (hcategory : a.category = .number n) (htier : a.tier = t.map .number) :
    selection a (c.bank labels) =
      .ok (Plain.selection ⟨max 0 (n - 1), t.or (c.start labels).tier, a.query⟩) := by
  cases t with
  | none =>
    simp only [selection, position, tier, hcategory, htier, Option.map_none,
      Contents.defaultTier_bank]
    rfl
  | some k =>
    simp only [selection, position, tier, hcategory, htier, Option.map_some]
    rfl

theorem probe_of_search {a : Arguments} {app : Application} {selected : Selection} {f : Found}
    (hcheck : a.check = false) (hselection : selection a app.bank = .ok selected)
    (hsearch : (app.finder.search selected .zero).result = .ok f) :
    probe a app = .ok (succeed (report a f)) := by
  simp only [probe, hcheck, hselection, hsearch]
  rfl

theorem run_of_load {s : Surroundings} {arguments : List String} {a : Arguments} {b : Bank}
    {rs : List Record} (hread : read arguments = .understood a)
    (hload : Bank.load s a.wordBank Bank.standardLabels = .ok (b, rs)) :
    run s arguments = probe a ⟨b, .ofBank b s.outlet⟩ := by
  simp only [run, hread, Application.build, Application.givenBank, hload]
  rfl

end CommandLine

end Phrasebook
