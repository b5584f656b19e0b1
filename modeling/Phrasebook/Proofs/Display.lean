import Phrasebook.Proofs.Panel

/-!
# Phrasebook.Proofs.Display

What a panel shows agrees with the selection it shows it for.

Events come one after another, each handed what was shown last; an event that fails changes nothing.
What is shown stays a plain, settled selection along every run (`Contents.after_settled`), so that one
event is enough to look at: its effect touches the one member that it names (`touches_effect`), and the
texts are those of a search for the selection beside them (`handle_coherent`).
-/

namespace Phrasebook

namespace Event

/-- What an event may make of a selection: loading goes back to the selection to begin with, and
every other event keeps the members that it does not name. -/
def Touches (start before after : Selection) : Event → Prop
  | load => after = start
  | category _ => after.tier = before.tier ∧ after.query = before.query
  | tier _ => after.category = before.category ∧ after.query = before.query
  | query _ => after.category = before.category ∧ after.tier = before.tier

theorem touches_effect (start s : Plain) (e : Event) :
    e.Touches start.selection s.selection (e.effect start s).selection := by
  cases e with
  | load => rfl
  | category v => exact ⟨rfl, rfl⟩
  | tier v => exact ⟨rfl, rfl⟩
  | query v => exact ⟨rfl, rfl⟩

/-- A tier that cannot be read is no tier to go to. -/
theorem effect_unread {v : Value} {f : Fault} (h : v.toInteger = .error f) (start s : Plain) :
    (tier v).effect start s = s := by
  simp only [effect, h]
  rfl

end Event

/-- The display `d`, shown in answer to the event `e`, agrees with its selection; `before` is the
selection that the event was handed. -/
structure Panel.Coherent (p : Panel) (before : Selection) (e : Event) (d : Display) : Prop where
  category : ∃ n : Int, 0 ≤ n ∧ d.selection.category = .int n
  tier : (∃ n : Int, d.selection.tier = .int n) ∨
    (p.finder.bank.isTiered = false ∧ d.selection.tier = .null)
  query : ∃ s, d.selection.query = .text s
  touches : e.Touches p.initial before d.selection
  unread : ∀ v f, e = .tier v → v.toInteger = .error f → d.selection = before
  shows : ∃ f : Found, (∀ m, (p.finder.search d.selection m).result = .ok f) ∧
    f.selection = d.selection ∧ d.count = Markdown.count f ∧ Markdown.results f = .ok d.results

theorem Plain.Settled.tier_int_or_flat {b : Bank} {o : Outlet} {s : Plain} (h : s.Settled b o) :
    (∃ n : Int, s.selection.tier = .int n) ∨ (b.isTiered = false ∧ s.selection.tier = .null) := by
  obtain ⟨category, tier, query⟩ := s
  cases tier with
  | some n => exact .inl ⟨n, rfl⟩
  | none =>
    refine .inr ⟨?_, rfl⟩
    cases hb : b.isTiered with
    | false => rfl
    | true => cases h.tier_isSome hb

theorem Contents.handle_coherent {c : Contents} {labels : List String} {o : Outlet} {s : Plain}
    {given : Option Selection} {e : Event}
    (hgiven : given.getD (c.start labels).selection = s.selection) (he : e.IsSent)
    (hs : s.Settled (c.bank labels) o) {m : Meters} {d : Display}
    (h : ((c.panel labels o).handle e given m).result = .ok d) :
    (c.panel labels o).Coherent s.selection e d := by
  obtain ⟨hsettled, ss, hss, hselection, hcount, hresults⟩ := handle_ok hgiven he hs m h
  exact {
    category := ⟨_, hsettled.category_nonneg, by rw [hselection]; rfl⟩
    tier := by
      rw [hselection]
      exact hsettled.tier_int_or_flat
    query := ⟨_, by rw [hselection]; rfl⟩
    touches := by
      rw [hselection]
      exact Event.touches_effect (c.start labels) s e
    unread := by
      rintro v f rfl hv
      rw [hselection, Event.effect_unread hv]
    shows := by
      refine ⟨_, fun m' => ?_, hselection.symm, hcount, hresults⟩
      rw [hselection, ← hss]
      exact Finder.search_result_eq _ _ m' m }

namespace Panel

/-- **What is shown agrees with its selection.** After any events, the next one fails exactly if it
is beyond the panel; otherwise its display is coherent with the selection that was shown last, or
with the one to begin with if nothing was. -/
theorem after_coherent {document : Value} {labels : List String} {b : Bank}
    (hb : Bank.ofDocument document labels = .ok b) (o : Outlet) :
    ∃ p, ofFinder (.ofBank b o) = .ok p ∧ p.finder = .ofBank b o ∧
      (Finder.ofBank b o).initial = .ok p.initial ∧
      ∀ (es : List Event) (e : Event), (∀ e' ∈ es ++ [e], e'.IsSent) →
        (∀ f, (p.handle e (p.after es).shown (p.after es).meters).result = .error f ↔
          e.Beyond (b.writesTier o) f) ∧
        ∀ d, (p.handle e (p.after es).shown (p.after es).meters).result = .ok d →
          p.Coherent ((p.after es).shown.getD p.initial) e d := by
  obtain ⟨c, -, rfl⟩ := (Bank.ofDocument_eq_ok_iff document labels b).1 hb
  refine ⟨c.panel labels o, c.ofFinder_bank labels o, rfl, c.initial_bank labels o, ?_⟩
  intro es e hsent
  obtain ⟨s, hs, hgiven⟩ := c.after_settled labels o fun e he => hsent e (List.mem_append_left _ he)
  have he := hsent e (by simp)
  refine ⟨Contents.handle_error_iff hgiven he hs _, ?_⟩
  intro d hd
  have hbefore : ((c.panel labels o).after es).shown.getD (c.panel labels o).initial =
      s.selection := hgiven
  rw [hbefore]
  exact Contents.handle_coherent hgiven he hs hd

/-- A tier that is no number, sent after loading: the selection to begin with is shown again. -/
theorem after_coherent_unread : ∃ b p d,
    Bank.ofDocument (.object [("01", .ofTexts ["a"])]) [] = .ok b ∧
      ofFinder (.ofBank b ⟨30, 950⟩) = .ok p ∧
      (p.handle (.tier (.text "x")) (p.after [.load]).shown (p.after [.load]).meters).result =
        .ok d ∧
      d.selection = ⟨.int 0, .null, .text ""⟩ := by
  have hb : Bank.ofDocument (.object [("01", .ofTexts ["a"])]) [] =
      .ok ((Contents.flat [("01", ["a"])]).bank []) :=
    (Bank.ofDocument_eq_ok_iff _ _ _).2 ⟨_, rfl, rfl⟩
  have hunread : (Value.text "x").toInteger = .error (.malformedNumeral "x") := by rfl
  obtain ⟨p, hp, -, hinitial, hrun⟩ := after_coherent hb ⟨30, 950⟩
  have hstart : p.initial = ⟨.int 0, .null, .text ""⟩ := by
    rw [Contents.initial_bank] at hinitial
    exact (Except.ok.inj hinitial).symm
  obtain ⟨hloads, hloaded⟩ := hrun [] .load (by simp [Event.IsSent])
  obtain ⟨htier, htiered⟩ := hrun [.load] (.tier (.text "x")) (by simp [Event.IsSent])
  cases hload : (p.handle .load (p.after []).shown (p.after []).meters).result with
  | error f =>
    cases (hloads f).1 hload with
    | infinite h => cases h
  | ok d₀ =>
    have hshown : (p.after [.load]).shown = some p.initial := by
      have htouches : d₀.selection = p.initial := (hloaded d₀ hload).touches
      rw [← List.nil_append [Event.load], after_concat, shown_serve]
      dsimp only [Past.from?]
      rw [hload, ← htouches]
      rfl
    cases hanswer : (p.handle (.tier (.text "x")) (p.after [.load]).shown
        (p.after [.load]).meters).result with
    | error f =>
      cases (htier f).1 hanswer with
      | infinite h =>
        obtain ⟨x, negative, hx, -⟩ := h
        cases hx
      | longTier hbank _ _ => cases hbank
    | ok d =>
      refine ⟨_, p, d, hb, hp, hanswer, ?_⟩
      rw [(htiered d hanswer).unread _ _ rfl hunread, hshown]
      exact hstart

end Panel

end Phrasebook
