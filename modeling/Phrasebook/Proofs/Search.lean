import Phrasebook.Proofs.Obstacle
import Phrasebook.Proofs.Wildcard

/-!
# Phrasebook.Proofs.Search

What a search finds in a list of phrases.

A query is brought into Western digits and made into a pattern; the search keeps exactly the phrases
that the pattern finds, in their order and as often as they occur (`search_eq_filter`), also where the
phrases are looked up in a bank (`Finder.search_of_lookup`). What `Pattern.Finds` says of patterns is
then a fact about results: `search_finds` collects it.
-/

namespace Phrasebook

open Pattern (Finds FreeStart FreeEnd star)

theorem acceptsText_ofText_iff (p s : String) :
    (Matcher.ofText p).acceptsText s = true ↔ Finds p.toList s.toList := by
  by_cases hp : p = ""
  · subst hp
    exact iff_of_true rfl (Pattern.finds_nil s.toList)
  · have hne : p.toList ≠ [] := by simpa using hp
    rw [Matcher.ofText, if_neg hp, ← Pattern.accepts_tokens_iff hne, Matcher.acceptsText_wildcard]
    exact Pattern.accepts_iff _ _

instance (p s : List Char) : Decidable (Finds p s) :=
  decidable_of_iff ((Matcher.ofText (String.ofList p)).acceptsText (String.ofList s) = true)
    (by rw [acceptsText_ofText_iff, String.toList_ofList, String.toList_ofList])

theorem select_texts (m : Matcher) (phrases : List String) :
    m.select (phrases.map .text) = .ok ((phrases.filter m.acceptsText).map .text) := by
  induction phrases with
  | nil => rfl
  | cons s phrases ih =>
    have hs : m.accepts (.text s) = .ok (m.acceptsText s) := by cases m <;> rfl
    rw [List.map_cons, Matcher.select, hs, ih, List.filter_cons]
    cases m.acceptsText s <;> rfl

/-- The texts that a query finds among others. -/
def found (phrases : List String) (query : String) : List String :=
  phrases.filter fun s => Finds (Digits.western query).toList s.toList

theorem select_ofQuery (phrases : List String) (query : String) :
    (Matcher.ofQuery (.text query)).select (phrases.map .text) =
      .ok ((found phrases query).map .text) := by
  rw [select_texts, found, Matcher.ofQuery]
  have h : (Matcher.ofText (Digits.western query)).acceptsText =
      fun s => decide (Finds (Digits.western query).toList s.toList) := by
    funext s
    rw [Bool.eq_iff_iff, acceptsText_ofText_iff, decide_eq_true_iff]
  rw [h]

theorem search_eq_filter (phrases : List String) (query : String) :
    search (.ofTexts phrases) (.text query) = .ok ((found phrases query).map .text) :=
  select_ofQuery phrases query

/-! ## Searches of a bank -/

theorem Value.orEmpty_text (s : String) : (Value.text s).orEmpty = .text s := by
  by_cases hs : s = ""
  · subst hs
    rfl
  · simp [Value.orEmpty, Value.isNothing, hs]

namespace Finder

/-- The result of a search for a text: what is looked up is selected from, and it is logged how that
went. -/
theorem search_text (f : Finder) (category tier : Value) (query : String) (m : Meters) :
    (f.search ⟨category, tier, .text query⟩ m).result =
      match f.bank.lookup category tier with
      | .error e => (f.logFailure ⟨category, tier, .text query⟩ e).bind fun _ => .error e
      | .ok l =>
        match (Matcher.ofQuery (.text query)).select l.phrases with
        | .error e => (f.logFailure ⟨category, tier, .text query⟩ e).bind fun _ => .error e
        | .ok phrases =>
          (f.logSuccess ⟨category, tier, .text query⟩ l.phrases.length phrases.length).bind fun _ =>
            .ok ⟨⟨category, tier, .text query⟩, phrases⟩ := by
  simp only [search, Value.orEmpty_text, Value.length, Value.length?]
  cases f.bank.lookup category tier with
  | error e => exact Answer.logged_result _ _
  | ok l =>
    dsimp only
    cases (Matcher.ofQuery (.text query)).select l.phrases with
    | error e => exact Answer.logged_result _ _
    | ok phrases => exact Answer.logged_result _ _

section Numbers

variable {b : Bank} {o : Outlet} {i : Int} {t : Option Int} {l : Bank.Lookup}

/-- Where texts are looked up, those that the query finds are the result once that is logged. -/
theorem search_of_texts (hl : b.lookup (.int i) (Bank.tierArgument t) = .ok l)
    {ss : List String} (hss : l.phrases = ss.map .text) (query : String) (m : Meters) :
    ((ofBank b o).search ⟨.int i, Bank.tierArgument t, .text query⟩ m).result =
      ((ofBank b o).logSuccess ⟨.int i, Bank.tierArgument t, .text query⟩ ss.length
        (found ss query).length).bind fun _ =>
          .ok ⟨⟨.int i, Bank.tierArgument t, .text query⟩, (found ss query).map .text⟩ := by
  have hbank : (ofBank b o).bank = b := rfl
  rw [search_text, hbank, hl]
  simp only [hss, select_ofQuery, List.length_map]

theorem search_of_lookup (hl : b.lookup (.int i) (Bank.tierArgument t) = .ok l)
    {ss : List String} (hss : l.phrases = ss.map .text) (htell : o.CanTell i t) (query : String)
    (m : Meters) :
    ((ofBank b o).search ⟨.int i, Bank.tierArgument t, .text query⟩ m).result =
      .ok ⟨⟨.int i, Bank.tierArgument t, .text query⟩, (found ss query).map .text⟩ := by
  obtain ⟨rs, hrs⟩ := logSuccess_of_canTell htell ss.length (found ss query).length
  rw [search_of_texts hl hss, hrs]
  rfl

theorem search_of_not_canTell (hl : b.lookup (.int i) (Bank.tierArgument t) = .ok l)
    {ss : List String} (hss : l.phrases = ss.map .text) (htell : ¬o.CanTell i t) (query : String)
    (m : Meters) :
    ((ofBank b o).search ⟨.int i, Bank.tierArgument t, .text query⟩ m).result =
      .error .longNumber := by
  rw [search_of_texts hl hss, logSuccess_of_not_canTell htell]
  rfl

/-- A number that cannot be looked up fails the search, whether its record is written or not. -/
theorem search_of_lookup_error {tier : Value}
    (hl : b.lookup (.int i) tier = .error .longNumber) (query : String) (m : Meters) :
    ((ofBank b o).search ⟨.int i, tier, .text query⟩ m).result = .error .longNumber := by
  have hbank : (ofBank b o).bank = b := rfl
  rw [search_text, hbank, hl]
  dsimp only
  rcases logFailure_of_int b o tier .longNumber with ⟨rs, hrs⟩ | hlong
  · rw [hrs]
    rfl
  · rw [hlong]
    rfl

end Numbers

end Finder

/-! ## Stars in queries -/

theorem western_star : Digit.western star = star := by decide

theorem toList_western_star (u v : String) :
    (Digits.western (u ++ "*" ++ v)).toList =
      (Digits.western u).toList ++ star :: (Digits.western v).toList := by
  have : "*".toList = [star] := rfl
  simp [this, western_star]

theorem found_star_star (phrases : List String) (u v : String) :
    found phrases (u ++ "**" ++ v) = found phrases (u ++ "*" ++ v) := by
  have h : ∀ s : String, Finds (Digits.western (u ++ "**" ++ v)).toList s.toList ↔
      Finds (Digits.western (u ++ "*" ++ v)).toList s.toList := by
    intro s
    have hstars : u ++ "**" ++ v = u ++ "*" ++ ("" ++ "*" ++ v) := by
      simp [← String.toList_inj]
    rw [hstars, toList_western_star, toList_western_star, toList_western_star]
    exact Pattern.finds_star_star_iff _ _ _
  simp only [found, h]

theorem found_stars (phrases : List String) (n : Nat) :
    found phrases (String.ofList (List.replicate n star)) = phrases := by
  have h : (Digits.western (String.ofList (List.replicate n star))).toList =
      List.replicate n star := by
    simp [western_star]
  rw [found, h]
  simp [Pattern.finds_stars]

/-! ## Search and its meaning -/

/-- The expression written for a pattern accepts, token by token, what the pattern finds. -/
theorem accepts_expression_iff {p : String} (hp : p ≠ "") :
    ∃ ts, Pattern.Expression.decode (Pattern.Expression.ofPattern p).toList = some ts ∧
      ∀ s, Pattern.Accepts ts s ↔ Finds p.toList s := by
  refine ⟨Pattern.tokens p.toList, ?_, ?_⟩
  · rw [Pattern.Expression.ofPattern, String.toList_ofList, Pattern.Expression.decode_encode]
  · intro s
    exact Pattern.accepts_tokens_iff (by simpa using hp) s

/-- A search keeps, in their order and as often as they occur, the phrases that the query in Western
digits finds. The special characters of expressions are literal, two stars side by side are one,
stars alone find what no query finds, and an end is pinned exactly if there is a star elsewhere and
none at that end. -/
theorem search_finds (phrases : List String) (query : String) :
    search (.ofTexts phrases) (.text query) =
      .ok ((phrases.filter fun s => Finds (Digits.western query).toList s.toList).map .text) ∧
    (∀ p : String, p ≠ "" →
      ∃ ts, Pattern.Expression.decode (Pattern.Expression.ofPattern p).toList = some ts ∧
        ∀ s, Pattern.Accepts ts s ↔ Finds p.toList s) ∧
    (∀ c ∈ Pattern.Expression.special, ∀ d, Letter.Alike c d ↔ d = c) ∧
    (∀ u v : String, search (.ofTexts phrases) (.text (u ++ "**" ++ v)) =
      search (.ofTexts phrases) (.text (u ++ "*" ++ v))) ∧
    (∀ n, search (.ofTexts phrases) (.text (String.ofList (List.replicate n star))) =
      search (.ofTexts phrases) (.text "")) ∧
    (∀ p, ¬FreeStart p ↔ star ∈ p ∧ p.head? ≠ some star) ∧
    (∀ p, ¬FreeEnd p ↔ star ∈ p ∧ p.getLast? ≠ some star) := by
  refine ⟨search_eq_filter phrases query, fun p hp => accepts_expression_iff hp,
    fun c hc d => Pattern.alike_special_iff hc d, ?_, ?_, ?_, ?_⟩
  · intro u v
    rw [search_eq_filter, search_eq_filter, found_star_star]
  · intro n
    have h := found_stars phrases 0
    rw [search_eq_filter, search_eq_filter, found_stars]
    exact congrArg (fun l => Except.ok (l.map Value.text)) h.symm
  · intro p
    rw [Pattern.freeStart_iff, Classical.not_imp]
  · intro p
    rw [Pattern.freeEnd_iff, Classical.not_imp]

end Phrasebook
