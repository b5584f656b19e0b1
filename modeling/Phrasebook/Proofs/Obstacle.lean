import Phrasebook.Proofs.Lookup
import Phrasebook.Session.Finder

/-!
# Phrasebook.Proofs.Obstacle

When the record of a search can be written.

An object is written if each of its members is, whatever their order; what stops it stops one of them
(`Logger.obstacle?_eq_none_iff`, `Logger.exists_of_obstacle?`). What a finder binds to its records never
does, so only the members of the selection matter. The record of a failure shows the category
(`logFailure_cases`), that of a success the category and the tier (`logSuccess_cases`). Where these are
whole numbers, the only obstacle is a number with too many digits (`logSuccess_of_canTell`,
`logSuccess_of_not_canTell`).
-/

namespace Phrasebook

/-! ## Members of an object -/

namespace Json

variable {room : Nat}

theorem obstacleInMembers?_eq_none_iff {ms : Members Value} :
    obstacleInMembers? room ms = none ↔ ∀ m ∈ ms, obstacle? room m.2 = none := by
  induction ms with
  | nil => simp [obstacleInMembers?]
  | cons m ms ih => simp [obstacleInMembers?, ih]

theorem exists_of_obstacleInMembers? {ms : Members Value} {e : Fault}
    (h : obstacleInMembers? room ms = some e) : ∃ m ∈ ms, obstacle? room m.2 = some e := by
  induction ms with
  | nil => cases h
  | cons m ms ih =>
    rw [obstacleInMembers?, Option.or_eq_some_iff] at h
    rcases h with h | ⟨-, h⟩
    · exact ⟨m, List.mem_cons_self, h⟩
    · obtain ⟨m', hm', h⟩ := ih h
      exact ⟨m', List.mem_cons_of_mem _ hm', h⟩

end Json

namespace Value

theorem sortedMembers_eq (ms : Members Value) :
    sortedMembers ms = ms.map fun m => (m.1, m.2.sorted) := by
  induction ms with
  | nil => rfl
  | cons m ms ih => rw [sortedMembers, ih, List.map_cons]

/-- An empty array within so many others. -/
def nested : Nat → Value
  | 0 => .array []
  | n + 1 => .array [nested n]

theorem sorted_nested (n : Nat) : (nested n).sorted = nested n := by
  induction n with
  | zero => rfl
  | succ n ih => rw [nested, sorted, sortedItems, sortedItems, ih]

end Value

theorem Json.obstacle?_nested {room n : Nat} (h : room ≤ n) :
    Json.obstacle? room (.nested n) = some (.tooDeep .writing) := by
  induction n generalizing room with
  | zero =>
    obtain rfl : room = 0 := by omega
    rfl
  | succ n ih =>
    rw [Value.nested, obstacle?]
    split_ifs
    · rfl
    · rw [obstacleInItems?, ih (by omega), Option.some_or]

namespace Outlet

/-- Why a detail cannot be written that was handed over for a record. -/
def obstacle? (o : Outlet) (detail : Value) : Option Fault :=
  Json.obstacle? (o.room + 1) detail.sorted

theorem obstacle?_int (o : Outlet) (n : Int) :
    o.obstacle? (.int n) = if Numeral.isWritable n then none else some .longNumber := by
  rw [obstacle?, Value.sorted, Json.obstacle?]

theorem obstacle?_nested {o : Outlet} {n : Nat} (h : o.room < n) :
    o.obstacle? (.nested n) = some (.tooDeep .writing) := by
  rw [obstacle?, Value.sorted_nested]
  exact Json.obstacle?_nested h

end Outlet

namespace Logger

variable {l : Logger} {given : Members Value} (hkeys : (Pairs.keys (l.bound ++ given)).Nodup)

include hkeys

theorem obstacle?_eq : l.obstacle? given =
    Json.obstacleInMembers? (l.outlet.room + 1)
      ((Value.sortedMembers (l.bound ++ given)).mergeSort fun a b => a.1 ≤ b.1) := by
  rw [obstacle?, Pairs.merge_of_nodup hkeys, Value.sorted, Json.obstacle?, if_neg (by omega),
    if_neg (by omega)]
  rfl

/-- A record is written if each of its details is, those that were handed over and the bound ones. -/
theorem obstacle?_eq_none_iff : l.obstacle? given = none ↔
    ∀ m ∈ l.bound ++ given, Json.obstacle? (l.outlet.room + 1) m.2.sorted = none := by
  rw [obstacle?_eq hkeys, Json.obstacleInMembers?_eq_none_iff]
  simp only [List.mem_mergeSort, Value.sortedMembers_eq, List.forall_mem_map]

/-- What stops a record stops one of its details. -/
theorem exists_of_obstacle? {e : Fault} (h : l.obstacle? given = some e) :
    ∃ m ∈ l.bound ++ given, Json.obstacle? (l.outlet.room + 1) m.2.sorted = some e := by
  rw [obstacle?_eq hkeys] at h
  obtain ⟨m, hm, h⟩ := Json.exists_of_obstacleInMembers? h
  rw [List.mem_mergeSort, Value.sortedMembers_eq] at hm
  obtain ⟨m', hm', rfl⟩ := List.mem_map.1 hm
  exact ⟨m', hm', h⟩

end Logger

/-! ## Records of searches -/

/-- The record of a search for the numbers is written, or it does not pass. -/
def Outlet.CanTell (o : Outlet) (i : Int) (t : Option Int) : Prop :=
  o.passes .debug = true →
    Numeral.isWritable i = true ∧ ∀ n ∈ t, Numeral.isWritable n = true

namespace Finder

variable {b : Bank} {o : Outlet}

theorem bound_ofBank : (ofBank b o).logger.bound =
    [("component", .text "search_service"), ("tiered", .bool b.isTiered)] := rfl

/-- Details that a finder binds are always written. -/
theorem obstacle?_of_mem_bound {m : String × Value} (h : m ∈ (ofBank b o).logger.bound)
    (room : Nat) : Json.obstacle? room m.2.sorted = none := by
  rw [bound_ofBank] at h
  simp only [List.mem_cons, List.not_mem_nil, or_false] at h
  rcases h with rfl | rfl <;> rfl

/-- The record of a failure is stopped by what stops the category. -/
theorem obstacle?_category (v : Value) :
    (ofBank b o).logger.obstacle? [("category_index", v)] = o.obstacle? v := by
  have hkeys : (Pairs.keys ((ofBank b o).logger.bound ++ [("category_index", v)])).Nodup := by
    rw [bound_ofBank]
    simp
  cases hobstacle : (ofBank b o).logger.obstacle? [("category_index", v)] with
  | none =>
    exact ((Logger.obstacle?_eq_none_iff hkeys).1 hobstacle ("category_index", v) (by simp)).symm
  | some e =>
    obtain ⟨m, hm, h⟩ := Logger.exists_of_obstacle? hkeys hobstacle
    rcases List.mem_append.1 hm with hm | hm
    · rw [obstacle?_of_mem_bound hm] at h
      cases h
    · rw [List.mem_singleton.1 hm] at h
      exact h.symm

/-- The record of a success is stopped by what stops the category or the tier. -/
theorem obstacle?_category_tier (v w : Value) :
    ((ofBank b o).logger.obstacle? [("category_index", v), ("tier", w)] = none ↔
      o.obstacle? v = none ∧ o.obstacle? w = none) ∧
    ∀ e, (ofBank b o).logger.obstacle? [("category_index", v), ("tier", w)] = some e →
      o.obstacle? v = some e ∨ o.obstacle? w = some e := by
  have hkeys : (Pairs.keys
      ((ofBank b o).logger.bound ++ [("category_index", v), ("tier", w)])).Nodup := by
    rw [bound_ofBank]
    simp
  constructor
  · rw [Logger.obstacle?_eq_none_iff hkeys]
    simp only [List.forall_mem_append, List.forall_mem_cons, List.not_mem_nil, IsEmpty.forall_iff,
      implies_true, and_true]
    exact and_iff_right fun m hm => obstacle?_of_mem_bound hm _
  · intro e he
    obtain ⟨m, hm, h⟩ := Logger.exists_of_obstacle? hkeys he
    rcases List.mem_append.1 hm with hm | hm
    · rw [obstacle?_of_mem_bound hm] at h
      cases h
    · simp only [List.mem_cons, List.not_mem_nil, or_false] at hm
      rcases hm with rfl | rfl
      · exact .inl h
      · exact .inr h

/-- A failure is logged where its record passes, unless the category stops it. -/
theorem logFailure_cases (b : Bank) (o : Outlet) (s : Selection) (e : Fault) :
    (o.passes .error = false ∧ (ofBank b o).logFailure s e = .ok []) ∨
    (o.passes .error = true ∧ o.obstacle? s.category = none ∧
      ∃ r : Record, (ofBank b o).logFailure s e = .ok [r] ∧ r.severity = .error ∧
        Pairs.at? r.details "error" = some (.text e.message)) ∨
    (o.passes .error = true ∧
      ∃ e', o.obstacle? s.category = some e' ∧ (ofBank b o).logFailure s e = .error e') := by
  rw [logFailure, Logger.record, obstacle?_category]
  cases hpasses : o.passes .error with
  | false => exact .inl ⟨rfl, if_neg (by simp [ofBank, Logger.bind, hpasses])⟩
  | true =>
    rw [if_pos (show (ofBank b o).logger.outlet.passes .error = true from hpasses)]
    cases o.obstacle? s.category with
    | none =>
      refine .inr (.inl ⟨rfl, rfl, _, rfl, rfl, ?_⟩)
      simp [Logger.entry, Pairs.merge, Pairs.at?_put]
    | some e' => exact .inr (.inr ⟨rfl, e', rfl, rfl⟩)

/-- A success is logged where its record passes, unless the category or the tier stops it. -/
theorem logSuccess_cases (b : Bank) (o : Outlet) (s : Selection) (candidates results : Nat) :
    (o.passes .debug = false ∧ (ofBank b o).logSuccess s candidates results = .ok []) ∨
    (o.passes .debug = true ∧ o.obstacle? s.category = none ∧ o.obstacle? s.tier = none ∧
      ∃ r : Record, (ofBank b o).logSuccess s candidates results = .ok [r] ∧ r.severity = .debug ∧
        Pairs.at? r.details "candidates" = some (.int candidates) ∧
        Pairs.at? r.details "results" = some (.int results)) ∨
    (o.passes .debug = true ∧
      ∃ e, (o.obstacle? s.category = some e ∨ o.obstacle? s.tier = some e) ∧
        (ofBank b o).logSuccess s candidates results = .error e) := by
  obtain ⟨hnone, hsome⟩ := obstacle?_category_tier (b := b) (o := o) s.category s.tier
  rw [logSuccess, Logger.record]
  cases hpasses : o.passes .debug with
  | false => exact .inl ⟨rfl, if_neg (by simp [ofBank, Logger.bind, hpasses])⟩
  | true =>
    rw [if_pos (show (ofBank b o).logger.outlet.passes .debug = true from hpasses)]
    cases hobstacle : (ofBank b o).logger.obstacle?
        [("category_index", s.category), ("tier", s.tier)] with
    | none =>
      obtain ⟨hcategory, htier⟩ := hnone.1 hobstacle
      refine .inr (.inl ⟨rfl, hcategory, htier, _, rfl, rfl, ?_, ?_⟩)
      · simp [Logger.entry, Pairs.merge, Pairs.at?_put]
      · simp [Logger.entry, Pairs.merge, Pairs.at?_put]
    | some e => exact .inr (.inr ⟨rfl, e, hsome e hobstacle, rfl⟩)

/-- A tier that is given as a number is stopped by too many digits, and none by nothing. -/
theorem obstacle?_tierArgument (o : Outlet) (t : Option Int) :
    o.obstacle? (Bank.tierArgument t) =
      if ∀ n ∈ t, Numeral.isWritable n = true then none else some .longNumber := by
  cases t with
  | none => rfl
  | some n =>
    simp only [Option.mem_def, Option.some.injEq, forall_eq']
    exact o.obstacle?_int n

variable {i : Int} {t : Option Int} {query : Value}

/-- Where the category and the tier are numbers, nothing but a number that is too long stops the record
of a success. -/
theorem obstacle?_numbers (b : Bank) (o : Outlet) (i : Int) (t : Option Int) :
    (ofBank b o).logger.obstacle? [("category_index", .int i), ("tier", Bank.tierArgument t)] =
      if Numeral.isWritable i = true ∧ ∀ n ∈ t, Numeral.isWritable n = true then none
      else some .longNumber := by
  obtain ⟨hnone, hsome⟩ :=
    obstacle?_category_tier (b := b) (o := o) (.int i) (Bank.tierArgument t)
  rw [Outlet.obstacle?_int, obstacle?_tierArgument] at hnone hsome
  split_ifs with hnumbers
  · exact hnone.2 ⟨if_pos hnumbers.1, if_pos hnumbers.2⟩
  · cases hobstacle : (ofBank b o).logger.obstacle?
        [("category_index", .int i), ("tier", Bank.tierArgument t)] with
    | none =>
      obtain ⟨hi, ht⟩ := hnone.1 hobstacle
      exact absurd ⟨by simpa using hi, by simpa using ht⟩ hnumbers
    | some e =>
      rcases hsome e hobstacle with hi | ht
      · split at hi <;> cases hi
        rfl
      · split at ht <;> cases ht
        rfl

/-- The record of a search for numbers is written, or does not pass. -/
theorem logSuccess_of_canTell (h : o.CanTell i t) (candidates results : Nat) :
    ∃ rs, (ofBank b o).logSuccess ⟨.int i, Bank.tierArgument t, query⟩ candidates results =
      .ok rs := by
  rw [logSuccess, Logger.record]
  split_ifs with hpasses
  · rw [obstacle?_numbers, if_pos (h hpasses)]
    exact ⟨_, rfl⟩
  · exact ⟨_, rfl⟩

theorem logSuccess_of_not_canTell (h : ¬o.CanTell i t) (candidates results : Nat) :
    (ofBank b o).logSuccess ⟨.int i, Bank.tierArgument t, query⟩ candidates results =
      .error .longNumber := by
  obtain ⟨hpasses, hnumbers⟩ := Classical.not_imp.1 h
  rw [logSuccess, Logger.record, obstacle?_numbers, if_neg hnumbers]
  exact if_pos hpasses

/-- The record of a failed search for a number is written, or its number is too long. -/
theorem logFailure_of_int (b : Bank) (o : Outlet) (tier : Value) (e : Fault) :
    (∃ rs, (ofBank b o).logFailure ⟨.int i, tier, query⟩ e = .ok rs) ∨
      (ofBank b o).logFailure ⟨.int i, tier, query⟩ e = .error .longNumber := by
  rw [logFailure, Logger.record, obstacle?_category, Outlet.obstacle?_int]
  split_ifs
  · exact .inl ⟨_, rfl⟩
  · exact .inr rfl
  · exact .inl ⟨_, rfl⟩

end Finder

end Phrasebook
