import Phrasebook.Proofs.Json.Grammar

/-!
# Phrasebook.Proofs.Json.Parts

How each part of a JSON text is read, given what it begins with and what becomes of the parts in it.

The readers carry proofs that something was taken; here they are equations between outcomes, and every
other proof about reading rests on these equations.
-/

namespace Phrasebook

namespace Json

/-! ## By what is ahead -/

/-- An outcome, with something made of what is read. -/
def mapRead {α β : Type} (f : α → β) : Except Failure (α × List Char) → Except Failure (β × List Char)
  | .error e => .error e
  | .ok (a, r) => .ok (f a, r)

@[simp] theorem mapRead_id {α : Type} (x : Except Failure (α × List Char)) : mapRead id x = x := by
  rcases x with e | ⟨a, r⟩ <;> rfl

section Outcomes

variable (marks room : Nat)

/-- A word or a number. -/
theorem outcome_scalar (c : Char) (s : List Char) : (scalar room (c :: s)).outcome =
    match words.find? fun w => w.1.isPrefixOf (c :: s) with
    | some (w, v) =>
      if room < wordLevels v then .error (.tooDeep .calling) else .ok (v, s.drop (w.length - 1))
    | none => if c = '-' then (unsigned true s).outcome else (unsigned false (c :: s)).outcome := by
  rw [scalar]
  rcases hfind : words.find? fun w => w.1.isPrefixOf (c :: s) with _ | ⟨w, v⟩
  · simp only [hfind]
    split_ifs
    · exact Step.outcome_within _ _
    · rfl
  · simp only [hfind]
    split_ifs <;> rfl

theorem outcome_value_text (s : List Char) : (value marks room ('"' :: s)).outcome =
    match (textBody s s).outcome with
    | .error e => .error (.flawed e room)
    | .ok (gs, r) => .ok (.text (tell marks gs), r) := by
  rw [value]
  rcases textBody s s with e | ⟨gs, r⟩ <;> rfl

theorem outcome_value_array (s : List Char) : (value marks room ('[' :: s)).outcome =
    if room = 0 then .error (.tooDeep .readingArray)
    else match skip s with
      | ']' :: r => .ok (.array [], r)
      | t => mapRead .array (items marks (room - 1) t).outcome := by
  rw [value]
  split_ifs
  · rfl
  split
  · rename_i h
    simp only [h]
    rfl
  · rename_i h
    rcases hitems : items marks (room - 1) (skip s) with e | ⟨vs, r⟩
    · dsimp only
      split
      · exact absurd ‹_› (h _)
      · rw [hitems]
        rfl
    · dsimp only
      split
      · exact absurd ‹_› (h _)
      · rw [hitems]
        rfl

theorem outcome_value_object (s : List Char) : (value marks room ('\x7b' :: s)).outcome =
    if room = 0 then .error (.tooDeep .readingObject)
    else match skip s with
      | '\x7d' :: r => .ok (.object [], r)
      | t => mapRead .object (members marks (room - 1) [] t).outcome := by
  rw [value]
  split_ifs
  · rfl
  split
  · rename_i h
    simp only [h]
    rfl
  · rename_i h
    rcases hmembers : members marks (room - 1) [] (skip s) with e | ⟨vs, r⟩
    · dsimp only
      split
      · exact absurd ‹_› (h _)
      · rw [hmembers]
        rfl
    · dsimp only
      split
      · exact absurd ‹_› (h _)
      · rw [hmembers]
        rfl

theorem outcome_items (s : List Char) : (items marks room s).outcome =
    match (value marks room s).outcome with
    | .error e => .error e
    | .ok (v, r) =>
      match skip r with
      | ']' :: t => .ok ([v], t)
      | ',' :: t => mapRead (v :: ·) (items marks room (skip t)).outcome
      | t => .error (.flawed ⟨.commaExpected, t.length⟩ room) := by
  rw [items]
  rcases value marks room s with e | ⟨v, r⟩
  · rfl
  · dsimp only [Step.outcome_ok]
    split
    · rename_i h
      simp only [h]
      rfl
    · rename_i t h
      simp only [h]
      rcases items marks room (skip t) with e | ⟨vs, r'⟩ <;> rfl
    · rename_i hclose hmore
      split
      · exact absurd ‹_› (hclose _)
      · exact absurd ‹_› (hmore _)
      · rfl

theorem outcome_members (before : Members Value) (s : List Char) :
    (members marks room before ('"' :: s)).outcome =
      match (textBody s s).outcome with
      | .error e => .error (.flawed e room)
      | .ok (gs, a) =>
        match skip a with
        | ':' :: b =>
          match (value marks room (skip b)).outcome with
          | .error e => .error e
          | .ok (v, d) =>
            match skip d with
            | '\x7d' :: t => .ok (Pairs.put (tell marks gs) v before, t)
            | ',' :: t => (members marks room (Pairs.put (tell marks gs) v before) (skip t)).outcome
            | t => .error (.flawed ⟨.commaExpected, t.length⟩ room)
        | t => .error (.flawed ⟨.colonExpected, t.length⟩ room) := by
  rw [members]
  rcases textBody s s with e | ⟨gs, a⟩
  · rfl
  · dsimp only [Step.outcome_ok]
    split
    · rename_i b h
      simp only [h]
      rcases value marks room (skip b) with e | ⟨v, d⟩
      · rfl
      · dsimp only [Step.outcome_ok]
        split
        · rename_i h
          simp only [h]
          rfl
        · rename_i t h
          simp only [h]
          rcases members marks room (Pairs.put (tell marks gs) v before) (skip t)
            with e | ⟨ms, r'⟩ <;> rfl
        · rename_i hclose hmore
          split
          · exact absurd ‹_› (hclose _)
          · exact absurd ‹_› (hmore _)
          · rfl
    · rename_i h
      split
      · exact absurd ‹_› (h _)
      · rfl

end Outcomes

/-! ## Words and numbers -/

/-- No word begins like a number. -/
theorem find?_words_eq_none {c : Char} {s : List Char}
    (h : isDigit c = true ∨ c = '-' ∧ ∀ t, s ≠ 'I' :: t) :
    words.find? (fun w => w.1.isPrefixOf (c :: s)) = none := by
  rw [List.find?_eq_none]
  intro w hw hprefix
  rw [List.isPrefixOf_iff_prefix] at hprefix
  obtain ⟨t, ht⟩ := hprefix
  simp only [words, List.mem_cons, List.not_mem_nil, or_false] at hw
  rcases hw with rfl | rfl | rfl | rfl | rfl | rfl
  case inr.inr.inr.inr.inr =>
    cases ht
    rcases h with h | ⟨-, hs⟩
    · exact absurd h (by decide)
    · exact hs _ rfl
  all_goals
    cases ht
    rcases h with h | ⟨h, -⟩ <;> exact absurd h (by decide)

theorem scalar_of_word {w : List Char} {v : Value} (h : (w, v) ∈ words) (room : Nat)
    (r : List Char) : (scalar room (w ++ r)).outcome =
      if room < wordLevels v then .error (.tooDeep .calling) else .ok (v, r) := by
  simp only [words, List.mem_cons, Prod.mk.injEq, List.not_mem_nil, or_false] at h
  rcases h with ⟨rfl, rfl⟩ | ⟨rfl, rfl⟩ | ⟨rfl, rfl⟩ | ⟨rfl, rfl⟩ | ⟨rfl, rfl⟩ | ⟨rfl, rfl⟩ <;>
    exact outcome_scalar room _ _

/-- A digit opens a number. -/
theorem outcome_value_digit {c : Char} (hc : isDigit c = true) (room : Nat) (s : List Char) :
    (value marks room (c :: s)).outcome = (unsigned false (c :: s)).outcome := by
  have hne : ∀ d, isDigit d = false → c ≠ d := fun d hd => ne_of_isDigit hc hd
  rw [value.eq_4, outcome_scalar, find?_words_eq_none (.inl hc)]
  · simp only [if_neg (hne '-' rfl)]
  · exact fun r h => hne '"' rfl (List.cons.inj h).1
  · exact fun r h => hne '[' rfl (List.cons.inj h).1
  · exact fun r h => hne '\x7b' rfl (List.cons.inj h).1

/-- A sign with a digit behind it opens a number. -/
theorem outcome_value_sign {c : Char} (hc : isDigit c = true) (room : Nat) (s : List Char) :
    (value marks room ('-' :: c :: s)).outcome = (unsigned true (c :: s)).outcome := by
  have hs : ∀ t, c :: s ≠ 'I' :: t := by
    rintro t h
    cases h
    cases hc
  rw [value.eq_4, outcome_scalar, find?_words_eq_none (.inr ⟨rfl, hs⟩)]
  · rfl
  · exact fun r h => by cases h
  · exact fun r h => by cases h
  · exact fun r h => by cases h

theorem outcome_value_word {s : List Char} {v : Value} (h : (s, v) ∈ words) (room : Nat)
    (r : List Char) : (value marks room (s ++ r)).outcome =
      if room < wordLevels v then .error (.tooDeep .calling) else .ok (v, r) := by
  obtain ⟨c, t, hs, -, htext, harray, hobject⟩ := head_of_mem_words h
  rw [value.eq_4, scalar_of_word h]
  all_goals
    rw [hs]
    rintro t' ht
    simp_all

/-! ## Behind what is spelled -/

section Behind

variable {room : Nat} {s w w' t r : List Char} {v : Value} {e : Failure}

theorem outcome_value_items (hw : Space w) (hs : Opens s) :
    (value marks (room + 1) ('[' :: (w ++ s))).outcome =
      mapRead .array (items marks room s).outcome := by
  rw [outcome_value_array, if_neg (Nat.succ_ne_zero room), hs.skip_append hw]
  obtain ⟨c, t, rfl, -, hclose, -⟩ := hs
  split
  · exact absurd (List.cons.inj ‹_›).1 hclose
  · rfl

theorem outcome_value_members (hw : Space w) (hs : Opens s) :
    (value marks (room + 1) ('\x7b' :: (w ++ s))).outcome =
      mapRead .object (members marks room [] s).outcome := by
  rw [outcome_value_object, if_neg (Nat.succ_ne_zero room), hs.skip_append hw]
  obtain ⟨c, t, rfl, -, -, hclose⟩ := hs
  split
  · exact absurd (List.cons.inj ‹_›).1 hclose
  · rfl

theorem outcome_items_error (h : (value marks room s).outcome = .error e) :
    (items marks room s).outcome = .error e := by
  rw [outcome_items, h]

theorem outcome_items_close (hw : Space w)
    (h : (value marks room s).outcome = .ok (v, w ++ ']' :: r)) :
    (items marks room s).outcome = .ok ([v], r) := by
  rw [outcome_items, h]
  simp only [skip_append_cons hw (rfl : isSpace ']' = false)]

theorem outcome_items_more (hw : Space w) (hw' : Space w') (ht : Opens t)
    (h : (value marks room s).outcome = .ok (v, w ++ ',' :: (w' ++ t))) :
    (items marks room s).outcome = mapRead (v :: ·) (items marks room t).outcome := by
  rw [outcome_items, h]
  simp only [skip_append_cons hw (rfl : isSpace ',' = false)]
  rw [ht.skip_append hw']

variable {key : String} {k : List Char} (hk : Name marks key k) (before : Members Value)
  (hs : Opens s)

include hk hs

/-- Behind its name, a member is read as a value and what follows it. -/
theorem outcome_members_name : (members marks room before (k ++ s)).outcome =
    match (value marks room s).outcome with
    | .error e => .error e
    | .ok (v, d) =>
      match skip d with
      | '\x7d' :: t => .ok (Pairs.put key v before, t)
      | ',' :: t => (members marks room (Pairs.put key v before) (skip t)).outcome
      | t => .error (.flawed ⟨.commaExpected, t.length⟩ room) := by
  cases hk with
  | @mk gs t w w' ht hw hw' =>
    have happend : '"' :: (t ++ (w ++ ':' :: w')) ++ s = '"' :: (t ++ (w ++ ':' :: (w' ++ s))) := by
      simp
    rw [happend, outcome_members, textBody_of_inQuotes ht]
    simp only [skip_append_cons hw (rfl : isSpace ':' = false)]
    rw [hs.skip_append hw']

theorem outcome_members_error (h : (value marks room s).outcome = .error e) :
    (members marks room before (k ++ s)).outcome = .error e := by
  rw [outcome_members_name hk before hs, h]

theorem outcome_members_close (hw : Space w)
    (h : (value marks room s).outcome = .ok (v, w ++ '\x7d' :: r)) :
    (members marks room before (k ++ s)).outcome = .ok (Pairs.put key v before, r) := by
  rw [outcome_members_name hk before hs, h]
  simp only [skip_append_cons hw (rfl : isSpace '\x7d' = false)]

theorem outcome_members_more (hw : Space w) (hw' : Space w') (ht : Opens t)
    (h : (value marks room s).outcome = .ok (v, w ++ ',' :: (w' ++ t))) :
    (members marks room before (k ++ s)).outcome =
      (members marks room (Pairs.put key v before) t).outcome := by
  rw [outcome_members_name hk before hs, h]
  simp only [skip_append_cons hw (rfl : isSpace ',' = false)]
  rw [ht.skip_append hw']

end Behind

/-! ## Whole texts -/

theorem outcome_value_mark (marks room : Nat) (s : List Char) :
    (value marks room ('\uFEFF' :: s)).outcome =
    .error (.noValue (s.length + 1)) := by
  rw [value.eq_4]
  · rfl
  all_goals rintro r h; cases h

/-- A byte order mark opens no value, so it needs no case of its own. -/
theorem read_eq (room : Nat) (s : List Char) :
    (∃ m left, read room s = .error (.malformed m) ∧
      (value (marksFor s) room (skip s)).outcome = .error (.noValue left)) ∨
    read room s =
      match (value (marksFor s) room (skip s)).outcome with
      | .error e => .error (e.refusal s)
      | .ok (v, r) =>
        if (skip r).isEmpty then .ok v
        else .error (.malformed ⟨.moreThanOneValue, Place.of s (s.length - (skip r).length)⟩) := by
  unfold read
  split
  · rw [skip_cons (by decide), outcome_value_mark]
    exact .inl ⟨_, _, rfl, rfl⟩
  · right
    rcases value (marksFor s) room (skip s) with e | ⟨v, r⟩ <;> rfl

theorem read_eq_ok_iff_value {room : Nat} {s : List Char} {v : Value} :
    read room s = .ok v ↔
      ∃ r, (value (marksFor s) room (skip s)).outcome = .ok (v, r) ∧ skip r = [] := by
  rcases read_eq room s with ⟨m, left, hread, hvalue⟩ | hread
  · simp [hread, hvalue]
  · rw [hread]
    rcases (value (marksFor s) room (skip s)).outcome with e | ⟨v', r⟩
    · simp
    · by_cases hr : skip r = [] <;> simp [hr]

/-- A refusal for something other than the form of the text comes of a failure in the value. -/
theorem read_eq_error_iff_value {room : Nat} {s : List Char} {refusal : Refusal}
    (h : ∀ m, refusal ≠ .malformed m) : read room s = .error refusal ↔
      ∃ e, (value (marksFor s) room (skip s)).outcome = .error e ∧ e.refusal s = refusal := by
  rcases read_eq room s with ⟨m, left, hread, hvalue⟩ | hread
  · simp [hread, hvalue, Failure.refusal, (h _).symm]
  · rw [hread]
    rcases (value (marksFor s) room (skip s)).outcome with e | ⟨v', r⟩
    · simp
    · by_cases hr : skip r = [] <;> simp [hr, (h _).symm]

end Json

end Phrasebook
