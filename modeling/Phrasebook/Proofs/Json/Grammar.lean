import Phrasebook.Proofs.Json.Number

/-!
# Phrasebook.Proofs.Json.Grammar

Which texts are JSON.

`Spells` says which characters spell a value, the items of an array or the members of an object; how
many digits a whole number may have is left open, and how many levels there are. `Breaks` says which
texts are broken off at something that is spelled and yet not read: they are spelled up to it and end
with it. It is a whole number with more digits than a numeral may have, or something for which no level
is left (`Stops`). Both have one constructor for each way to go on, so what is said of all spellings is
shown by induction along them. A part begins with a character that is no white space and closes nothing
(`Opens`), and what stands behind a part does not carry on the number that it may end with.
-/

namespace Phrasebook

namespace Json

/-! ## The grammar -/

/-- White space, or nothing. -/
def Space (s : List Char) : Prop := ∀ c ∈ s, isSpace c = true

/-- Spellings of the name of a member, with the colon behind it. -/
inductive Name (marks : Nat) : String → List Char → Prop
  | mk {gs : List Glyph} {s w w' : List Char} (hs : InQuotes gs s) (hw : Space w)
      (hw' : Space w') : Name marks (tell marks gs) ('"' :: (s ++ (w ++ ':' :: w')))

/-- What can be spelled. Items are followed by the closing bracket; members come behind those before
them, and are followed by the closing brace. -/
inductive Part where
  | value (v : Value)
  | items (vs : List Value)
  | members (before all : Members Value)

/-- Spellings with room for so many levels, where `fits` says how many digits a whole number may have,
and half a pair is told by so many marks. -/
inductive Spells (fits : Nat → Prop) (marks : Nat) : Nat → Part → List Char → Prop
  | word {room : Nat} {s : List Char} {v : Value} (h : (s, v) ∈ words)
      (hroom : wordLevels v ≤ room) : Spells fits marks room (.value v) s
  | natural {room : Nat} {s : List Char} {v : Value} (h : Unsigned fits false v s) :
      Spells fits marks room (.value v) s
  | negative {room : Nat} {s : List Char} {v : Value} (h : Unsigned fits true v s) :
      Spells fits marks room (.value v) ('-' :: s)
  | text {room : Nat} {gs : List Glyph} {s : List Char} (h : InQuotes gs s) :
      Spells fits marks room (.value (.text (tell marks gs))) ('"' :: s)
  | noItems {room : Nat} {w : List Char} (hw : Space w) :
      Spells fits marks (room + 1) (.value (.array [])) ('[' :: (w ++ [']']))
  | array {room : Nat} {w s : List Char} {vs : List Value} (hw : Space w)
      (hs : Spells fits marks room (.items vs) s) :
      Spells fits marks (room + 1) (.value (.array vs)) ('[' :: (w ++ s))
  | noMembers {room : Nat} {w : List Char} (hw : Space w) :
      Spells fits marks (room + 1) (.value (.object [])) ('\x7b' :: (w ++ ['\x7d']))
  | object {room : Nat} {w s : List Char} {ms : Members Value} (hw : Space w)
      (hs : Spells fits marks room (.members [] ms) s) :
      Spells fits marks (room + 1) (.value (.object ms)) ('\x7b' :: (w ++ s))
  | lastItem {room : Nat} {s w : List Char} {v : Value} (hs : Spells fits marks room (.value v) s)
      (hw : Space w) : Spells fits marks room (.items [v]) (s ++ (w ++ [']']))
  | item {room : Nat} {s w w' t : List Char} {v : Value} {vs : List Value}
      (hs : Spells fits marks room (.value v) s) (hw : Space w) (hw' : Space w')
      (ht : Spells fits marks room (.items vs) t) :
      Spells fits marks room (.items (v :: vs)) (s ++ (w ++ ',' :: (w' ++ t)))
  | lastMember {room : Nat} {before : Members Value} {k s w : List Char} {key : String} {v : Value}
      (hk : Name marks key k) (hs : Spells fits marks room (.value v) s) (hw : Space w) :
      Spells fits marks room (.members before (Pairs.put key v before))
        (k ++ (s ++ (w ++ ['\x7d'])))
  | member {room : Nat} {before all : Members Value} {k s w w' t : List Char} {key : String}
      {v : Value} (hk : Name marks key k) (hs : Spells fits marks room (.value v) s) (hw : Space w)
      (hw' : Space w') (ht : Spells fits marks room (.members (Pairs.put key v before) all) t) :
      Spells fits marks room (.members before all) (k ++ (s ++ (w ++ ',' :: (w' ++ t))))

/-- A number of digits that a numeral may have. -/
def Short (digits : Nat) : Prop := digits ≤ Numeral.maxDigits

/-- What is spelled and yet not read, with room for so many levels: a whole number that is too long,
and what takes a level where none is left. -/
inductive Stops : Failure → Nat → List Char → Prop
  | natural {room : Nat} {ds : List Char} (hds : Whole ds) (hlong : Numeral.maxDigits < ds.length) :
      Stops (.longNumeral ds.length) room ds
  | negative {room : Nat} {ds : List Char} (hds : Whole ds) (hlong : Numeral.maxDigits < ds.length) :
      Stops (.longNumeral ds.length) room ('-' :: ds)
  | word {room : Nat} {s : List Char} {v : Value} (h : (s, v) ∈ words) (hroom : room < wordLevels v) :
      Stops (.tooDeep .calling) room s
  | array : Stops (.tooDeep .readingArray) 0 ['[']
  | object : Stops (.tooDeep .readingObject) 0 ['\x7b']

/-- What can be broken off. -/
inductive Kind where
  | value
  | items
  | members

/-- Texts that end with the first thing that stops the reading. -/
inductive Breaks (e : Failure) (marks : Nat) : Nat → Kind → List Char → Prop
  | here {room : Nat} {s : List Char} (h : Stops e room s) : Breaks e marks room .value s
  | array {room : Nat} {w s : List Char} (hw : Space w) (hs : Breaks e marks room .items s) :
      Breaks e marks (room + 1) .value ('[' :: (w ++ s))
  | object {room : Nat} {w s : List Char} (hw : Space w) (hs : Breaks e marks room .members s) :
      Breaks e marks (room + 1) .value ('\x7b' :: (w ++ s))
  | item {room : Nat} {s : List Char} (hs : Breaks e marks room .value s) :
      Breaks e marks room .items s
  | laterItem {room : Nat} {s w w' t : List Char} {v : Value}
      (hs : Spells Short marks room (.value v) s) (hw : Space w) (hw' : Space w')
      (ht : Breaks e marks room .items t) :
      Breaks e marks room .items (s ++ (w ++ ',' :: (w' ++ t)))
  | member {room : Nat} {k s : List Char} {key : String} (hk : Name marks key k)
      (hs : Breaks e marks room .value s) : Breaks e marks room .members (k ++ s)
  | laterMember {room : Nat} {k s w w' t : List Char} {key : String} {v : Value}
      (hk : Name marks key k) (hs : Spells Short marks room (.value v) s) (hw : Space w)
      (hw' : Space w') (ht : Breaks e marks room .members t) :
      Breaks e marks room .members (k ++ (s ++ (w ++ ',' :: (w' ++ t))))

/-- What stands behind a text leaves the failure as it is: it does not carry on a number. -/
def Failure.Leaves (e : Failure) (r : List Char) : Prop :=
  ∀ digits, e = .longNumeral digits → ¬Continues r

/-- The text is JSON for the value: a spelling of it with white space around. -/
def IsJson (fits : Nat → Prop) (room : Nat) (v : Value) (s : List Char) : Prop :=
  ∃ w t w', s = w ++ (t ++ w') ∧ Space w ∧ Spells fits (marksFor s) room (.value v) t ∧ Space w'

/-- The text is JSON up to something that stops the reading. -/
def IsBroken (e : Failure) (room : Nat) (s : List Char) : Prop :=
  ∃ w t r, s = w ++ (t ++ r) ∧ Space w ∧ Breaks e (marksFor s) room .value t ∧ e.Leaves r

/-! ## White space -/

theorem exists_space (s : List Char) : ∃ w, Space w ∧ s = w ++ skip s :=
  ⟨s.takeWhile isSpace, fun _ hc => List.mem_takeWhile_imp hc,
    List.takeWhile_append_dropWhile.symm⟩

/-- A separator, with the white space around it. -/
theorem exists_space_around {c : Char} {s t : List Char} (h : skip s = c :: t) :
    ∃ w w', Space w ∧ Space w' ∧ s = w ++ c :: (w' ++ skip t) := by
  obtain ⟨w, hw, hs⟩ := exists_space s
  obtain ⟨w', hw', ht⟩ := exists_space t
  refine ⟨w, w', hw, hw', ?_⟩
  rw [← ht, ← h]
  exact hs

theorem skip_append {w : List Char} (hw : Space w) (s : List Char) : skip (w ++ s) = skip s := by
  rw [skip, List.dropWhile_append_of_pos hw]
  rfl

theorem skip_cons {c : Char} (hc : isSpace c = false) (s : List Char) : skip (c :: s) = c :: s := by
  rw [skip, List.dropWhile_cons_of_neg (by simp [hc])]

theorem skip_append_cons {w : List Char} (hw : Space w) {c : Char} (hc : isSpace c = false)
    (s : List Char) : skip (w ++ c :: s) = c :: s := by
  rw [skip_append hw, skip_cons hc]

/-! ## Where parts begin -/

/-- The text begins with a character that opens something. -/
def Opens (s : List Char) : Prop :=
  ∃ c t, s = c :: t ∧ isSpace c = false ∧ c ≠ ']' ∧ c ≠ '\x7d'

theorem Opens.length_pos {s : List Char} (h : Opens s) : 0 < s.length := by
  obtain ⟨c, s, rfl, -⟩ := h
  exact Nat.succ_pos _

theorem Opens.append {s : List Char} (h : Opens s) (t : List Char) : Opens (s ++ t) := by
  obtain ⟨c, s, rfl, hc⟩ := h
  exact ⟨c, s ++ t, rfl, hc⟩

theorem Opens.skip_append {s : List Char} (h : Opens s) {w : List Char} (hw : Space w) :
    skip (w ++ s) = s := by
  obtain ⟨c, s, rfl, hc, -⟩ := h
  rw [Json.skip_append hw, skip_cons hc]

theorem opens_of_isDigit {c : Char} (hc : isDigit c = true) (s : List Char) : Opens (c :: s) := by
  have hne : ∀ d, isDigit d = false → c ≠ d := fun d hd => ne_of_isDigit hc hd
  refine ⟨c, s, rfl, ?_, hne ']' rfl, hne '\x7d' rfl⟩
  simp [isSpace, hne ' ' rfl, hne '\t' rfl, hne '\n' rfl, hne '\r' rfl]

theorem Name.opens {marks : Nat} {key : String} {s : List Char} (h : Name marks key s) :
    Opens s := by
  cases h with
  | mk hs hw hw' => exact ⟨'"', _, rfl, by decide⟩

/-- A word begins with a letter or a sign. -/
theorem head_of_mem_words {s : List Char} {v : Value} (h : (s, v) ∈ words) :
    ∃ c t, s = c :: t ∧ (isSpace c = false ∧ c ≠ ']' ∧ c ≠ '\x7d') ∧
      c ≠ '"' ∧ c ≠ '[' ∧ c ≠ '\x7b' := by
  simp only [words, List.mem_cons, Prod.mk.injEq, List.not_mem_nil, or_false] at h
  rcases h with ⟨rfl, -⟩ | ⟨rfl, -⟩ | ⟨rfl, -⟩ | ⟨rfl, -⟩ | ⟨rfl, -⟩ | ⟨rfl, -⟩ <;>
    exact ⟨_, _, rfl, by decide⟩

theorem Spells.opens {fits : Nat → Prop} {marks room : Nat} {p : Part} {s : List Char}
    (h : Spells fits marks room p s) : Opens s := by
  induction h with
  | word h hroom =>
    obtain ⟨c, t, rfl, hc, -⟩ := head_of_mem_words h
    exact ⟨c, t, rfl, hc⟩
  | natural h =>
    obtain ⟨d, t, rfl, hd⟩ := h.head_isDigit
    exact opens_of_isDigit hd t
  | negative h | text h | noItems hw | array hw hs ih | noMembers hw | object hw hs ih =>
    exact ⟨_, _, rfl, by decide⟩
  | lastItem hs hw ih | item hs hw hw' ht ih => exact ih.append _
  | lastMember hk hs hw ih | member hk hs hw hw' ht ih => exact hk.opens.append _

theorem Stops.opens {e : Failure} {room : Nat} {s : List Char} (h : Stops e room s) : Opens s := by
  cases h with
  | natural hds hlong =>
    obtain ⟨d, t, rfl, hd⟩ := hds.head_isDigit
    exact opens_of_isDigit hd t
  | word h hroom =>
    obtain ⟨c, t, rfl, hc, -⟩ := head_of_mem_words h
    exact ⟨c, t, rfl, hc⟩
  | negative hds hlong | array | object => exact ⟨_, _, rfl, by decide⟩

theorem Breaks.opens {e : Failure} {marks room : Nat} {k : Kind} {s : List Char}
    (h : Breaks e marks room k s) : Opens s := by
  induction h with
  | here h => exact h.opens
  | array hw hs ih | object hw hs ih => exact ⟨_, _, rfl, by decide⟩
  | item hs ih => exact ih
  | laterItem hs hw hw' ht ih => exact hs.opens.append _
  | member hk hs ih | laterMember hk hs hw hw' ht ih => exact hk.opens.append _

/-! ## What follows a number -/

theorem not_continues_of_isSpace {c : Char} (hc : isSpace c = true) (s : List Char) :
    ¬Continues (c :: s) := by
  simp only [isSpace, Bool.or_eq_true, decide_eq_true_eq] at hc
  rcases hc with ((rfl | rfl) | rfl) | rfl <;> exact not_continues_cons (by decide) (by decide) s

theorem Space.not_continues {w : List Char} (hw : Space w) : ¬Continues w := by
  cases w with
  | nil => exact not_continues_nil
  | cons c w => exact not_continues_of_isSpace (hw c List.mem_cons_self) w

/-- White space and what closes or separates do not carry a number on. -/
theorem not_continues_space {w : List Char} (hw : Space w) {c : Char}
    (hc : c = ',' ∨ c = ']' ∨ c = '\x7d') (s : List Char) : ¬Continues (w ++ c :: s) := by
  cases w with
  | nil => rcases hc with rfl | rfl | rfl <;> exact not_continues_cons (by decide) (by decide) s
  | cons d w => exact not_continues_of_isSpace (hw d List.mem_cons_self) _

end Json

end Phrasebook
