import Mathlib
import Phrasebook.Number.Numeral

/-!
# Phrasebook.Proofs.Spelling

How a number may be spelled.

`Figures` are digits of any script with single bars between them; `Spells` puts a sign in front of
them and blanks around. Reading accepts exactly these spellings and gives the number of their digits
(`read_eq_ok_iff`). The argument goes from the inside out: which bodies are figures
(`figures_iff`), where a body ends (`readUnsigned_eq_ok_iff`), and what stands in front of it. A
sign and digits alone are the plainest spelling (`read_of_decimal`).
-/

namespace Phrasebook

namespace Digit

/-- From where to where there are decimal or ornamental digits. -/
def ranges : List (Nat × Nat) := zeros.map (fun z => (z, z + 9)) ++ ornamental

theorem isDigitLike_iff (c : Char) :
    isDigitLike c = true ↔ ∃ r ∈ ranges, r.1 ≤ c.toNat ∧ c.toNat ≤ r.2 := by
  simp [isDigitLike, ranges, value?, or_and_right, exists_or]

/-- The character is a decimal digit of some script. -/
def isDecimal (c : Char) : Bool := (value? c).isSome

theorem value?_lt {c : Char} {d : Nat} (h : value? c = some d) : d < 10 := by
  obtain ⟨z, hz, rfl⟩ := Option.map_eq_some_iff.1 h
  have hrange := List.find?_some hz
  simp only [Bool.and_eq_true, decide_eq_true_eq] at hrange
  omega

theorem exists_value_of_isDecimal {c : Char} (h : isDecimal c = true) : ∃ d, value? c = some d :=
  Option.isSome_iff_exists.1 h

theorem isDigitLike_of_value? {c : Char} {d : Nat} (h : value? c = some d) :
    isDigitLike c = true := by
  simp [isDigitLike, h]

/-- No blank lies among digits, and none of the marks of a numeral. -/
theorem ranges_apart : ∀ r ∈ ranges, (r.2 < 0x9 ∨ 0xD < r.1) ∧ (r.2 < 0x1C ∨ 0x20 < r.1) ∧
    (r.2 < 0x2B ∨ 0x2D < r.1) ∧ (r.2 < 0x5F ∨ 0x5F < r.1) ∧ (r.2 < 0x85 ∨ 0x85 < r.1) ∧
    (r.2 < 0xA0 ∨ 0xA0 < r.1) ∧ (r.2 < 0x1680 ∨ 0x1680 < r.1) ∧
    (r.2 < 0x2000 ∨ 0x205F < r.1) ∧ (r.2 < 0x3000 ∨ 0x3000 < r.1) := by
  decide +kernel

theorem not_isBlank_of_isDigitLike {c : Char} (h : isDigitLike c = true) :
    Blank.isBlank c = false := by
  obtain ⟨r, hr, hle⟩ := (isDigitLike_iff c).1 h
  have hapart := ranges_apart r hr
  simp only [Blank.isBlank, Bool.or_eq_false_iff, Bool.and_eq_false_iff, beq_eq_false_iff_ne,
    decide_eq_false_iff_not]
  omega

theorem not_isNumeralBlank_of_isDigitLike {c : Char} (h : isDigitLike c = true) :
    Blank.isNumeralBlank c = false := by
  rw [Blank.isNumeralBlank, not_isBlank_of_isDigitLike h, Bool.false_and]

theorem ne_mark_of_isDigitLike {c : Char} (h : isDigitLike c = true) :
    c ≠ '+' ∧ c ≠ '-' ∧ c ≠ '_' := by
  obtain ⟨r, hr, hle⟩ := (isDigitLike_iff c).1 h
  have hapart := ranges_apart r hr
  have hmark : ∀ d : Char, c = d → d.toNat = 0x2B ∨ d.toNat = 0x2D ∨ d.toNat = 0x5F → False := by
    rintro d rfl hd
    omega
  exact ⟨fun e => hmark _ e (by decide), fun e => hmark _ e (by decide),
    fun e => hmark _ e (by decide)⟩

end Digit

namespace Numeral

/-- Digits, by value, and single bars between them. -/
inductive Figures : List Nat → List Char → Prop
  | last {c : Char} {d : Nat} (hc : Digit.value? c = some d) : Figures [d] [c]
  | next {c : Char} {d : Nat} {ds : List Nat} {cs : List Char} (hc : Digit.value? c = some d)
      (hcs : Figures ds cs) : Figures (d :: ds) (c :: cs)
  | bar {c : Char} {d : Nat} {ds : List Nat} {cs : List Char} (hc : Digit.value? c = some d)
      (hcs : Figures ds cs) : Figures (d :: ds) (c :: '_' :: cs)

/-- The sign of a numeral; a positive number may go without. -/
inductive Sign : Bool → List Char → Prop
  | absent : Sign false []
  | plus : Sign false ['+']
  | minus : Sign true ['-']

/-- The text spells the number: blanks, a sign, figures and blanks. -/
inductive Spells : Int → List Char → Prop
  | mk {before sign body behind : List Char} {negative : Bool} {ds : List Nat}
      (hbefore : ∀ c ∈ before, Blank.isNumeralBlank c = true) (hsign : Sign negative sign)
      (hbody : Figures ds body) (hlen : ds.length ≤ maxDigits)
      (hbehind : ∀ c ∈ behind, Blank.isNumeralBlank c = true) :
      Spells (if negative then -(ofDigits ds) else ofDigits ds)
        (before ++ (sign ++ (body ++ behind)))

/-! ## The body of a numeral -/

theorem not_isBody_of_isNumeralBlank {c : Char} (h : Blank.isNumeralBlank c = true) :
    isBody c = false := by
  cases hv : Digit.value? c with
  | some d =>
    rw [Digit.not_isNumeralBlank_of_isDigitLike (Digit.isDigitLike_of_value? hv)] at h
    cases h
  | none =>
    have hbar : c ≠ '_' := by
      rintro rfl
      exact absurd h (by decide)
    simp [isBody, hv, hbar]

theorem exists_value_of_isBody {c : Char} (h : isBody c = true) (hbar : c ≠ '_') :
    ∃ d, Digit.value? c = some d := by
  simpa [isBody, hbar, Option.isSome_iff_exists] using h

theorem barsInside_iff (body : List Char) :
    barsInside body = true ↔ body.head? ≠ some '_' ∧ body.getLast? ≠ some '_' ∧
      ∀ p ∈ body.zip body.tail, p.1 = '_' → p.2 ≠ '_' := by
  simp [barsInside, and_assoc, imp_iff_not_or]

theorem digits_cons {c : Char} {d : Nat} (h : Digit.value? c = some d) (cs : List Char) :
    digits (c :: cs) = d :: digits cs := by
  simp [digits, h]

theorem digits_bar (cs : List Char) : digits ('_' :: cs) = digits cs := by
  have h : Digit.value? '_' = none := by decide
  simp [digits, h]

/-- What one digit in front, and a bar behind it, do to the bars. -/
theorem barsInside_cons {c : Char} (hc : c ≠ '_') {cs : List Char} (hcs : barsInside cs = true) :
    barsInside (c :: cs) = true := by
  rw [barsInside_iff] at hcs ⊢
  cases cs with
  | nil => simpa using hc
  | cons d cs =>
    refine ⟨by simpa using hc, by simpa using hcs.2.1, ?_⟩
    intro p hp
    rcases List.mem_cons.1 hp with rfl | hp
    · exact fun h => absurd h hc
    · exact hcs.2.2 p hp

theorem barsInside_bar {c : Char} (hc : c ≠ '_') {cs : List Char} (hne : cs ≠ [])
    (hcs : barsInside cs = true) : barsInside (c :: '_' :: cs) = true := by
  rw [barsInside_iff] at hcs ⊢
  obtain ⟨d, cs, rfl⟩ := List.exists_cons_of_ne_nil hne
  refine ⟨by simpa using hc, by simpa using hcs.2.1, ?_⟩
  intro p hp
  rcases List.mem_cons.1 hp with rfl | hp
  · exact fun h => absurd h hc
  rcases List.mem_cons.1 hp with rfl | hp
  · exact fun _ h => hcs.1 (by simpa using h)
  · exact hcs.2.2 p hp

theorem Figures.ne_nil {ds : List Nat} {cs : List Char} (h : Figures ds cs) : cs ≠ [] := by
  cases h <;> exact List.cons_ne_nil _ _

theorem Figures.isBody {ds : List Nat} {cs : List Char} (h : Figures ds cs) :
    ∀ c ∈ cs, isBody c = true := by
  induction h with
  | last hc => simp [Numeral.isBody, hc]
  | next hc _ ih => simpa [Numeral.isBody, hc] using ih
  | bar hc _ ih => simpa [Numeral.isBody, hc] using ih

theorem Figures.digits_eq {ds : List Nat} {cs : List Char} (h : Figures ds cs) :
    digits cs = ds := by
  induction h with
  | last hc => rw [digits_cons hc]; rfl
  | next hc _ ih => rw [digits_cons hc, ih]
  | bar hc _ ih => rw [digits_cons hc, digits_bar, ih]

theorem ne_bar_of_value? {c : Char} {d : Nat} (h : Digit.value? c = some d) : c ≠ '_' :=
  (Digit.ne_mark_of_isDigitLike (Digit.isDigitLike_of_value? h)).2.2

theorem Figures.barsInside {ds : List Nat} {cs : List Char} (h : Figures ds cs) :
    barsInside cs = true := by
  induction h with
  | last hc => exact barsInside_cons (ne_bar_of_value? hc) rfl
  | next hc _ ih => exact barsInside_cons (ne_bar_of_value? hc) ih
  | bar hc hcs ih => exact barsInside_bar (ne_bar_of_value? hc) hcs.ne_nil ih

/-- A body with its bars inside is figures: a digit, and behind it or behind one bar a body. -/
theorem figures_digits : ∀ cs : List Char, cs ≠ [] → (∀ c ∈ cs, isBody c = true) →
    barsInside cs = true → Figures (digits cs) cs
  | [], hne, _, _ => absurd rfl hne
  | [c], _, hbody, hbars => by
    obtain ⟨d, hd⟩ := exists_value_of_isBody (hbody c List.mem_cons_self)
      (fun e => ((barsInside_iff _).1 hbars).1 (by rw [e]; rfl))
    rw [digits_cons hd]
    exact .last hd
  | c :: e :: cs, _, hbody, hbars => by
    obtain ⟨hfirst, hlast, hpairs⟩ := (barsInside_iff _).1 hbars
    obtain ⟨d, hd⟩ := exists_value_of_isBody (hbody c List.mem_cons_self)
      (fun e => hfirst (by rw [e]; rfl))
    have hrest : ∀ x ∈ e :: cs, isBody x = true := fun x hx => hbody x (List.mem_cons_of_mem c hx)
    have hbehind : ∀ p ∈ (e :: cs).zip cs, p.1 = '_' → p.2 ≠ '_' :=
      fun p hp => hpairs p (List.mem_cons_of_mem _ hp)
    rw [digits_cons hd]
    by_cases hbar : e = '_'
    · -- A bar has a digit behind it, so the recursion goes on behind the bar.
      subst hbar
      cases cs with
      | nil => exact absurd rfl hlast
      | cons x cs =>
        have hx : x ≠ '_' := hbehind ('_', x) List.mem_cons_self rfl
        have hinner : barsInside (x :: cs) = true := (barsInside_iff _).2
          ⟨by simpa using hx, by simpa using hlast, fun p hp => hbehind p (List.mem_cons_of_mem _ hp)⟩
        rw [digits_bar]
        exact .bar hd (figures_digits (x :: cs) (List.cons_ne_nil _ _)
          (fun y hy => hrest y (List.mem_cons_of_mem _ hy)) hinner)
    · have hinner : barsInside (e :: cs) = true := (barsInside_iff _).2
        ⟨by simpa using hbar, by simpa using hlast, hbehind⟩
      exact .next hd (figures_digits (e :: cs) (List.cons_ne_nil _ _) hrest hinner)

theorem figures_iff (ds : List Nat) (cs : List Char) :
    Figures ds cs ↔
      cs ≠ [] ∧ (∀ c ∈ cs, isBody c = true) ∧ barsInside cs = true ∧ digits cs = ds := by
  constructor
  · intro h
    exact ⟨h.ne_nil, h.isBody, h.barsInside, h.digits_eq⟩
  · rintro ⟨hne, hbody, hbars, rfl⟩
    exact figures_digits cs hne hbody hbars

theorem Figures.head {ds : List Nat} {cs : List Char} (h : Figures ds cs) :
    ∃ c cs', cs = c :: cs' ∧ Digit.isDigitLike c = true := by
  cases h with
  | last hc => exact ⟨_, _, rfl, Digit.isDigitLike_of_value? hc⟩
  | next hc _ => exact ⟨_, _, rfl, Digit.isDigitLike_of_value? hc⟩
  | bar hc _ => exact ⟨_, _, rfl, Digit.isDigitLike_of_value? hc⟩

theorem Figures.lt_ten {ds : List Nat} {cs : List Char} (h : Figures ds cs) : ∀ d ∈ ds, d < 10 := by
  induction h with
  | last hc => exact List.forall_mem_singleton.2 (Digit.value?_lt hc)
  | next hc _ ih => exact List.forall_mem_cons.2 ⟨Digit.value?_lt hc, ih⟩
  | bar hc _ ih => exact List.forall_mem_cons.2 ⟨Digit.value?_lt hc, ih⟩

/-- Decimal digits alone are figures. -/
theorem figures_of_decimal {cs : List Char} (hne : cs ≠ [])
    (h : ∀ c ∈ cs, Digit.isDecimal c = true) : Figures (digits cs) cs := by
  induction cs with
  | nil => exact absurd rfl hne
  | cons c cs ih =>
    obtain ⟨d, hd⟩ := Digit.exists_value_of_isDecimal (h c List.mem_cons_self)
    rw [digits_cons hd]
    cases cs with
    | nil => exact .last hd
    | cons e cs =>
      exact .next hd (ih (List.cons_ne_nil e cs) fun x hx => h x (List.mem_cons_of_mem c hx))

theorem length_digits {cs : List Char} (h : ∀ c ∈ cs, Digit.isDecimal c = true) :
    (digits cs).length = cs.length := by
  induction cs with
  | nil => rfl
  | cons c cs ih =>
    obtain ⟨d, hd⟩ := Digit.exists_value_of_isDecimal (h c List.mem_cons_self)
    rw [digits_cons hd, List.length_cons, List.length_cons,
      ih fun e he => h e (List.mem_cons_of_mem c he)]

/-! ## Where a run of characters ends -/

section Run

variable {p : Char → Bool} {run behind : List Char} (hrun : ∀ c ∈ run, p c = true)
  (hbehind : ∀ c ∈ behind.head?, p c = false)

include hrun hbehind

theorem takeWhile_run : (run ++ behind).takeWhile p = run := by
  rw [List.takeWhile_append_of_pos hrun]
  cases behind with
  | nil => simp
  | cons c cs => simp [hbehind c rfl]

theorem dropWhile_run : (run ++ behind).dropWhile p = behind := by
  rw [List.dropWhile_append_of_pos hrun]
  cases behind with
  | nil => rfl
  | cons c cs => simp [hbehind c rfl]

end Run

/-- A sign is read as long as figures or blanks come behind it. -/
theorem readUnsigned_eq_ok_iff (negative : Bool) (s : List Char) (n : Int) :
    readUnsigned negative s = .ok n ↔ ∃ ds body behind, s = body ++ behind ∧ Figures ds body ∧
      ds.length ≤ maxDigits ∧ (∀ c ∈ behind, Blank.isNumeralBlank c = true) ∧
      n = if negative then -(ofDigits ds : Int) else ofDigits ds := by
  constructor
  · intro h
    rw [readUnsigned] at h
    split at h
    · cases h
    rename_i hbars
    split at h
    · cases h
    rename_i hlen
    split at h
    · cases h
    rename_i hrest
    cases h
    simp only [Bool.not_eq_true', Bool.not_eq_false, Bool.or_eq_true, not_or, Bool.not_eq_true,
      List.isEmpty_eq_false_iff, List.all_eq_true] at hbars hrest
    have hne : s.takeWhile isBody ≠ [] := by
      intro e
      rw [e] at hrest
      exact hrest.1 rfl
    have hfigures := (figures_iff _ _).2
      ⟨hne, fun c hc => List.mem_takeWhile_imp hc, hbars, rfl⟩
    exact ⟨_, _, _, List.takeWhile_append_dropWhile.symm, hfigures, Nat.le_of_not_lt hlen,
      hrest.2, rfl⟩
  · rintro ⟨ds, body, behind, rfl, hbody, hlen, hbehind, rfl⟩
    have hend : ∀ c ∈ behind.head?, isBody c = false := fun c hc =>
      not_isBody_of_isNumeralBlank (hbehind c (List.mem_of_mem_head? hc))
    have hempty : ds ≠ [] := by
      cases hbody <;> exact List.cons_ne_nil _ _
    rw [readUnsigned, takeWhile_run hbody.isBody hend,
      dropWhile_run hbody.isBody hend, hbody.barsInside, hbody.digits_eq,
      List.all_eq_true.2 hbehind]
    simp [Nat.not_lt.2 hlen, hempty]

/-! ## The sign and what stands in front of it -/

theorem exists_sign (s : List Char) :
    ∃ sign, s = sign ++ (splitSign s).2 ∧ Sign (splitSign s).1 sign := by
  unfold splitSign
  split
  · exact ⟨_, rfl, .minus⟩
  · exact ⟨_, rfl, .plus⟩
  · exact ⟨_, rfl, .absent⟩

theorem splitSign_append {negative : Bool} {sign s : List Char} (h : Sign negative sign)
    (hs : ∀ c ∈ s.head?, c ≠ '+' ∧ c ≠ '-') : splitSign (sign ++ s) = (negative, s) := by
  cases h with
  | plus => rfl
  | minus => rfl
  | absent =>
    cases s with
    | nil => rfl
    | cons c s =>
      have hc := hs c rfl
      simp [splitSign, hc.1, hc.2]

theorem read_eq (s : List Char) :
    read s = readUnsigned (splitSign (s.dropWhile Blank.isNumeralBlank)).1
      (splitSign (s.dropWhile Blank.isNumeralBlank)).2 := rfl

/-- Reading accepts the spellings of numbers and nothing else. -/
theorem read_eq_ok_iff (s : List Char) (n : Int) : read s = .ok n ↔ Spells n s := by
  constructor
  · intro h
    rw [read_eq] at h
    obtain ⟨sign, hs, hsign⟩ := exists_sign (s.dropWhile Blank.isNumeralBlank)
    obtain ⟨ds, body, behind, hrest, hbody, hlen, hbehind, rfl⟩ :=
      (readUnsigned_eq_ok_iff _ _ _).1 h
    have hbefore : ∀ c ∈ s.takeWhile Blank.isNumeralBlank, Blank.isNumeralBlank c = true :=
      fun c hc => List.mem_takeWhile_imp hc
    have hspells := Spells.mk hbefore hsign hbody hlen hbehind
    rwa [← hrest, ← hs, List.takeWhile_append_dropWhile] at hspells
  · intro h
    obtain ⟨hbefore, hsign, hbody, hlen, hbehind⟩ := h
    rename_i before sign body behind negative ds
    obtain ⟨c, cs, rfl, hc⟩ := hbody.head
    have hmark := Digit.ne_mark_of_isDigitLike hc
    -- Neither a sign nor a digit is a blank, so the blanks end where they should.
    have hfirst : ∀ x ∈ (sign ++ (c :: cs ++ behind)).head?, Blank.isNumeralBlank x = false := by
      intro x hx
      cases hsign with
      | plus => cases hx; decide
      | minus => cases hx; decide
      | absent =>
        cases hx
        exact Digit.not_isNumeralBlank_of_isDigitLike hc
    have hsplit : splitSign (sign ++ (c :: cs ++ behind)) = (negative, c :: cs ++ behind) := by
      refine splitSign_append hsign fun x hx => ?_
      cases hx
      exact ⟨hmark.1, hmark.2.1⟩
    rw [read, dropWhile_run hbefore hfirst, hsplit]
    exact (readUnsigned_eq_ok_iff _ _ _).2 ⟨ds, c :: cs, behind, rfl, hbody, hlen, hbehind, rfl⟩

/-- A sign and decimal digits are read without blanks around. -/
theorem read_of_decimal {negative : Bool} {sign cs : List Char} (hsign : Sign negative sign)
    (hne : cs ≠ []) (h : ∀ c ∈ cs, Digit.isDecimal c = true) (hlen : cs.length ≤ maxDigits) :
    read (sign ++ cs) =
      .ok (if negative then -(ofDigits (digits cs) : Int) else ofDigits (digits cs)) := by
  have hspells := Spells.mk (List.forall_mem_nil _) hsign (figures_of_decimal hne h)
    ((length_digits h).le.trans hlen) (List.forall_mem_nil _)
  rw [List.nil_append, List.append_nil] at hspells
  exact (read_eq_ok_iff _ _).2 hspells

end Numeral

end Phrasebook
