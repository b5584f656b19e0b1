import Phrasebook.Proofs.Json.InQuotes

/-!
# Phrasebook.Proofs.Json.Number

Numbers, as JSON spells them: what is read is what is spelled.

A number is read as far as it goes, so a spelling is read where what follows does not carry it on
(`Continues`). A spelled whole number may have any number of digits; `Unsigned` has a place for what
is allowed, and reading allows `Numeral.maxDigits`.
-/

namespace Phrasebook

namespace Json

def DigitRun (ds : List Char) : Prop := ds ≠ [] ∧ ∀ d ∈ ds, isDigit d = true

/-- Spellings of a whole part: a zero alone, or digits of which the first is no zero. -/
inductive Whole : List Char → Prop
  | zero : Whole ['0']
  | digits {d : Char} {ds : List Char} (hzero : d ≠ '0') (hds : ∀ c ∈ d :: ds, isDigit c = true) :
      Whole (d :: ds)

/-- Spellings of the digits behind the point, with the point; none without it. -/
inductive Fraction : List Char → List Char → Prop
  | none : Fraction [] []
  | digits {ds : List Char} (hds : DigitRun ds) : Fraction ds ('.' :: ds)

/-- Spellings of a power of ten. -/
inductive Power : Int → List Char → Prop
  | plain {e : Char} {ds : List Char} (he : e = 'e' ∨ e = 'E') (hds : DigitRun ds) :
      Power (ofDigits ds) (e :: ds)
  | plus {e : Char} {ds : List Char} (he : e = 'e' ∨ e = 'E') (hds : DigitRun ds) :
      Power (ofDigits ds) (e :: '+' :: ds)
  | minus {e : Char} {ds : List Char} (he : e = 'e' ∨ e = 'E') (hds : DigitRun ds) :
      Power (-(ofDigits ds : Int)) (e :: '-' :: ds)

/-- Spellings of a number behind its sign. How many digits a whole number may have is left open. -/
inductive Unsigned (fits : Nat → Prop) (negative : Bool) : Value → List Char → Prop
  | whole {ds : List Char} (hds : Whole ds) (hfits : fits ds.length) :
      Unsigned fits negative (.int (if negative then -(ofDigits ds : Int) else ofDigits ds)) ds
  | fraction {ds fs s : List Char} (hds : Whole ds) (hfs : Fraction fs s) (hne : fs ≠ []) :
      Unsigned fits negative (.float (Double.ofDecimal negative (ofDigits (ds ++ fs)) (-fs.length)))
        (ds ++ s)
  | power {ds fs s t : List Char} {n : Int} (hds : Whole ds) (hfs : Fraction fs s)
      (hn : Power n t) :
      Unsigned fits negative
        (.float (Double.ofDecimal negative (ofDigits (ds ++ fs)) (n - fs.length))) (ds ++ (s ++ t))

/-- The text carries on a number that stands before it. -/
inductive Continues : List Char → Prop
  | digit {c : Char} {s : List Char} (hc : isDigit c = true) : Continues (c :: s)
  | fraction {fs u s : List Char} (h : Fraction fs u) (hne : fs ≠ []) : Continues (u ++ s)
  | power {n : Int} {u s : List Char} (h : Power n u) : Continues (u ++ s)

theorem takeWhile_digits {ds r : List Char} (hds : ∀ d ∈ ds, isDigit d = true)
    (hr : r.takeWhile isDigit = []) : (ds ++ r).takeWhile isDigit = ds := by
  rw [List.takeWhile_append_of_pos hds, hr, List.append_nil]

theorem eq_append_takeWhile (s : List Char) :
    ∃ r, s = s.takeWhile isDigit ++ r ∧ r.takeWhile isDigit = [] := by
  refine ⟨s.dropWhile isDigit, List.takeWhile_append_dropWhile.symm, ?_⟩
  rw [List.takeWhile_eq_nil_iff]
  intro hlength hdigit
  exact List.dropWhile_get_zero_not isDigit s hlength hdigit

/-! ## Parts -/

theorem whole_wholePart {s : List Char} (h : wholePart s ≠ []) :
    Whole (wholePart s) ∧ ∃ t, s = wholePart s ++ t ∧
      (wholePart s ≠ ['0'] → t.takeWhile isDigit = []) := by
  cases s with
  | nil => exact absurd rfl h
  | cons c s =>
    rw [wholePart] at h ⊢
    split
    · rename_i hc
      exact ⟨.zero, s, by rw [hc]; rfl, fun hne => absurd rfl hne⟩
    · rename_i hc
      rw [if_neg hc] at h
      split
      · rename_i hdigit
        obtain ⟨t, hs, ht⟩ := eq_append_takeWhile s
        refine ⟨.digits hc ?_, t, congrArg (c :: ·) hs, fun _ => ht⟩
        exact List.forall_mem_cons.2 ⟨hdigit, fun d hd => List.mem_takeWhile_imp hd⟩
      · rename_i hdigit
        rw [if_neg hdigit] at h
        exact absurd rfl h

theorem wholePart_append {ds t : List Char} (hds : Whole ds) (ht : t.takeWhile isDigit = []) :
    wholePart (ds ++ t) = ds := by
  cases hds with
  | zero => rfl
  | digits hzero hds =>
    rw [List.forall_mem_cons] at hds
    rw [List.cons_append, wholePart, if_neg hzero, if_pos hds.1, takeWhile_digits hds.2 ht]

theorem fraction_fractionPart (t : List Char) :
    ∃ u r, t = u ++ r ∧ Fraction (fractionPart t) u ∧
      u.length = if (fractionPart t).isEmpty then 0 else (fractionPart t).length + 1 := by
  by_cases h : fractionPart t = []
  · exact ⟨[], t, rfl, h ▸ .none, by rw [h]; rfl⟩
  · unfold fractionPart at h ⊢
    split at h
    · rename_i s
      obtain ⟨r, hs, -⟩ := eq_append_takeWhile s
      refine ⟨'.' :: s.takeWhile isDigit, r, congrArg ('.' :: ·) hs,
        .digits ⟨h, fun d hd => List.mem_takeWhile_imp hd⟩, ?_⟩
      rw [if_neg (by simpa using h)]
      rfl
    · exact absurd rfl h

theorem fractionPart_append {fs u r : List Char} (h : Fraction fs u)
    (hr : r.takeWhile isDigit = []) (hnone : fractionPart r = []) : fractionPart (u ++ r) = fs := by
  cases h with
  | none => exact hnone
  | digits hds => exact takeWhile_digits hds.2 hr

theorem digits_takeWhile {s : List Char} (h : ¬(s.takeWhile isDigit).isEmpty = true) :
    DigitRun (s.takeWhile isDigit) :=
  ⟨by simpa using h, fun _ hd => List.mem_takeWhile_imp hd⟩

theorem power_of_exponentPart {t ds : List Char} {negative : Bool} {width : Nat}
    (h : exponentPart t = some (negative, ds, width)) :
    ∃ u r, t = u ++ r ∧ u.length = width ∧
      Power (if negative then -(ofDigits ds : Int) else ofDigits ds) u := by
  unfold exponentPart at h
  split at h
  · rename_i e s
    split at h
    · rename_i he
      split at h
      rename_i heq
      split at heq <;> cases heq <;> split at h <;> cases h
      · rename_i s hds
        obtain ⟨r, hs, -⟩ := eq_append_takeWhile s
        exact ⟨e :: '-' :: s.takeWhile isDigit, r, congrArg (e :: '-' :: ·) hs, Nat.add_comm _ 2,
          .minus he (digits_takeWhile hds)⟩
      · rename_i s hds
        obtain ⟨r, hs, -⟩ := eq_append_takeWhile s
        exact ⟨e :: '+' :: s.takeWhile isDigit, r, congrArg (e :: '+' :: ·) hs, Nat.add_comm _ 2,
          .plus he (digits_takeWhile hds)⟩
      · rename_i hds
        obtain ⟨r, hs, -⟩ := eq_append_takeWhile s
        exact ⟨e :: s.takeWhile isDigit, r, congrArg (e :: ·) hs, Nat.add_comm _ 1,
          .plain he (digits_takeWhile hds)⟩
    · cases h
  · cases h

theorem exponentPart_digit {e d : Char} (he : e = 'e' ∨ e = 'E') (hd : isDigit d = true)
    (s : List Char) : exponentPart (e :: d :: s) =
      some (false, (d :: s).takeWhile isDigit, 1 + ((d :: s).takeWhile isDigit).length) := by
  have hsign : ∀ {c t}, isDigit c = false → d :: s ≠ c :: t := by
    rintro c t hc ⟨⟩
    rw [hc] at hd
    cases hd
  rw [exponentPart, if_pos he]
  · simp [hd]
  · exact fun t => hsign rfl
  · exact fun t => hsign rfl

theorem exponentPart_append {u r : List Char} {n : Int} (h : Power n u)
    (hr : r.takeWhile isDigit = []) :
    ∃ negative ds, exponentPart (u ++ r) = some (negative, ds, u.length) ∧
      n = if negative then -(ofDigits ds : Int) else ofDigits ds := by
  cases h with
  | @plain e ds he hds =>
    refine ⟨false, ds, ?_, rfl⟩
    obtain ⟨d, ds, rfl⟩ := List.exists_cons_of_ne_nil hds.1
    rw [List.cons_append, List.cons_append, exponentPart_digit he (hds.2 d (by simp)),
      ← List.cons_append, takeWhile_digits hds.2 hr, Nat.add_comm]
    rfl
  | @plus e ds he hds =>
    refine ⟨false, ds, ?_, rfl⟩
    simp [exponentPart, he, takeWhile_digits hds.2 hr, hds.1]
    omega
  | @minus e ds he hds =>
    refine ⟨true, ds, ?_, rfl⟩
    simp [exponentPart, he, takeWhile_digits hds.2 hr, hds.1]
    omega

/-! ## A number behind its sign -/

theorem takeWhile_fraction {fs u r : List Char} (h : Fraction fs u)
    (hr : r.takeWhile isDigit = []) : (u ++ r).takeWhile isDigit = [] := by
  cases h with
  | none => exact hr
  | digits hds => rfl

theorem takeWhile_power {u r : List Char} {n : Int} (h : Power n u) :
    (u ++ r).takeWhile isDigit = [] := by
  cases h with
  | plain he hds | plus he hds | minus he hds => rcases he with rfl | rfl <;> rfl

theorem fractionPart_power {u r : List Char} {n : Int} (h : Power n u) :
    fractionPart (u ++ r) = [] := by
  cases h with
  | plain he hds | plus he hds | minus he hds => rcases he with rfl | rfl <;> rfl

theorem not_continues_iff {s : List Char} :
    ¬Continues s ↔ s.takeWhile isDigit = [] ∧ fractionPart s = [] ∧ exponentPart s = none := by
  constructor
  · intro h
    refine ⟨?_, ?_, ?_⟩
    · cases s with
      | nil => rfl
      | cons c s => exact List.takeWhile_cons_of_neg fun hc => h (.digit hc)
    · by_contra hfraction
      obtain ⟨u, r, hs, hu, -⟩ := fraction_fractionPart s
      exact h (hs ▸ .fraction hu hfraction)
    · rw [Option.eq_none_iff_forall_ne_some]
      rintro ⟨negative, ds, width⟩ hpower
      obtain ⟨u, r, rfl, -, hu⟩ := power_of_exponentPart hpower
      exact h (.power hu)
  · rintro ⟨hdigit, hfraction, hpower⟩ h
    cases h with
    | digit hc => simp [hc] at hdigit
    | fraction h hne =>
      cases h with
      | none => exact hne rfl
      | @digits ds hds =>
        obtain ⟨d, ds, rfl⟩ := List.exists_cons_of_ne_nil hne
        simp [fractionPart, hds.2 d] at hfraction
    | power h =>
      cases h with
      | @plain e ds he hds =>
        obtain ⟨d, ds, rfl⟩ := List.exists_cons_of_ne_nil hds.1
        rw [List.cons_append, List.cons_append, exponentPart_digit he (hds.2 d (by simp))] at hpower
        cases hpower
      | @plus e ds he hds | @minus e ds he hds =>
        obtain ⟨d, ds, rfl⟩ := List.exists_cons_of_ne_nil hds.1
        simp [exponentPart, he, hds.2 d] at hpower

theorem outcome_unsigned (negative : Bool) (s : List Char) : (unsigned negative s).outcome =
    match wholePart s with
    | [] => .error (.noValue (if negative then s.length + 1 else s.length))
    | d :: ds =>
      match numberFrom negative (d :: ds) s with
      | .error e => .error e
      | .ok (v, width) => .ok (v, s.drop (max width 1)) := by
  unfold unsigned
  split <;> rename_i hwhole <;> simp only [hwhole]
  · rfl
  · rcases numberFrom negative _ s with e | ⟨v, width⟩ <;> rfl

theorem Whole.ne_nil {ds : List Char} (h : Whole ds) : ds ≠ [] := by
  cases h with
  | zero | digits => exact List.cons_ne_nil _ _

/-- A number is its whole part, a fraction and a power, the latter two where they are spelled. -/
theorem outcome_unsigned_append (negative : Bool) {ds u r : List Char} (hds : ds ≠ [])
    (hwhole : wholePart (ds ++ (u ++ r)) = ds)
    (hu : u.length =
      if (fractionPart (u ++ r)).isEmpty then 0 else (fractionPart (u ++ r)).length + 1) :
    (unsigned negative (ds ++ (u ++ r))).outcome =
      match fractionPart (u ++ r), exponentPart r with
      | [], none =>
        if Numeral.maxDigits < ds.length then .error (.longNumeral ds.length)
        else .ok (.int (if negative then -(ofDigits ds : Int) else ofDigits ds), u ++ r)
      | fs, none =>
        .ok (.float (Double.ofDecimal negative (ofDigits (ds ++ fs)) (-fs.length)), r)
      | fs, some (minus, es, width) =>
        .ok (.float (Double.ofDecimal negative (ofDigits (ds ++ fs))
          ((if minus then -(ofDigits es : Int) else ofDigits es) - fs.length)), r.drop width) := by
  have hdrop : ∀ n, (ds ++ (u ++ r)).drop (max (ds.length + n) 1) = (u ++ r).drop n := by
    intro n
    have hlength := List.length_pos_iff.2 hds
    rw [show max (ds.length + n) 1 = ds.length + n by omega, List.drop_length_add_append]
  obtain ⟨d, ds', rfl⟩ := List.exists_cons_of_ne_nil hds
  rw [outcome_unsigned, hwhole]
  simp only [numberFrom, List.drop_left, ← hu]
  rcases exponentPart r with _ | ⟨_ | _, es, width⟩
  · cases fractionPart (u ++ r) with
    | nil =>
      simp only [List.isEmpty_nil, Option.isNone_none, Bool.and_self, if_true]
      by_cases hlong : Numeral.maxDigits < (d :: ds').length
      · rw [if_pos hlong, if_pos hlong]
      · rw [if_neg hlong, if_neg hlong]
        exact congrArg (fun s => Except.ok (_, s)) (hdrop 0)
    | cons f fs =>
      simpa using hdrop u.length
  · simpa [Nat.add_assoc] using hdrop (u.length + width)
  · simpa [Nat.add_assoc] using hdrop (u.length + width)

theorem Fraction.eq_nil {u : List Char} (h : Fraction [] u) : u = [] := by
  cases h with
  | none => rfl
  | digits hds => exact absurd rfl hds.1

theorem Fraction.length_eq {fs u : List Char} (h : Fraction fs u) :
    u.length = if fs.isEmpty then 0 else fs.length + 1 := by
  cases h with
  | none => rfl
  | digits hds => simp [hds.1]

/-- A text that begins with a whole part, taken apart. -/
theorem exists_parts {s : List Char} (h : wholePart s ≠ []) :
    ∃ ds u r, s = ds ++ (u ++ r) ∧ Whole ds ∧ wholePart (ds ++ (u ++ r)) = ds ∧
      (ds ≠ ['0'] → (u ++ r).takeWhile isDigit = []) ∧ Fraction (fractionPart (u ++ r)) u ∧
      u.length = if (fractionPart (u ++ r)).isEmpty then 0 else (fractionPart (u ++ r)).length + 1 := by
  obtain ⟨hds, t, hs, hdigit⟩ := whole_wholePart h
  obtain ⟨u, r, rfl, hu, hlength⟩ := fraction_fractionPart t
  exact ⟨wholePart s, u, r, hs, hds, by rw [← hs], hdigit, hu, hlength⟩

theorem wholePart_ne_nil {negative : Bool} {s : List Char}
    (h : ∀ left, (unsigned negative s).outcome ≠ .error (.noValue left)) :
    wholePart s ≠ [] := by
  intro hwhole
  rw [outcome_unsigned, hwhole] at h
  exact h _ rfl

theorem unsigned_of_outcome {negative : Bool} {s r : List Char} {v : Value}
    (h : (unsigned negative s).outcome = .ok (v, r)) :
    ∃ t, s = t ++ r ∧ Unsigned (· ≤ Numeral.maxDigits) negative v t := by
  obtain ⟨ds, u, r', rfl, hds, hwhole, -, hu, hlength⟩ :=
    exists_parts (wholePart_ne_nil (by rw [h]; exact nofun))
  rw [outcome_unsigned_append negative hds.ne_nil hwhole hlength] at h
  split at h
  · rename_i hfraction hpower
    rw [hfraction] at hu
    obtain rfl := hu.eq_nil
    split at h
    · cases h
    · rename_i hfits
      cases h
      exact ⟨ds, rfl, .whole hds (Nat.le_of_not_lt hfits)⟩
  · rename_i hpower hne
    cases h
    exact ⟨ds ++ u, by simp, .fraction hds hu fun hfraction => hne hfraction⟩
  · rename_i minus es width hpower
    cases h
    obtain ⟨t, r, rfl, rfl, ht⟩ := power_of_exponentPart hpower
    exact ⟨ds ++ (u ++ t), by simp, .power hds hu ht⟩

theorem unsigned_longNumeral {negative : Bool} {s : List Char} {digits : Nat}
    (h : (unsigned negative s).outcome = .error (.longNumeral digits)) :
    ∃ ds r, s = ds ++ r ∧ Whole ds ∧ ds.length = digits ∧ Numeral.maxDigits < digits ∧
      ¬Continues r := by
  obtain ⟨ds, u, r', rfl, hds, hwhole, hdigit, hu, hlength⟩ :=
    exists_parts (wholePart_ne_nil (by rw [h]; exact nofun))
  rw [outcome_unsigned_append negative hds.ne_nil hwhole hlength] at h
  split at h
  · rename_i hfraction hpower
    rw [hfraction] at hu
    obtain rfl := hu.eq_nil
    split at h
    · rename_i hlong
      cases h
      refine ⟨ds, r', rfl, hds, rfl, hlong, not_continues_iff.2 ⟨hdigit ?_, hfraction, hpower⟩⟩
      rintro rfl
      simp [Numeral.maxDigits] at hlong
    · cases h
  · cases h
  · cases h

/-- Where no number is read, there is none or it is too long. -/
theorem unsigned_error {negative : Bool} {s : List Char} {e : Failure}
    (h : (unsigned negative s).outcome = .error e) :
    (∃ left, e = .noValue left) ∨ ∃ digits, e = .longNumeral digits := by
  by_cases hwhole : wholePart s = []
  · rw [outcome_unsigned, hwhole] at h
    cases h
    exact .inl ⟨_, rfl⟩
  · obtain ⟨ds, u, r, rfl, hds, hwhole, -, -, hlength⟩ := exists_parts hwhole
    rw [outcome_unsigned_append negative hds.ne_nil hwhole hlength] at h
    split at h
    · split at h
      · cases h
        exact .inr ⟨_, rfl⟩
      · cases h
    · cases h
    · cases h

theorem outcome_unsigned_whole (negative : Bool) {ds r : List Char} (hds : Whole ds)
    (hr : ¬Continues r) : (unsigned negative (ds ++ r)).outcome =
      if Numeral.maxDigits < ds.length then .error (.longNumeral ds.length)
      else .ok (.int (if negative then -(ofDigits ds : Int) else ofDigits ds), r) := by
  obtain ⟨hdigit, hfraction, hpower⟩ := not_continues_iff.1 hr
  have h := outcome_unsigned_append negative (u := []) hds.ne_nil (wholePart_append hds hdigit)
    (by rw [List.nil_append, hfraction]; rfl)
  simpa only [List.nil_append, hfraction, hpower] using h

theorem outcome_of_unsigned {fits : Nat → Prop} {negative : Bool} {v : Value} {t r : List Char}
    (h : Unsigned fits negative v t) (hr : ¬Continues r) :
    (unsigned negative (t ++ r)).outcome = .ok (v, r) ∨
      ∃ digits, (unsigned negative (t ++ r)).outcome = .error (.longNumeral digits) ∧
        Numeral.maxDigits < digits ∧ fits digits := by
  obtain ⟨hdigit, hfraction, hpower⟩ := not_continues_iff.1 hr
  cases h with
  | whole hds hfits =>
    rw [outcome_unsigned_whole negative hds hr]
    split
    · rename_i hlong
      exact .inr ⟨_, rfl, hlong, hfits⟩
    · exact .inl rfl
  | @fraction ds fs u hds hfs hne =>
    have hfs' := fractionPart_append hfs hdigit hfraction
    have h := outcome_unsigned_append negative hds.ne_nil
      (wholePart_append hds (takeWhile_fraction hfs hdigit)) (by rw [hfs', hfs.length_eq])
    rw [← List.append_assoc, hfs', hpower] at h
    refine .inl (h.trans ?_)
    cases fs with
    | nil => exact absurd rfl hne
    | cons f fs => rfl
  | @power ds fs u t n hds hfs hn =>
    obtain ⟨minus, es, hexponent, rfl⟩ := exponentPart_append hn hdigit
    have hfs' := fractionPart_append hfs (takeWhile_power hn) (fractionPart_power hn (r := r))
    have h := outcome_unsigned_append negative hds.ne_nil
      (wholePart_append hds (takeWhile_fraction hfs (takeWhile_power hn)))
      (by rw [hfs', hfs.length_eq])
    rw [hfs', hexponent] at h
    have happend : ds ++ (u ++ t) ++ r = ds ++ (u ++ (t ++ r)) := by simp
    rw [happend]
    refine .inl (h.trans ?_)
    simp only [List.drop_left]

/-! ## Where numbers begin and end -/

theorem ne_of_isDigit {c d : Char} (hc : isDigit c = true) (hd : isDigit d = false) : c ≠ d := by
  rintro rfl
  rw [hc] at hd
  cases hd

theorem Whole.head_isDigit {ds : List Char} (h : Whole ds) :
    ∃ d t, ds = d :: t ∧ isDigit d = true := by
  cases h with
  | zero => exact ⟨'0', [], rfl, rfl⟩
  | digits hzero hds => exact ⟨_, _, rfl, hds _ List.mem_cons_self⟩

theorem Unsigned.head_isDigit {fits : Nat → Prop} {negative : Bool} {v : Value} {s : List Char}
    (h : Unsigned fits negative v s) : ∃ d t, s = d :: t ∧ isDigit d = true := by
  cases h with
  | whole hds hfits => exact hds.head_isDigit
  | fraction hds hfs hne | power hds hfs hn =>
    obtain ⟨d, t, rfl, hd⟩ := hds.head_isDigit
    exact ⟨d, _, rfl, hd⟩

theorem not_continues_cons {c : Char} (hdigit : isDigit c = false)
    (hne : c ≠ '.' ∧ c ≠ 'e' ∧ c ≠ 'E') (s : List Char) : ¬Continues (c :: s) := by
  rw [not_continues_iff]
  refine ⟨List.takeWhile_cons_of_neg (by simp [hdigit]), ?_, ?_⟩
  · rw [fractionPart]
    rintro t h
    exact hne.1 (List.cons.inj h).1
  · rw [exponentPart.eq_def]
    exact if_neg (by simp [hne.2])

theorem not_continues_nil : ¬Continues [] := not_continues_iff.2 ⟨rfl, rfl, rfl⟩

end Json

end Phrasebook
