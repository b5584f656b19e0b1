import Phrasebook.Proofs.Spelling

/-!
# Phrasebook.Proofs.Numeral

Whole numbers are read back from their decimal texts.

The digits that are written are Western ones, so the lemmas come in two steps: what `read` makes of
Western digits behind a sign (`read_western`), and then what it makes of a written number
(`read_padded`). A number that was read can be written again (`isWritable_of_read`).
-/

namespace Phrasebook

namespace Numeral

/-! ## Western digits -/

theorem value?_of_isDigit {c : Char} (h : c.isDigit = true) :
    Digit.value? c = some (c.toNat - 0x30) := by
  have hc : 0x30 ≤ c.toNat ∧ c.toNat ≤ 0x39 := Char.isDigit_iff_toNat.1 h
  have hfind : Digit.zeros.find? (fun z => z ≤ c.toNat && c.toNat ≤ z + 9) = some 0x30 := by
    rw [Digit.zeros, List.find?_cons_of_pos]
    simp only [Bool.and_eq_true, decide_eq_true_eq]
    omega
  rw [Digit.value?, hfind]
  rfl

section Western

variable {ds : List Char} (hds : ∀ c ∈ ds, c.isDigit = true)

include hds

theorem digits_western : digits ds = ds.map fun c => c.toNat - 0x30 := by
  induction ds with
  | nil => rfl
  | cons c ds ih =>
    rw [digits_cons (value?_of_isDigit (hds c List.mem_cons_self)), List.map_cons,
      ih fun d hd => hds d (List.mem_cons_of_mem c hd)]

theorem ofDigits_western : ofDigits (digits ds) = Nat.ofDigitChars 10 ds 0 := by
  rw [digits_western hds, ofDigits, List.foldl_map, Nat.ofDigitChars_eq_foldl]
  rfl

/-- Digits behind a sign, or without one, are read as they stand. -/
theorem read_western {negative : Bool} {sign : List Char} (hsign : Sign negative sign)
    (hne : ds ≠ []) (hlen : ds.length ≤ maxDigits) :
    read (sign ++ ds) =
      .ok (if negative then -(Nat.ofDigitChars 10 ds 0 : Int) else Nat.ofDigitChars 10 ds 0) := by
  have hdecimal : ∀ c ∈ ds, Digit.isDecimal c = true := by
    intro c hc
    rw [Digit.isDecimal, value?_of_isDigit (hds c hc)]
    rfl
  rw [read_of_decimal hsign hne hdecimal hlen, ofDigits_western hds]

end Western

/-! ## Written numbers -/

theorem isDigit_of_mem_natural {n : Nat} {c : Char} (h : c ∈ natural n) : c.isDigit = true :=
  Nat.isDigit_of_mem_toDigits (by decide) (by decide) h

theorem natural_ne_nil (n : Nat) : natural n ≠ [] := Nat.toDigits_ne_nil

theorem ofDigitChars_natural (n : Nat) : Nat.ofDigitChars 10 (natural n) 0 = n :=
  Nat.ofDigitChars_ten_toDigits

theorem isWritable_iff (n : Int) : isWritable n = true ↔ n.natAbs < 10 ^ maxDigits := by
  rw [isWritable, decide_eq_true_iff]
  exact Nat.length_toDigits_le_iff (by decide) (by decide)

/-- The number behind one with fewer digits than a numeral may have can be written. -/
theorem isWritable_succ {n : Int} (h : (natural n.natAbs).length < maxDigits) :
    isWritable (n + 1) = true := by
  have hmax : 1 < maxDigits := by decide
  have hlt : n.natAbs < 10 ^ (maxDigits - 1) :=
    (Nat.length_toDigits_le_iff (by decide) (by omega)).1 (Nat.le_sub_one_of_lt h)
  have hpow : 10 ^ maxDigits = 10 ^ (maxDigits - 1) * 10 := by
    rw [← Nat.pow_succ]
    congr 1
  rw [isWritable_iff, hpow]
  omega

/-- There is a number that can be written, and not the one behind it. -/
theorem exists_last : ∃ n, isWritable n = true ∧ isWritable (n + 1) = false := by
  refine ⟨10 ^ maxDigits - 1, ?_, ?_⟩
  · have hpos : 0 < 10 ^ maxDigits := Nat.pow_pos (by decide)
    have hcast : ((10 ^ maxDigits : Nat) : Int) = 10 ^ maxDigits := by push_cast; rfl
    rw [isWritable_iff, ← hcast]
    -- The power itself is never worked out.
    generalize 10 ^ maxDigits = k at hpos
    omega
  · rw [Int.sub_add_cancel, ← Bool.not_eq_true, isWritable_iff, Int.natAbs_pow]
    generalize maxDigits = k
    exact Nat.lt_irrefl _

theorem read_chars {n : Int} (h : isWritable n = true) : read (chars n) = .ok n := by
  rw [isWritable, decide_eq_true_iff] at h
  cases n with
  | ofNat n =>
    have hread := read_western (fun c hc => isDigit_of_mem_natural hc) .absent (natural_ne_nil n) h
    rw [ofDigitChars_natural] at hread
    exact hread
  | negSucc n =>
    have hread := read_western (fun c hc => isDigit_of_mem_natural hc) .minus
      (natural_ne_nil (n + 1)) h
    rw [ofDigitChars_natural] at hread
    exact hread

theorem natural_inj {m n : Nat} : natural m = natural n ↔ m = n := by
  constructor
  · intro h
    rw [← ofDigitChars_natural m, h, ofDigitChars_natural]
  · rintro rfl
    rfl

theorem natural_ne_minus (n : Nat) (ds : List Char) : natural n ≠ '-' :: ds := by
  intro h
  have hminus := isDigit_of_mem_natural (h ▸ List.mem_cons_self)
  exact absurd hminus (by decide)

/-- Every number has a text of its own, however long. -/
theorem write_inj {m n : Int} : write m = write n ↔ m = n := by
  rw [write, write, String.ofList_inj]
  cases m with
  | ofNat m =>
    cases n with
    | ofNat n => rw [chars, chars, natural_inj, Int.ofNat.injEq]
    | negSucc n => exact iff_of_false (natural_ne_minus m _) (by simp)
  | negSucc m =>
    cases n with
    | ofNat n => exact iff_of_false (natural_ne_minus n _).symm (by simp)
    | negSucc n => rw [chars, chars, List.cons_inj_right, natural_inj, Int.negSucc_inj, Nat.succ_inj]

/-- A text of one character is one digit: a minus sign stands in front of others. -/
theorem natural_of_chars_singleton {n : Int} {d : Char} (h : chars n = [d]) :
    ∃ k : Nat, n = k ∧ natural k = [d] := by
  cases n with
  | ofNat k => exact ⟨k, rfl, h⟩
  | negSucc k =>
    rw [chars, List.cons.injEq] at h
    exact absurd h.2 (natural_ne_nil (k + 1))

/-- A number that can be written is read back from its text, zeros in front included. -/
theorem read_padded {n : Int} (h : isWritable n = true) : read (padded n) = .ok n := by
  unfold padded
  split
  · rename_i d hd
    obtain ⟨k, rfl, hk⟩ := natural_of_chars_singleton hd
    have hds : ∀ c ∈ ['0', d], c.isDigit = true := by
      intro c hc
      rcases List.mem_cons.1 hc with rfl | hc
      · decide
      · exact isDigit_of_mem_natural (hk ▸ hc)
    have hval : Nat.ofDigitChars 10 ['0', d] 0 = k := by
      rw [Nat.ofDigitChars_cons]
      exact hk ▸ ofDigitChars_natural k
    have hlen : ['0', d].length ≤ maxDigits := by simp [maxDigits]
    have hread := read_western hds .absent (List.cons_ne_nil _ _) hlen
    rw [hval] at hread
    exact hread
  · exact read_chars h

/-! ## Numbers that were read -/

theorem foldl_digits_lt {ds : List Nat} (h : ∀ d ∈ ds, d < 10) (n : Nat) :
    ds.foldl (fun n d => 10 * n + d) n < 10 ^ ds.length * (n + 1) := by
  induction ds generalizing n with
  | nil => simp
  | cons d ds ih =>
    have hlt := ih (fun x hx => h x (List.mem_cons_of_mem d hx)) (10 * n + d)
    have hd := h d List.mem_cons_self
    rw [List.foldl_cons, List.length_cons, Nat.pow_succ, Nat.mul_assoc]
    exact Nat.lt_of_lt_of_le hlt (Nat.mul_le_mul_left _ (by omega))

theorem ofDigits_lt {ds : List Nat} (h : ∀ d ∈ ds, d < 10) : ofDigits ds < 10 ^ ds.length := by
  have hlt := foldl_digits_lt h 0
  rwa [Nat.zero_add, Nat.mul_one] at hlt

theorem isWritable_of_read {s : List Char} {n : Int} (h : read s = .ok n) :
    isWritable n = true := by
  obtain ⟨-, -, hbody, hlen, -⟩ := (read_eq_ok_iff s n).1 h
  rename_i negative ds
  have hlt : ofDigits ds < 10 ^ maxDigits :=
    Nat.lt_of_lt_of_le (ofDigits_lt hbody.lt_ten) (Nat.pow_le_pow_right (by decide) hlen)
  rw [isWritable_iff]
  cases negative <;> simpa using hlt

end Numeral

end Phrasebook
