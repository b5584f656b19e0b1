import Mathlib
import Phrasebook.Text.Utf8

/-!
# Phrasebook.Proofs.Utf8

Decoding accepts exactly the encodings of texts, and gives the text back: `decode_eq_ok_iff`.

A character is taken as a first byte with the continuation bytes that it promises. That these spell
the character is shown for one character in both directions, by how many bytes it has; the rest is
induction along the bytes, or along the text.
-/

namespace Phrasebook

namespace Utf8

/-- The bytes of a text. -/
def encode (cs : List Char) : List UInt8 := cs.flatMap String.utf8EncodeChar

theorem encode_cons (c : Char) (cs : List Char) :
    encode (c :: cs) = String.utf8EncodeChar c ++ encode cs := rfl

/-! ## One character -/

theorem takeTails_nil_iff {code seen n : Nat} {bytes : List UInt8} :
    takeTails code seen [] bytes = .complete n ↔ code = n := by
  simp [takeTails]

theorem takeTails_cons_iff {code seen low high n : Nat} {ranges : List (Nat × Nat)}
    {bytes : List UInt8} :
    takeTails code seen ((low, high) :: ranges) bytes = .complete n ↔
      ∃ b rest, bytes = b :: rest ∧ (low ≤ b.toNat ∧ b.toNat ≤ high) ∧
        takeTails (code * 64 + (b.toNat - 0x80)) (seen + 1) ranges rest = .complete n := by
  cases bytes with
  | nil => simp [takeTails]
  | cons b rest =>
    rw [takeTails]
    constructor
    · intro h
      split at h
      · exact ⟨b, rest, rfl, ‹_›, h⟩
      · cases h
    · rintro ⟨_, _, h, hb, hrest⟩
      cases h
      rwa [if_pos hb]

theorem toNat_ofNat {n : Nat} (hn : n < 256) : (UInt8.ofNat n).toNat = n := by
  rw [UInt8.toNat_ofNat', Nat.mod_eq_of_lt hn]

theorem ofNat_of_toNat {b : UInt8} {n : Nat} (hn : n = b.toNat) : UInt8.ofNat n = b := by
  rw [hn, UInt8.ofNat_toNat]

theorem val_toNat_ofNat {n : Nat} (hn : n < 0xD800 ∨ 0xDFFF < n ∧ n < 0x110000) :
    (Char.ofNat n).val.toNat = n := by
  have h := Char.toNat_ofNat n
  rwa [if_pos hn] at h

section Widths

variable {a b c d : Nat}

theorem encodeChar_one (ha : a < 0x80) :
    String.utf8EncodeChar (Char.ofNat a) = [UInt8.ofNat a] := by
  have hval := val_toNat_ofNat (n := a) (by omega)
  rw [String.utf8EncodeChar, hval, if_pos (by omega)]

theorem encodeChar_two (ha : 1 < a) (ha' : a < 32) (hb : b < 64) :
    String.utf8EncodeChar (Char.ofNat (a * 64 + b)) =
      [UInt8.ofNat (a + 0xC0), UInt8.ofNat (b + 0x80)] := by
  have hval := val_toNat_ofNat (n := a * 64 + b) (by omega)
  have h₁ : (a * 64 + b) / 64 % 32 = a := by omega
  have h₂ : (a * 64 + b) % 64 = b := by omega
  rw [String.utf8EncodeChar, hval, if_neg (by omega), if_pos (by omega), h₁, h₂]

theorem encodeChar_three (ha : a < 16) (hb : b < 64) (hc : c < 64)
    (hlong : 0x20 ≤ a * 64 + b) (hpair : a * 64 + b < 0x360 ∨ 0x37F < a * 64 + b) :
    String.utf8EncodeChar (Char.ofNat ((a * 64 + b) * 64 + c)) =
      [UInt8.ofNat (a + 0xE0), UInt8.ofNat (b + 0x80), UInt8.ofNat (c + 0x80)] := by
  have hval := val_toNat_ofNat (n := (a * 64 + b) * 64 + c) (by omega)
  have h₁ : ((a * 64 + b) * 64 + c) / 4096 % 16 = a := by omega
  have h₂ : ((a * 64 + b) * 64 + c) / 64 % 64 = b := by omega
  have h₃ : ((a * 64 + b) * 64 + c) % 64 = c := by omega
  rw [String.utf8EncodeChar, hval, if_neg (by omega), if_neg (by omega), if_pos (by omega), h₁, h₂,
    h₃]

theorem encodeChar_four (hb : b < 64) (hc : c < 64) (hd : d < 64)
    (hlong : 0x10 ≤ a * 64 + b) (hlast : a * 64 + b < 0x110) :
    String.utf8EncodeChar (Char.ofNat (((a * 64 + b) * 64 + c) * 64 + d)) =
      [UInt8.ofNat (a + 0xF0), UInt8.ofNat (b + 0x80), UInt8.ofNat (c + 0x80),
        UInt8.ofNat (d + 0x80)] := by
  have hval := val_toNat_ofNat (n := ((a * 64 + b) * 64 + c) * 64 + d) (by omega)
  have h₁ : (((a * 64 + b) * 64 + c) * 64 + d) / 262144 % 8 = a := by omega
  have h₂ : (((a * 64 + b) * 64 + c) * 64 + d) / 4096 % 64 = b := by omega
  have h₃ : (((a * 64 + b) * 64 + c) * 64 + d) / 64 % 64 = c := by omega
  have h₄ : (((a * 64 + b) * 64 + c) * 64 + d) % 64 = d := by omega
  rw [String.utf8EncodeChar, hval, if_neg (by omega), if_neg (by omega), if_neg (by omega), h₁, h₂,
    h₃, h₄]

end Widths

section Leads

variable {a : Nat}

theorem lead?_one (ha : a < 0x80) : lead? a = some ⟨a, []⟩ := by
  rw [lead?, if_pos (by omega)]

theorem lead?_two (ha : 1 < a) (ha' : a < 32) : lead? (a + 0xC0) = some ⟨a, [tail]⟩ := by
  rw [lead?, if_neg (by omega), if_neg (by omega), if_pos (by omega), Nat.add_sub_cancel]

theorem lead?_three (ha : a < 16) : lead? (a + 0xE0) =
    some ⟨a, [(if a = 0 then 0xA0 else 0x80, if a = 0xD then 0x9F else 0xBF), tail]⟩ := by
  interval_cases a <;> rfl

theorem lead?_four (ha : a < 5) : lead? (a + 0xF0) =
    some ⟨a, [(if a = 0 then 0x90 else 0x80, if a = 4 then 0x8F else 0xBF), tail, tail]⟩ := by
  interval_cases a <;> rfl

theorem lead?_ofNat {l : Lead} (ha : a < 256) (h : lead? a = some l) :
    lead? (UInt8.ofNat a).toNat = some l := by
  rwa [toNat_ofNat ha]

/-- A first byte tells how many bytes there are, and has the bits of its own above that mark. -/
theorem lead?_cases {n : Nat} {l : Lead} (h : lead? n = some l) :
    n < 0x80 ∨ (∃ a, 1 < a ∧ a < 32 ∧ n = a + 0xC0) ∨ (∃ a, a < 16 ∧ n = a + 0xE0) ∨
      ∃ a, a < 5 ∧ n = a + 0xF0 := by
  have hn : n < 0x80 ∨ 0xC2 ≤ n ∧ n < 0xF5 := by
    by_contra hn
    rw [lead?, if_neg (by omega)] at h
    split_ifs at h <;> omega
  by_cases h₁ : n < 0x80
  · exact .inl h₁
  by_cases h₂ : n < 0xE0
  · exact .inr (.inl ⟨n - 0xC0, by omega, by omega, by omega⟩)
  by_cases h₃ : n < 0xF0
  · exact .inr (.inr (.inl ⟨n - 0xE0, by omega, by omega⟩))
  · exact .inr (.inr (.inr ⟨n - 0xF0, by omega, by omega⟩))

end Leads

/-- What a first byte and the tails that it promises take in is the encoding of a character. -/
theorem encodeChar_of_complete {b : UInt8} {bytes : List UInt8} {l : Lead} {code : Nat}
    (hlead : lead? b.toNat = some l) (htails : takeTails l.bits 1 l.tails bytes = .complete code) :
    String.utf8EncodeChar (Char.ofNat code) = b :: bytes.take l.tails.length := by
  rcases lead?_cases hlead with hb | ⟨a, ha, ha', hb⟩ | ⟨a, ha, hb⟩ | ⟨a, ha, hb⟩
  · rw [lead?_one hb] at hlead
    cases hlead
    rw [takeTails_nil_iff] at htails
    rw [← htails, encodeChar_one hb, UInt8.ofNat_toNat]
    rfl
  · rw [hb, lead?_two ha ha'] at hlead
    cases hlead
    simp only [takeTails_cons_iff, takeTails_nil_iff, tail] at htails
    obtain ⟨c, rest, rfl, hc, rfl⟩ := htails
    rw [encodeChar_two ha ha' (by omega), ofNat_of_toNat (b := b), ofNat_of_toNat (b := c)]
    · rfl
    all_goals omega
  · rw [hb, lead?_three ha] at hlead
    cases hlead
    simp only [takeTails_cons_iff, takeTails_nil_iff, tail] at htails
    obtain ⟨c, rest, rfl, hc, d, rest, rfl, hd, rfl⟩ := htails
    rw [encodeChar_three ha, ofNat_of_toNat (b := b), ofNat_of_toNat (b := c),
      ofNat_of_toNat (b := d)]
    · rfl
    all_goals split_ifs at hc <;> omega
  · rw [hb, lead?_four ha] at hlead
    cases hlead
    simp only [takeTails_cons_iff, takeTails_nil_iff, tail] at htails
    obtain ⟨c, rest, rfl, hc, d, rest, rfl, hd, e, rest, rfl, he, rfl⟩ := htails
    rw [encodeChar_four, ofNat_of_toNat (b := b), ofNat_of_toNat (b := c),
      ofNat_of_toNat (b := d), ofNat_of_toNat (b := e)]
    · rfl
    all_goals split_ifs at hc <;> omega

/-- The encoding of a character is a first byte and the tails that it promises. -/
theorem complete_of_encodeChar (c : Char) :
    ∃ b bytes l, String.utf8EncodeChar c = b :: bytes ∧ lead? b.toNat = some l ∧
      l.tails.length = bytes.length ∧
      ∀ rest, takeTails l.bits 1 l.tails (bytes ++ rest) = .complete c.toNat := by
  have hvalid : c.toNat < 0xD800 ∨ 0xDFFF < c.toNat ∧ c.toNat < 0x110000 := c.valid
  obtain ⟨n, hn⟩ : ∃ n, c.toNat = n := ⟨_, rfl⟩
  obtain rfl : c = Char.ofNat n := by rw [← hn, Char.ofNat_toNat]
  rw [hn] at hvalid ⊢
  obtain ⟨m, z, hz, rfl⟩ : ∃ m z, z < 64 ∧ n = m * 64 + z := ⟨n / 64, n % 64, by omega, by omega⟩
  obtain ⟨k, y, hy, rfl⟩ : ∃ k y, y < 64 ∧ m = k * 64 + y := ⟨m / 64, m % 64, by omega, by omega⟩
  obtain ⟨j, x, hx, rfl⟩ : ∃ j x, x < 64 ∧ k = j * 64 + x := ⟨k / 64, k % 64, by omega, by omega⟩
  by_cases h₁ : (j * 64 + x) * 64 + y < 2
  · exact ⟨_, _, _, encodeChar_one (by omega), lead?_ofNat (by omega) (lead?_one (by omega)), rfl,
      fun rest => takeTails_nil_iff.2 rfl⟩
  by_cases h₂ : (j * 64 + x) * 64 + y < 32
  · refine ⟨_, _, _, encodeChar_two (by omega) (by omega) hz,
      lead?_ofNat (by omega) (lead?_two (by omega) (by omega)), rfl, fun rest => ?_⟩
    refine takeTails_cons_iff.2 ⟨_, _, rfl, ?_, takeTails_nil_iff.2 ?_⟩
    · rw [toNat_ofNat (by omega)]
      omega
    · rw [toNat_ofNat (by omega), Nat.add_sub_cancel]
  by_cases h₃ : j * 64 + x < 16
  · refine ⟨_, _, _, encodeChar_three (by omega) hy hz (by omega) (by omega),
      lead?_ofNat (by omega) (lead?_three (by omega)), rfl, fun rest => ?_⟩
    refine takeTails_cons_iff.2 ⟨_, _, rfl, ?_, takeTails_cons_iff.2 ⟨_, _, rfl, ?_,
      takeTails_nil_iff.2 ?_⟩⟩
    · rw [toNat_ofNat (by omega)]
      split_ifs <;> omega
    · rw [toNat_ofNat (by omega)]
      omega
    · simp only [toNat_ofNat (show y + 0x80 < 256 by omega),
        toNat_ofNat (show z + 0x80 < 256 by omega), Nat.add_sub_cancel]
  · refine ⟨_, _, _, encodeChar_four hx hy hz (by omega) (by omega),
      lead?_ofNat (by omega) (lead?_four (by omega)), rfl, fun rest => ?_⟩
    refine takeTails_cons_iff.2 ⟨_, _, rfl, ?_, takeTails_cons_iff.2 ⟨_, _, rfl, ?_,
      takeTails_cons_iff.2 ⟨_, _, rfl, ?_, takeTails_nil_iff.2 ?_⟩⟩⟩
    · rw [toNat_ofNat (by omega)]
      split_ifs <;> omega
    · rw [toNat_ofNat (by omega)]
      omega
    · rw [toNat_ofNat (by omega)]
      omega
    · simp only [toNat_ofNat (show x + 0x80 < 256 by omega),
        toNat_ofNat (show y + 0x80 < 256 by omega), toNat_ofNat (show z + 0x80 < 256 by omega),
        Nat.add_sub_cancel]

/-! ## A text -/

theorem decodeFrom_drop (start pending : Nat) (bytes : List UInt8) :
    decodeFrom start pending bytes = decodeFrom (start + pending) 0 (bytes.drop pending) := by
  induction bytes generalizing start pending with
  | nil => simp [decodeFrom]
  | cons b bytes ih =>
    cases pending with
    | zero => rfl
    | succ n => rw [decodeFrom, ih, List.drop_succ_cons, Nat.add_assoc, Nat.add_comm 1]

theorem drop_eq_encode {start pending : Nat} {bytes : List UInt8} {cs : List Char}
    (h : decodeFrom start pending bytes = .ok cs) : bytes.drop pending = encode cs := by
  induction start, pending, bytes using decodeFrom.induct generalizing cs with
  | case1 start pending =>
    cases h
    simp [encode]
  | case2 start b bytes n ih =>
    exact ih h
  | case3 start b bytes hlead => simp [decodeFrom, hlead] at h
  | case4 start b bytes l hlead htails => simp [decodeFrom, hlead, htails] at h
  | case5 start b bytes l hlead seen htails => simp [decodeFrom, hlead, htails] at h
  | case6 start b bytes l hlead code htails others hothers ih =>
    simp only [decodeFrom, hlead, htails, hothers] at h
    cases h
    rw [encode_cons, encodeChar_of_complete hlead htails, ← ih hothers, List.cons_append,
      List.take_append_drop]
    rfl
  | case7 start b bytes l hlead code htails e hothers ih =>
    simp [decodeFrom, hlead, htails, hothers] at h

theorem decodeFrom_encode (start : Nat) (cs : List Char) :
    decodeFrom start 0 (encode cs) = .ok cs := by
  induction cs generalizing start with
  | nil => rfl
  | cons c cs ih =>
    obtain ⟨b, bytes, l, hc, hlead, hlength, htails⟩ := complete_of_encodeChar c
    have hothers : decodeFrom (start + 1) l.tails.length (bytes ++ encode cs) = .ok cs := by
      rw [decodeFrom_drop, hlength, List.drop_left, ih]
    rw [encode_cons, hc, List.cons_append, decodeFrom]
    simp only [hlead, htails, hothers, Char.ofNat_toNat]

/-- **Bytes are decoded to a text exactly if they encode it.** -/
theorem decode_eq_ok_iff (bytes : List UInt8) (cs : List Char) :
    decode bytes = .ok cs ↔ bytes = encode cs := by
  constructor
  · exact fun h => drop_eq_encode h
  · rintro rfl
    exact decodeFrom_encode 0 cs

theorem encode_injective : Function.Injective encode := by
  intro cs cs' h
  have hdecode := (decode_eq_ok_iff _ cs).2 rfl
  rw [(decode_eq_ok_iff _ cs').2 h] at hdecode
  exact (Except.ok.inj hdecode).symm

end Utf8

end Phrasebook
