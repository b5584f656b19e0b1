import Mathlib.Data.List.Chain
import Phrasebook.Pattern.Expression

/-!
# Phrasebook.Proofs.Expression

The text of an expression says which pattern it is for, up to the normal form of patterns.

`NormalForm p ts` is said without the functions that make tokens: the tokens stand for the characters
of the pattern, an any-run for one star or more, and no two any-runs are neighbours
(`normalForm_iff`). `Reads s ts` is said without `encode`: it lists the ways in which a text can go on
as a token. An expression can be read in one way only, and that is the normal form (`reads_encode_iff`,
`ofPattern_eq_iff_normalForm`). `joined` puts the same text together from the pieces of a pattern
between its stars (`encode_tokens`).
-/

namespace Phrasebook

namespace Pattern

/-! ## Normal forms -/

/-- No two any-runs are neighbours. -/
def Separate (ts : List Token) : Prop := ts.IsChain fun t u => t = .anyRun → u ≠ .anyRun

/-- Tokens stand for characters: a literal for itself, an any-run for one star or more. -/
inductive StandFor : List Token → List Char → Prop
  | nil : StandFor [] []
  | literal {c : Char} {ts : List Token} {p : List Char} (hc : c ≠ star) (h : StandFor ts p) :
      StandFor (.literal c :: ts) (c :: p)
  | lastStar {ts : List Token} {p : List Char} (h : StandFor ts p) :
      StandFor (.anyRun :: ts) (star :: p)
  | moreStars {ts : List Token} {p : List Char} (h : StandFor (.anyRun :: ts) p) :
      StandFor (.anyRun :: ts) (star :: p)

/-- The tokens are the normal form of the pattern: one any-run for every run of stars, a literal for
every other character, and an any-run at both ends of a pattern without stars. -/
def NormalForm (p : List Char) (ts : List Token) : Prop :=
  Separate ts ∧ if star ∈ p then StandFor ts p else ts = .anyRun :: p.map .literal ++ [.anyRun]

theorem separate_cons_iff (t : Token) (ts : List Token) :
    Separate (t :: ts) ↔ (t = .anyRun → ts.head? ≠ some .anyRun) ∧ Separate ts := by
  rw [Separate, List.isChain_cons]
  refine and_congr ?_ Iff.rfl
  constructor
  · intro h ht hhead
    exact h .anyRun hhead ht rfl
  · intro h u hu ht hrun
    exact h ht (hrun ▸ hu)

theorem collapse_literal {c : Char} (hc : c ≠ star) (p : List Char) :
    collapse (c :: p) = .literal c :: collapse p := by
  rw [collapse, if_neg hc]

/-- A star begins a run, unless the tokens behind it already do. -/
theorem collapse_star (p : List Char) :
    ((collapse p).head? = some .anyRun → collapse (star :: p) = collapse p) ∧
    ((collapse p).head? ≠ some .anyRun → collapse (star :: p) = .anyRun :: collapse p) := by
  rw [collapse, if_pos rfl]
  constructor
  · intro h
    obtain ⟨ts, hts⟩ := List.head?_eq_some_iff.1 h
    rw [hts]
  · intro h
    split
    · rename_i ts hts
      rw [hts] at h
      exact absurd rfl h
    · rfl

theorem separate_collapse (p : List Char) : Separate (collapse p) := by
  induction p with
  | nil => exact .nil
  | cons c p ih =>
    by_cases hc : c = star
    · subst hc
      by_cases h : (collapse p).head? = some .anyRun
      · rw [(collapse_star p).1 h]
        exact ih
      · rw [(collapse_star p).2 h, separate_cons_iff]
        exact ⟨fun _ => h, ih⟩
    · rw [collapse_literal hc, separate_cons_iff]
      exact ⟨nofun, ih⟩

theorem standFor_collapse (p : List Char) : StandFor (collapse p) p := by
  induction p with
  | nil => exact .nil
  | cons c p ih =>
    by_cases hc : c = star
    · subst hc
      by_cases h : (collapse p).head? = some .anyRun
      · rw [(collapse_star p).1 h]
        obtain ⟨ts, hts⟩ := List.head?_eq_some_iff.1 h
        rw [hts] at ih ⊢
        exact .moreStars ih
      · rw [(collapse_star p).2 h]
        exact .lastStar ih
    · rw [collapse_literal hc]
      exact .literal hc ih

/-- Only the collapsed pattern stands for it without neighbouring any-runs. -/
theorem StandFor.eq_collapse {ts : List Token} {p : List Char} (h : StandFor ts p)
    (hts : Separate ts) : ts = collapse p := by
  induction h with
  | nil => rfl
  | literal hc _ ih =>
    rw [collapse_literal hc, ← ih ((separate_cons_iff _ _).1 hts).2]
  | lastStar _ ih =>
    obtain ⟨hhead, hrest⟩ := (separate_cons_iff _ _).1 hts
    have hcollapse := ih hrest
    rw [hcollapse] at hhead ⊢
    exact ((collapse_star _).2 (hhead rfl)).symm
  | moreStars _ ih =>
    have hcollapse := ih hts
    have hhead : (collapse _).head? = some .anyRun := congrArg List.head? hcollapse.symm
    rw [(collapse_star _).1 hhead]
    exact hcollapse

theorem separate_literals {p : List Char} (hp : p ≠ []) :
    Separate (.anyRun :: p.map .literal ++ [.anyRun]) := by
  obtain ⟨c, p, rfl⟩ := List.exists_cons_of_ne_nil hp
  rw [List.cons_append, separate_cons_iff]
  refine ⟨fun _ => by simp, ?_⟩
  -- Between literals there is nothing to check; the induction is on the literals before the end.
  generalize c :: p = q
  induction q with
  | nil => exact .singleton _
  | cons d q ih =>
    rw [List.map_cons, List.cons_append, separate_cons_iff]
    exact ⟨nofun, ih⟩

theorem normalForm_iff {p : List Char} (hp : p ≠ []) (ts : List Token) :
    NormalForm p ts ↔ ts = tokens p := by
  rw [NormalForm, tokens]
  by_cases hstar : star ∈ p
  · rw [if_pos hstar, if_pos hstar]
    constructor
    · intro h
      exact h.2.eq_collapse h.1
    · rintro rfl
      exact ⟨separate_collapse p, standFor_collapse p⟩
  · rw [if_neg hstar, if_neg hstar]
    constructor
    · intro h
      exact h.2
    · rintro rfl
      exact ⟨separate_literals hp, rfl⟩

theorem ne_star_of_mem_collapse {p : List Char} {c : Char} (h : .literal c ∈ collapse p) :
    c ≠ star := by
  have hstand := standFor_collapse p
  generalize collapse p = ts at h hstand
  induction hstand with
  | nil => cases h
  | literal hc _ ih =>
    rcases List.mem_cons.1 h with h | h
    · cases h
      exact hc
    · exact ih h
  | lastStar _ ih =>
    rcases List.mem_cons.1 h with h | h
    · cases h
    · exact ih h
  | moreStars _ ih => exact ih h

/-- No token is a literal star. -/
theorem ne_star_of_mem_tokens {p : List Char} {c : Char} (h : .literal c ∈ tokens p) :
    c ≠ star := by
  rw [tokens] at h
  split at h
  · exact ne_star_of_mem_collapse h
  · rename_i hstar
    rintro rfl
    apply hstar
    simpa using h

namespace Expression

/-! ## Reading an expression -/

/-- The ways in which a text is read as tokens, from left to right. A special character stands behind
a backslash, a star behind a point, and any other character for itself. -/
inductive Reads : List Char → List Token → Prop
  | nil : Reads [] []
  | anyRun {s : List Char} {ts : List Token} (h : Reads s ts) :
      Reads ('.' :: star :: s) (.anyRun :: ts)
  | escaped {c : Char} {s : List Char} {ts : List Token} (hc : c ∈ special) (h : Reads s ts) :
      Reads ('\\' :: c :: s) (.literal c :: ts)
  | plain {c : Char} {s : List Char} {ts : List Token} (hc : c ∉ special) (hstar : c ≠ star)
      (h : Reads s ts) : Reads (c :: s) (.literal c :: ts)

theorem encode_cons (t : Token) (ts : List Token) : encode (t :: ts) = encodeToken t ++ encode ts :=
  List.flatMap_cons

theorem reads_encode {ts : List Token} (h : ∀ c, .literal c ∈ ts → c ≠ star) :
    Reads (encode ts) ts := by
  induction ts with
  | nil => exact .nil
  | cons t ts ih =>
    have ih := ih fun c hc => h c (List.mem_cons_of_mem t hc)
    rw [encode_cons]
    cases t with
    | anyRun => exact .anyRun ih
    | literal c =>
      rw [encodeToken]
      split
      · rename_i hc
        exact .escaped hc ih
      · rename_i hc
        exact .plain hc (h c List.mem_cons_self) ih

/-- What can be read is what `decode` reads: it never has a choice. -/
theorem Reads.decode_eq {s : List Char} {ts : List Token} (h : Reads s ts) :
    decode s = some ts := by
  induction h with
  | nil => rfl
  | anyRun _ ih =>
    rw [star, decode, ih]
    rfl
  | escaped hc _ ih =>
    rw [decode, ih]
    rfl
  | plain hc hstar _ ih =>
    rw [decode, if_neg hc, ih]
    · rfl
    · rintro _ _ rfl
      exact absurd (by decide) hc
    · rintro _ rfl
      exact absurd (by decide) hc

theorem reads_encode_iff {ts : List Token} (h : ∀ c, .literal c ∈ ts → c ≠ star)
    (us : List Token) : Reads (encode ts) us ↔ us = ts := by
  constructor
  · intro hus
    have hdecode := hus.decode_eq
    rw [decode_encode, Option.some.injEq] at hdecode
    exact hdecode.symm
  · rintro rfl
    exact reads_encode h

/-! ## Expressions from pieces -/

/-- Keeps the last star of every run of stars. -/
def squeeze : List Char → List Char
  | [] => []
  | c :: p => if c = star ∧ p.head? = some star then squeeze p else c :: squeeze p

/-- Puts a backslash in front of every special character. -/
def escape (s : List Char) : List Char := s.flatMap fun c => if c ∈ special then ['\\', c] else [c]

/-- The pieces of a pattern between its stars, escaped, with any-runs between them; around a pattern
without stars any-runs are put. -/
def joined (p : List Char) : List Char :=
  let pieces := ['.', '*'].intercalate (((squeeze p).splitOn star).map escape)
  if star ∈ p then pieces else ['.', '*'] ++ pieces ++ ['.', '*']

/-- One token for one character. -/
def token (c : Char) : Token := if c = star then .anyRun else .literal c

theorem head?_collapse (p : List Char) : (collapse p).head? = p.head?.map token := by
  cases p with
  | nil => rfl
  | cons c p =>
    by_cases hc : c = star
    · subst hc
      by_cases h : (collapse p).head? = some .anyRun
      · rw [(collapse_star p).1 h, h]
        rfl
      · rw [(collapse_star p).2 h]
        rfl
    · rw [collapse_literal hc, List.head?_cons, List.head?_cons, Option.map_some, token, if_neg hc]

theorem collapse_eq_map (p : List Char) : collapse p = (squeeze p).map token := by
  induction p with
  | nil => rfl
  | cons c p ih =>
    have hnext : (collapse p).head? = some .anyRun ↔ p.head? = some star := by
      rw [head?_collapse, Option.map_eq_some_iff]
      constructor
      · rintro ⟨d, hd, ht⟩
        rw [token] at ht
        split at ht
        · rename_i hstar
          rw [hd, hstar]
        · cases ht
      · intro h
        exact ⟨star, h, rfl⟩
    by_cases hc : c = star
    · subst hc
      by_cases h : p.head? = some star
      · rw [(collapse_star p).1 (hnext.2 h), squeeze, if_pos ⟨rfl, h⟩, ih]
      · rw [(collapse_star p).2 (mt hnext.1 h), squeeze, if_neg fun hboth => h hboth.2, ih]
        rfl
    · rw [collapse_literal hc, squeeze, if_neg fun hboth => hc hboth.1, List.map_cons, ih, token,
        if_neg hc]

theorem encode_literals (p : List Char) : encode (p.map .literal) = escape p := by
  simp [encode, escape, encodeToken, List.flatMap_map]

/-- Tokens for single characters are written piece by piece. -/
theorem encode_map_token (q : List Char) :
    encode (q.map token) = ['.', '*'].intercalate ((q.splitOn star).map escape) := by
  induction q with
  | nil => rfl
  | cons c q ih =>
    obtain ⟨w, ws, hws⟩ := List.exists_cons_of_ne_nil (List.splitOn_ne_nil star q)
    rw [List.map_cons, encode_cons, ih, List.splitOn_cons_eq_if_modifyHead, token]
    by_cases hc : c = star
    · rw [if_pos hc, if_pos (by simpa using hc), hws]
      rfl
    · rw [if_neg hc, if_neg (by simpa using hc), hws, List.modifyHead_cons]
      have hcons : escape (c :: w) = encodeToken (.literal c) ++ escape w := by
        simp [escape, encodeToken]
      cases ws with
      | nil => simp [hcons]
      | cons v vs => simp [List.intercalate_cons_cons, hcons]

/-- The pieces of a pattern without stars are the pattern itself. -/
theorem splitOn_squeeze_of_not_mem {p : List Char} (h : star ∉ p) :
    (squeeze p).splitOn star = [p] := by
  have hsqueeze : squeeze p = p := by
    induction p with
    | nil => rfl
    | cons c p ih =>
      rw [List.mem_cons, not_or] at h
      rw [squeeze, if_neg fun hboth => h.1 hboth.1.symm, ih h.2]
  rw [hsqueeze]
  exact List.splitOn_eq_singleton h

theorem encode_tokens (p : List Char) : encode (tokens p) = joined p := by
  rw [tokens, joined]
  by_cases hstar : star ∈ p
  · rw [if_pos hstar, if_pos hstar, collapse_eq_map, encode_map_token]
  · rw [if_neg hstar, if_neg hstar, splitOn_squeeze_of_not_mem hstar, List.map_singleton,
      List.intercalate_singleton, ← encode_literals]
    simp [encode, encodeToken]

/-! ## The expression of a pattern -/

theorem toList_ofPattern (p : String) : (ofPattern p).toList = encode (tokens p.toList) := by
  rw [ofPattern, String.toList_ofList]

theorem encode_inj {ts us : List Token} : encode ts = encode us ↔ ts = us := by
  constructor
  · intro h
    have hdecode := decode_encode ts
    rw [h, decode_encode, Option.some.injEq] at hdecode
    exact hdecode.symm
  · rintro rfl
    rfl

theorem ofPattern_eq_iff_tokens (p q : String) :
    ofPattern p = ofPattern q ↔ tokens p.toList = tokens q.toList := by
  rw [← String.toList_inj, toList_ofPattern, toList_ofPattern, encode_inj]

theorem ofPattern_eq_iff_normalForm {p q : String} (hp : p ≠ "") (hq : q ≠ "") :
    ofPattern p = ofPattern q ↔ ∀ ts, NormalForm p.toList ts ↔ NormalForm q.toList ts := by
  have hp : p.toList ≠ [] := by simpa using hp
  have hq : q.toList ≠ [] := by simpa using hq
  simp only [ofPattern_eq_iff_tokens, normalForm_iff hp, normalForm_iff hq]
  constructor
  · intro h ts
    rw [h]
  · intro h
    exact (h _).1 rfl

/-- **An expression is the normal form of its pattern, in writing.** It is made of the escaped pieces
of the pattern, it is read as tokens in one way only, and these tokens are the one normal form of the
pattern. So two patterns have one expression exactly if they have one normal form. -/
theorem ofPattern_writes_normalForm :
    (∀ p : String, p ≠ "" →
      (ofPattern p).toList = joined p.toList ∧
      decode (ofPattern p).toList = some (tokens p.toList) ∧
      (∀ ts, Reads (ofPattern p).toList ts ↔ ts = tokens p.toList) ∧
      ∀ ts, NormalForm p.toList ts ↔ ts = tokens p.toList) ∧
    ∀ p q : String, p ≠ "" → q ≠ "" →
      (ofPattern p = ofPattern q ↔ ∀ ts, NormalForm p.toList ts ↔ NormalForm q.toList ts) := by
  refine ⟨fun p hp => ?_, fun p q hp hq => ofPattern_eq_iff_normalForm hp hq⟩
  rw [toList_ofPattern]
  exact ⟨encode_tokens p.toList, decode_encode _, reads_encode_iff fun _ => ne_star_of_mem_tokens,
    normalForm_iff (by simpa using hp)⟩

/-- A backslash, stars and a point: the stars are one any-run, and one of them makes no difference. -/
theorem ofPattern_writes_normalForm_backslash :
    Reads "\\\\.*\\.".toList [.literal '\\', .anyRun, .literal '.'] ∧
      ofPattern "\\**." = ofPattern "\\*." := by
  obtain ⟨hread, hsame⟩ := ofPattern_writes_normalForm
  obtain ⟨-, -, hreads, hnormal⟩ := hread "\\**." (by decide)
  obtain ⟨-, -, -, hnormal'⟩ := hread "\\*." (by decide)
  have htokens : tokens "\\**.".toList = tokens "\\*.".toList := rfl
  constructor
  · exact (hreads _).2 rfl
  · rw [hsame _ _ (by decide) (by decide)]
    intro ts
    rw [hnormal, hnormal', htokens]

end Expression

end Pattern

end Phrasebook
