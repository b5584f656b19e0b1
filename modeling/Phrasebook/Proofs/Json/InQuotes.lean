import Mathlib
import Phrasebook.Json.Reader

/-!
# Phrasebook.Proofs.Json.InQuotes

Texts in quotes, as JSON spells them: what is read is what is spelled.

A spelling is a relation between what is meant and the characters that mean it (`InQuotes`). Reading is
looked at through `Step.outcome`, what is read and what is left, without the proof that something was
taken. What is read has a spelling in front of what is left (`inQuotes_of_textBody`), and a spelling is
read, whatever follows (`textBody_of_inQuotes`). What is meant are glyphs. Characters are told as they
are (`tell_map_char`), and within one document texts that differ in any glyph are told apart
(`InQuotes.eq_of_tell`).
-/

namespace Phrasebook

namespace Json

section Outcome

variable {ε α : Type} {s t : List Char}

/-- What a step reads and what it leaves. -/
def Step.outcome (x : Step ε s α) : Except ε (α × List Char) :=
  match x with
  | .ok (a, r) => .ok (a, r.1)
  | .error e => .error e

@[simp] theorem Step.outcome_ok (a : α) (r : Rest s) :
    Step.outcome (.ok (a, r) : Step ε s α) = .ok (a, r.1) := rfl

@[simp] theorem Step.outcome_error (e : ε) :
    Step.outcome (.error e : Step ε s α) = .error e := rfl

@[simp] theorem Step.outcome_within (h : t.length ≤ s.length) (x : Step ε t α) :
    (x.within h).outcome = x.outcome := by
  cases x with
  | ok a => rfl
  | error e => rfl

theorem Step.eq_of_outcome {x : Step ε s α} {a : α} {r : List Char} (h : x.outcome = .ok (a, r)) :
    ∃ hr, x = .ok (a, ⟨r, hr⟩) := by
  rcases x with e | ⟨a', r', hr⟩
  · cases h
  · cases h
    exact ⟨hr, rfl⟩

end Outcome

/-! ## Texts in quotes -/

/-- The characters are four hexadecimal digits of the number. -/
def Code (n : Nat) (ds : List Char) : Prop := ds.length = 4 ∧ Hex.read? ds = some n

/-- The text begins with the code of a second half, and goes on. -/
def BeginsWithLowHalf (s : List Char) : Prop :=
  ∃ m ds r, s = '\\' :: 'u' :: (ds ++ r) ∧ Code m ds ∧ isLowHalf m = true ∧ r ≠ []

/-- Spellings of one glyph in a text. A first half stands alone only where no second half comes next. -/
inductive Spelling (next : List Char) : Glyph → List Char → Prop
  | plain {c : Char} (hquote : c ≠ '"') (hbackslash : c ≠ '\\') (hcontrol : 0x1F < c.toNat) :
      Spelling next (.char c) [c]
  | short {c d : Char} (hc : shortEscape? c = some d) : Spelling next (.char d) ['\\', c]
  | code {n : Nat} {ds : List Char} (hds : Code n ds)
      (halone : isHighHalf n = true → ¬BeginsWithLowHalf next) :
      Spelling next (.ofCode n) ('\\' :: 'u' :: ds)
  | pair {n m : Nat} {ds es : List Char} (hds : Code n ds) (hn : isHighHalf n = true)
      (hes : Code m es) (hm : isLowHalf m = true) :
      Spelling next (.ofCode (0x10000 + (n - 0xD800) * 0x400 + (m - 0xDC00)))
        ('\\' :: 'u' :: (ds ++ '\\' :: 'u' :: es))

/-- Spellings of a text behind its opening quote. -/
inductive InQuotes : List Glyph → List Char → Prop
  | close : InQuotes [] ['"']
  | cons {g : Glyph} {gs : List Glyph} {u s : List Char} (hg : Spelling s g u) (h : InQuotes gs s) :
      InQuotes (g :: gs) (u ++ s)

theorem code?_eq_some_iff {s r : List Char} {n : Nat} :
    code? s = some (n, r) ↔ ∃ ds, s = ds ++ r ∧ Code n ds ∧ r ≠ [] := by
  constructor
  · intro h
    match s, h with
    | a :: b :: c :: d :: e :: s, h =>
      obtain ⟨m, hm, hr⟩ := Option.map_eq_some_iff.1 h
      cases hr
      exact ⟨[a, b, c, d], rfl, ⟨rfl, hm⟩, List.cons_ne_nil _ _⟩
  · rintro ⟨ds, rfl, ⟨hlength, hread⟩, hr⟩
    obtain ⟨a, b, c, d, rfl⟩ := List.length_eq_four.1 hlength
    obtain ⟨e, r, rfl⟩ := List.exists_cons_of_ne_nil hr
    simp only [List.cons_append, List.nil_append, code?, hread, Option.map_some]

theorem secondCode_eq_some {m : Nat} {es r : List Char} (hes : Code m es) (hr : r ≠ []) :
    ∃ h, secondCode ('\\' :: 'u' :: (es ++ r)) = .ok (some (m, ⟨r, h⟩)) := by
  have hcode : code? (es ++ r) = some (m, r) := code?_eq_some_iff.2 ⟨es, rfl, hes, hr⟩
  have hlength := List.length_pos_iff.2 hr
  refine ⟨by simp; omega, ?_⟩
  rw [secondCode, if_neg (by rw [List.length_append, hes.1]; omega)]
  split
  · rename_i n r' h
    rw [hcode] at h
    cases h
    rfl
  · rename_i h
    rw [hcode] at h
    cases h

theorem eq_of_secondCode {s : List Char} {m : Nat} {r : Rest s}
    (h : secondCode s = .ok (some (m, r))) :
    ∃ es, s = '\\' :: 'u' :: (es ++ r.1) ∧ Code m es ∧ r.1 ≠ [] := by
  unfold secondCode at h
  split at h
  · split at h
    · cases h
    · split at h
      · rename_i hcode
        cases h
        obtain ⟨es, rfl, hes, hr⟩ := code?_eq_some_iff.1 hcode
        exact ⟨es, rfl, hes, hr⟩
      · cases h
  · cases h

theorem isLowHalf_eq_of_beginsWithLowHalf {s : List Char} (hs : BeginsWithLowHalf s) :
    ∃ m r, secondCode s = .ok (some (m, r)) ∧ isLowHalf m = true := by
  obtain ⟨m, es, r, rfl, hes, hm, hr⟩ := hs
  obtain ⟨hlength, hsecond⟩ := secondCode_eq_some hes hr
  exact ⟨m, ⟨r, hlength⟩, hsecond, hm⟩

theorem outcome_coded (s : List Char) : (coded s).outcome =
    match code? s with
    | none => .error ⟨.badCode, s.length + 1⟩
    | some (n, r) =>
      if isHighHalf n then
        match secondCode r with
        | .error e => .error e
        | .ok none => .ok (.ofCode n, r)
        | .ok (some (m, r')) =>
          if isLowHalf m then .ok (.ofCode (0x10000 + (n - 0xD800) * 0x400 + (m - 0xDC00)), r'.1)
          else .ok (.ofCode n, r)
      else .ok (.ofCode n, r) := by
  unfold coded
  split
  · rename_i hcode
    simp only [hcode]
    rfl
  · rename_i n r hcode
    simp only [hcode]
    split
    · split <;> rename_i hsecond <;> simp only [hsecond]
      · rfl
      · split <;> rfl
      · rfl
    · rfl

theorem spelling_of_coded {s r : List Char} {g : Glyph} (h : (coded s).outcome = .ok (g, r)) :
    ∃ u, s = u ++ r ∧ Spelling r g ('\\' :: 'u' :: u) := by
  rw [outcome_coded] at h
  split at h
  · cases h
  rename_i n t hcode
  obtain ⟨ds, rfl, hds, -⟩ := code?_eq_some_iff.1 hcode
  split at h
  · rename_i hn
    split at h
    · cases h
    · rename_i hsecond
      cases h
      refine ⟨ds, rfl, .code hds fun _ hlow => ?_⟩
      obtain ⟨m, r, hsecond', -⟩ := isLowHalf_eq_of_beginsWithLowHalf hlow
      rw [hsecond'] at hsecond
      cases hsecond
    · rename_i m r' hsecond
      obtain ⟨es, ht, hes, -⟩ := eq_of_secondCode hsecond
      split at h
      · rename_i hm
        obtain ⟨rfl, rfl⟩ := Prod.mk.inj (Except.ok.inj h)
        exact ⟨ds ++ '\\' :: 'u' :: es, by simpa using ht, .pair hds hn hes hm⟩
      · rename_i hm
        cases h
        refine ⟨ds, rfl, .code hds fun _ hlow => ?_⟩
        obtain ⟨m', r', hsecond', hm'⟩ := isLowHalf_eq_of_beginsWithLowHalf hlow
        rw [hsecond'] at hsecond
        cases hsecond
        exact hm hm'
  · rename_i hn
    cases h
    exact ⟨ds, rfl, .code hds fun hn' => absurd hn' hn⟩

theorem coded_of_spelling {next : List Char} {g : Glyph} {u : List Char}
    (h : Spelling next g ('\\' :: 'u' :: u)) (hnext : next ≠ [])
    (hwhole : ∃ o, secondCode next = .ok o) : (coded (u ++ next)).outcome = .ok (g, next) := by
  rw [outcome_coded]
  generalize hw : '\\' :: 'u' :: u = w at h
  cases h with
  | plain => simp at hw
  | short hc =>
    simp only [List.cons.injEq, true_and] at hw
    obtain ⟨rfl, -⟩ := hw
    cases hc
  | code hds halone =>
    simp only [List.cons.injEq, true_and] at hw
    subst hw
    rw [code?_eq_some_iff.2 ⟨u, rfl, hds, hnext⟩]
    dsimp only
    split
    · rename_i hn
      obtain ⟨o, hwhole⟩ := hwhole
      rw [hwhole]
      rcases o with _ | ⟨m, r⟩
      · rfl
      · obtain ⟨es, hes⟩ := eq_of_secondCode hwhole
        have hm : ¬isLowHalf m = true := fun hm =>
          halone hn ⟨m, es, r.1, hes.1, hes.2.1, hm, hes.2.2⟩
        simp only [if_neg hm]
    · rfl
  | pair hds hn hes hm =>
    rename_i n m ds es
    simp only [List.cons.injEq, true_and] at hw
    subst hw
    obtain ⟨hlength, hsecond⟩ := secondCode_eq_some hes hnext
    have hcode : code? (ds ++ '\\' :: 'u' :: es ++ next) =
        some (n, '\\' :: 'u' :: (es ++ next)) :=
      code?_eq_some_iff.2 ⟨ds, by simp, hds, List.cons_ne_nil _ _⟩
    rw [hcode]
    simp only [hn, hsecond, hm, if_true]

theorem eq_of_glyph {body s r : List Char} (h : (glyph body s).outcome = .ok (none, r)) :
    s = '"' :: r := by
  unfold glyph at h
  split at h
  · cases h
  · cases h
    rfl
  · cases h
  · split at h <;> cases h
  · split at h <;> cases h
  · split at h <;> cases h

theorem spelling_of_glyph {body s r : List Char} {g : Glyph}
    (h : (glyph body s).outcome = .ok (some g, r)) : ∃ u, s = u ++ r ∧ Spelling r g u := by
  unfold glyph at h
  split at h
  · cases h
  · cases h
  · cases h
  · split at h
    · cases h
    · rename_i t g' r' hcoded
      cases h
      obtain ⟨u, hu, hspelling⟩ := spelling_of_coded (r := r'.1) (by rw [hcoded]; rfl)
      exact ⟨'\\' :: 'u' :: u, congrArg ('\\' :: 'u' :: ·) hu, hspelling⟩
  · split at h
    · rename_i hd
      cases h
      exact ⟨_, rfl, .short hd⟩
    · cases h
  · rename_i c' t hquote hend _ hshort
    split at h
    · cases h
    · rename_i hcontrol
      cases h
      refine ⟨[c'], rfl, .plain hquote ?_ (Nat.lt_of_not_le hcontrol)⟩
      intro hbackslash
      cases t with
      | nil => exact hend hbackslash rfl
      | cons d t => exact hshort d t hbackslash rfl

theorem glyph_of_spelling {body next : List Char} {g : Glyph} {u : List Char}
    (h : Spelling next g u) (hnext : next ≠ []) (hwhole : ∃ o, secondCode next = .ok o) :
    (glyph body (u ++ next)).outcome = .ok (some g, next) := by
  have hcoded : ∀ {v}, Spelling next g ('\\' :: 'u' :: v) →
      (glyph body ('\\' :: 'u' :: (v ++ next))).outcome = .ok (some g, next) := by
    intro v hv
    obtain ⟨hlength, hv⟩ := Step.eq_of_outcome (coded_of_spelling hv hnext hwhole)
    simp only [glyph, hv]
    rfl
  cases h with
  | plain hquote hbackslash hcontrol =>
    rw [List.singleton_append, glyph.eq_6, if_neg (Nat.not_le_of_lt hcontrol)]
    · rfl
    · exact hquote
    all_goals intros; exact hbackslash ‹_›
  | short hc =>
    rw [List.cons_append, List.singleton_append, glyph.eq_5]
    · simp only [hc]
      rfl
    · rintro rfl
      cases hc
  | code hds halone => exact hcoded (.code hds halone)
  | pair hds hn hes hm => exact hcoded (.pair hds hn hes hm)

theorem Spelling.length_pos {next : List Char} {g : Glyph} {u : List Char} (h : Spelling next g u) :
    0 < u.length := by
  cases h with
  | plain | short | code | pair => exact Nat.succ_pos _

theorem InQuotes.ne_nil {gs : List Glyph} {s : List Char} (h : InQuotes gs s) : s ≠ [] := by
  cases h with
  | close => exact List.cons_ne_nil _ _
  | cons hg h => exact List.append_ne_nil_of_left_ne_nil (List.length_pos_iff.1 hg.length_pos) _

/-- What is spelled begins with a whole code or, whatever follows, with no code at all. -/
theorem InQuotes.begins {gs : List Glyph} {s : List Char} (h : InQuotes gs s) :
    (∃ n ds t, s = '\\' :: 'u' :: (ds ++ t) ∧ Code n ds ∧ t ≠ []) ∨
      ∀ r t, s ++ r ≠ '\\' :: 'u' :: t := by
  cases h with
  | close => exact .inr fun r t h => by simp at h
  | @cons g gs u s hg h =>
    cases hg with
    | plain hquote hbackslash hcontrol =>
      refine .inr fun r t ht => hbackslash ?_
      simpa using congrArg List.head? ht
    | @short d _ hd =>
      refine .inr fun r t ht => ?_
      simp only [List.cons_append, List.cons.injEq, true_and] at ht
      obtain ⟨rfl, -⟩ := ht
      cases hd
    | @code n ds hds halone => exact .inl ⟨n, ds, s, by simp, hds, h.ne_nil⟩
    | @pair n m ds es hds hn hes hm =>
      exact .inl ⟨n, ds, '\\' :: 'u' :: (es ++ s), by simp, hds, List.cons_ne_nil _ _⟩

theorem InQuotes.secondCode_eq_ok {gs : List Glyph} {s : List Char} (h : InQuotes gs s)
    (r : List Char) :
    ∃ o, secondCode (s ++ r) = .ok o := by
  rcases h.begins with ⟨n, ds, t, rfl, hds, ht⟩ | hbegins
  · obtain ⟨hlength, h⟩ := secondCode_eq_some hds (List.append_ne_nil_of_left_ne_nil ht r)
    rw [List.cons_append, List.cons_append, List.append_assoc]
    exact ⟨_, h⟩
  · exact ⟨none, secondCode.eq_2 _ (hbegins r)⟩

theorem Spelling.of_append {s r : List Char} {g : Glyph} {u : List Char}
    (h : Spelling (s ++ r) g u) : Spelling s g u := by
  cases h with
  | plain hquote hbackslash hcontrol => exact .plain hquote hbackslash hcontrol
  | short hc => exact .short hc
  | code hds halone =>
    refine .code hds fun hn hlow => halone hn ?_
    obtain ⟨m, es, t, rfl, hes, hm, ht⟩ := hlow
    exact ⟨m, es, t ++ r, by simp, hes, hm, List.append_ne_nil_of_left_ne_nil ht r⟩
  | pair hds hn hes hm => exact .pair hds hn hes hm

theorem Spelling.append {gs : List Glyph} {s : List Char} {g : Glyph} {u : List Char}
    (h : Spelling s g u) (hs : InQuotes gs s) (r : List Char) : Spelling (s ++ r) g u := by
  cases h with
  | plain hquote hbackslash hcontrol => exact .plain hquote hbackslash hcontrol
  | short hc => exact .short hc
  | code hds halone =>
    refine .code hds fun hn hlow => halone hn ?_
    obtain ⟨m, es, t, hst, hes, hm, ht⟩ := hlow
    rcases hs.begins with ⟨n', ds', t', rfl, hds', ht'⟩ | hbegins
    · simp only [List.cons_append, List.append_assoc, List.cons.injEq, true_and] at hst
      obtain ⟨rfl, -⟩ := List.append_inj hst (hds'.1.trans hes.1.symm)
      exact ⟨m, _, t', rfl, hes, hm, ht'⟩
    · exact absurd hst (hbegins r _)
  | pair hds hn hes hm => exact .pair hds hn hes hm

theorem outcome_textBody (body s : List Char) : (textBody body s).outcome =
    match (glyph body s).outcome with
    | .error e => .error e
    | .ok (none, r) => .ok ([], r)
    | .ok (some g, r) =>
      match (textBody body r).outcome with
      | .error e => .error e
      | .ok (gs, r') => .ok (g :: gs, r') := by
  rw [textBody]
  rcases glyph body s with e | ⟨_ | g, r⟩
  · rfl
  · rfl
  · dsimp only [Step.outcome_ok]
    rcases textBody body r.1 with e | ⟨gs, r'⟩ <;> rfl

theorem inQuotes_of_textBody {body s r : List Char} {gs : List Glyph}
    (h : (textBody body s).outcome = .ok (gs, r)) : ∃ t, s = t ++ r ∧ InQuotes gs t := by
  induction s using textBody.induct body generalizing gs with
  | case1 s e hg =>
    rw [outcome_textBody, hg] at h
    cases h
  | case2 s r' hg =>
    rw [outcome_textBody, hg] at h
    cases h
    exact ⟨['"'], eq_of_glyph (by rw [hg]; rfl), .close⟩
  | case3 s g r' hg e hrest ih =>
    rw [outcome_textBody, hg] at h
    simp only [Step.outcome_ok, hrest, Step.outcome_error] at h
    cases h
  | case4 s g r' hg gs' r'' hrest ih =>
    rw [outcome_textBody, hg] at h
    simp only [Step.outcome_ok, hrest] at h
    cases h
    obtain ⟨u, hu, hspelling⟩ := spelling_of_glyph (r := r'.1) (by rw [hg]; rfl)
    obtain ⟨t, ht, hinside⟩ := ih (by rw [hrest]; rfl)
    exact ⟨u ++ t, hu.trans ((congrArg (u ++ ·) ht).trans (List.append_assoc u t _).symm),
      .cons (.of_append (ht ▸ hspelling)) hinside⟩

theorem textBody_of_inQuotes {body t : List Char} {gs : List Glyph} (h : InQuotes gs t)
    (r : List Char) : (textBody body (t ++ r)).outcome = .ok (gs, r) := by
  induction h with
  | close =>
    rw [outcome_textBody]
    rfl
  | @cons g gs u s hg h ih =>
    have hnext : s ++ r ≠ [] := List.append_ne_nil_of_left_ne_nil h.ne_nil r
    rw [outcome_textBody, List.append_assoc,
      glyph_of_spelling (hg.append h r) hnext (h.secondCode_eq_ok r)]
    simp only [ih]

/-! ## Glyphs told -/

theorem InQuotes.length_lt {gs : List Glyph} {s : List Char} (h : InQuotes gs s) :
    gs.length < s.length := by
  induction h with
  | close => exact Nat.zero_lt_one
  | cons hg h ih =>
    have hu := hg.length_pos
    rw [List.length_cons, List.length_append]
    omega

/-- Characters are told as they are. -/
theorem tell_map_char (marks : Nat) (cs : List Char) :
    tell marks (cs.map .char) = String.ofList cs := by
  simp [tell, List.flatMap_map, Glyph.tell]

theorem toNat_half (k : Fin 0x800) : (Char.ofNat (0xE000 + k)).toNat = 0xE000 + k := by
  have hvalid : (0xE000 + k.1).isValidChar := .inr ⟨by omega, by omega⟩
  rw [Char.toNat_ofNat, if_pos hvalid]

theorem ofNat_half_ne_mark (k : Fin 0x800) : Char.ofNat (0xE000 + k) ≠ mark := by
  intro h
  have hcode := congrArg Char.toNat h
  have hmark : mark.toNat = 0x10FFFF := by decide
  rw [toNat_half, hmark] at hcode
  omega

theorem half_injective {k l : Fin 0x800} (h : Char.ofNat (0xE000 + k) = Char.ofNat (0xE000 + l)) :
    k = l := by
  have hcode := congrArg Char.toNat h
  rw [toNat_half, toNat_half] at hcode
  exact Fin.ext (by omega)

section Told

variable {marks : Nat} {gs gs' : List Glyph}

/-- Where a run of marks is too short for half a pair, each is a glyph. -/
theorem le_length_of_told {m : Nat} (hm : m < marks) {c : Char} (hc : c ≠ mark) {s : List Char}
    (h : gs.flatMap (Glyph.tell marks) = List.replicate m mark ++ c :: s) : m ≤ gs.length := by
  induction m generalizing gs with
  | zero => exact Nat.zero_le _
  | succ m ih =>
    cases gs with
    | nil => simp at h
    | cons g gs =>
      cases g with
      | char d =>
        rw [List.replicate_succ] at h
        exact Nat.succ_le_succ (ih (Nat.lt_of_succ_lt hm) (List.cons.inj h).2)
      | half k =>
        -- Half a pair would carry the run on to where it ends.
        obtain ⟨n, rfl⟩ := Nat.exists_eq_add_of_lt hm
        simp only [List.flatMap_cons, Glyph.tell, List.append_assoc, Nat.add_assoc (m + 1) n 1,
          List.replicate_add (m + 1), List.append_cancel_left_eq] at h
        exact absurd (List.cons.inj h).1.symm hc

/-- A character and too few glyphs behind it are not told as half a pair. -/
theorem told_char_ne_told_half (hgs : gs.length + 1 < marks) (c : Char) (k : Fin 0x800) :
    (Glyph.char c :: gs).flatMap (Glyph.tell marks) ≠
      (Glyph.half k :: gs').flatMap (Glyph.tell marks) := by
  intro h
  obtain ⟨m, rfl⟩ := Nat.exists_eq_add_one.2 (Nat.zero_lt_of_lt hgs)
  simp only [List.flatMap_cons, Glyph.tell, List.replicate_succ, List.cons_append,
    List.nil_append, List.append_assoc, List.cons.injEq] at h
  have := le_length_of_told (Nat.lt_succ_self m) (ofNat_half_ne_mark k) h.2
  omega

/-- Texts that differ in any glyph are told apart, where half a pair takes more marks than they have
glyphs. -/
theorem tell_inj (hgs : gs.length < marks) (hgs' : gs'.length < marks)
    (h : tell marks gs = tell marks gs') : gs = gs' := by
  have hlists : gs.flatMap (Glyph.tell marks) = gs'.flatMap (Glyph.tell marks) := by
    simpa [tell] using congrArg String.toList h
  have hnil : ∀ g : Glyph, g.tell marks ≠ [] := fun g => by cases g <;> simp [Glyph.tell]
  clear h
  induction gs generalizing gs' with
  | nil =>
    cases gs' with
    | nil => rfl
    | cons g gs' => exact absurd (List.append_eq_nil_iff.1 hlists.symm).1 (hnil g)
  | cons g gs ih =>
    cases gs' with
    | nil => exact absurd (List.append_eq_nil_iff.1 hlists).1 (hnil g)
    | cons g' gs' =>
      rw [List.length_cons] at hgs hgs'
      have hrest : gs.flatMap (Glyph.tell marks) = gs'.flatMap (Glyph.tell marks) → gs = gs' :=
        ih (Nat.lt_of_succ_lt hgs) (Nat.lt_of_succ_lt hgs')
      cases g with
      | char c =>
        cases g' with
        | char d =>
          obtain ⟨rfl, htail⟩ := List.cons.inj hlists
          rw [hrest htail]
        | half k => exact absurd hlists (told_char_ne_told_half hgs c k)
      | half k =>
        cases g' with
        | char d => exact absurd hlists.symm (told_char_ne_told_half hgs' d k)
        | half l =>
          simp only [List.flatMap_cons, Glyph.tell, List.append_assoc,
            List.append_cancel_left_eq] at hlists
          obtain ⟨hcode, htail⟩ := List.cons.inj hlists
          rw [half_injective hcode, hrest htail]

end Told

/-- Within one document, texts in quotes that are told alike have the same glyphs. -/
theorem InQuotes.eq_of_tell {s t t' : List Char} {gs gs' : List Glyph} (ht : t <:+: s)
    (ht' : t' <:+: s) (h : InQuotes gs t) (h' : InQuotes gs' t')
    (htell : tell (marksFor s) gs = tell (marksFor s) gs') : gs = gs' := by
  have hfew : ∀ {gs t}, t <:+: s → InQuotes gs t → gs.length < marksFor s := fun ht h =>
    Nat.lt_succ_of_lt (Nat.lt_of_lt_of_le h.length_lt ht.length_le)
  exact tell_inj (hfew ht h) (hfew ht' h') htell

end Json

end Phrasebook
