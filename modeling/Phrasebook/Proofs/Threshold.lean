import Phrasebook.Proofs.LogSetup
import Phrasebook.Proofs.Spelling
import Phrasebook.Settings

/-!
# Phrasebook.Proofs.Threshold

Which threshold a text names, and the texts at which setting up the logs fails.

`Means` says what a text is meant to stand for: a number of decimal digits is that number, a known
name in any letter case its threshold, and every other text the standard one. The code takes every
text of digits for a number, those included that have no decimal value and those that are too long,
and fails to read these (`Unread`). A text of digits is a number or one of these (`digits_cases`) and
never a name (`flatMap_capitals_ne_name`), so they are the only texts that do not get what they
mean (`ofText_eq_ok_iff`, `ofText_eq_error_iff`). The start of the program fails at the same texts.
-/

namespace Phrasebook

namespace Threshold

/-- A number in decimal digits of any script, as long as a numeral may be. -/
structure IsNumber (s : List Char) : Prop where
  ne_nil : s ≠ []
  decimal : ∀ c ∈ s, Digit.isDecimal c = true
  short : s.length ≤ Numeral.maxDigits

/-- What a text without blanks around it is meant to stand for. -/
inductive Means (s : List Char) : Threshold → Prop
  | number (h : IsNumber s) : Means s (number (Numeral.ofDigits (Numeral.digits s)))
  | name {word : List Char} {n : Int} (hname : (word, n) ∈ names)
      (hs : s.flatMap Letter.capitals = word) : Means s (number n)
  | other (hnumber : ¬IsNumber s) (hname : ∀ p ∈ names, s.flatMap Letter.capitals ≠ p.1) :
      Means s standard

/-- The text consists of digits and is not read as a number: its decimal digits in front are too
many, or an ornamental digit comes behind them. -/
inductive Unread : List Char → Numeral.Refusal → Prop
  | overlong {ds rest : List Char} (hds : ∀ d ∈ ds, Digit.isDecimal d = true)
      (hend : ∀ c ∈ rest.head?, Digit.isDecimal c = false)
      (hrest : ∀ c ∈ rest, Digit.isDigitLike c = true) (hlong : Numeral.maxDigits < ds.length) :
      Unread (ds ++ rest) (.tooLong ds.length)
  | ornamental {ds rest : List Char} {c : Char} (hds : ∀ d ∈ ds, Digit.isDecimal d = true)
      (hend : Digit.isDecimal c = false) (hrest : ∀ d ∈ c :: rest, Digit.isDigitLike d = true)
      (hshort : ds.length ≤ Numeral.maxDigits) : Unread (ds ++ c :: rest) .malformed

/-- The fault of a text that looks like a number and is not read as one. -/
def Misleads (text : String) (f : Fault) : Prop :=
  ∃ r, Unread (Blank.trim text).toList r ∧ f = Fault.ofRefusal (Blank.trim text) r

/-! ## Digits -/

theorem isDigitLike_of_decimal {s : List Char} (h : ∀ c ∈ s, Digit.isDecimal c = true) :
    ∀ c ∈ s, Digit.isDigitLike c = true := by
  intro c hc
  obtain ⟨d, hd⟩ := Digit.exists_value_of_isDecimal (h c hc)
  exact Digit.isDigitLike_of_value? hd

theorem Unread.digits {s : List Char} {r : Numeral.Refusal} (h : Unread s r) :
    s ≠ [] ∧ ∀ c ∈ s, Digit.isDigitLike c = true := by
  cases h with
  | overlong hds _ hrest hlong =>
    refine ⟨fun hnil => ?_, List.forall_mem_append.2 ⟨isDigitLike_of_decimal hds, hrest⟩⟩
    rw [(List.append_eq_nil_iff.1 hnil).1] at hlong
    exact absurd hlong (Nat.not_lt_zero _)
  | ornamental hds _ hrest _ =>
    exact ⟨by simp, List.forall_mem_append.2 ⟨isDigitLike_of_decimal hds, hrest⟩⟩

theorem exists_decimal_prefix (s : List Char) : ∃ ds rest, s = ds ++ rest ∧
    (∀ d ∈ ds, Digit.isDecimal d = true) ∧ ∀ c ∈ rest.head?, Digit.isDecimal c = false := by
  refine ⟨s.takeWhile Digit.isDecimal, s.dropWhile Digit.isDecimal,
    List.takeWhile_append_dropWhile.symm, fun d hd => List.mem_takeWhile_imp hd, ?_⟩
  intro c hc
  have hstop := List.head?_dropWhile_not Digit.isDecimal s
  rwa [Option.mem_def.1 hc] at hstop

/-- A text of digits is a number, or it is not read. -/
theorem digits_cases {s : List Char} (hne : s ≠ [])
    (hdigits : ∀ c ∈ s, Digit.isDigitLike c = true) : IsNumber s ∨ ∃ r, Unread s r := by
  obtain ⟨ds, rest, rfl, hds, hend⟩ := exists_decimal_prefix s
  have hrest : ∀ c ∈ rest, Digit.isDigitLike c = true :=
    fun c hc => hdigits c (List.mem_append_right ds hc)
  by_cases hlong : Numeral.maxDigits < ds.length
  · exact .inr ⟨_, .overlong hds hend hrest hlong⟩
  have hshort := Nat.le_of_not_lt hlong
  cases rest with
  | nil =>
    rw [List.append_nil] at hne ⊢
    exact .inl ⟨hne, hds, hshort⟩
  | cons c rest => exact .inr ⟨_, .ornamental hds (hend c rfl) hrest hshort⟩

theorem not_isNumber_of_unread {s : List Char} {r : Numeral.Refusal} (h : Unread s r) :
    ¬IsNumber s := by
  intro hnumber
  cases h with
  | @overlong ds rest hds hend hrest hlong =>
    have hshort := hnumber.short
    rw [List.length_append] at hshort
    omega
  | @ornamental ds rest c hds hend hrest hshort =>
    have hc := hnumber.decimal c (by simp)
    rw [hend] at hc
    cases hc

/-- Digits have no case. -/
theorem capitals_of_isDigitLike {c : Char} (h : Digit.isDigitLike c = true) :
    Letter.capitals c = [c] := by
  have hlookup : Letter.westernCapitals.lookup c = none := by
    have hletters : ∀ p ∈ Letter.westernCapitals, Digit.isDigitLike p.1 = false := by
      decide +kernel
    rw [List.lookup_eq_none_iff]
    intro p hp
    rw [bne_iff_ne]
    rintro rfl
    rw [hletters p hp] at h
    cases h
  have hupper : c.toUpper = c := by
    have hletters : ∀ r ∈ Digit.ranges, r.2 < 0x61 ∨ 0x7A < r.1 := by decide +kernel
    obtain ⟨r, hr, hle⟩ := (Digit.isDigitLike_iff c).1 h
    have hapart := hletters r hr
    rw [Char.toUpper, dif_neg]
    rintro ⟨ha, hz⟩
    have ha : 0x61 ≤ c.toNat := UInt32.le_iff_toNat_le.1 ha
    have hz : c.toNat ≤ 0x7A := UInt32.le_iff_toNat_le.1 hz
    omega
  rw [Letter.capitals, hlookup, hupper]
  rfl

theorem flatMap_capitals_of_digits {s : List Char} (h : ∀ c ∈ s, Digit.isDigitLike c = true) :
    s.flatMap Letter.capitals = s := by
  induction s with
  | nil => rfl
  | cons c s ih =>
    rw [List.flatMap_cons, capitals_of_isDigitLike (h c List.mem_cons_self),
      ih fun d hd => h d (List.mem_cons_of_mem c hd)]
    rfl

/-- No name consists of digits. -/
theorem flatMap_capitals_ne_name {s : List Char} (h : ∀ c ∈ s, Digit.isDigitLike c = true) :
    ∀ p ∈ names, s.flatMap Letter.capitals ≠ p.1 := by
  intro p hp e
  rw [flatMap_capitals_of_digits h] at e
  have hall : p.1.all Digit.isDigitLike = true := by
    rw [← e]
    exact List.all_eq_true.2 h
  have hname : ∀ p ∈ names, p.1.all Digit.isDigitLike = false := by decide +kernel
  rw [hname p hp] at hall
  cases hall

/-! ## Reading digits -/

theorem read_of_digits {s : List Char} (h : ∀ c ∈ s, Digit.isDigitLike c = true) :
    Numeral.read s = Numeral.readUnsigned false s := by
  cases s with
  | nil => rfl
  | cons c s =>
    have hc := h c List.mem_cons_self
    have hmark := Digit.ne_mark_of_isDigitLike hc
    have hdrop : (c :: s).dropWhile Blank.isNumeralBlank = c :: s := by
      simp [Digit.not_isNumeralBlank_of_isDigitLike hc]
    rw [Numeral.read_eq, hdrop]
    simp [Numeral.splitSign, hmark.1, hmark.2.1]

theorem isBody_of_decimal {s : List Char} (h : ∀ c ∈ s, Digit.isDecimal c = true) :
    ∀ c ∈ s, Numeral.isBody c = true := by
  intro c hc
  obtain ⟨d, hd⟩ := Digit.exists_value_of_isDecimal (h c hc)
  simp [Numeral.isBody, hd]

theorem barsInside_of_decimal {s : List Char} (h : ∀ c ∈ s, Digit.isDecimal c = true) :
    Numeral.barsInside s = true := by
  cases s with
  | nil => rfl
  | cons c s => exact (Numeral.figures_of_decimal (List.cons_ne_nil c s) h).barsInside

theorem read_of_isNumber {s : List Char} (h : IsNumber s) :
    Numeral.read s = .ok (Numeral.ofDigits (Numeral.digits s)) :=
  Numeral.read_of_decimal .absent h.ne_nil h.decimal h.short

theorem read_of_unread {s : List Char} {r : Numeral.Refusal} (h : Unread s r) :
    Numeral.read s = .error r := by
  rw [read_of_digits h.digits.2]
  have hbody : ∀ c, Digit.isDigitLike c = true → Digit.isDecimal c = false →
      Numeral.isBody c = false := by
    intro c hc hend
    have hbar := (Digit.ne_mark_of_isDigitLike hc).2.2
    rw [Digit.isDecimal] at hend
    simp [Numeral.isBody, hend, hbar]
  cases h with
  | @overlong ds rest hds hend hrest hlong =>
    have hstop : ∀ c ∈ rest.head?, Numeral.isBody c = false := fun c hc =>
      hbody c (hrest c (List.mem_of_mem_head? hc)) (hend c hc)
    rw [Numeral.readUnsigned, Numeral.takeWhile_run (isBody_of_decimal hds) hstop,
      barsInside_of_decimal hds, Numeral.length_digits hds]
    simp [hlong]
  | @ornamental ds rest c hds hend hrest hshort =>
    have hc := hrest c List.mem_cons_self
    have hstop : ∀ x ∈ (c :: rest).head?, Numeral.isBody x = false := by
      rintro x ⟨⟩
      exact hbody c hc hend
    rw [Numeral.readUnsigned, Numeral.takeWhile_run (isBody_of_decimal hds) hstop,
      Numeral.dropWhile_run (isBody_of_decimal hds) hstop, barsInside_of_decimal hds,
      Numeral.length_digits hds]
    simp [Nat.not_lt.2 hshort, Digit.not_isNumeralBlank_of_isDigitLike hc]

/-! ## The threshold of a text -/

theorem lookup_names_eq_some_iff (word : List Char) (n : Int) :
    names.lookup word = some n ↔ (word, n) ∈ names := by
  constructor
  · intro h
    obtain ⟨before, behind, hnames, -⟩ := List.lookup_eq_some_iff.1 h
    rw [hnames]
    simp
  · intro h
    have hall : ∀ p ∈ names, names.lookup p.1 = some p.2 := by decide
    exact hall _ h

theorem lookup_names_eq_none_iff (word : List Char) :
    names.lookup word = none ↔ ∀ p ∈ names, word ≠ p.1 := by
  simp [List.lookup_eq_none_iff]

/-- Every text is meant to stand for something. -/
theorem exists_means (s : List Char) : ∃ t, Means s t := by
  by_cases hnumber : IsNumber s
  · exact ⟨_, .number hnumber⟩
  cases hlookup : names.lookup (s.flatMap Letter.capitals) with
  | some n => exact ⟨_, .name ((lookup_names_eq_some_iff _ n).1 hlookup) rfl⟩
  | none => exact ⟨_, .other hnumber ((lookup_names_eq_none_iff _).1 hlookup)⟩

theorem ofValue_text (text : String) : ofValue (.text text) = ofText text := rfl

theorem ofText_of_digits {text : String} (hne : (Blank.trim text).toList ≠ [])
    (h : ∀ c ∈ (Blank.trim text).toList, Digit.isDigitLike c = true) :
    ofText text = ((Numeral.read (Blank.trim text).toList).map number).mapError
      (Fault.ofRefusal (Blank.trim text)) := by
  have hcondition : (!(Blank.trim text).isEmpty &&
      (Blank.trim text).toList.all Digit.isDigitLike) = true := by
    simpa [List.all_eq_true.2 h] using hne
  rw [ofText, if_pos hcondition]
  cases Numeral.read (Blank.trim text).toList <;> rfl

theorem ofText_of_not_digits {text : String} (h : ¬((Blank.trim text).toList ≠ [] ∧
    ∀ c ∈ (Blank.trim text).toList, Digit.isDigitLike c = true)) :
    ofText text = .ok (number
      ((names.lookup ((Blank.trim text).toList.flatMap Letter.capitals)).getD 20)) := by
  have hcondition : ¬(!(Blank.trim text).isEmpty &&
      (Blank.trim text).toList.all Digit.isDigitLike) = true := by
    simpa [List.all_eq_true] using h
  rw [ofText, if_neg hcondition]

theorem dropWhile_isBlank_of_digits {s : List Char} (h : ∀ c ∈ s, Digit.isDigitLike c = true) :
    s.dropWhile Blank.isBlank = s := by
  cases s with
  | nil => rfl
  | cons c s => simp [Digit.not_isBlank_of_isDigitLike (h c List.mem_cons_self)]

theorem trim_of_digits {text : String} (h : ∀ c ∈ text.toList, Digit.isDigitLike c = true) :
    Blank.trim text = text := by
  have hreverse : ∀ c ∈ text.toList.reverse, Digit.isDigitLike c = true :=
    fun c hc => h c (List.mem_reverse.1 hc)
  rw [Blank.trim, Blank.trimBoth, dropWhile_isBlank_of_digits h,
    dropWhile_isBlank_of_digits hreverse, List.reverse_reverse, String.ofList_toList]

theorem misleads_of_unread {text : String} {r : Numeral.Refusal} (h : Unread text.toList r) :
    Misleads text (Fault.ofRefusal text r) := by
  -- There are no blanks around digits.
  have htrim := trim_of_digits h.digits.2
  exact ⟨r, by rwa [htrim], by rw [htrim]⟩

/-- A number that ends in an exponent, or is only one. -/
theorem misleads_exponent {ds : List Char} (hds : ∀ d ∈ ds, Digit.isDecimal d = true)
    (hshort : ds.length ≤ Numeral.maxDigits) :
    Misleads (String.ofList (ds ++ ['²'])) (.malformedNumeral (String.ofList (ds ++ ['²']))) := by
  have hend : Digit.isDecimal '²' = false := by decide +kernel
  have hdigit : ∀ d ∈ ['²'], Digit.isDigitLike d = true :=
    List.forall_mem_singleton.2 (by decide +kernel)
  have hunread : Unread (String.ofList (ds ++ ['²'])).toList .malformed := by
    rw [String.toList_ofList]
    exact .ornamental hds hend hdigit hshort
  exact misleads_of_unread hunread

/-- A text that misleads is no number and no name, so it is meant to stand for nothing special. -/
theorem means_of_misleads {text : String} {f : Fault} (h : Misleads text f) :
    Means (Blank.trim text).toList standard := by
  obtain ⟨r, hr, -⟩ := h
  exact .other (not_isNumber_of_unread hr) (flatMap_capitals_ne_name hr.digits.2)

theorem ofText_of_misleads {text : String} {f : Fault} (h : Misleads text f) :
    ofText text = .error f := by
  obtain ⟨r, hunread, rfl⟩ := h
  rw [ofText_of_digits hunread.digits.1 hunread.digits.2, read_of_unread hunread]
  rfl

theorem ofText_of_means {text : String} {t : Threshold} (h : Means (Blank.trim text).toList t)
    (hread : ∀ r, ¬Unread (Blank.trim text).toList r) : ofText text = .ok t := by
  cases h with
  | number h =>
    rw [ofText_of_digits h.ne_nil (isDigitLike_of_decimal h.decimal), read_of_isNumber h]
    rfl
  | name hname hs =>
    rw [ofText_of_not_digits, hs, (lookup_names_eq_some_iff _ _).2 hname]
    · rfl
    · rintro ⟨-, hdigits⟩
      exact flatMap_capitals_ne_name hdigits _ hname hs
  | other hnumber hname =>
    rw [ofText_of_not_digits, (lookup_names_eq_none_iff _).2 hname]
    · rfl
    · rintro ⟨hne, hdigits⟩
      rcases digits_cases hne hdigits with h | ⟨r, hr⟩
      · exact hnumber h
      · exact hread r hr

theorem ofText_eq_error_iff (text : String) (f : Fault) :
    ofText text = .error f ↔ Misleads text f := by
  constructor
  · intro h
    by_cases hread : ∃ r, Unread (Blank.trim text).toList r
    · obtain ⟨r, hr⟩ := hread
      have hmisleads : Misleads text (Fault.ofRefusal (Blank.trim text) r) := ⟨r, hr, rfl⟩
      rw [ofText_of_misleads hmisleads] at h
      cases h
      exact hmisleads
    · obtain ⟨t, ht⟩ := exists_means (Blank.trim text).toList
      rw [ofText_of_means ht (not_exists.1 hread)] at h
      cases h
  · exact ofText_of_misleads

theorem ofText_eq_ok_iff (text : String) (t : Threshold) :
    ofText text = .ok t ↔ Means (Blank.trim text).toList t ∧ ∀ f, ¬Misleads text f := by
  constructor
  · intro h
    have hread : ∀ f, ¬Misleads text f := by
      intro f hf
      rw [ofText_of_misleads hf] at h
      cases h
    obtain ⟨t', ht⟩ := exists_means (Blank.trim text).toList
    rw [ofText_of_means ht fun r hr => hread _ ⟨r, hr, rfl⟩] at h
    cases h
    exact ⟨ht, hread⟩
  · rintro ⟨ht, hread⟩
    exact ofText_of_means ht fun r hr => hread _ ⟨r, hr, rfl⟩

end Threshold

/-! ## Setting up the logs, and the start of the program -/

namespace LogSetup

/-- A call fails only at what it asks for, and not if nothing is to be done. -/
theorem answer_eq_error_iff (s : LogSetup) (c : Call) (f : Fault) :
    s.answer c = .error f ↔ (s.isDone = true → c.force = true) ∧ c.asked = .error f := by
  rcases s.next_cases c with ⟨hdone, hforce, hanswer, -⟩ | ⟨hdone, hanswer, -⟩
  · rw [hanswer]
    simp [hdone, hforce]
  · rw [hanswer]
    exact ⟨fun h => ⟨hdone, h⟩, And.right⟩

theorem wanted_cases {given : Value} (h : given = .null ∨ ∃ text, given = .text text)
    (named : Option String) :
    wanted given named = .null ∨ ∃ text, wanted given named = .text text := by
  rcases h with rfl | ⟨text, rfl⟩
  · cases named with
    | none => exact .inl rfl
    | some text => exact .inr ⟨text, rfl⟩
  · exact .inr ⟨text, rfl⟩

theorem asked_eq_error_iff {c : Call} (h : c.given = .null ∨ ∃ text, c.given = .text text)
    (f : Fault) : c.asked = .error f ↔
      ∃ text, wanted c.given c.named = .text text ∧ Threshold.Misleads text f := by
  rw [Call.asked]
  rcases wanted_cases h c.named with hwanted | ⟨text, hwanted⟩
  · simp [hwanted, Threshold.ofValue]
  · rw [hwanted, Threshold.ofValue_text, Threshold.ofText_eq_error_iff]
    simp

end LogSetup

/-- The panel with the records of its searches going to another outlet. -/
def Panel.logTo (p : Panel) (o : Outlet) : Panel :=
  { p with finder := { p.finder with logger := { p.finder.logger with outlet := o } } }

theorem Panel.ofFinder_logTo (b : Bank) (o o' : Outlet) :
    ofFinder (.ofBank b o') = (ofFinder (.ofBank b o)).map (·.logTo o') := by
  simp only [ofFinder, Finder.initial, Finder.ofBank]
  cases b.tiers with
  | error e => rfl
  | ok tiers => cases b.defaultTier <;> rfl

/-- What is loaded does not depend on where records go. -/
theorem Bank.load_outlet (s : Surroundings) (o : Outlet) (path : Option String)
    (labels : List String) :
    (load { s with outlet := o } path labels).map Prod.fst =
      (load s path labels).map Prod.fst := by
  have hfinish : ∀ document origin,
      (load.finish { s with outlet := o } labels document origin).map Prod.fst =
        (load.finish s labels document origin).map Prod.fst := by
    intro document origin
    rw [load.finish, load.finish]
    cases ofDocument document labels <;> rfl
  rw [load, load]
  cases source s.environment path with
  | none => exact hfinish _ _
  | some p =>
    have hread : readDocument { s with outlet := o } (Path.normal p) =
      readDocument s (Path.normal p) := rfl
    simp only [hread]
    cases readDocument s (Path.normal p) with
    | error e => rfl
    | ok document => exact hfinish _ _

namespace Startup

/-- The panel of the program, whatever becomes of its logs. -/
def openPanel (s : Surroundings) : Except Fault Panel :=
  match (Application.build s {}).1 with
  | .error e => .error e
  | .ok app => Panel.ofFinder app.finder

def asked (s : Surroundings) : Except Fault Threshold :=
  Threshold.ofValue (LogSetup.wanted .null (Pairs.at? s.environment LogSetup.levelVariable))

theorem asked_of_named {s : Surroundings} {text : String}
    (h : Pairs.at? s.environment LogSetup.levelVariable = some text) :
    asked s = Threshold.ofText text := by
  rw [asked, h]
  exact Threshold.ofValue_text text

theorem asked_of_not_named {s : Surroundings}
    (h : Pairs.at? s.environment LogSetup.levelVariable = none) : asked s = .ok .standard := by
  rw [asked, h]
  rfl

theorem openPanel_eq (s : Surroundings) :
    openPanel s = (((Bank.load s none Bank.standardLabels).map Prod.fst).bind fun b =>
      Panel.ofFinder (.ofBank b s.outlet)) := by
  simp only [openPanel, Application.build, Application.givenBank, Option.map_none]
  cases Bank.load s none Bank.standardLabels with
  | error e => cases e <;> rfl
  | ok x => rfl

theorem openPanel_map (s : Surroundings) (g : Panel → Startup) :
    (openPanel s).map g = match (Application.build s {}).1 with
      | .error e => .error e
      | .ok app => (Panel.ofFinder app.finder).map g := by
  rw [openPanel]
  cases (Application.build s {}).1 <;> rfl

/-- Where records go has no part in which panel is opened. -/
theorem openPanel_outlet (s : Surroundings) (o : Outlet) :
    openPanel { s with outlet := o } = (openPanel s).map (·.logTo o) := by
  rw [openPanel_eq, openPanel_eq, Bank.load_outlet]
  cases (Bank.load s none Bank.standardLabels).map Prod.fst with
  | error e => rfl
  | ok b => exact Panel.ofFinder_logTo b s.outlet o

/-- The logs are set up first; then they only have a part in where records go. -/
theorem run_eq (s : Surroundings) :
    run s = match asked s with
      | .error f => .error f
      | .ok t => (openPanel s).map fun p =>
          ⟨Settings.launch s.environment, t, p.logTo ⟨t.rank, s.outlet.room⟩⟩ := by
  have hconfigure : LogSetup.configure .initial .null
      (Pairs.at? s.environment LogSetup.levelVariable) false =
        (asked s).map fun t => (t, LogSetup.initial.setUp t false) :=
    LogSetup.configure_eq .initial ⟨.null, Pairs.at? s.environment LogSetup.levelVariable, false⟩
  rw [run, hconfigure]
  cases asked s with
  | error f => rfl
  | ok t =>
    have hthreshold : withLogs s (LogSetup.initial.setUp t false) =
        { s with outlet := ⟨t.rank, s.outlet.room⟩ } := by
      rw [withLogs, LogSetup.effective_setUp_initial]
    refine (openPanel_map _ _).symm.trans ?_
    rw [hthreshold, openPanel_outlet]
    cases openPanel s <;> rfl

end Startup

namespace Threshold

/-- **Texts for thresholds.** A text that does not mislead stands for what it means, and one that
misleads is a fault though it means the standard threshold. A call that sets up the logs, and is
given a text or nothing, fails exactly at a misleading text, its own or that of the environment,
where it has something to do. The program fails to start at a misleading text of the environment;
any other, or none, has no part in whether it starts, only in which records pass. -/
theorem text_answers (text : String) (s : LogSetup) (c : LogSetup.Call) (w : Surroundings) :
    (∀ t, ofValue (.text text) = .ok t ↔
      Means (Blank.trim text).toList t ∧ ∀ f, ¬Misleads text f) ∧
    (∀ f, ofValue (.text text) = .error f ↔ Misleads text f) ∧
    (∀ f, Misleads text f → Means (Blank.trim text).toList standard) ∧
    ((c.given = .null ∨ ∃ x, c.given = .text x) → ∀ f, s.answer c = .error f ↔
      (s.isDone = true → c.force = true) ∧
        ∃ x, LogSetup.wanted c.given c.named = .text x ∧ Misleads x f) ∧
    (Pairs.at? w.environment LogSetup.levelVariable = some text →
      ∀ f, Misleads text f → Startup.run w = .error f) ∧
    ((∀ x ∈ Pairs.at? w.environment LogSetup.levelVariable, ∀ f, ¬Misleads x f) →
      ∃ t, (∀ x ∈ Pairs.at? w.environment LogSetup.levelVariable,
          Means (Blank.trim x).toList t) ∧
        Startup.run w =
          (Startup.openPanel w).map fun p =>
            ⟨Settings.launch w.environment, t, p.logTo ⟨t.rank, w.outlet.room⟩⟩) := by
  refine ⟨?_, ?_, fun f => means_of_misleads, ?_, ?_, ?_⟩
  · intro t
    rw [ofValue_text, ofText_eq_ok_iff]
  · intro f
    rw [ofValue_text, ofText_eq_error_iff]
  · intro hgiven f
    rw [LogSetup.answer_eq_error_iff, LogSetup.asked_eq_error_iff hgiven]
  · intro hnamed f hmisleads
    rw [Startup.run_eq, Startup.asked_of_named hnamed, ofText_of_misleads hmisleads]
  · intro hread
    cases hnamed : Pairs.at? w.environment LogSetup.levelVariable with
    | none => exact ⟨standard, nofun, by rw [Startup.run_eq, Startup.asked_of_not_named hnamed]⟩
    | some x =>
      obtain ⟨t, ht⟩ := exists_means (Blank.trim x).toList
      have hasked : ofText x = .ok t := (ofText_eq_ok_iff x t).2 ⟨ht, hread x hnamed⟩
      refine ⟨t, ?_, by rw [Startup.run_eq, Startup.asked_of_named hnamed, hasked]⟩
      rintro y ⟨⟩
      exact ht

/-- Digits of two scripts with blanks around, a name with a dotless letter, and a number with an
exponent. -/
theorem text_answers_thirty :
    let c : LogSetup.Call := ⟨.null, some "warnıng", false⟩
    let w : String → Surroundings := fun text =>
      ⟨fun _ => .error .missing, [(LogSetup.levelVariable, text)], ⟨30, 950⟩, 950⟩
    ofValue (.text " 3٠ ") = .ok (number 30) ∧ ofValue (.text "warnıng") = .ok (number 30) ∧
    (∀ f, LogSetup.initial.answer c ≠ .error f) ∧
    Startup.run (w "3²") = .error (.malformedNumeral "3²") ∧
    ∃ t, Means (Blank.trim "warnıng").toList t ∧
      Startup.run (w "warnıng") = (Startup.openPanel (w "warnıng")).map fun p =>
        ⟨Settings.launch (w "warnıng").environment, t, p.logTo ⟨t.rank, 950⟩⟩ := by
  intro c w
  have hblanks : (Blank.trim " 3٠ ").toList = ['3', '٠'] := by decide +kernel
  have hnumber : IsNumber ['3', '٠'] := by
    have hdecimal : ['3', '٠'].all Digit.isDecimal = true := by decide +kernel
    exact ⟨List.cons_ne_nil _ _, List.all_eq_true.1 hdecimal, by decide +kernel⟩
  have hthirty : Means (Blank.trim " 3٠ ").toList (number 30) := by
    have hvalue : Numeral.ofDigits (Numeral.digits ['3', '٠']) = 30 := by decide +kernel
    have hmeans := Means.number hnumber
    rwa [hvalue, ← hblanks] at hmeans
  have hread : ∀ f, ¬Misleads " 3٠ " f := by
    rintro f ⟨r, hr, -⟩
    rw [hblanks] at hr
    exact not_isNumber_of_unread hr hnumber
  have hwarning : Means (Blank.trim "warnıng").toList (number 30) :=
    .name (by decide : ("WARNING".toList, 30) ∈ names) (by decide +kernel)
  have hletter : ∀ f, ¬Misleads "warnıng" f := by
    rintro f ⟨r, hr, -⟩
    have hw := hr.digits.2 'w' (by decide +kernel)
    exact absurd hw (by decide +kernel)
  have hexponent : Misleads "3²" (.malformedNumeral "3²") := by
    have hdecimal : ∀ d ∈ ['3'], Digit.isDecimal d = true :=
      List.forall_mem_singleton.2 (by decide +kernel)
    have htext : String.ofList (['3'] ++ ['²']) = "3²" := by decide +kernel
    rw [← htext]
    exact misleads_exponent hdecimal (by decide +kernel)
  have hnamed : ∀ text, Pairs.at? (w text).environment LogSetup.levelVariable = some text :=
    fun text => by rw [Pairs.at?_cons, if_pos rfl]
  obtain ⟨hnumeral, -⟩ := text_answers " 3٠ " .initial c (w " 3٠ ")
  obtain ⟨hword, -, -, hanswer, -, hstarts⟩ := text_answers "warnıng" .initial c (w "warnıng")
  obtain ⟨-, -, -, -, hfails, -⟩ := text_answers "3²" .initial c (w "3²")
  refine ⟨(hnumeral _).2 ⟨hthirty, hread⟩, (hword _).2 ⟨hwarning, hletter⟩, ?_,
    hfails (hnamed "3²") _ hexponent, ?_⟩
  · intro f h
    obtain ⟨-, text, htext, hmisleads⟩ := (hanswer (.inl rfl) f).1 h
    cases htext
    exact hletter f hmisleads
  · obtain ⟨t, ht, hrun⟩ := hstarts fun text htext => by
      obtain rfl := Option.some.inj ((hnamed "warnıng").symm.trans htext)
      exact hletter
    exact ⟨t, ht _ (hnamed "warnıng"), hrun⟩

/-- An exponent alone is meant to stand for nothing special, and is a fault. -/
theorem ofValue_exponent :
    Means (Blank.trim "²").toList standard ∧
    ofValue (.text "²") = .error (.malformedNumeral "²") ∧
    Startup.run
        ⟨fun _ => .error .missing, [(LogSetup.levelVariable, "²")], ⟨30, 950⟩, 950⟩ =
      .error (.malformedNumeral "²") ∧
    ¬∀ text, ∃ t, ofValue (.text text) = .ok t ∧ Means (Blank.trim text).toList t := by
  have hmisleads : Misleads "²" (.malformedNumeral "²") := by
    have htext : String.ofList ([] ++ ['²']) = "²" := by decide +kernel
    rw [← htext]
    exact misleads_exponent (List.forall_mem_nil _) (Nat.zero_le _)
  have hfault : ofValue (.text "²") = .error (.malformedNumeral "²") :=
    (ofValue_text "²").trans (ofText_of_misleads hmisleads)
  refine ⟨means_of_misleads hmisleads, hfault, ?_, ?_⟩
  · have hnamed : Pairs.at? [(LogSetup.levelVariable, "²")] LogSetup.levelVariable = some "²" := by
      rw [Pairs.at?_cons, if_pos rfl]
    rw [Startup.run_eq, Startup.asked_of_named hnamed, ofText_of_misleads hmisleads]
  · intro h
    obtain ⟨t, ht, -⟩ := h "²"
    rw [hfault] at ht
    cases ht

end Threshold

end Phrasebook
