import Phrasebook.CommandLine.Probe
import Phrasebook.Proofs.FirstFlaw
import Phrasebook.Proofs.Json.Reading
import Phrasebook.Proofs.Utf8

/-!
# Phrasebook.Proofs.Load

What loading a word bank from a file comes to, whatever the file holds.

`Refuses` lists why a file yields no bank, from the path to the document, in terms of what it holds:
bytes that encode no text, a text that is no JSON or too much of it, a document with a flaw. Loading
fails with exactly these faults (`load_eq_error_iff`). Those of the path, the bytes, the numbers and
the depth are no errors of the bank: they leave the loader without a record, and the command line
without its own exit code. A text is too deep only if it has about as many brackets and braces as there
are levels (`levels_lt_of_tooDeep`).
-/

namespace Phrasebook

theorem LineBreak.unify_eq_self {s : List Char} (h : '\r' ∉ s) : unify s = s := by
  induction s using unify.induct with
  | case1 => rfl
  | case2 s ih => simp at h
  | case3 c s hne ih =>
    rw [List.mem_cons, not_or] at h
    rw [unify, ih h.2, if_neg (Ne.symm h.1)]
    exact hne

namespace Bank

/-- The text of the file under a path, with unified line breaks. -/
def TextAt (files : Storage.Reader) (path : String) (cs : List Char) : Prop :=
  ∃ us, files path = .ok (Utf8.encode us) ∧ cs = LineBreak.unify us

/-- Why the file under a path yields no bank. -/
inductive Refuses (s : Surroundings) (path : String) : Fault → Prop
  | nullInPath (hnull : '\x00' ∈ path.toList) : Refuses s path .nullInPath
  | unreadable {trouble : Storage.Trouble} (hpath : '\x00' ∉ path.toList)
      (hfile : s.files path = .error trouble) : Refuses s path (.bank (.unreadable path trouble))
  | undecodable {bytes : List UInt8} {fault : Utf8.Fault} (hpath : '\x00' ∉ path.toList)
      (hfile : s.files path = .ok bytes) (htext : ∀ us, bytes ≠ Utf8.encode us)
      (hfault : Utf8.decode bytes = .error fault) : Refuses s path (.undecodable fault)
  | overlong {cs : List Char} {digits : Nat} (hpath : '\x00' ∉ path.toList)
      (htext : TextAt s.files path cs) (hnumber : Json.IsBroken (.longNumeral digits) s.levels cs) :
      Refuses s path (.longNumeral digits)
  /-- Something in the text would take a level more than there are. -/
  | tooDeep {cs : List Char} {descent : Json.Descent} (hpath : '\x00' ∉ path.toList)
      (htext : TextAt s.files path cs) (hdepth : Json.IsBroken (.tooDeep descent) s.levels cs) :
      Refuses s path (.tooDeep descent)
  /-- The text is no JSON, for a flaw too deep to be reported. -/
  | sunk {cs : List Char} (hpath : '\x00' ∉ path.toList) (htext : TextAt s.files path cs)
      (hdepth : Json.IsSunk s.levels cs) : Refuses s path (.tooDeep .calling)
  | malformed {cs : List Char} {m : Json.Malformation} (hpath : '\x00' ∉ path.toList)
      (htext : TextAt s.files path cs) (hjson : ∀ fits levels v, ¬Json.IsJson fits levels v cs)
      (hm : Json.read s.levels cs = .error (.malformed m)) :
      Refuses s path (.bank (.malformed path m))
  | flawed {cs : List Char} {document : Value} {e : BankError} (hpath : '\x00' ∉ path.toList)
      (htext : TextAt s.files path cs) (hjson : Json.IsJson Json.Short s.levels document cs)
      (he : Document.FirstFlaw (Document.sites document) e) : Refuses s path (.bank e)

/-! ## The document in a file -/

section File

variable {s : Surroundings} {path : String}

theorem readDocument_of_textAt {cs : List Char} (hpath : '\x00' ∉ path.toList)
    (htext : TextAt s.files path cs) :
    readDocument s path =
      match Json.read s.levels cs with
      | .ok v => .ok v
      | .error (.malformed m) => .error (.bank (.malformed path m))
      | .error (.longNumeral digits) => .error (.longNumeral digits)
      | .error (.tooDeep descent) => .error (.tooDeep descent) := by
  obtain ⟨us, hfile, rfl⟩ := htext
  have hdecode := (Utf8.decode_eq_ok_iff (Utf8.encode us) us).2 rfl
  cases hread : Json.read s.levels (LineBreak.unify us) with
  | ok v => simp only [readDocument, if_neg hpath, hfile, hdecode, hread]
  | error refusal =>
    cases refusal <;> simp only [readDocument, if_neg hpath, hfile, hdecode, hread]

/-- A document is read exactly from a text that is JSON for it. -/
theorem readDocument_eq_ok_iff {document : Value} :
    readDocument s path = .ok document ↔ '\x00' ∉ path.toList ∧
      ∃ cs, TextAt s.files path cs ∧ Json.IsJson Json.Short s.levels document cs := by
  constructor
  · intro h
    unfold readDocument at h
    split at h
    · cases h
    rename_i hpath
    split at h
    · cases h
    rename_i bytes hfile
    split at h
    · cases h
    rename_i us hdecode
    split at h
    · rename_i hread
      cases h
      rw [Utf8.decode_eq_ok_iff] at hdecode
      exact ⟨hpath, _, ⟨us, hdecode ▸ hfile, rfl⟩, Json.read_eq_ok_iff.1 hread⟩
    · cases h
    · cases h
    · cases h
  · rintro ⟨hpath, cs, htext, hjson⟩
    rw [readDocument_of_textAt hpath htext, Json.read_eq_ok_iff.2 hjson]

theorem refuses_of_readDocument {f : Fault} (h : readDocument s path = .error f) :
    Refuses s path f := by
  unfold readDocument at h
  split at h
  · rename_i hnull
    cases h
    exact .nullInPath hnull
  rename_i hpath
  split at h
  · rename_i trouble hfile
    cases h
    exact .unreadable hpath hfile
  rename_i bytes hfile
  split at h
  · rename_i fault hfault
    cases h
    refine .undecodable hpath hfile (fun us hus => ?_) hfault
    rw [(Utf8.decode_eq_ok_iff bytes us).2 hus] at hfault
    cases hfault
  rename_i us hdecode
  rw [Utf8.decode_eq_ok_iff] at hdecode
  have htext : TextAt s.files path (LineBreak.unify us) := ⟨us, hdecode ▸ hfile, rfl⟩
  split at h
  · cases h
  · rename_i m hm
    cases h
    exact .malformed hpath htext (Json.not_isJson_of_malformed hm) hm
  · rename_i digits hnumber
    cases h
    exact .overlong hpath htext (Json.read_eq_longNumeral_iff.1 hnumber)
  · rename_i descent hdepth
    cases h
    rcases Json.read_eq_tooDeep_iff.1 hdepth with hbroken | ⟨rfl, hsunk⟩
    · exact .tooDeep hpath htext hbroken
    · exact .sunk hpath htext hsunk

end File

/-! ## Loading -/

section Named

variable {s : Surroundings} {path : Option String} {labels : List String} {p : String}

theorem load_of_source (hsource : source s.environment path = some p) :
    load s path labels =
      match readDocument s (Path.normal p) with
      | .error e => .error e
      | .ok document => load.finish s labels document p := by
  cases hread : readDocument s (Path.normal p) with
  | error e => simp only [load, hsource, hread]
  | ok document => simp only [load, hsource, hread]

theorem finish_eq_error_iff {document : Value} {f : Fault} :
    load.finish s labels document p = .error f ↔
      ∃ e, f = .bank e ∧ Document.FirstFlaw (Document.sites document) e := by
  have hjudges := ofDocument_judges document labels
  rw [load.finish]
  split
  · rename_i e h
    rw [hjudges.error_iff] at h
    constructor
    · intro hf
      cases hf
      exact ⟨e, rfl, h⟩
    · rintro ⟨e', rfl, h'⟩
      rw [Document.FirstFlaw.unique h h']
  · rename_i b h
    rw [h] at hjudges
    constructor
    · exact nofun
    · rintro ⟨e, -, he⟩
      exact absurd hjudges he.not_sound

/-- Loading fails exactly with the fault that the content leads to. -/
theorem load_eq_error_iff (hsource : source s.environment path = some p) {f : Fault} :
    load s path labels = .error f ↔ Refuses s (Path.normal p) f := by
  rw [load_of_source hsource]
  constructor
  · intro h
    split at h
    · rename_i hread
      cases h
      exact refuses_of_readDocument hread
    · rename_i document hread
      obtain ⟨hpath, cs, htext, hjson⟩ := readDocument_eq_ok_iff.1 hread
      obtain ⟨e, rfl, he⟩ := finish_eq_error_iff.1 h
      exact .flawed hpath htext hjson he
  · intro h
    cases h with
    | nullInPath hnull => simp only [readDocument, if_pos hnull]
    | unreadable hpath hfile => simp only [readDocument, if_neg hpath, hfile]
    | undecodable hpath hfile htext hfault =>
      simp only [readDocument, if_neg hpath, hfile, hfault]
    | overlong hpath htext hnumber =>
      rw [readDocument_of_textAt hpath htext, Json.read_eq_longNumeral_iff.2 hnumber]
    | tooDeep hpath htext hdepth =>
      rw [readDocument_of_textAt hpath htext, Json.read_eq_tooDeep_iff.2 (.inl hdepth)]
    | sunk hpath htext hdepth =>
      rw [readDocument_of_textAt hpath htext, Json.read_eq_tooDeep_iff.2 (.inr ⟨rfl, hdepth⟩)]
    | malformed hpath htext hjson hm => rw [readDocument_of_textAt hpath htext, hm]
    | flawed hpath htext hjson he =>
      rw [readDocument_eq_ok_iff.2 ⟨hpath, _, htext, hjson⟩]
      exact finish_eq_error_iff.2 ⟨_, rfl, he⟩

/-- Loading succeeds exactly on the documented format. -/
theorem load_eq_ok_iff (hsource : source s.environment path = some p) :
    (∃ b r, load s path labels = .ok (b, r)) ↔ '\x00' ∉ (Path.normal p).toList ∧
      ∃ cs document, TextAt s.files (Path.normal p) cs ∧ Json.IsJson Json.Short s.levels document cs ∧
        Document.Documented document := by
  have hdocumented : ∀ document, Document.Documented document ↔
      ∃ b, ofDocument document labels = .ok b := fun document => by
    rw [Document.documented_iff, (ofDocument_judges document labels).ok_iff]
  rw [load_of_source hsource]
  constructor
  · rintro ⟨b, r, h⟩
    split at h
    · cases h
    rename_i document hread
    obtain ⟨hpath, cs, htext, hjson⟩ := readDocument_eq_ok_iff.1 hread
    rw [load.finish] at h
    split at h
    · cases h
    · rename_i b' hdocument
      exact ⟨hpath, cs, document, htext, hjson, (hdocumented document).2 ⟨b', hdocument⟩⟩
  · rintro ⟨hpath, cs, document, htext, hjson, hformat⟩
    obtain ⟨b, hdocument⟩ := (hdocumented document).1 hformat
    rw [readDocument_eq_ok_iff.2 ⟨hpath, cs, htext, hjson⟩]
    exact ⟨b, s.outlet.passing [loadedRecord s.outlet b p], by simp only [load.finish, hdocument]⟩

end Named

end Bank

/-! ## What a failed loading leaves -/

namespace Application

theorem build_of_refusal {s : Surroundings} {path : Option String} {e : BankError}
    (h : Bank.load s path Bank.standardLabels = .error (.bank e)) :
    build s { path := path } =
      (.error (.bank e), s.outlet.passing [openingRecord s.outlet path] ++
        s.outlet.passing [refusalRecord s.outlet path e]) := by
  simp only [build, givenBank, h]
  rfl

theorem build_of_fault {s : Surroundings} {path : Option String} {f : Fault}
    (hf : ∀ e, f ≠ .bank e) (h : Bank.load s path Bank.standardLabels = .error f) :
    build s { path := path } =
      (.error f, s.outlet.passing [openingRecord s.outlet path]) := by
  simp only [build, givenBank, h]
  cases f with
  | bank e => exact absurd rfl (hf e)
  | _ => rfl

end Application

namespace CommandLine

theorem run_of_refusal {s : Surroundings} {arguments : List String} {a : Arguments} {e : BankError}
    (hread : read arguments = .understood a)
    (h : Bank.load s a.wordBank Bank.standardLabels = .error (.bank e)) :
    run s arguments = .ok (refuse [s!"Word bank error: {e.message}"]) := by
  simp only [run, hread, Application.build_of_refusal h]

theorem run_of_fault {s : Surroundings} {arguments : List String} {a : Arguments} {f : Fault}
    (hread : read arguments = .understood a) (hf : ∀ e, f ≠ .bank e)
    (h : Bank.load s a.wordBank Bank.standardLabels = .error f) :
    run s arguments = .error f := by
  simp only [run, hread, Application.build_of_fault hf h]

end CommandLine

namespace Bank

variable {s : Surroundings} {path : Option String} {labels : List String} {p : String}

/-- An error is of the format exactly if the file is read. -/
theorem isFormat_iff (hsource : source s.environment path = some p) {e : BankError}
    (h : load s path labels = .error (.bank e)) :
    e.isFormat = false ↔ ∃ trouble, s.files (Path.normal p) = .error trouble := by
  rw [load_eq_error_iff hsource] at h
  cases h with
  | unreadable hpath hfile => exact iff_of_true rfl ⟨_, hfile⟩
  | malformed hpath htext hjson hm =>
    obtain ⟨us, hfile, -⟩ := htext
    simp [BankError.isFormat, hfile]
  | flawed hpath htext hjson he =>
    obtain ⟨us, hfile, -⟩ := htext
    obtain ⟨-, site, -, -, -, -, rfl⟩ := he
    have hsite : site.error.isFormat = true := by cases site <;> rfl
    simp [hsite, hfile]

/-- The faults that are no errors of the bank come from the path, the bytes, the numbers and the
depth. -/
theorem load_fault_iff (hsource : source s.environment path = some p) :
    (∃ f, load s path labels = .error f ∧ ∀ e, f ≠ .bank e) ↔
      '\x00' ∈ (Path.normal p).toList ∨
      (∃ bytes, s.files (Path.normal p) = .ok bytes ∧ ∀ us, bytes ≠ Utf8.encode us) ∨
      ∃ cs, TextAt s.files (Path.normal p) cs ∧
        ((∃ digits, Json.IsBroken (.longNumeral digits) s.levels cs) ∨
          (∃ descent, Json.IsBroken (.tooDeep descent) s.levels cs) ∨ Json.IsSunk s.levels cs) := by
  simp only [load_eq_error_iff hsource]
  constructor
  · rintro ⟨f, h, hf⟩
    cases h with
    | nullInPath hnull => exact .inl hnull
    | undecodable hpath hfile htext hfault => exact .inr (.inl ⟨_, hfile, htext⟩)
    | overlong hpath htext hnumber => exact .inr (.inr ⟨_, htext, .inl ⟨_, hnumber⟩⟩)
    | tooDeep hpath htext hdepth => exact .inr (.inr ⟨_, htext, .inr (.inl ⟨_, hdepth⟩)⟩)
    | sunk hpath htext hdepth => exact .inr (.inr ⟨_, htext, .inr (.inr hdepth)⟩)
    | unreadable hpath hfile | malformed hpath htext hjson hm | flawed hpath htext hjson he =>
      exact absurd rfl (hf _)
  · intro h
    by_cases hpath : '\x00' ∈ (Path.normal p).toList
    · exact ⟨_, .nullInPath hpath, nofun⟩
    rcases h with hnull | ⟨bytes, hfile, htext⟩ |
      ⟨cs, htext, ⟨digits, hnumber⟩ | ⟨descent, hdepth⟩ | hdepth⟩
    · exact absurd hnull hpath
    · rcases hdecode : Utf8.decode bytes with fault | us
      · exact ⟨_, .undecodable hpath hfile htext hdecode, nofun⟩
      · exact absurd ((Utf8.decode_eq_ok_iff bytes us).1 hdecode) (htext us)
    · exact ⟨_, .overlong hpath htext hnumber, nofun⟩
    · exact ⟨_, .tooDeep hpath htext hdepth, nofun⟩
    · exact ⟨_, .sunk hpath htext hdepth, nofun⟩

/-- What is too deep has nearly as many brackets and braces as there are levels. -/
theorem levels_lt_of_tooDeep (hsource : source s.environment path = some p) {descent : Json.Descent}
    (h : load s path labels = .error (.tooDeep descent)) {cs : List Char}
    (hcs : TextAt s.files (Path.normal p) cs) :
    s.levels < cs.countP Json.isBracket + Json.reportLevels := by
  have hread : ∀ {cs'}, TextAt s.files (Path.normal p) cs' → cs' = cs := by
    rintro cs' ⟨us', hfile', rfl⟩
    obtain ⟨us, hfile, rfl⟩ := hcs
    rw [hfile'] at hfile
    rw [Utf8.encode_injective (Except.ok.inj hfile)]
  rw [load_eq_error_iff hsource] at h
  cases h with
  | tooDeep hpath htext hdepth =>
    exact hread htext ▸ Json.room_lt_of_tooDeep (Json.read_eq_tooDeep_iff.2 (.inl hdepth))
  | sunk hpath htext hdepth =>
    exact hread htext ▸ Json.room_lt_of_tooDeep (Json.read_eq_tooDeep_iff.2 (.inr ⟨rfl, hdepth⟩))

/-- **Every failure of loading, by the content of the file.** A bank comes of the documented format
and of nothing else. A failure is the one that the content leads to: not of the format if the file is
not read, and of the format if its text is no JSON or its document has a flaw; then the application
logs it and the command line refuses. What the path, the bytes, the numbers and the depth lead to
passes both unlogged; the depth does so only where there are about as many brackets and braces as
levels. -/
theorem load_answers (labels : List String) (hsource : source s.environment path = some p) :
    ((∃ b r, load s path labels = .ok (b, r)) ↔ '\x00' ∉ (Path.normal p).toList ∧
      ∃ cs document, TextAt s.files (Path.normal p) cs ∧
        Json.IsJson Json.Short s.levels document cs ∧ Document.Documented document) ∧
    (∀ f, load s path labels = .error f ↔ Refuses s (Path.normal p) f) ∧
    ((∃ f, load s path labels = .error f ∧ ∀ e, f ≠ .bank e) ↔
      '\x00' ∈ (Path.normal p).toList ∨
      (∃ bytes, s.files (Path.normal p) = .ok bytes ∧ ∀ us, bytes ≠ Utf8.encode us) ∨
      ∃ cs, TextAt s.files (Path.normal p) cs ∧
        ((∃ digits, Json.IsBroken (.longNumeral digits) s.levels cs) ∨
          (∃ descent, Json.IsBroken (.tooDeep descent) s.levels cs) ∨ Json.IsSunk s.levels cs)) ∧
    (∀ descent cs, load s path labels = .error (.tooDeep descent) →
      TextAt s.files (Path.normal p) cs →
      s.levels < cs.countP Json.isBracket + Json.reportLevels) ∧
    (∀ e, load s path labels = .error (.bank e) →
      (e.isFormat = false ↔ ∃ trouble, s.files (Path.normal p) = .error trouble) ∧
      Application.build s { path := path } = (.error (.bank e),
        s.outlet.passing [Application.openingRecord s.outlet path] ++
          s.outlet.passing [Application.refusalRecord s.outlet path e]) ∧
      ∀ arguments a, CommandLine.read arguments = .understood a → a.wordBank = path →
        CommandLine.run s arguments =
          .ok (CommandLine.refuse [s!"Word bank error: {e.message}"])) ∧
    ∀ f, load s path labels = .error f → (∀ e, f ≠ .bank e) →
      Application.build s { path := path } =
        (.error f, s.outlet.passing [Application.openingRecord s.outlet path]) ∧
      ∀ arguments a, CommandLine.read arguments = .understood a → a.wordBank = path →
        CommandLine.run s arguments = .error f := by
  have hstandard : ∀ {f}, load s path labels = .error f → load s path standardLabels = .error f :=
    fun h => (load_eq_error_iff hsource).2 ((load_eq_error_iff hsource).1 h)
  refine ⟨load_eq_ok_iff hsource, fun f => load_eq_error_iff hsource, load_fault_iff hsource,
    fun descent cs h hcs => levels_lt_of_tooDeep hsource h hcs, ?_, ?_⟩
  · intro e h
    refine ⟨isFormat_iff hsource h, Application.build_of_refusal (hstandard h), ?_⟩
    rintro arguments a hread rfl
    exact CommandLine.run_of_refusal hread (hstandard h)
  · intro f h hf
    refine ⟨Application.build_of_fault hf (hstandard h), ?_⟩
    rintro arguments a hread rfl
    exact CommandLine.run_of_fault hread hf (hstandard h)

/-- A file that is missing is refused with exit code 2. -/
theorem load_answers_missing :
    load ⟨fun _ => .error .missing, [], ⟨30, 950⟩, 950⟩ (some "bank.json") standardLabels =
      .error (.bank (.unreadable "bank.json" .missing)) ∧
    CommandLine.run ⟨fun _ => .error .missing, [], ⟨30, 950⟩, 950⟩ ["--word-bank", "bank.json"] =
      .ok ⟨2, "", "Word bank error: Unable to read word bank bank.json: " ++
        "[Errno 2] No such file or directory: 'bank.json'\n"⟩ := by
  have hsource : source [] (some "bank.json") = some "bank.json" := rfl
  obtain ⟨-, hfaults, -, -, hrefused, -⟩ :=
    load_answers (s := ⟨fun _ => .error .missing, [], ⟨30, 950⟩, 950⟩) standardLabels hsource
  have hload := (hfaults _).2 (.unreadable (by decide) rfl)
  have hread : CommandLine.read ["--word-bank", "bank.json"] =
      .understood { wordBank := some "bank.json" } := by decide +kernel
  have hrun := (hrefused _ hload).2.2 _ _ hread rfl
  exact ⟨hload, hrun.trans (congrArg Except.ok (by decide +kernel))⟩

/-- A byte that begins no character leaves the loader, the application and the command line as a
fault of decoding, and the application tells of it in no record. -/
theorem load_stray_byte :
    load ⟨fun _ => .ok [0xFF], [], ⟨20, 950⟩, 950⟩ (some "bank.json") standardLabels =
      .error (.undecodable ⟨.invalidStart, 0, 1, 0xFF⟩) ∧
    Application.build ⟨fun _ => .ok [0xFF], [], ⟨20, 950⟩, 950⟩ { path := some "bank.json" } =
      (.error (.undecodable ⟨.invalidStart, 0, 1, 0xFF⟩),
        [Application.openingRecord ⟨20, 950⟩ (some "bank.json")]) ∧
    CommandLine.run ⟨fun _ => .ok [0xFF], [], ⟨20, 950⟩, 950⟩ ["--word-bank", "bank.json"] =
      .error (.undecodable ⟨.invalidStart, 0, 1, 0xFF⟩) := by
  have hload : load ⟨fun _ => .ok [0xFF], [], ⟨20, 950⟩, 950⟩ (some "bank.json") standardLabels =
      .error (.undecodable ⟨.invalidStart, 0, 1, 0xFF⟩) := rfl
  have hread : CommandLine.read ["--word-bank", "bank.json"] =
      .understood { wordBank := some "bank.json" } := by decide +kernel
  exact ⟨hload, Application.build_of_fault nofun hload, CommandLine.run_of_fault hread nofun hload⟩

/-- A file that holds one long whole number, which is JSON, leads to a fault of numbers. -/
theorem load_long_number {digits : Nat} (h : Numeral.maxDigits < digits) (o : Outlet)
    (levels : Nat) :
    load ⟨fun _ => .ok (Utf8.encode (List.replicate digits '1')), [], o, levels⟩ (some "bank.json")
      standardLabels = .error (.longNumeral digits) := by
  have hreturn : '\r' ∉ List.replicate digits '1' := by simp
  have hdigits : List.replicate digits '1' = '1' :: List.replicate (digits - 1) '1' := by
    rw [← List.replicate_succ, Nat.sub_add_cancel (by omega)]
  have hwhole : Json.Whole (List.replicate digits '1') := by
    rw [hdigits]
    refine .digits (by decide) fun c hc => ?_
    rw [← hdigits] at hc
    rw [List.eq_of_mem_replicate hc]
    rfl
  have hstops : Json.Stops (.longNumeral (List.replicate digits '1').length) levels
      (List.replicate digits '1') := .natural hwhole (by simpa using h)
  rw [List.length_replicate] at hstops
  have hnumber : Json.IsBroken (.longNumeral digits) levels (List.replicate digits '1') :=
    ⟨[], List.replicate digits '1', [], by simp, nofun, .here hstops,
      fun _ _ => Json.not_continues_nil⟩
  exact (load_eq_error_iff (p := "bank.json") rfl).2 (.overlong (by decide)
    ⟨_, rfl, (LineBreak.unify_eq_self hreturn).symm⟩ hnumber)

/-- A file that opens one array more than there are levels is too deep. -/
theorem load_deep (o : Outlet) (levels : Nat) :
    load ⟨fun _ => .ok (Utf8.encode (List.replicate (levels + 1) '[')), [], o, levels⟩
      (some "bank.json") standardLabels = .error (.tooDeep .readingArray) := by
  have hreturn : '\r' ∉ List.replicate (levels + 1) '[' := by simp
  have hbreaks : ∀ marks room, Json.Breaks (.tooDeep .readingArray) marks room .value
      (List.replicate (room + 1) '[') := by
    intro marks room
    induction room with
    | zero => exact .here .array
    | succ room ih => exact .array (w := []) nofun (.item ih)
  have hdepth : Json.IsBroken (.tooDeep .readingArray) levels (List.replicate (levels + 1) '[') :=
    ⟨[], _, [], by simp, nofun, hbreaks _ levels, nofun⟩
  exact (load_eq_error_iff (p := "bank.json") rfl).2 (.tooDeep (by decide)
    ⟨_, rfl, (LineBreak.unify_eq_self hreturn).symm⟩ hdepth)

end Bank

end Phrasebook
