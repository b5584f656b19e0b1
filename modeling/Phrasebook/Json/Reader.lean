import Phrasebook.Number.Double
import Phrasebook.Number.Numeral
import Phrasebook.Text.Hex
import Phrasebook.Text.LineBreak
import Phrasebook.Value

/-!
# Phrasebook.Json.Reader

Reading a JSON text.

Every reading step returns what is left together with a proof that it is shorter, so the readers of
values, items and members call each other without any bound but the text. There is room for so many
levels only: an array or an object takes one, and the value of a word for a double is called for on a
level of its own. A failure records how many characters were left when it was found, and a flaw how
many levels; `read` turns the characters into a place, and reports a flaw if the levels suffice for
that.

Beyond the standard, `NaN`, `Infinity` and `-Infinity` are numbers, a key given twice keeps its first
place and its last value, and a whole number is limited like any numeral. A half of a surrogate pair
may stand alone in a text. No character is half a pair, so it is told by a run of marks that is longer
than the whole text (`Glyph.tell`): other texts are told as they are, and within one document no two
texts are told alike.
-/

namespace Phrasebook

namespace Json

/-- What can be wrong with a JSON text. -/
inductive Complaint where
  | valueExpected
  | nameExpected
  | colonExpected
  | commaExpected
  | moreThanOneValue
  | unterminatedText
  | controlInText
  | unknownEscape
  | badCode
  | byteOrderMark
  deriving DecidableEq, Repr

namespace Complaint

def message : Complaint → String
  | valueExpected => "Expecting value"
  | nameExpected => "Expecting property name enclosed in double quotes"
  | colonExpected => "Expecting ':' delimiter"
  | commaExpected => "Expecting ',' delimiter"
  | moreThanOneValue => "Extra data"
  | unterminatedText => "Unterminated string starting at"
  | controlInText => "Invalid control character at"
  | unknownEscape => "Invalid \\escape"
  | badCode => "Invalid \\uXXXX escape"
  | byteOrderMark => "Unexpected UTF-8 BOM (decode using utf-8-sig)"

end Complaint

/-- A complaint and where it arose. -/
structure Malformation where
  complaint : Complaint
  place : Place
  deriving DecidableEq, Repr

namespace Malformation

def message (m : Malformation) : String :=
  s!"{m.complaint.message}: line {m.place.line} column {m.place.column} (char {m.place.offset})"

end Malformation

/-- What was under way when there was no level left. -/
inductive Descent where
  | readingArray
  | readingObject
  /-- Something was called for: the value of a word, or the report of a flaw. -/
  | calling
  | writing
  /-- The members of an object were brought into order. -/
  | comparing
  deriving DecidableEq, Repr

namespace Descent

def words : Descent → String
  | readingArray => " while decoding a JSON array from a unicode string"
  | readingObject => " while decoding a JSON object from a unicode string"
  | calling => ""
  | writing => " while encoding a JSON object"
  | comparing => " in comparison"

end Descent

/-- A complaint, and how many characters were left when it arose. -/
structure Flaw where
  complaint : Complaint
  left : Nat
  deriving DecidableEq, Repr

/-- A failure inside the text. -/
inductive Failure where
  /-- No value begins where `left` characters are left. -/
  | noValue (left : Nat)
  /-- A flaw, found where there was room for so many levels more. -/
  | flawed (flaw : Flaw) (room : Nat)
  | longNumeral (digits : Nat)
  | tooDeep (descent : Descent)
  deriving DecidableEq, Repr

/-- What is left of a text after a step that took something. -/
abbrev Rest (s : List Char) := { r : List Char // r.length < s.length }

/-- A reading step on a text, which may fail with an `ε`. -/
abbrev Step (ε : Type) (s : List Char) (α : Type) := Except ε (α × Rest s)

/-- White space between the parts of a text. -/
def isSpace (c : Char) : Bool := c = ' ' || c = '\t' || c = '\n' || c = '\r'

def skip (s : List Char) : List Char := s.dropWhile isSpace

theorem length_skip_le (s : List Char) : (skip s).length ≤ s.length :=
  (List.dropWhile_suffix _).length_le

/-- The rest of a rest is a rest. -/
def Rest.within {s t : List Char} (h : t.length ≤ s.length) (r : Rest t) : Rest s :=
  ⟨r.1, Nat.lt_of_lt_of_le r.2 h⟩

/-- A step on a shorter text is a step on the text. -/
def Step.within {ε : Type} {s t : List Char} {α : Type} (h : t.length ≤ s.length) :
    Step ε t α → Step ε s α
  | .ok (a, r) => .ok (a, r.within h)
  | .error e => .error e

/-- The first half of a surrogate pair. -/
def isHighHalf (n : Nat) : Bool := 0xD800 ≤ n && n ≤ 0xDBFF

/-- The second half of a surrogate pair. -/
def isLowHalf (n : Nat) : Bool := 0xDC00 ≤ n && n ≤ 0xDFFF

/-- What a text in quotes is made of: characters, and halves of pairs that stand alone. -/
inductive Glyph where
  | char (c : Char)
  | half (k : Fin 0x800)
  deriving DecidableEq, Repr

/-- The glyph with this code; a code that is no character's is half a pair. -/
def Glyph.ofCode (n : Nat) : Glyph :=
  if n.isValidChar then .char (Char.ofNat n) else .half (Fin.ofNat 0x800 n)

/-- The last of all codes, which is set apart from characters in use. -/
def mark : Char := Char.ofNat 0x10FFFF

/-- A character tells itself, and half a pair is told by so many marks and a character for private
use. -/
def Glyph.tell (marks : Nat) : Glyph → List Char
  | char c => [c]
  | half k => List.replicate marks mark ++ [Char.ofNat (0xE000 + k)]

/-- The text that tells glyphs. -/
def tell (marks : Nat) (gs : List Glyph) : String := String.ofList (gs.flatMap (Glyph.tell marks))

/-- The marks that tell half a pair in a document: more than the document has characters. -/
def marksFor (s : List Char) : Nat := s.length + 1

/-- The character that a backslash and this letter stand for. -/
def shortEscape? : Char → Option Char
  | '"' => some '"'
  | '\\' => some '\\'
  | '/' => some '/'
  | 'b' => some '\x08'
  | 'f' => some '\x0c'
  | 'n' => some '\n'
  | 'r' => some '\r'
  | 't' => some '\t'
  | _ => none

/-- Four hexadecimal digits with something behind them. -/
def code? : List Char → Option (Nat × List Char)
  | a :: b :: c :: d :: e :: s => (Hex.read? [a, b, c, d]).map (·, e :: s)
  | _ => none

theorem length_of_code? {s r : List Char} {n : Nat} (h : code? s = some (n, r)) :
    r.length < s.length := by
  match s, h with
  | a :: b :: c :: d :: e :: s, h =>
    obtain ⟨x, -, hx⟩ := Option.map_eq_some_iff.1 h
    cases hx
    simp only [List.length_cons]
    omega

/-- The second code of a pair: `none` where none follows, a failure where it is not spelled out. -/
def secondCode (s : List Char) : Except Flaw (Option (Nat × Rest s)) :=
  match s with
  | '\\' :: 'u' :: t =>
    if t.length ≤ 4 then .ok none
    else match h : code? t with
      | some (n, r) => .ok (some (n, ⟨r, by have := length_of_code? h; simp only [List.length_cons]; omega⟩))
      | none => .error ⟨.badCode, t.length + 1⟩
  | _ => .ok none

/-- The glyph behind a backslash and a `u`. -/
def coded (s : List Char) : Step Flaw s Glyph :=
  match h : code? s with
  | none => .error ⟨.badCode, s.length + 1⟩
  | some (n, r) =>
    have hr := length_of_code? h
    if isHighHalf n then
      match secondCode r with
      | .error e => .error e
      | .ok (some (m, r')) =>
        if isLowHalf m then
          .ok (.ofCode (0x10000 + (n - 0xD800) * 0x400 + (m - 0xDC00)),
            ⟨r'.1, Nat.lt_trans r'.2 hr⟩)
        else .ok (.ofCode n, ⟨r, hr⟩)
      | .ok none => .ok (.ofCode n, ⟨r, hr⟩)
    else .ok (.ofCode n, ⟨r, hr⟩)

/-- The next glyph of a text in quotes; `none` at the closing quote. `body` is what stood behind
the opening quote, where a text without an end is reported. -/
def glyph (body s : List Char) : Step Flaw s (Option Glyph) :=
  match s with
  | [] => .error ⟨.unterminatedText, body.length + 1⟩
  | '"' :: r => .ok (none, ⟨r, by simp only [List.length_cons]; omega⟩)
  | ['\\'] => .error ⟨.unterminatedText, body.length + 1⟩
  | '\\' :: 'u' :: r =>
    match coded r with
    | .error e => .error e
    | .ok (g, r') => .ok (some g, ⟨r'.1, by have := r'.2; simp only [List.length_cons]; omega⟩)
  | '\\' :: c :: r =>
    match shortEscape? c with
    | some d => .ok (some (.char d), ⟨r, by simp only [List.length_cons]; omega⟩)
    | none => .error ⟨.unknownEscape, r.length + 2⟩
  | c :: r =>
    if c.toNat ≤ 0x1F then .error ⟨.controlInText, r.length + 1⟩
    else .ok (some (.char c), ⟨r, by simp only [List.length_cons]; omega⟩)

/-- The glyphs of a text in quotes from here on; `body` is what stood behind the opening quote. -/
def textBody (body s : List Char) : Step Flaw s (List Glyph) :=
  match glyph body s with
  | .error e => .error e
  | .ok (none, r) => .ok ([], r)
  | .ok (some g, r) =>
    match textBody body r.1 with
    | .error e => .error e
    | .ok (gs, r') => .ok (g :: gs, ⟨r'.1, Nat.lt_trans r'.2 r.2⟩)
termination_by s.length
decreasing_by exact r.2

def isDigit (c : Char) : Bool := '0' ≤ c && c ≤ '9'

/-- The whole part of a number: one zero, or digits that do not begin with zero. -/
def wholePart : List Char → List Char
  | [] => []
  | c :: s =>
    if c = '0' then ['0'] else if isDigit c then c :: s.takeWhile isDigit else []

/-- The digits behind a point. -/
def fractionPart : List Char → List Char
  | '.' :: s => s.takeWhile isDigit
  | _ => []

/-- An exponent: its sign, its digits and how many characters it takes. -/
def exponentPart : List Char → Option (Bool × List Char × Nat)
  | e :: s =>
    if e = 'e' ∨ e = 'E' then
      let (negative, ds, width) := match s with
        | '-' :: t => (true, t.takeWhile isDigit, 2)
        | '+' :: t => (false, t.takeWhile isDigit, 2)
        | t => (false, t.takeWhile isDigit, 1)
      if ds.isEmpty then none else some (negative, ds, width + ds.length)
    else none
  | [] => none

/-- The number that Western digits spell. -/
def ofDigits (ds : List Char) : Nat :=
  Numeral.ofDigits (ds.map fun c => c.toNat - 0x30)

/-- A number behind its sign, given its whole part: its value and how many characters it takes. -/
def numberFrom (negative : Bool) (whole s : List Char) : Except Failure (Value × Nat) :=
  let t := s.drop whole.length
  let fraction := fractionPart t
  let fractionWidth := if fraction.isEmpty then 0 else fraction.length + 1
  let exponent := exponentPart (t.drop fractionWidth)
  if fraction.isEmpty && exponent.isNone then
    if Numeral.maxDigits < whole.length then .error (.longNumeral whole.length)
    else
      let n : Int := ofDigits whole
      .ok (.int (if negative then -n else n), whole.length)
  else
    let power : Int := match exponent with
      | some (true, ds, _) => -(ofDigits ds : Int)
      | some (false, ds, _) => ofDigits ds
      | none => 0
    let width := match exponent with
      | some (_, _, w) => w
      | none => 0
    .ok (.float (Double.ofDecimal negative (ofDigits (whole ++ fraction))
      (power - fraction.length)), whole.length + fractionWidth + width)

/-- A number behind its sign. -/
def unsigned (negative : Bool) (s : List Char) : Step Failure s Value :=
  match h : wholePart s with
  | [] => .error (.noValue (if negative then s.length + 1 else s.length))
  | c :: cs =>
    match numberFrom negative (c :: cs) s with
    | .error e => .error e
    | .ok (v, width) => .ok (v, ⟨s.drop (max width 1), by
        have : s ≠ [] := by rintro rfl; simp [wholePart] at h
        have := List.length_pos_iff.2 this
        rw [List.length_drop]
        omega⟩)

/-- The words that stand for values. -/
def words : List (List Char × Value) :=
  [("null".toList, .null), ("true".toList, .bool true), ("false".toList, .bool false),
   ("NaN".toList, .float Double.nan), ("Infinity".toList, .float (Double.infinity false)),
   ("-Infinity".toList, .float (Double.infinity true))]

/-- The levels that the value of a word takes. -/
def wordLevels : Value → Nat
  | .float _ => 1
  | _ => 0

def scalar (room : Nat) (s : List Char) : Step Failure s Value :=
  match s with
  | [] => .error (.noValue 0)
  | c :: r =>
    match words.find? fun w => w.1.isPrefixOf (c :: r) with
    | some (w, v) =>
      if room < wordLevels v then .error (.tooDeep .calling)
      else .ok (v, ⟨r.drop (w.length - 1), by rw [List.length_drop, List.length_cons]; omega⟩)
    | none =>
      if c = '-' then (unsigned true r).within (by simp only [List.length_cons]; omega)
      else unsigned false (c :: r)

mutual

/-- A value, with room for so many levels; half a pair is told by so many marks. -/
def value (marks room : Nat) (s : List Char) : Step Failure s Value :=
  match s with
  | '"' :: r =>
    match textBody r r with
    | .error e => .error (.flawed e room)
    | .ok (gs, r') => .ok (.text (tell marks gs), r'.within (by simp only [List.length_cons]; omega))
  | '[' :: r =>
    if room = 0 then .error (.tooDeep .readingArray) else
    have hs := length_skip_le r
    match h : skip r with
    | ']' :: r' => .ok (.array [], ⟨r', by rw [h] at hs; simp only [List.length_cons] at hs ⊢; omega⟩)
    | t =>
      have ht : t.length ≤ r.length := h ▸ hs
      match items marks (room - 1) t with
      | .error e => .error e
      | .ok (vs, r') => .ok (.array vs, r'.within (by simp only [List.length_cons]; omega))
  | '\x7b' :: r =>
    if room = 0 then .error (.tooDeep .readingObject) else
    have hs := length_skip_le r
    match h : skip r with
    | '\x7d' :: r' => .ok (.object [], ⟨r', by rw [h] at hs; simp only [List.length_cons] at hs ⊢; omega⟩)
    | t =>
      have ht : t.length ≤ r.length := h ▸ hs
      match members marks (room - 1) [] t with
      | .error e => .error e
      | .ok (ms, r') => .ok (.object ms, r'.within (by simp only [List.length_cons]; omega))
  | s => scalar room s
termination_by (s.length, 1)

/-- The items of an array and its closing bracket. -/
def items (marks room : Nat) (s : List Char) : Step Failure s (List Value) :=
  match value marks room s with
  | .error e => .error e
  | .ok (v, r) =>
    have hr := r.2
    have hs := length_skip_le r.1
    match h : skip r.1 with
    | ']' :: t => .ok ([v], ⟨t, by rw [h] at hs; simp only [List.length_cons] at hs; omega⟩)
    | ',' :: t =>
      have ht := length_skip_le t
      have hl : (skip t).length < s.length := by rw [h] at hs; simp only [List.length_cons] at hs; omega
      match items marks room (skip t) with
      | .error e => .error e
      | .ok (vs, r') => .ok (v :: vs, r'.within (by omega))
    | t => .error (.flawed ⟨.commaExpected, t.length⟩ room)
termination_by (s.length, 2)

/-- The members of an object, behind the members `before`, and its closing brace. -/
def members (marks room : Nat) (before : Members Value) (s : List Char) :
    Step Failure s (Members Value) :=
  match s with
  | '"' :: r =>
    match textBody r r with
    | .error e => .error (.flawed e room)
    | .ok (gs, a) =>
      have ha := a.2
      have hsa := length_skip_le a.1
      match hc : skip a.1 with
      | ':' :: b =>
        have hb : b.length < r.length := by rw [hc] at hsa; simp only [List.length_cons] at hsa; omega
        have hsb := length_skip_le b
        match value marks room (skip b) with
        | .error e => .error e
        | .ok (v, d) =>
          have hd := d.2
          have hsd := length_skip_le d.1
          let all := Pairs.put (tell marks gs) v before
          match he : skip d.1 with
          | '\x7d' :: t => .ok (all, ⟨t, by rw [he] at hsd; simp only [List.length_cons] at hsd ⊢; omega⟩)
          | ',' :: t =>
            have ht := length_skip_le t
            have hl : (skip t).length < r.length := by rw [he] at hsd; simp only [List.length_cons] at hsd; omega
            match members marks room all (skip t) with
            | .error e => .error e
            | .ok (ms, r') => .ok (ms, r'.within (by simp only [List.length_cons]; omega))
          | t => .error (.flawed ⟨.commaExpected, t.length⟩ room)
      | t => .error (.flawed ⟨.colonExpected, t.length⟩ room)
  | s => .error (.flawed ⟨.nameExpected, s.length⟩ room)
termination_by (s.length, 0)

end

/-- Why a text is not read. -/
inductive Refusal where
  | malformed (m : Malformation)
  | longNumeral (digits : Nat)
  | tooDeep (descent : Descent)
  deriving DecidableEq, Repr

/-- The levels that the report of a flaw takes. -/
def reportLevels : Nat := 3

/-- Why a text is not read in which there was this failure. -/
def Failure.refusal (s : List Char) : Failure → Refusal
  | noValue left => .malformed ⟨.valueExpected, Place.of s (s.length - left)⟩
  | flawed flaw room =>
    if room < reportLevels then .tooDeep .calling
    else .malformed ⟨flaw.complaint, Place.of s (s.length - flaw.left)⟩
  | longNumeral digits => .longNumeral digits
  | tooDeep descent => .tooDeep descent

/-- One value with white space around it, with room for so many levels. -/
def read (room : Nat) (s : List Char) : Except Refusal Value :=
  match s with
  | '\uFEFF' :: _ => .error (.malformed ⟨.byteOrderMark, Place.of s 0⟩)
  | _ =>
    match value (marksFor s) room (skip s) with
    | .error e => .error (e.refusal s)
    | .ok (v, r) =>
      let t := skip r.1
      if t.isEmpty then .ok v
      else .error (.malformed ⟨.moreThanOneValue, Place.of s (s.length - t.length)⟩)

end Json

end Phrasebook
