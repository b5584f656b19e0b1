import Phrasebook.Json.Reader
import Phrasebook.Storage
import Phrasebook.Text.Utf8
import Phrasebook.Value.Writer

/-!
# Phrasebook.Fault

Everything that can go wrong, by cause, and its wording.

`BankError` collects what the loader of a word bank reports of its own; `Fault` adds what a value of
the wrong type or out of range leads to, and the ways in which the content of a file is refused before
it is a document.
-/

namespace Phrasebook

/-- Why a word bank is refused. -/
inductive BankError where
  /-- The file under the path cannot be read. -/
  | unreadable (path : String) (trouble : Storage.Trouble)
  /-- The file under the path is no JSON text. -/
  | malformed (path : String) (malformation : Json.Malformation)
  | notAnObject
  /-- The key is no tier, or its value holds no categories. -/
  | badTier (key : String)
  /-- The value at the location is not an array of texts. -/
  | badList (location : String)
  deriving DecidableEq, Repr

namespace BankError

/-- What was read is at fault, not the file it was read from. -/
def isFormat : BankError → Bool
  | unreadable _ _ => false
  | _ => true

def message : BankError → String
  | unreadable path trouble => s!"Unable to read word bank {path}: {trouble.message path}"
  | malformed path malformation => s!"Word bank {path} is not valid JSON: {malformation.message}"
  | notAnObject => "Word bank document must be a JSON object."
  | badTier key =>
    s!"Invalid tier {Quoted.write key}. Expected a key like '03p' mapping to categories."
  | badList location =>
    s!"Invalid data format for key {Quoted.write location}. Expected an array of strings."

end BankError

/-- What can go wrong. -/
inductive Fault where
  /-- A value of this kind stands for no number. -/
  | notANumber (kind : String)
  | malformedNumeral (text : String)
  | longNumeral (digits : Nat)
  /-- The number has too many digits to be written. -/
  | longNumber
  /-- What is no number has no whole part. -/
  | wholeOfNaN
  | wholeOfInfinity
  | beyondDouble
  /-- A value of this kind has no length. -/
  | noLength (kind : String)
  /-- A text is needed and a value of this kind is given. -/
  | notText (kind : String)
  /-- A value of this kind has no elements. -/
  | notIterable (kind : String)
  /-- A value of this kind is no position. -/
  | notAnIndex (kind : String)
  /-- A whole number is not compared with a value of this kind. -/
  | incomparable (kind : String)
  /-- A value of this kind is not compared with a whole number. -/
  | unordered (kind : String)
  /-- A value of this kind is not added to a double. -/
  | notAdded (kind : String)
  /-- A value of this kind is no double. -/
  | notADouble (kind : String)
  /-- A whole number is not taken from a value of this kind. -/
  | notLessened (kind : String)
  /-- A name that an operation keeps for itself. -/
  | nameTaken (operation name : String)
  /-- A value that is no change of a selection. -/
  | unsupportedChange (v : Value)
  /-- A key without parts has no first part. -/
  | emptyKey
  /-- A value of this kind does not have the named ability. -/
  | lacks (kind : String) (ability : String)
  /-- The bytes of a file are no text. -/
  | undecodable (fault : Utf8.Fault)
  /-- No level was left for what was under way. -/
  | tooDeep (descent : Json.Descent)
  | nullInPath
  | bank (error : BankError)

namespace Fault

/-- What kind of fault a byte sequence has, in words. -/
def decodingWords : Utf8.FaultKind → String
  | .invalidStart => "invalid start byte"
  | .invalidContinuation => "invalid continuation byte"
  | .endOfData => "unexpected end of data"

/-- The wording of a decoding fault; a fault of one byte shows the byte. -/
def decodingMessage (f : Utf8.Fault) : String :=
  if f.length = 1 then
    let byte := String.ofList (Hex.digits 2 f.byte.toNat)
    s!"'utf-8' codec can't decode byte 0x{byte} in position {f.start}: {decodingWords f.kind}"
  else
    let last := f.start + f.length - 1
    s!"'utf-8' codec can't decode bytes in position {f.start}-{last}: {decodingWords f.kind}"

/-- The beginning of a text in quotes, as far as a message has room for it. -/
def excerpt (text : String) : String := String.ofList ((Quoted.encode text.toList).take 200)

def message : Fault → String
  | notANumber kind =>
    s!"int() argument must be a string, a bytes-like object or a real number, not '{kind}'"
  | malformedNumeral text => s!"invalid literal for int() with base 10: {excerpt text}"
  | longNumeral digits =>
    s!"Exceeds the limit ({Numeral.maxDigits} digits) for integer string conversion: " ++
      s!"value has {digits} digits; use sys.set_int_max_str_digits() to increase the limit"
  | longNumber =>
    s!"Exceeds the limit ({Numeral.maxDigits} digits) for integer string conversion; " ++
      "use sys.set_int_max_str_digits() to increase the limit"
  | wholeOfNaN => "cannot convert float NaN to integer"
  | wholeOfInfinity => "cannot convert float infinity to integer"
  | beyondDouble => "int too large to convert to float"
  | noLength kind => s!"object of type '{kind}' has no len()"
  | notText kind => s!"expected string or bytes-like object, got '{kind}'"
  | notIterable kind => s!"'{kind}' object is not iterable"
  | notAnIndex kind => s!"tuple indices must be integers or slices, not {kind}"
  | incomparable kind => s!"'<=' not supported between instances of 'int' and '{kind}'"
  | unordered kind => s!"'<' not supported between instances of '{kind}' and 'int'"
  | notAdded kind => s!"unsupported operand type(s) for +=: 'float' and '{kind}'"
  | notADouble kind => s!"float() argument must be a string or a real number, not '{kind}'"
  | notLessened kind => s!"unsupported operand type(s) for -: '{kind}' and 'int'"
  | nameTaken operation name => s!"{operation}() got multiple values for argument '{name}'"
  | unsupportedChange v => s!"Unsupported search command: {v.describe}"
  | emptyKey => "tuple index out of range"
  | lacks kind ability => s!"'{kind}' object has no attribute '{ability}'"
  | undecodable fault => decodingMessage fault
  | tooDeep descent => s!"maximum recursion depth exceeded{descent.words}"
  | nullInPath => "embedded null byte"
  | bank error => error.message

/-- The fault of a text that is not read as a number. -/
def ofRefusal (text : String) : Numeral.Refusal → Fault
  | .malformed => malformedNumeral text
  | .tooLong digits => longNumeral digits

end Fault

namespace Value

/-- The whole number a value stands for: a double without its fraction, a truth value as zero or
one, a text as a numeral. -/
def toInteger : Value → Except Fault Int
  | int n => .ok n
  | bool b => .ok (if b then 1 else 0)
  | float x =>
    match Double.view x with
    | .nan => .error .wholeOfNaN
    | .infinite _ => .error .wholeOfInfinity
    | view => .ok (view.truncate?.getD 0)
  | text s => (Numeral.read s.toList).mapError (Fault.ofRefusal s)
  | v => .error (.notANumber v.kind)

/-- The elements of a value, or the fault of having none. -/
def elements (v : Value) : Except Fault (List Value) :=
  match v.elements? with
  | some vs => .ok vs
  | none => .error (.notIterable v.kind)

/-- The length of a value, or the fault of having none. -/
def length (v : Value) : Except Fault Nat :=
  match v.length? with
  | some n => .ok n
  | none => .error (.noLength v.kind)

end Value

end Phrasebook
