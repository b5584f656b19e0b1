import Phrasebook.Fault

/-!
# Phrasebook.CommandLine.Arguments

The arguments of the command line.

Every argument is marked first: as a word, as the divider behind which all is words, or as an option,
which may be shortened as long as it stays unambiguous and may carry a value behind an equals sign.
A lone dash, a negative number and what holds a space are words. Then the marks are taken in order:
the first word is the query, an option with a value takes the word behind it, and what is left over
is refused at the end. A divider that is attached to an option as its value is dropped, which leaves
the option without any.
-/

namespace Phrasebook

namespace CommandLine

inductive Flag where
  | help
  | wordBank
  | category
  | tier
  | json
  | check
  deriving DecidableEq, Repr

namespace Flag

def name : Flag → String
  | help => "-h/--help"
  | wordBank => "--word-bank"
  | category => "--category"
  | tier => "--tier"
  | json => "--json"
  | check => "--check"

def takesValue : Flag → Bool
  | wordBank => true
  | category => true
  | tier => true
  | _ => false

/-- Every spelling, in the order in which complaints list them. -/
def spellings : List (String × Flag) :=
  [("-h", help), ("--help", help), ("--word-bank", wordBank), ("--category", category),
   ("--tier", tier), ("--json", json), ("--check", check)]

end Flag

inductive Complaint where
  | ambiguous (option : String) (spellings : List String)
  | valueNotTaken (flag : Flag) (value : String)
  | valueMissing (flag : Flag)
  | notANumber (flag : Flag) (value : String)
  | leftOver (arguments : List String)
  deriving DecidableEq, Repr

namespace Complaint

def message : Complaint → String
  | ambiguous option spellings =>
    s!"ambiguous option: {option} could match " ++ ", ".intercalate spellings
  | valueNotTaken flag value =>
    s!"argument {flag.name}: ignored explicit argument {Quoted.write value}"
  | valueMissing flag => s!"argument {flag.name}: expected one argument"
  | notANumber flag value => s!"argument {flag.name}: invalid int value: {Quoted.write value}"
  | leftOver arguments => "unrecognized arguments: " ++ " ".intercalate arguments

end Complaint

/-- What an argument is taken for. -/
inductive Mark where
  | word
  | divider
  /-- An option that is not known. -/
  | unknown
  /-- An option by itself. -/
  | bare (flag : Flag)
  /-- An option with a value attached. -/
  | withValue (flag : Flag) (value : String)
  /-- The short option with characters attached, with an equals sign between them or without. -/
  | cluster (rest : List Char)
  deriving DecidableEq, Repr

namespace Mark

def isOption : Mark → Bool
  | word => false
  | divider => false
  | _ => true

/-- Splits at the first equals sign. -/
def splitValue (s : List Char) : List Char × Option (List Char) :=
  match s.dropWhile (· ≠ '=') with
  | _ :: value => (s.takeWhile (· ≠ '='), some value)
  | [] => (s, none)

/-- Digits of any script, at least one. -/
def isDigits (s : List Char) : Bool := !s.isEmpty && s.all fun c => (Digit.value? c).isSome

/-- A minus sign, digits, and perhaps a point with digits behind it; a line feed may end it. -/
def isNegativeNumber (s : List Char) : Bool :=
  match s with
  | '-' :: rest =>
    let body := if rest.getLast? = some '\n' then rest.dropLast else rest
    match body.dropWhile (· ≠ '.') with
    | [] => isDigits body
    | _ :: fraction =>
      let whole := body.takeWhile (· ≠ '.')
      (whole.isEmpty || isDigits whole) && isDigits fraction
  | _ => false

/-- An option with its value, if one is attached. -/
def ofFlag (flag : Flag) (value : Option (List Char)) : Mark :=
  match value with
  | some v => withValue flag (String.ofList v)
  | none => bare flag

/-- The mark of an argument that begins like an option and is none that is known. -/
def ofUnknown (s : List Char) : Mark :=
  if isNegativeNumber s || s.contains ' ' then word else unknown

/-- The mark of an argument in front of the divider. -/
def of (argument : String) : Except Complaint Mark :=
  match argument.toList with
  | '-' :: c :: rest =>
    match Flag.spellings.lookup argument with
    | some flag => .ok (bare flag)
    | none =>
      let (stem, value) := splitValue ('-' :: c :: rest)
      match Flag.spellings.lookup (String.ofList stem), value with
      | some flag, some v =>
        .ok (if c = '-' || v.isEmpty then withValue flag (String.ofList v) else cluster v)
      | _, _ =>
        if c = '-' then
          match Flag.spellings.filter fun s => stem.isPrefixOf s.1.toList with
          | [] => .ok (ofUnknown argument.toList)
          | [s] => .ok (ofFlag s.2 value)
          | several => .error (.ambiguous argument (several.map Prod.fst))
        else if c = 'h' then .ok (cluster rest)
        else .ok (ofUnknown argument.toList)
  | _ => .ok word

end Mark

/-- The argument behind which all arguments are words. -/
def divider : String := "--"

/-- Marks arguments; behind the divider all are words. -/
def mark : List String → Except Complaint (List (String × Mark))
  | [] => .ok []
  | a :: rest =>
    if a = divider then .ok ((a, .divider) :: rest.map (·, .word))
    else
      match Mark.of a with
      | .error e => .error e
      | .ok m =>
        match mark rest with
        | .error e => .error e
        | .ok ms => .ok ((a, m) :: ms)

/-- What an option for a number was given. -/
inductive Given where
  | number (n : Int)
  /-- A divider, of which an empty list is left. -/
  | nothing
  deriving DecidableEq, Repr

/-- What was given, as a value. -/
def Given.toValue : Given → Value
  | number n => .int n
  | nothing => .array []

structure Arguments where
  query : String := ""
  wordBank : Option String := none
  category : Given := .number 1
  tier : Option Given := none
  json : Bool := false
  check : Bool := false
  deriving DecidableEq, Repr

/-- What reading the arguments comes to. -/
inductive Reading where
  | help
  | refused (c : Complaint)
  | understood (a : Arguments)
  deriving DecidableEq, Repr

/-- The arguments read so far: whether the query is taken, and what is left over. -/
structure Progress where
  arguments : Arguments := {}
  queryTaken : Bool := false
  leftOver : List String := []

namespace Progress

/-- The arguments with an option that has a value. -/
def setValue (p : Progress) (flag : Flag) (value : String) : Except Complaint Progress :=
  let number (f : Given → Arguments) : Except Complaint Progress :=
    if value = divider then .ok { p with arguments := f .nothing }
    else
      match Numeral.read? value with
      | some n => .ok { p with arguments := f (.number n) }
      | none => .error (.notANumber flag value)
  match flag with
  | .wordBank =>
    let path := if value = divider then none else some value
    .ok { p with arguments := { p.arguments with wordBank := path } }
  | .category => number fun g => { p.arguments with category := g }
  | .tier => number fun g => { p.arguments with tier := some g }
  | _ => .error (.valueNotTaken flag value)

/-- The arguments with an option that has none. -/
def setFlag (p : Progress) (flag : Flag) : Progress :=
  match flag with
  | .json => { p with arguments := { p.arguments with json := true } }
  | .check => { p with arguments := { p.arguments with check := true } }
  | _ => p

/-- One argument more is left over. -/
def leave (p : Progress) (argument : String) : Progress :=
  { p with leftOver := p.leftOver ++ [argument] }

/-- The word becomes the query, or is left over if there is one. -/
def takeWord (p : Progress) (argument : String) : Progress :=
  if p.queryTaken then p.leave argument
  else { p with queryTaken := true, arguments := { p.arguments with query := argument } }

def finish (p : Progress) : Reading :=
  if p.leftOver.isEmpty then .understood p.arguments else .refused (.leftOver p.leftOver)

/-- Takes the arguments behind the last option, where a divider next to the query is dropped. -/
def finishWith (p : Progress) (items : List (String × Mark)) : Reading :=
  let names := items.map Prod.fst
  if p.queryTaken then finish { p with leftOver := p.leftOver ++ names }
  else
    match items with
    | [] => finish p
    | (_, .divider) :: [] => finish p
    | (_, .divider) :: (a, _) :: rest =>
      finish { p.takeWord a with leftOver := p.leftOver ++ rest.map Prod.fst }
    | (a, _) :: (_, .divider) :: rest =>
      finish { p.takeWord a with leftOver := p.leftOver ++ rest.map Prod.fst }
    | (a, _) :: rest =>
      finish { p.takeWord a with leftOver := p.leftOver ++ rest.map Prod.fst }

end Progress

/-- Characters attached to `-h`: each may be the same short option again, of which there is no
other. -/
def readCluster : List Char → Reading
  | [] => .help
  | 'h' :: rest => readCluster rest
  | rest => .refused (.valueNotTaken .help (String.ofList rest))

def readMarked (p : Progress) : List (String × Mark) → Reading
  | [] => p.finishWith []
  | (a, m) :: rest =>
    if !(m.isOption || rest.any fun i => i.2.isOption) then p.finishWith ((a, m) :: rest)
    else
      match m with
      | .word => readMarked (p.takeWord a) rest
      | .divider => readMarked (p.leave a) rest
      | .unknown => readMarked (p.leave a) rest
      | .cluster cs => readCluster cs
      | .withValue flag value =>
        match p.setValue flag value with
        | .error c => .refused c
        | .ok p => readMarked p rest
      | .bare .help => .help
      | .bare flag =>
        if flag.takesValue then
          match rest with
          | (value, .word) :: rest =>
            match p.setValue flag value with
            | .error c => .refused c
            | .ok p => readMarked p rest
          | _ => .refused (.valueMissing flag)
        else readMarked (p.setFlag flag) rest

def read (arguments : List String) : Reading :=
  match mark arguments with
  | .error c => .refused c
  | .ok items => readMarked {} items

end CommandLine

end Phrasebook
