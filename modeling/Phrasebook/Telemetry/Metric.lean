import Phrasebook.Fault
import Phrasebook.Telemetry.Histogram

/-!
# Phrasebook.Telemetry.Metric

Counters and histograms of doubles, their names and their samples.

A counter is called without the ending `_total`, which its sample takes on again. A histogram gives a
sample for each bound, with all observations up to it, then their number and, unless its bounds begin
below zero, their sum.
-/

namespace Phrasebook

namespace Metric

/-- What a metric measures. -/
inductive Kind where
  | counter
  | histogram
  deriving DecidableEq, Repr

namespace Kind

def word : Kind → String
  | counter => "Counter"
  | histogram => "Histogram"

/-- The endings under which a metric of the kind reserves names beside its own. -/
def endings : Kind → List String
  | counter => ["_total", "_created"]
  | histogram => ["_bucket", "_sum", "_count", "_created"]

end Kind

def isLetter (c : Char) : Bool := ('a' ≤ c && c ≤ 'z') || ('A' ≤ c && c ≤ 'Z')

def isFigure (c : Char) : Bool := '0' ≤ c && c ≤ '9'

/-- Letters, figures, bars and what else is allowed, no figure first; a line feed may end it. -/
def isName (more : Char → Bool) (name : String) : Bool :=
  let cs := name.toList
  let body := if cs.getLast? = some '\n' then cs.dropLast else cs
  let isInitial c := isLetter c || c == '_' || more c
  match body with
  | [] => false
  | c :: rest => isInitial c && rest.all fun d => isInitial d || isFigure d

def isMetricName : String → Bool := isName (· == ':')

/-- A name for a label of a metric of the kind. -/
def isLabelName (k : Kind) (name : String) : Bool :=
  isName (fun _ => false) name && !"__".toList.isPrefixOf name.toList &&
    !(k == .histogram && name == "le")

/-- The name without the ending that counters drop. -/
def baseName (k : Kind) (name : String) : String :=
  let cs := name.toList
  let ending := "_total".toList
  if k = .counter && ending.isSuffixOf cs then String.ofList (cs.take (cs.length - ending.length))
  else name

/-- The bounds of a histogram where none are given. -/
def standardBounds : List Float :=
  [0.005, 0.01, 0.025, 0.05, 0.075, 0.1, 0.25, 0.5, 0.75, 1.0, 2.5, 5.0, 7.5, 10.0,
   Double.infinity false]

/-- No double is less than the one before it. -/
def ascends : List Float → Bool
  | a :: b :: rest => !(b < a) && ascends (b :: rest)
  | _ => true

/-- Bounds with infinity at their end; unordered ones and infinity alone are none. -/
def completeBounds? (bounds : List Float) : Option (List Float) :=
  if !ascends bounds then none
  else
    let all := match bounds.getLast? with
      | none => []
      | some b => if b == Double.infinity false then bounds else bounds ++ [Double.infinity false]
    if all.length < 2 then none else some all

/-- What a metric has measured under one set of label values. -/
inductive Series where
  | counter (value : Float)
  | histogram (h : Histogram Float Float)

namespace Series

def kind : Series → Kind
  | counter _ => .counter
  | histogram _ => .histogram

end Series

/-- The text of a bound. Above a million it is a mantissa and an exponent behind a zero. -/
def boundText (bound : Float) : String :=
  match Double.view bound with
  | .nan => "NaN"
  | .infinite negative => if negative then "-Inf" else "+Inf"
  | .finite negative mantissa _ =>
    let s := (Shortest.plain.write bound).toList
    let whole := s.takeWhile (· ≠ '.')
    if whole.length = s.length || negative || mantissa = 0 || whole.length ≤ 6 then String.ofList s
    else
      let digits := whole ++ s.drop (whole.length + 1)
      let shown := digits.take 1 ++ '.' :: digits.drop 1
      let trimmed := (shown.reverse.dropWhile fun c => c = '0' || c = '.').reverse
      String.ofList (trimmed ++ ['e', '+', '0'] ++ Numeral.natural (whole.length - 1))

/-- A sample: its name or the ending of it, its labels and its value. -/
structure Sample where
  name : String
  labels : Members String
  value : Float

/-- The samples of a series, by the endings of their names. -/
def Series.samples : Series → List Sample
  | .counter value => [⟨"_total", [], value⟩]
  | .histogram h =>
    let buckets := h.cumulative.map fun c => ⟨"_bucket", [("le", boundText c.1)], c.2.toFloat⟩
    let count : Sample := ⟨"_count", [], h.count.toFloat⟩
    let sums : List Sample := match h.bounds with
      | b :: _ => if 0.0 ≤ b then [⟨"_sum", [], h.sum⟩] else []
      | [] => []
    buckets ++ count :: sums

end Metric

namespace Value

/-- The double that a number stands for in a sum; `refuse` names the fault of other values. -/
def toAddend (refuse : String → Fault) : Value → Except Fault Float
  | int n =>
    match Double.ofInt? n with
    | some x => .ok x
    | none => .error .beyondDouble
  | bool b => .ok (if b then 1.0 else 0.0)
  | float x => .ok x
  | v => .error (refuse v.kind)

/-- A number is at most a bound; a whole number is compared exactly. -/
def atMost (bound : Float) : Value → Bool
  | int n => Double.intAtMost n bound
  | bool b => (if b then 1.0 else 0.0) ≤ bound
  | float x => x ≤ bound
  | _ => false

/-- A number is below zero; other values are not compared with it. -/
def isNegative : Value → Except Fault Bool
  | int n => .ok (n < 0)
  | bool _ => .ok false
  | float x => .ok (x < 0.0)
  | v => .error (.unordered v.kind)

end Value

end Phrasebook
