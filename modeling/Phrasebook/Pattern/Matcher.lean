import Phrasebook.Fault
import Phrasebook.Pattern.Expression
import Phrasebook.Pattern.Match
import Phrasebook.Text.Digit

/-!
# Phrasebook.Pattern.Matcher

Matchers made from patterns, and the search of phrases with them.

Nothing as a pattern accepts everything, whatever is tested. A matcher of a text accepts the texts
that match the expression for it, and has no verdict on other values. Read back, the expression yields
the tokens of the pattern, so these are the texts whose characters the tokens accept
(`acceptsText_wildcard`). `search` brings the query into Western digits first and keeps the accepted
phrases in their order.
-/

namespace Phrasebook

/-- A test for phrases. -/
inductive Matcher where
  | everything
  | wildcard (pattern : String)
  deriving DecidableEq, Repr

namespace Matcher

def compile (pattern : Value) : Except Fault Matcher :=
  if pattern.isNothing then .ok everything
  else match pattern with
    | .text s => .ok (wildcard s)
    | v => .error (.notText v.kind)

def ofText (pattern : String) : Matcher :=
  if pattern = "" then everything else wildcard pattern

def acceptsText : Matcher → String → Bool
  | everything, _ => true
  | wildcard pattern, s => Pattern.Expression.matchesAll (Pattern.Expression.ofPattern pattern) s

theorem acceptsText_wildcard (pattern s : String) :
    (wildcard pattern).acceptsText s = Pattern.accepts (Pattern.tokens pattern.toList) s.toList := by
  rw [acceptsText, Pattern.Expression.matchesAll_ofPattern]

def accepts (m : Matcher) (candidate : Value) : Except Fault Bool :=
  match m, candidate with
  | everything, _ => .ok true
  | m, .text s => .ok (m.acceptsText s)
  | _, v => .error (.notText v.kind)

def describe : Matcher → String
  | everything => "MATCH_ALL"
  | wildcard pattern => s!"CompiledMatcher(pattern={Quoted.write pattern})"

/-- The accepted values in their order, up to the first without a verdict. -/
def select (m : Matcher) : List Value → Except Fault (List Value)
  | [] => .ok []
  | v :: vs =>
    match m.accepts v with
    | .error e => .error e
    | .ok verdict =>
      match m.select vs with
      | .error e => .error e
      | .ok kept => .ok (if verdict then v :: kept else kept)

/-- The matcher of a query: a text with its digits in Western form, or everything. -/
def ofQuery : Value → Matcher
  | .text s => ofText (Digits.western s)
  | _ => everything

end Matcher

/-- The phrases that a query finds, in their order. -/
def search (phrases query : Value) : Except Fault (List Value) :=
  match phrases.elements with
  | .error e => .error e
  | .ok vs => (Matcher.ofQuery query).select vs

end Phrasebook
