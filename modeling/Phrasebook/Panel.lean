import Phrasebook.Markdown

/-!
# Phrasebook.Panel

The panel through which a bank is searched: a choice of categories, a choice of tiers, a query, a
count and a list of results.

Whatever the components send is brought into a change first. A category that cannot be read is the
first one and none lies before it; a tier that cannot be read changes nothing and the current
selection is shown again. Infinity is no category and no tier, and is reported.
-/

namespace Phrasebook

/-- What a component may send. -/
inductive Event where
  | load
  | category (v : Value)
  | tier (v : Value)
  | query (v : Value)

/-- What the panel shows, and the selection it shows it for. -/
structure Display where
  selection : Selection
  count : String
  results : String

/-- A panel on a finder. -/
structure Panel where
  finder : Finder
  initial : Selection
  categories : List String
  tiers : List Int

namespace Panel

def title : String := "Phrase Finder"

def categoryCaption : String := "دسته بندی"

def tierCaption : String := "امتیاز"

def ofFinder (f : Finder) : Except Fault Panel :=
  match f.bank.tiers with
  | .error e => .error e
  | .ok tiers => f.initial.map fun initial => ⟨f, initial, f.bank.labels, tiers⟩

def tierChoices (p : Panel) : List String := p.tiers.map Numeral.write

def tierChoice (p : Panel) : Option String :=
  match p.initial.tier with
  | .int n => some (Numeral.write n)
  | _ => none

/-- The choice of tiers is shown. -/
def tierVisible (p : Panel) : Bool := !p.tiers.isEmpty

/-- A whole number out of what a component sent; nothing if it cannot be read. -/
def readInteger (v : Value) : Except Fault (Option Int) :=
  match v.toInteger with
  | .ok n => .ok (some n)
  | .error .wholeOfInfinity => .error .wholeOfInfinity
  | .error _ => .ok none

def display (a : Answer Found) : Answer Display :=
  { a with
    result := match a.result with
      | .error e => .error e
      | .ok f => (Markdown.results f).map fun results => ⟨f.selection, Markdown.count f, results⟩ }

/-- The search that an event leads to, given the selection that was shown last, if there is one. -/
def ask (p : Panel) (e : Event) (shown : Option Selection) (m : Meters) : Answer Found :=
  let current := shown.getD p.initial
  match e with
  | .load => p.finder.search p.initial m
  | .category v =>
    match readInteger v with
    | .error e => ⟨.error e, {}, m⟩
    | .ok n => p.finder.dispatch current (.category (.int (max 0 (n.getD 0)))) m
  | .tier v =>
    match readInteger v with
    | .error e => ⟨.error e, {}, m⟩
    | .ok none => p.finder.search current m
    | .ok (some n) => p.finder.dispatch current (.tier (.int n)) m
  | .query v => p.finder.dispatch current (.query v.orEmpty) m

/-- Answers an event by showing what its search found. -/
def handle (p : Panel) (e : Event) (shown : Option Selection) (m : Meters) : Answer Display :=
  display (p.ask e shown m)

/-- The components of the panel. -/
inductive Component where
  | frame
  | state
  | choice
  | input
  | text
  deriving DecidableEq, Repr

/-- A binding of an event: its source, its name, what it reads and what it writes. -/
structure Binding where
  source : Component
  event : String
  inputs : List Component
  outputs : List Component

/-- Every handler writes the selection, the count and the results. -/
def outputs : List Component := [.state, .text, .text]

/-- The bindings of the panel: loading, categories, tiers, query. -/
def bindings : List Binding :=
  [⟨.frame, "load", [], outputs⟩, ⟨.choice, "change", [.choice, .state], outputs⟩,
   ⟨.choice, "change", [.choice, .state], outputs⟩, ⟨.input, "change", [.input, .state], outputs⟩]

end Panel

end Phrasebook
