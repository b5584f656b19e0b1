import Phrasebook.Session.Finder

/-!
# Phrasebook.Session.Run

A session: a finder, the selection it stands at and the meters. Steps change it one after another; a
step that fails leaves finder and selection as they were, while the meters keep what was counted.
-/

namespace Phrasebook

/-- A finder at work. -/
structure Session where
  finder : Finder
  selection : Selection
  meters : Meters

/-- One step of a session. -/
inductive Step where
  | change (c : Change)
  /-- Searches for the selection, or for another that is not kept. -/
  | search (other : Option Selection)
  | select (s : Selection)
  /-- Goes back to the selection to begin with. -/
  | reset
  | setBank (b : Bank)
  /-- Goes on with a new finder on a bank. -/
  | newFinder (b : Bank)

/-- What a step that succeeds has to show. -/
inductive Outcome where
  | found (f : Found)
  | selection (s : Selection)
  | bank (b : Bank)

namespace Session

/-- A session begins at the selection that its finder begins with. -/
def start (f : Finder) : Except Fault Session :=
  f.initial.map fun s => ⟨f, s, .zero⟩

/-- The session after a change: the selection moves on if the search succeeds. -/
def change (s : Session) (c : Change) : Answer Outcome × Session :=
  let a := s.finder.dispatch s.selection c s.meters
  match a.result with
  | .ok f => (⟨.ok (.found f), a.trace, a.meters⟩,
      { s with selection := f.selection, meters := a.meters })
  | .error e => (⟨.error e, a.trace, a.meters⟩, { s with meters := a.meters })

def search (s : Session) (selection : Selection) : Answer Outcome × Session :=
  let a := s.finder.search selection s.meters
  (⟨a.result.map .found, a.trace, a.meters⟩, { s with meters := a.meters })

def step (s : Session) : Step → Answer Outcome × Session
  | .change c => s.change c
  | .search other => s.search (other.getD s.selection)
  | .select selection => (⟨.ok (.selection selection), {}, s.meters⟩, { s with selection })
  | .reset =>
    match s.finder.initial with
    | .ok selection => (⟨.ok (.selection selection), {}, s.meters⟩, { s with selection })
    | .error e => (⟨.error e, {}, s.meters⟩, s)
  | .setBank b => (⟨.ok (.bank b), {}, s.meters⟩, { s with finder := s.finder.setBank b })
  | .newFinder b =>
    (⟨.ok (.bank b), {}, s.meters⟩, { s with finder := .ofBank b s.finder.outlet })

end Session

end Phrasebook
