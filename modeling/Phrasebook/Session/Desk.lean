import Phrasebook.Session.Finder

/-!
# Phrasebook.Session.Desk

Finders that work side by side.

Each finder has its own bank, and all share the meters. Tasks come to any of them in any order;
banks are changed and finders opened in between. A desk keeps every search that was made, with its
answer; a change that fails makes none.
-/

namespace Phrasebook

/-- A search that was made, and its answer. -/
structure Call where
  finder : Finder
  selection : Selection
  answer : Answer Found

/-- A task for a desk. A finder is named by its place; no finder, nothing to do. -/
inductive Task where
  | search (place : Nat) (s : Selection)
  /-- Changes a selection and searches for the changed one. -/
  | dispatch (place : Nat) (s : Selection) (c : Change)
  | setBank (place : Nat) (b : Bank)
  | newFinder (b : Bank)

/-- Finders, the outlet they log to, the meters they share and the searches they made. -/
structure Desk where
  outlet : Outlet
  finders : List Finder := []
  meters : Meters := .zero
  calls : List Call := []

namespace Desk

/-- Keeps a search and goes on with the meters after it. -/
def note (d : Desk) (f : Finder) (s : Selection) (a : Answer Found) : Desk :=
  { d with meters := a.meters, calls := d.calls ++ [⟨f, s, a⟩] }

def step (d : Desk) : Task → Desk
  | .search place s =>
    match d.finders[place]? with
    | some f => d.note f s (f.search s d.meters)
    | none => d
  | .dispatch place s c =>
    match d.finders[place]? with
    | some f =>
      let a := f.dispatch s c d.meters
      match s.apply c with
      | .ok s' => d.note f s' a
      | .error _ => { d with meters := a.meters }
    | none => d
  | .setBank place b => { d with finders := d.finders.modify place (·.setBank b) }
  | .newFinder b => { d with finders := d.finders ++ [.ofBank b d.outlet] }

/-- The desk after tasks, at first without finders. -/
def run (o : Outlet) (ts : List Task) : Desk := ts.foldl step { outlet := o }

end Desk

end Phrasebook
