import Phrasebook.Session.Finder

/-!
# Phrasebook.Session.Application

The application: a finder on the bank it was given, or on one that it loads.

A bank that is given wins over the bank of a finder that is given, and that one over a path. A finder
that is given goes on with the bank that was chosen.
-/

namespace Phrasebook

/-- What an application is built from. -/
structure Ingredients where
  path : Option String := none
  bank : Option Bank := none
  finder : Option Finder := none

/-- A finder and its bank. -/
structure Application where
  bank : Bank
  finder : Finder

namespace Application

def logger (o : Outlet) : Logger :=
  ⟨"phrase_finder.app.app", [("component", .text "app_facade")], o⟩

def pathDetail (path : Option String) : Value := (path.map .text).getD .null

def openingRecord (o : Outlet) (path : Option String) : Record :=
  (logger o).entry .info "Initialising application facade" [("word_bank_path", pathDetail path)]

/-- The record of a bank that is refused. -/
def refusalRecord (o : Outlet) (path : Option String) (e : BankError) : Record :=
  (logger o).entry .error "Word bank initialisation failed"
    [("word_bank_path", pathDetail path), ("error", .text e.message)]

def wiredRecord (o : Outlet) (b : Bank) : Record :=
  (logger o).entry .info "Application dependencies wired"
    [("tiered", .bool b.isTiered), ("categories", .int b.categoryCount), ("phrases", .int b.size)]

/-- The bank that the ingredients name without loading one. -/
def givenBank (i : Ingredients) : Option Bank := i.bank <|> i.finder.map Finder.bank

/-- The application on a bank; a finder that is not given is opened, and logs to the outlet. -/
def onBank (i : Ingredients) (b : Bank) (o : Outlet) : Application :=
  ⟨b, match i.finder with
    | some f => f.setBank b
    | none => .ofBank b o⟩

/-- Builds an application; what is logged tells how it went. -/
def build (s : Surroundings) (i : Ingredients) : Except Fault Application × List Record :=
  let o := s.outlet
  let opening := o.passing [openingRecord o i.path]
  match givenBank i with
  | some b => (.ok (onBank i b o), opening ++ o.passing [wiredRecord o b])
  | none =>
    match Bank.load s i.path Bank.standardLabels with
    | .ok (b, loaded) => (.ok (onBank i b o), opening ++ loaded ++ o.passing [wiredRecord o b])
    | .error (.bank e) => (.error (.bank e), opening ++ o.passing [refusalRecord o i.path e])
    | .error e => (.error e, opening)

end Application

end Phrasebook
