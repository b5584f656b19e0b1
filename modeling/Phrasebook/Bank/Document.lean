import Phrasebook.Bank.Basic
import Phrasebook.Text.Digit

/-!
# Phrasebook.Bank.Document

Word banks from documents.

A document is an object. If no member holds an object, the document is flat and each member is a
category with its phrases; otherwise every member is a tier that holds categories. `listings` reads
the lists in the order of the document and stops at the first place that is wrong; phrases are
brought into Western digits on the way. `Bank.ofDocument` puts the listings into a bank, where a
listing replaces an earlier one under the same key.
-/

namespace Phrasebook

namespace Value

def isObject : Value → Bool
  | object _ => true
  | _ => false

/-- The texts of values, if all are texts. -/
def texts? : List Value → Option (List String)
  | [] => some []
  | text s :: vs => (texts? vs).map (s :: ·)
  | _ :: _ => none

end Value

namespace Document

/-- A list of phrases and the key it belongs under. -/
abbrev Listing := Key × List String

/-- An array of texts, in Western digits. -/
def phrases (location : String) : Value → Except BankError (List String)
  | .array vs =>
    match Value.texts? vs with
    | some ss => .ok (ss.map Digits.western)
    | none => .error (.badList location)
  | _ => .error (.badList location)

/-- The listings of categories; `location` says where a category stands in the document. -/
def categories (place : String → Key) (location : String → String) :
    Members Value → Except BankError (List Listing)
  | [] => .ok []
  | (category, v) :: rest =>
    match phrases (location category) v with
    | .error e => .error e
    | .ok ss =>
      match categories place location rest with
      | .error e => .error e
      | .ok others => .ok ((place category, ss) :: others)

def tier (key : String) (v : Value) : Except BankError (List Listing) :=
  match Key.tierNumber? key, v with
  | some n, .object ms =>
    categories (fun category => [Key.tier n, category]) (fun category => key ++ "/" ++ category) ms
  | _, _ => .error (.badTier key)

def tiers : Members Value → Except BankError (List Listing)
  | [] => .ok []
  | (key, v) :: rest =>
    match tier key v with
    | .error e => .error e
    | .ok first =>
      match tiers rest with
      | .error e => .error e
      | .ok others => .ok (first ++ others)

/-- Some member holds an object. -/
def isTiered (ms : Members Value) : Bool := ms.any fun m => m.2.isObject

def listings (ms : Members Value) : Except BankError (List Listing) :=
  if isTiered ms then tiers ms else categories (fun category => [category]) id ms

end Document

namespace Bank

def ofListings (ls : List Document.Listing) (tiered : Bool) (labels : List String) : Bank :=
  ⟨Pairs.merge [] (ls.map fun l => (l.1, l.2.map Value.text)), tiered, labels⟩

/-- The bank of a document. -/
def ofDocument (document : Value) (labels : List String) : Except BankError Bank :=
  match document with
  | .object ms =>
    match Document.listings ms with
    | .error e => .error e
    | .ok ls => .ok (ofListings ls (Document.isTiered ms) labels)
  | _ => .error .notAnObject

end Bank

end Phrasebook
