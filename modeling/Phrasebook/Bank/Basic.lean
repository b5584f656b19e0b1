import Phrasebook.Bank.Key
import Phrasebook.Pairs

/-!
# Phrasebook.Bank.Basic

A word bank: lists of phrases under keys, and labels for the categories.

A flat bank has one list for a category; in a tiered bank a category has a list in every tier that
holds it. Both answer the same look-up by category and tier: a flat bank ignores the tier, a tiered
one takes its default tier where none is given. `ofEntries` builds a bank from any entries; the
entries of a document are checked in `Bank.Document`.
-/

namespace Phrasebook

/-- Lists of phrases under keys, and labels for the categories. -/
structure Bank where
  entries : Pairs Key (List Value)
  isTiered : Bool
  labels : List String

namespace Bank

/-- The tier that is preferred where a bank holds it. -/
def preferredTier : Int := 3

/-- The labels of the categories, unless others are given. -/
def standardLabels : List String :=
  ["اشیاء", "عمومی", "فیلم و سریال", "مشاهیر", "اماکن و گردشگری", "ورزشی", "تکنولوژی و علمی",
   "خوراکی", "جانوران", "شغل", "کتاب", "تاریخ", "ضرب المثل", "انتزاعی", "شهر و کشور", "موسیقی",
   "کودکان", "کارتون", "سلبریتی", "فوتبال"]

/-- The elements of every value, up to the first value without any. -/
def elementLists : Pairs Key Value → Except Fault (Pairs Key (List Value))
  | [] => .ok []
  | (key, v) :: rest =>
    match v.elements with
    | .error e => .error e
    | .ok vs =>
      match elementLists rest with
      | .error e => .error e
      | .ok others => .ok ((key, vs) :: others)

/-- A bank of unchecked entries; an entry replaces an earlier one under the same key. -/
def ofEntries (entries : Pairs Key Value) (tiered : Bool) (labels : List String) :
    Except Fault Bank :=
  (elementLists (Pairs.merge [] entries)).map fun lists => ⟨lists, tiered, labels⟩

def size (b : Bank) : Nat := (b.entries.flatMap Prod.snd).length

def categoryCount (b : Bank) : Nat := b.labels.length

/-- Puts a number into an ascending list, unless it is there. -/
def insertAscending (n : Int) : List Int → List Int
  | [] => [n]
  | m :: ms =>
    if n < m then n :: m :: ms
    else if n = m then m :: ms
    else m :: insertAscending n ms

/-- The numbers of the tiers, ascending and each once. -/
def tierNumbers (b : Bank) : List Int :=
  if b.isTiered then
    (b.entries.filterMap fun e => e.1.head?.bind Key.tierNumber?).foldr insertAscending []
  else []

/-- The numbers of the tiers; a tiered bank with an empty key has no answer. -/
def tiers (b : Bank) : Except Fault (List Int) :=
  if b.isTiered && b.entries.any (fun e => e.1.isEmpty) then .error .emptyKey
  else .ok b.tierNumbers

/-- The tier to begin with, given the tiers there are. -/
def chooseTier (tiers : List Int) : Int :=
  if preferredTier ∈ tiers then preferredTier else tiers.headD preferredTier

/-- The tier that is taken where none is given; a flat bank has none. -/
def defaultTier (b : Bank) : Except Fault (Option Int) :=
  if b.isTiered then b.tiers.map fun ts => some (chooseTier ts) else .ok none

/-- The key of the tier that a look-up means. -/
def tierKey (b : Bank) (tier : Value) : Except Fault String :=
  match tier with
  | .null =>
    match b.tiers with
    | .error e => .error e
    | .ok ts => Key.ofTier (chooseTier ts)
  | v =>
    match v.toInteger with
    | .error e => .error e
    | .ok n => Key.ofTier n

/-- The key of the category that a look-up means. -/
def categoryKey (category : Value) : Except Fault String :=
  match category.toInteger with
  | .error e => .error e
  | .ok n => Key.ofCategory n

/-- The key that a look-up by category and tier asks for. -/
def key (b : Bank) (category tier : Value) : Except Fault Key :=
  if b.isTiered then
    match b.tierKey tier with
    | .error e => .error e
    | .ok t => (categoryKey category).map fun c => [t, c]
  else (categoryKey category).map fun c => [c]

def list? (b : Bank) (key : Key) : Option (List Value) := Pairs.at? b.entries key

/-- What a look-up finds: the key it asked for, and the list under it. -/
structure Lookup where
  key : Key
  list? : Option (List Value)

namespace Lookup

/-- The phrases found; none where the key is missing. -/
def phrases (l : Lookup) : List Value := l.list?.getD []

end Lookup

/-- Looks up a category and a tier. -/
def lookup (b : Bank) (category tier : Value) : Except Fault Lookup :=
  (b.key category tier).map fun key => ⟨key, b.list? key⟩

/-- The label of the category at a whole position, or its key. -/
def labelAt (b : Bank) (position : Int) : Except Fault String :=
  match if position < 0 then none else b.labels[position.toNat]? with
  | some label => .ok label
  | none => Key.ofCategory position

/-- The label of a category. A double is compared with the number of labels before it is refused as
a position. -/
def label (b : Bank) (category : Value) : Except Fault String :=
  match category with
  | .int n => b.labelAt n
  | .bool x => b.labelAt (if x then 1 else 0)
  | .float x =>
    if 0.0 ≤ x && !Double.intAtMost b.categoryCount x then .error (.notAnIndex category.kind)
    else categoryKey category
  | v => .error (.incomparable v.kind)

end Bank

end Phrasebook
