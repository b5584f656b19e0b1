import Phrasebook.Pattern.Token
import Phrasebook.Text.Letter

/-!
# Phrasebook.Pattern.Match

When tokens accept a phrase, and how that is decided.

`Accepts ts s` is the meaning: the phrase splits into one part for every token. `accepts` decides it
with a table instead of trying splits: the row of some tokens tells for every ending of the phrase
whether they accept it, and it is made from the row of the tokens behind the first in one pass. The
phrase is folded once, before any row.
`accepts_iff` ties the two together.
-/

namespace Phrasebook

namespace Pattern

/-- Tokens accept a phrase. -/
inductive Accepts : List Token → List Char → Prop where
  | nil : Accepts [] []
  | literal {c d : Char} {ts : List Token} {s : List Char} :
    Letter.Alike c d → Accepts ts s → Accepts (.literal c :: ts) (d :: s)
  | runEnds {ts : List Token} {s : List Char} : Accepts ts s → Accepts (.anyRun :: ts) s
  | runTakes {d : Char} {ts : List Token} {s : List Char} :
    Accepts (.anyRun :: ts) s → Accepts (.anyRun :: ts) (d :: s)

/-- The row of no tokens: only the empty ending is accepted. Rows are made for folded phrases. -/
def emptyRow : List Char → List Bool
  | [] => [true]
  | _ :: s => false :: emptyRow s

/-- The row of a literal with the given fold, from the row of the tokens behind it. -/
def literalRow (fold : Char) : List Char → List Bool → List Bool
  | d :: s, _ :: b :: bs => (fold == d && b) :: literalRow fold s (b :: bs)
  | _, _ => [false]

/-- The row of an `anyRun`, from the row of the tokens behind it. -/
def anyRunRow : List Bool → List Bool
  | [] => []
  | b :: bs =>
    match anyRunRow bs with
    | [] => [b]
    | r :: rs => (b || r) :: r :: rs

/-- For every ending of the folded phrase, the longest first: the tokens accept it. -/
def row (s : List Char) : List Token → List Bool
  | [] => emptyRow s
  | .literal c :: ts => literalRow (Letter.fold c) s (row s ts)
  | .anyRun :: ts => anyRunRow (row s ts)

/-- Decides whether tokens accept a phrase. -/
def accepts (ts : List Token) (s : List Char) : Bool :=
  (row (s.map Letter.fold) ts).headD false

theorem accepts_nil_iff (s : List Char) : Accepts [] s ↔ s = [] := by
  constructor
  · rintro ⟨⟩
    rfl
  · rintro rfl
    exact .nil

theorem not_accepts_literal_nil (c : Char) (ts : List Token) : ¬Accepts (.literal c :: ts) [] := by
  rintro ⟨⟩

theorem accepts_literal_cons_iff (c d : Char) (ts : List Token) (s : List Char) :
    Accepts (.literal c :: ts) (d :: s) ↔ Letter.Alike c d ∧ Accepts ts s := by
  constructor
  · rintro (_ | ⟨h1, h2⟩)
    exact ⟨h1, h2⟩
  · rintro ⟨h1, h2⟩
    exact .literal h1 h2

theorem accepts_anyRun_nil_iff (ts : List Token) : Accepts (.anyRun :: ts) [] ↔ Accepts ts [] := by
  constructor
  · intro h
    cases h with
    | runEnds h => exact h
  · exact .runEnds

theorem accepts_anyRun_cons_iff (d : Char) (ts : List Token) (s : List Char) :
    Accepts (.anyRun :: ts) (d :: s) ↔ Accepts ts (d :: s) ∨ Accepts (.anyRun :: ts) s := by
  constructor
  · intro h
    cases h with
    | runEnds h => exact .inl h
    | runTakes h => exact .inr h
  · rintro (h | h)
    · exact .runEnds h
    · exact .runTakes h

/-- A row belongs to a phrase if it holds the right answer for every ending. -/
inductive RowOf (ts : List Token) : List Char → List Bool → Prop where
  | nil {b : Bool} : (b = true ↔ Accepts ts []) → RowOf ts [] [b]
  | cons {b : Bool} {bs : List Bool} {d : Char} {s : List Char} :
    (b = true ↔ Accepts ts (d :: s)) → RowOf ts s bs → RowOf ts (d :: s) (b :: bs)

namespace RowOf

theorem head {ts : List Token} {s : List Char} {bs : List Bool} (h : RowOf ts s bs) :
    bs.headD false = true ↔ Accepts ts s := by
  cases h with
  | nil h => exact h
  | cons h _ => exact h

theorem ofEmpty (s : List Char) : RowOf [] s (emptyRow (s.map Letter.fold)) := by
  induction s with
  | nil => exact .nil (by simp [accepts_nil_iff])
  | cons d s ih => exact .cons (by simp [accepts_nil_iff]) ih

theorem ofLiteral (c : Char) {ts : List Token} {s : List Char} {bs : List Bool}
    (h : RowOf ts s bs) :
    RowOf (.literal c :: ts) s (literalRow (Letter.fold c) (s.map Letter.fold) bs) := by
  induction h with
  | nil _ => exact .nil (by simp [not_accepts_literal_nil])
  | @cons b bs d s hb h ih =>
    have hd := h.head
    match bs, h, ih with
    | b' :: bs, h, ih =>
      refine .cons ?_ ih
      rw [accepts_literal_cons_iff, Letter.alike_iff_fold, ← hd]
      simp

theorem ofAnyRun {ts : List Token} {s : List Char} {bs : List Bool} (h : RowOf ts s bs) :
    RowOf (.anyRun :: ts) s (anyRunRow bs) := by
  induction h with
  | nil hb => exact .nil (by rw [accepts_anyRun_nil_iff]; exact hb)
  | @cons b bs d s hb h ih =>
    have hd := ih.head
    generalize hr : anyRunRow bs = rs at ih hd
    match rs, ih with
    | r :: rs, ih =>
      have e : anyRunRow (b :: bs) = (b || r) :: r :: rs := by simp [anyRunRow, hr]
      rw [e]
      refine .cons ?_ ih
      rw [accepts_anyRun_cons_iff, ← hd, ← hb]
      simp

theorem ofTokens (s : List Char) (ts : List Token) :
    RowOf ts s (row (s.map Letter.fold) ts) := by
  induction ts with
  | nil => exact ofEmpty s
  | cons t ts ih =>
    cases t with
    | literal c => exact ofLiteral c ih
    | anyRun => exact ofAnyRun ih

end RowOf

theorem accepts_iff (ts : List Token) (s : List Char) : accepts ts s = true ↔ Accepts ts s :=
  (RowOf.ofTokens s ts).head

end Pattern

end Phrasebook
