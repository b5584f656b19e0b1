import Phrasebook.Session.Finder

/-!
# Phrasebook.Markdown

Results as a markdown list, one phrase after another behind a dash.

A phrase goes through two escapes, one inside the other: the three characters with a meaning in
markup become entities, then every character with a meaning in markdown gets a backslash. `unescape`
undoes both.
-/

namespace Phrasebook

namespace Markdown

/-- What is shown where nothing was found. -/
def emptyText : String := "_هیچ عبارتی پیدا نشد._"

/-- The entity of a character with a meaning in markup. -/
def entity (c : Char) : List Char :=
  match c with
  | '&' => "&amp;".toList
  | '<' => "&lt;".toList
  | '>' => "&gt;".toList
  | c => [c]

/-- The characters with a meaning in markdown; the fourth is the back quote. -/
def special : List Char := ['\\', '*', '_', '\x60', '[', ']', '#', '|', '~']

/-- A character behind a backslash if it has a meaning in markdown. -/
def guardChar (c : Char) : List Char := if c ∈ special then ['\\', c] else [c]

def withEntities (s : List Char) : List Char := s.flatMap entity

def withBackslashes (s : List Char) : List Char := s.flatMap guardChar

/-- A phrase, escaped. -/
def escape (s : List Char) : List Char := withBackslashes (withEntities s)

/-- Takes each backslash away from the character behind it. -/
def dropBackslashes : List Char → List Char
  | [] => []
  | '\\' :: c :: s => c :: dropBackslashes s
  | c :: s => c :: dropBackslashes s

/-- Reads the three entities. -/
def readEntities : List Char → List Char
  | [] => []
  | '&' :: 'a' :: 'm' :: 'p' :: ';' :: s => '&' :: readEntities s
  | '&' :: 'l' :: 't' :: ';' :: s => '<' :: readEntities s
  | '&' :: 'g' :: 't' :: ';' :: s => '>' :: readEntities s
  | c :: s => c :: readEntities s

def unescape (s : List Char) : List Char := readEntities (dropBackslashes s)

def line (phrase : String) : String := "- " ++ String.ofList (escape phrase.toList)

/-- The lines of phrases, up to the first value that is no text. -/
def lines : List Value → Except Fault (List String)
  | [] => .ok []
  | .text s :: vs => (lines vs).map (line s :: ·)
  | v :: _ => .error (.lacks v.kind "replace")

/-- The number of phrases, as text. -/
def count (f : Found) : String := Numeral.write f.count

/-- The phrases as a list, or the text for none. -/
def results (f : Found) : Except Fault String :=
  if f.phrases.isEmpty then .ok emptyText else (lines f.phrases).map ("\n".intercalate ·)

end Markdown

end Phrasebook
