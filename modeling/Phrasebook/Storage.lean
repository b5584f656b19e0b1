import Phrasebook.Text.Quoted

/-!
# Phrasebook.Storage

Files as the loader sees them: a path yields bytes or a trouble.

`Path.normal` is the form in which a path is shown and opened: empty and single-dot components
vanish, two dots stay, exactly two leading slashes stay two. `Tree` is a store held in memory;
`Tree.read` walks it component by component, as a file system does.
-/

namespace Phrasebook

namespace Path

/-- The slashes a path begins with: none, one, or exactly two. -/
def root (s : List Char) : List Char :=
  match (s.takeWhile (· = '/')).length with
  | 0 => []
  | 2 => ['/', '/']
  | _ => ['/']

def split : List Char → List (List Char)
  | [] => [[]]
  | c :: s =>
    if c = '/' then [] :: split s
    else match split s with
      | [] => [[c]]
      | part :: parts => (c :: part) :: parts

/-- The components that say something. -/
def components (s : List Char) : List (List Char) :=
  (split s).filter fun part => part ≠ [] && part ≠ ['.']

def normal (s : String) : String :=
  let cs := s.toList
  let parts := components cs
  if root cs = [] && parts.isEmpty then "."
  else String.ofList (root cs ++ List.intercalate ['/'] parts)

end Path

namespace Storage

/-- Why a path cannot be read. -/
inductive Trouble where
  | missing
  | isDirectory
  | notDirectory
  | nameTooLong
  | forbidden
  /-- Any other trouble, by its number and its words. -/
  | other (number : Nat) (words : String)
  deriving DecidableEq, Repr

namespace Trouble

/-- The number the system gives a trouble. -/
def number : Trouble → Nat
  | missing => 2
  | forbidden => 13
  | notDirectory => 20
  | isDirectory => 21
  | nameTooLong => 36
  | other number _ => number

def words : Trouble → String
  | missing => "No such file or directory"
  | forbidden => "Permission denied"
  | notDirectory => "Not a directory"
  | isDirectory => "Is a directory"
  | nameTooLong => "File name too long"
  | other _ words => words

/-- A trouble with the path it arose at. -/
def message (t : Trouble) (path : String) : String :=
  s!"[Errno {t.number}] {t.words}: {Quoted.write path}"

end Trouble

/-- Yields the bytes under a path. -/
abbrev Reader := String → Except Trouble (List UInt8)

/-- What stands at a place of a store. -/
inductive Node where
  | file (bytes : List UInt8)
  | directory

/-- A store in memory: its nodes by their components, and the directory that relative paths start
from. -/
structure Tree where
  nodes : List (List (List Char) × Node)
  home : List (List Char)

namespace Tree

/-- The longest name a component may have, in bytes. -/
def maxName : Nat := 255

/-- The longest path, in bytes. -/
def maxPath : Nat := 4095

/-- The node at a place; every place on the way to a node is a directory. -/
def node? (t : Tree) (place : List (List Char)) : Option Node :=
  match t.nodes.lookup place with
  | some n => some n
  | none => if place = [] || t.nodes.any (fun n => place.isPrefixOf n.1) then some .directory else none

/-- Follows components from a place. -/
def walk (t : Tree) (place : List (List Char)) : List (List Char) → Except Trouble (List UInt8)
  | [] =>
    match t.node? place with
    | some (.file bytes) => .ok bytes
    | some .directory => .error .isDirectory
    | none => .error .missing
  | part :: parts =>
    match t.node? place with
    | some .directory =>
      if part = ['.', '.'] then walk t place.dropLast parts
      else if maxName < (String.ofList part).utf8ByteSize then .error .nameTooLong
      else walk t (place ++ [part]) parts
    | some (.file _) => .error .notDirectory
    | none => .error .missing

def read (t : Tree) : Reader := fun path =>
  let cs := path.toList
  if maxPath < path.utf8ByteSize then .error .nameTooLong
  else t.walk (if (Path.root cs).isEmpty then t.home else []) (Path.components cs)

end Tree

end Storage

end Phrasebook
