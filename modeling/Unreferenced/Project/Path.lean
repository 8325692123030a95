/-! Paths. A path is read from text by its components, and written back without empty ones and without
single dots. A place is a path from the root of all files with nothing left to resolve. -/

namespace Unreferenced.Project

/-- A path: how many slashes it starts with (two count as such, more as one), and its components. -/
structure Path where
  slashes : Nat
  components : List String
  deriving DecidableEq, Repr

/-- Components from the root of all files, none of them a dot or two. -/
abbrev Place := List String

namespace Path

/-- The number of slashes that count in front of a path. -/
def leadingSlashes : List Char → Nat
  | '/' :: '/' :: '/' :: _ => 1
  | '/' :: '/' :: _ => 2
  | '/' :: _ => 1
  | _ => 0

def parse (text : String) : Path :=
  ⟨leadingSlashes text.toList,
    ((text.toList.splitOn '/').map String.ofList).filter fun part => part != "" && part != "."⟩

/-- Components with slashes between them. -/
def join (components : List String) : String := "/".intercalate components

/-- The text of a path. The empty path is a dot. -/
def text (path : Path) : String :=
  if path.slashes = 0 ∧ path.components.isEmpty then "."
  else String.ofList (List.replicate path.slashes '/') ++ join path.components

/-- Whether a null character is in a path, which the system takes for no path at all. -/
def hasNull (path : Path) : Bool := path.components.any (·.toList.contains '\x00')

/-- One step of resolving: two dots go back to the parent, of which the root is its own. -/
def enter (place : Place) (component : String) : Place :=
  if component = ".." then place.dropLast else place ++ [component]

/-- The place of a path, seen from the current place. -/
def resolve (current : Place) (path : Path) : Place :=
  path.components.foldl enter (if path.slashes = 0 then current else [])

end Path

namespace Place

def text (place : Place) : String := "/" ++ Path.join place

end Place

/-- The part of a file name from its last dot on, unless the dot comes first or last. -/
def suffix (name : String) : String :=
  let reversed := name.toList.reverse
  let ending := reversed.takeWhile (· != '.')
  let before := (reversed.dropWhile (· != '.')).drop 1
  if ending.isEmpty || before.isEmpty then "" else String.ofList ('.' :: ending.reverse)

end Unreferenced.Project
