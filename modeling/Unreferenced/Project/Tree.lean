import Unreferenced.Project.Path
import Unreferenced.Project.Fault

/-! Directory trees in memory: files with their bytes and directories with their entries. A name is text,
in which characters that no codec writes stand for bytes of the name that are no text. Looking a path up
goes through every directory it names, so a path through a file or a missing directory leads nowhere. -/

namespace Unreferenced.Project

inductive Tree where
  | file (content : List UInt8)
  | directory (entries : List (String × Tree))

namespace Tree

def empty : Tree := directory []

def at? : Tree → Place → Option Tree
  | tree, [] => some tree
  | file _, _ :: _ => none
  | directory entries, name :: rest =>
    match entries.lookup name with
    | some entry => entry.at? rest
    | none => none

def isDirectoryAt (tree : Tree) (place : Place) : Bool :=
  match tree.at? place with
  | some (directory _) => true
  | _ => false

/-- Entries with one of them set, at its old position or at the end. -/
def setEntry (name : String) (value : Tree) : List (String × Tree) → List (String × Tree)
  | [] => [(name, value)]
  | (other, entry) :: rest =>
    if other = name then (other, value) :: rest else (other, entry) :: setEntry name value rest

/-- The tree with something put at a place. Missing directories on the way are made. -/
def put : Tree → Place → Tree → Tree
  | _, [], value => value
  | file _, name :: rest, value => directory [(name, empty.put rest value)]
  | directory entries, name :: rest, value =>
    directory (setEntry name (((entries.lookup name).getD empty).put rest value) entries)

/-- Goes along components from a place. Every step needs a directory to start from, and all but two dots
need an entry. `path` is the text of the whole path. -/
def follow (tree : Tree) (path : String) : Place → List String → Except FileFault Place
  | here, [] => .ok here
  | here, component :: rest =>
    if tree.isDirectoryAt here then
      if component = ".." then tree.follow path here.dropLast rest
      else if (tree.at? (here ++ [component])).isSome then
        tree.follow path (here ++ [component]) rest
      else .error (.missing path)
    else .error (.notDirectory path)

def startOf (current : Place) (path : Path) : Place := if path.slashes = 0 then current else []

/-- The place that a path leads to, seen from the current place. -/
def locate (tree : Tree) (current : Place) (path : Path) : Except FileFault Place :=
  tree.follow path.text (startOf current path) path.components

def leadsTo (tree : Tree) (current : Place) (path : Path) : Bool :=
  match tree.locate current path with
  | .ok _ => true
  | .error _ => false

/-- The text of bytes: UTF-8, and every line ends in a line feed. -/
def decodeText (content : List UInt8) : Except FileFault String :=
  match Text.Utf8.decode content with
  | .ok chars => .ok (String.ofList (Text.unifyNewlines chars))
  | .error fault => .error (.notUtf8 fault)

def readText (tree : Tree) (current : Place) (path : Path) : Except FileFault String :=
  match tree.locate current path with
  | .error fault => .error fault
  | .ok place =>
    match tree.at? place with
    | some (file content) => decodeText content
    | some (directory _) => .error (.isDirectory path.text)
    | none => .error (.missing path.text)

/-- The place of the file that a path opens for writing, which is made if only it is missing. -/
def opened (tree : Tree) (current : Place) (path : Path) : Except FileFault Place :=
  if path.hasNull then .error .nullByte
  else match path.components.getLast? with
  | none => .error (.isDirectory path.text)
  | some name =>
    match tree.follow path.text (startOf current path) path.components.dropLast with
    | .error fault => .error fault
    | .ok parent =>
      if !tree.isDirectoryAt parent then .error (.notDirectory path.text)
      else if name = ".." ∨ tree.isDirectoryAt (parent ++ [name]) then
        .error (.isDirectory path.text)
      else .ok (parent ++ [name])

/-- The tree with a text written to the file that a path opens. Opening the file empties it, and only then
does the text become bytes, so with the fault of a text that has none comes the tree with an empty file. -/
def writeText (tree : Tree) (codec : Text.Codec) (current : Place) (path : Path) (text : String) :
    Except (FileFault × Tree) Tree :=
  match tree.opened current path with
  | .error fault => .error (fault, tree)
  | .ok place =>
    match codec text with
    | .ok content => .ok (tree.put place (file content))
    | .error refusal => .error (.notEncodable refusal, tree.put place (file []))

mutual

/-- The files below a directory, with their places from there. Excluded directories are left out at any
depth. -/
def filesBelow (excluded : String → Bool) : Tree → List (Place × List UInt8)
  | file _ => []
  | directory entries => filesOf excluded entries

def filesOf (excluded : String → Bool) : List (String × Tree) → List (Place × List UInt8)
  | [] => []
  | (name, file content) :: rest => ([name], content) :: filesOf excluded rest
  | (name, directory entries) :: rest =>
    (if excluded name then []
      else (filesOf excluded entries).map fun (place, content) => (name :: place, content)) ++
      filesOf excluded rest

end

end Tree

end Unreferenced.Project
