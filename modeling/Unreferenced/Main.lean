import Unreferenced.Command.Run

/-! The command on the files of the machine. The part of the file system that a run looks at is read into
a tree first, the run itself is a function of that tree, and then its output file is written. -/

namespace Unreferenced.Main

open Project

/-- Reads a directory and everything below it. Excluded directories stay empty, and a link to a directory
is not followed. An entry that leads nowhere is left out. -/
partial def readDirectory (path : String) : IO Tree := do
  let real ← IO.FS.realPath path
  let mut entries := #[]
  for entry in ← real.readDir do
    let below := path ++ "/" ++ entry.fileName
    let value ←
      try
        let target ← IO.FS.realPath below
        let own := target.toString == real.toString ++ "/" ++ entry.fileName
        if ← target.isDir then
          if own && !isExcluded entry.fileName then some <$> readDirectory below
          else pure (some Tree.empty)
        else some <$> Tree.file <$> ByteArray.toList <$> IO.FS.readBinFile below
      catch _ => pure none
    if let some tree := value then
      entries := entries.push (entry.fileName, tree)
  return .directory entries.toList

/-- Adds what stands at a place, if anything does and the tree lacks it. A directory is added without
entries. -/
def addPlace (tree : Tree) (place : Place) : IO Tree := do
  if (tree.at? place).isSome then return tree
  try
    let target ← IO.FS.realPath place.text
    if ← target.isDir then return tree.put place .empty
    return tree.put place (.file (← IO.FS.readBinFile place.text).toList)
  catch _ => return tree

/-- Adds everything on the way that a path leads along. -/
def addPath (tree : Tree) (current : Place) (path : Path) : IO Tree := do
  let mut tree := tree
  let mut place := Tree.startOf current path
  for component in path.components do
    place := Path.enter place component
    tree ← addPlace tree place
  return tree

/-- The tree that a run with settings looks at. -/
def survey (settings : Command.Settings) (current : Place) : IO Tree := do
  let root := (Path.parse settings.path).resolve current
  let mut tree ← addPath (Tree.empty.put current .empty) current ⟨1, root⟩
  if tree.isDirectoryAt root then
    tree := tree.put root (← readDirectory root.text)
  for path in settings.ignoreFile.toList ++ settings.output.toList do
    tree ← addPath tree current (.parse path)
  return tree

/-- The output file of a run, as a tree has it. -/
def outputIn (settings : Command.Settings) (current : Place) (tree : Tree) :
    Option (Place × List UInt8) := do
  let path ← settings.output.map Path.parse
  let place ← (tree.locate current path).toOption
  match tree.at? place with
  | some (.file content) => some (place, content)
  | _ => none

/-- Writes the output file of a run to the machine, if the run has changed it. -/
def writeOutput (settings : Command.Settings) (current : Place) (before after : Tree) :
    IO Unit := do
  if let some (place, content) := outputIn settings current after then
    if outputIn settings current before != some (place, content) then
      IO.FS.writeBinFile place.text (ByteArray.mk content.toArray)

def start (arguments : List String) : IO UInt32 := do
  let current := (Path.parse (← IO.FS.realPath ".").toString).components
  let tree ← match Command.readArguments arguments with
    | .ok (.run settings) => survey settings current
    | _ => pure Tree.empty
  let outcome := Command.run .standard arguments tree current
  IO.eprint outcome.errors
  if let .ok (.run settings) := Command.readArguments arguments then
    writeOutput settings current tree outcome.tree
  match outcome.ending with
  | .abort reason =>
    IO.eprintln reason.message
    return 1
  | .exit status =>
    IO.print outcome.output
    return status.toUInt32

end Unreferenced.Main

/-- The command line of the program. -/
def main (arguments : List String) : IO UInt32 := Unreferenced.Main.start arguments
