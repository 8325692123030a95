import Unreferenced.Declaration.Inventory
import Unreferenced.Reference.Totals
import Unreferenced.Report
import Unreferenced.Project.Tree

/-! Analysing a project: from the files under its root and the ignore rules to the report. -/

namespace Unreferenced.Project

def sourceSuffixes : List String := [".swift"]

def interfaceSuffixes : List String := [".xib", ".nib", ".storyboard"]

/-- The name of the ignore file of a project, unless another one is given. -/
def ignoreFileName : String := ".unusedignore"

/-- Directories with foreign or generated files. -/
def excludedDirectories : List String :=
  [".git", ".build", ".swiftpm", "Pods", "Carthage", "DerivedData"]

def isExcluded (name : String) : Bool := excludedDirectories.contains name

def placeSuffix (place : Place) : String := ((place.getLast?).map suffix).getD ""

/-- The files below a directory that have one of the suffixes, in the order of their paths. -/
def collect (suffixes : List String) (tree : Tree) : List (Place × List UInt8) :=
  ((tree.filesBelow isExcluded).filter fun (place, _) => suffixes.contains (placeSuffix place)).mergeSort
    fun a b => !decide (Path.join b.1 < Path.join a.1)

/-- Reads a file. One that is not text has none. -/
def readFile (place : Place) (content : List UInt8) : Logged TextFile :=
  let path := Path.join place
  match Tree.decodeText content with
  | .ok text => ⟨⟨path, some text⟩, []⟩
  | .error fault => ⟨⟨path, none⟩, [.fileUnreadable path fault]⟩

def readFiles (files : List (Place × List UInt8)) : Logged (List TextFile) :=
  let read := files.map fun (place, content) => readFile place content
  ⟨read.map Logged.value, read.flatMap Logged.events⟩

/-- Reads the rules of an ignore file. One that is missing or cannot be read holds none. -/
def readRules (host : Regex.Host) (tree : Tree) (current : Place) (path : Path) :
    Logged (Except Regex.Limit Ignore.RuleSet) :=
  if tree.leadsTo current path then
    match tree.readText current path with
    | .ok text => Ignore.RuleSet.parse host text
    | .error fault => ⟨.ok .empty, [.ruleFileUnreadable path.text fault]⟩
  else ⟨.ok .empty, [.ruleFileMissing path.text]⟩

/-- The numbers of a report. -/
def summarize (sources interfaces declarations unused rules stale : Nat) : List (String × Int) :=
  [("source_files", sources), ("interface_files", interfaces), ("declarations", declarations),
    ("unused", unused), ("ignore_rules", rules), ("stale_rules", stale)]

/-- The report on files that have been read, by rules that have been read. -/
def report (root : String) (rules : Ignore.RuleSet) (sources interfaces : List TextFile) :
    Logged Report :=
  let inventory := Inventory.ofFiles rules sources
  let found := inventory.value.declarations
  let judged := Reference.unused found sources interfaces
  let unused := Declaration.sort judged.value
  let stale := rules.stale inventory.value.applied
  ⟨{ root := root
     declarations := Declaration.sort found
     unused := unused
     staleRules := stale.map (·.raw)
     summary := summarize sources.length interfaces.length found.length unused.length
       rules.rules.length stale.length },
    inventory.events ++ judged.events ++ stale.map fun rule => .ruleStale rule.raw⟩

/-- Analyses the project under a root, seen from the current place. The ignore file is the one given or
the one in the root. -/
def analyze (host : Regex.Host) (tree : Tree) (current : Place) (root : Path)
    (ignoreFile : Option Path) : Logged (Except Regex.Limit Report) :=
  let place := root.resolve current
  let rules := readRules host tree current (ignoreFile.getD ⟨1, place ++ [ignoreFileName]⟩)
  match rules.value with
  | .error reached => ⟨.error reached, rules.events⟩
  | .ok set =>
    let directory := (tree.at? place).getD .empty
    let sources := collect sourceSuffixes directory
    let interfaces := collect interfaceSuffixes directory
    let sourceFiles := readFiles sources
    let interfaceFiles := readFiles interfaces
    let result := report (Place.text place) set sourceFiles.value interfaceFiles.value
    ⟨.ok result.value,
      rules.events ++ [.filesFound sources.length interfaces.length (Place.text place)] ++
        sourceFiles.events ++ interfaceFiles.events ++ result.events⟩

end Unreferenced.Project
