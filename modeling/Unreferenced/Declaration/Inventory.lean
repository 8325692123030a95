import Unreferenced.Declaration.Line
import Unreferenced.Ignore.RuleSet

/-! The declarations of source files, less those that rules ignore, and which rules applied. -/

namespace Unreferenced

/-- Declarations in the order of the text, and the indices of the rules that applied. -/
structure Inventory where
  declarations : List Declaration
  applied : List Nat

namespace Inventory

def empty : Inventory := ⟨[], []⟩

/-- The inventories of two parts of a project together. -/
def append (a b : Inventory) : Inventory :=
  ⟨a.declarations ++ b.declarations, a.applied ++ b.applied⟩

/-- The declarations of a text, before any rule. A block comment leaves its line feeds, so that lines
keep their numbers. -/
def declarationsOf (path : String) (text : List Char) : List Declaration :=
  ((Source.blankBlockComments text).splitOn '\n').zipIdx.filterMap fun (line, index) =>
    Declaration.onLine? path (String.ofList line) (index + 1)

variable {ε : Type} [Ignore.Searchable ε]

/-- Adds a declaration unless a rule ignores it. -/
def consider (rules : Ignore.RuleSet ε) (d : Declaration) (rest : Logged Inventory) :
    Logged Inventory :=
  match rules.forName? d.file d.name with
  | some index =>
    ⟨⟨rest.value.declarations, index :: rest.value.applied⟩,
      .declarationIgnored d (rules.rawAt index) :: rest.events⟩
  | none =>
    ⟨⟨d :: rest.value.declarations, rest.value.applied⟩, .declarationFound d :: rest.events⟩

def ofFile (rules : Ignore.RuleSet ε) (file : TextFile) : Logged Inventory :=
  match rules.forFile? file.path with
  | some index => ⟨⟨[], [index]⟩, [.fileIgnored file.path (rules.rawAt index)]⟩
  | none =>
    match file.text with
    | none => ⟨empty, [.textMissing file.path]⟩
    | some text => (declarationsOf file.path text.toList).foldr (consider rules) ⟨empty, []⟩

def ofFiles (rules : Ignore.RuleSet ε) (files : List TextFile) : Logged Inventory :=
  files.foldr (fun file rest =>
    let here := ofFile rules file
    ⟨here.value.append rest.value, here.events ++ rest.events⟩) ⟨empty, []⟩

end Inventory

end Unreferenced
