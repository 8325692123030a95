import Unreferenced.Reference.Interface
import Unreferenced.Source.Code
import Unreferenced.Source.Identifier
import Unreferenced.Log

/-! How often declarations are referred to in all files of a project, and which of them nothing refers
to. A declaration stands in the text that is searched, so one occurrence of its name is taken to be its
own. -/

namespace Unreferenced.Reference

/-- The number of references to each declaration, by identity. A declaration that is listed twice is
counted twice. -/
structure Totals where
  counts : Std.HashMap Declaration.Identity Nat

namespace Totals

def start (declarations : List Declaration) : Totals :=
  ⟨declarations.foldl (fun counts d => counts.insert d.identity 0) ∅⟩

def add (totals : Totals) (d : Declaration) (count : Nat) : Totals :=
  ⟨totals.counts.insert d.identity (totals.counts.getD d.identity 0 + count)⟩

/-- Adds the references of one file to every declaration of a list. -/
def addAll (totals : Totals) (declarations : List Declaration) (references : Declaration → Nat) :
    Totals :=
  declarations.foldl (fun totals d => totals.add d (references d)) totals

def count (totals : Totals) (d : Declaration) : Nat := totals.counts.getD d.identity 0

def size (totals : Totals) : Nat := totals.counts.size

end Totals

/-- How often a declaration is referred to in a source file with the given path and identifiers. A
restricted declaration can be referred to in its own file only. -/
def inSource (path : String) (tally : Source.Tally) (d : Declaration) : Nat :=
  if d.modifiers.isRestricted && d.file != path then 0 else tally.count d.name

def Totals.addSource (declarations : List Declaration) (totals : Totals) (file : TextFile) :
    Totals :=
  match file.text with
  | none => totals
  | some text =>
    let tally := Source.Tally.ofText (Source.codeOf text.toList)
    totals.addAll declarations (inSource file.path tally)

def Totals.addInterface (declarations : List Declaration) (totals : Totals) (file : TextFile) :
    Totals :=
  match file.text with
  | none => totals
  | some text => totals.addAll declarations (Mentions.ofText text.toList).count

def Totals.ofFiles (declarations : List Declaration) (sources interfaces : List TextFile) :
    Totals :=
  interfaces.foldl (Totals.addInterface declarations)
    (sources.foldl (Totals.addSource declarations) (Totals.start declarations))

/-- The greatest number of references that leaves a declaration unused: its own. -/
def unusedLimit : Nat := 1

/-- Whether a declaration with so many references is unused. An overriding one never is. -/
def isUnused (d : Declaration) (count : Nat) : Bool :=
  count ≤ unusedLimit && !d.modifiers.isOverride

def Totals.unused (totals : Totals) (declarations : List Declaration) : List Declaration :=
  declarations.filter fun d => isUnused d (totals.count d)

/-- What counting logs: each file that has no text, and each count in the order of declarations. -/
def Totals.events (totals : Totals) (declarations : List Declaration)
    (sources interfaces : List TextFile) : List Event :=
  ((sources ++ interfaces).filter (·.text.isNone)).map (Event.fileNotCounted ·.path) ++
    (Declaration.sort (Declaration.distinct declarations)).map fun d =>
      .counted d (totals.count d)

def unused (declarations : List Declaration) (sources interfaces : List TextFile) :
    Logged (List Declaration) :=
  let totals := Totals.ofFiles declarations sources interfaces
  ⟨totals.unused declarations, totals.events declarations sources interfaces⟩

end Unreferenced.Reference
