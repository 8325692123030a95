import Unreferenced.Declaration

/-! The result of a run: the unused declarations of a project and the ignore rules that matched nothing,
with some numbers. -/

namespace Unreferenced

/-- The result of a run over the project under a root. -/
structure Report where
  root : String
  declarations : List Declaration
  unused : List Declaration
  staleRules : List String
  summary : List (String × Int)

/-- The exit status for a report: one if a declaration is unused or, when `strict`, if a rule is stale. -/
def Report.exitStatus (strict : Bool) (report : Report) : Nat :=
  if !report.unused.isEmpty then 1
  else if strict && !report.staleRules.isEmpty then 1
  else 0

end Unreferenced
