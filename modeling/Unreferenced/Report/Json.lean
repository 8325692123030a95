import Unreferenced.Report
import Unreferenced.Json.Value

/-! A report for programs to read: a JSON object with its members in the order of their names. -/

namespace Unreferenced.Report

def declarationValue (d : Declaration) : Json.Value :=
  .object [
    ("file", .string d.file),
    ("kind", .string d.kind.keyword),
    ("line", .integer d.line),
    ("modifiers", .array (d.modifiers.words.map .string)),
    ("name", .string d.name)]

/-- The members of the summary in the order of their names. -/
def summaryMembers (report : Report) : List (String × Json.Value) :=
  (report.summary.mergeSort fun a b => !decide (b.1 < a.1)).map fun (name, value) =>
    (name, .integer value)

def jsonValue (report : Report) : Json.Value :=
  .object [
    ("root", .string report.root),
    ("stale_rules", .array (report.staleRules.map .string)),
    ("summary", .object report.summaryMembers),
    ("unused", .array (report.unused.map declarationValue))]

/-- The text of a report, which ends in a line feed. -/
def renderJson (report : Report) : String := report.jsonValue.render ++ "\n"

end Unreferenced.Report
