import Unreferenced.Report

/-! A report for people to read. -/

namespace Unreferenced.Report

def plainLine (d : Declaration) : String :=
  d.file ++ ":" ++ toString d.line ++ ": " ++ d.kind.keyword ++ " " ++ d.name

/-- What a reader can do about a declaration that is in use after all. -/
def hint : String :=
  "If this is a false positive, add a line like \"path/to/File.swift\": \"name\" to your ignore file."

def plainLines (report : Report) : List String :=
  (if report.unused.isEmpty then ["No unused declarations found."]
    else
      ["Found " ++ toString report.unused.length ++ " unused declaration(s):"] ++
        report.unused.map plainLine ++ ["", hint]) ++
  (if report.staleRules.isEmpty then []
    else "" :: report.staleRules.map ("warning: ignore rule matched nothing: " ++ ·))

/-- The text of a report. Every line ends in a line feed. -/
def renderPlain (report : Report) : String :=
  String.join (report.plainLines.map (· ++ "\n"))

end Unreferenced.Report
