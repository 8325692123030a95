import Unreferenced.Ignore.Rule
import Unreferenced.Project.Fault

/-! The log of a run. What happens is an event; its level, its source and its text are decided here
alone. Computations that log return their events beside their value. -/

namespace Unreferenced

/-- How serious an event is. -/
inductive Level where
  | debug
  | info
  | warning
  | error
  deriving DecidableEq, Repr

namespace Level

def all : List Level := [debug, info, warning, error]

def rank : Level → Nat
  | debug => 0
  | info => 1
  | warning => 2
  | error => 3

/-- The name by which a level is chosen. -/
def name : Level → String
  | debug => "debug"
  | info => "info"
  | warning => "warning"
  | error => "error"

/-- The name of a level in the log. -/
def label : Level → String
  | debug => "DEBUG"
  | info => "INFO"
  | warning => "WARNING"
  | error => "ERROR"

def ofName? (text : String) : Option Level := all.find? (·.name == text)

end Level

/-- What happens in a run. -/
inductive Event where
  | ruleLoaded (raw : String)
  | ruleRefused (line : Nat) (text : String) (fault : Ignore.PatternFault)
  | fileIgnored (path rule : String)
  | textMissing (path : String)
  | declarationIgnored (declaration : Declaration) (rule : String)
  | declarationFound (declaration : Declaration)
  | fileNotCounted (path : String)
  | counted (declaration : Declaration) (count : Nat)
  | ruleFileMissing (path : String)
  | ruleFileUnreadable (path : String) (fault : Project.FileFault)
  | filesFound (sources interfaces : Nat) (root : String)
  | fileUnreadable (path : String) (fault : Project.FileFault)
  | ruleStale (raw : String)
  deriving Repr

namespace Event

def level : Event → Level
  | ruleRefused _ _ _ | textMissing _ | fileNotCounted _ | ruleFileUnreadable _ _
  | fileUnreadable _ _ => .warning
  | _ => .debug

/-- The part of the program that an event comes from. -/
def source : Event → String
  | ruleLoaded _ | ruleRefused _ _ _ => "unusedcode.ignore_rules"
  | fileIgnored _ _ | textMissing _ | declarationIgnored _ _ | declarationFound _ =>
    "unusedcode.extractor"
  | fileNotCounted _ | counted _ _ => "unusedcode.usage"
  | ruleFileMissing _ | ruleFileUnreadable _ _ | filesFound _ _ _ | fileUnreadable _ _
  | ruleStale _ => "unusedcode.analyzer"

def message : Event → String
  | ruleLoaded raw => "Loaded ignore rule: " ++ raw
  | ruleRefused line text fault =>
    "Skipping ignore rule on line " ++ toString line ++ " (" ++ Text.quoted text ++ "): " ++
      fault.message
  | fileIgnored path rule => "Skipping " ++ path ++ " due to ignore rule: " ++ rule
  | textMissing path => "No content for " ++ path ++ ", no declarations extracted"
  | declarationIgnored d rule =>
    "Skipping " ++ d.kind.keyword ++ " " ++ d.name ++ " in " ++ d.file ++
      " due to ignore rule: " ++ rule
  | declarationFound d =>
    "Found " ++ d.kind.keyword ++ " " ++ d.name ++ " at " ++ d.file ++ ":" ++ toString d.line
  | fileNotCounted path => "Failed to read " ++ path ++ ", skipping"
  | counted d count =>
    d.file ++ ":" ++ toString d.line ++ ": " ++ d.kind.keyword ++ " " ++ d.name ++ " used " ++
      toString count ++ " time(s)"
  | ruleFileMissing path => "No ignore file at " ++ path
  | ruleFileUnreadable path fault => "Failed to read ignore file " ++ path ++ ": " ++ fault.message
  | filesFound sources interfaces root =>
    "Found " ++ toString sources ++ " source and " ++ toString interfaces ++
      " interface files under " ++ root
  | fileUnreadable path fault => "Failed to read " ++ path ++ ": " ++ fault.message
  | ruleStale raw => "Ignore rule matched nothing: " ++ raw

/-- The line of the log for an event. -/
def render (event : Event) : String :=
  event.level.label ++ " " ++ event.source ++ ": " ++ event.message

end Event

/-- The lines of the log for the events from a level on. -/
def renderLog (least : Level) (events : List Event) : List String :=
  (events.filter fun event => least.rank ≤ event.level.rank).map Event.render

/-- A value with the events on the way to it. -/
structure Logged (α : Type) where
  value : α
  events : List Event

end Unreferenced
