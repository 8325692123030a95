import Unreferenced.Report.Plain
import Unreferenced.Report.Json
import Unreferenced.Text.Quoted

/-! The formats that a report can be written in. -/

namespace Unreferenced

inductive Format where
  | json
  | text
  deriving DecidableEq, Repr

namespace Format

def all : List Format := [json, text]

def name : Format → String
  | json => "json"
  | text => "text"

def ofName? (chosen : String) : Option Format := all.find? (·.name == chosen)

def render : Format → Report → String
  | json => Report.renderJson
  | text => Report.renderPlain

end Format

/-- A format was asked for by a name that none has. -/
structure UnknownFormat where
  name : String
  deriving DecidableEq, Repr

def UnknownFormat.message (unknown : UnknownFormat) : String := Text.quoted unknown.name

def Report.write (report : Report) (format : String) : Except UnknownFormat String :=
  match Format.ofName? format with
  | some chosen => .ok (chosen.render report)
  | none => .error ⟨format⟩

end Unreferenced
