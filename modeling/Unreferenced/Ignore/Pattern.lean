import Unreferenced.Regex.Match
import Unreferenced.Text.Lines

/-! Patterns of ignore rules. A pattern in double quotes is plain text, any other is a regular
expression. Both match anywhere in their subject. Nothing here but the reading of a pattern depends on
what a regular expression is compiled to, so patterns, rules and rule sets take the type of compiled
expressions as a parameter. -/

namespace Unreferenced.Ignore

/-- Compiled expressions that can be looked for in a subject. -/
class Searchable (ε : Type) where
  foundIn : ε → String → Bool

instance : Searchable Regex.Expression := ⟨Regex.Expression.matches⟩

/-- Patterns. A regular expression keeps the text that it was read from. -/
inductive Pattern (ε : Type := Regex.Expression) where
  | literal (text : String)
  | regex (source : String) (compiled : ε)

/-- A pattern that is no regular expression, and why. -/
structure PatternFault where
  pattern : String
  fault : Regex.Fault
  deriving DecidableEq, Repr

def PatternFault.message (fault : PatternFault) : String :=
  "Invalid pattern " ++ Text.quoted fault.pattern ++ ": " ++ fault.fault.message fault.pattern

/-- Why a rule cannot be read: a fault of it alone, or a limit that ends the reading of all rules. -/
inductive Failure where
  | pattern (fault : PatternFault)
  | limit (reached : Regex.Limit)
  deriving DecidableEq, Repr

def Failure.message : Failure → String
  | .pattern fault => fault.message
  | .limit reached => reached.message

namespace Pattern

/-- The text between double quotes, if the text stands between such. -/
def unquote? (text : List Char) : Option (List Char) :=
  match text with
  | '"' :: rest => if rest.getLast? == some '"' then some rest.dropLast else none
  | _ => none

def parse (host : Regex.Host) (raw : String) : Except Failure Pattern :=
  match unquote? raw.toList with
  | some text => .ok (.literal (String.ofList text))
  | none =>
    match Regex.parse host raw with
    | .ok compiled => .ok (.regex raw compiled)
    | .error (.fault fault) => .error (.pattern ⟨raw, fault⟩)
    | .error (.limit reached) => .error (.limit reached)

def source {ε : Type} : Pattern ε → String
  | literal text => "\"" ++ text ++ "\""
  | regex source _ => source

/-- Whether the pattern matches anywhere in a subject. -/
def accepts {ε : Type} [Searchable ε] (pattern : Pattern ε) (subject : String) : Bool :=
  match pattern with
  | literal text => Text.occursIn text.toList subject.toList
  | regex _ compiled => Searchable.foundIn compiled subject

end Pattern

end Unreferenced.Ignore
