import Unreferenced.Ignore.Pattern
import Unreferenced.Declaration

/-! Ignore rules. A rule is one line: a pattern for files and, after a colon and a space, maybe a
pattern for names. Without the second a rule ignores whole files, with it the declarations of that name
in those files. -/

namespace Unreferenced.Ignore

/-- Cuts off a comment. It starts at a number sign outside double quotes that comes first or after white
space. The arguments tell whether the text starts inside quotes, and whether a comment may start. -/
def dropComment : Bool → Bool → List Char → List Char
  | _, _, [] => []
  | quoted, spaced, c :: rest =>
    if c = '"' then c :: dropComment (!quoted) false rest
    else if c = '#' ∧ !quoted ∧ spaced then []
    else c :: dropComment quoted (Text.isSpace c) rest

def withoutComment (line : List Char) : List Char := dropComment false true line

/-- An ignore rule, with its line cleaned of comment and outer white space. -/
structure Rule (ε : Type := Regex.Expression) where
  raw : String
  file : Pattern ε
  name : Option (Pattern ε)

namespace Rule

/-- What separates the two patterns of a rule. -/
def separator : List Char := [':', ' ']

/-- Reads the pattern that a part of a rule writes. -/
def patternOf (host : Regex.Host) (part : List Char) : Except Failure Pattern :=
  Pattern.parse host (String.ofList (Text.trim part))

/-- Reads the rule on a line. A line without text, its comment aside, holds none. -/
def parse (host : Regex.Host) (line : String) : Except Failure (Option Rule) := do
  let cleaned := Text.trim (withoutComment line.toList)
  if cleaned.isEmpty then
    return none
  match Text.cutAt separator cleaned with
  | none => return some ⟨String.ofList cleaned, ← patternOf host cleaned, none⟩
  | some (file, name) =>
    let file ← patternOf host file
    let name ← patternOf host name
    return some ⟨String.ofList cleaned, file, some name⟩

variable {ε : Type}

/-- What tells rules apart: the texts of their patterns. -/
def key (rule : Rule ε) : String × Option String := (rule.file.source, rule.name.map Pattern.source)

def same (r s : Rule ε) : Bool := r.key == s.key

/-- Whether the rule is about declarations rather than whole files. -/
def filtersDeclarations (rule : Rule ε) : Bool := rule.name.isSome

variable [Searchable ε]

def matchesFile (rule : Rule ε) (path : String) : Bool := rule.file.accepts path

/-- Whether the rule's name pattern matches a name. A rule about whole files matches none. -/
def matchesName (rule : Rule ε) (name : String) : Bool :=
  match rule.name with
  | none => false
  | some pattern => pattern.accepts name

def ignoresFile (rule : Rule ε) (path : String) : Bool :=
  !rule.filtersDeclarations && rule.matchesFile path

def ignoresName (rule : Rule ε) (file name : String) : Bool :=
  rule.matchesName name && rule.matchesFile file

end Rule

end Unreferenced.Ignore
