import Unreferenced.Source.Comment
import Unreferenced.Source.Literal

/-! The code of a source text: what is left when comments and the text of literals are gone. The order
of the steps matters. Regular expression literals go first, for their bodies may hold any mark. Then
escaped quotes and backslashes go, so that they neither open nor close a string literal. -/

namespace Unreferenced.Source

/-- The marks of regular expression literals. -/
def regexLiteral : Delimiter := ⟨'#', '/'⟩

/-- The text without escaped backslashes and escaped quotes. -/
def withoutEscapes : List Char → List Char
  | [] => []
  | [c] => [c]
  | a :: b :: rest =>
    if a = '\\' ∧ (b = '\\' ∨ b = '"') then withoutEscapes rest
    else a :: withoutEscapes (b :: rest)

/-- The code of a source text. -/
def codeOf (text : List Char) : List Char :=
  withoutLineComments (withoutBlockComments (withoutLiterals (withoutEscapes
    (regexLiteral.dropSpans text))))

end Unreferenced.Source
