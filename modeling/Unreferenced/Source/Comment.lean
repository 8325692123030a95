import Unreferenced.Source.Span

/-! Comments of source text. A block comment ends at the first closing mark, so block comments do not
nest. A line comment ends before its line feed. -/

namespace Unreferenced.Source

def blockComment : Delimiter := ⟨'/', '*'⟩

def withoutBlockComments (text : List Char) : List Char := blockComment.dropSpans text

/-- The text with every block comment replaced by the line feeds in it, so that what follows keeps its
line number. -/
def blankBlockComments (text : List Char) : List Char :=
  blockComment.replaceSpans (fun inside => List.replicate (inside.count '\n') '\n') text

/-- Drops line comments from a text that starts inside one or outside. -/
def dropLineComments : Bool → List Char → List Char
  | _, [] => []
  | true, c :: rest => if c = '\n' then c :: dropLineComments false rest else dropLineComments true rest
  | false, '/' :: '/' :: rest => dropLineComments true rest
  | false, c :: rest => c :: dropLineComments false rest

def withoutLineComments (text : List Char) : List Char := dropLineComments false text

end Unreferenced.Source
