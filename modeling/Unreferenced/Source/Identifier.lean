import Unreferenced.Text.Lines
import Std.Data.HashMap

/-! The identifiers of a text, which are its maximal runs of word characters, and how often each
occurs. -/

namespace Unreferenced.Source

/-- The identifiers of a text, in order. -/
def identifiers (text : List Char) : List String := (Text.runs Text.isWord text).map String.ofList

/-- How often each identifier occurs. -/
abbrev Tally := Std.HashMap String Nat

namespace Tally

def ofList (words : List String) : Tally :=
  words.foldl (fun tally word => tally.insert word (tally.getD word 0 + 1)) ∅

def ofText (text : List Char) : Tally := ofList (identifiers text)

def count (tally : Tally) (word : String) : Nat := tally.getD word 0

/-- The counted words with their counts, in the order of the words. -/
def sorted (tally : Tally) : List (String × Nat) :=
  tally.toList.mergeSort fun a b => !decide (b.1 < a.1)

end Tally

end Unreferenced.Source
