import Unreferenced.Text.Lines

/-! Delimited spans of a text, such as block comments. A span opens with two characters and closes with
the same two in reverse order. It ends at the first closing mark after its opening mark, and an opening
mark that nothing closes is ordinary text. -/

namespace Unreferenced.Source

/-- The marks of a kind of span: it opens with `outer` and then `inner`, and closes with `inner` and
then `outer`. -/
structure Delimiter where
  outer : Char
  inner : Char
  deriving DecidableEq, Repr

/-- A part of a text: one character outside all spans, or a span, of which the marks are left out. -/
inductive Segment where
  | char (c : Char)
  | span (inside : List Char)
  deriving DecidableEq, Repr

/-- What follows a separator is no longer than the text that it was found in. -/
theorem length_le_of_cutAt {separator text before after : List Char}
    (found : Text.cutAt separator text = some (before, after)) : after.length ≤ text.length := by
  rw [Text.eq_of_cutAt found, List.length_append]
  omega

namespace Delimiter

def segments (d : Delimiter) : List Char → List Segment
  | [] => []
  | [c] => [.char c]
  | a :: b :: rest =>
    if a = d.outer ∧ b = d.inner then
      match _found : Text.cutAt [d.inner, d.outer] rest with
      | some (inside, after) => .span inside :: d.segments after
      | none => .char a :: d.segments (b :: rest)
    else .char a :: d.segments (b :: rest)
termination_by text => text.length
decreasing_by
  · have := length_le_of_cutAt _found
    simp only [List.length_cons]
    omega
  all_goals simp

/-- The text with every span replaced by what a function makes of its inside. -/
def replaceSpans (d : Delimiter) (replacement : List Char → List Char) (text : List Char) :
    List Char :=
  (d.segments text).flatMap fun
    | .char c => [c]
    | .span inside => replacement inside

def dropSpans (d : Delimiter) (text : List Char) : List Char := d.replaceSpans (fun _ => []) text

end Delimiter

end Unreferenced.Source
