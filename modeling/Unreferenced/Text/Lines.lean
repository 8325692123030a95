import Unreferenced.Text.Character

/-! Cutting text into lines and into runs of characters of one class, and trimming white space. -/

namespace Unreferenced.Text

/-- The lines of a text. A carriage return with the line feed after it is one line break, and a line
break at the very end starts no further line. -/
def lines : List Char → List (List Char)
  | [] => []
  | '\r' :: '\n' :: rest => [] :: lines rest
  | c :: rest =>
    if isLineBreak c then [] :: lines rest
    else match lines rest with
      | [] => [[c]]
      | line :: more => (c :: line) :: more

/-- The maximal runs of characters of a class, in order. -/
def runs (belongs : Char → Bool) (text : List Char) : List (List Char) :=
  (text.splitOnP (!belongs ·)).filter (!·.isEmpty)

/-- The pieces between white space. -/
def pieces (text : List Char) : List (List Char) := runs (!isSpace ·) text

def trim (text : List Char) : List Char :=
  ((text.dropWhile isSpace).reverse.dropWhile isSpace).reverse

def occursIn (part : List Char) : List Char → Bool
  | [] => part.isEmpty
  | c :: rest => part.isPrefixOf (c :: rest) || occursIn part rest

/-- Cuts the text at the first occurrence of the separator, which belongs to neither part. -/
def cutAt (separator : List Char) : List Char → Option (List Char × List Char)
  | [] => if separator.isEmpty then some ([], []) else none
  | c :: rest =>
    if separator.isPrefixOf (c :: rest) then some ([], (c :: rest).drop separator.length)
    else (cutAt separator rest).map fun (before, after) => (c :: before, after)

/-- A cut leaves the two parts of the text that stand around the separator. -/
theorem eq_of_cutAt {separator text before after : List Char}
    (h : cutAt separator text = some (before, after)) : text = before ++ separator ++ after := by
  induction text generalizing before after with
  | nil =>
      rw [cutAt] at h
      split at h
      · rename_i hempty
        obtain ⟨rfl, rfl⟩ := Prod.mk.inj (Option.some.inj h)
        rw [List.isEmpty_iff.mp hempty]
        rfl
      · cases h
  | cons c rest ih =>
      rw [cutAt] at h
      split at h
      · rename_i hprefix
        obtain ⟨rfl, rfl⟩ := Prod.mk.inj (Option.some.inj h)
        obtain ⟨tail, htail⟩ := List.isPrefixOf_iff_prefix.mp hprefix
        rw [← htail, List.drop_left]
        rfl
      · obtain ⟨⟨front, back⟩, hcut, heq⟩ := Option.map_eq_some_iff.mp h
        obtain ⟨rfl, rfl⟩ := Prod.mk.inj heq
        rw [ih hcut]
        rfl

end Unreferenced.Text
