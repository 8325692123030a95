import Unreferenced.Text.Table.Name

/-! What the reading of patterns takes from the machine that it runs on: the names of characters, which a
pattern may write in an escape, and the stack, on which a group in a group in a group takes its room. -/

namespace Unreferenced.Regex

/-- A machine that reads patterns. Only groups nest, so a pattern that takes more stack than the machine
has opens at least `room` of them. -/
structure Host where
  /-- The code point of the character with a name. -/
  code? : String → Option Nat
  /-- Whether a pattern takes more stack than there is. -/
  exhausts : String → Bool
  room : Nat
  room_le_count : ∀ pattern, exhausts pattern = true → room ≤ pattern.toList.count '('

/-- The code point of a character of the Latin blocks by its name, which may be written in either case. -/
def latinCode? (name : String) : Option Nat :=
  let upper := String.ofList (name.toList.map Char.toUpper)
  Text.Table.nameTables.findSome? fun (first, names) =>
    (names.findIdx? (· == upper)).map (first + ·)

/-- A machine that knows the Latin blocks by name, with a stack for all patterns. -/
def Host.standard : Host where
  code? := latinCode?
  exhausts := fun _ => false
  room := 0
  room_le_count := nofun

end Unreferenced.Regex
