import Unreferenced.Text.Table.Letter
import Unreferenced.Text.Table.Number
import Unreferenced.Text.Table.Printable
import Unreferenced.Text.Table.Identifier

/-! Classes of characters. Identifiers are made of word characters, source and rule lines are cut at
white space, and files read line by line end their lines at any line break. The classes are those of
Unicode 14, not only of ASCII. -/

namespace Unreferenced.Text

/-- White space: the tabulators and line ends, the four information separators, and every space or
separator of Unicode. -/
def isSpace (c : Char) : Bool :=
  let n := c.toNat
  decide (0x9 ≤ n ∧ n ≤ 0xD) || decide (0x1C ≤ n ∧ n ≤ 0x20) || n == 0x85 || n == 0xA0 ||
    n == 0x1680 || decide (0x2000 ≤ n ∧ n ≤ 0x200A) || n == 0x2028 || n == 0x2029 ||
    n == 0x202F || n == 0x205F || n == 0x3000

/-- Characters that end a line. Of the information separators the last, U+001F, does not. -/
def isLineBreak (c : Char) : Bool :=
  let n := c.toNat
  decide (0xA ≤ n ∧ n ≤ 0xD) || decide (0x1C ≤ n ∧ n ≤ 0x1E) || n == 0x85 || n == 0x2028 ||
    n == 0x2029

def isLetter (c : Char) : Bool :=
  c.isAlpha || decide (0x80 ≤ c.toNat) && Table.letters.covers c.toNat

/-- Word characters: letters, characters with a numeric value, and the underscore. -/
def isWord (c : Char) : Bool :=
  c.isAlphanum || c == '_' ||
    decide (0x80 ≤ c.toNat) && (Table.letters.covers c.toNat || Table.numbers.covers c.toNat)

/-- The value of a decimal digit of any script. -/
def decimalValue? (c : Char) : Option Nat :=
  Table.zeros.findSome? fun first =>
    if first ≤ c.toNat ∧ c.toNat < first + 10 then some (c.toNat - first) else none

def isDecimal (c : Char) : Bool := (decimalValue? c).isSome

/-- Characters that quoted text shows as they are. -/
def isPrintable (c : Char) : Bool := Table.printables.covers c.toNat

/-- Characters that may start a name. -/
def startsName (c : Char) : Bool :=
  Table.extraStarts.covers c.toNat || isLetter c && !Table.nonStarts.covers c.toNat

/-- Characters that may follow in a name. -/
def continuesName (c : Char) : Bool :=
  Table.extraContinues.covers c.toNat || isWord c && !Table.nonContinues.covers c.toNat

/-- Whether the text is a name: a starting character and then continuing ones. -/
def isName : List Char → Bool
  | [] => false
  | c :: rest => startsName c && rest.all continuesName

end Unreferenced.Text
