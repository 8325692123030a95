import Unreferenced.Text.Character

/-! Quoted text for messages. Single quotes stand around the text, double quotes if it holds a single
quote and no double one. What does not print is written by its code point. -/

namespace Unreferenced.Text.Quoted

/-- A number in lower-case hexadecimal, filled with zeros on the left up to `width` digits. -/
def hex (width n : Nat) : List Char :=
  let digits := Nat.toDigits 16 n
  List.replicate (width - digits.length) '0' ++ digits

def encodeChar (quote c : Char) : List Char :=
  if c == quote || c == '\\' then ['\\', c]
  else if c == '\n' then ['\\', 'n']
  else if c == '\r' then ['\\', 'r']
  else if c == '\t' then ['\\', 't']
  else if isPrintable c then [c]
  else if c.toNat < 0x100 then '\\' :: 'x' :: hex 2 c.toNat
  else if c.toNat < 0x10000 then '\\' :: 'u' :: hex 4 c.toNat
  else '\\' :: 'U' :: hex 8 c.toNat

/-- The quote that stands around a text. -/
def quoteFor (text : List Char) : Char :=
  if text.contains '\'' && !text.contains '"' then '"' else '\''

end Quoted

def quoted (text : String) : String :=
  let quote := Quoted.quoteFor text.toList
  String.ofList (quote :: text.toList.flatMap (Quoted.encodeChar quote) ++ [quote])

end Unreferenced.Text
