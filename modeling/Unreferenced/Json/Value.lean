/-! JSON values, and their text in one layout: every item on a line of its own, two spaces of indent for
each level, and ASCII only. A character beyond the basic plane is written as two surrogates. -/

namespace Unreferenced.Json

/-- The JSON values that reports are made of. -/
inductive Value where
  | string (text : String)
  | integer (value : Int)
  | array (items : List Value)
  | object (members : List (String × Value))

/-- Four lower-case hexadecimal digits of a number below 2 ^ 16. -/
def hex4 (n : Nat) : List Char :=
  [n / 0x1000 % 16, n / 0x100 % 16, n / 0x10 % 16, n % 16].map Nat.digitChar

def unitEscape (n : Nat) : List Char := '\\' :: 'u' :: hex4 n

def encodeChar (c : Char) : List Char :=
  if c = '"' then ['\\', '"']
  else if c = '\\' then ['\\', '\\']
  else if c = '\n' then ['\\', 'n']
  else if c = '\r' then ['\\', 'r']
  else if c = '\t' then ['\\', 't']
  else if c = '\x0c' then ['\\', 'f']
  else if c = '\x08' then ['\\', 'b']
  else if 0x20 ≤ c.toNat ∧ c.toNat ≤ 0x7E then [c]
  else if c.toNat < 0x10000 then unitEscape c.toNat
  else
    let rest := c.toNat - 0x10000
    unitEscape (0xD800 + rest / 0x400) ++ unitEscape (0xDC00 + rest % 0x400)

def encodeString (text : String) : List Char :=
  '"' :: text.toList.flatMap encodeChar ++ ['"']

/-- A new line with the indent of a level. -/
def newLine (level : Nat) : List Char := '\n' :: List.replicate (2 * level) ' '

mutual

/-- The text of a value at a level. -/
def Value.encode (level : Nat) : Value → List Char
  | .string text => encodeString text
  | .integer value => (toString value).toList
  | .array [] => ['[', ']']
  | .array (item :: items) =>
    '[' :: (newLine (level + 1) ++ item.encode (level + 1) ++ encodeItems (level + 1) items) ++
      newLine level ++ [']']
  | .object [] => ['\x7b', '\x7d']
  | .object ((name, value) :: members) =>
    '\x7b' :: (newLine (level + 1) ++ encodeString name ++ [':', ' '] ++ value.encode (level + 1) ++
      encodeMembers (level + 1) members) ++ newLine level ++ ['\x7d']

def encodeItems (level : Nat) : List Value → List Char
  | [] => []
  | item :: items => ',' :: (newLine level ++ item.encode level ++ encodeItems level items)

def encodeMembers (level : Nat) : List (String × Value) → List Char
  | [] => []
  | (name, value) :: members =>
    ',' :: (newLine level ++ encodeString name ++ [':', ' '] ++ value.encode level ++
      encodeMembers level members)

end

def Value.render (value : Value) : String := String.ofList (value.encode 0)

end Unreferenced.Json
