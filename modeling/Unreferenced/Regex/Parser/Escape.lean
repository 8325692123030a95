import Unreferenced.Regex.Parser.Basic

/-! Escapes, and the sets between brackets. The same escape may mean different things inside and
outside a set: `\b` is a word boundary outside and a backspace inside, and a number refers to a group
only outside. -/

namespace Unreferenced.Regex

/-- The control characters with a letter of their own, and the backslash. -/
def controlCode? : Char → Option Nat
  | 'a' => some 7
  | 'b' => some 8
  | 't' => some 9
  | 'n' => some 10
  | 'v' => some 11
  | 'f' => some 12
  | 'r' => some 13
  | '\\' => some 0x5C
  | _ => none

def category? : Char → Option Member
  | 'd' => some (.category .digit false)
  | 'D' => some (.category .digit true)
  | 's' => some (.category .space false)
  | 'S' => some (.category .space true)
  | 'w' => some (.category .word false)
  | 'W' => some (.category .word true)
  | _ => none

def anchor? : Char → Option Anchor
  | 'A' => some .textStart
  | 'Z' => some .textEnd
  | 'b' => some .boundary
  | 'B' => some .noBoundary
  | _ => none

def isOctal (c : Char) : Bool := '0' ≤ c && c ≤ '7'

def isHex (c : Char) : Bool := c.isDigit || 'a' ≤ c && c ≤ 'f' || 'A' ≤ c && c ≤ 'F'

def digitValue (c : Char) : Nat :=
  if c.isDigit then c.toNat - 0x30 else c.toLower.toNat - 0x61 + 10

/-- The number that digits write to a base. -/
def valueOf (base : Nat) (digits : List Char) : Nat :=
  digits.foldl (fun value c => value * base + digitValue c) 0

def lastCode : Nat := 0x10FFFF

/-- The largest value of an octal escape. -/
def lastOctal : Nat := 0o377

namespace Parser

/-- Reads the hexadecimal digits of an escape: exactly `count` of them. -/
def hexEscape (letter : Char) (count : Nat) : Parser Nat := do
  let digits ← takeWhile isHex count
  let escape := '\\' :: letter :: digits
  if digits.length != count then
    fail (.incompleteEscape (String.ofList escape)) escape.length
  let code := valueOf 16 digits
  if lastCode < code then
    fail (.badEscape (String.ofList escape)) escape.length
  return code

def namedEscape : Parser Nat := do
  unless ← accept '{' do fail (.missing "\x7b") 0
  let chars ← name '}' "character name"
  match (← get).host.code? (String.ofList chars) with
  | some code => return code
  | none => fail (.unknownCharacter (String.ofList chars)) (chars.length + 4)

def octalCode (digits : List Char) : Parser Nat := do
  let code := valueOf 8 digits
  if lastOctal < code then
    fail (.octalTooLarge (String.ofList ('\\' :: digits))) (digits.length + 1)
  return code

/-- Reads an escape that is written alike inside and outside a set, if `c` starts one. -/
def codeEscape? (c : Char) : Parser (Option Nat) := do
  match c with
  | 'x' => return some (← hexEscape 'x' 2)
  | 'u' => return some (← hexEscape 'u' 4)
  | 'U' => return some (← hexEscape 'U' 8)
  | 'N' => return some (← namedEscape)
  | _ => return none

/-- A letter or a digit without a meaning. -/
def badEscape {α : Type} (c : Char) : Parser α :=
  fail (.badEscape (String.ofList ['\\', c])) 2

def memberEscape (c : Char) : Parser Member := do
  if let some code := controlCode? c then return .one code
  if let some category := category? c then return category
  if let some code ← codeEscape? c then return .one code
  if isOctal c then
    let digits ← takeWhile isOctal 2
    return .one (← octalCode (c :: digits))
  if c.isDigit || c.isAlpha then badEscape c
  return .one c.toNat

/-- Reads one end of a range, or a member by itself. -/
def member : Token → Parser Member
  | .escaped c => memberEscape c
  | .plain c => return .one c.toNat
  | .dangling => fail .danglingEscape 1

/-- Reads the members of the set that opened at `start`. A bracket that comes first stands for itself,
and so does a hyphen at either end. -/
def setMembers (start : Nat) : Nat → List Member → Parser (List Member)
  | 0, members => return members
  | steps + 1, members => do
    match ← next with
    | none => failAt .unterminatedSet start
    | some token =>
      if token == .plain ']' && !members.isEmpty then
        return members
      let low ← member token
      if ← accept '-' then
        match ← next with
        | none => failAt .unterminatedSet start
        | some other =>
          if other == .plain ']' then
            return members ++ [low, .one '-'.toNat]
          let high ← member other
          let refuse := fail (.badRange token.text other.text) (token.length + 1 + other.length)
          match low, high with
          | .one first, .one last =>
            if last < first then refuse
            else setMembers start steps (members ++ [.range first last])
          | _, _ => refuse
      else
        setMembers start steps (members ++ [low])

/-- Reads the set that opened at `start`. A set of one character is that character. -/
def bracketSet (start : Nat) : Parser Node := do
  let negated ← accept '^'
  let members ← setMembers start ((← get).rest.length + 1) []
  match members.eraseDups with
  | [.one code] => return if negated then .allBut code else .one code
  | distinct => return .set negated distinct

def reference (digits : List Char) : Parser Node := do
  let index := valueOf 10 digits
  if index < (← groupCount) then
    unless ← isClosed index do fail .openGroup (digits.length + 1)
    checkLookbehind index
    return .backref index
  else
    fail (.unknownGroup index) digits.length

/-- Reads an escape that starts with a digit other than zero. Three octal digits are a code, and up to
two digits are a reference. -/
def numberEscape (c : Char) : Parser Node := do
  match ← peek with
  | some (.plain second) =>
    if second.isDigit then
      let _ ← next
      if isOctal c && isOctal second then
        match ← peek with
        | some (.plain third) =>
          if isOctal third then
            let _ ← next
            return .one (← octalCode [c, second, third])
        | _ => pure ()
      reference [c, second]
    else
      reference [c]
  | _ => reference [c]

def escape (c : Char) : Parser Node := do
  if let some kind := anchor? c then return .anchor kind
  if let some category := category? c then return .set false [category]
  if let some code := controlCode? c then return .one code
  if let some code ← codeEscape? c then return .one code
  if c == '0' then
    let digits ← takeWhile isOctal 2
    return .one (valueOf 8 digits)
  if c.isDigit then
    numberEscape c
  else if c.isAlpha then
    badEscape c
  else
    return .one c.toNat

end Parser

end Unreferenced.Regex
