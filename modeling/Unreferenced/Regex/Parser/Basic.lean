import Unreferenced.Regex.Error
import Unreferenced.Regex.Host
import Unreferenced.Regex.Width

/-! The state in which a pattern is read. The pattern is cut into tokens first: a backslash and the
character after it are one token. A backslash at the very end is at fault as soon as reading reaches
it, so its fault comes before any other of the token in front of it. -/

namespace Unreferenced.Regex

/-- A character of a pattern, or a backslash with the character it escapes. -/
inductive Token where
  | plain (c : Char)
  | escaped (c : Char)
  /-- A backslash that escapes nothing. -/
  | dangling
  deriving DecidableEq, Repr

namespace Token

def ofChars : List Char → List Token
  | [] => []
  | ['\\'] => [dangling]
  | '\\' :: c :: rest => escaped c :: ofChars rest
  | c :: rest => plain c :: ofChars rest

def chars : Token → List Char
  | plain c => [c]
  | escaped c => ['\\', c]
  | dangling => ['\\']

def text (token : Token) : String := String.ofList token.chars

def length (token : Token) : Nat := token.chars.length

end Token

/-- How far a pattern has been read, and what was found so far. -/
structure Reading where
  host : Host
  /-- The number of characters read. -/
  position : Nat
  /-- What is still to be read. -/
  rest : List Token
  /-- The flags of the whole pattern. -/
  flags : List Flag
  /-- The widths of the groups, from group one on, and none for a group still open. -/
  groups : Array (Option Width)
  /-- The named groups. -/
  names : List (String × Nat)
  /-- Inside a lookbehind, the number of the first group that may not be referred to. -/
  forbiddenFrom : Option Nat
  /-- The groups that conditions name by number, each with the position of its first mention. -/
  conditions : List (Nat × Nat)

abbrev Parser := StateT Reading (Except Failure)

namespace Parser

/-- Refuses the pattern for a cause at a position. -/
def failAt {α : Type} (cause : Cause) (position : Nat) : Parser α :=
  throw (.fault ⟨cause, some position⟩)

/-- Refuses the pattern for a cause that lies `back` characters before the place reached. -/
def fail {α : Type} (cause : Cause) (back : Nat) : Parser α := do
  failAt cause ((← get).position - back)

/-- The next token, which stays in place. -/
def peek : Parser (Option Token) := do
  return (← get).rest.head?

def next : Parser (Option Token) := do
  let reading ← get
  match reading.rest with
  | [] => return none
  | token :: rest =>
    let position := reading.position + token.length
    if rest.head? == some .dangling then
      failAt .danglingEscape position
    set { reading with position := position, rest := rest }
    return some token

/-- Takes the next token if it is the character `c`. -/
def accept (c : Char) : Parser Bool := do
  if (← peek) == some (.plain c) then
    let _ ← next
    return true
  else
    return false

/-- Takes at most `count` characters of a class. -/
def takeWhile (belongs : Char → Bool) : Nat → Parser (List Char)
  | 0 => return []
  | count + 1 => do
    match ← peek with
    | some (.plain c) =>
      if belongs c then
        let _ ← next
        return c :: (← takeWhile belongs count)
      else
        return []
    | _ => return []

/-- Takes the text before a terminator, and the terminator. `steps` bounds the tokens to take, and
`name` holds those taken already. -/
def nameBefore (terminator : Char) (what : String) : Nat → List Char → Parser (List Char)
  | 0, name => return name
  | steps + 1, name => do
    match ← next with
    | none =>
      if name.isEmpty then fail (.missing what) 0
      else fail (.unterminatedName terminator.toString) name.length
    | some token =>
      if token == .plain terminator then
        if name.isEmpty then fail (.missing what) 1 else return name
      else
        nameBefore terminator what steps (name ++ token.chars)

/-- Takes a name that a terminator ends. -/
def name (terminator : Char) (what : String) : Parser (List Char) := do
  nameBefore terminator what ((← get).rest.length + 1) []

/-- The number of groups opened so far, the whole match included. -/
def groupCount : Parser Nat := do
  return (← get).groups.size + 1

def isClosed (index : Nat) : Parser Bool := do
  return match (← get).groups[index - 1]? with
    | some (some _) => index != 0
    | _ => false

/-- Opens the next group. A name may be given once only. -/
def openGroup (name : Option (List Char)) : Parser Nat := do
  let index ← groupCount
  modify fun reading => { reading with groups := reading.groups.push none }
  match name with
  | none => return index
  | some chars =>
    let text := String.ofList chars
    match (← get).names.lookup text with
    | some earlier => fail (.repeatedGroupName text index earlier) (chars.length + 1)
    | none =>
      modify fun reading => { reading with names := (text, index) :: reading.names }
      return index

def closeGroup (index : Nat) (body : Node) : Parser Unit :=
  modify fun reading =>
    let width := body.width fun i => ((reading.groups[i - 1]?).join).getD (.exactly 0)
    { reading with groups := reading.groups.setIfInBounds (index - 1) (some width) }

/-- Refuses a reference, from inside a lookbehind, to a group of that lookbehind or to an open one. -/
def checkLookbehind (index : Nat) : Parser Unit := do
  match (← get).forbiddenFrom with
  | none => return
  | some limit =>
    unless ← isClosed index do fail .openGroup 0
    if limit ≤ index then fail .groupInSameLookbehind 0

end Parser

end Unreferenced.Regex
