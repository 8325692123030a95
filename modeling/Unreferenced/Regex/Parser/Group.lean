import Unreferenced.Regex.Parser.Escape
import Unreferenced.Text.Lines

/-! The parts of a group's head: inline flags and the number of a condition. -/

namespace Unreferenced.Regex

/-- The number of decimal digits of any script. Single underscores may stand between digits. -/
def digitsValue? : List Char → Option Nat
  | [] => none
  | chars =>
    let groups := chars.splitOn '_'
    if groups.all (fun digits => !digits.isEmpty && digits.all Text.isDecimal) then
      let digits := groups.flatten
      if longestNumeral < digits.length then none
      else some (digits.foldl (fun value c => value * 10 + (Text.decimalValue? c).getD 0) 0)
    else none

/-- The whole number that a text writes, with an optional sign and white space around it. -/
def integer? (chars : List Char) : Option Int :=
  match Text.trim chars with
  | '-' :: digits => (digitsValue? digits).map (- ·)
  | '+' :: digits => (digitsValue? digits).map (·)
  | digits => (digitsValue? digits).map (·)

/-- No pattern has as many groups. -/
def groupLimit : Nat := 0x3FFFFFFF

namespace Parser

/-- Checks the name of a group, which the last token has ended. -/
def checkName (chars : List Char) : Parser Unit := do
  unless Text.isName chars do
    fail (.badGroupName (String.ofList chars)) (chars.length + 1)

/-- The group that a condition names, by name or by number. -/
def conditionGroup (chars : List Char) : Parser Nat := do
  let text := String.ofList chars
  let back := chars.length + 1
  if Text.isName chars then
    match (← get).names.lookup text with
    | some index => return index
    | none => fail (.unknownGroupName text) back
  else
    match integer? chars with
    | some (Int.ofNat index) =>
      if index == 0 then fail .badGroupNumber back
      if groupLimit ≤ index then fail (.unknownGroup index) back
      modify fun reading =>
        if reading.conditions.any (·.1 == index) then reading
        else { reading with conditions := reading.conditions ++ [(index, reading.position - back)] }
      return index
    | _ => fail (.badGroupName text) back

def refuseFlag {α : Type} (token : Token) (what : String) : Parser α :=
  match token with
  | .plain c => fail (if Text.isLetter c then .unknownFlag else .missing what) 1
  | _ => fail (.missing what) token.length

/-- Reads the flags to turn on, of which `flag` is the next, up to the character that ends them. -/
def flagsOn : Nat → Flag → List Flag → Parser (List Flag × Char)
  | 0, _, on => return (on, ':')
  | steps + 1, flag, on => do
    if flag == .locale then fail .localeFlag 0
    let on := flag :: on
    if flag.isKind && on.any (fun other => other.isKind && other != flag) then
      fail .kindsIncompatible 0
    match ← next with
    | none => fail (.missing "-, : or )") 0
    | some token =>
      match token with
      | .plain c =>
        if c == ')' || c == '-' || c == ':' then return (on, c)
        match Flag.ofChar? c with
        | some other => flagsOn steps other on
        | none => refuseFlag token "-, : or )"
      | _ => refuseFlag token "-, : or )"

/-- Reads the flags to turn off, of which `flag` is the next, and the colon after them. -/
def flagsOff : Nat → Flag → List Flag → Parser (List Flag)
  | 0, _, off => return off
  | steps + 1, flag, off => do
    if flag.isKind then fail .kindTurnedOff 0
    let off := flag :: off
    match ← next with
    | none => fail (.missing ":") 0
    | some token =>
      match token with
      | .plain c =>
        if c == ':' then return off
        match Flag.ofChar? c with
        | some other => flagsOff steps other off
        | none => refuseFlag token ":"
      | _ => refuseFlag token ":"

/-- Reads the hyphen's part of inline flags: at least one flag to turn off. -/
def flagsAfterHyphen : Parser (List Flag) := do
  match ← next with
  | none => fail (.missing "flag") 0
  | some token =>
    match token with
    | .plain c =>
      match Flag.ofChar? c with
      | some flag => flagsOff ((← get).rest.length + 1) flag []
      | none => refuseFlag token "flag"
    | _ => refuseFlag token "flag"

/-- Reads what is left of inline flags, of which `on` are to be turned on and were ended by `stop`. A
closing parenthesis puts them in force for the whole pattern. -/
def flagsAfter (on : List Flag) (stop : Char) : Parser (Option (List Flag × List Flag)) := do
  if stop == ')' then
    modify fun reading => { reading with flags := reading.flags ++ on }
    return none
  if on.contains .template then fail .templateTurnedOn 1
  let off ← if stop == '-' then flagsAfterHyphen else pure []
  if off.contains .template then fail .templateTurnedOff 1
  if on.any off.contains then fail .flagOnAndOff 1
  return some (on, off)

/-- Reads inline flags that start with `c`: those to turn on and those to turn off inside a group, or
none if they were flags of the whole pattern, which are then in force. -/
def inlineFlags (c : Char) : Parser (Option (List Flag × List Flag)) := do
  let (on, stop) ← match Flag.ofChar? c with
    | some flag => flagsOn ((← get).rest.length + 1) flag []
    | none => pure ([], c)
  flagsAfter on stop

end Parser

end Unreferenced.Regex
