import Unreferenced.Regex.Parser.Group

/-! The grammar of patterns: alternatives of sequences of items, an item being a character, a set, an
anchor, a group or a repetition of the item before it. A group without a number and without flags
dissolves into its surroundings, and alternatives that are single characters or sets become one set. -/

namespace Unreferenced.Regex

/-- A regular expression: its tree, its global flags and the number of its groups. -/
structure Expression where
  root : Node
  flags : List Flag
  groups : Nat
  deriving Repr

/-- An item of a sequence that is being read. A bare group can still be repeated as a whole. -/
inductive Piece where
  | item (node : Node)
  | bare (body : List Node)

def Piece.nodes : Piece → List Node
  | item node => [node]
  | bare body => body

/-- The items that all alternatives start with, and what remains of the first and of the others. -/
def sharedStart : List Node → List (List Node) → List Node × List (List Node)
  | [], others => ([], [] :: others)
  | node :: rest, others =>
    if others.all (fun other => (other.head?.map node.sameItem).getD false) then
      let (shared, remaining) := sharedStart rest (others.map List.tail)
      (node :: shared, remaining)
    else ([], (node :: rest) :: others)

/-- The members of a set that stands for all alternatives, if each is one character or one set. -/
def unionMembers? (alternatives : List (List Node)) : Option (List Member) :=
  (alternatives.mapM fun
    | [node] => Node.members? node
    | _ => none).map List.flatten

/-- The sequence that matches one of the alternatives. -/
def alternation : List (List Node) → List Node
  | [] => []
  | [only] => only
  | first :: others =>
    let (shared, remaining) := sharedStart first others
    match unionMembers? remaining with
    | some members => shared ++ [.set false members.eraseDups]
    | none => shared ++ [.anyOf (remaining.map .ofList)]

/-- Characters that count for nothing in a verbose pattern. -/
def isPatternBlank (c : Char) : Bool :=
  c == ' ' || c == '\t' || c == '\n' || c == '\r' || c == '\x0b' || c == '\x0c'

/-- A repetition count reaches this limit only by mistake. -/
def countLimit : Nat := 4294967295

namespace Parser

/-- The value of a count, if any digits were given. Neither the number of digits nor the value may be
too large. -/
def count? (digits : List Char) : Parser (Option Nat) := do
  if digits.isEmpty then return none
  if longestNumeral < digits.length then throw (.limit (.numeral digits.length))
  let value := valueOf 10 digits
  if countLimit ≤ value then throw (.limit .repetitionCount)
  return some value

/-- Reads the rest of a quantifier that starts with `c`. A brace that opens no counter is none. -/
def bounds? (c : Char) : Parser (Option (Nat × Option Nat)) := do
  match c with
  | '?' => return some (0, some 1)
  | '*' => return some (0, none)
  | '+' => return some (1, none)
  | _ =>
    let reading ← get
    if (← peek) == some (.plain '}') then return none
    let low ← takeWhile Char.isDigit reading.rest.length
    let high ← if ← accept ',' then takeWhile Char.isDigit reading.rest.length else pure low
    unless ← accept '}' do
      set reading
      return none
    let least := (← count? low).getD 0
    let most ← count? high
    if most.any (· < least) then failAt .repeatBoundsReversed reading.position
    return some (least, most)

/-- Reads the mark after a quantifier that says in which order counts are tried. -/
def preferenceMark : Parser Preference := do
  if ← accept '?' then return .lazy
  if ← accept '+' then return .possessive
  return .greedy

/-- Repeats the last of the items, which stand in reverse. The quantifier opened at `start`. -/
def repeatLast (start least : Nat) (most : Option Nat) : List Piece → Parser (List Piece)
  | [] => failAt .nothingToRepeat start
  | last :: before => do
    let body ← match last with
      | .item (.anchor _) => failAt .nothingToRepeat start
      | .item (.repeated _ _ _ _) => failAt .multipleRepeat start
      | .item node => pure node
      | .bare body => pure (.ofList body)
    let preference ← preferenceMark
    return .item (.repeated preference least most body) :: before

/-- Skips a comment of a verbose pattern, up to the end of its line. -/
def skipLine : Nat → Parser Unit
  | 0 => return
  | steps + 1 => do
    match ← next with
    | none => return
    | some token => if token == .plain '\n' then return else skipLine steps

/-- Skips the comment that opened at `start`. -/
def skipComment (start : Nat) : Nat → Parser Unit
  | 0 => return
  | steps + 1 => do
    match ← next with
    | none => failAt .unterminatedComment start
    | some token => if token == .plain ')' then return else skipComment start steps

def close (start : Nat) : Parser Unit := do
  unless ← accept ')' do failAt .unterminatedGroup start

def isVerbose : Parser Bool := do
  return (← get).flags.contains .verbose

/-- Reads what follows `(?P`: the name of a group to capture, or none after a reference by name. -/
def afterP : Parser (List Char ⊕ Node) := do
  if ← accept '<' then
    let chars ← name '>' "group name"
    checkName chars
    return .inl chars
  if ← accept '=' then
    let chars ← name ')' "group name"
    checkName chars
    match (← get).names.lookup (String.ofList chars) with
    | none => fail (.unknownGroupName (String.ofList chars)) (chars.length + 1)
    | some index =>
      unless ← isClosed index do fail .openGroup (chars.length + 1)
      checkLookbehind index
      return .inr (.backref index)
  match ← next with
  | none => fail .unexpectedEnd 0
  | some token => fail (.unknownExtension ("P" ++ token.text)) (token.length + 2)

mutual

/-- Reads alternatives. At the top a later alternative is verbose if the whole pattern is. -/
def alternatives : Nat → Bool → Bool → Parser (List Node)
  | 0, _, _ => return []
  | steps + 1, verbose, top => do
    let first ← sequence steps verbose top []
    let others ← moreAlternatives steps verbose top
    return alternation (first :: others)

def moreAlternatives : Nat → Bool → Bool → Parser (List (List Node))
  | 0, _, _ => return []
  | steps + 1, verbose, top => do
    if ← accept '|' then
      let verbose ← if top then isVerbose else pure verbose
      let one ← sequence steps verbose false []
      let others ← moreAlternatives steps verbose top
      return one :: others
    else
      return []

/-- Reads items up to the end of their alternative. `pieces` holds those read already, the last one
first. Flags of the whole pattern may come before the first item of the first alternative. -/
def sequence : Nat → Bool → Bool → List Piece → Parser (List Node)
  | 0, _, _, pieces => return pieces.reverse.flatMap Piece.nodes
  | steps + 1, verbose, first, pieces => do
    let start := (← get).position
    match ← peek with
    | none => return pieces.reverse.flatMap Piece.nodes
    | some .dangling => failAt .danglingEscape start
    | some (.escaped c) =>
      let _ ← next
      let node ← escape c
      sequence steps verbose first (.item node :: pieces)
    | some (.plain c) =>
      if c == '|' || c == ')' then
        return pieces.reverse.flatMap Piece.nodes
      let _ ← next
      if verbose && isPatternBlank c then
        sequence steps verbose first pieces
      else if verbose && c == '#' then
        skipLine ((← get).rest.length + 1)
        sequence steps verbose first pieces
      else
        match c with
        | '[' =>
          let node ← bracketSet start
          sequence steps verbose first (.item node :: pieces)
        | '.' => sequence steps verbose first (.item .any :: pieces)
        | '^' => sequence steps verbose first (.item (.anchor .start) :: pieces)
        | '$' => sequence steps verbose first (.item (.anchor .finish) :: pieces)
        | '(' =>
          let (piece, verbose) ← group steps start verbose (first && pieces.isEmpty)
          sequence steps verbose first (piece.toList ++ pieces)
        | _ =>
          if c == '?' || c == '*' || c == '+' || c == '\x7b' then
            match ← bounds? c with
            | none => sequence steps verbose first (.item (.one c.toNat) :: pieces)
            | some (least, most) =>
              let pieces ← repeatLast start least most pieces
              sequence steps verbose first pieces
          else
            sequence steps verbose first (.item (.one c.toNat) :: pieces)

/-- Reads the group that opened at `start`. It gives no item if it was a comment or set flags of the
whole pattern, and it tells whether the items after it are verbose. -/
def group : Nat → Nat → Bool → Bool → Parser (Option Piece × Bool)
  | 0, start, _, _ => failAt .unterminatedGroup start
  | steps + 1, start, verbose, leading => do
    unless ← accept '?' do
      let piece ← capture steps start verbose none
      return (some piece, verbose)
    match ← next with
    | none => fail .unexpectedEnd 0
    | some (.plain 'P') =>
      match ← afterP with
      | .inr node => return (some (.item node), verbose)
      | .inl chars =>
        let piece ← capture steps start verbose (some chars)
        return (some piece, verbose)
    | some (.plain ':') =>
      let body ← alternatives steps verbose false
      close start
      return (some (.bare body), verbose)
    | some (.plain '>') =>
      let body ← alternatives steps verbose false
      close start
      return (some (.item (.atomic (.ofList body))), verbose)
    | some (.plain '#') =>
      skipComment start ((← get).rest.length + 1)
      return (none, verbose)
    | some (.plain '=') =>
      let body ← alternatives steps verbose false
      close start
      return (some (.item (.ahead false (.ofList body))), verbose)
    | some (.plain '!') =>
      let body ← alternatives steps verbose false
      close start
      return (some (.item (.ahead true (.ofList body))), verbose)
    | some (.plain '<') =>
      let piece ← lookbehind steps start verbose
      return (some piece, verbose)
    | some (.plain '(') =>
      let chars ← name ')' "group name"
      let index ← conditionGroup chars
      checkLookbehind index
      let piece ← conditional steps start verbose index
      return (some piece, verbose)
    | some token =>
      match token with
      | .plain c =>
        if (Flag.ofChar? c).isSome || c == '-' then
          match ← inlineFlags c with
          | none =>
            unless leading do failAt .lateGlobalFlags start
            return (none, ← isVerbose)
          | some (on, off) =>
            let inner := (verbose || on.contains .verbose) && !off.contains .verbose
            let body ← alternatives steps inner false
            close start
            return (some (.item (.flagged on off (.ofList body))), verbose)
        else
          fail (.unknownExtension token.text) 2
      | _ => fail (.unknownExtension token.text) (token.length + 1)

def capture : Nat → Nat → Bool → Option (List Char) → Parser Piece
  | 0, start, _, _ => failAt .unterminatedGroup start
  | steps + 1, start, verbose, label => do
    let index ← openGroup label
    let body ← alternatives steps verbose false
    close start
    let node := Node.ofList body
    closeGroup index node
    return .item (.group index node)

/-- Reads what follows `(?<`. No group opened from here on may be referred to inside. -/
def lookbehind : Nat → Nat → Bool → Parser Piece
  | 0, start, _ => failAt .unterminatedGroup start
  | steps + 1, start, verbose => do
    match ← next with
    | none => fail .unexpectedEnd 0
    | some token =>
      if token != .plain '=' && token != .plain '!' then
        fail (.unknownExtension ("<" ++ token.text)) (token.length + 2)
      let outer := (← get).forbiddenFrom
      let count ← groupCount
      modify fun reading => { reading with forbiddenFrom := some (outer.getD count) }
      let body ← alternatives steps verbose false
      modify fun reading => { reading with forbiddenFrom := outer }
      close start
      let node := Node.ofList body
      let groups := (← get).groups
      let width := node.width fun i => ((groups[i - 1]?).join).getD (.exactly 0)
      return .item (.behind (token == .plain '!') width node)

/-- Reads the one or two branches of a condition on a group. -/
def conditional : Nat → Nat → Bool → Nat → Parser Piece
  | 0, start, _, _ => failAt .unterminatedGroup start
  | steps + 1, start, verbose, index => do
    let yes ← sequence steps verbose false []
    let no ← if ← accept '|' then sequence steps verbose false [] else pure []
    if (← peek) == some (.plain '|') then fail .tooManyBranches 0
    close start
    return .item (.conditional index (.ofList yes) (.ofList no))

end

/-- Reads a whole pattern. Every token takes a few steps at most. -/
def pattern : Parser Node := do
  if (← peek) == some .dangling then failAt .danglingEscape 0
  let steps := 8 * (← get).rest.length + 8
  let body ← alternatives steps false true
  let reading ← get
  if reading.flags.contains .ascii && reading.flags.contains .unicode then
    throw (.limit .asciiAndUnicode)
  unless reading.rest.isEmpty do fail .unbalancedParenthesis 0
  for (index, position) in reading.conditions do
    if reading.groups.size < index then failAt (.unknownGroup index) position
  return .ofList body

end Parser

/-- The greatest number of characters that a lookbehind may step back. -/
def farthestBehind : Nat := 4294967295

/-- What an expression asks for and no matcher gives, the first such place from the left. -/
def Node.unsupported? (template : Bool) : Node → Option Cause
  | empty | one _ | allBut _ | any | set _ _ | anchor _ | backref _ => none
  | group _ body | flagged _ _ body | atomic body | ahead _ body => body.unsupported? template
  | behind _ width body =>
    if farthestBehind < width.least then some .farLookbehind
    else if width.least ≠ width.most then some .variableLookbehind
    else body.unsupported? template
  | repeated preference _ _ body =>
    if template then some (.repeatInTemplate preference) else body.unsupported? template
  | conditional _ yes no => (yes.unsupported? template).or (no.unsupported? template)
  | seq first second => (first.unsupported? template).or (second.unsupported? template)
  | alt left right => (left.unsupported? template).or (right.unsupported? template)

/-- Reads a pattern on a machine. One that takes more stack than there is gives nothing, whatever else
may be wrong with it. -/
def parse (host : Host) (pattern : String) : Except Failure Expression := do
  if host.exhausts pattern then throw (.limit .nesting)
  let start : Reading := ⟨host, 0, Token.ofChars pattern.toList, [], #[], [], none, []⟩
  let (root, reading) ← Parser.pattern.run start
  match root.unsupported? (reading.flags.contains .template) with
  | some cause => throw (.fault ⟨cause, none⟩)
  | none => return ⟨root, reading.flags, reading.groups.size⟩

end Unreferenced.Regex
