import Unreferenced.Regex.Syntax
import Unreferenced.Text.Quoted

/-! What can be wrong with a pattern, and the message for it. A fault in the pattern is a cause with a
position. Limits are no faults of one place: they abort the reading of a whole rule file. -/

namespace Unreferenced.Regex

inductive Cause where
  | danglingEscape
  | badEscape (escape : String)
  | incompleteEscape (escape : String)
  | octalTooLarge (escape : String)
  | missing (what : String)
  | unterminatedName (terminator : String)
  | unterminatedGroup
  | unterminatedComment
  | unterminatedSet
  | unbalancedParenthesis
  | unexpectedEnd
  | unknownExtension (extension : String)
  | unknownCharacter (name : String)
  | badRange (first last : String)
  | nothingToRepeat
  | multipleRepeat
  | repeatBoundsReversed
  | badGroupName (name : String)
  | unknownGroupName (name : String)
  | repeatedGroupName (name : String) (index earlier : Nat)
  | badGroupNumber
  | unknownGroup (index : Nat)
  | openGroup
  | groupInSameLookbehind
  | tooManyBranches
  | unknownFlag
  | kindsIncompatible
  | localeFlag
  | kindTurnedOff
  | templateTurnedOn
  | templateTurnedOff
  | flagOnAndOff
  | lateGlobalFlags
  | variableLookbehind
  | farLookbehind
  | repeatInTemplate (preference : Preference)
  deriving DecidableEq, Repr

def Preference.label : Preference → String
  | .greedy => "MAX_REPEAT"
  | .lazy => "MIN_REPEAT"
  | .possessive => "POSSESSIVE_REPEAT"

def Cause.message : Cause → String
  | danglingEscape => "bad escape (end of pattern)"
  | badEscape escape => "bad escape " ++ escape
  | incompleteEscape escape => "incomplete escape " ++ escape
  | octalTooLarge escape => "octal escape value " ++ escape ++ " outside of range 0-0o377"
  | missing what => "missing " ++ what
  | unterminatedName terminator => "missing " ++ terminator ++ ", unterminated name"
  | unterminatedGroup => "missing ), unterminated subpattern"
  | unterminatedComment => "missing ), unterminated comment"
  | unterminatedSet => "unterminated character set"
  | unbalancedParenthesis => "unbalanced parenthesis"
  | unexpectedEnd => "unexpected end of pattern"
  | unknownExtension extension => "unknown extension ?" ++ extension
  | unknownCharacter name => "undefined character name " ++ Text.quoted name
  | badRange first last => "bad character range " ++ first ++ "-" ++ last
  | nothingToRepeat => "nothing to repeat"
  | multipleRepeat => "multiple repeat"
  | repeatBoundsReversed => "min repeat greater than max repeat"
  | badGroupName name => "bad character in group name " ++ Text.quoted name
  | unknownGroupName name => "unknown group name " ++ Text.quoted name
  | repeatedGroupName name index earlier =>
    "redefinition of group name " ++ Text.quoted name ++ " as group " ++ toString index ++
      "; was group " ++ toString earlier
  | badGroupNumber => "bad group number"
  | unknownGroup index => "invalid group reference " ++ toString index
  | openGroup => "cannot refer to an open group"
  | groupInSameLookbehind => "cannot refer to group defined in the same lookbehind subpattern"
  | tooManyBranches => "conditional backref with more than two branches"
  | unknownFlag => "unknown flag"
  | kindsIncompatible => "bad inline flags: flags 'a', 'u' and 'L' are incompatible"
  | localeFlag => "bad inline flags: cannot use 'L' flag with a str pattern"
  | kindTurnedOff => "bad inline flags: cannot turn off flags 'a', 'u' and 'L'"
  | templateTurnedOn => "bad inline flags: cannot turn on global flag"
  | templateTurnedOff => "bad inline flags: cannot turn off global flag"
  | flagOnAndOff => "bad inline flags: flag turned on and off"
  | lateGlobalFlags => "global flags not at the start of the expression"
  | variableLookbehind => "look-behind requires fixed-width pattern"
  | farLookbehind => "looks too much behind"
  | repeatInTemplate preference =>
    "internal: unsupported template operator " ++ preference.label

/-- A fault in a pattern. The position counts characters from zero. -/
structure Fault where
  cause : Cause
  position : Option Nat
  deriving DecidableEq, Repr

/-- The line and the column of a position, both from one. -/
def lineAndColumn (pattern : List Char) (position : Nat) : Nat × Nat :=
  let before := pattern.take position
  (before.count '\n' + 1, (before.reverse.takeWhile (· != '\n')).length + 1)

/-- The text of a fault. Line and column are given where the pattern has more than one line. -/
def Fault.message (pattern : String) (fault : Fault) : String :=
  match fault.position with
  | none => fault.cause.message
  | some position =>
    let place := fault.cause.message ++ " at position " ++ toString position
    if pattern.toList.contains '\n' then
      let (line, column) := lineAndColumn pattern.toList position
      place ++ " (line " ++ toString line ++ ", column " ++ toString column ++ ")"
    else place

/-- Limits that end the reading of all rules. -/
inductive Limit where
  /-- A repetition count is too large. -/
  | repetitionCount
  /-- A repetition count has so many digits that it is not read. -/
  | numeral (digits : Nat)
  /-- The whole pattern is asked to know ASCII only and all of Unicode. -/
  | asciiAndUnicode
  /-- The groups nest deeper than the stack. -/
  | nesting
  deriving DecidableEq, Repr

/-- The longest numeral that is read as a number. -/
def longestNumeral : Nat := 4300

def Limit.message : Limit → String
  | repetitionCount => "the repetition number is too large"
  | numeral digits =>
    "Exceeds the limit (" ++ toString longestNumeral ++ " digits) for integer string conversion: " ++
      "value has " ++ toString digits ++
      " digits; use sys.set_int_max_str_digits() to increase the limit"
  | asciiAndUnicode => "ASCII and UNICODE flags are incompatible"
  | nesting => "maximum recursion depth exceeded"

/-- Why a pattern gives no regular expression. -/
inductive Failure where
  | fault (fault : Fault)
  | limit (reached : Limit)
  deriving DecidableEq, Repr

end Unreferenced.Regex
