/-! Regular expressions as trees. A tree keeps what its pattern says: inline flags stay at their group,
and case or the kind of characters is decided when the tree is matched. Characters are code points,
because an escape may name one that no text holds, such as a surrogate. -/

namespace Unreferenced.Regex

inductive Flag where
  /-- Letters match in either case: `i`. -/
  | ignoreCase
  /-- `^` and `$` match at every line: `m`. -/
  | multiline
  /-- The dot matches a line feed too: `s`. -/
  | dotAll
  /-- Blanks and comments in the pattern count for nothing: `x`. -/
  | verbose
  /-- Classes and case know ASCII only: `a`. -/
  | ascii
  /-- Classes and case know all of Unicode: `u`. -/
  | unicode
  /-- Classes and case follow the locale, which no text pattern may ask for: `L`. -/
  | locale
  /-- The pattern is a template, in which nothing repeats: `t`. -/
  | template
  deriving DecidableEq, Repr

namespace Flag

def ofChar? : Char → Option Flag
  | 'i' => some ignoreCase
  | 'm' => some multiline
  | 's' => some dotAll
  | 'x' => some verbose
  | 'a' => some ascii
  | 'u' => some unicode
  | 'L' => some locale
  | 't' => some template
  | _ => none

/-- Flags that say what a character class means. At most one of them holds. -/
def isKind : Flag → Bool
  | ascii | unicode | locale => true
  | _ => false

end Flag

/-- Classes with an escape of their own. -/
inductive Category where
  | digit
  | space
  | word
  deriving DecidableEq, Repr

/-- What stands between the brackets of a set. -/
inductive Member where
  | one (code : Nat)
  | range (first last : Nat)
  | category (kind : Category) (negated : Bool)
  deriving DecidableEq, Repr

/-- Conditions on a place in the text. -/
inductive Anchor where
  /-- The start of the text, or of a line where `^` is read so. -/
  | start
  /-- The end of the text or before its last line feed, or the end of a line where `$` is read so. -/
  | finish
  | textStart
  | textEnd
  | boundary
  | noBoundary
  deriving DecidableEq, Repr

/-- In which order a repetition tries its counts. -/
inductive Preference where
  /-- As often as possible first. -/
  | greedy
  /-- As rarely as possible first. -/
  | lazy
  /-- As often as possible, and never fewer afterwards. -/
  | possessive
  deriving DecidableEq, Repr

/-- Bounds on the number of characters that an expression matches. -/
structure Width where
  least : Nat
  most : Nat
  deriving DecidableEq, Repr

inductive Node where
  | empty
  | one (code : Nat)
  | allBut (code : Nat)
  | any
  | set (negated : Bool) (members : List Member)
  | anchor (kind : Anchor)
  | backref (group : Nat)
  | group (index : Nat) (body : Node)
  | flagged (on off : List Flag) (body : Node)
  | atomic (body : Node)
  | ahead (negated : Bool) (body : Node)
  | behind (negated : Bool) (width : Width) (body : Node)
  | conditional (group : Nat) (yes no : Node)
  | repeated (preference : Preference) (least : Nat) (most : Option Nat) (body : Node)
  | seq (first second : Node)
  | alt (left right : Node)
  deriving Repr

namespace Node

/-- The expression that matches the given ones one after another. -/
def ofList : List Node → Node
  | [] => empty
  | [node] => node
  | node :: rest => seq node (ofList rest)

/-- The expression that matches as one of the given ones, the earlier ones first. -/
def anyOf : List Node → Node
  | [] => empty
  | [node] => node
  | node :: rest => alt node (anyOf rest)

/-- Whether two expressions of one item are the same. Items with a body always count as different. -/
def sameItem : Node → Node → Bool
  | one a, one b => a == b
  | allBut a, allBut b => a == b
  | any, any => true
  | set n a, set m b => n == m && a == b
  | anchor a, anchor b => a == b
  | backref a, backref b => a == b
  | _, _ => false

/-- The members of a set that matches what the item matches, if the item is one character or a set
without negation. -/
def members? : Node → Option (List Member)
  | one code => some [.one code]
  | set false members => some members
  | _ => none

end Node

end Unreferenced.Regex
