import Unreferenced.Text.Table.Case

/-! Upper and lower case of single code points, and which of them count as the same letter when case
is ignored. Every code point maps to one code point: of a longer mapping the first counts. -/

namespace Unreferenced.Text

namespace Table.CaseRun

def lists (run : CaseRun) (n : Nat) : Bool :=
  run.first ≤ n && n ≤ run.last && (n - run.first) % run.step == 0

/-- The code point that the run sends to `n`, if it sends one there. -/
def source? (run : CaseRun) (n : Nat) : Option Nat :=
  let m := (n - run.offset : Int).toNat
  if run.lists m && (m + run.offset : Int) == n then some m else none

/-- Whether the run lists a code point from `first` to `last`. -/
def meets (run : CaseRun) (first last : Nat) : Bool :=
  let below := max first run.first - run.first
  let least := run.first + (below + run.step - 1) / run.step * run.step
  least ≤ last && least ≤ run.last

end Table.CaseRun

/-- The case map given by its runs: a code point outside them keeps its case. -/
def mapCase (table : Array Table.CaseRun) (n : Nat) : Nat :=
  match table.find? (·.lists n) with
  | some run => (n + run.offset : Int).toNat
  | none => n

def lower (n : Nat) : Nat := mapCase Table.lowerRuns n

def upper (n : Nat) : Nat := mapCase Table.upperRuns n

def isCased (n : Nat) : Bool := n != lower n || n != upper n

/-- Whether a code point from `first` to `last` has another form in lower or in upper case. -/
def anyCased (first last : Nat) : Bool :=
  Table.lowerRuns.any (·.meets first last) || Table.upperRuns.any (·.meets first last)

/-- The other lower-case code points that share the upper-case form of the lower-case `n`. -/
def sameUpper (n : Nat) : List Nat :=
  match Table.sameUpper.find? (·.1 == n) with
  | some (_, others) => others
  | none => []

/-- Whether two code points are the same letter when case is ignored: their lower-case forms agree or
share an upper-case form. -/
def sameLetter (m n : Nat) : Bool :=
  lower m == lower n || (sameUpper (lower m)).contains (lower n)

/-- All code points whose lower-case form is `n`. -/
def lowerSources (n : Nat) : List Nat :=
  (if lower n == n then [n] else []) ++ Table.lowerRuns.toList.filterMap (·.source? n)

/-- All code points that are the same letter as `n` when case is ignored. -/
def sameLetters (n : Nat) : List Nat :=
  (lower n :: sameUpper (lower n)).flatMap lowerSources

def isAsciiLetter (n : Nat) : Bool :=
  0x41 ≤ n && n ≤ 0x5A || 0x61 ≤ n && n ≤ 0x7A

/-- The lower-case form where only ASCII letters have case. -/
def lowerAscii (n : Nat) : Nat := if 0x41 ≤ n && n ≤ 0x5A then n + 0x20 else n

end Unreferenced.Text
