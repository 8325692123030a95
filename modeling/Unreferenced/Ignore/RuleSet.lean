import Unreferenced.Log

/-! Rule sets, read from the text of an ignore file. Matching changes no rule: it gives the index of the
first rule that applies, so that a caller can collect the indices and ask which rules never applied. -/

namespace Unreferenced.Ignore

/-- Rules in the order of their lines. -/
structure RuleSet (ε : Type := Regex.Expression) where
  rules : List (Rule ε)

namespace RuleSet

variable {ε : Type}

def empty : RuleSet ε := ⟨[]⟩

/-- The first rule that ignores a whole file. -/
def forFile? [Searchable ε] (set : RuleSet ε) (path : String) : Option Nat :=
  set.rules.findIdx? (·.ignoresFile path)

/-- The first rule that ignores declarations of a name in a file. -/
def forName? [Searchable ε] (set : RuleSet ε) (file name : String) : Option Nat :=
  set.rules.findIdx? (·.ignoresName file name)

/-- The text of the rule with an index. -/
def rawAt (set : RuleSet ε) (index : Nat) : String := ((set.rules[index]?).map Rule.raw).getD ""

/-- The rules of which the index is not among those that applied. -/
def stale (set : RuleSet ε) (applied : List Nat) : List (Rule ε) :=
  (set.rules.zipIdx.filter fun (_, index) => !applied.contains index).map Prod.fst

/-- Reads rules from lines, the first of which has the given number. A line at fault is skipped, and a
limit ends the reading. -/
def ofLines (host : Regex.Host) : Nat → List (List Char) → Logged (Except Regex.Limit (List Rule))
  | _, [] => ⟨.ok [], []⟩
  | number, line :: lines =>
    let text := String.ofList line
    match Rule.parse host text with
    | .error (.limit reached) => ⟨.error reached, []⟩
    | .error (.pattern fault) =>
      let others := ofLines host (number + 1) lines
      ⟨others.value, .ruleRefused number text fault :: others.events⟩
    | .ok none => ofLines host (number + 1) lines
    | .ok (some rule) =>
      let others := ofLines host (number + 1) lines
      ⟨others.value.map (rule :: ·), .ruleLoaded rule.raw :: others.events⟩

def parse (host : Regex.Host) (text : String) : Logged (Except Regex.Limit RuleSet) :=
  let read := ofLines host 1 (Text.lines text.toList)
  ⟨read.value.map RuleSet.mk, read.events⟩

end RuleSet

end Unreferenced.Ignore
