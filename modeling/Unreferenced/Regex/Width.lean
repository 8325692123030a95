import Unreferenced.Regex.Syntax

/-! How many characters an expression matches. A lookbehind needs this, for it steps back by a fixed
number of characters before it matches. -/

namespace Unreferenced.Regex

namespace Width

/-- Widths stop counting here. -/
def limit : Nat := UInt64.size

def exactly (n : Nat) : Width := ⟨n, n⟩

/-- One after the other. -/
def add (a b : Width) : Width :=
  ⟨min (a.least + b.least) limit, min (a.most + b.most) limit⟩

/-- One or the other. -/
def join (a b : Width) : Width := ⟨min a.least b.least, max a.most b.most⟩

/-- Several in a row. -/
def times (least : Nat) (most : Option Nat) (a : Width) : Width :=
  ⟨min (a.least * least) limit,
    match most with
    | some n => min (a.most * n) limit
    | none => if a.most = 0 then 0 else limit⟩

end Width

/-- The width of an expression, given the widths of the groups it refers to. -/
def Node.width (groups : Nat → Width) : Node → Width
  | empty | anchor _ | ahead _ _ | behind _ _ _ => .exactly 0
  | one _ | allBut _ | any | set _ _ => .exactly 1
  | backref index => groups index
  | group _ body | flagged _ _ body | atomic body => body.width groups
  | conditional _ yes no => (yes.width groups).join (no.width groups)
  | repeated _ least most body => (body.width groups).times least most
  | seq first second => (first.width groups).add (second.width groups)
  | alt left right => (left.width groups).join (right.width groups)

end Unreferenced.Regex
