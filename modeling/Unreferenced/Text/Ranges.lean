/-! Sets of code points given as ranges. A table lists its ranges in increasing order without overlap,
both ends included, so membership is a search by halving. -/

namespace Unreferenced.Text

/-- Increasing disjoint ranges of code points, both ends included. -/
abbrev Ranges := Array (Nat × Nat)

namespace Ranges

/-- Looks for the range of `n` among those at positions `low` to `high - 1`. Each step halves the
interval, so the number of ranges bounds the steps. -/
def search (table : Ranges) (n : Nat) : Nat → Nat → Nat → Bool
  | 0, _, _ => false
  | steps + 1, low, high =>
    if low < high then
      let middle := (low + high) / 2
      match table[middle]? with
      | none => false
      | some (first, last) =>
        if n < first then search table n steps low middle
        else if last < n then search table n steps (middle + 1) high
        else true
    else false

/-- Whether `n` lies in one of the ranges. -/
def covers (table : Ranges) (n : Nat) : Bool :=
  table.search n (table.size + 1) 0 table.size

end Ranges

end Unreferenced.Text
