/-!
Tables of code points as ordered ranges, and looking a code point up in one by halving.
-/
namespace LintBridge.Text

/-- Does `n` lie in a range whose index is at least `low` and below `high`? -/
def inRangesBetween (table : Array (Nat × Nat)) (n : Nat) (low high : Nat) : Bool :=
  if low < high then
    let middle := (low + high) / 2
    match table[middle]? with
    | none => false
    | some (first, last) =>
      if n < first then inRangesBetween table n low middle
      else if last < n then inRangesBetween table n (middle + 1) high
      else true
  else false
termination_by high - low

def inRanges (table : Array (Nat × Nat)) (n : Nat) : Bool :=
  inRangesBetween table n 0 table.size

end LintBridge.Text
