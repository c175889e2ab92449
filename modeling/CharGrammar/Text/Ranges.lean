import CharGrammar.Text.Basic

/-!
Sets of characters as sorted tables of code point ranges, searched by halving.
-/

namespace CharGrammar.Text

/-- First and last code point of each range, in ascending order and apart from each other. -/
abbrev Ranges := Array (Nat × Nat)

namespace Ranges

/-- The index, between `lo` and `hi`, of the first range that does not end before `n`. -/
def find (t : Ranges) (n lo hi : Nat) : Nat :=
  if lo < hi then
    let mid := (lo + hi) / 2
    if (t.getD mid (0, 0)).2 < n then find t n (mid + 1) hi else find t n lo mid
  else lo
termination_by hi - lo

def contains (t : Ranges) (c : Char) : Bool :=
  match t[t.find c.toNat 0 t.size]? with
  | some (first, _) => first ≤ c.toNat
  | none => false

end Ranges

end CharGrammar.Text
