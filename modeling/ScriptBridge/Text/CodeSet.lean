/-!
# Sets of code points

A set of code points is given by the increasing list of the points where membership changes: the
first boundary is the first member, the next one the first non-member after it, and so on.
-/

namespace ScriptBridge.Text

/-- The points where membership in a set of code points changes, in increasing order. -/
abbrev CodeSet := List Nat

/-- A code point belongs to the set when an odd number of boundaries lie at or below it. -/
def CodeSet.contains (s : CodeSet) (n : Nat) : Bool := (s.takeWhile (· ≤ n)).length % 2 == 1

end ScriptBridge.Text
