/-!
# MacConsent.Text.RangeTable

A set of characters as ascending, disjoint ranges of code points, both ends
included. Membership is decided by halving the table.
-/

namespace MacConsent

/-- Ascending, disjoint, inclusive ranges of code points. -/
abbrev RangeTable := Array (Nat × Nat)

namespace RangeTable

/-- Looks for `n` among the ranges from `lo` up to `hi`; each round halves the stretch,
so as many rounds as there are ranges are more than enough. -/
def search (t : RangeTable) (n : Nat) : Nat → Nat → Nat → Bool
  | 0, _, _ => false
  | fuel + 1, lo, hi =>
    let mid := (lo + hi) / 2
    match t[mid]? with
    | none => false
    | some (a, b) =>
      if hi ≤ lo then false
      else if n < a then search t n fuel lo mid
      else if b < n then search t n fuel (mid + 1) hi
      else true

/-- Whether the table holds the character. -/
def mem (t : RangeTable) (c : Char) : Bool := search t c.toNat t.size 0 t.size

end RangeTable

end MacConsent
