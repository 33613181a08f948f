/-!
# Sets of characters given by ranges

A table of the Unicode standard is a list of code point ranges in increasing order.

## Main definitions

* `Ranges.has` : whether a code point lies in one of the ranges.
-/

namespace StringsAudit
namespace Text

/-- Ranges of code points, both ends included, disjoint and in increasing order. -/
abbrev Ranges := List (Nat × Nat)

/-- Whether a code point lies in a range; the search ends at the first range past it. -/
def Ranges.has : Ranges → Nat → Bool
  | [], _ => false
  | (first, last) :: rest, n =>
      if n < first then false
      else if n ≤ last then true
      else Ranges.has rest n

end Text
end StringsAudit
