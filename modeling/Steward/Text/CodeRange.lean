/-!
# Sets of Code Points

A set of characters written down as the sorted list of the places where
membership changes.

Unicode properties are unions of a few hundred intervals. `CodeRange.contains`
reads such a union off one flat list: the first number opens an interval, the
second closes it, the third opens the next, and so on. Because the list is
sorted, a search can stop at the first interval that starts past the character
asked about, so the common characters are found at once.

## Main definitions

* `CodeRange`: The sorted boundaries of a union of half-open intervals.
* `CodeRange.contains`: Membership of a character.
-/

namespace Steward.Text

/-- Boundaries of half-open intervals, in ascending order: an interval opens at
    every even position and closes before the number that follows it. -/
abbrev CodeRange := List Nat

namespace CodeRange

/-- Whether a code point lies in one of the intervals. A list of odd length
    leaves its last interval open upwards. -/
def containsCode : CodeRange → Nat → Bool
  | [], _ => false
  | [lo], n => lo ≤ n
  | lo :: hi :: rest, n => lo ≤ n && (n < hi || containsCode rest n)

/-- Whether a character lies in one of the intervals. -/
def contains (r : CodeRange) (c : Char) : Bool :=
  r.containsCode c.toNat

end CodeRange

end Steward.Text
