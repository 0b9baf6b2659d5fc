import Steward.Log.Rule
import Steward.Text.Pieces

/-!
# Filters of the Log

Which lines of the log are let through.

A filter is a list of rules. For a line the most particular of the rules that
are for it decides. A line no rule is for does not pass, so the filter without
rules lets nothing through. In writing the rules stand between commas, and empty
pieces are passed over.

## Main definitions

* `LogFilter`: A list of rules.
* `LogFilter.parse?`: Reading a filter.
* `LogFilter.passes`: Whether a line is let through.
-/

namespace Steward

/-- Rules, in the order in which they were written. -/
abbrev LogFilter := List LogRule

namespace LogFilter

/-- Reading a filter. One bad rule spoils it. -/
def parse? (text : String) : Option LogFilter :=
  ((Text.pieces ',' text.toList).filter fun piece => !piece.isEmpty).mapM LogRule.parse?

/-- The rule that decides on a line. -/
def rule? (f : LogFilter) (line : LogLine) : Option LogRule :=
  (f.filter (·.isFor line)).foldl (fun best r =>
    match best with
    | some b => if b.yields r then some r else some b
    | none => some r) none

/-- Whether a line is let through. -/
def passes (f : LogFilter) (line : LogLine) : Bool :=
  match (f.rule? line).bind (·.limit) with
  | some limit => line.level.rank ≤ limit.rank
  | none => false

end LogFilter

end Steward
