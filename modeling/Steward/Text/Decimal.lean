/-!
# Decimal Numbers

Numbers that are written with decimal digits.

## Main definitions

* `decimalValue`: The value of digits.
* `parseWord?`: A number that fits into a word of 64 bits.
-/

namespace Steward.Text

/-- The value of decimal digits. -/
def decimalValue (ds : List Char) : Nat :=
  ds.foldl (fun n c => n * 10 + (c.toNat - '0'.toNat)) 0

/-- A decimal number without a sign other than plus, up to the largest word. It
    may begin with zeros. -/
def parseWord? (cs : List Char) : Option UInt64 :=
  let digits := match cs with
    | '+' :: rest => rest
    | cs => cs
  if digits.isEmpty || !digits.all Char.isDigit then none
  else if decimalValue digits < UInt64.size then some (UInt64.ofNat (decimalValue digits))
  else none

end Steward.Text
