import Steward.Text.Decimal

/-!
# JSON Numbers

How far a number reaches, and whether it can be held.

No value that is read here is a number, so a number is only ever passed over or
found to be out of place. Two things have to be known of it all the same: where
it ends, since nothing marks its end but the character after it, and whether it
is beyond the largest double, because such a number is refused before anybody
asks what it is for.

`NumberPart` is the grammar as a machine that reads one character at a time.
`isBeyondRange` follows the digits into a double. Digits that no longer fit into
64 bits are dropped and only counted, and the rest is scaled by a power of ten
in one rounded multiplication.

## Main definitions

* `Json.NumberPart`: Where in a number a reader stands.
* `Json.NumberPart.next?`: The part that a further character leads to.
* `Json.NumberPart.isComplete`: Whether a number may end here.
* `Json.isBeyondRange`: Whether a number exceeds the doubles.
-/

namespace Steward.Json

/-- The part of a number that was read last. -/
inductive NumberPart where
  /-- The minus sign. -/
  | sign
  /-- A leading zero, which no digit may follow. -/
  | zero
  /-- The digits before the point. -/
  | whole
  /-- The point. -/
  | point
  /-- The digits after the point. -/
  | fraction
  /-- The letter of the exponent. -/
  | exponentMark
  /-- The sign of the exponent. -/
  | exponentSign
  /-- The digits of the exponent. -/
  | exponent
deriving DecidableEq, Repr

namespace NumberPart

/-- The part that a character leads to, if the number goes on with it. -/
def next? (p : NumberPart) (c : Char) : Option NumberPart :=
  match p with
  | .sign => if c = '0' then some .zero else if c.isDigit then some .whole else none
  | .zero =>
    if c = '.' then some .point else if c = 'e' ∨ c = 'E' then some .exponentMark else none
  | .whole =>
    if c.isDigit then some .whole else if c = '.' then some .point
    else if c = 'e' ∨ c = 'E' then some .exponentMark else none
  | .point => if c.isDigit then some .fraction else none
  | .fraction =>
    if c.isDigit then some .fraction
    else if c = 'e' ∨ c = 'E' then some .exponentMark else none
  | .exponentMark =>
    if c = '+' ∨ c = '-' then some .exponentSign
    else if c.isDigit then some .exponent else none
  | .exponentSign | .exponent => if c.isDigit then some .exponent else none

/-- Whether a number may end after this part. -/
def isComplete : NumberPart → Bool
  | .zero | .whole | .fraction | .exponent => true
  | .sign | .point | .exponentMark | .exponentSign => false

/-- Whether a number that ends before this character has ended well. A digit
    after a leading zero is neither part of the number nor allowed to follow. -/
def endsBefore (p : NumberPart) (c : Char) : Bool :=
  p.isComplete && !(p = .zero && c.isDigit)

end NumberPart

/-- A number with its decimal point moved: `significand` times ten to the power
    of `exponent`. -/
structure Scaled where
  significand : Nat
  exponent : Int

/-- The largest significand that is kept. -/
def significandLimit : Nat := Nat.pow 2 64 - 1

/-- The digits before the point. A digit that does not fit is dropped, and so
    are all after it, each raising the exponent. -/
def Scaled.addWhole (full : Bool) (s : Scaled) : List Char → Scaled
  | [] => s
  | c :: rest =>
    let next := s.significand * 10 + (c.toNat - '0'.toNat)
    if full || significandLimit < next then
      addWhole true { s with exponent := s.exponent + 1 } rest
    else addWhole false { s with significand := next } rest

/-- The digits after the point. Those from the first that does not fit on have
    no effect. -/
def Scaled.addFraction (s : Scaled) : List Char → Scaled
  | [] => s
  | c :: rest =>
    let next := s.significand * 10 + (c.toNat - '0'.toNat)
    if significandLimit < next then s
    else addFraction ⟨next, s.exponent - 1⟩ rest

/-- The nearest number with 53 significant bits, of two equally near the even
    one. -/
def roundToDouble (n : Nat) : Nat :=
  let shift := n.log2 + 1 - 53
  let unit := Nat.pow 2 shift
  let low := n / unit
  let rest := n % unit
  let up := unit < 2 * rest || (2 * rest = unit && low % 2 = 1)
  (if up then low + 1 else low) * unit

/-- From here on a double is infinite: half a unit above the largest one. -/
def doubleLimit : Nat := Nat.pow 2 1024 - Nat.pow 2 970

/-- Whether a scaled number exceeds the doubles. -/
def Scaled.isBeyondRange (s : Scaled) : Bool :=
  s.significand != 0 &&
    match s.exponent with
    | .ofNat e =>
      308 < e || doubleLimit ≤ roundToDouble s.significand * roundToDouble (Nat.pow 10 e)
    | .negSucc _ => false

/-- The largest written exponent that is followed digit by digit. -/
def exponentLimit : Nat := Nat.pow 2 31 - 1

/-- Whether a scaled number exceeds the doubles once an exponent is written after
    it. The written exponent adds to the one the dropped digits have raised or
    lowers it, so a long number can be brought back into range only as far as it
    is written down. One that is too large to follow decides by its sign. -/
def Scaled.isBeyondRangeWith (s : Scaled) (negative : Bool) (written : Nat) : Bool :=
  if exponentLimit < written then !negative && s.significand != 0
  else if negative then { s with exponent := s.exponent - written }.isBeyondRange
  else { s with exponent := s.exponent + written }.isBeyondRange

/-- Whether a complete number, given by its characters without the sign, exceeds
    the doubles. -/
def isBeyondRange (cs : List Char) : Bool :=
  let whole := cs.takeWhile Char.isDigit
  let afterWhole := cs.dropWhile Char.isDigit
  let s := Scaled.addWhole false ⟨0, 0⟩ whole
  let (s, rest) :=
    match afterWhole with
    | '.' :: r => (s.addFraction (r.takeWhile Char.isDigit), r.dropWhile Char.isDigit)
    | r => (s, r)
  match rest with
  | [] => s.isBeyondRange
  | _ :: '-' :: r => s.isBeyondRangeWith true (Text.decimalValue r)
  | _ :: '+' :: r => s.isBeyondRangeWith false (Text.decimalValue r)
  | _ :: r => s.isBeyondRangeWith false (Text.decimalValue r)

end Steward.Json
