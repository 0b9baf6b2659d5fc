import Steward.Json.Shape

/-!
# Reading a JSON Literal

A string literal, one character at a time, from the opening quote to the
closing one.

A literal whose text is wanted has to spell real characters: an escape above
the basic plane comes as a pair of surrogates, and a surrogate without its
partner is an error. A literal that is passed over only has to be well formed,
so there the same escape is accepted. `LiteralScan.strict` is that difference.

The four digits of a numbered escape are taken as four bytes, before any of
them is looked at. A text that ends within them has ended too early, whatever
the digits are.

## Main definitions

* `Json.LiteralSpot`: Where in a literal a reader stands.
* `Json.LiteralScan`: A literal that has been read in part.
* `Json.LiteralScan.step`: The effect of one character.

## Theorems

* `Json.LiteralScan.step_plain`: A plain character is kept.
-/

namespace Steward.Json

/-- Where in a literal a reader stands. -/
inductive LiteralSpot where
  /-- Between two characters. -/
  | plain
  /-- After a backslash. -/
  | escape
  /-- Within the four bytes of a numbered escape: the leading surrogate before
      it, if there was one, the bytes so far and their value, unless one of them
      is no digit. -/
  | digits (lead : Option Nat) (bytes : Nat) (value : Option Nat)
  /-- After a leading surrogate, whose partner has to follow. -/
  | lead (code : Nat)
  /-- After a leading surrogate and a backslash. -/
  | leadEscape (code : Nat)
deriving DecidableEq, Repr

/-- A literal that has been read in part. -/
structure LiteralScan where
  /-- Whether the literal has to spell real characters. -/
  strict : Bool
  /-- The characters read so far, the last one first. -/
  done : List Char := []
  spot : LiteralSpot := .plain
deriving DecidableEq, Repr

/-- What a character does to a literal. -/
inductive LiteralStep where
  /-- The literal goes on. -/
  | more (scan : LiteralScan)
  /-- The literal ends here, with this text. -/
  | ended (text : String)

/-- The value of a hexadecimal digit. -/
def hexValue? (c : Char) : Option Nat :=
  if c.isDigit then some (c.toNat - '0'.toNat)
  else if 'a' ≤ c ∧ c ≤ 'f' then some (c.toNat - 'a'.toNat + 10)
  else if 'A' ≤ c ∧ c ≤ 'F' then some (c.toNat - 'A'.toNat + 10)
  else none

/-- The first half of a pair of surrogates. -/
def isLead (n : Nat) : Bool := 0xd800 ≤ n && n ≤ 0xdbff

/-- The second half of a pair of surrogates. -/
def isTrail (n : Nat) : Bool := 0xdc00 ≤ n && n ≤ 0xdfff

/-- The character that a pair of surrogates stands for. -/
def pairChar (lead trail : Nat) : Char :=
  Char.ofNat ((lead - 0xd800) * 0x400 + (trail - 0xdc00) + 0x10000)

namespace LiteralScan

/-- The literal with one more character in it. -/
def keep (s : LiteralScan) (c : Char) : LiteralStep :=
  .more { s with done := c :: s.done, spot := .plain }

/-- The literal at another spot. -/
def goTo (s : LiteralScan) (spot : LiteralSpot) : LiteralStep :=
  .more { s with spot }

/-- The effect of the code a numbered escape spells. -/
def codeStep (s : LiteralScan) (lead : Option Nat) (code : Nat) : Except ReadError LiteralStep :=
  if !s.strict then .ok (s.goTo .plain)
  else match lead with
    | some first => if isTrail code then .ok (s.keep (pairChar first code)) else .error .malformed
    | none =>
      if isTrail code then .error .malformed
      else if isLead code then .ok (s.goTo (.lead code))
      else .ok (s.keep (Char.ofNat code))

/-- The effect of the character after a backslash. -/
def escapeStep (s : LiteralScan) (c : Char) : Except ReadError LiteralStep :=
  match c with
  | '"' | '\\' | '/' => .ok (s.keep c)
  | 'b' => .ok (s.keep '\x08')
  | 'f' => .ok (s.keep '\x0c')
  | 'n' => .ok (s.keep '\n')
  | 'r' => .ok (s.keep '\r')
  | 't' => .ok (s.keep '\t')
  | 'u' => .ok (s.goTo (.digits none 0 (some 0)))
  | _ => .error .malformed

/-- The effect of one character. -/
def step (s : LiteralScan) (c : Char) : Except ReadError LiteralStep :=
  match s.spot with
  | .plain =>
    if c = '"' then .ok (.ended (String.ofList s.done.reverse))
    else if c = '\\' then .ok (s.goTo .escape)
    else if c.toNat < 0x20 then .error .malformed
    else .ok (s.keep c)
  | .escape => s.escapeStep c
  | .digits lead bytes value =>
    let bytes := bytes + c.utf8Size
    let value := value.bind fun v => (hexValue? c).map (v * 16 + ·)
    if bytes < 4 then .ok (s.goTo (.digits lead bytes value))
    else match value with
      | some code => s.codeStep lead code
      | none => .error .malformed
  | .lead code => if c = '\\' then .ok (s.goTo (.leadEscape code)) else .error .malformed
  | .leadEscape code =>
    if c = 'u' then .ok (s.goTo (.digits (some code) 0 (some 0))) else .error .malformed

/-- A character that is no quote, no backslash and no control is kept. -/
theorem step_plain {s : LiteralScan} (h : s.spot = .plain) {c : Char} (hq : c ≠ '"')
    (hb : c ≠ '\\') (hc : 0x20 ≤ c.toNat) : s.step c = .ok (s.keep c) := by
  simp [step, h, hq, hb, Nat.not_lt.2 hc]

end LiteralScan

end Steward.Json
