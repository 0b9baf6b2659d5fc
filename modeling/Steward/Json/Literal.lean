/-!
# JSON Texts, Written

The pieces of a compact JSON text: literals, arrays and objects, without a
space between them.

A literal escapes what JSON demands and nothing else. The quote, the backslash
and five controls have short escapes, the other characters below the space are
written by number, and everything above stands as it is. No character below the
space is ever written, whatever is put in.

## Main definitions

* `Json.escape`: How one character is written inside a literal.
* `Json.literal`: A string literal.
* `Json.array`, `Json.object`: Values between brackets.

## Theorems

* `Json.escape_of_plain`: Most characters stand for themselves.
-/

namespace Steward.Json

/-- The two hexadecimal digits of a number below 256, in small letters. -/
def hexPair (n : Nat) : List Char :=
  [Nat.digitChar (n / 16), Nat.digitChar (n % 16)]

/-- How one character is written inside a literal. -/
def escape (c : Char) : List Char :=
  if c = '"' then ['\\', '"']
  else if c = '\\' then ['\\', '\\']
  else if c = '\x08' then ['\\', 'b']
  else if c = '\x0c' then ['\\', 'f']
  else if c = '\n' then ['\\', 'n']
  else if c = '\r' then ['\\', 'r']
  else if c = '\t' then ['\\', 't']
  else if c.toNat < 0x20 then ['\\', 'u', '0', '0'] ++ hexPair c.toNat
  else [c]

/-- A string literal. -/
def literal (s : String) : List Char :=
  '"' :: s.toList.flatMap escape ++ ['"']

/-- Values between square brackets, separated by commas. -/
def array (values : List (List Char)) : List Char :=
  '[' :: List.intercalate [','] values ++ [']']

/-- One member of an object: its name, a colon and its value. -/
def member (name : String) (value : List Char) : List Char :=
  literal name ++ ':' :: value

/-- Members between braces, separated by commas. -/
def object (members : List (List Char)) : List Char :=
  '\x7b' :: List.intercalate [','] members ++ ['\x7d']

/-- Above the controls, a character that is neither quote nor backslash stands
    for itself. -/
theorem escape_of_plain {c : Char} (hq : c ≠ '"') (hb : c ≠ '\\') (h : 0x20 ≤ c.toNat) :
    escape c = [c] := by
  have low : ∀ d : Char, d.toNat < 0x20 → c ≠ d := by
    rintro d hd rfl
    omega
  simp [escape, hq, hb, low '\x08' (by decide), low '\x0c' (by decide), low '\n' (by decide),
    low '\r' (by decide), low '\t' (by decide), Nat.not_lt.2 h]

end Steward.Json
