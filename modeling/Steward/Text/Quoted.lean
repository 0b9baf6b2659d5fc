import Steward.Text.Printable

/-!
# Quoted Texts

A text between double quotes, so that a reader of a log line can tell where it
ends and see every character in it.

The quote, the backslash and the common controls get a short escape. Any other
character that would not show (`isShown`) is written by its number in braces.
Everything else stands as it is, so a text of plain words keeps its look.

## Main definitions

* `escapeShown`: How one character is written between the quotes.
* `quoted`: A text between quotes.
-/

namespace Steward.Text

/-- The digits of a code point in base sixteen, in small letters. -/
def hexDigits (n : Nat) : List Char :=
  Nat.toDigits 16 n

/-- How one character is written between the quotes. -/
def escapeShown (c : Char) : List Char :=
  match c with
  | '"' => ['\\', '"']
  | '\\' => ['\\', '\\']
  | '\n' => ['\\', 'n']
  | '\r' => ['\\', 'r']
  | '\t' => ['\\', 't']
  | '\x00' => ['\\', '0']
  | c =>
    if isShown c then [c]
    else ['\\', 'u', '\x7b'] ++ hexDigits c.toNat ++ ['\x7d']

/-- A text between double quotes, with every character that would not show
    written out. -/
def quoted (s : String) : String :=
  String.ofList ('"' :: s.toList.flatMap escapeShown ++ ['"'])

end Steward.Text
