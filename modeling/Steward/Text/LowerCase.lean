import Steward.Text.CaseTable

/-!
# Lower Case

A text in small letters, by the full Unicode rules that need no language.

Every character goes to its simple small letter, with two exceptions. A capital
I with a dot becomes two characters, since its dot has no small letter to sit
on. A capital sigma becomes the final form `ς` where it ends a word: a cased
letter stands before it, none stands after it, and the marks that are ignored
for case are looked through on both sides.

## Main definitions

* `lowerChar`: The simple small letter of a character.
* `endsWord`: Whether a sigma between two texts is the last letter of a word.
* `lowerCase`: A text in small letters.
-/

namespace Steward.Text

/-- The simple small letter of a character, or the character itself. -/
def lowerChar (c : Char) : Char :=
  if c.toNat < 0x80 then c.toLower
  else match lowerRuns.findSome? (·.small? c.toNat) with
    | some n => Char.ofNat n
    | none => c

/-- Whether the first character that is not looked through is a cased letter. -/
def startsCased (cs : List Char) : Bool :=
  match cs.dropWhile caseIgnorableRange.contains with
  | [] => false
  | c :: _ => casedRange.contains c

/-- Whether a sigma with these characters before it (nearest first) and after it
    is the last letter of a word. -/
def endsWord (before after : List Char) : Bool :=
  startsCased before && !startsCased after

/-- The small form of a text whose preceding characters are given, nearest
    first. -/
def lowerCaseAfter (before : List Char) : List Char → List Char
  | [] => []
  | c :: r =>
    let small : List Char :=
      if c = 'Σ' then [if endsWord before r then 'ς' else 'σ']
      else if c = 'İ' then ['i', '\u0307']
      else [lowerChar c]
    small ++ lowerCaseAfter (c :: before) r

/-- A text in small letters. -/
def lowerCase (cs : List Char) : List Char :=
  lowerCaseAfter [] cs

end Steward.Text
