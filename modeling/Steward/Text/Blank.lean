import Steward.Text.CodeRange

/-!
# Blank Characters

Which characters count as blank, and what is left of a text once the blanks
around it are gone.

Blank is Unicode's `White_Space` property, and nothing else: a zero-width space
or a byte-order mark is not blank, a no-break space is. Settings and signal
names are trimmed by this rule before anything else is decided about them.

## Main definitions

* `isBlank`: The `White_Space` property.
* `trim`: A text without the blanks at its two ends.
* `isAllBlank`: Nothing is left after trimming.

## Theorems

* `trim_eq_nil_iff`: Trimming leaves nothing exactly of an all-blank text.
-/

namespace Steward.Text

/-- The intervals of Unicode's `White_Space` property. -/
def blankRange : CodeRange := [
  0x9, 0xe, 0x20, 0x21, 0x85, 0x86, 0xa0, 0xa1, 0x1680, 0x1681, 0x2000, 0x200b,
  0x2028, 0x202a, 0x202f, 0x2030, 0x205f, 0x2060, 0x3000, 0x3001]

/-- Whether a character is blank. -/
def isBlank (c : Char) : Bool :=
  blankRange.contains c

/-- A text without the blank characters at its beginning and its end. -/
def trim (cs : List Char) : List Char :=
  ((cs.dropWhile isBlank).reverse.dropWhile isBlank).reverse

/-- Whether a text holds blank characters only. The empty text does. -/
def isAllBlank (cs : List Char) : Bool :=
  cs.all isBlank

/-- Dropping from the front leaves nothing exactly when all is dropped. -/
private theorem dropWhile_isBlank_eq_nil_iff (cs : List Char) :
    cs.dropWhile isBlank = [] ↔ cs.all isBlank = true := by
  induction cs with
  | nil => simp
  | cons c r ih => by_cases h : isBlank c <;> simp [h, ih]

/-- A text is trimmed to nothing exactly when it is all blank. -/
theorem trim_eq_nil_iff (cs : List Char) : trim cs = [] ↔ isAllBlank cs = true := by
  unfold trim isAllBlank
  rw [List.reverse_eq_nil_iff, dropWhile_isBlank_eq_nil_iff]
  constructor
  · intro h
    rw [← dropWhile_isBlank_eq_nil_iff]
    cases hd : cs.dropWhile isBlank with
    | nil => rfl
    | cons c r =>
      -- The first character kept is not blank, yet all that was kept is.
      have hc : isBlank c = false := by
        have := List.head?_dropWhile_not isBlank cs
        simpa [hd] using this
      rw [hd] at h
      simp [hc] at h
  · intro h
    rw [(dropWhile_isBlank_eq_nil_iff cs).2 h]
    rfl

end Steward.Text
