import Steward.Json.Number
import Mathlib.Data.Option.Basic

/-!
# Numbers in General

What a number looks like, and the path that a reader takes through it.

A reader knows the part of a number it has read last, and the parts that a further
character may lead to. `Numeral` is the grammar, as it is usually given: an optional sign,
the digits before the point, and perhaps a fraction and an exponent. The two come together
part by part and from the end, since what may follow the last part is simplest.

## Main definitions

* `Numeral`: What numbers look like.
* `NumberPart.begin?`: The part that a number begins with.
* `NumberPart.MayEnd`: A number may go on in a certain way and then end.

## Theorems

* `numeral_iff`: Numbers are the texts whose characters lead to where a number may end.
-/

namespace Steward.Json

/-- At least one digit, and nothing else. -/
def IsDigits (cs : List Char) : Prop :=
  cs ≠ [] ∧ ∀ c ∈ cs, c.isDigit = true

/-- The digits before the point. A zero stands alone. -/
inductive WholePart : List Char → Prop where
  | zero : WholePart ['0']
  | digits {c : Char} {cs : List Char} (hc : c.isDigit = true) (hzero : c ≠ '0')
      (h : ∀ d ∈ cs, d.isDigit = true) : WholePart (c :: cs)

/-- The point and the digits after it, or nothing. -/
inductive FractionPart : List Char → Prop where
  | absent : FractionPart []
  | digits {cs : List Char} (h : IsDigits cs) : FractionPart ('.' :: cs)

/-- The exponent with its letter and perhaps a sign, or nothing. -/
inductive ExponentPart : List Char → Prop where
  | absent : ExponentPart []
  | digits {mark : Char} {sign cs : List Char} (hmark : mark = 'e' ∨ mark = 'E')
      (hsign : sign ∈ [[], ['+'], ['-']]) (h : IsDigits cs) :
      ExponentPart (mark :: (sign ++ cs))

/-- A number. -/
inductive Numeral : List Char → Prop where
  | positive {whole fraction exponent : List Char} (hwhole : WholePart whole)
      (hfraction : FractionPart fraction) (hexponent : ExponentPart exponent) :
      Numeral (whole ++ (fraction ++ exponent))
  | negative {whole fraction exponent : List Char} (hwhole : WholePart whole)
      (hfraction : FractionPart fraction) (hexponent : ExponentPart exponent) :
      Numeral ('-' :: (whole ++ (fraction ++ exponent)))

namespace NumberPart

/-- The part that a number begins with. -/
def begin? (c : Char) : Option NumberPart :=
  if c = '-' then some .sign
  else if c = '0' then some .zero
  else if c.isDigit then some .whole
  else none

/-- The part that a piece of a number leads to. -/
def goOn (p : NumberPart) (cs : List Char) : Option NumberPart :=
  cs.foldlM next? p

/-- A number may go on like this and then end. -/
def MayEnd (p : NumberPart) (cs : List Char) : Prop :=
  ∃ q, p.goOn cs = some q ∧ q.isComplete = true

variable {p q : NumberPart} {c : Char} {cs ds : List Char}

/-- A number begins with its sign, with a zero, or with another digit. -/
theorem begin?_eq_some : begin? c = some p ↔
    c = '-' ∧ p = .sign ∨ c = '0' ∧ p = .zero ∨ c.isDigit = true ∧ c ≠ '0' ∧ p = .whole := by
  rw [begin?]
  by_cases hsign : c = '-'
  · subst hsign
    simp [show '-'.isDigit = false from rfl, eq_comm]
  · by_cases hzero : c = '0'
    · subst hzero
      simp [eq_comm]
    · by_cases hdigit : c.isDigit = true <;> simp [hsign, hzero, hdigit, eq_comm]

theorem goOn_cons (p : NumberPart) (c : Char) (cs : List Char) :
    p.goOn (c :: cs) = (p.next? c).bind (·.goOn cs) := by
  rw [goOn, List.foldlM_cons]
  rfl

theorem mayEnd_nil : p.MayEnd [] ↔ p.isComplete = true := by
  constructor
  · rintro ⟨q, hq, hcomplete⟩
    cases hq
    exact hcomplete
  · intro h
    exact ⟨p, rfl, h⟩

theorem mayEnd_cons : p.MayEnd (c :: cs) ↔ ∃ q, p.next? c = some q ∧ q.MayEnd cs := by
  constructor
  · rintro ⟨r, hr, hcomplete⟩
    rw [goOn_cons] at hr
    rcases Option.bind_eq_some_iff.mp hr with ⟨q, hq, hr⟩
    exact ⟨q, hq, r, hr, hcomplete⟩
  · rintro ⟨q, hq, r, hr, hcomplete⟩
    refine ⟨r, ?_, hcomplete⟩
    rw [goOn_cons, hq, Option.bind_some, hr]

/-- Digits lead to more of the part they are in. -/
theorem MayEnd.digits (hstay : ∀ d : Char, d.isDigit = true → p.next? d = some p)
    (hds : ∀ d ∈ ds, d.isDigit = true) (h : p.MayEnd cs) : p.MayEnd (ds ++ cs) := by
  induction ds with
  | nil => exact h
  | cons d rest ih =>
      rw [List.forall_mem_cons] at hds
      exact mayEnd_cons.mpr ⟨p, hstay d hds.1, ih hds.2⟩

/-- A digit is none of the signs and letters in a number. -/
theorem ne_of_isDigit (hc : c.isDigit = true) :
    c ≠ '.' ∧ ¬(c = 'e' ∨ c = 'E') ∧ ¬(c = '+' ∨ c = '-') := by
  refine ⟨?_, ?_, ?_⟩
  · rintro rfl
    exact absurd hc (by decide)
  · rintro (rfl | rfl) <;> exact absurd hc (by decide)
  · rintro (rfl | rfl) <;> exact absurd hc (by decide)

theorem mayEnd_exponent : exponent.MayEnd cs ↔ ∀ c ∈ cs, c.isDigit = true := by
  induction cs with
  | nil => exact iff_of_true (mayEnd_nil.mpr rfl) (List.forall_mem_nil _)
  | cons c rest ih =>
      rw [mayEnd_cons, List.forall_mem_cons, ← ih]
      by_cases hc : c.isDigit = true <;> simp [next?, hc]

theorem mayEnd_exponentSign : exponentSign.MayEnd cs ↔ IsDigits cs := by
  cases cs with
  | nil => simp [mayEnd_nil, isComplete, IsDigits]
  | cons c rest =>
      rw [mayEnd_cons, IsDigits, List.forall_mem_cons, ← mayEnd_exponent]
      by_cases hc : c.isDigit = true <;> simp [next?, hc]

theorem mayEnd_exponentMark : exponentMark.MayEnd cs ↔
    ∃ sign ds, sign ∈ [[], ['+'], ['-']] ∧ IsDigits ds ∧ cs = sign ++ ds := by
  constructor
  · intro h
    cases cs with
    | nil => exact absurd (mayEnd_nil.mp h) (by decide)
    | cons c rest =>
        rcases mayEnd_cons.mp h with ⟨q, hq, hrest⟩
        -- The first character is a sign or the first digit.
        rw [next?] at hq
        split at hq
        · rename_i hsign
          cases hq
          refine ⟨[c], rest, ?_, mayEnd_exponentSign.mp hrest, rfl⟩
          rcases hsign with rfl | rfl <;> decide
        · split at hq
          · rename_i hdigit
            cases hq
            refine ⟨[], c :: rest, by decide, ⟨List.cons_ne_nil _ _, ?_⟩, rfl⟩
            exact List.forall_mem_cons.mpr ⟨hdigit, mayEnd_exponent.mp hrest⟩
          · cases hq
  · rintro ⟨sign, ds, hsign, hds, rfl⟩
    simp only [List.mem_cons, List.not_mem_nil, or_false] at hsign
    -- Without a sign the first character is a digit, and no digit is taken for a sign.
    rcases hsign with rfl | rfl | rfl
    · rcases hds with ⟨hne, hdigits⟩
      cases ds with
      | nil => exact absurd rfl hne
      | cons d rest =>
          rw [List.forall_mem_cons] at hdigits
          refine mayEnd_cons.mpr ⟨exponent, ?_, mayEnd_exponent.mpr hdigits.2⟩
          simp only [next?, (ne_of_isDigit hdigits.1).2.2, hdigits.1, if_false, if_true]
    · exact mayEnd_cons.mpr ⟨exponentSign, rfl, mayEnd_exponentSign.mpr hds⟩
    · exact mayEnd_cons.mpr ⟨exponentSign, rfl, mayEnd_exponentSign.mpr hds⟩

/-- Where a number may end, it may have an exponent. -/
theorem MayEnd.exponentPart (hend : p.isComplete = true)
    (hmark : ∀ c, c = 'e' ∨ c = 'E' → p.next? c = some exponentMark) (h : ExponentPart cs) :
    p.MayEnd cs := by
  cases h with
  | absent => exact mayEnd_nil.mpr hend
  | @digits mark sign ds hletter hsign hds =>
      exact mayEnd_cons.mpr ⟨exponentMark, hmark mark hletter,
        mayEnd_exponentMark.mpr ⟨sign, ds, hsign, hds, rfl⟩⟩

theorem exponentPart_of_mark {mark : Char} (hmark : mark = 'e' ∨ mark = 'E')
    (h : exponentMark.MayEnd cs) : ExponentPart (mark :: cs) := by
  rcases mayEnd_exponentMark.mp h with ⟨sign, ds, hsign, hds, rfl⟩
  exact .digits hmark hsign hds

theorem next?_fraction (hc : c.isDigit = true) : fraction.next? c = some fraction := by
  simp only [next?, hc, if_true]

theorem next?_whole (hc : c.isDigit = true) : whole.next? c = some whole := by
  simp only [next?, hc, if_true]

theorem mayEnd_fraction : fraction.MayEnd cs ↔
    ∃ ds e, (∀ d ∈ ds, d.isDigit = true) ∧ ExponentPart e ∧ cs = ds ++ e := by
  constructor
  · intro h
    -- The induction is on the characters: another digit leaves the part of the number as it is.
    induction cs with
    | nil => exact ⟨[], [], List.forall_mem_nil _, .absent, rfl⟩
    | cons c rest ih =>
        rcases mayEnd_cons.mp h with ⟨q, hq, hrest⟩
        rw [next?] at hq
        split at hq
        · rename_i hdigit
          cases hq
          rcases ih hrest with ⟨ds, e, hds, he, rfl⟩
          exact ⟨c :: ds, e, List.forall_mem_cons.mpr ⟨hdigit, hds⟩, he, rfl⟩
        · split at hq
          · rename_i hmark
            cases hq
            exact ⟨[], c :: rest, List.forall_mem_nil _, exponentPart_of_mark hmark hrest, rfl⟩
          · cases hq
  · rintro ⟨ds, e, hds, he, rfl⟩
    refine .digits (fun d hd => next?_fraction hd) hds (.exponentPart rfl (fun c hc => ?_) he)
    rcases hc with rfl | rfl <;> rfl

theorem mayEnd_point : point.MayEnd cs ↔
    ∃ ds e, IsDigits ds ∧ ExponentPart e ∧ cs = ds ++ e := by
  constructor
  · intro h
    cases cs with
    -- A point must be followed by a digit.
    | nil => exact absurd (mayEnd_nil.mp h) (by decide)
    | cons c rest =>
        rcases mayEnd_cons.mp h with ⟨q, hq, hrest⟩
        rw [next?] at hq
        split at hq
        · rename_i hdigit
          cases hq
          rcases mayEnd_fraction.mp hrest with ⟨ds, e, hds, he, rfl⟩
          exact ⟨c :: ds, e, ⟨List.cons_ne_nil _ _, List.forall_mem_cons.mpr ⟨hdigit, hds⟩⟩, he,
            rfl⟩
        · cases hq
  · rintro ⟨ds, e, ⟨hne, hds⟩, he, rfl⟩
    cases ds with
    | nil => exact absurd rfl hne
    | cons d rest =>
        rw [List.forall_mem_cons] at hds
        refine mayEnd_cons.mpr ⟨fraction, ?_, mayEnd_fraction.mpr ⟨rest, e, hds.2, he, rfl⟩⟩
        simp only [next?, hds.1, if_true]

/-- Where a number may end before its point, it may have a fraction and an exponent. -/
theorem MayEnd.fractionPart {ds : List Char} (hend : p.isComplete = true)
    (hmark : ∀ c, c = 'e' ∨ c = 'E' → p.next? c = some exponentMark)
    (hpoint : p.next? '.' = some point) (hf : FractionPart cs) (he : ExponentPart ds) :
    p.MayEnd (cs ++ ds) := by
  cases hf with
  | absent => exact .exponentPart hend hmark he
  | @digits digits hdigits =>
      exact mayEnd_cons.mpr ⟨point, hpoint, mayEnd_point.mpr ⟨digits, ds, hdigits, he, rfl⟩⟩

theorem fractionPart_of_point (h : point.MayEnd cs) :
    ∃ f e, FractionPart f ∧ ExponentPart e ∧ '.' :: cs = f ++ e := by
  rcases mayEnd_point.mp h with ⟨ds, e, hds, he, rfl⟩
  exact ⟨'.' :: ds, e, .digits hds, he, rfl⟩

theorem mayEnd_zero : zero.MayEnd cs ↔
    ∃ f e, FractionPart f ∧ ExponentPart e ∧ cs = f ++ e := by
  constructor
  · intro h
    cases cs with
    -- After a leading zero no digit may come, only a point, a mark of the exponent, or the end.
    | nil => exact ⟨[], [], .absent, .absent, rfl⟩
    | cons c rest =>
        rcases mayEnd_cons.mp h with ⟨q, hq, hrest⟩
        rw [next?] at hq
        split at hq
        · rename_i hpoint
          cases hq
          rw [hpoint]
          exact fractionPart_of_point hrest
        · split at hq
          · rename_i hmark
            cases hq
            exact ⟨[], c :: rest, .absent, exponentPart_of_mark hmark hrest, rfl⟩
          · cases hq
  · rintro ⟨f, e, hf, he, rfl⟩
    refine .fractionPart rfl (fun c hc => ?_) rfl hf he
    rcases hc with rfl | rfl <;> rfl

theorem mayEnd_whole : whole.MayEnd cs ↔
    ∃ ds f e, (∀ d ∈ ds, d.isDigit = true) ∧ FractionPart f ∧ ExponentPart e ∧
      cs = ds ++ (f ++ e) := by
  constructor
  · intro h
    -- As for the digits behind the point, by induction on the characters, but
    -- a point may come as well.
    induction cs with
    | nil => exact ⟨[], [], [], List.forall_mem_nil _, .absent, .absent, rfl⟩
    | cons c rest ih =>
        rcases mayEnd_cons.mp h with ⟨q, hq, hrest⟩
        rw [next?] at hq
        split at hq
        · rename_i hdigit
          cases hq
          rcases ih hrest with ⟨ds, f, e, hds, hf, he, rfl⟩
          exact ⟨c :: ds, f, e, List.forall_mem_cons.mpr ⟨hdigit, hds⟩, hf, he, rfl⟩
        · split at hq
          · rename_i hpoint
            cases hq
            rcases fractionPart_of_point hrest with ⟨f, e, hf, he, heq⟩
            exact ⟨[], f, e, List.forall_mem_nil _, hf, he, hpoint ▸ heq⟩
          · split at hq
            · rename_i hmark
              cases hq
              exact ⟨[], [], c :: rest, List.forall_mem_nil _, .absent,
                exponentPart_of_mark hmark hrest, rfl⟩
            · cases hq
  · rintro ⟨ds, f, e, hds, hf, he, rfl⟩
    refine .digits (fun d hd => next?_whole hd) hds (.fractionPart rfl (fun c hc => ?_) rfl hf he)
    rcases hc with rfl | rfl <;> rfl

/-- A number without its sign begins with a zero or with the first of its digits. -/
theorem mayEnd_unsigned : (∃ p, p ≠ sign ∧ begin? c = some p ∧ p.MayEnd cs) ↔
    ∃ w f e, WholePart w ∧ FractionPart f ∧ ExponentPart e ∧ c :: cs = w ++ (f ++ e) := by
  constructor
  · rintro ⟨p, hp, hbegin, hend⟩
    rcases begin?_eq_some.mp hbegin with ⟨-, rfl⟩ | ⟨rfl, rfl⟩ | ⟨hdigit, hzero, rfl⟩
    · exact absurd rfl hp
    · rcases mayEnd_zero.mp hend with ⟨f, e, hf, he, rfl⟩
      exact ⟨['0'], f, e, .zero, hf, he, rfl⟩
    · rcases mayEnd_whole.mp hend with ⟨ds, f, e, hds, hf, he, rfl⟩
      exact ⟨c :: ds, f, e, .digits hdigit hzero hds, hf, he, rfl⟩
  · rintro ⟨w, f, e, hw, hf, he, heq⟩
    cases hw with
    | zero =>
        cases heq
        exact ⟨zero, by decide, rfl, mayEnd_zero.mpr ⟨f, e, hf, he, rfl⟩⟩
    | @digits d ds hd hzero hds =>
        cases heq
        exact ⟨whole, by decide, begin?_eq_some.mpr (.inr (.inr ⟨hd, hzero, rfl⟩)),
          mayEnd_whole.mpr ⟨ds, f, e, hds, hf, he, rfl⟩⟩

/-- After its sign a number begins as one without a sign. -/
theorem next?_sign : sign.next? c = some p ↔ p ≠ sign ∧ begin? c = some p := by
  rw [next?, begin?]
  by_cases hsign : c = '-'
  · subst hsign
    constructor
    · intro h
      cases h
    · rintro ⟨hne, h⟩
      cases h
      exact absurd rfl hne
  · -- Behind the sign a number begins, only not with another sign.
    rw [if_neg hsign]
    constructor
    · intro h
      refine ⟨?_, h⟩
      rintro rfl
      split at h
      · cases h
      · split at h <;> cases h
    · exact And.right

theorem mayEnd_sign : sign.MayEnd cs ↔
    ∃ w f e, WholePart w ∧ FractionPart f ∧ ExponentPart e ∧ cs = w ++ (f ++ e) := by
  cases cs with
  | nil =>
      constructor
      · intro h
        exact absurd (mayEnd_nil.mp h) (by decide)
      · rintro ⟨w, f, e, hw, -, -, heq⟩
        cases hw <;> cases heq
  | cons c rest =>
      simp only [← mayEnd_unsigned, mayEnd_cons, next?_sign, and_assoc]

end NumberPart

/-- Numbers are the texts whose characters lead to a part where a number may end. -/
theorem numeral_iff {cs : List Char} :
    Numeral cs ↔ ∃ c rest p, cs = c :: rest ∧ NumberPart.begin? c = some p ∧ p.MayEnd rest := by
  constructor
  · intro h
    cases h with
    | @positive w f e hw hf he =>
        have hne : w ++ (f ++ e) ≠ [] := by
          cases hw <;> exact List.cons_ne_nil _ _
        rcases List.exists_cons_of_ne_nil hne with ⟨c, rest, heq⟩
        rcases NumberPart.mayEnd_unsigned.mpr ⟨w, f, e, hw, hf, he, heq.symm⟩ with
          ⟨p, -, hbegin, hend⟩
        exact ⟨c, rest, p, heq, hbegin, hend⟩
    | @negative w f e hw hf he =>
        exact ⟨'-', _, .sign, rfl, rfl, NumberPart.mayEnd_sign.mpr ⟨w, f, e, hw, hf, he, rfl⟩⟩
  · rintro ⟨c, rest, p, rfl, hbegin, hend⟩
    -- Only the sign is told apart, all other numbers begin with their first digit.
    by_cases hp : p = .sign
    · subst hp
      have hc : c = '-' := by
        rcases NumberPart.begin?_eq_some.mp hbegin with ⟨hc, -⟩ | ⟨-, hp⟩ | ⟨-, -, hp⟩
        · exact hc
        · cases hp
        · cases hp
      rcases NumberPart.mayEnd_sign.mp hend with ⟨w, f, e, hw, hf, he, rfl⟩
      rw [hc]
      exact .negative hw hf he
    · rcases NumberPart.mayEnd_unsigned.mp ⟨p, hp, hbegin, hend⟩ with ⟨w, f, e, hw, hf, he, heq⟩
      rw [heq]
      exact .positive hw hf he

end Steward.Json
