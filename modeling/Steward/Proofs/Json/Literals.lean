import Steward.Proofs.Json.Spelling

/-!
# Literals in General

What a string literal may look like, and what a reader makes of it.

`Spelled` has the forms in which characters are written. A literal that somebody else
has written can have others: every character may be given by its number, and a number
may be half of a pair of surrogates. `Quotable` is what the grammar allows between two
quotes.

There are two ways to read a literal. Read strictly it has to spell real characters, and
then it is refused for half a pair without the other half. Passed over it is never
refused. `LiteralScan.spelling` is what comes of a literal that goes on in a certain way
and then ends. It is the same wherever the literal stands, be it a value or a name, and a
literal that has none is refused in either place (`Quotable.follows`).

## Main definitions

* `IsGap`: White space.
* `go`: Where a piece of text leads.
* `Quotable`, `quoted`: What literals look like.
* `LiteralScan.spelling`: What a literal spells.
* `LiteralPlace`: Where a literal is read.

## Theorems

* `Quotable.follows`: Literals are read the same way wherever they stand.
* `Quotable.spelling_loosely`: A literal that is passed over is not refused.
* `quotable_flatMap_escape`: What is written for a string is among them.
-/

namespace Steward.Json

/-- White space, as it may stand between two tokens. -/
def IsGap (cs : List Char) : Prop :=
  ∀ c ∈ cs, isSpace c = true

theorem isGap_nil : IsGap [] :=
  List.forall_mem_nil _

theorem isGap_cons {c : Char} {cs : List Char} :
    IsGap (c :: cs) ↔ isSpace c = true ∧ IsGap cs :=
  List.forall_mem_cons

section Going

/-- Where a piece of text leads, unless it is refused. -/
def go (s : State) (cs : List Char) : Option State :=
  (run s cs).toOption

variable {s t : State} {c : Char}

theorem ok_of_toOption {α : Type} {result : Except ReadError α} {a : α}
    (h : result.toOption = some a) : result = .ok a := by
  cases result with
  | error e => cases h
  | ok b => rw [Option.some.inj h]

theorem go_nil (s : State) : go s [] = some s := rfl

theorem go_cons (s : State) (c : Char) (cs : List Char) :
    go s (c :: cs) = (step s c).toOption.bind (go · cs) := by
  rw [go, run_cons]
  cases step s c <;> rfl

theorem go_cons_of_ok (h : step s c = .ok t) (cs : List Char) : go s (c :: cs) = go t cs := by
  rw [go_cons, h]
  rfl

theorem go_cons_of_error {e : ReadError} (h : step s c = .error e) (cs : List Char) :
    go s (c :: cs) = none := by
  rw [go_cons, h]
  rfl

end Going

/-- A digit of a numbered escape. -/
def IsHexDigit (c : Char) : Prop :=
  (hexValue? c).isSome = true

/-- What stands after a backslash for one character. -/
def escapeLetters : List Char :=
  ['"', '\\', '/', 'b', 'f', 'n', 'r', 't']

/-- What may stand between the quotes of a literal. -/
inductive Quotable : List Char → Prop where
  | nil : Quotable []
  /-- A character that stands for itself. -/
  | plain {c : Char} {cs : List Char} (hquote : c ≠ '"') (hbackslash : c ≠ '\\')
      (hclean : 0x20 ≤ c.toNat) (h : Quotable cs) : Quotable (c :: cs)
  /-- A character behind a backslash. -/
  | short {c : Char} {cs : List Char} (hc : c ∈ escapeLetters) (h : Quotable cs) :
      Quotable ('\\' :: c :: cs)
  /-- A code of four digits. It may be half of a pair, and the other half may be
      missing. -/
  | numbered {digits cs : List Char} (hlength : digits.length = 4)
      (hhex : ∀ d ∈ digits, IsHexDigit d) (h : Quotable cs) :
      Quotable ('\\' :: 'u' :: (digits ++ cs))

/-- A literal. -/
def quoted (cs : List Char) : List Char :=
  '"' :: (cs ++ ['"'])

theorem utf8Size_of_isHexDigit {c : Char} (h : IsHexDigit c) : c.utf8Size = 1 := by
  rw [Char.utf8Size_eq_one_iff]
  rw [IsHexDigit, hexValue?] at h
  split at h
  · rename_i hdigit
    rw [Char.isDigit, Bool.and_eq_true, decide_eq_true_eq, decide_eq_true_eq] at hdigit
    exact UInt32.le_trans hdigit.2 (by decide)
  · split at h
    · rename_i hsmall
      exact UInt32.le_trans hsmall.2 (by decide)
    · split at h
      · rename_i hcapital
        exact UInt32.le_trans hcapital.2 (by decide)
      · cases h

namespace LiteralScan

/-- What a literal spells that goes on like this and then ends. -/
def spelling (s : LiteralScan) : List Char → Option String
  | [] =>
    match s.step '"' with
    | .ok (.ended text) => some text
    | _ => none
  | c :: cs =>
    match s.step c with
    | .ok (.more next) => next.spelling cs
    | _ => none

variable {s t : LiteralScan} {c : Char} {cs : List Char}

theorem spelling_cons_of_more (h : s.step c = .ok (.more t)) :
    s.spelling (c :: cs) = t.spelling cs := by
  rw [spelling, h]

theorem spelling_cons_of_error {e : ReadError} (h : s.step c = .error e) :
    s.spelling (c :: cs) = none := by
  rw [spelling, h]

/-- A piece that does not end a literal takes it to where the rest of it is spelled. -/
theorem spelling_append {as : List Char} (h : s.goOn as = some t) (cs : List Char) :
    s.spelling (as ++ cs) = t.spelling cs := by
  induction as generalizing s with
  | nil => rw [Option.some.inj h, List.nil_append]
  | cons c rest ih =>
      rw [goOn] at h
      cases hstep : s.step c with
      | error e =>
          rw [hstep] at h
          cases h
      | ok step =>
          cases step with
          | ended text =>
              -- A literal that has ended does not go on.
              rw [hstep] at h
              cases h
          | more next =>
              rw [hstep] at h
              rw [List.cons_append, spelling_cons_of_more hstep]
              exact ih h

variable {strict : Bool} {done : List Char} {lead : Option Nat} {bytes n v : Nat}

/-- A digit that is not the last of four. -/
theorem step_digit (hc : hexValue? c = some v) (hbytes : bytes + 1 < 4) :
    (⟨strict, done, .digits lead bytes (some n)⟩ : LiteralScan).step c =
      .ok (.more ⟨strict, done, .digits lead (bytes + 1) (some (n * 16 + v))⟩) := by
  have hsize := utf8Size_of_isHexDigit (Option.isSome_of_eq_some hc)
  simp only [step, hsize, hc, Option.bind_some, Option.map_some, hbytes, if_true, goTo]

/-- The last of four digits. -/
theorem step_lastDigit (hc : hexValue? c = some v) :
    (⟨strict, done, .digits lead 3 (some n)⟩ : LiteralScan).step c =
      (⟨strict, done, .digits lead 3 (some n)⟩ : LiteralScan).codeStep lead (n * 16 + v) := by
  have hsize := utf8Size_of_isHexDigit (Option.isSome_of_eq_some hc)
  simp only [step, hsize, hc, Option.bind_some, Option.map_some, Nat.lt_irrefl, if_false]

/-- Three of the four digits of a code are taken up, and then the fourth decides what
    becomes of it. -/
theorem goOn_digits {digits : List Char} (hlength : digits.length = 4)
    (hhex : ∀ d ∈ digits, IsHexDigit d) (strict : Bool) (done : List Char)
    (lead : Option Nat) :
    ∃ three d n code, digits = three ++ [d] ∧
      (⟨strict, done, .digits lead 0 (some 0)⟩ : LiteralScan).goOn three =
        some ⟨strict, done, .digits lead 3 (some n)⟩ ∧
      (⟨strict, done, .digits lead 3 (some n)⟩ : LiteralScan).step d =
        (⟨strict, done, .digits lead 3 (some n)⟩ : LiteralScan).codeStep lead code := by
  rcases digits with _ | ⟨a, _ | ⟨b, _ | ⟨c, _ | ⟨d, _ | ⟨_, _⟩⟩⟩⟩⟩ <;> try cases hlength
  -- There are four of them, each with a value.
  simp only [List.forall_mem_cons] at hhex
  rcases hhex with ⟨ha, hb, hc, hd, -⟩
  rcases Option.isSome_iff_exists.mp ha with ⟨va, ha⟩
  rcases Option.isSome_iff_exists.mp hb with ⟨vb, hb⟩
  rcases Option.isSome_iff_exists.mp hc with ⟨vc, hc⟩
  rcases Option.isSome_iff_exists.mp hd with ⟨vd, hd⟩
  refine ⟨[a, b, c], d, ((0 * 16 + va) * 16 + vb) * 16 + vc, _, rfl, ?_, step_lastDigit hd⟩
  rw [goOn_cons (step_digit ha (by decide)), goOn_cons (step_digit hb (by decide)),
    goOn_cons (step_digit hc (by decide)), goOn]

/-- Between two characters of what is spelled, or between the two halves of a pair. -/
def IsBetween (s : LiteralScan) : Prop :=
  s.spot = .plain ∨ ∃ code, s.spot = .lead code

/-- What the four digits of a code lead to. -/
theorem codeStep_cases (s : LiteralScan) (lead : Option Nat) (code : Nat) :
    (∃ e, s.codeStep lead code = .error e) ∨
      ∃ t, t.IsBetween ∧ s.codeStep lead code = .ok (.more t) := by
  unfold codeStep
  by_cases hstrict : s.strict = true
  · rw [hstrict, Bool.not_true, if_neg Bool.false_ne_true]
    cases lead with
    | some first =>
        -- A second half is awaited: the code has to be one.
        dsimp only
        split
        · exact Or.inr ⟨_, Or.inl rfl, rfl⟩
        · exact Or.inl ⟨_, rfl⟩
    | none =>
        -- A second half alone is refused, and a first one waits for its second.
        dsimp only
        split
        · exact Or.inl ⟨_, rfl⟩
        · split
          · exact Or.inr ⟨_, Or.inr ⟨code, rfl⟩, rfl⟩
          · exact Or.inr ⟨_, Or.inl rfl, rfl⟩
  · -- A loose reader takes every code.
    rw [Bool.eq_false_iff.mpr hstrict, Bool.not_false, if_pos rfl]
    exact Or.inr ⟨_, Or.inl rfl, rfl⟩

/-- A letter or sign behind a backslash is kept as the character it stands for. -/
theorem escapeStep_of_mem (s : LiteralScan) (h : c ∈ escapeLetters) :
    ∃ d, s.escapeStep c = .ok (s.keep d) := by
  simp only [escapeLetters, List.mem_cons, List.not_mem_nil, or_false] at h
  rcases h with rfl | rfl | rfl | rfl | rfl | rfl | rfl | rfl <;> exact ⟨_, rfl⟩

/-- Nothing else may stand behind a backslash, but for the letter of a code. -/
theorem escapeStep_eq_ok {next : LiteralStep} (h : s.escapeStep c = .ok next) :
    c ∈ escapeLetters ∨ c = 'u' ∧ next = s.goTo (.digits none 0 (some 0)) := by
  unfold escapeStep at h
  split at h
  case h_9 =>
    cases h
    exact Or.inr ⟨rfl, rfl⟩
  case h_10 => cases h
  all_goals exact Or.inl (by decide)

end LiteralScan

/-- Where a literal is read: what the machine is in the middle of meanwhile, and where the
    end of the literal leads. -/
structure LiteralPlace where
  mode : LiteralScan → Mode
  frames : List Frame
  next : String → Except ReadError State
  step_eq : ∀ scan c, step ⟨mode scan, frames⟩ c =
    match scan.step c with
    | .error e => .error e
    | .ok (.more scan) => .ok ⟨mode scan, frames⟩
    | .ok (.ended text) => next text

namespace LiteralPlace

/-- A literal that is a value. -/
def value (use : Use) (frames : List Frame) : LiteralPlace where
  mode := .text use
  frames := frames
  next text := textEnded use text frames
  step_eq _ _ := rfl

/-- A literal that is the name of a member. -/
def name (o : OpenObject) (frames : List Frame) : LiteralPlace where
  mode := .nameText o
  frames := frames
  next text := (named o text).map fun (frame, shape) => ⟨.colon frame shape, frames⟩
  step_eq _ _ := rfl

/-- The machine while it reads a literal. -/
def state (place : LiteralPlace) (scan : LiteralScan) : State :=
  ⟨place.mode scan, place.frames⟩

/-- A literal that goes on like this and then ends leads where its spelling leads. -/
def Follows (place : LiteralPlace) (scan : LiteralScan) (cs : List Char) : Prop :=
  ∀ rest, go (place.state scan) (cs ++ '"' :: rest) =
    (scan.spelling cs).bind fun text => (place.next text).toOption.bind (go · rest)

variable {place : LiteralPlace} {scan t : LiteralScan} {c : Char} {cs : List Char}

theorem step_of_more (h : scan.step c = .ok (.more t)) :
    step (place.state scan) c = .ok (place.state t) := by
  rw [state, place.step_eq, h, state]

theorem Follows.of_more (h : scan.step c = .ok (.more t)) (ht : place.Follows t cs) :
    place.Follows scan (c :: cs) := by
  intro rest
  rw [List.cons_append, go_cons_of_ok (step_of_more h), ht,
    LiteralScan.spelling_cons_of_more h]

theorem Follows.of_goOn {as : List Char} (h : scan.goOn as = some t)
    (ht : place.Follows t cs) : place.Follows scan (as ++ cs) := by
  intro rest
  have hrun : run (place.state scan) as = .ok (place.state t) := by
    refine run_goOn place.mode place.frames (fun scan next c hstep => ?_) h
    rw [place.step_eq, hstep]
  rw [List.append_assoc, go, run_append_of_run hrun, ← go, ht,
    LiteralScan.spelling_append h]

theorem Follows.of_error {e : ReadError} (h : scan.step c = .error e) :
    place.Follows scan (c :: cs) := by
  intro rest
  have hstep : step (place.state scan) c = .error e := by
    rw [state, place.step_eq, h]
  rw [List.cons_append, go_cons_of_error hstep, LiteralScan.spelling_cons_of_error h,
    Option.bind_none]

end LiteralPlace

/-- The end of a literal. Half of a pair must not stand there. -/
theorem LiteralPlace.follows_nil {place : LiteralPlace} {scan : LiteralScan}
    (h : scan.IsBetween) : place.Follows scan [] := by
  intro rest
  rcases scan with ⟨strict, done, spot⟩
  rcases h with hspot | ⟨code, hspot⟩
  · have hend : (⟨strict, done, spot⟩ : LiteralScan).step '"' =
        .ok (.ended (String.ofList done.reverse)) := by
      rw [show spot = .plain from hspot]
      rfl
    rw [LiteralScan.spelling, hend, List.nil_append, go_cons]
    rw [state, place.step_eq, hend, Option.bind_some]
  · have hend : (⟨strict, done, spot⟩ : LiteralScan).step '"' = .error .malformed := by
      rw [show spot = .lead code from hspot]
      rfl
    have hstep : step (place.state ⟨strict, done, spot⟩) '"' = .error .malformed := by
      rw [state, place.step_eq, hend]
    rw [LiteralScan.spelling, hend, List.nil_append, go_cons_of_error hstep, Option.bind_none]

/-- Four digits lead to what comes after them, or nowhere. -/
theorem LiteralPlace.follows_digits {place : LiteralPlace} {digits cs : List Char}
    (hlength : digits.length = 4) (hhex : ∀ d ∈ digits, IsHexDigit d)
    (ih : ∀ scan : LiteralScan, scan.IsBetween → place.Follows scan cs) (strict : Bool)
    (done : List Char) (lead : Option Nat) :
    place.Follows ⟨strict, done, .digits lead 0 (some 0)⟩ (digits ++ cs) := by
  rcases LiteralScan.goOn_digits hlength hhex strict done lead with
    ⟨three, d, n, code, rfl, hthree, hlast⟩
  rw [List.append_assoc]
  refine .of_goOn hthree ?_
  rcases LiteralScan.codeStep_cases _ lead code with ⟨e, herror⟩ | ⟨t, ht, hmore⟩
  · exact .of_error (hlast.trans herror)
  · exact .of_more (hlast.trans hmore) (ih t ht)

/-- A literal is read the same way wherever it stands: it leads where its spelling leads,
    and nowhere if it has none. -/
theorem Quotable.follows {cs : List Char} (h : Quotable cs) (place : LiteralPlace)
    (scan : LiteralScan) (hscan : scan.IsBetween) : place.Follows scan cs := by
  induction h generalizing scan with
  | nil => exact LiteralPlace.follows_nil hscan
  | @plain c cs hquote hbackslash hclean _ ih =>
      -- Between two halves of a pair no plain character may stand, and so it is below.
      rcases hscan with hspot | ⟨code, hspot⟩
      · exact .of_more (LiteralScan.step_plain hspot hquote hbackslash hclean) (ih _ (.inl rfl))
      · refine .of_error (e := .malformed) ?_
        simp only [LiteralScan.step, hspot, hbackslash, if_false]
  | @short c cs hc _ ih =>
      -- Both kinds of escape may come between two halves, but only a numbered one can be the second
      -- half; the short one is refused then.
      rcases scan with ⟨strict, done, spot⟩
      rcases hscan with hspot | ⟨code, hspot⟩ <;> cases hspot
      · rcases LiteralScan.escapeStep_of_mem ⟨strict, done, .escape⟩ hc with ⟨d, hd⟩
        have hbackslash : (⟨strict, done, .plain⟩ : LiteralScan).step '\\' =
            .ok (.more ⟨strict, done, .escape⟩) := rfl
        exact .of_more hbackslash (.of_more hd (ih _ (.inl rfl)))
      · have hbackslash : (⟨strict, done, .lead code⟩ : LiteralScan).step '\\' =
            .ok (.more ⟨strict, done, .leadEscape code⟩) := rfl
        refine .of_more hbackslash (.of_error (e := .malformed) ?_)
        have hne : c ≠ 'u' := by
          rintro rfl
          exact absurd hc (by decide)
        simp only [LiteralScan.step, hne, if_false]
  | @numbered digits cs hlength hhex _ ih =>
      rcases scan with ⟨strict, done, spot⟩
      rcases hscan with hspot | ⟨code, hspot⟩ <;> cases hspot
      · have hbackslash : (⟨strict, done, .plain⟩ : LiteralScan).step '\\' =
            .ok (.more ⟨strict, done, .escape⟩) := rfl
        have hletter : (⟨strict, done, .escape⟩ : LiteralScan).step 'u' =
            .ok (.more ⟨strict, done, .digits none 0 (some 0)⟩) := rfl
        exact .of_more hbackslash (.of_more hletter
          (LiteralPlace.follows_digits hlength hhex ih strict done none))
      · have hbackslash : (⟨strict, done, .lead code⟩ : LiteralScan).step '\\' =
            .ok (.more ⟨strict, done, .leadEscape code⟩) := rfl
        have hletter : (⟨strict, done, .leadEscape code⟩ : LiteralScan).step 'u' =
            .ok (.more ⟨strict, done, .digits (some code) 0 (some 0)⟩) := rfl
        exact .of_more hbackslash (.of_more hletter
          (LiteralPlace.follows_digits hlength hhex ih strict done (some code)))

/-- A literal that is passed over need not spell anything to be read. -/
theorem Quotable.spelling_loosely {cs : List Char} (h : Quotable cs) (done : List Char) :
    ((⟨false, done, .plain⟩ : LiteralScan).spelling cs).isSome = true := by
  induction h generalizing done with
  | nil => rfl
  | @plain c cs hquote hbackslash hclean _ ih =>
      rw [LiteralScan.spelling_cons_of_more
        (LiteralScan.step_plain rfl hquote hbackslash hclean)]
      exact ih _
  | @short c cs hc _ ih =>
      -- Two steps, one for the backslash and one for the letter.
      have hbackslash : (⟨false, done, .plain⟩ : LiteralScan).step '\\' =
          .ok (.more ⟨false, done, .escape⟩) := rfl
      rcases LiteralScan.escapeStep_of_mem ⟨false, done, .escape⟩ hc with ⟨d, hd⟩
      have hletter : (⟨false, done, .escape⟩ : LiteralScan).step c =
          .ok (.more ⟨false, d :: done, .plain⟩) := hd
      rw [LiteralScan.spelling_cons_of_more hbackslash,
        LiteralScan.spelling_cons_of_more hletter]
      exact ih _
  | @numbered digits cs hlength hhex _ ih =>
      -- Whatever code the digits make, a loose reader goes on behind them.
      have hopen : (⟨false, done, .plain⟩ : LiteralScan).goOn ['\\', 'u'] =
          some ⟨false, done, .digits none 0 (some 0)⟩ := rfl
      rcases LiteralScan.goOn_digits hlength hhex false done none with
        ⟨three, d, n, code, rfl, hthree, hlast⟩
      have hcode : (⟨false, done, .digits none 3 (some n)⟩ : LiteralScan).step d =
          .ok (.more ⟨false, done, .plain⟩) := hlast
      have hrest := LiteralScan.spelling_append hopen (three ++ [d] ++ cs)
      rw [List.cons_append, List.cons_append, List.nil_append] at hrest
      rw [hrest, List.append_assoc, LiteralScan.spelling_append hthree, List.cons_append,
        LiteralScan.spelling_cons_of_more hcode, List.nil_append]
      exact ih _

/-- What is written for a character may stand between quotes. -/
theorem quotable_escape (c : Char) {cs : List Char} (h : Quotable cs) :
    Quotable (escape c ++ cs) := by
  have hspelled := spelled_escape c
  generalize escape c = written at hspelled ⊢
  cases hspelled with
  | @short d _ hread =>
      rcases LiteralScan.escapeStep_eq_ok (hread ⟨true, [], .escape⟩) with hd | ⟨-, hcode⟩
      · exact .short hd h
      · cases hcode
  | numbered hlow =>
      -- Two zeros and two digits, since only codes below the space are written by number.
      have hhex : ∀ n < 16, IsHexDigit (Nat.digitChar n) := fun n hn =>
        Option.isSome_of_eq_some (hexValue?_digitChar n hn)
      have hdigits : ∀ d ∈ ['0', '0', Nat.digitChar (c.toNat / 16),
          Nat.digitChar (c.toNat % 16)], IsHexDigit d := by
        simp only [List.forall_mem_cons]
        exact ⟨hhex 0 (by decide), hhex 0 (by decide), hhex _ (by omega), hhex _ (by omega),
          List.forall_mem_nil _⟩
      exact .numbered rfl hdigits h
  | plain hquote hbackslash hclean => exact .plain hquote hbackslash hclean h

/-- What is written for a string may stand between quotes. -/
theorem quotable_flatMap_escape (cs : List Char) : Quotable (cs.flatMap escape) := by
  induction cs with
  | nil => exact .nil
  | cons c rest ih =>
      rw [List.flatMap_cons]
      exact quotable_escape c ih

end Steward.Json
