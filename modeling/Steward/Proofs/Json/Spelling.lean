import Steward.Json.Literal
import Steward.Json.Reader
import Mathlib.Data.List.Basic

/-!
# Literals Written and Read

A string literal that was written is read as the string it was written from.

Writing goes character by character, and so does reading, but a character can come
out as two or as six. `Spelled` tells the three forms apart, with what a reader makes
of each. Between two characters of the string the reader stands on plain ground, with
what it has read so far behind it, and one character of the string takes it from
there to the same place with that character added (`goOn_escape`). Everything else is
a matter of lists.

A reader meets literals in two places, as values and as the names of members, and
does the same in both. `LiteralScan.goOn` is what it does, and `run_goOn` takes it to
wherever it happens.

## Main definitions

* `Spelled`: How a character is written inside a literal.
* `LiteralScan.goOn`: A piece of a literal is read that does not end it.
* `IsClean`: A text without controls.
* `IsMarked`: A text of literals and of the marks between them.

## Theorems

* `spelled_escape`: These are the forms in which characters are written.
* `goOn_spelled`: A string that was written is read as itself.
* `run_text`, `run_nameText`: So it is as a value and as a name.
* `isMarked_array`, `isMarked_object`: Lists and objects are made of literals and marks.
* `IsMarked.isClean`: Nothing that is written has a control in it.
-/

namespace Steward.Json

/-- How a character is written inside a literal. -/
inductive Spelled (c : Char) : List Char → Prop where
  /-- By a letter or sign of its own, after a backslash. -/
  | short {d : Char} (hclean : 0x20 ≤ d.toNat)
      (hread : ∀ s : LiteralScan, s.escapeStep d = .ok (s.keep c)) : Spelled c ['\\', d]
  /-- By its number. -/
  | numbered (hlow : c.toNat < 0x20) : Spelled c (['\\', 'u', '0', '0'] ++ hexPair c.toNat)
  /-- As it stands. -/
  | plain (hquote : c ≠ '"') (hbackslash : c ≠ '\\') (hclean : 0x20 ≤ c.toNat) : Spelled c [c]

/-- These are the forms in which characters are written. -/
theorem spelled_escape (c : Char) : Spelled c (escape c) := by
  by_cases hshort : c ∈ ['"', '\\', '\x08', '\x0c', '\n', '\r', '\t']
  · simp only [List.mem_cons, List.not_mem_nil, or_false] at hshort
    rcases hshort with rfl | rfl | rfl | rfl | rfl | rfl | rfl <;>
      exact .short (by decide) fun _ => rfl
  · simp only [List.mem_cons, List.not_mem_nil, or_false, not_or] at hshort
    rcases hshort with ⟨hquote, hbackslash, hb, hf, hn, hr, ht⟩
    by_cases hlow : c.toNat < 0x20
    · simp only [escape, hquote, hbackslash, hb, hf, hn, hr, ht, hlow, if_true, if_false]
      exact .numbered hlow
    · rw [escape_of_plain hquote hbackslash (Nat.not_lt.mp hlow)]
      exact .plain hquote hbackslash (Nat.not_lt.mp hlow)

/-- A digit that was written is read as its value. -/
theorem hexValue?_digitChar : ∀ d < 16, hexValue? (Nat.digitChar d) = some d := by decide

theorem utf8Size_digitChar : ∀ d < 16, (Nat.digitChar d).utf8Size = 1 := by decide

namespace LiteralScan

/-- A piece of a literal is read that does not end it. -/
def goOn (s : LiteralScan) : List Char → Option LiteralScan
  | [] => some s
  | c :: cs =>
    match s.step c with
    | .ok (.more next) => next.goOn cs
    | _ => none

variable {s t : LiteralScan} {done : List Char}

theorem goOn_cons {c : Char} (h : s.step c = .ok (.more t)) (cs : List Char) :
    s.goOn (c :: cs) = t.goOn cs := by
  rw [goOn, h]

theorem goOn_append (s : LiteralScan) (as bs : List Char) :
    s.goOn (as ++ bs) = (s.goOn as).bind (·.goOn bs) := by
  induction as generalizing s with
  | nil => rfl
  | cons c rest ih =>
      rw [List.cons_append, goOn, goOn]
      cases s.step c with
      | error e => rfl
      | ok next =>
          cases next with
          | more scan => exact ih scan
          | ended text => rfl

/-- The last two digits of a control lead to the control itself. -/
theorem goOn_hexPair {n : Nat} (h : n < 0x20) :
    (⟨true, done, .digits none 2 (some 0)⟩ : LiteralScan).goOn (hexPair n) =
      some ⟨true, Char.ofNat n :: done, .plain⟩ := by
  have hhigh : n / 16 < 16 := by omega
  have hlow : n % 16 < 16 := by omega
  have hcode : n / 16 * 16 + n % 16 = n := by omega
  -- The number of a control is no half of a pair.
  have htrail : isTrail n = false := by
    rw [isTrail, Bool.and_eq_false_iff, decide_eq_false_iff_not]
    exact Or.inl (by omega)
  have hlead : isLead n = false := by
    rw [isLead, Bool.and_eq_false_iff, decide_eq_false_iff_not]
    exact Or.inl (by omega)
  have hfirst : (⟨true, done, .digits none 2 (some 0)⟩ : LiteralScan).step
      (Nat.digitChar (n / 16)) =
        .ok (.more ⟨true, done, .digits none 3 (some (n / 16))⟩) := by
    simp [step, utf8Size_digitChar _ hhigh, hexValue?_digitChar _ hhigh, goTo]
  have hsecond : (⟨true, done, .digits none 3 (some (n / 16))⟩ : LiteralScan).step
      (Nat.digitChar (n % 16)) = .ok (.more ⟨true, Char.ofNat n :: done, .plain⟩) := by
    simp [step, utf8Size_digitChar _ hlow, hexValue?_digitChar _ hlow, hcode, codeStep, htrail,
      hlead, keep]
  rw [hexPair, goOn_cons hfirst, goOn_cons hsecond, goOn]

/-- A character that was written is read as itself, whichever way it was written. -/
theorem goOn_escape (done : List Char) (c : Char) :
    (⟨true, done, .plain⟩ : LiteralScan).goOn (escape c) = some ⟨true, c :: done, .plain⟩ := by
  have hspelled := spelled_escape c
  generalize escape c = cs at hspelled ⊢
  cases hspelled with
  | @short d _ hread =>
      have hbackslash : (⟨true, done, .plain⟩ : LiteralScan).step '\\' =
          .ok (.more ⟨true, done, .escape⟩) := rfl
      have hletter : (⟨true, done, .escape⟩ : LiteralScan).step d =
          .ok (.more ⟨true, c :: done, .plain⟩) := hread _
      rw [goOn_cons hbackslash, goOn_cons hletter, goOn]
  | numbered hlow =>
      have hfour : (⟨true, done, .plain⟩ : LiteralScan).goOn ['\\', 'u', '0', '0'] =
          some ⟨true, done, .digits none 2 (some 0)⟩ := rfl
      rw [goOn_append, hfour, Option.bind_some, goOn_hexPair hlow, Char.ofNat_toNat]
  | plain hquote hbackslash hclean =>
      rw [goOn_cons (step_plain rfl hquote hbackslash hclean), goOn]

/-- A string that was written is read as itself. -/
theorem goOn_spelled (done cs : List Char) :
    (⟨true, done, .plain⟩ : LiteralScan).goOn (cs.flatMap escape) =
      some ⟨true, cs.reverse ++ done, .plain⟩ := by
  induction cs generalizing done with
  | nil => rfl
  | cons c rest ih =>
      rw [List.flatMap_cons, goOn_append, goOn_escape, Option.bind_some, ih, List.reverse_cons,
        List.append_assoc]
      rfl

end LiteralScan

/-- A piece of a literal is read the same way wherever the literal stands. -/
theorem run_goOn (mode : LiteralScan → Mode) (frames : List Frame)
    (hmode : ∀ scan next c, scan.step c = .ok (.more next) →
      step ⟨mode scan, frames⟩ c = .ok ⟨mode next, frames⟩)
    {scan last : LiteralScan} {cs : List Char} (h : scan.goOn cs = some last) :
    run ⟨mode scan, frames⟩ cs = .ok ⟨mode last, frames⟩ := by
  induction cs generalizing scan with
  | nil => rw [run_nil, Option.some.inj h]
  | cons c rest ih =>
      rw [LiteralScan.goOn] at h
      split at h
      · rename_i next hnext
        rw [run_cons, hmode scan next c hnext]
        exact ih h
      · cases h

/-- What a reader that knows two pieces of a text makes of both. -/
theorem run_append_of_run {s t : State} {as : List Char} (h : run s as = .ok t)
    (bs : List Char) : run s (as ++ bs) = run t bs := by
  rw [run_append, h]
  rfl

theorem run_cons_of_step {s t : State} {c : Char} (h : step s c = .ok t) (cs : List Char) :
    run s (c :: cs) = run t cs := by
  rw [run_cons, h]
  rfl

theorem run_singleton (s : State) (c : Char) : run s [c] = step s c := by
  rw [run_cons]
  cases step s c <;> rfl

/-- The quote at the end of a string that was written. -/
theorem step_endQuote (s : String) :
    (⟨true, s.toList.reverse ++ [], .plain⟩ : LiteralScan).step '"' = .ok (.ended s) := by
  simp [LiteralScan.step]

/-- A string that was written is read as a value, from its second character on. -/
theorem run_text (s : String) (frames : List Frame) :
    run ⟨.text .wanted ⟨true, [], .plain⟩, frames⟩ (s.toList.flatMap escape ++ ['"']) =
      .ok (State.deliver (.text s) frames) := by
  have hinside := run_goOn (.text .wanted) frames
    (fun scan next c h => by simp only [step, h]) (LiteralScan.goOn_spelled [] s.toList)
  have hend : step ⟨.text .wanted ⟨true, s.toList.reverse ++ [], .plain⟩, frames⟩ '"' =
      .ok (State.deliver (.text s) frames) := by
    simp only [step, step_endQuote, textEnded]
  rw [run_append_of_run hinside, run_singleton, hend]

/-- A string that was written is read as the name of a member, from its second
    character on. -/
theorem run_nameText {o : OpenObject} {frame : Frame} {shape : Shape} {name : String}
    (h : named o name = .ok (frame, shape)) (frames : List Frame) :
    run ⟨.nameText o ⟨true, [], .plain⟩, frames⟩ (name.toList.flatMap escape ++ ['"']) =
      .ok ⟨.colon frame shape, frames⟩ := by
  have hinside := run_goOn (.nameText o) frames
    (fun scan next c h => by simp only [step, h]) (LiteralScan.goOn_spelled [] name.toList)
  have hend : step ⟨.nameText o ⟨true, name.toList.reverse ++ [], .plain⟩, frames⟩ '"' =
      .ok ⟨.colon frame shape, frames⟩ := by
    simp only [step, step_endQuote, h]
    rfl
  rw [run_append_of_run hinside, run_singleton, hend]

/-- Pieces side by side: the first, and each of the others after a comma. -/
theorem intercalate_cons (value : List Char) (rest : List (List Char)) :
    List.intercalate [','] (value :: rest) = value ++ rest.flatMap (',' :: ·) := by
  induction rest generalizing value with
  | nil => simp [List.intercalate]
  | cons next rest ih =>
      rw [List.intercalate_cons_cons, ih, List.flatMap_cons, List.append_assoc]
      rfl

/-- A text without controls. -/
def IsClean (cs : List Char) : Prop :=
  ∀ c ∈ cs, 0x20 ≤ c.toNat

instance (cs : List Char) : Decidable (IsClean cs) :=
  List.decidableBAll (fun c : Char => 0x20 ≤ c.toNat) cs

section Clean

theorem IsClean.append {cs ds : List Char} (hcs : IsClean cs) (hds : IsClean ds) :
    IsClean (cs ++ ds) :=
  List.forall_mem_append.mpr ⟨hcs, hds⟩

theorem IsClean.cons {c : Char} {cs : List Char} (hc : 0x20 ≤ c.toNat) (hcs : IsClean cs) :
    IsClean (c :: cs) :=
  List.forall_mem_cons.mpr ⟨hc, hcs⟩

theorem isClean_hexPair {n : Nat} (h : n < 0x20) : IsClean (hexPair n) := by
  have hdigit : ∀ d < 16, 0x20 ≤ (Nat.digitChar d).toNat := by decide
  exact .cons (hdigit _ (by omega)) (.cons (hdigit _ (by omega)) nofun)

theorem isClean_escape (c : Char) : IsClean (escape c) := by
  have hspelled := spelled_escape c
  generalize escape c = cs at hspelled ⊢
  cases hspelled with
  | short hclean _ => exact .cons (by decide) (.cons hclean nofun)
  | numbered hlow => exact .append (by decide) (isClean_hexPair hlow)
  | plain _ _ hclean => exact .cons hclean nofun

theorem isClean_literal (s : String) : IsClean (literal s) := by
  refine .cons (by decide) (.append (fun d hd => ?_) (by decide))
  rcases List.mem_flatMap.mp hd with ⟨c, -, hd⟩
  exact isClean_escape c d hd

end Clean

/-- What stands between the literals of a text without numbers and words. -/
def marks : List Char :=
  ['\x7b', '\x7d', '[', ']', ':', ',']

/-- A text of marks and of literals that were written. It need not be a value, the rest of
    one will do. -/
inductive IsMarked : List Char → Prop where
  | nil : IsMarked []
  | mark {c : Char} {cs : List Char} (hc : c ∈ marks) (h : IsMarked cs) : IsMarked (c :: cs)
  | literal (s : String) {cs : List Char} (h : IsMarked cs) : IsMarked (literal s ++ cs)

section Marked

variable {cs ds : List Char} {values : List (List Char)}

theorem IsMarked.append (hcs : IsMarked cs) (hds : IsMarked ds) : IsMarked (cs ++ ds) := by
  induction hcs with
  | nil => exact hds
  | mark hc _ ih => exact .mark hc ih
  | literal s _ ih =>
      rw [List.append_assoc]
      exact .literal s ih

theorem isMarked_literal (s : String) : IsMarked (literal s) := by
  rw [← List.append_nil (literal s)]
  exact .literal s .nil

theorem isMarked_member (name : String) (h : IsMarked cs) : IsMarked (member name cs) :=
  .literal name (.mark (by decide) h)

theorem isMarked_intercalate (h : ∀ value ∈ values, IsMarked value) :
    IsMarked (List.intercalate [','] values) := by
  cases values with
  | nil => exact .nil
  | cons value rest =>
      rw [List.forall_mem_cons] at h
      rw [intercalate_cons]
      refine h.1.append ?_
      induction rest with
      | nil => exact .nil
      | cons next rest ih =>
          rw [List.forall_mem_cons] at h
          rw [List.flatMap_cons]
          exact .append (.mark (by decide) h.2.1) (ih ⟨h.1, h.2.2⟩)

theorem isMarked_array (h : ∀ value ∈ values, IsMarked value) : IsMarked (array values) :=
  .mark (by decide) ((isMarked_intercalate h).append (.mark (by decide) .nil))

theorem isMarked_object (h : ∀ value ∈ values, IsMarked value) : IsMarked (object values) :=
  .mark (by decide) ((isMarked_intercalate h).append (.mark (by decide) .nil))

/-- There is no control in a text of marks and literals. -/
theorem IsMarked.isClean (h : IsMarked cs) : IsClean cs := by
  induction h with
  | nil => exact nofun
  | @mark c _ hc _ ih =>
      refine .cons ?_ ih
      simp only [marks, List.mem_cons, List.not_mem_nil, or_false] at hc
      rcases hc with rfl | rfl | rfl | rfl | rfl | rfl <;> decide
  | literal s _ ih => exact (isClean_literal s).append ih

/-- A mark is no white space, and neither is a quote. -/
theorem IsMarked.begins {c : Char} (h : IsMarked (c :: cs)) : isSpace c = false := by
  generalize heq : c :: cs = text at h
  cases h with
  | nil => cases heq
  | mark hc _ =>
      cases heq
      simp only [marks, List.mem_cons, List.not_mem_nil, or_false] at hc
      rcases hc with rfl | rfl | rfl | rfl | rfl | rfl <;> rfl
  | literal s _ =>
      cases heq
      rfl

end Marked

end Steward.Json
