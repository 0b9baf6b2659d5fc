import Steward.Proofs.Json.Spelling
import Mathlib.Data.List.Forall2

/-!
# Values Written and Read

Strings, lists and objects that were written are read as what they were written
from.

What a reader does with a value has nothing to do with where the value stands: it
leaves the containers around it alone until the value has ended, and then hands over
what it has read. `Spells` says that of a text, a shape and what is read, and asks
that the text does not begin like something else, a space or the end of a list, which
is all that a container has to know of its elements. From there a list is built of
its items (`spells_array`) and an object of its members (`spells_object`), by going
along them.

An object can be read as a record if each of its members has a field of its own and
no two have the same. What then becomes of fields without members is for `assemble`
to say.

## Main definitions

* `Spells`: A text that is read as a value.
* `Pair`, `Pair.Fits`: A member that is written and read, and a field for it.

## Theorems

* `spells_literal`, `spells_array`, `spells_object`: What values are written as.
* `read_of_spells`: A text that is nothing but a value.
-/

namespace Steward.Json

/-- A text that is read as a value of a shape wherever it stands, and that does not
    begin like a space or the end of a list. -/
structure Spells (shape : Shape) (cs : List Char) (d : Datum) : Prop where
  begins : ∃ c rest, cs = c :: rest ∧ isSpace c = false ∧ c ≠ ']'
  reads : ∀ frames, run ⟨.value shape, frames⟩ cs = .ok (State.deliver d frames)

/-- A member of an object as it is written, and what is read of it. -/
structure Pair where
  name : String
  text : List Char
  datum : Datum

namespace Pair

/-- The text of a member. -/
def written (p : Pair) : List Char :=
  member p.name p.text

/-- The text without the quote that begins it. -/
def inside (p : Pair) : List Char :=
  p.name.toList.flatMap escape ++ ['"'] ++ ':' :: p.text

theorem written_eq (p : Pair) : p.written = '"' :: p.inside := rfl

/-- The member once it was read. -/
def given (p : Pair) : String × Datum :=
  (p.name, p.datum)

/-- A field of a record is meant by the member, and the member gives it. -/
def Fits (fields : List Field) (p : Pair) : Prop :=
  ∃ f, fields.find? (·.name == p.name) = some f ∧ Spells f.shape p.text p.datum

end Pair

variable {item inner : Shape} {text : List Char} {d : Datum} {frames : List Frame}

/-- A text that is nothing but a value is read as that value. -/
theorem read_of_spells (h : Spells item text d) : read item text = .ok d := by
  rw [read, State.start, h.reads []]
  rfl

theorem spells_literal (s : String) : Spells .text (literal s) (.text s) where
  begins := ⟨'"', _, rfl, rfl, by decide⟩
  reads frames := by
    have hquote : step ⟨.value .text, frames⟩ '"' =
        .ok ⟨.text .wanted ⟨true, [], .plain⟩, frames⟩ := rfl
    rw [literal, List.cons_append, run_cons_of_step hquote, run_text]

/-- A value that may be `null` and is not. -/
theorem Spells.optional (h : Spells inner text d) (hnull : text.head? ≠ some 'n') :
    Spells (.optional inner) text d where
  begins := h.begins
  reads frames := by
    rcases h.begins with ⟨c, rest, rfl, hspace, -⟩
    have hn : c ≠ 'n' := fun heq => hnull (congrArg some heq)
    rw [← h.reads frames, run_cons, run_cons]
    simp only [step, hspace, Bool.false_eq_true, if_false, beginValue, hn]

section Lists

variable {texts : List (List Char)} {data done : List Datum}

/-- The first item of a list is read as any other. -/
theorem run_opened_list (h : Spells item text d) :
    run ⟨.opened (.list item done), frames⟩ text =
      run ⟨.value item, .item item done :: frames⟩ text := by
  rcases h.begins with ⟨c, rest, rfl, hspace, hend⟩
  rw [run_cons, run_cons]
  simp only [step, stepOpened, hspace, Bool.false_eq_true, if_false, hend]

/-- The items of a list from the second on, and its end. -/
theorem run_between_list (h : List.Forall₂ (Spells item) texts data) (done : List Datum)
    (frames : List Frame) :
    run ⟨.between (.list item done), frames⟩ (texts.flatMap (',' :: ·) ++ [']']) =
      .ok (State.deliver (.list (done.reverse ++ data)) frames) := by
  induction h generalizing done with
  | nil =>
      rw [List.append_nil]
      rfl
  | @cons text d texts data hspells _ ih =>
      have hcomma : step ⟨.between (.list item done), frames⟩ ',' =
          .ok ⟨.value item, .item item done :: frames⟩ := rfl
      rw [List.flatMap_cons, List.cons_append, List.cons_append, run_cons_of_step hcomma,
        List.append_assoc, run_append_of_run (hspells.reads _)]
      rw [State.deliver, Frame.fill, ih, List.reverse_cons, List.append_assoc]
      rfl

/-- Items that are read as data make a list that is read as the list of these. -/
theorem spells_array (h : List.Forall₂ (Spells item) texts data) :
    Spells (.list item) (array texts) (.list data) where
  begins := ⟨'[', _, rfl, rfl, by decide⟩
  reads frames := by
    have hopen : step ⟨.value (.list item), frames⟩ '[' = .ok ⟨.opened (.list item []), frames⟩ :=
      rfl
    rw [array, List.cons_append, run_cons_of_step hopen]
    cases h with
    | nil => rfl
    | @cons text d texts data hspells hrest =>
        rw [intercalate_cons, List.append_assoc,
          run_append_of_run ((run_opened_list hspells).trans (hspells.reads _))]
        exact run_between_list hrest [d] frames

end Lists

section Objects

variable {fields : List Field} {given : Members} {p : Pair} {ps : List Pair}

/-- A member from the second character of its name on. -/
theorem run_pair (hfits : p.Fits fields) (hnew : given.lookup p.name = none)
    (frames : List Frame) :
    run ⟨.nameText ⟨true, fields, given⟩ ⟨true, [], .plain⟩, frames⟩ p.inside =
      .ok ⟨.between (.object ⟨true, fields, p.given :: given⟩), frames⟩ := by
  rcases hfits with ⟨f, hfield, hspells⟩
  have hnamed : named ⟨true, fields, given⟩ p.name =
      .ok (.member ⟨true, fields, given⟩ (some p.name), f.shape) := by
    simp only [named, hfield, hnew, Option.isSome_none, Bool.false_eq_true, if_false]
  have hcolon : step ⟨.colon (.member ⟨true, fields, given⟩ (some p.name)) f.shape, frames⟩ ':' =
      .ok ⟨.value f.shape, .member ⟨true, fields, given⟩ (some p.name) :: frames⟩ := rfl
  rw [Pair.inside, run_append_of_run (run_nameText hnamed frames), run_cons_of_step hcolon,
    hspells.reads]
  rfl

/-- The name of another member is still free once a member was read. -/
theorem lookup_given_of_ne {name : String} (hne : p.name ≠ name) (hnew : given.lookup name = none) :
    (p.given :: given).lookup name = none := by
  rw [Pair.given, List.lookup_cons, beq_false_of_ne fun h => hne h.symm]
  exact hnew

/-- The members of an object from the second on, and its end. -/
theorem run_between_object (hfits : ∀ p ∈ ps, p.Fits fields)
    (hnew : ∀ p ∈ ps, given.lookup p.name = none) (hnodup : (ps.map Pair.name).Nodup)
    (frames : List Frame) :
    run ⟨.between (.object ⟨true, fields, given⟩), frames⟩
        ((ps.map Pair.written).flatMap (',' :: ·) ++ ['\x7d']) =
      State.close (.object ⟨true, fields, (ps.map Pair.given).reverse ++ given⟩) frames := by
  induction ps generalizing given with
  | nil => exact run_singleton _ _
  | cons p rest ih =>
      rw [List.forall_mem_cons] at hfits hnew
      rw [List.map_cons, List.nodup_cons] at hnodup
      have hcomma : step ⟨.between (.object ⟨true, fields, given⟩), frames⟩ ',' =
          .ok ⟨.name ⟨true, fields, given⟩, frames⟩ := rfl
      have hquote : step ⟨.name ⟨true, fields, given⟩, frames⟩ '"' =
          .ok ⟨.nameText ⟨true, fields, given⟩ ⟨true, [], .plain⟩, frames⟩ := rfl
      -- The name just read is none of those to come.
      have hlater : ∀ q ∈ rest, (p.given :: given).lookup q.name = none := fun q hq =>
        lookup_given_of_ne (fun h => hnodup.1 (h ▸ List.mem_map_of_mem hq)) (hnew.2 q hq)
      rw [List.map_cons, List.flatMap_cons, List.cons_append, List.cons_append,
        run_cons_of_step hcomma, Pair.written_eq, List.cons_append, List.cons_append,
        run_cons_of_step hquote, List.append_assoc,
        run_append_of_run (run_pair hfits.1 hnew.1 frames), ih hfits.2 hlater hnodup.2,
        List.map_cons, List.reverse_cons, List.append_assoc]
      rfl

/-- Members that fit their fields make an object that is read as a record, if no field
    is given twice and none is missing. -/
theorem spells_object {data : List (Option Datum)} (hfits : ∀ p ∈ ps, p.Fits fields)
    (hnodup : (ps.map Pair.name).Nodup)
    (hdata : assemble fields (ps.map Pair.given).reverse = .ok data) :
    Spells (.record fields) (object (ps.map Pair.written)) (.record data) where
  begins := ⟨'\x7b', _, rfl, rfl, by decide⟩
  reads frames := by
    have hopen : step ⟨.value (.record fields), frames⟩ '\x7b' =
        .ok ⟨.opened (.object ⟨true, fields, []⟩), frames⟩ := rfl
    -- The members are gathered with the last one first, and the fields find theirs by name.
    have hclose : State.close (.object ⟨true, fields, (ps.map Pair.given).reverse⟩) frames =
        .ok (State.deliver (.record data) frames) := by
      rw [State.close, Open.value, hdata]
      rfl
    rw [object, List.cons_append, run_cons_of_step hopen, ← hclose]
    cases ps with
    | nil => exact run_singleton _ _
    | cons p rest =>
        rw [List.forall_mem_cons] at hfits
        rw [List.map_cons, List.nodup_cons] at hnodup
        have hquote : step ⟨.opened (.object ⟨true, fields, []⟩), frames⟩ '"' =
            .ok ⟨.nameText ⟨true, fields, []⟩ ⟨true, [], .plain⟩, frames⟩ := rfl
        have hlater : ∀ q ∈ rest, [p.given].lookup q.name = none := fun q hq =>
          lookup_given_of_ne (fun h => hnodup.1 (h ▸ List.mem_map_of_mem hq)) rfl
        rw [List.map_cons, intercalate_cons, Pair.written_eq, List.cons_append, List.cons_append,
          run_cons_of_step hquote, List.append_assoc,
          run_append_of_run (run_pair hfits.1 rfl frames),
          run_between_object hfits.2 hlater hnodup.2, List.map_cons, List.reverse_cons]

end Objects

end Steward.Json
