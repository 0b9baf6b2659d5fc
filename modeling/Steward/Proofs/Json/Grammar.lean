import Steward.Proofs.Json.Literals
import Steward.Proofs.Json.Numerals

/-!
# JSON Values in General

What a JSON value looks like, and what a reader makes of it wherever it stands.

A value that somebody else has written may have white space between any two tokens, any
members in any order and any depth. `IsValue` is the grammar. Its lists and objects are
made of elements and entries that keep the white space around them, so that a text can be
spoken of by its parts.

A reader at a shape either refuses a value or hands something over at its end, and it
does so in the same way wherever the value stands. `Gives` states that of a text, a shape
and what is handed over, for texts that are refused too, and asks only that something
follows that may follow a value. What is handed over is then what is read of the text
alone. Strings, numbers and the three words come first. They are told apart by what they
are read for (`Use`), and at most shapes that is only to find them out of place.

## Main definitions

* `Element`, `Entry`: The parts of lists and objects.
* `IsValue`: What values look like.
* `IsList`, `IsObject`: Lists and objects with their parts.
* `Gives`: What a reader at a shape makes of a text.

## Theorems

* `IsValue.begins`: A value begins neither like white space nor like the end of a list.
* `go_gap`: White space between two tokens changes nothing.
* `gives_quoted`, `gives_word`, `gives_number`: What a reader makes of scalars.
-/

namespace Steward.Json

/-- The three words that are values. -/
def valueWords : List (List Char) :=
  [['n', 'u', 'l', 'l'], ['t', 'r', 'u', 'e'], ['f', 'a', 'l', 's', 'e']]

/-- A value in a list or after the name of a member, with the white space around it. -/
structure Element where
  before : List Char
  value : List Char
  after : List Char

def Element.text (e : Element) : List Char :=
  e.before ++ (e.value ++ e.after)

/-- There is white space around an element. -/
structure Element.IsSpaced (e : Element) : Prop where
  before : IsGap e.before
  after : IsGap e.after

/-- A member of an object: its name as it stands between the quotes, its value, and the
    white space around both. -/
structure Entry where
  before : List Char
  key : List Char
  afterKey : List Char
  element : Element

namespace Entry

/-- An entry from the second character of its name on. -/
def inside (e : Entry) : List Char :=
  e.key ++ '"' :: (e.afterKey ++ ':' :: e.element.text)

def text (e : Entry) : List Char :=
  e.before ++ '"' :: e.inside

/-- There is white space around the name and the value of an entry, and the name may stand
    between quotes. -/
structure IsSpaced (e : Entry) : Prop where
  before : IsGap e.before
  key : Quotable e.key
  afterKey : IsGap e.afterKey
  element : e.element.IsSpaced

end Entry

/-- A list of elements. The white space at its beginning is all there is in an empty
    one. -/
def listText (gap : List Char) (es : List Element) : List Char :=
  '[' :: (gap ++ (List.intercalate [','] (es.map Element.text) ++ [']']))

/-- An object of entries. -/
def objectText (gap : List Char) (es : List Entry) : List Char :=
  '\x7b' :: (gap ++ (List.intercalate [','] (es.map Entry.text) ++ ['\x7d']))

/-- What values look like. -/
inductive IsValue : List Char → Prop where
  | literal {cs : List Char} (h : Quotable cs) : IsValue (quoted cs)
  | number {cs : List Char} (h : Numeral cs) : IsValue cs
  | word {cs : List Char} (h : cs ∈ valueWords) : IsValue cs
  | list {gap : List Char} {es : List Element} (hgap : IsGap gap)
      (hspaced : ∀ e ∈ es, e.IsSpaced) (h : ∀ e ∈ es, IsValue e.value) :
      IsValue (listText gap es)
  | object {gap : List Char} {es : List Entry} (hgap : IsGap gap)
      (hspaced : ∀ e ∈ es, e.IsSpaced) (h : ∀ e ∈ es, IsValue e.element.value) :
      IsValue (objectText gap es)

/-- The elements of a list of values. -/
structure IsList (gap : List Char) (es : List Element) : Prop where
  gap : IsGap gap
  spaced : ∀ e ∈ es, e.IsSpaced
  values : ∀ e ∈ es, IsValue e.value

/-- The entries of an object of values. -/
structure IsObject (gap : List Char) (es : List Entry) : Prop where
  gap : IsGap gap
  spaced : ∀ e ∈ es, e.IsSpaced
  values : ∀ e ∈ es, IsValue e.element.value

theorem IsList.isValue {gap : List Char} {es : List Element} (h : IsList gap es) :
    IsValue (listText gap es) :=
  .list h.gap h.spaced h.values

theorem IsObject.isValue {gap : List Char} {es : List Entry} (h : IsObject gap es) :
    IsValue (objectText gap es) :=
  .object h.gap h.spaced h.values

/-- A list or an object of values. -/
inductive IsContainer : List Char → Prop where
  | list {gap : List Char} {es : List Element} (h : IsList gap es) : IsContainer (listText gap es)
  | object {gap : List Char} {es : List Entry} (h : IsObject gap es) :
      IsContainer (objectText gap es)

theorem IsContainer.isValue {v : List Char} (h : IsContainer v) : IsValue v := by
  cases h with
  | list h => exact h.isValue
  | object h => exact h.isValue

/-- A value begins with a character that is neither white space nor an end. -/
theorem IsValue.begins {v : List Char} (h : IsValue v) :
    ∃ c rest, v = c :: rest ∧ isSpace c = false ∧ c ≠ ']' := by
  cases h with
  | literal _ => exact ⟨'"', _, rfl, rfl, by decide⟩
  | number h =>
      rcases numeral_iff.mp h with ⟨c, rest, p, rfl, hbegin, -⟩
      -- A number begins with its sign or a digit.
      have hc : c = '-' ∨ c.isDigit = true := by
        rcases NumberPart.begin?_eq_some.mp hbegin with ⟨hc, -⟩ | ⟨rfl, -⟩ | ⟨hc, -⟩
        · exact .inl hc
        · exact .inr rfl
        · exact .inr hc
      refine ⟨c, rest, rfl, ?_, ?_⟩
      · rw [← Bool.not_eq_true]
        intro hspace
        simp only [isSpace, Bool.or_eq_true, decide_eq_true_eq] at hspace
        rcases hspace with ((rfl | rfl) | rfl) | rfl <;> exact absurd hc (by decide)
      · rintro rfl
        exact absurd hc (by decide)
  | word h =>
      simp only [valueWords, List.mem_cons, List.not_mem_nil, or_false] at h
      rcases h with rfl | rfl | rfl <;> exact ⟨_, _, rfl, rfl, by decide⟩
  | list _ _ _ => exact ⟨'[', _, rfl, rfl, by decide⟩
  | object _ _ _ => exact ⟨'\x7b', _, rfl, rfl, by decide⟩

section Resting

/-- Between two tokens. -/
def Mode.isResting : Mode → Bool
  | .value _ | .opened _ | .between _ | .name _ | .colon _ _ | .finished _ => true
  | .nameText _ _ | .text _ _ | .word _ _ _ | .number _ _ _ => false

variable {s : State} {c : Char} {gap : List Char}

/-- White space between two tokens changes nothing. -/
theorem step_space (hs : s.mode.isResting = true) (hc : isSpace c = true) :
    step s c = .ok s := by
  rcases s with ⟨mode, frames⟩
  cases mode with
  | nameText | text | word | number => cases hs
  | value | opened | between | name | colon | finished =>
      simp only [step, stepOpened, stepBetween, State.stepEnded, hc, if_true]

theorem go_gap (hs : s.mode.isResting = true) (hgap : IsGap gap) (rest : List Char) :
    go s (gap ++ rest) = go s rest := by
  induction gap with
  | nil => rfl
  | cons c gap ih =>
      rw [isGap_cons] at hgap
      rw [List.cons_append, go_cons_of_ok (step_space hs hgap.1)]
      exact ih hgap.2

end Resting

section Values

/-- What is read of a text at a shape, if it is accepted. -/
def readAs? (shape : Shape) (cs : List Char) : Option Datum :=
  (read shape cs).toOption

/-- The characters that may follow a value. -/
def EndsValue (c : Char) : Prop :=
  isSpace c = true ∨ c ∈ [',', ']', '\x7d']

/-- What a reader at a shape makes of a text: it hands something over and goes on, or it
    refuses the text. -/
structure Gives (shape : Shape) (cs : List Char) (o : Option Datum) : Prop where
  goes : ∀ frames c rest, EndsValue c →
    go ⟨.value shape, frames⟩ (cs ++ c :: rest) =
      o.bind fun d => go (State.deliver d frames) (c :: rest)
  alone : readAs? shape cs = o

variable {shape inner item : Shape} {cs : List Char} {o : Option Datum} {frames : List Frame}
  {c : Char} {use : Use}

theorem readAs?_eq_go (shape : Shape) (cs : List Char) :
    readAs? shape cs = (go (State.start shape) cs).bind fun s => (finish s).toOption := by
  rw [readAs?, read, go]
  cases run (State.start shape) cs <;> rfl

/-- A text that shows by itself where it ends can be followed by anything. -/
theorem Gives.of_closed (h : ∀ frames rest, go ⟨.value shape, frames⟩ (cs ++ rest) =
    o.bind fun d => go (State.deliver d frames) rest) : Gives shape cs o where
  goes frames c rest _ := h frames (c :: rest)
  alone := by
    have hgo := h [] []
    rw [List.append_nil] at hgo
    rw [readAs?_eq_go, State.start, hgo]
    cases o <;> rfl

theorem Gives.self (h : Gives shape cs o) : Gives shape cs (readAs? shape cs) := by
  rw [h.alone]
  exact h

theorem go_value (hspace : isSpace c = false) (cs : List Char) :
    go ⟨.value shape, frames⟩ (c :: cs) =
      (beginValue shape c frames).toOption.bind (go · cs) := by
  rw [go_cons]
  simp only [step, hspace, Bool.false_eq_true, if_false]

/-- Two shapes at which values begin alike. -/
theorem Gives.of_begins {other : Shape} (h : Gives shape (c :: cs) o)
    (hspace : isSpace c = false)
    (hbegin : ∀ frames, beginValue other c frames = beginValue shape c frames) :
    Gives other (c :: cs) o where
  goes frames d rest hd := by
    rw [← h.goes frames d rest hd, List.cons_append, go_value hspace, go_value hspace, hbegin]
  alone := by
    rw [← h.alone, readAs?_eq_go, readAs?_eq_go, State.start, State.start, go_value hspace,
      go_value hspace, hbegin]

/-- What may be missing and is not there as `null`. -/
theorem Gives.optional (h : Gives inner (c :: cs) o) (hspace : isSpace c = false)
    (hnull : c ≠ 'n') : Gives (.optional inner) (c :: cs) o :=
  h.of_begins hspace fun frames => by simp only [beginValue, hnull, if_false]

section Scalars

/-- What a literal hands over. -/
def Use.literal? (use : Use) (text : String) : Option Datum :=
  match use with
  | .wanted => some (.text text)
  | .ignored => some .absent
  | .misplaced => none

/-- What a word or a number hands over. -/
def Use.other? : Use → Option Datum
  | .wanted | .ignored => some .absent
  | .misplaced => none

theorem gives_quoted {strict : Bool} (h : Quotable cs)
    (hbegin : ∀ frames,
      beginValue shape '"' frames = .ok ⟨.text use ⟨strict, [], .plain⟩, frames⟩) :
    Gives shape (quoted cs)
      (((⟨strict, [], .plain⟩ : LiteralScan).spelling cs).bind use.literal?) := by
  refine .of_closed fun frames rest => ?_
  have hfollows := h.follows (.value use frames) ⟨strict, [], .plain⟩ (.inl rfl) rest
  have hstate : (LiteralPlace.value use frames).state ⟨strict, [], .plain⟩ =
    ⟨.text use ⟨strict, [], .plain⟩, frames⟩ := rfl
  have htext : quoted cs ++ rest = '"' :: (cs ++ '"' :: rest) := by
    rw [quoted, List.cons_append, List.append_assoc]
    rfl
  rw [htext, go_value rfl, hbegin, Except.toOption, Option.bind_some, ← hstate, hfollows,
    Option.bind_assoc]
  congr 1
  funext text
  cases use <;> rfl

theorem exists_gives_quoted (h : Quotable cs) : ∀ shape, ∃ o, Gives shape (quoted cs) o
  | .optional inner => by
      rcases exists_gives_quoted h inner with ⟨o, ho⟩
      exact ⟨o, ho.optional rfl (by decide)⟩
  | .text => ⟨_, gives_quoted h fun _ => rfl⟩
  | .any => ⟨_, gives_quoted h fun _ => rfl⟩
  | .list _ => ⟨_, gives_quoted h fun _ => rfl⟩
  | .record _ => ⟨_, gives_quoted h fun _ => rfl⟩

theorem go_word {next : Char} {rest : List Char} (tail : List Char) :
    go ⟨.word use next rest, frames⟩ (next :: (rest ++ tail)) =
      use.other?.bind fun d => go (State.deliver d frames) tail := by
  induction rest generalizing next with
  | nil =>
      rw [List.nil_append, go_cons]
      simp only [step, if_true]
      cases use <;> rfl
  | cons after rest ih =>
      have hstep : step ⟨.word use next (after :: rest), frames⟩ next =
          .ok ⟨.word use after rest, frames⟩ := by
        simp only [step, if_true]
      rw [List.cons_append, go_cons_of_ok hstep]
      exact ih

theorem gives_word {next : Char} {rest : List Char} (hspace : isSpace c = false)
    (hbegin : ∀ frames, beginValue shape c frames = .ok ⟨.word use next rest, frames⟩) :
    Gives shape (c :: next :: rest) use.other? := by
  refine .of_closed fun frames tail => ?_
  rw [List.cons_append, go_value hspace, hbegin, Except.toOption, Option.bind_some,
    List.cons_append]
  exact go_word tail

/-- The first character of a scalar that is neither a string nor `null`. -/
def BeginsScalar (c : Char) : Prop :=
  c ≠ '"' ∧ c ≠ '[' ∧ c ≠ '\x7b' ∧ c ≠ 'n'

instance (c : Char) : Decidable (BeginsScalar c) :=
  inferInstanceAs (Decidable (_ ∧ _))

/-- What such a scalar is read for at a shape. -/
def Shape.scalarUse : Shape → Use
  | .any => .ignored
  | .optional inner => inner.scalarUse
  | .text | .list _ | .record _ => .misplaced

theorem beginValue_scalar (hc : BeginsScalar c) (frames : List Frame) :
    ∀ shape, beginValue shape c frames = beginScalar shape.scalarUse c frames
  | .text => by
      rw [beginValue, beginMisplaced, if_neg hc.1, if_neg (not_or_intro hc.2.1 hc.2.2.1),
        if_neg hc.1, Shape.scalarUse]
  | .list _ => by
      rw [beginValue, beginMisplaced, if_neg hc.2.1, if_neg (not_or_intro hc.2.1 hc.2.2.1),
        if_neg hc.1, Shape.scalarUse]
  | .record _ => by
      rw [beginValue, beginMisplaced, if_neg hc.2.2.1, if_neg hc.2.1,
        if_neg (not_or_intro hc.2.1 hc.2.2.1), if_neg hc.1, Shape.scalarUse]
  | .any => by
      rw [beginValue, if_neg hc.1, if_neg hc.2.1, if_neg hc.2.2.1, Shape.scalarUse]
  | .optional inner => by
      rw [beginValue, if_neg hc.2.2.2, beginValue_scalar hc frames inner, Shape.scalarUse]

theorem exists_gives_null : ∀ shape, ∃ o, Gives shape ['n', 'u', 'l', 'l'] o
  | .optional _ => ⟨_, gives_word rfl fun _ => rfl⟩
  | .text => ⟨_, gives_word rfl fun _ => rfl⟩
  | .any => ⟨_, gives_word rfl fun _ => rfl⟩
  | .list _ => ⟨_, gives_word rfl fun _ => rfl⟩
  | .record _ => ⟨_, gives_word rfl fun _ => rfl⟩

theorem exists_gives_word (h : cs ∈ valueWords) (shape : Shape) : ∃ o, Gives shape cs o := by
  simp only [valueWords, List.mem_cons, List.not_mem_nil, or_false] at h
  rcases h with rfl | rfl | rfl
  · exact exists_gives_null shape
  · exact ⟨_, gives_word rfl fun frames => beginValue_scalar (by decide) frames shape⟩
  · exact ⟨_, gives_word rfl fun frames => beginValue_scalar (by decide) frames shape⟩

/-- A character that may follow a value neither goes on with a number nor makes it
    wrong. -/
theorem next?_of_endsValue (hc : EndsValue c) (p : NumberPart) :
    p.next? c = none ∧ c.isDigit = false := by
  rw [EndsValue] at hc
  simp only [isSpace, Bool.or_eq_true, decide_eq_true_eq, List.mem_cons, List.not_mem_nil,
    or_false] at hc
  rcases hc with ((((rfl | rfl) | rfl) | rfl) | rfl | rfl | rfl) <;>
    exact ⟨by cases p <;> rfl, rfl⟩

/-- After a value the machine does what it does after any value. -/
theorem step_deliver (d : Datum) (frames : List Frame) (c : Char) :
    step (State.deliver d frames) c = (State.deliver d frames).stepEnded c := by
  cases frames <;> rfl

theorem go_number {p : NumberPart} {done : List Char} (h : p.MayEnd cs) (hc : EndsValue c)
    (rest : List Char) :
    go ⟨.number use p done, frames⟩ (cs ++ c :: rest) =
      use.other?.bind fun d => go (State.deliver d frames) (c :: rest) := by
  induction cs generalizing p done with
  | nil =>
      -- The number ends only with the character after it, which is then read once more.
      rcases next?_of_endsValue hc p with ⟨hnext, hdigit⟩
      have hends : p.endsBefore c = true := by
        rw [NumberPart.endsBefore, NumberPart.mayEnd_nil.mp h, hdigit, Bool.and_false]
        rfl
      rw [List.nil_append, go_cons]
      simp only [step, hnext, hends, Bool.not_true, Bool.false_eq_true, if_false]
      cases use with
      | misplaced => rfl
      | wanted | ignored =>
          rw [Use.other?, Option.bind_some, go_cons, step_deliver]
  | cons d cs ih =>
      rcases NumberPart.mayEnd_cons.mp h with ⟨q, hnext, hq⟩
      have hstep : step ⟨.number use p done, frames⟩ d =
          .ok ⟨.number use q (d :: done), frames⟩ := by
        simp only [step, hnext]
      rw [List.cons_append, go_cons_of_ok hstep]
      exact ih hq

theorem go_number_alone {p : NumberPart} {done : List Char} (h : p.MayEnd cs) :
    ((go ⟨.number use p done, []⟩ cs).bind fun s => (finish s).toOption) = use.other? := by
  induction cs generalizing p done with
  | nil =>
      rw [go_nil, Option.bind_some]
      have hcomplete := NumberPart.mayEnd_nil.mp h
      cases use with
      | misplaced => simp only [finish, hcomplete, if_true, Except.toOption, Use.other?]
      | wanted | ignored =>
          simp only [finish, hcomplete, Bool.not_true, Bool.false_eq_true, if_false]
          rfl
  | cons d cs ih =>
      rcases NumberPart.mayEnd_cons.mp h with ⟨q, hnext, hq⟩
      have hstep : step ⟨.number use p done, []⟩ d = .ok ⟨.number use q (d :: done), []⟩ := by
        simp only [step, hnext]
      rw [go_cons_of_ok hstep]
      exact ih hq

/-- The first character of a number begins it at every shape. -/
theorem beginValue_number {p : NumberPart} (h : NumberPart.begin? c = some p) (shape : Shape) :
    isSpace c = false ∧ ∃ done, ∀ frames,
      beginValue shape c frames = .ok ⟨.number shape.scalarUse p done, frames⟩ := by
  rcases NumberPart.begin?_eq_some.mp h with ⟨rfl, rfl⟩ | ⟨rfl, rfl⟩ | ⟨hdigit, hzero, rfl⟩
  · exact ⟨rfl, _, fun frames => beginValue_scalar (by decide) frames shape⟩
  · exact ⟨rfl, _, fun frames => beginValue_scalar (by decide) frames shape⟩
  · -- A digit is none of the characters that begin other values.
    have hne : ∀ d : Char, d.isDigit = false → c ≠ d := by
      rintro d hd rfl
      exact absurd hdigit (Bool.eq_false_iff.mp hd)
    refine ⟨?_, [c], fun frames => ?_⟩
    · simp only [isSpace, hne ' ' rfl, hne '\n' rfl, hne '\t' rfl, hne '\r' rfl, decide_false,
        Bool.or_self]
    · rw [beginValue_scalar ⟨hne _ rfl, hne _ rfl, hne _ rfl, hne _ rfl⟩]
      simp only [beginScalar, hne 'n' rfl, hne 't' rfl, hne 'f' rfl, hne '-' rfl, hzero, hdigit,
        if_false, if_true]

theorem gives_number (h : Numeral cs) (shape : Shape) :
    Gives shape cs shape.scalarUse.other? := by
  rcases numeral_iff.mp h with ⟨c, rest, p, rfl, hbegin, hend⟩
  rcases beginValue_number hbegin shape with ⟨hspace, done, hnumber⟩
  refine ⟨fun frames d tail hd => ?_, ?_⟩
  · rw [List.cons_append, go_value hspace, hnumber, Except.toOption, Option.bind_some]
    exact go_number hend hd tail
  · rw [readAs?_eq_go, State.start, go_value hspace, hnumber, Except.toOption, Option.bind_some]
    exact go_number_alone hend

end Scalars

end Values

end Steward.Json
