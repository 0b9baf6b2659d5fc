import Steward.Proofs.Json.Grammar

/-!
# What a Character Can Do

Every step of the machine that reads a text, told by what it is in the middle of before and
after.

`step` looks at the mode, at the character and at the data that were read so far. For what
may stand in a text the data do not matter: a container that ends hands something over, and
that is all. `Moves` leaves them out and keeps the rest, one constructor for each thing that
can happen. What a container asks for next is `Open.awaits`, and how a value begins is
`Begun`, which is the same at every shape.

## Main definitions

* `Open.closer`, `Open.awaits`: What ends a container and what comes next in it.
* `Begun`: The states in which a value has begun.
* `Moves`: The steps of the machine.

## Theorems

* `moves_of_step`: Every step is one of these.
-/

namespace Steward.Json

/-- The bracket at the end of a container. -/
def Open.closer : Open → Char
  | .list _ _ | .slots _ _ _ => ']'
  | .object _ => '\x7d'

/-- The shape at which a list reads its next element, and what waits for it. A record has
    no more elements than fields. -/
def Open.awaits : Open → Option (Shape × Frame)
  | .list item done => some (item, .item item done)
  | .slots fields (f :: rest) given => some (f.shape, .slot fields rest given f.name)
  | .slots _ [] _ | .object _ => none

/-- A value has begun with a character. -/
inductive Begun (c : Char) (frames : List Frame) : State → Prop where
  | literal (hc : c = '"') (use : Use) (strict : Bool) :
      Begun c frames ⟨.text use ⟨strict, [], .plain⟩, frames⟩
  | list (hc : c = '[') {o : Open} (ho : o.closer = ']') : Begun c frames ⟨.opened o, frames⟩
  | object (hc : c = '\x7b') (o : OpenObject) : Begun c frames ⟨.opened (.object o), frames⟩
  | word {next : Char} {letters : List Char} (h : c :: next :: letters ∈ valueWords)
      (use : Use) : Begun c frames ⟨.word use next letters, frames⟩
  | number {part : NumberPart} (h : NumberPart.begin? c = some part) (use : Use)
      (done : List Char) : Begun c frames ⟨.number use part done, frames⟩

/-- What a character can do to the machine. -/
inductive Moves (c : Char) : State → State → Prop where
  /-- White space between two tokens is skipped. -/
  | skipped {s : State} (hs : s.mode.isResting = true) (hc : isSpace c = true) : Moves c s s
  /-- A value begins. -/
  | value {shape : Shape} {frames : List Frame} {t : State} (h : Begun c frames t) :
      Moves c ⟨.value shape, frames⟩ t
  /-- The first element of a list begins. -/
  | firstElement {o : Open} {shape : Shape} {frame : Frame} {frames : List Frame} {t : State}
      (ho : o.awaits = some (shape, frame)) (h : Begun c (frame :: frames) t) :
      Moves c ⟨.opened o, frames⟩ t
  /-- The name of the first entry of an object begins. -/
  | firstEntry (hc : c = '"') (o : OpenObject) (frames : List Frame) :
      Moves c ⟨.opened (.object o), frames⟩ ⟨.nameText o ⟨o.strict, [], .plain⟩, frames⟩
  /-- A container ends without elements. -/
  | closedEmpty {o : Open} (hc : c = o.closer) (d : Datum) (frames : List Frame) :
      Moves c ⟨.opened o, frames⟩ (State.deliver d frames)
  /-- A container ends after an element. -/
  | closed {o : Open} (hc : c = o.closer) (d : Datum) (frames : List Frame) :
      Moves c ⟨.between o, frames⟩ (State.deliver d frames)
  /-- Another element has to come. -/
  | nextElement (hc : c = ',') {o : Open} {shape : Shape} {frame : Frame}
      (ho : o.awaits = some (shape, frame)) (frames : List Frame) :
      Moves c ⟨.between o, frames⟩ ⟨.value shape, frame :: frames⟩
  /-- Another entry has to come. -/
  | nextEntry (hc : c = ',') (o : OpenObject) (frames : List Frame) :
      Moves c ⟨.between (.object o), frames⟩ ⟨.name o, frames⟩
  /-- The name of an entry begins. -/
  | name (hc : c = '"') (o : OpenObject) (frames : List Frame) :
      Moves c ⟨.name o, frames⟩ ⟨.nameText o ⟨o.strict, [], .plain⟩, frames⟩
  /-- A name goes on. -/
  | nameMore {scan next : LiteralScan} (h : scan.step c = .ok (.more next)) (o : OpenObject)
      (frames : List Frame) : Moves c ⟨.nameText o scan, frames⟩ ⟨.nameText o next, frames⟩
  /-- A name ends. -/
  | nameEnded {scan : LiteralScan} {text : String} (h : scan.step c = .ok (.ended text))
      (o : OpenObject) (field : Option String) (shape : Shape) (frames : List Frame) :
      Moves c ⟨.nameText o scan, frames⟩ ⟨.colon (.member o field) shape, frames⟩
  /-- The value of an entry has to come. -/
  | colon (hc : c = ':') (frame : Frame) (shape : Shape) (frames : List Frame) :
      Moves c ⟨.colon frame shape, frames⟩ ⟨.value shape, frame :: frames⟩
  /-- A string goes on. -/
  | textMore {scan next : LiteralScan} (h : scan.step c = .ok (.more next)) (use : Use)
      (frames : List Frame) : Moves c ⟨.text use scan, frames⟩ ⟨.text use next, frames⟩
  /-- A string ends. -/
  | textEnded {scan : LiteralScan} {text : String} (h : scan.step c = .ok (.ended text))
      (use : Use) (d : Datum) (frames : List Frame) :
      Moves c ⟨.text use scan, frames⟩ (State.deliver d frames)
  /-- A word goes on. -/
  | wordMore (use : Use) (after : Char) (letters : List Char) (frames : List Frame) :
      Moves c ⟨.word use c (after :: letters), frames⟩ ⟨.word use after letters, frames⟩
  /-- A word ends. -/
  | wordEnded (use : Use) (frames : List Frame) :
      Moves c ⟨.word use c [], frames⟩ (State.deliver .absent frames)
  /-- A number goes on. -/
  | numberMore {part next : NumberPart} (h : part.next? c = some next) (use : Use)
      (done : List Char) (frames : List Frame) :
      Moves c ⟨.number use part done, frames⟩ ⟨.number use next (c :: done), frames⟩
  /-- A number has ended before the character. -/
  | numberEnded {part : NumberPart} {frames : List Frame} {t : State}
      (hpart : part.isComplete = true) (h : Moves c (State.deliver .absent frames) t)
      (use : Use) (done : List Char) : Moves c ⟨.number use part done, frames⟩ t

variable {c : Char} {frames : List Frame} {s t : State} {o : Open} {use : Use}

/-- Only lists have elements, and with another element a list is a list. -/
theorem closer_of_awaits {shape : Shape} {frame : Frame} (h : o.awaits = some (shape, frame)) :
    o.closer = ']' ∧ ∀ d, (frame.fill d).closer = ']' := by
  cases o with
  | object => cases h
  | list item done =>
      cases h
      exact ⟨rfl, fun _ => rfl⟩
  | slots fields rest given =>
      cases rest with
      | nil => cases h
      | cons f rest =>
          cases h
          exact ⟨rfl, fun _ => rfl⟩

section Beginnings

theorem begun_of_beginScalar (h : beginScalar use c frames = .ok t) : Begun c frames t := by
  -- The words begin with different letters, and none of these begins a number.
  by_cases hn : c = 'n'
  · rw [beginScalar, if_pos hn] at h
    cases h
    exact .word (by rw [hn]; decide) use
  by_cases ht : c = 't'
  · rw [beginScalar, if_neg hn, if_pos ht] at h
    cases h
    exact .word (by rw [ht]; decide) use
  by_cases hf : c = 'f'
  · rw [beginScalar, if_neg hn, if_neg ht, if_pos hf] at h
    cases h
    exact .word (by rw [hf]; decide) use
  simp only [beginScalar, hn, ht, hf, if_false] at h
  have hbegin : ∃ part done, NumberPart.begin? c = some part ∧
      t = ⟨.number use part done, frames⟩ := by
    simp only [NumberPart.begin?_eq_some]
    split at h
    · rename_i hsign
      cases h
      exact ⟨_, _, Or.inl ⟨hsign, rfl⟩, rfl⟩
    · split at h
      · rename_i hzero
        cases h
        exact ⟨_, _, Or.inr (Or.inl ⟨hzero, rfl⟩), rfl⟩
      · rename_i hzero
        split at h
        · rename_i hdigit
          cases h
          exact ⟨_, _, Or.inr (Or.inr ⟨hdigit, hzero, rfl⟩), rfl⟩
        · cases h
  rcases hbegin with ⟨part, done, hpart, rfl⟩
  exact .number hpart use done

theorem begun_of_beginMisplaced (h : beginMisplaced c frames = .ok t) : Begun c frames t := by
  unfold beginMisplaced at h
  split at h
  · cases h
  · split at h
    · rename_i hc
      cases h
      exact .literal hc .misplaced true
    · exact begun_of_beginScalar h

/-- A value begins in one of these ways at every shape. -/
theorem begun_of_beginValue : ∀ shape, beginValue shape c frames = .ok t → Begun c frames t
  | .text => by
      intro h
      rw [beginValue] at h
      split at h
      · rename_i hc
        cases h
        exact .literal hc .wanted true
      · exact begun_of_beginMisplaced h
  | .list item => by
      intro h
      rw [beginValue] at h
      split at h
      · rename_i hc
        cases h
        exact .list hc rfl
      · exact begun_of_beginMisplaced h
  -- An optional value begins like the word for none, or like the value itself.
  | .optional inner => by
      intro h
      rw [beginValue] at h
      split at h
      · rename_i hc
        cases h
        exact .word (by rw [hc]; decide) .wanted
      · exact begun_of_beginValue inner h
  -- A record is written as an object, or as the list of its slots.
  | .record fields => by
      intro h
      rw [beginValue] at h
      split at h
      · rename_i hc
        cases h
        exact .object hc _
      · split at h
        · rename_i hc
          cases h
          exact .list hc rfl
        · exact begun_of_beginMisplaced h
  | .any => by
      intro h
      rw [beginValue] at h
      split at h
      · rename_i hc
        cases h
        exact .literal hc .ignored false
      · split at h
        · rename_i hc
          cases h
          exact .list hc rfl
        · split at h
          · rename_i hc
            cases h
            exact .object hc _
          · exact begun_of_beginScalar h

end Beginnings

section Inversion

/-- A container that ends hands something over. -/
theorem exists_of_close (h : State.close o frames = .ok t) : ∃ d, t = State.deliver d frames := by
  rw [State.close] at h
  cases hvalue : o.value with
  | error e =>
      rw [hvalue] at h
      cases h
  | ok d =>
      rw [hvalue] at h
      cases h
      exact ⟨d, rfl⟩

theorem moves_of_stepOpened (hspace : isSpace c = false) (h : stepOpened o c frames = .ok t) :
    Moves c ⟨.opened o, frames⟩ t := by
  simp only [stepOpened, hspace, Bool.false_eq_true, if_false] at h
  cases o with
  | list item done =>
      dsimp only at h
      split at h
      · rename_i hclose
        rcases exists_of_close h with ⟨d, rfl⟩
        exact .closedEmpty hclose d frames
      · exact .firstElement rfl (begun_of_beginValue item h)
  | object obj =>
      dsimp only at h
      split at h
      · rename_i hclose
        rcases exists_of_close h with ⟨d, rfl⟩
        exact .closedEmpty hclose d frames
      · split at h
        · rename_i hquote
          cases h
          exact .firstEntry hquote obj frames
        · cases h
  | slots fields rest given =>
      -- There is a slot for each field, and no element is read past the last of them.
      dsimp only at h
      split at h
      · rename_i hclose
        rcases exists_of_close h with ⟨d, rfl⟩
        exact .closedEmpty hclose d frames
      · cases rest with
        | nil => cases h
        | cons f rest => exact .firstElement rfl (begun_of_beginValue f.shape h)

theorem moves_of_stepBetween (hspace : isSpace c = false) (h : stepBetween o c frames = .ok t) :
    Moves c ⟨.between o, frames⟩ t := by
  simp only [stepBetween, hspace, Bool.false_eq_true, if_false] at h
  cases o with
  | list item done =>
      dsimp only at h
      split at h
      · rename_i hcomma
        cases h
        exact .nextElement hcomma rfl frames
      · split at h
        · rename_i hclose
          rcases exists_of_close h with ⟨d, rfl⟩
          exact .closed hclose d frames
        · cases h
  | object obj =>
      dsimp only at h
      split at h
      · rename_i hcomma
        cases h
        exact .nextEntry hcomma obj frames
      · split at h
        · rename_i hclose
          rcases exists_of_close h with ⟨d, rfl⟩
          exact .closed hclose d frames
        · cases h
  | slots fields rest given =>
      -- Slots are closed before a comma is looked for, the other way about than above.
      dsimp only at h
      split at h
      · rename_i hclose
        rcases exists_of_close h with ⟨d, rfl⟩
        exact .closed hclose d frames
      · split at h
        · rename_i hcomma
          cases rest with
          | nil => cases h
          | cons f rest =>
              cases h
              exact .nextElement hcomma rfl frames
        · cases h

theorem moves_of_stepEnded {d : Datum} (h : (State.deliver d frames).stepEnded c = .ok t) :
    Moves c (State.deliver d frames) t := by
  by_cases hspace : isSpace c = true
  · have hresting : (State.deliver d frames).mode.isResting = true := by
      cases frames <;> rfl
    rw [← step_deliver, step_space hresting hspace] at h
    cases h
    exact .skipped hresting hspace
  · rw [Bool.not_eq_true] at hspace
    cases frames with
    | nil =>
        simp only [State.deliver, State.stepEnded, hspace, Bool.false_eq_true, if_false] at h
        cases h
    | cons f frames => exact moves_of_stepBetween hspace h

theorem moves_of_nameText {obj : OpenObject} {scan : LiteralScan}
    (h : step ⟨.nameText obj scan, frames⟩ c = .ok t) : Moves c ⟨.nameText obj scan, frames⟩ t := by
  simp only [step] at h
  split at h
  · cases h
  · rename_i next hnext
    cases h
    exact .nameMore hnext obj frames
  · rename_i name hname
    -- The literal has ended; a name that is known must be given for the first time.
    rw [named] at h
    split at h
    · cases h
      exact .nameEnded hname obj none .any frames
    · rename_i f _
      split at h
      · cases h
      · cases h
        exact .nameEnded hname obj (some name) f.shape frames

theorem moves_of_text {scan : LiteralScan} (h : step ⟨.text use scan, frames⟩ c = .ok t) :
    Moves c ⟨.text use scan, frames⟩ t := by
  simp only [step] at h
  split at h
  · cases h
  · rename_i next hnext
    cases h
    exact .textMore hnext use frames
  · rename_i text htext
    cases use with
    | misplaced => cases h
    | wanted | ignored =>
        cases h
        exact .textEnded htext _ _ frames

theorem moves_of_word {next : Char} {letters : List Char}
    (h : step ⟨.word use next letters, frames⟩ c = .ok t) :
    Moves c ⟨.word use next letters, frames⟩ t := by
  simp only [step] at h
  split at h
  · rename_i hc
    subst hc
    cases letters with
    | nil =>
        -- The last letter was the awaited one. In a place where no word may stand that is an error.
        cases use with
        | misplaced => cases h
        | wanted | ignored =>
            cases h
            exact .wordEnded _ frames
    | cons after letters =>
        cases h
        exact .wordMore use after letters frames
  · cases h

theorem moves_of_number {part : NumberPart} {done : List Char}
    (h : step ⟨.number use part done, frames⟩ c = .ok t) :
    Moves c ⟨.number use part done, frames⟩ t := by
  simp only [step] at h
  split at h
  · rename_i next hnext
    cases h
    exact .numberMore hnext use done frames
  · split at h
    · cases h
    · rename_i hends
      rw [NumberPart.endsBefore, Bool.not_eq_true', Bool.not_eq_false, Bool.and_eq_true] at hends
      -- The character is read once more, after the number.
      cases use with
      | misplaced => cases h
      | wanted | ignored => exact .numberEnded hends.1 (moves_of_stepEnded h) _ done

/-- Every step is one of these. -/
theorem moves_of_step (h : step s c = .ok t) : Moves c s t := by
  -- White space is skipped in the same way wherever it may stand.
  by_cases hskip : s.mode.isResting = true ∧ isSpace c = true
  · rw [step_space hskip.1 hskip.2] at h
    cases h
    exact .skipped hskip.1 hskip.2
  rcases s with ⟨mode, frames⟩
  have hspace : mode.isResting = true → isSpace c = false := by
    intro hresting
    rw [← Bool.not_eq_true]
    exact fun hc => hskip ⟨hresting, hc⟩
  cases mode with
  -- Inside a literal, a word or a number white space is a character like the others.
  | nameText obj scan => exact moves_of_nameText h
  | text use scan => exact moves_of_text h
  | word use next letters => exact moves_of_word h
  | number use part done => exact moves_of_number h
  | value shape =>
      -- From here on the character is no white space.
      simp only [step, hspace rfl, Bool.false_eq_true, if_false] at h
      exact .value (begun_of_beginValue shape h)
  | opened o => exact moves_of_stepOpened (hspace rfl) h
  | between o => exact moves_of_stepBetween (hspace rfl) h
  | name obj =>
      simp only [step, hspace rfl, Bool.false_eq_true, if_false] at h
      split at h
      · rename_i hquote
        cases h
        exact .name hquote obj frames
      · cases h
  | colon frame shape =>
      simp only [step, hspace rfl, Bool.false_eq_true, if_false] at h
      split at h
      · rename_i hcolon
        cases h
        exact .colon hcolon frame shape frames
      · cases h
  | finished d =>
      simp only [step, State.stepEnded, hspace rfl, Bool.false_eq_true, if_false] at h
      cases h

end Inversion

end Steward.Json
