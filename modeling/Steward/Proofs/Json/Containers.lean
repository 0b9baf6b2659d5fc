import Steward.Proofs.Json.Moves

/-!
# Lists and Objects in General

What a reader makes of a list or an object, told from what it makes of its parts.

A reader goes along a container with nothing but what it has put into it so far. So the
whole is a fold over the elements or the entries, and each of them either leads to a
container with one more part or is refused (`Open.takeElement`, `takeEntry`). That holds
for every list and every object there is, whether its items are asked for, its elements
are the fields of a record or all of it is passed over. The three differ in the container
that the first bracket opens (`Shape.openList?`, `Shape.openObject?`).

A part of a container is a value with a comma or a bracket somewhere behind it, and so
`Gives` says what becomes of it. In this way every value is read the same way wherever it
stands, by induction on the grammar.

## Main definitions

* `Open.takeElement`: What a list does with an element.
* `Entry.member?`, `takeEntry`: What an object does with an entry.
* `Shape.openList?`, `Shape.openObject?`: The container that a bracket opens.

## Theorems

* `gives_list`, `gives_object`: Lists and objects from their parts.
* `IsValue.gives`: A value is read the same way wherever it stands.
* `readAs?_between`: White space around a value is nothing to a reader.
* `IsValue.isSome_readAs?_any`: Where any value may stand, none is refused.
-/

namespace Steward.Json

variable {shape : Shape} {frames : List Frame} {c : Char} {gap tail rest : List Char}

/-- A value is read at every shape the same way wherever it stands. -/
def ReadsAlike (v : List Char) : Prop :=
  ∀ shape, Gives shape v (readAs? shape v)

/-- What may stand behind a part of a container: a comma or a bracket, and what follows. -/
def EndsPart (tail : List Char) : Prop :=
  ∃ c rest, c ∈ [',', ']', '\x7d'] ∧ tail = c :: rest

/-- The parts of a container from the second on are followed by a comma or its bracket. -/
theorem endsPart_flatMap (hc : c ∈ [']', '\x7d']) (texts : List (List Char))
    (rest : List Char) : EndsPart (texts.flatMap (',' :: ·) ++ c :: rest) := by
  cases texts with
  | nil => exact ⟨c, rest, List.mem_cons_of_mem _ hc, rfl⟩
  | cons text texts => exact ⟨',', _, by decide, rfl⟩

/-- A part of a container ends where a comma or a bracket stands behind it. -/
theorem go_element {e : Element} (hspaced : e.IsSpaced) (halike : ReadsAlike e.value)
    (htail : EndsPart tail) (frame : Frame) (frames : List Frame) :
    go ⟨.value shape, frame :: frames⟩ (e.text ++ tail) =
      (readAs? shape e.value).bind fun d => go ⟨.between (frame.fill d), frames⟩ tail := by
  -- Behind the value itself comes white space, or else the comma or the bracket.
  have hends : ∃ d rest, e.after ++ tail = d :: rest ∧ EndsValue d := by
    rcases htail with ⟨c, rest, hc, rfl⟩
    cases hafter : e.after with
    | nil => exact ⟨c, rest, rfl, Or.inr hc⟩
    | cons d after =>
        have hgap := hspaced.after
        rw [hafter, isGap_cons] at hgap
        exact ⟨d, _, rfl, Or.inl hgap.1⟩
  rcases hends with ⟨d, rest, hrest, hd⟩
  rw [Element.text, List.append_assoc, List.append_assoc, go_gap rfl hspaced.before, hrest,
    (halike shape).goes _ d rest hd, ← hrest]
  congr 1
  funext datum
  exact go_gap rfl hspaced.after tail

/-- What becomes of a container that ends, and of the text behind it. -/
def goAfter (o : Open) (frames : List Frame) (rest : List Char) : Option State :=
  o.value.toOption.bind fun d => go (State.deliver d frames) rest

/-- At its bracket a container ends, be it before its first part or behind its last. -/
theorem go_closer (o : Open) (frames : List Frame) (rest : List Char) :
    go ⟨.opened o, frames⟩ (o.closer :: rest) = goAfter o frames rest ∧
      go ⟨.between o, frames⟩ (o.closer :: rest) = goAfter o frames rest := by
  have hclose : (State.close o frames).toOption.bind (go · rest) = goAfter o frames rest := by
    rw [State.close, goAfter]
    cases o.value <;> rfl
  rw [go_cons, go_cons, ← hclose]
  cases o <;> exact ⟨rfl, rfl⟩

section Lists

/-- A list with one more element. -/
def Open.takeElement (o : Open) (e : Element) : Option Open :=
  o.awaits.bind fun part => (readAs? part.1 e.value).map part.2.fill

variable {o : Open} {es : List Element} {e : Element}

theorem closer_takeElement {next : Open} (h : o.takeElement e = some next) :
    next.closer = ']' := by
  rcases Option.bind_eq_some_iff.mp h with ⟨part, hpart, h⟩
  rcases Option.map_eq_some_iff.mp h with ⟨d, -, rfl⟩
  exact (closer_of_awaits hpart).2 d

theorem go_opened_cons (ho : o.closer = ']') (hspace : isSpace c = false) (hc : c ≠ ']') :
    go ⟨.opened o, frames⟩ (c :: rest) =
      o.awaits.bind fun part => go ⟨.value part.1, part.2 :: frames⟩ (c :: rest) := by
  rw [go_cons]
  cases o with
  | object =>
      have hne : '\x7d' ≠ ']' := by decide
      exact absurd ho hne
  | list item done =>
      simp only [step, stepOpened, hspace, hc, Bool.false_eq_true, if_false]
      exact (go_value hspace rest).symm
  | slots fields later given =>
      simp only [step, stepOpened, hspace, hc, Bool.false_eq_true, if_false]
      cases later with
      | nil => rfl
      | cons f later => exact (go_value hspace rest).symm

/-- An element that comes first is read as any other. -/
theorem go_opened_element (ho : o.closer = ']') (hspaced : e.IsSpaced) (hvalue : IsValue e.value)
    (frames : List Frame) (tail : List Char) :
    go ⟨.opened o, frames⟩ (e.text ++ tail) =
      o.awaits.bind fun part => go ⟨.value part.1, part.2 :: frames⟩ (e.text ++ tail) := by
  rcases hvalue.begins with ⟨c, rest, hbegins, hspace, hc⟩
  simp only [Element.text, List.append_assoc, hbegins, List.cons_append,
    go_gap (s := ⟨.value _, _⟩) rfl hspaced.before, go_gap (s := ⟨.opened _, _⟩) rfl hspaced.before]
  exact go_opened_cons ho hspace hc

/-- After a comma an element has to come. -/
theorem go_comma_element (ho : o.closer = ']') (frames : List Frame) (rest : List Char) :
    go ⟨.between o, frames⟩ (',' :: rest) =
      o.awaits.bind fun part => go ⟨.value part.1, part.2 :: frames⟩ rest := by
  rw [go_cons]
  cases o with
  | object =>
      have hne : '\x7d' ≠ ']' := by decide
      exact absurd ho hne
  | list item done => rfl
  | slots fields later given => cases later <;> rfl

/-- An element with what stands behind it. -/
theorem go_awaits (hspaced : e.IsSpaced) (halike : ReadsAlike e.value) (htail : EndsPart tail)
    (o : Open) (frames : List Frame) :
    (o.awaits.bind fun part => go ⟨.value part.1, part.2 :: frames⟩ (e.text ++ tail)) =
      (o.takeElement e).bind fun next => go ⟨.between next, frames⟩ tail := by
  rw [Open.takeElement, Option.bind_assoc]
  congr 1
  funext part
  rw [go_element hspaced halike htail, Option.bind_map]
  rfl

/-- The elements of a list from the second on, and its end. -/
theorem go_elements (hspaced : ∀ e ∈ es, e.IsSpaced) (halike : ∀ e ∈ es, ReadsAlike e.value)
    (ho : o.closer = ']') (frames : List Frame) (rest : List Char) :
    go ⟨.between o, frames⟩ ((es.map Element.text).flatMap (',' :: ·) ++ ']' :: rest) =
      (es.foldlM Open.takeElement o).bind fun last => goAfter last frames rest := by
  -- Every element changes the list that the next one comes into, but not its bracket.
  induction es generalizing o with
  | nil =>
      rw [← ho]
      exact (go_closer o frames rest).2
  | cons e es ih =>
      rw [List.forall_mem_cons] at hspaced halike
      rw [List.map_cons, List.flatMap_cons, List.cons_append, List.cons_append,
        go_comma_element ho, List.append_assoc,
        go_awaits hspaced.1 halike.1 (endsPart_flatMap (by decide) _ _), List.foldlM_cons,
        Option.bind_eq_bind, Option.bind_assoc]
      refine Option.bind_congr fun next hnext => ?_
      exact ih hspaced.2 halike.2 (closer_takeElement hnext)

/-- A list from behind its first bracket on. -/
theorem go_list (hgap : IsGap gap) (hspaced : ∀ e ∈ es, e.IsSpaced)
    (hvalues : ∀ e ∈ es, IsValue e.value) (halike : ∀ e ∈ es, ReadsAlike e.value)
    (ho : o.closer = ']') (frames : List Frame) (rest : List Char) :
    go ⟨.opened o, frames⟩
        (gap ++ (List.intercalate [','] (es.map Element.text) ++ ']' :: rest)) =
      (es.foldlM Open.takeElement o).bind fun last => goAfter last frames rest := by
  rw [go_gap rfl hgap]
  cases es with
  | nil =>
      rw [← ho]
      exact (go_closer o frames rest).1
  | cons e es =>
      -- The first element follows the bracket and every other one a comma,
      -- so the first is read here.
      rw [List.forall_mem_cons] at hspaced hvalues halike
      rw [List.map_cons, intercalate_cons, List.append_assoc,
        go_opened_element ho hspaced.1 hvalues.1,
        go_awaits hspaced.1 halike.1 (endsPart_flatMap (by decide) _ _), List.foldlM_cons,
        Option.bind_eq_bind, Option.bind_assoc]
      refine Option.bind_congr fun next hnext => ?_
      exact go_elements hspaced.2 halike.2 (closer_takeElement hnext) frames rest

/-- The list that a square bracket opens. -/
def Shape.openList? : Shape → Option Open
  | .list item => some (.list item [])
  | .record fields => some (.slots fields fields [])
  | .any => some (.list .any [])
  | .optional inner => inner.openList?
  | .text => none

theorem beginValue_list (frames : List Frame) : ∀ shape,
    (beginValue shape '[' frames).toOption = shape.openList?.map fun o => ⟨.opened o, frames⟩
  | .optional inner => beginValue_list frames inner
  | .text | .list _ | .record _ | .any => rfl

theorem closer_openList? : ∀ shape : Shape, ∀ o, shape.openList? = some o → o.closer = ']'
  | .optional inner => closer_openList? inner
  | .list _ | .record _ | .any => by
      rintro o ⟨⟩
      rfl
  | .text => nofun

/-- What is read of a list. -/
def readList? (shape : Shape) (es : List Element) : Option Datum :=
  shape.openList?.bind fun o =>
    (es.foldlM Open.takeElement o).bind fun last => last.value.toOption

/-- A list is read element by element. -/
theorem gives_list (hgap : IsGap gap) (hspaced : ∀ e ∈ es, e.IsSpaced)
    (hvalues : ∀ e ∈ es, IsValue e.value) (halike : ∀ e ∈ es, ReadsAlike e.value)
    (shape : Shape) : Gives shape (listText gap es) (readList? shape es) := by
  refine .of_closed fun frames rest => ?_
  rw [listText, List.cons_append, go_value rfl, beginValue_list, Option.bind_map, readList?,
    Option.bind_assoc, List.append_assoc, List.append_assoc]
  refine Option.bind_congr fun o ho => ?_
  rw [Option.bind_assoc]
  exact go_list hgap hspaced hvalues halike (closer_openList? shape o ho) frames rest

end Lists

section Objects

/-- What the name of an entry spells. -/
def Entry.name? (strict : Bool) (e : Entry) : Option String :=
  (⟨strict, [], .plain⟩ : LiteralScan).spelling e.key

/-- The member of an entry, or none if no field asks for it. Its value has to be one all the
    same. -/
def Entry.member? (strict : Bool) (fields : List Field) (e : Entry) :
    Option (Option (String × Datum)) :=
  (e.name? strict).bind fun name =>
    match fields.find? (·.name == name) with
    | none => (readAs? .any e.element.value).map fun _ => none
    | some f => (readAs? f.shape e.element.value).map fun d => some (name, d)

/-- The members of a record with one more, which must not be among them. -/
def addMember (given : Members) : Option (String × Datum) → Option Members
  | none => some given
  | some m => if (given.lookup m.1).isSome then none else some (m :: given)

/-- The members of an object with one more entry. -/
def takeEntry (strict : Bool) (fields : List Field) (given : Members) (e : Entry) :
    Option Members :=
  (e.member? strict fields).bind (addMember given)

variable {strict : Bool} {fields : List Field} {given : Members} {es : List Entry} {e : Entry}

/-- An entry with what stands behind it. -/
theorem go_entry (hspaced : e.IsSpaced) (halike : ReadsAlike e.element.value)
    (htail : EndsPart tail) (frames : List Frame) :
    go ⟨.name ⟨strict, fields, given⟩, frames⟩ (e.text ++ tail) =
      (takeEntry strict fields given e).bind fun given =>
        go ⟨.between (.object ⟨strict, fields, given⟩), frames⟩ tail := by
  have hquote : step ⟨.name ⟨strict, fields, given⟩, frames⟩ '"' =
      .ok ⟨.nameText ⟨strict, fields, given⟩ ⟨strict, [], .plain⟩, frames⟩ := rfl
  have hfollows := hspaced.key.follows (.name ⟨strict, fields, given⟩ frames)
    ⟨strict, [], .plain⟩ (Or.inl rfl) (e.afterKey ++ (':' :: (e.element.text ++ tail)))
  -- Behind the name it goes on in the same way, whatever the name stands for.
  have hcolon : ∀ frame shape, go ⟨.colon frame shape, frames⟩
      (e.afterKey ++ ':' :: (e.element.text ++ tail)) =
        (readAs? shape e.element.value).bind fun d => go ⟨.between (frame.fill d), frames⟩ tail :=
    fun frame shape => by
      have hstep : step ⟨.colon frame shape, frames⟩ ':' = .ok ⟨.value shape, frame :: frames⟩ :=
        rfl
      rw [go_gap rfl hspaced.afterKey, go_cons_of_ok hstep, go_element hspaced.element halike htail]
  simp only [Entry.text, Entry.inside, List.append_assoc, List.cons_append]
  rw [go_gap rfl hspaced.before, go_cons_of_ok hquote]
  refine hfollows.trans ?_
  rw [takeEntry, Entry.member?, Entry.name?, Option.bind_assoc, Option.bind_assoc]
  congr 1
  funext name
  simp only [LiteralPlace.name, named]
  cases fields.find? (·.name == name) with
  | none =>
      rw [Option.bind_map]
      exact hcolon (.member ⟨strict, fields, given⟩ none) .any
  | some f =>
      dsimp only
      rw [Option.bind_map]
      -- A name that is taken is refused before its value is read, or after it: all the same.
      by_cases hgiven : (given.lookup name).isSome = true
      · simp only [hgiven, if_true, Function.comp_def, addMember, Option.bind_none]
        cases readAs? f.shape e.element.value <;> rfl
      · simp only [hgiven, Bool.false_eq_true, if_false, Function.comp_def, addMember,
          Option.bind_some]
        exact hcolon (.member ⟨strict, fields, given⟩ (some name)) f.shape

/-- An entry that comes first is read as any other. -/
theorem go_opened_entry {o : OpenObject} (hspaced : e.IsSpaced) (frames : List Frame)
    (tail : List Char) :
    go ⟨.opened (.object o), frames⟩ (e.text ++ tail) = go ⟨.name o, frames⟩ (e.text ++ tail) := by
  have hopened : step ⟨.opened (.object o), frames⟩ '"' =
      .ok ⟨.nameText o ⟨o.strict, [], .plain⟩, frames⟩ := rfl
  have hname : step ⟨.name o, frames⟩ '"' =
      .ok ⟨.nameText o ⟨o.strict, [], .plain⟩, frames⟩ := rfl
  rw [Entry.text, List.append_assoc, go_gap rfl hspaced.before, go_gap rfl hspaced.before,
    List.cons_append, go_cons_of_ok hopened, go_cons_of_ok hname]

/-- The entries of an object from the second on, and its end. -/
theorem go_entries (hspaced : ∀ e ∈ es, e.IsSpaced)
    (halike : ∀ e ∈ es, ReadsAlike e.element.value) (frames : List Frame) (rest : List Char) :
    go ⟨.between (.object ⟨strict, fields, given⟩), frames⟩
        ((es.map Entry.text).flatMap (',' :: ·) ++ '\x7d' :: rest) =
      (es.foldlM (takeEntry strict fields) given).bind fun given =>
        goAfter (.object ⟨strict, fields, given⟩) frames rest := by
  induction es generalizing given with
  | nil => exact (go_closer (.object ⟨strict, fields, given⟩) frames rest).2
  | cons e es ih =>
      rw [List.forall_mem_cons] at hspaced halike
      have hcomma : step ⟨.between (.object ⟨strict, fields, given⟩), frames⟩ ',' =
          .ok ⟨.name ⟨strict, fields, given⟩, frames⟩ := rfl
      rw [List.map_cons, List.flatMap_cons, List.cons_append, List.cons_append,
        go_cons_of_ok hcomma, List.append_assoc,
        go_entry hspaced.1 halike.1 (endsPart_flatMap (by decide) _ _), List.foldlM_cons,
        Option.bind_eq_bind, Option.bind_assoc]
      exact Option.bind_congr fun next _ => ih hspaced.2 halike.2

/-- An object from behind its first bracket on. -/
theorem go_object (hgap : IsGap gap) (hspaced : ∀ e ∈ es, e.IsSpaced)
    (halike : ∀ e ∈ es, ReadsAlike e.element.value) (frames : List Frame) (rest : List Char) :
    go ⟨.opened (.object ⟨strict, fields, []⟩), frames⟩
        (gap ++ (List.intercalate [','] (es.map Entry.text) ++ '\x7d' :: rest)) =
      (es.foldlM (takeEntry strict fields) []).bind fun given =>
        goAfter (.object ⟨strict, fields, given⟩) frames rest := by
  rw [go_gap rfl hgap]
  cases es with
  | nil => exact (go_closer (.object ⟨strict, fields, []⟩) frames rest).1
  | cons e es =>
      rw [List.forall_mem_cons] at hspaced halike
      rw [List.map_cons, intercalate_cons, List.append_assoc, go_opened_entry hspaced.1,
        go_entry hspaced.1 halike.1 (endsPart_flatMap (by decide) _ _), List.foldlM_cons,
        Option.bind_eq_bind, Option.bind_assoc]
      exact Option.bind_congr fun next _ => go_entries hspaced.2 halike.2 frames rest

/-- The object that a brace opens: whether its names have to spell real characters, and its
    fields. -/
def Shape.openObject? : Shape → Option (Bool × List Field)
  | .record fields => some (true, fields)
  | .any => some (false, [])
  | .optional inner => inner.openObject?
  | .text | .list _ => none

theorem beginValue_object (frames : List Frame) : ∀ shape,
    (beginValue shape '\x7b' frames).toOption =
      shape.openObject?.map fun o => ⟨.opened (.object ⟨o.1, o.2, []⟩), frames⟩
  | .optional inner => beginValue_object frames inner
  | .text | .list _ | .record _ | .any => rfl

/-- The members of an object. -/
def membersOf (strict : Bool) (fields : List Field) (es : List Entry) : Option Members :=
  es.foldlM (takeEntry strict fields) []

/-- What is read of an object. -/
def readObject? (shape : Shape) (es : List Entry) : Option Datum :=
  shape.openObject?.bind fun o =>
    (membersOf o.1 o.2 es).bind fun given =>
      ((assemble o.2 given).map Datum.record).toOption

/-- An object is read entry by entry. -/
theorem gives_object (hgap : IsGap gap) (hspaced : ∀ e ∈ es, e.IsSpaced)
    (halike : ∀ e ∈ es, ReadsAlike e.element.value) (shape : Shape) :
    Gives shape (objectText gap es) (readObject? shape es) := by
  refine .of_closed fun frames rest => ?_
  rw [objectText, List.cons_append, go_value rfl, beginValue_object, Option.bind_map, readObject?,
    Option.bind_assoc, List.append_assoc, List.append_assoc]
  congr 1
  funext o
  rw [Option.bind_assoc]
  exact go_object hgap hspaced halike frames rest

end Objects

section Values

variable {v : List Char}

/-- A value is read the same way wherever it stands. -/
theorem IsValue.gives (h : IsValue v) : ReadsAlike v := by
  induction h with
  | literal h =>
      intro shape
      rcases exists_gives_quoted h shape with ⟨o, ho⟩
      exact ho.self
  | number h => exact fun shape => (gives_number h shape).self
  | word h =>
      intro shape
      rcases exists_gives_word h shape with ⟨o, ho⟩
      exact ho.self
  | list hgap hspaced hvalues ih =>
      exact fun shape => (gives_list hgap hspaced hvalues ih shape).self
  | object hgap hspaced _ ih =>
      exact fun shape => (gives_object hgap hspaced ih shape).self

/-- White space around a value is nothing to a reader. -/
theorem readAs?_between {before after : List Char} (hbefore : IsGap before) (hv : IsValue v)
    (hafter : IsGap after) (shape : Shape) :
    readAs? shape (before ++ (v ++ after)) = readAs? shape v := by
  rw [readAs?_eq_go, go_gap rfl hbefore]
  cases after with
  | nil => rw [List.append_nil, ← readAs?_eq_go]
  | cons c after =>
      rw [isGap_cons] at hafter
      rw [State.start, (hv.gives shape).goes [] c after (Or.inl hafter.1), Option.bind_assoc]
      cases readAs? shape v with
      | none => rfl
      | some d =>
          have hskip := go_gap (s := State.deliver d []) rfl (isGap_cons.mpr hafter) []
          rw [List.append_nil] at hskip
          rw [Option.bind_some, hskip]
          rfl

/-- What is read of a list is read of its elements. -/
theorem readAs?_listText {es : List Element} (h : IsList gap es) (shape : Shape) :
    readAs? shape (listText gap es) = readList? shape es :=
  (gives_list h.gap h.spaced h.values (fun e he => (h.values e he).gives) shape).alone

/-- What is read of an object is read of its entries. -/
theorem readAs?_objectText {es : List Entry} (h : IsObject gap es) (shape : Shape) :
    readAs? shape (objectText gap es) = readObject? shape es :=
  (gives_object h.gap h.spaced (fun e he => (h.values e he).gives) shape).alone

/-- The items of a list are read one by one. -/
theorem foldlM_takeElement_list (item : Shape) (done : List Datum) (es : List Element) :
    es.foldlM Open.takeElement (.list item done) =
      (es.mapM fun e => readAs? item e.value).map fun ds => .list item (ds.reverse ++ done) := by
  induction es generalizing done with
  | nil => rfl
  | cons e es ih =>
      rw [List.foldlM_cons, List.mapM_cons, Open.takeElement, Open.awaits, Option.bind_some]
      cases readAs? item e.value with
      | none => rfl
      | some d =>
          rw [Option.map_some, Option.bind_eq_bind, Option.bind_some, Frame.fill, ih]
          cases es.mapM fun e => readAs? item e.value with
          | none => rfl
          | some ds =>
              simp only [Option.map_some, Option.bind_eq_bind, Option.bind_some, Option.pure_def,
                List.reverse_cons, List.append_assoc, List.singleton_append]

/-- A list of values of one shape is read value by value. -/
theorem readAs?_listText_of_items {item : Shape} {es : List Element} (h : IsList gap es)
    (hopen : shape.openList? = some (.list item [])) :
    readAs? shape (listText gap es) = (es.mapM fun e => readAs? item e.value).map .list := by
  rw [readAs?_listText h, readList?, hopen, Option.bind_some, foldlM_takeElement_list]
  cases es.mapM fun e => readAs? item e.value with
  | none => rfl
  | some ds =>
      simp only [Option.map_some, Option.bind_some, List.append_nil, Open.value,
        List.reverse_reverse, Except.toOption]

theorem isSome_mapM {α β : Type} {f : α → Option β} {as : List α}
    (h : ∀ a ∈ as, (f a).isSome = true) : (as.mapM f).isSome = true := by
  induction as with
  | nil => rfl
  | cons a as ih =>
      rw [List.forall_mem_cons] at h
      rcases Option.isSome_iff_exists.mp h.1 with ⟨b, hb⟩
      rcases Option.isSome_iff_exists.mp (ih h.2) with ⟨bs, hbs⟩
      rw [List.mapM_cons, hb, hbs]
      rfl

/-- An object that is passed over has no members. -/
theorem membersOf_any {es : List Entry} (hspaced : ∀ e ∈ es, e.IsSpaced)
    (h : ∀ e ∈ es, (readAs? .any e.element.value).isSome = true) :
    membersOf false [] es = some [] := by
  rw [membersOf]
  induction es with
  | nil => rfl
  | cons e es ih =>
      rw [List.forall_mem_cons] at hspaced h
      rcases Option.isSome_iff_exists.mp (hspaced.1.key.spelling_loosely []) with ⟨name, hname⟩
      rcases Option.isSome_iff_exists.mp h.1 with ⟨d, hd⟩
      have htake : takeEntry false [] [] e = some [] := by
        rw [takeEntry, Entry.member?, Entry.name?, hname, Option.bind_some, List.find?_nil, hd]
        rfl
      rw [List.foldlM_cons, htake]
      exact ih hspaced.2 h.2

/-- Where any value may stand, none is refused. -/
theorem IsValue.isSome_readAs?_any (h : IsValue v) : (readAs? .any v).isSome = true := by
  induction h with
  | @literal cs h =>
      -- Where any value will do, literals are read loosely, and so a code that no
      -- character has is read too.
      rcases Option.isSome_iff_exists.mp (h.spelling_loosely []) with ⟨text, htext⟩
      rw [(gives_quoted h fun _ => rfl : Gives .any (quoted cs) _).alone, htext]
      rfl
  | number h =>
      rw [(gives_number h .any).alone]
      rfl
  | word h =>
      simp only [valueWords, List.mem_cons, List.not_mem_nil, or_false] at h
      rcases h with rfl | rfl | rfl <;> rfl
  | @list gap es hgap hspaced hvalues ih =>
      rw [readAs?_listText_of_items ⟨hgap, hspaced, hvalues⟩ rfl, Option.isSome_map]
      exact isSome_mapM ih
  | @object gap es hgap hspaced hvalues ih =>
      rw [readAs?_objectText ⟨hgap, hspaced, hvalues⟩, readObject?, Shape.openObject?,
        Option.bind_some, membersOf_any hspaced ih]
      rfl

end Values

end Steward.Json
