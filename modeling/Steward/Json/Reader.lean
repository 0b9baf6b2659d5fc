import Steward.Json.Number
import Steward.Json.Scan

/-!
# Reading JSON at a Shape

A machine that reads a JSON text from left to right and stops at the first
character that cannot be right.

The machine takes one character at a time. `Mode` says what it is in the middle
of and `Frame` what waits for the value it is reading, the nearest container
first. Everything about the text so far is in the state, so reading two pieces
one after the other is reading them joined, and a text that is cut off is just a
run that ends in the wrong state. `finish` says what is wrong with it then.

A scalar where something else is expected is read to its end before it is
refused, since it may turn out not to be JSON at all. A list or an object in the
wrong place is refused at its first character.

## Main definitions

* `Json.Open`: A container between two of its elements.
* `Json.Frame`: A container that waits for an element.
* `Json.Mode`, `Json.State`: The state of the machine.
* `Json.step`: The effect of one character.
* `Json.finish`: The verdict at the end of the text.
* `Json.read`: Reading a whole text.

## Theorems

* `Json.run_append`: Pieces of a text are read one after the other.
* `Json.run_error`: What stops the machine stops it however the text goes on.
-/

namespace Steward.Json

/-- The four characters that may stand between two tokens. -/
def isSpace (c : Char) : Bool :=
  c = ' ' || c = '\n' || c = '\t' || c = '\r'

/-- An object with the members read so far. -/
structure OpenObject where
  /-- Whether names have to spell real characters. -/
  strict : Bool
  fields : List Field
  given : Members

/-- A container between two of its elements. -/
inductive Open where
  /-- A list, its items so far with the last one first. -/
  | list (item : Shape) (done : List Datum)
  /-- An object. -/
  | object (o : OpenObject)
  /-- A record written as a list, with the fields that are still to come. -/
  | slots (fields rest : List Field) (given : Members)

/-- A container that waits for the value of an element. -/
inductive Frame where
  /-- A list waits for an item. -/
  | item (item : Shape) (done : List Datum)
  /-- An object waits for the value of a member. A member without a field has no
      name here. -/
  | member (o : OpenObject) (name : Option String)
  /-- A record written as a list waits for a field. -/
  | slot (fields rest : List Field) (given : Members) (name : String)

/-- The container once its element is there. -/
def Frame.fill : Frame → Datum → Open
  | .item shape done, d => .list shape (d :: done)
  | .member o (some name), d => .object { o with given := (name, d) :: o.given }
  | .member o none, _ => .object o
  | .slot fields rest given name, d => .slots fields rest ((name, d) :: given)

/-- The value of a container that ends here. -/
def Open.value : Open → Except ReadError Datum
  | .list _ done => .ok (.list done.reverse)
  | .object o => (assemble o.fields o.given).map .record
  | .slots fields _ given => (assemble fields given).map .record

/-- What a scalar is read for. -/
inductive Use where
  /-- Its value is asked for. -/
  | wanted
  /-- It is passed over. -/
  | ignored
  /-- It is out of place, which is said at its end. -/
  | misplaced
deriving DecidableEq, Repr

/-- What the machine is in the middle of. -/
inductive Mode where
  /-- A value has to begin. -/
  | value (shape : Shape)
  /-- A container has just begun. -/
  | opened (o : Open)
  /-- An element of a container has just ended. -/
  | between (o : Open)
  /-- The name of a member has to begin. -/
  | name (o : OpenObject)
  /-- Within the name of a member. -/
  | nameText (o : OpenObject) (scan : LiteralScan)
  /-- A colon has to come, and then a value. -/
  | colon (frame : Frame) (shape : Shape)
  /-- Within a string. -/
  | text (use : Use) (scan : LiteralScan)
  /-- Within `null`, `true` or `false`. -/
  | word (use : Use) (next : Char) (rest : List Char)
  /-- Within a number, its characters so far with the last one first. -/
  | number (use : Use) (part : NumberPart) (done : List Char)
  /-- After the value. -/
  | finished (d : Datum)

/-- The state of the machine: what it is in the middle of, and the containers
    that wait for it. -/
structure State where
  mode : Mode
  frames : List Frame

/-- The state after a value has ended. -/
def State.deliver (d : Datum) : List Frame → State
  | [] => ⟨.finished d, []⟩
  | f :: frames => ⟨.between (f.fill d), frames⟩

/-- The state after a container has ended. -/
def State.close (o : Open) (frames : List Frame) : Except ReadError State :=
  o.value.map (State.deliver · frames)

/-- A scalar other than a string begins. -/
def beginScalar (use : Use) (c : Char) (frames : List Frame) : Except ReadError State :=
  if c = 'n' then .ok ⟨.word use 'u' ['l', 'l'], frames⟩
  else if c = 't' then .ok ⟨.word use 'r' ['u', 'e'], frames⟩
  else if c = 'f' then .ok ⟨.word use 'a' ['l', 's', 'e'], frames⟩
  else if c = '-' then .ok ⟨.number use .sign [], frames⟩
  else if c = '0' then .ok ⟨.number use .zero [c], frames⟩
  else if c.isDigit then .ok ⟨.number use .whole [c], frames⟩
  else .error .malformed

/-- A value of the wrong shape begins. -/
def beginMisplaced (c : Char) (frames : List Frame) : Except ReadError State :=
  if c = '[' ∨ c = '\x7b' then .error .mismatched
  else if c = '"' then .ok ⟨.text .misplaced ⟨true, [], .plain⟩, frames⟩
  else beginScalar .misplaced c frames

/-- A value begins at a shape. -/
def beginValue : Shape → Char → List Frame → Except ReadError State
  | .text, c, frames =>
    if c = '"' then .ok ⟨.text .wanted ⟨true, [], .plain⟩, frames⟩
    else beginMisplaced c frames
  | .list item, c, frames =>
    if c = '[' then .ok ⟨.opened (.list item []), frames⟩ else beginMisplaced c frames
  | .optional inner, c, frames =>
    if c = 'n' then .ok ⟨.word .wanted 'u' ['l', 'l'], frames⟩ else beginValue inner c frames
  | .record fields, c, frames =>
    if c = '\x7b' then .ok ⟨.opened (.object ⟨true, fields, []⟩), frames⟩
    else if c = '[' then .ok ⟨.opened (.slots fields fields []), frames⟩
    else beginMisplaced c frames
  | .any, c, frames =>
    if c = '"' then .ok ⟨.text .ignored ⟨false, [], .plain⟩, frames⟩
    else if c = '[' then .ok ⟨.opened (.list .any []), frames⟩
    else if c = '\x7b' then .ok ⟨.opened (.object ⟨false, [], []⟩), frames⟩
    else beginScalar .ignored c frames

/-- The first character inside a container. -/
def stepOpened (o : Open) (c : Char) (frames : List Frame) : Except ReadError State :=
  if isSpace c then .ok ⟨.opened o, frames⟩
  else match o with
    | .list item done =>
      if c = ']' then State.close o frames else beginValue item c (.item item done :: frames)
    | .object obj =>
      if c = '\x7d' then State.close o frames
      else if c = '"' then .ok ⟨.nameText obj ⟨obj.strict, [], .plain⟩, frames⟩
      else .error .malformed
    | .slots fields rest given =>
      if c = ']' then State.close o frames
      else match rest with
        | [] => .error .malformed
        | f :: rest => beginValue f.shape c (.slot fields rest given f.name :: frames)

/-- A character after an element of a container. -/
def stepBetween (o : Open) (c : Char) (frames : List Frame) : Except ReadError State :=
  if isSpace c then .ok ⟨.between o, frames⟩
  else match o with
    | .list item done =>
      if c = ',' then .ok ⟨.value item, .item item done :: frames⟩
      else if c = ']' then State.close o frames
      else .error .malformed
    | .object obj =>
      if c = ',' then .ok ⟨.name obj, frames⟩
      else if c = '\x7d' then State.close o frames
      else .error .malformed
    | .slots fields rest given =>
      if c = ']' then State.close o frames
      else if c = ',' then
        match rest with
        | [] => .error .malformed
        | f :: rest => .ok ⟨.value f.shape, .slot fields rest given f.name :: frames⟩
      else .error .malformed

/-- A character after a value that needs no further character to end. -/
def State.stepEnded (s : State) (c : Char) : Except ReadError State :=
  match s.mode with
  | .between o => stepBetween o c s.frames
  | .finished _ => if isSpace c then .ok s else .error .malformed
  | _ => .error .malformed

/-- The name of a member has ended. A name that was given before is refused, and
    a name that no field has lets any value follow. -/
def named (o : OpenObject) (name : String) : Except ReadError (Frame × Shape) :=
  match o.fields.find? (·.name == name) with
  | none => .ok (.member o none, .any)
  | some f =>
    if (o.given.lookup name).isSome then .error .mismatched
    else .ok (.member o (some name), f.shape)

/-- A string has ended. -/
def textEnded (use : Use) (text : String) (frames : List Frame) : Except ReadError State :=
  match use with
  | .wanted => .ok (State.deliver (.text text) frames)
  | .ignored => .ok (State.deliver .absent frames)
  | .misplaced => .error .mismatched

/-- One of the three words has ended. -/
def wordEnded (use : Use) (frames : List Frame) : Except ReadError State :=
  match use with
  | .wanted | .ignored => .ok (State.deliver .absent frames)
  | .misplaced => .error .mismatched

/-- A misplaced number has ended. -/
def numberRefusal (done : List Char) : ReadError :=
  if isBeyondRange done.reverse then .malformed else .mismatched

/-- The effect of one character. -/
def step (s : State) (c : Char) : Except ReadError State :=
  match s.mode with
  | .value shape => if isSpace c then .ok s else beginValue shape c s.frames
  | .opened o => stepOpened o c s.frames
  | .between o => stepBetween o c s.frames
  | .name o =>
    if isSpace c then .ok s
    else if c = '"' then .ok ⟨.nameText o ⟨o.strict, [], .plain⟩, s.frames⟩
    else .error .malformed
  | .nameText o scan =>
    match scan.step c with
    | .error e => .error e
    | .ok (.more scan) => .ok ⟨.nameText o scan, s.frames⟩
    | .ok (.ended name) => (named o name).map fun (frame, shape) => ⟨.colon frame shape, s.frames⟩
  | .colon frame shape =>
    if isSpace c then .ok s
    else if c = ':' then .ok ⟨.value shape, frame :: s.frames⟩
    else .error .malformed
  | .text use scan =>
    match scan.step c with
    | .error e => .error e
    | .ok (.more scan) => .ok ⟨.text use scan, s.frames⟩
    | .ok (.ended text) => textEnded use text s.frames
  | .word use next rest =>
    if c = next then
      match rest with
      | [] => wordEnded use s.frames
      | after :: rest => .ok ⟨.word use after rest, s.frames⟩
    else .error .malformed
  | .number use part done =>
    match part.next? c with
    | some part => .ok ⟨.number use part (c :: done), s.frames⟩
    | none =>
      if !part.endsBefore c then .error .malformed
      else match use with
        | .misplaced => .error (numberRefusal done)
        | .wanted | .ignored => (State.deliver .absent s.frames).stepEnded c
  | .finished _ => s.stepEnded c

/-- The effect of a piece of text. -/
def run (s : State) (cs : List Char) : Except ReadError State :=
  cs.foldlM step s

/-- The verdict at the end of the text. A number is the one value whose end only
    shows here. One that is cut off counts as cut off where its value matters and
    as no number where it is passed over. -/
def finish (s : State) : Except ReadError Datum :=
  match s.mode with
  | .finished d => .ok d
  | .number .misplaced part done =>
    if part.isComplete then .error (numberRefusal done) else .error .truncated
  | .number .wanted part _ | .number .ignored part _ =>
    if !part.isComplete then .error .malformed
    else match (State.deliver .absent s.frames).mode with
      | .finished d => .ok d
      | _ => .error .truncated
  | _ => .error .truncated

/-- Where the machine starts. -/
def State.start (shape : Shape) : State :=
  ⟨.value shape, []⟩

/-- Reading a whole text at a shape. -/
def read (shape : Shape) (cs : List Char) : Except ReadError Datum :=
  run (State.start shape) cs >>= finish

/-- Nothing is read of an empty piece. -/
@[simp] theorem run_nil (s : State) : run s [] = .ok s := rfl

/-- A piece is read from its first character on. -/
theorem run_cons (s : State) (c : Char) (cs : List Char) :
    run s (c :: cs) = step s c >>= (run · cs) := by
  simp [run, List.foldlM_cons]

/-- Two pieces are read one after the other. -/
theorem run_append (s : State) (as bs : List Char) :
    run s (as ++ bs) = run s as >>= (run · bs) := by
  simp [run, List.foldlM_append]

/-- What stops the machine stops it however the text goes on. -/
theorem run_error {s : State} {as : List Char} {e : ReadError} (h : run s as = .error e)
    (bs : List Char) : run s (as ++ bs) = .error e := by
  rw [run_append, h]
  rfl

end Steward.Json
