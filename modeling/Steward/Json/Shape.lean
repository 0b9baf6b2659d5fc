/-!
# Shapes of JSON Values

What a reader is told to expect, and what it hands back.

A reader does not build a general JSON value and look at it afterwards. It is
given a shape, and it stops at the first character that the shape does not
allow. `Shape` names the shapes there are and `Datum` holds what was read. A
record may be written as an object or as a list of its fields in order, and a
member that no field asks for is read at the shape `any`, which accepts every
value and keeps none.

## Main definitions

* `Json.ReadError`: What goes wrong first.
* `Json.Shape`, `Json.Field`: The shapes of values and of record fields.
* `Json.Datum`: A value that was read.
* `Json.assemble`: The fields of a record, once all members are known.
-/

namespace Steward.Json

/-- What goes wrong first when a text is read. -/
inductive ReadError where
  /-- The text is not JSON. -/
  | malformed
  /-- The text ends too early. -/
  | truncated
  /-- The text is JSON so far, but its value has the wrong shape. -/
  | mismatched
deriving DecidableEq, Repr

mutual

/-- The shape a value has to have. -/
inductive Shape where
  /-- A string. -/
  | text
  /-- A list of values of one shape. -/
  | list (item : Shape)
  /-- A value of the shape, or `null`. -/
  | optional (inner : Shape)
  /-- A record with these fields, in this order. -/
  | record (fields : List Field)
  /-- Any value whatever. It is passed over. -/
  | any

/-- A field of a record. -/
structure Field where
  name : String
  /-- Whether the record is refused without it. -/
  required : Bool
  shape : Shape

end

/-- A value that was read at a shape. -/
inductive Datum where
  /-- A string. -/
  | text (s : String)
  /-- The items of a list. -/
  | list (items : List Datum)
  /-- The fields of a record, in the order of its shape. `none` was not given. -/
  | record (fields : List (Option Datum))
  /-- A `null` where a value may be missing, or a value that was passed over. -/
  | absent

/-- The members of a record that were read so far, under their names. -/
abbrev Members := List (String × Datum)

/-- The fields of a record in the order of its shape. A required field that no
    member gave refuses the record. -/
def assemble : List Field → Members → Except ReadError (List (Option Datum))
  | [], _ => .ok []
  | f :: rest, given =>
    match given.lookup f.name with
    | some d => (assemble rest given).map (some d :: ·)
    | none => if f.required then .error .mismatched else (assemble rest given).map (none :: ·)

end Steward.Json
