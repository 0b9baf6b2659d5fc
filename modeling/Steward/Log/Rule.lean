import Steward.Log
import Steward.Text.Alphanumeric
import Steward.Text.Blank
import Steward.Text.Decimal

/-!
# Rules of a Log Filter

Up to which level lines of some kind pass.

A rule is for all targets that begin with a given text. It may be narrowed to
lines that have a field, and to what is said within a span. Nothing here is said
within a span, and no line is told apart by the values of its fields, so a rule
that asks for either is for no line.

In writing a rule is a level alone, a target alone, or `target=level`, where
`target[span]`, `target[{field}]` and `target[span{field=value}]` narrow it down.
A rule that names no level lets everything pass. Levels are known by name in
small or capital letters, or by number. `RulePart` is this grammar as a machine
that reads one character at a time.

The machine does not see the blanks around a rule, but the words of a rule are
cut out of it as it was written. So a level with a blank behind it is none, and
becomes a target that no line has.

## Main definitions

* `LogLimit`: Up to which level lines pass.
* `LogRule`: One rule.
* `LogRule.parse?`: Reading a rule.
* `LogRule.isFor`: Whether a rule is for a line.
* `LogRule.yields`: Which of two rules decides.
-/

namespace Steward

/-- Up to which level lines pass: the most talkative one, or none at all. -/
abbrev LogLimit := Option LogLevel

/-- A number that is larger the less a level matters. -/
def LogLevel.rank : LogLevel → Nat
  | .error => 1
  | .warn => 2
  | .info => 3
  | .debug => 4
  | .trace => 5

namespace LogLimit

/-- The names of the limits. -/
def words : List (String × LogLimit) :=
  [("off", none), ("error", some .error), ("warn", some .warn), ("info", some .info),
    ("debug", some .debug), ("trace", some .trace)]

/-- The limit of a number. -/
def ofNumber? : Nat → Option LogLimit
  | 0 => some none
  | 1 => some (some .error)
  | 2 => some (some .warn)
  | 3 => some (some .info)
  | 4 => some (some .debug)
  | 5 => some (some .trace)
  | _ => none

/-- The limit that a word stands for, be it a number or a name. -/
def parse? (word : List Char) : Option LogLimit :=
  match Text.parseWord? word with
  | some n => ofNumber? n.toNat
  | none => words.lookup (String.ofList (word.map Char.toLower))

end LogLimit

/-- A field that a rule asks for. -/
structure LogField where
  name : String
  /-- What its value has to be, if the rule says so. -/
  value : Option String := none
deriving DecidableEq, Repr

/-- Reading a field. What stands behind a second equals sign is passed over. -/
def LogField.parse (cs : List Char) : LogField :=
  match (cs.takeWhile (· ≠ '='), cs.dropWhile (· ≠ '=')) with
  | (name, []) => { name := String.ofList name }
  | (name, _ :: rest) =>
    { name := String.ofList name, value := some (String.ofList (rest.takeWhile (· ≠ '='))) }

/-- What passes for lines of some kind. -/
structure LogRule where
  /-- What the target of a line has to begin with. -/
  target : String := ""
  /-- The span within which a line has to be said. -/
  span : Option String := none
  fields : List LogField := []
  limit : LogLimit := some .trace
deriving DecidableEq, Repr

/-- The part of a rule that a reader is in. The places are those of the first
    characters of the words. -/
inductive RulePart where
  /-- Before the first character. -/
  | start
  /-- In a word that is a level or a target. -/
  | head (since : Nat)
  /-- In the name of a span. -/
  | span (since : Nat)
  /-- In a field. -/
  | field (since : Nat)
  /-- Behind the field. -/
  | fields
  /-- Behind the brackets. -/
  | narrowed
  /-- In a level. -/
  | level (since : Nat)
deriving DecidableEq, Repr

/-- The marks that a target may begin with. -/
def RulePart.marks : List Char := ['-', ':', '_']

/-- A reader of a rule, with what it has read so far. -/
structure RuleReader where
  /-- The rule as it was written. -/
  text : List Char
  part : RulePart := .start
  rule : LogRule := {}

namespace RuleReader

/-- What is written between two places. -/
def cut (r : RuleReader) (since upTo : Nat) : List Char :=
  (r.text.take upTo).drop since

/-- A further character is read, which stands at a place, if a rule can go on with
    it. -/
def next? (r : RuleReader) (c : Char) (place : Nat) : Option RuleReader :=
  match r.part with
  | .start =>
    if c = '[' then some { r with part := .span (place + 1) }
    else if RulePart.marks.contains c || Text.isAlphanumeric c then
      some { r with part := .head place }
    else none
  | .head since =>
    let named : LogRule := { r.rule with target := String.ofList (r.cut since place) }
    if c = '=' then some { r with part := .level (place + 1), rule := named }
    else if c = '[' then some { r with part := .span (place + 1), rule := named }
    else some r
  | .span since =>
    let name := r.cut since place
    if c = ']' then
      let rule := { r.rule with span := some (String.ofList name) }
      some { r with part := .narrowed, rule }
    else if c = '\x7b' then
      let rule := { r.rule with span := if name.isEmpty then none else some (String.ofList name) }
      some { r with part := .field (place + 1), rule }
    else some r
  | .field since =>
    if c = '\x7d' then
      let field := r.cut since place
      if field.isEmpty then none
      else
        let rule := { r.rule with fields := r.rule.fields ++ [.parse field] }
        some { r with part := .fields, rule }
    else some r
  | .fields => if c = ']' then some { r with part := .narrowed } else none
  | .narrowed => if c = '=' then some { r with part := .level (place + 1) } else none
  | .level _ => some r

/-- The characters are read from a place on. -/
def read? (r : RuleReader) (place : Nat) : List Char → Option RuleReader
  | [] => some r
  | c :: rest => (r.next? c place).bind fun r => r.read? (place + 1) rest

/-- The rule, if it may end here. -/
def finish? (r : RuleReader) : Option LogRule :=
  match r.part with
  | .head since =>
    let word := r.text.drop since
    match LogLimit.parse? word with
    | some limit => some { r.rule with limit }
    | none => some { r.rule with target := String.ofList word }
  | .narrowed => some r.rule
  | .level since =>
    let word := r.text.drop since
    if word.isEmpty then some r.rule
    else (LogLimit.parse? word).map fun limit => { r.rule with limit }
  | .start | .span _ | .field _ | .fields => none

end RuleReader

namespace LogRule

/-- Reading a rule. -/
def parse? (cs : List Char) : Option LogRule :=
  (RuleReader.read? { text := cs } 0 (Text.trim cs)).bind RuleReader.finish?

/-- Whether a rule is for a line. -/
def isFor (r : LogRule) (line : LogLine) : Bool :=
  r.span.isNone && r.fields.all (fun f => f.value.isNone && line.fieldNames.contains f.name) &&
    r.target.toList.isPrefixOf line.target.toList

/-- The names of the fields that a rule asks for. -/
def fieldNames (r : LogRule) : List String :=
  r.fields.map LogField.name

/-- Whether the later one of two rules that are for the same line decides: the one
    with the longer target, of two with the same target the one that asks for
    more fields, and last the one whose fields come later in the alphabet. If
    they differ in none of these the later rule replaces the earlier one. -/
def yields (earlier later : LogRule) : Bool :=
  if earlier.target.length ≠ later.target.length then
    earlier.target.length < later.target.length
  else if earlier.fields.length ≠ later.fields.length then
    earlier.fields.length < later.fields.length
  else !(later.fieldNames < earlier.fieldNames)

end LogRule

end Steward
