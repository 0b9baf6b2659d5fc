import Steward.Failure

/-!
# Failures as Text

How a failure is told to a person.

The text has a header and up to two sections. The header is the subsystem, if
there is one, and the message with a full stop. The section of reasons lists
the findings, each with its path on a line of its own. The section of causes
lists the texts of the causes, each after a dash and with a line end after it.
A cause that is a failure is written by the same rules and is not indented, so
its own last line end and the one of the list make a blank line.

## Main definitions

* `Finding.line`: One entry of the reasons.
* `Failure.header`: Subsystem and message.
* `Failure.textWith`: The whole text, given the texts of the causes.
* `Failure.text`, `Cause.text`: The text of a tree.
* `Failure.ofText`: A failure that keeps another error as text alone.

## Theorems

* `Cause.texts_eq_map`: The texts of the causes are taken one by one.
* `Failure.text_eq`: The recursion, unfolded once.
-/

namespace Steward

/-- One entry of the list of reasons. -/
def Finding.line (f : Finding) : String :=
  "    - " ++ f.message ++
    if f.path.isEmpty then ".\n"
    else "\n      at " ++ String.intercalate " > " f.path ++ ".\n"

namespace Failure

/-- The subsystem, if there is one, and the message. -/
def header (f : Failure) : String :=
  (if f.subsystem.isEmpty then "" else f.subsystem ++ ": ") ++ f.message ++ "."

/-- The section of reasons. Without findings there is none. -/
def reasons (f : Failure) : String :=
  if f.hasFindings then " Reasons:\n" ++ String.join (f.findingList.map Finding.line) else ""

/-- The section of causes, given their texts. Without causes there is none. -/
def causeList (texts : List String) : String :=
  if texts.isEmpty then ""
  else " Caused by:\n\n" ++ String.join (texts.map fun t => "- " ++ t ++ "\n")

/-- Header, reasons and causes, given the texts of the causes. -/
def textWith (f : Failure) (texts : List String) : String :=
  f.header ++ f.reasons ++ causeList texts

end Failure

mutual

/-- The text of a failure. -/
def Failure.text : Failure → String
  | ⟨subsystem, message, findings, causes⟩ =>
    Failure.textWith ⟨subsystem, message, findings, []⟩ (Cause.texts causes)

/-- The text of a cause. -/
def Cause.text : Cause → String
  | .plain t => t
  | .died task panic => panic.ofTask task
  | .failure f => f.text

/-- The texts of a list of causes. -/
def Cause.texts : List Cause → List String
  | [] => []
  | c :: rest => c.text :: Cause.texts rest

end

/-- The texts of a list of causes are the texts of its members. -/
theorem Cause.texts_eq_map (cs : List Cause) : Cause.texts cs = cs.map Cause.text := by
  induction cs with
  | nil => rfl
  | cons c rest ih => rw [Cause.texts, ih, List.map_cons]

namespace Failure

/-- The text of a failure is made from the texts of its causes. -/
theorem text_eq (f : Failure) : f.text = f.textWith (f.causes.map Cause.text) := by
  obtain ⟨subsystem, message, findings, causes⟩ := f
  rw [Failure.text, Cause.texts_eq_map]
  rfl

/-- A failure that keeps another error as its text alone. What that error was
    made of cannot be taken apart again. -/
def ofText (text : String) : Failure :=
  new text

end Failure

end Steward
