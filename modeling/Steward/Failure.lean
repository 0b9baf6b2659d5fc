import Steward.Panic

/-!
# Failures

What goes wrong is told as a tree: one message, the single findings behind it,
and the failures that caused it.

A failure is made where the trouble is noticed and enriched on its way up. Each
addition appends, none replaces, with the one exception of the subsystem, which
is a label and holds the last value given. The list of findings can be *unset*:
a failure that was read from a body without findings has none to speak of, and
neither has the empty failure. Every addition of findings, even of none, sets
it. Nothing that is shown depends on the difference.

A cause need not be a failure itself. A participant may hand up a plain text,
and a task that died leaves its panic behind.

## Main definitions

* `Finding`: One thing that is wrong, and where.
* `Failure`, `Cause`: The tree of failures.
* `Failure.new`, `Failure.ofText`: Failures to start from.
* `Failure.addFindings`, `Failure.addCauses`: What enriches them.

## Theorems

* `findingList_addFindings`: Findings accumulate in order.
* `causes_addCauses`: Causes accumulate in order.
-/

namespace Steward

/-- One thing that is wrong, with the way to the value it is wrong in, from the
    outside inwards. An empty path says that there is no such way. -/
structure Finding where
  message : String
  path : List String := []
deriving DecidableEq, Repr

/-- A finding at the end of a path. A path given before is replaced. -/
def Finding.atPath (f : Finding) (path : List String) : Finding :=
  { f with path }

mutual

/-- What went wrong, what exactly was found, and what caused it. -/
structure Failure where
  /-- The part of the system it comes from. Empty stands for no part. -/
  subsystem : String := ""
  /-- The message on top. -/
  message : String := ""
  /-- The single findings. `none` is unset, which shows nowhere. -/
  findings : Option (List Finding) := none
  /-- The causes, in the order they became known. -/
  causes : List Cause := []

/-- What stands behind a failure. -/
inductive Cause where
  /-- A plain error with nothing but its text. -/
  | plain (text : String)
  /-- A task that died of a panic. -/
  | died (task : Nat) (panic : Panic)
  /-- A failure in its own right. -/
  | failure (failure : Failure)

end

instance : Inhabited Failure := ⟨{}⟩

instance : Inhabited Cause := ⟨.plain ""⟩

namespace Failure

/-- A failure with a message and an empty list of findings. -/
def new (message : String) : Failure :=
  { message, findings := some [] }

/-- The findings, none of them if they are unset. -/
def findingList (f : Failure) : List Finding :=
  f.findings.getD []

/-- Whether there is anything to list under the message. -/
def hasFindings (f : Failure) : Bool :=
  !f.findingList.isEmpty

/-- Whether something stands behind the failure. -/
def hasCauses (f : Failure) : Bool :=
  !f.causes.isEmpty

/-- Labels a failure with the part of the system it comes from. -/
def inSubsystem (f : Failure) (subsystem : String) : Failure :=
  { f with subsystem }

/-- Appends findings. Unset findings become a list, even if nothing is added. -/
def addFindings (f : Failure) (more : List Finding) : Failure :=
  { f with findings := some (f.findingList ++ more) }

/-- Appends one finding. -/
def addFinding (f : Failure) (finding : Finding) : Failure :=
  f.addFindings [finding]

/-- Appends causes. -/
def addCauses (f : Failure) (more : List Cause) : Failure :=
  { f with causes := f.causes ++ more }

/-- Appends one cause. -/
def addCause (f : Failure) (cause : Cause) : Failure :=
  f.addCauses [cause]

/-- Findings are appended in the order they are given. -/
theorem findingList_addFindings (f : Failure) (more : List Finding) :
    (f.addFindings more).findingList = f.findingList ++ more := rfl

/-- Causes are appended in the order they are given. -/
theorem causes_addCauses (f : Failure) (more : List Cause) :
    (f.addCauses more).causes = f.causes ++ more := rfl

end Failure

end Steward
