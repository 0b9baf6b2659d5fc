import Steward.Failure.Text

/-!
# Health of a Participant

What a server or a dependency answers when it is asked how it is.

The answer is a code of the kind HTTP uses and, independently of it, an error.
A good code may come with an error and a bad one without.

## Main definitions

* `Health`: A code and perhaps an error.
* `Health.healthy`, `Health.unavailable`: The two common answers.
-/

namespace Steward

/-- The answer of a participant. -/
structure Health where
  code : Nat
  error : Option Cause := none

namespace Health

/-- The code of a participant that is well. -/
def okCode : Nat := 200

/-- The code of a participant that cannot be reached. -/
def unavailableCode : Nat := 503

/-- A code without an error. -/
def ofCode (code : Nat) : Health :=
  { code }

/-- The participant is well. -/
def healthy : Health :=
  ofCode okCode

/-- The answer with an error, which replaces an earlier one. -/
def withError (h : Health) (error : Cause) : Health :=
  { h with error := some error }

/-- The participant cannot be reached. -/
def unavailable (error : Cause) : Health :=
  (ofCode unavailableCode).withError error

end Health

end Steward
