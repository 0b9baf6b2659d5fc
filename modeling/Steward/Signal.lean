import Steward.Text.Blank
import Steward.Text.LowerCase
import Steward.Text.Pieces

/-!
# Shutdown Signals

The signals that end a running service, and the lists of them that a setting
names.

A signal goes by its own name, by the name the operating system has for it, and
by a short form. Blanks around a name and the case of its letters do not matter.
A list of signals is ordered, since the first of several that arrive together is
the one reported, and names no signal twice.

## Main definitions

* `Signal`: The four signals.
* `Signal.parse`: Reading a name.
* `Signals`: A list without repetition.
* `Signals.ofList`: The list that keeps first occurrences.
* `Signals.parse`: Reading names between commas.

## Theorems

* `keepFirst_nodup`: Keeping first occurrences leaves no repetition.
* `mem_keepFirst`: It drops nothing that occurs.
-/

namespace Steward

/-- The signals a service can be told to end on. -/
inductive Signal where
  | interrupt
  | terminate
  | quit
  | hangup
deriving DecidableEq, Repr

/-- A name that is no signal's, trimmed and in small letters. -/
structure UnknownSignal where
  name : String
deriving DecidableEq, Repr

/-- How an unknown name is refused. -/
def UnknownSignal.message (e : UnknownSignal) : String :=
  "unknown shutdown signal `" ++ e.name ++
    "`, expected one of interrupt, terminate, quit, hangup"

namespace Signal

/-- The name under which a signal is reported. -/
def name : Signal → String
  | .interrupt => "interrupt"
  | .terminate => "terminate"
  | .quit => "quit"
  | .hangup => "hangup"

/-- All names of a signal, the reported one first. -/
def names : Signal → List String
  | .interrupt => ["interrupt", "int", "sigint"]
  | .terminate => ["terminate", "term", "sigterm"]
  | .quit => ["quit", "sigquit"]
  | .hangup => ["hangup", "hup", "sighup"]

/-- The signals there are. -/
def all : List Signal := [.interrupt, .terminate, .quit, .hangup]

/-- The signal that goes by a name in small letters. -/
def ofName? (name : String) : Option Signal :=
  all.find? fun s => s.names.contains name

/-- A text as signal names are compared: without the blanks around it and in
    small letters. -/
def normalName (cs : List Char) : String :=
  String.ofList (Text.lowerCase (Text.trim cs))

/-- Reading a signal. -/
def parse (cs : List Char) : Except UnknownSignal Signal :=
  match ofName? (normalName cs) with
  | some s => .ok s
  | none => .error ⟨normalName cs⟩

end Signal

/-- A list with the first occurrence of each of its members. -/
def keepFirst {α : Type} [DecidableEq α] : List α → List α
  | [] => []
  | a :: rest => a :: (keepFirst rest).filter (· ≠ a)

/-- First occurrences occur once. -/
theorem keepFirst_nodup {α : Type} [DecidableEq α] (l : List α) : (keepFirst l).Nodup := by
  induction l with
  | nil => exact List.nodup_nil
  | cons a rest ih =>
    rw [keepFirst, List.nodup_cons]
    exact ⟨by simp, ih.filter _⟩

/-- Whatever occurs has a first occurrence. -/
theorem mem_keepFirst {α : Type} [DecidableEq α] {l : List α} {a : α} :
    a ∈ keepFirst l ↔ a ∈ l := by
  induction l with
  | nil => simp [keepFirst]
  | cons b rest ih => by_cases h : a = b <;> simp [keepFirst, ih, h]

/-- An ordered list of signals without repetition. -/
structure Signals where
  list : List Signal
  nodup : list.Nodup
deriving DecidableEq

namespace Signals

/-- The signals of a list, in the order of their first occurrences. -/
def ofList (l : List Signal) : Signals :=
  ⟨keepFirst l, keepFirst_nodup l⟩

/-- No signal at all. -/
def isEmpty (s : Signals) : Bool :=
  s.list.isEmpty

/-- The signals a service ends on unless told otherwise. -/
def standard : Signals :=
  ⟨[.interrupt, .terminate], by decide⟩

/-- The parts of a text between commas that are not blank. -/
def parts (cs : List Char) : List (List Char) :=
  (Text.pieces ',' cs).filter fun part => !Text.isAllBlank part

/-- Reading the names between the commas. Blank parts are passed over, and the
    first part that is no signal's name is reported. -/
def parse (cs : List Char) : Except UnknownSignal Signals :=
  ((parts cs).mapM Signal.parse).map ofList

/-- The first in the order of the list that is among those pending. -/
def first? (s : Signals) (pending : List Signal) : Option Signal :=
  s.list.find? fun signal => pending.contains signal

end Signals

end Steward
