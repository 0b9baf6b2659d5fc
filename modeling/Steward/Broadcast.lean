/-!
# Broadcast

How events get from those who publish to those who listen.

A ring keeps the newest items and counts all that were ever published. Every
receiver has a place of its own, the number of the item it takes next, so any
number of them can read the same ring at their own pace. A receiver whose place
is no longer kept has fallen behind: it is told once how many items it lost and
goes on with the oldest one kept.

Publishing never waits and never fails. A receiver starts at the place where the
next item will go, so it sees nothing that was published before it came.

The size of a ring is a power of two. A capacity is rounded up to one. A capacity
beyond half the range of a word cannot be had, nor can one for whose slots there
are not addresses enough.

## Main definitions

* `Broadcast`: The newest items and the count of all.
* `Broadcast.ofCapacity`: The empty ring for a capacity.
* `Broadcast.make`: The same, if the capacity can be had.
* `Broadcast.publish`: One more item.
* `Broadcast.receive`: What a receiver at a place takes next.
* `Broadcast.take`: What it takes without waiting.

## Theorems

* `total_publish`, `size_publish`: What publishing does.
-/

namespace Steward

/-- The newest items of a broadcast, oldest first, and how many there were in
    all. -/
structure Broadcast (α : Type) where
  /-- How many items are kept. -/
  size : Nat
  /-- How many items were ever published. -/
  total : Nat
  kept : List α
  size_pos : 0 < size
  kept_length : kept.length = min total size

/-- What a receiver takes. -/
inductive Received (α : Type) where
  /-- An item. -/
  | item (a : α)
  /-- The news that so many items were lost. -/
  | lagged (lost : Nat)
  /-- The news that nothing will be published any more. -/
  | closed
deriving DecidableEq, Repr

namespace Broadcast

variable {α : Type}

/-- The largest capacity that can be had. -/
def capacityLimit : Nat := Nat.pow 2 63 - 1

/-- What is said of a larger one. -/
def capacityRefusal : String :=
  "broadcast channel capacity exceeded `usize::MAX / 2`"

/-- The largest ring whose slots can all have addresses. A slot takes more than
    64 bytes and less than 128, and half the range of a word can be addressed. -/
def sizeLimit : Nat := Nat.pow 2 56

/-- What is said of a larger one. -/
def sizeRefusal : String := "capacity overflow"

/-- The empty ring for a capacity, which is at least one and rounded up to a
    power of two. -/
def ofCapacity (capacity : Nat) : Broadcast α where
  size := (max capacity 1).nextPowerOfTwo
  total := 0
  kept := []
  size_pos := Nat.pos_of_isPowerOfTwo (Nat.isPowerOfTwo_nextPowerOfTwo _)
  kept_length := by simp

/-- The empty ring for a capacity, or the panic of one that is too large. -/
def make (capacity : Nat) : Except String (Broadcast α) :=
  if capacityLimit < capacity then .error capacityRefusal
  else if sizeLimit < capacity then .error sizeRefusal
  else .ok (ofCapacity capacity)

/-- The number of the oldest item kept. -/
def oldest (r : Broadcast α) : Nat :=
  r.total - r.kept.length

/-- One more item. The oldest one goes if there is no room for both. -/
def publish (r : Broadcast α) (a : α) : Broadcast α where
  size := r.size
  total := r.total + 1
  kept := (r.kept ++ [a]).drop (r.kept.length + 1 - r.size)
  size_pos := r.size_pos
  kept_length := by
    have := r.kept_length
    have := r.size_pos
    simp only [List.length_drop, List.length_append, List.length_singleton]
    omega

/-- Several more items, one after the other. -/
def publishAll (r : Broadcast α) (items : List α) : Broadcast α :=
  items.foldl publish r

/-- What a receiver takes whose next item has the given number, and the number
    of the one after it. `none` says that it has to wait. -/
def receive (r : Broadcast α) (next : Nat) : Option (Received α) × Nat :=
  if next < r.oldest then (some (.lagged (r.oldest - next)), r.oldest)
  else match r.kept[next - r.oldest]? with
    | some a => (some (.item a), next + 1)
    | none => (none, next)

/-- How often a receiver can take something before it has to wait, at most. -/
def ahead (r : Broadcast α) (next : Nat) : Nat :=
  r.total + 1 - next

/-- What a receiver takes without waiting, up to a number of entries. -/
def take (r : Broadcast α) : Nat → Nat → List (Received α) × Nat
  | 0, next => ([], next)
  | limit + 1, next =>
    match r.receive next with
    | (none, next) => ([], next)
    | (some got, next) =>
      let (rest, next) := r.take limit next
      (got :: rest, next)

/-- Publishing counts. -/
@[simp] theorem total_publish (r : Broadcast α) (a : α) : (r.publish a).total = r.total + 1 := rfl

/-- Publishing does not change the size. -/
@[simp] theorem size_publish (r : Broadcast α) (a : α) : (r.publish a).size = r.size := rfl

end Broadcast

end Steward
