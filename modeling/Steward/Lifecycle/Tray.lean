/-!
# Trays

What has ended beside a call and still has to be looked at.

Whatever ends is put on the tray behind what is there already, and the call looks
at it in this order. A call that has looked at very much in one go gives way to
others. Then the thing that it was about to take up is put aside. It comes back
later, behind everything that has ended by then, so it is looked at out of turn,
but it is not lost.

## Main definitions

* `Tray`: What has ended, and what was put aside.
* `Tray.add`: Something ends.
* `Tray.take?`: The next thing is taken up.
* `Tray.setAside?`, `Tray.bringBack?`: The next thing is put aside, and one comes
  back.

## Theorems

* `toList_of_isEmpty`: There is nothing on an empty tray.
* `toList_add`: What ends is on the tray.
* `toList_take?`: What is taken up was on it.
* `toList_setAside?_perm`, `toList_bringBack?_perm`: Nothing gets lost.
-/

namespace Steward

/-- What has ended and was not looked at yet. -/
structure Tray (α : Type) where
  /-- What can be taken up, the next thing first. -/
  ended : List α := []
  /-- What was put aside, the last thing first. -/
  aside : List α := []

namespace Tray

variable {α : Type}

/-- Everything on a tray. -/
def toList (t : Tray α) : List α :=
  t.ended ++ t.aside

/-- Whether there is nothing on a tray, nor aside. -/
def isEmpty (t : Tray α) : Bool :=
  t.ended.isEmpty && t.aside.isEmpty

/-- Something has ended. -/
def add (t : Tray α) (a : α) : Tray α :=
  { t with ended := t.ended ++ [a] }

/-- The next thing is taken up. -/
def take? (t : Tray α) : Option (α × Tray α) :=
  match t.ended with
  | a :: rest => some (a, { t with ended := rest })
  | [] => none

/-- The next thing is put aside. -/
def setAside? (t : Tray α) : Option (Tray α) :=
  t.take?.map fun (a, t) => { t with aside := a :: t.aside }

/-- What was put aside last comes back, behind everything else. -/
def bringBack? (t : Tray α) : Option (Tray α) :=
  match t.aside with
  | a :: rest => some ({ t with aside := rest }.add a)
  | [] => none

/-- There is nothing on an empty tray. -/
theorem toList_of_isEmpty {t : Tray α} (h : t.isEmpty = true) : t.toList = [] := by
  rw [isEmpty, Bool.and_eq_true, List.isEmpty_iff, List.isEmpty_iff] at h
  rw [toList, h.1, h.2, List.append_nil]

/-- What ends is on the tray. -/
theorem toList_add (t : Tray α) (a : α) : (t.add a).toList.Perm (a :: t.toList) := by
  simp [toList, add]

/-- What is taken up was the first thing on the tray. -/
theorem toList_take? {t u : Tray α} {a : α} (h : t.take? = some (a, u)) :
    t.toList = a :: u.toList := by
  obtain ⟨ended, aside⟩ := t
  cases ended with
  | nil => cases h
  | cons b rest =>
    obtain ⟨rfl, rfl⟩ := Prod.mk.inj (Option.some.inj h)
    rfl

/-- Putting something aside loses nothing. -/
theorem toList_setAside?_perm {t u : Tray α} (h : t.setAside? = some u) :
    u.toList.Perm t.toList := by
  obtain ⟨ended, aside⟩ := t
  cases ended with
  | nil => simp [setAside?, take?] at h
  | cons a rest =>
    simp only [setAside?, take?, Option.map_some, Option.some.injEq] at h
    subst h
    simp [toList]

/-- Bringing something back loses nothing. -/
theorem toList_bringBack?_perm {t u : Tray α} (h : t.bringBack? = some u) :
    u.toList.Perm t.toList := by
  obtain ⟨ended, aside⟩ := t
  cases aside with
  | nil => simp [bringBack?] at h
  | cons a rest =>
    simp only [bringBack?, Option.some.injEq] at h
    subst h
    simp [toList, add]

end Tray

end Steward
