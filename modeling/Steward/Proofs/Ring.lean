import Steward.Broadcast
import Mathlib.Data.List.Infix

/-!
# What a Ring Keeps

The ring of a broadcast as the end of all that was ever published.

A ring knows how many items there were and has the newest ones. So if `items` is
all that was published, what is kept is a suffix of it, and an item is found
under its number as long as it is kept. `Keeps` says this, and publishing keeps
to it.

A receiver has before it what is kept from its place on. Publishing adds to this
at the end, and takes something away at the beginning only where the receiver is
about to lose it. Taking an item takes the first one away. A receiver that learns
of a loss has the same before it as it had before.

## Main definitions

* `Broadcast.Keeps`: A ring has kept the end of a list.
* `Broadcast.unread`: What a receiver has before it.

## Theorems

* `Keeps.publishAll`: Publishing makes the list longer.
* `Keeps.getElem?_kept`: What is kept is found under its number.
* `receive_eq_item`, `receive_eq_lagged`, `receive_eq_none`: What a receiver takes.
* `unread_publish_sublist`: What publishing puts before a receiver.
-/

namespace Steward.Broadcast

variable {α : Type} (r : Broadcast α) {a : α} {next after lost : Nat}

theorem kept_length_le : r.kept.length ≤ r.total := by
  rw [r.kept_length]
  exact Nat.min_le_left _ _

theorem oldest_add_kept_length : r.oldest + r.kept.length = r.total :=
  Nat.sub_add_cancel r.kept_length_le

theorem oldest_le_total : r.oldest ≤ r.total :=
  Nat.sub_le _ _

theorem oldest_eq : r.oldest = r.total - r.size := by
  have := r.kept_length
  rw [oldest]
  omega

theorem oldest_publish (a : α) : (r.publish a).oldest = r.total + 1 - r.size :=
  (r.publish a).oldest_eq

theorem kept_publish_eq (a : α) :
    (r.publish a).kept = (r.kept ++ [a]).drop (r.kept.length + 1 - r.size) :=
  rfl

@[simp] theorem size_publishAll (items : List α) : (r.publishAll items).size = r.size := by
  induction items generalizing r with
  | nil => rfl
  | cons a rest ih => rw [publishAll, List.foldl_cons, ← publishAll, ih, size_publish]

theorem total_publishAll (items : List α) :
    (r.publishAll items).total = r.total + items.length := by
  induction items generalizing r with
  | nil => rfl
  | cons a rest ih =>
      rw [publishAll, List.foldl_cons, ← publishAll, ih, total_publish, List.length_cons]
      omega

/-- A ring only moves on. -/
theorem oldest_le_publishAll (items : List α) : r.oldest ≤ (r.publishAll items).oldest := by
  rw [oldest_eq, oldest_eq, size_publishAll, total_publishAll]
  omega

/-- What a receiver has before it that takes this number next. -/
def unread (next : Nat) : List α :=
  r.kept.drop (next - r.oldest)

variable {r}

theorem receive_eq_item (h : r.receive next = (some (.item a), after)) :
    r.oldest ≤ next ∧ r.kept[next - r.oldest]? = some a ∧ after = next + 1 := by
  unfold receive at h
  split at h
  · cases h
  · rename_i hkept
    split at h
    · rename_i b hget
      cases h
      exact ⟨Nat.le_of_not_lt hkept, hget, rfl⟩
    · cases h

theorem receive_eq_lagged (h : r.receive next = (some (.lagged lost), after)) :
    next < r.oldest ∧ after = r.oldest := by
  unfold receive at h
  split at h
  · rename_i hlost
    cases h
    exact ⟨hlost, rfl⟩
  · split at h <;> cases h

theorem receive_eq_none (h : r.receive next = (none, after)) : r.total ≤ next := by
  unfold receive at h
  split at h
  · cases h
  · rename_i hkept
    split at h
    · cases h
    · rename_i hget
      have := List.getElem?_eq_none_iff.mp hget
      have := r.oldest_add_kept_length
      omega

theorem receive_of_getElem? (hkept : r.oldest ≤ next) (hget : r.kept[next - r.oldest]? = some a) :
    r.receive next = (some (.item a), next + 1) := by
  rw [receive, if_neg (Nat.not_lt.mpr hkept), hget]

/-- A receiver that takes something was not at the end. -/
theorem lt_total_of_item (h : r.receive next = (some (.item a), after)) : next < r.total := by
  rcases receive_eq_item h with ⟨hkept, hget, -⟩
  rcases List.getElem?_eq_some_iff.mp hget with ⟨hlt, -⟩
  have := r.oldest_add_kept_length
  omega

theorem unread_of_item (h : r.receive next = (some (.item a), after)) :
    r.unread next = a :: r.unread after := by
  rcases receive_eq_item h with ⟨hkept, hget, rfl⟩
  rcases List.getElem?_eq_some_iff.mp hget with ⟨hlt, rfl⟩
  rw [unread, unread, List.drop_eq_getElem_cons hlt]
  congr 2
  omega

theorem unread_of_lagged (h : r.receive next = (some (.lagged lost), after)) :
    r.unread after = r.unread next := by
  rcases receive_eq_lagged h with ⟨hlost, rfl⟩
  rw [unread, unread, Nat.sub_self, Nat.sub_eq_zero_of_le hlost.le]

variable (r)

/-- What is before a receiver after something was published was before it or is new. -/
theorem unread_publish_sublist (next : Nat) (a : α) :
    ((r.publish a).unread next).Sublist (r.unread next ++ [a]) := by
  have hle : next - r.oldest ≤ r.kept.length + 1 - r.size + (next - (r.publish a).oldest) := by
    have hlength := r.kept_length
    have hold := r.oldest_eq
    rw [oldest_publish]
    omega
  rw [unread, kept_publish_eq, List.drop_drop]
  refine (List.drop_sublist_drop_left _ hle).trans ?_
  rw [unread, List.drop_append]
  exact (List.drop_sublist _ [a]).append_left _

theorem unread_publishAll_sublist (next : Nat) (items : List α) :
    ((r.publishAll items).unread next).Sublist (r.unread next ++ items) := by
  induction items generalizing r with
  | nil => exact (List.append_nil _).symm ▸ List.Sublist.refl _
  | cons a rest ih =>
      refine (ih (r.publish a)).trans ?_
      rw [List.append_cons]
      exact (r.unread_publish_sublist next a).append_right rest

/-- Whoever has nothing before it gets to see what is published next. -/
theorem receive_publish_total (a : α) :
    (r.publish a).receive r.total = (some (.item a), r.total + 1) := by
  have hsize := r.size_pos
  have hlength := r.kept_length
  have hold := r.oldest_publish a
  refine receive_of_getElem? (by omega) ?_
  -- The new item is the last one kept.
  have hlast : r.kept.length + 1 - r.size + (r.total - (r.publish a).oldest) = r.kept.length := by
    omega
  rw [kept_publish_eq, List.getElem?_drop, hlast, List.getElem?_concat_length]

/-- A ring has kept the end of everything that was published. -/
structure Keeps (items : List α) : Prop where
  total : r.total = items.length
  kept : r.kept <:+ items

variable {r} {items : List α}

theorem Keeps.publish (h : r.Keeps items) (a : α) : (r.publish a).Keeps (items ++ [a]) where
  total := by rw [total_publish, h.total, List.length_append, List.length_singleton]
  kept := (List.drop_suffix _ _).trans ((List.suffix_append_self_iff.mpr h.kept))

theorem Keeps.publishAll (h : r.Keeps items) (more : List α) :
    (r.publishAll more).Keeps (items ++ more) := by
  induction more generalizing r items with
  | nil => exact (List.append_nil items).symm ▸ h
  | cons a rest ih =>
      rw [List.append_cons]
      exact ih (h.publish a)

theorem Keeps.kept_eq (h : r.Keeps items) : r.kept = items.drop r.oldest := by
  rw [oldest, h.total]
  exact List.suffix_iff_eq_drop.mp h.kept

/-- What is kept is found under its number. -/
theorem Keeps.getElem?_kept (h : r.Keeps items) (hkept : r.oldest ≤ next) :
    r.kept[next - r.oldest]? = items[next]? := by
  rw [h.kept_eq, List.getElem?_drop, Nat.add_sub_cancel' hkept]

theorem keeps_ofCapacity (capacity : Nat) : (ofCapacity capacity : Broadcast α).Keeps [] where
  total := rfl
  kept := List.suffix_refl []

end Steward.Broadcast
