import Steward.Proofs.Relay
import Steward.Settings.Load

/-!
# Building a Service from Accepted Settings

Which of the settings that are accepted a service can be built with.

Settings are looked at before a service is built, and of the capacity of the bus only
this is asked, that it is not zero. But a ring cannot be had for every other capacity
either. There are two more limits, half the range of a word and what there are addresses
for, and nobody asks about them: neither `Settings.validate`, nor what reads settings
from variables, where every number that fits into a word is a capacity. So accepted
settings fall into three parts. Up to `Broadcast.sizeLimit` the service is built, with
just the ring that was asked for, since `Settings.usedCapacity` changes no capacity that
was accepted. Beyond it there is none, and what is said of it depends on whether the
capacity is beyond `Broadcast.capacityLimit` too.

That all three parts are met in practice is the matter of the second half. A number that
is written with decimal digits is read as this number (`parseWord?_toDigits`), so
settings with every capacity but zero can be read from one variable.

## Main definitions

* `Settings.Accepted`: Settings that were found to be right.
* `Service.bare`: A service that begins, without subscribers.

## Theorems

* `Settings.Accepted.usedCapacity_eq`: An accepted capacity is used as it is.
* `Text.parseWord?_toDigits`: A number is read as it is written.
* `Settings.ofVariables_capacity`: Every capacity but zero can be had from a variable.
* `Service.built_within_limits`: Which accepted settings a service is built with.
-/

namespace Steward

variable {ι : Type}

namespace Text

/-- Decimal digits are worth the number that is written with them. -/
theorem decimalValue_toDigits (n : Nat) : decimalValue (Nat.toDigits 10 n) = n := by
  have hvalue : ∀ ds : List Char, decimalValue ds = Nat.ofDigitChars 10 ds 0 := by
    intro ds
    rw [Nat.ofDigitChars_eq_foldl, decimalValue]
    congr 1
    funext value c
    rw [Nat.mul_comm]
  rw [hvalue, Nat.ofDigitChars_toDigits (by decide) (by decide)]

/-- A number that fits into a word is read as it is written. -/
theorem parseWord?_toDigits {n : Nat} (hn : n < UInt64.size) :
    parseWord? (Nat.toDigits 10 n) = some (.ofNat n) := by
  have hdigit : ∀ c ∈ Nat.toDigits 10 n, c.isDigit = true := fun c hc =>
    Nat.isDigit_of_mem_toDigits (by decide) (by decide) hc
  have hvalue := decimalValue_toDigits n
  cases hds : Nat.toDigits 10 n with
  | nil => exact absurd hds Nat.toDigits_ne_nil
  | cons c rest =>
      rw [hds] at hdigit hvalue
      -- The first digit is no sign.
      have hplus : ∀ unsigned, c :: rest = '+' :: unsigned → False := by
        intro unsigned heq
        cases heq
        exact absurd (hdigit '+' List.mem_cons_self) (by decide)
      rw [parseWord?]
      · simp only [List.isEmpty_cons, List.all_eq_true.mpr hdigit, Bool.not_true, Bool.or_self,
          Bool.false_eq_true, if_false, hvalue, hn, if_true]
      · exact hplus

end Text

namespace Settings

/-- Settings that were found to be right: as they are, or when they were read. -/
inductive Accepted (s : Settings) : Prop where
  | validated (h : s.validate = .ok ())
  | fromVariables {vars : Variables} (h : ofVariables vars = .ok s)
  | fromEnvironment {env : Environment} (h : ofEnvironment env = .ok s)

variable {s : Settings}

/-- Settings that are read are validated. -/
theorem validate_of_ofVariables {vars : Variables} (h : ofVariables vars = .ok s) :
    s.validate = .ok () := by
  unfold ofVariables at h
  split at h
  · cases h
  · split at h
    · cases h
    · rename_i hvalid
      cases h
      exact hvalid

theorem Accepted.validate_eq (h : s.Accepted) : s.validate = .ok () := by
  cases h with
  | validated h => exact h
  | fromVariables h => exact validate_of_ofVariables h
  | fromEnvironment h => exact validate_of_ofVariables h

/-- A capacity that was accepted is not zero. -/
theorem Accepted.busCapacity_ne_zero (h : s.Accepted) : s.busCapacity ≠ 0 := by
  intro hzero
  have hnone := validate_eq_ok_iff.mp h.validate_eq
  rw [violations, if_pos hzero] at hnone
  simp at hnone

/-- A capacity that was accepted is used as it is. -/
theorem Accepted.usedCapacity_eq (h : s.Accepted) : s.usedCapacity = s.busCapacity := by
  have hpos : 1 ≤ s.busCapacity := by
    have hne := h.busCapacity_ne_zero
    rw [ne_eq, ← UInt64.toNat_inj] at hne
    rw [UInt64.le_iff_toNat_le]
    exact Nat.pos_of_ne_zero hne
  -- The clamp takes the capacity unless it is at most one, and then it is one.
  show (if s.busCapacity ≤ 1 then 1 else s.busCapacity) = s.busCapacity
  split
  · rename_i hle
    exact UInt64.le_antisymm hpos hle
  · rfl

/-- Nothing is asked of a capacity but that it is not zero. -/
theorem validate_withCapacity {c : UInt64} (h : s.validate = .ok ()) (hc : c ≠ 0) :
    ({ s with busCapacity := c } : Settings).validate = .ok () := by
  rw [validate_eq_ok_iff, violations, List.append_eq_nil_iff, List.append_eq_nil_iff] at h ⊢
  exact ⟨⟨h.1.1, if_neg hc⟩, h.2⟩

/-- Settings with every capacity but zero can be had from one variable. -/
theorem ofVariables_capacity {n : Nat} (hpos : 0 < n) (hn : n < UInt64.size) :
    ofVariables [(capacityEntry.key, toString n)] =
      .ok { standard with busCapacity := .ofNat n } := by
  have hload : capacityEntry.load [(capacityEntry.key, toString n)] = .ok (.ofNat n) := by
    rw [Entry.load, Entry.text, List.lookup_cons_self, Option.getD_some]
    simp only [capacityEntry, parseCapacity, Nat.toString_eq_repr, Nat.toList_repr,
      Text.parseWord?_toDigits hn]
  -- The signals are not given, so it is their standard text that is parsed.
  have hread : readEntries [(capacityEntry.key, toString n)] =
      .ok { standard with busCapacity := .ofNat n } := by
    have htext : signalsEntry.text [(capacityEntry.key, toString n)] = signalsEntry.fallback := rfl
    have hparse : signalsEntry.parse signalsEntry.fallback = some .standard := by decide +kernel
    have hsignals : signalsEntry.load [(capacityEntry.key, toString n)] = .ok .standard := by
      rw [Entry.load, htext, hparse]
    rw [readEntries, hload, hsignals]
    rfl
  -- Only nought would not pass the look at the settings.
  have hne : UInt64.ofNat n ≠ 0 := by
    rw [ne_eq, ← UInt64.toNat_inj, UInt64.toNat_ofNat_of_lt' hn]
    exact Nat.pos_iff_ne_zero.mp hpos
  rw [ofVariables, hread]
  dsimp only
  rw [validate_withCapacity validate_standard hne]

end Settings

/-- A ring can be had up to the size whose slots have addresses. What is said of a larger
    one depends on how large it is. -/
theorem Broadcast.make_eq (α : Type) (capacity : Nat) :
    (capacity ≤ sizeLimit → make capacity = .ok (ofCapacity capacity : Broadcast α)) ∧
    (sizeLimit < capacity → capacity ≤ capacityLimit →
      make capacity = (.error sizeRefusal : Except String (Broadcast α))) ∧
    (capacityLimit < capacity →
      make capacity = (.error capacityRefusal : Except String (Broadcast α))) := by
  have hlimits : sizeLimit ≤ capacityLimit := by decide +kernel
  refine ⟨fun hsize => ?_, fun hsize hword => ?_, fun hword => ?_⟩
  · rw [make, if_neg (Nat.not_lt.mpr (hsize.trans hlimits)), if_neg (Nat.not_lt.mpr hsize)]
  · rw [make, if_neg (Nat.not_lt.mpr hword), if_pos hsize]
  · rw [make, if_pos hword]

namespace Service

/-- A service that begins, without subscribers and with the ring that was asked for. -/
def bare (settings : Settings) : Service ι where
  system := .initial settings
  relay :=
    { delivery := { ring := .ofCapacity settings.busCapacity.toNat }
      present := false }

/-- Without subscribers a service is built if its ring can be had. -/
theorem build_of_accepted {settings : Settings} (h : settings.Accepted) :
    build settings [] = (Broadcast.make settings.busCapacity.toNat).map fun ring =>
      ({ system := .initial settings, relay := { delivery := { ring }, present := false } } :
        Service ι) := by
  rw [build, Relay.ofSubscribers, h.usedCapacity_eq]
  cases Broadcast.make settings.busCapacity.toNat <;> rfl

/-- A service without subscribers is built from accepted settings, and nothing panics, as
    long as the capacity of its bus is within the size that a ring can have. Beyond it
    there is a panic in its place. And settings with every capacity but zero are
    accepted, also when they are read. -/
theorem built_within_limits (ι : Type) :
    (∀ settings : Settings, settings.Accepted →
      (settings.busCapacity.toNat ≤ Broadcast.sizeLimit →
        build settings [] = .ok (bare settings : Service ι)) ∧
      (Broadcast.sizeLimit < settings.busCapacity.toNat →
        settings.busCapacity.toNat ≤ Broadcast.capacityLimit →
          build settings [] = (.error Broadcast.sizeRefusal : Except String (Service ι))) ∧
      (Broadcast.capacityLimit < settings.busCapacity.toNat →
        build settings [] = (.error Broadcast.capacityRefusal : Except String (Service ι)))) ∧
    ∀ n, 0 < n → n < UInt64.size → ∃ settings : Settings, settings.busCapacity.toNat = n ∧
      Settings.ofVariables [("SERVICE_BUS_CAPACITY", toString n)] = .ok settings ∧
      settings.validate = .ok () := by
  refine ⟨fun settings h => ?_, fun n hpos hn => ?_⟩
  · -- Without subscribers nothing is asked of a service but its ring.
    rw [build_of_accepted h]
    rcases Broadcast.make_eq Event settings.busCapacity.toNat with ⟨hmade, hsize, hword⟩
    refine ⟨fun hle => ?_, fun hlt hle => ?_, fun hlt => ?_⟩
    · rw [hmade hle]
      rfl
    · rw [hsize hlt hle]
      rfl
    · rw [hword hlt]
      rfl
  · -- Every capacity of a word but nought can be had by setting one variable.
    have hread := Settings.ofVariables_capacity hpos hn
    exact ⟨_, UInt64.toNat_ofNat_of_lt' hn, hread, Settings.validate_of_ofVariables hread⟩

/-- The largest ring there is, read from a variable, one that is larger by one, and one
    that is beyond half the range of a word. -/
theorem built_within_limits_at_the_limits :
    let settings (capacity : UInt64) : Settings :=
      { Settings.standard with busCapacity := capacity }
    (build (settings 72057594037927936) [] =
        .ok (bare (settings 72057594037927936) : Service Nat) ∧
      build (settings 72057594037927937) [] =
        (.error "capacity overflow" : Except String (Service Nat)) ∧
      build (settings 9223372036854775808) [] =
        (.error Broadcast.capacityRefusal : Except String (Service Nat))) ∧
    ∃ s : Settings, s.busCapacity.toNat = 9223372036854775808 ∧
      Settings.ofVariables [("SERVICE_BUS_CAPACITY", toString 9223372036854775808)] = .ok s ∧
      s.validate = .ok () := by
  intro settings
  -- The numbers are too large to look at what is built, so the theorem says it.
  have haccepted : ∀ n, 0 < n → n < UInt64.size → (settings (.ofNat n)).Accepted :=
    fun n hpos hn => .fromVariables (Settings.ofVariables_capacity hpos hn)
  rcases built_within_limits Nat with ⟨hbuilt, hread⟩
  refine ⟨⟨?_, ?_, ?_⟩, hread _ (by decide) (by decide)⟩
  · exact (hbuilt _ (haccepted 72057594037927936 (by decide) (by decide))).1 (by decide +kernel)
  · exact (hbuilt _ (haccepted 72057594037927937 (by decide) (by decide))).2.1 (by decide +kernel)
      (by decide +kernel)
  · exact (hbuilt _ (haccepted 9223372036854775808 (by decide) (by decide))).2.2
      (by decide +kernel)

/-- Settings that are accepted, and with which no service can be built. -/
theorem accepted_and_not_built :
    let settings : Settings := { Settings.standard with busCapacity := 9223372036854775808 }
    settings.validate = .ok () ∧
      build settings [] = (.error Broadcast.capacityRefusal : Except String (Service Nat)) ∧
      ¬∀ settings : Settings, settings.validate = .ok () →
        ∃ s : Service Nat, build settings [] = .ok s := by
  intro settings
  have hvalid : settings.validate = .ok () :=
    Settings.validate_withCapacity Settings.validate_standard (by decide)
  have hrefused : build settings [] =
      (.error Broadcast.capacityRefusal : Except String (Service Nat)) := by
    rw [build_of_accepted (.validated hvalid), (Broadcast.make_eq Event _).2.2 (by decide +kernel)]
    rfl
  refine ⟨hvalid, hrefused, fun hall => ?_⟩
  rcases hall settings hvalid with ⟨s, hbuilt⟩
  rw [hrefused] at hbuilt
  cases hbuilt

end Service

end Steward
