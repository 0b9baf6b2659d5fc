import Mathlib.Data.List.Forall2
import Steward.Settings.Load

/-!
# What Settings Are Refused For

Which fields a refusal of settings tells of, when the settings were read from
variables.

A field is invalid for one of two reasons. Its variable is there and holds a text
that cannot be parsed, or its value, given or standing in, is one that settings must
not have. The two are found out in two stages. All variables are parsed first, one
after the other, and the first that cannot be parsed ends the reading. Only when all
of them could be parsed is there anything to validate, and then everything that is
wrong is told at once.

So settings are accepted exactly when no field is invalid, and a refusal tells of
invalid fields only and of each of them once. But it does not tell of them all: a
field that cannot be read hides every other, also those that cannot be read either.
`Field.reported` are the fields that are told of, and they are all the invalid ones
exactly when a field that cannot be read is the only one.

A variable that is missing is nothing that cannot be read. That comes down to the
texts that stand in, each of which can be parsed.

## Main definitions

* `Field`: The settings one by one, with their variables and their paths.
* `Field.isUnreadable`, `Field.isViolated`: The two reasons for a field to be invalid.
* `Field.reported`: The fields that a refusal tells of.
* `Field.TellsOf`: A finding tells of a field.

## Theorems

* `Entry.load_of_unreadable`, `Entry.load_of_readable`: What comes of one variable.
* `readEntries_cases`: What comes of all of them.
* `violations_tell`: The violations are those of the fields that are violated.
* `ofVariables_cases`: What comes of settings that are read from variables.
* `Field.reported_eq_invalid_iff`: When all invalid fields are told of.
* `refused_for_fields`: What settings are refused for.
-/

namespace Steward.Settings

/-- The variable of an entry is there, and its text cannot be parsed. -/
def Entry.isUnreadable {α : Type} (e : Entry α) (vars : Variables) : Bool :=
  (vars.lookup e.key).any fun text => (e.parse text).isNone

/-- The value of an entry, by its variable or by the text that stands in for it. -/
def Entry.value? {α : Type} (e : Entry α) (vars : Variables) : Option α :=
  e.parse (e.text vars)

/-- The settings one by one. -/
inductive Field where
  | name
  | busCapacity
  | signals
  | logLevel
  | logJson
deriving DecidableEq, Repr

namespace Field

/-- All fields, in the order in which they are read. -/
def all : List Field :=
  [.name, .busCapacity, .signals, .logLevel, .logJson]

/-- The variable of a field. -/
def key : Field → String
  | .name => nameEntry.key
  | .busCapacity => capacityEntry.key
  | .signals => signalsEntry.key
  | .logLevel => logLevelEntry.key
  | .logJson => logJsonEntry.key

/-- The word for a field in the path to it. -/
def word : Field → String
  | .name => "name"
  | .busCapacity => "bus_capacity"
  | .signals => "shutdown_signals"
  | .logLevel => "log_level"
  | .logJson => "log_json"

/-- The variable of a field is there and cannot be parsed. -/
def isUnreadable (vars : Variables) : Field → Bool
  | .name => nameEntry.isUnreadable vars
  | .busCapacity => capacityEntry.isUnreadable vars
  | .signals => signalsEntry.isUnreadable vars
  | .logLevel => logLevelEntry.isUnreadable vars
  | .logJson => logJsonEntry.isUnreadable vars

/-- The value of a field, given or standing in, is one that settings must not have. -/
def isViolated (vars : Variables) : Field → Bool
  | .name => (nameEntry.value? vars).any fun name => Text.isAllBlank name.toList
  | .busCapacity => (capacityEntry.value? vars).any (· = 0)
  | .signals => (signalsEntry.value? vars).any Signals.isEmpty
  | .logLevel | .logJson => false

/-- There is something wrong with a field. -/
def isInvalid (vars : Variables) (f : Field) : Bool :=
  f.isUnreadable vars || f.isViolated vars

/-- The fields with which something is wrong. -/
def invalid (vars : Variables) : List Field :=
  all.filter (isInvalid vars)

/-- The fields that a refusal tells of: the first that cannot be read, or else all
    that are violated. -/
def reported (vars : Variables) : List Field :=
  match all.find? (isUnreadable vars) with
  | some f => [f]
  | none => all.filter (isViolated vars)

/-- A finding tells of a field: it names the variable that cannot be parsed, or it has
    the path to the field. -/
def TellsOf (vars : Variables) (f : Field) (x : Finding) : Prop :=
  if f.isUnreadable vars then x = ⟨"Failed to parse environment variable " ++ f.key, []⟩
  else x.path = pathTo f.word

theorem mem_all (f : Field) : f ∈ all := by
  cases f <;> decide

variable {vars : Variables}

theorem reported_of_unreadable {f : Field} (h : all.find? (isUnreadable vars) = some f) :
    reported vars = [f] := by
  rw [reported, h]

theorem reported_of_readable (h : all.find? (isUnreadable vars) = none) :
    reported vars = all.filter (isViolated vars) := by
  rw [reported, h]

theorem isUnreadable_eq_false (h : all.find? (isUnreadable vars) = none) (f : Field) :
    f.isUnreadable vars = false :=
  Bool.eq_false_iff.mpr (List.find?_eq_none.mp h f (mem_all f))

/-- As long as every variable can be read, the invalid fields are the violated ones. -/
theorem invalid_of_readable (h : all.find? (isUnreadable vars) = none) :
    invalid vars = all.filter (isViolated vars) := by
  refine List.filter_congr fun f _ => ?_
  rw [isInvalid, isUnreadable_eq_false h, Bool.false_or]

theorem mem_invalid {f : Field} : f ∈ invalid vars ↔ f.isInvalid vars = true := by
  rw [invalid, List.mem_filter, and_iff_right (mem_all f)]

theorem isInvalid_of_isUnreadable {f : Field} (h : f.isUnreadable vars = true) :
    f.isInvalid vars = true := by
  rw [isInvalid, h, Bool.true_or]

/-- A refusal tells of invalid fields only, and of none of them twice. -/
theorem reported_sublist_invalid (vars : Variables) :
    (reported vars).Sublist (invalid vars) := by
  cases hfirst : all.find? (isUnreadable vars) with
  | none =>
      rw [reported_of_readable hfirst, invalid_of_readable hfirst]
  | some f =>
      rw [reported_of_unreadable hfirst, List.singleton_sublist, mem_invalid]
      exact isInvalid_of_isUnreadable (List.find?_some hfirst)

/-- A refusal tells of all invalid fields, unless one that cannot be read stands beside
    another. -/
theorem reported_eq_invalid_iff (vars : Variables) :
    reported vars = invalid vars ↔
      ∀ f g : Field, f.isUnreadable vars = true → g.isInvalid vars = true → g = f := by
  cases hfirst : all.find? (isUnreadable vars) with
  | none =>
      -- Nothing is unreadable, so both lists hold the violated fields and
      -- the condition asks nothing.
      rw [reported_of_readable hfirst, invalid_of_readable hfirst, eq_self, true_iff]
      intro f g hf
      rw [isUnreadable_eq_false hfirst] at hf
      cases hf
  | some first =>
      have hunreadable : first.isUnreadable vars = true := List.find?_some hfirst
      rw [reported_of_unreadable hfirst]
      constructor
      · intro hall f g hf hg
        -- Only this field is reported, so by the equation every invalid field is this one.
        have hmem : ∀ f : Field, f.isInvalid vars = true → f = first := by
          intro f hf
          rw [← mem_invalid, ← hall, List.mem_singleton] at hf
          exact hf
        rw [hmem f (isInvalid_of_isUnreadable hf), hmem g hg]
      · intro halone
        -- What is invalid is then just this field, and it is listed once.
        have hiff : ∀ f ∈ all, isInvalid vars f = (f == first) := by
          intro f _
          rw [Bool.eq_iff_iff, beq_iff_eq]
          refine ⟨halone first f hunreadable, fun hf => ?_⟩
          rw [hf, isInvalid_of_isUnreadable hunreadable]
        rw [invalid, List.filter_congr hiff]
        cases first <;> rfl

end Field

namespace Entry

variable {α : Type} {e : Entry α} {vars : Variables}

theorem load_of_unreadable (h : e.isUnreadable vars = true) : e.load vars = .error e.key := by
  rw [isUnreadable, Option.any_eq_true] at h
  rcases h with ⟨given, hgiven, hnone⟩
  rw [Option.isNone_iff_eq_none] at hnone
  rw [load, text, hgiven, Option.getD_some, hnone]

/-- What can be read has a value, as long as the text that stands in has one. -/
theorem load_of_readable (hfallback : (e.parse e.fallback).isSome = true)
    (h : e.isUnreadable vars = false) : ∃ a, e.value? vars = some a ∧ e.load vars = .ok a := by
  have hsome : (e.value? vars).isSome = true := by
    rw [value?, text]
    rw [isUnreadable] at h
    cases hgiven : vars.lookup e.key with
    | none => exact hfallback
    | some given =>
        rw [hgiven, Option.any_some] at h
        rw [Option.getD_some, ← Option.not_isNone, h, Bool.not_false]
  rcases Option.isSome_iff_exists.mp hsome with ⟨a, ha⟩
  refine ⟨a, ha, ?_⟩
  rw [load, show e.parse (e.text vars) = some a from ha]

end Entry

/-- Settings whose fields have the values of their entries. -/
structure ReadFrom (vars : Variables) (s : Settings) : Prop where
  name : nameEntry.value? vars = some s.name
  busCapacity : capacityEntry.value? vars = some s.busCapacity
  signals : signalsEntry.value? vars = some s.signals
  logLevel : logLevelEntry.value? vars = some s.logLevel
  logJson : logJsonEntry.value? vars = some s.logJson

/-- The reading ends at the first variable that cannot be parsed, or all fields have
    got their values. -/
theorem readEntries_cases (vars : Variables) :
    (∃ f, Field.all.find? (Field.isUnreadable vars) = some f ∧
      readEntries vars = .error f.key) ∨
    ∃ s, Field.all.find? (Field.isUnreadable vars) = none ∧ readEntries vars = .ok s ∧
      s.ReadFrom vars := by
  -- Every text is a name, and every text is a filter of the log.
  have hname : nameEntry.isUnreadable vars = false := by
    rw [Entry.isUnreadable]
    cases vars.lookup nameEntry.key <;> rfl
  have hlevel : logLevelEntry.isUnreadable vars = false := by
    rw [Entry.isUnreadable]
    cases vars.lookup logLevelEntry.key <;> rfl
  rcases Entry.load_of_readable rfl hname with ⟨name, hnameValue, hnameLoad⟩
  rcases Entry.load_of_readable rfl hlevel with ⟨level, hlevelValue, hlevelLoad⟩
  -- The entries that can be unreadable are looked at in the order in which they are read;
  -- the first of them ends the reading.
  cases hcapacity : capacityEntry.isUnreadable vars with
  | true =>
      refine Or.inl ⟨.busCapacity, ?_, ?_⟩
      · simp only [Field.all, List.find?_cons, Field.isUnreadable, hname, hcapacity]
      · rw [readEntries, hnameLoad, Entry.load_of_unreadable hcapacity]
        rfl
  | false =>
  rcases Entry.load_of_readable (by decide +kernel) hcapacity with
    ⟨capacity, hcapacityValue, hcapacityLoad⟩
  cases hsignals : signalsEntry.isUnreadable vars with
  | true =>
      refine Or.inl ⟨.signals, ?_, ?_⟩
      · simp only [Field.all, List.find?_cons, Field.isUnreadable, hname, hcapacity, hsignals]
      · rw [readEntries, hnameLoad, hcapacityLoad, Entry.load_of_unreadable hsignals]
        rfl
  | false =>
  rcases Entry.load_of_readable (by decide +kernel) hsignals with
    ⟨signals, hsignalsValue, hsignalsLoad⟩
  cases hjson : logJsonEntry.isUnreadable vars with
  | true =>
      refine Or.inl ⟨.logJson, ?_, ?_⟩
      · simp only [Field.all, List.find?_cons, Field.isUnreadable, hname, hcapacity, hsignals,
          hlevel, hjson]
      · rw [readEntries, hnameLoad, hcapacityLoad, hsignalsLoad, hlevelLoad,
          Entry.load_of_unreadable hjson]
        rfl
  | false =>
      rcases Entry.load_of_readable (by decide +kernel) hjson with ⟨json, hjsonValue, hjsonLoad⟩
      refine Or.inr ⟨⟨name, capacity, signals, level, json⟩, ?_, ?_, ?_⟩
      · simp only [Field.all, List.find?_cons, Field.isUnreadable, hname, hcapacity, hsignals,
          hlevel, hjson, List.find?_nil]
      · rw [readEntries, hnameLoad, hcapacityLoad, hsignalsLoad, hlevelLoad, hjsonLoad]
        rfl
      · exact ⟨hnameValue, hcapacityValue, hsignalsValue, hlevelValue, hjsonValue⟩

/-- The violations of settings that were read are those of the fields that are
    violated, each with the path to its field. -/
theorem violations_tell {vars : Variables} {s : Settings} (h : s.ReadFrom vars) :
    s.violations.map Finding.path =
      (Field.all.filter (Field.isViolated vars)).map fun f => pathTo f.word := by
  have hname : Field.isViolated vars .name = Text.isAllBlank s.name.toList := by
    rw [Field.isViolated, h.name, Option.any_some]
  have hcapacity : Field.isViolated vars .busCapacity = decide (s.busCapacity = 0) := by
    rw [Field.isViolated, h.busCapacity, Option.any_some]
  have hsignals : Field.isViolated vars .signals = s.signals.isEmpty := by
    rw [Field.isViolated, h.signals, Option.any_some]
  have hlevel : Field.isViolated vars .logLevel = false := rfl
  have hjson : Field.isViolated vars .logJson = false := rfl
  simp only [violations, Field.all, List.filter_cons, List.filter_nil, hname, hcapacity, hsignals,
    hlevel, hjson, decide_eq_true_eq, Bool.false_eq_true, if_false]
  -- Three checks can fail, each on its own, and the paths come in the order of the
  -- fields in each of the eight cases.
  by_cases hblank : Text.isAllBlank s.name.toList = true <;>
    by_cases hzero : s.busCapacity = 0 <;>
    by_cases hempty : s.signals.isEmpty = true <;>
    simp only [hblank, hzero, hempty, if_true, if_false, List.map_append, List.map_cons,
      List.map_nil, Field.word] <;> rfl

/-- There are three outcomes: a variable cannot be read, nothing is violated, or
    something is. -/
theorem ofVariables_cases (vars : Variables) :
    (∃ f, Field.all.find? (Field.isUnreadable vars) = some f ∧
      ofVariables vars = .error (unreadable f.key)) ∨
    (∃ s, Field.all.find? (Field.isUnreadable vars) = none ∧ ofVariables vars = .ok s ∧
      Field.all.filter (Field.isViolated vars) = []) ∨
    ∃ s : Settings, Field.all.find? (Field.isUnreadable vars) = none ∧ s.ReadFrom vars ∧
      ofVariables vars = .error (refusal s.violations) ∧
      Field.all.filter (Field.isViolated vars) ≠ [] := by
  rcases readEntries_cases vars with ⟨f, hfirst, hread⟩ | ⟨s, hfirst, hread, hfrom⟩
  · refine Or.inl ⟨f, hfirst, ?_⟩
    rw [ofVariables, hread]
  · -- The settings are read, and what is left is whether they are valid.
    have hpaths := violations_tell hfrom
    cases hviolations : s.violations with
    | nil =>
        rw [hviolations, List.map_nil, eq_comm, List.map_eq_nil_iff] at hpaths
        refine Or.inr (Or.inl ⟨s, hfirst, ?_, hpaths⟩)
        simp only [ofVariables, hread, validate_eq_ok_iff.mpr hviolations]
    | cons x more =>
        refine Or.inr (Or.inr ⟨s, hfirst, hfrom, ?_, fun hnone => ?_⟩)
        · simp only [ofVariables, hread, validate, hviolations, List.isEmpty_cons,
            Bool.false_eq_true, if_false]
        · rw [hviolations, hnone, List.map_nil, List.map_cons] at hpaths
          cases hpaths

/-- The violations tell of the violated fields, one by one. -/
theorem forall₂_tellsOf {vars : Variables} {s : Settings} (h : s.ReadFrom vars)
    (hfirst : Field.all.find? (Field.isUnreadable vars) = none) :
    List.Forall₂ (Field.TellsOf vars) (Field.all.filter (Field.isViolated vars))
      s.violations := by
  have hpaths := violations_tell h
  rw [← List.forall₂_eq_eq_eq, List.forall₂_map_left_iff, List.forall₂_map_right_iff]
    at hpaths
  refine hpaths.flip.imp fun f x hpath => ?_
  rw [Field.TellsOf, Field.isUnreadable_eq_false hfirst, if_neg Bool.false_ne_true]
  exact hpath

/-- Settings are read from variables exactly when no field is invalid. Otherwise the
    refusal has no causes, and its findings tell of the reported fields, one by one.
    These are among the invalid fields, and they are all of them unless a field that
    cannot be read is there beside another that is invalid. -/
theorem refused_for_fields (vars : Variables) :
    ((∃ s, ofVariables vars = .ok s) ↔ Field.invalid vars = []) ∧
    (∀ failure, ofVariables vars = .error failure →
      failure.causes = [] ∧
      List.Forall₂ (Field.TellsOf vars) (Field.reported vars) failure.findingList) ∧
    (Field.reported vars).Sublist (Field.invalid vars) ∧
    (Field.reported vars = Field.invalid vars ↔
      ∀ f g : Field, f.isUnreadable vars = true → g.isInvalid vars = true → g = f) := by
  refine ⟨?_, ?_, Field.reported_sublist_invalid vars, Field.reported_eq_invalid_iff vars⟩
  · rcases ofVariables_cases vars with
      ⟨f, hfirst, hread⟩ | ⟨s, hfirst, hread, hnone⟩ | ⟨s, hfirst, -, hread, hsome⟩
    · -- The field that stopped the reading is invalid itself, so neither side holds.
      have hmem := Field.mem_invalid.mpr
        (Field.isInvalid_of_isUnreadable (List.find?_some hfirst))
      rw [hread]
      constructor
      · rintro ⟨_, hs⟩
        cases hs
      · intro hnone
        rw [hnone] at hmem
        cases hmem
    · rw [hread, Field.invalid_of_readable hfirst]
      exact ⟨fun _ => hnone, fun _ => ⟨s, rfl⟩⟩
    · rw [hread, Field.invalid_of_readable hfirst]
      constructor
      · rintro ⟨_, hs⟩
        cases hs
      · intro hnone
        exact absurd hnone hsome
  · intro failure hfailure
    rcases ofVariables_cases vars with
      ⟨f, hfirst, hread⟩ | ⟨s, hfirst, hread, -⟩ | ⟨s, hfirst, hfrom, hread, -⟩
    · rw [hread] at hfailure
      cases hfailure
      -- The reading stopped at one field, and the failure has the one finding about it.
      rw [Field.reported_of_unreadable hfirst]
      refine ⟨rfl, List.Forall₂.cons ?_ List.Forall₂.nil⟩
      rw [Field.TellsOf, if_pos (List.find?_some hfirst)]
    · rw [hread] at hfailure
      cases hfailure
    · rw [hread] at hfailure
      cases hfailure
      rw [Field.reported_of_readable hfirst]
      -- All was read, and there is one finding for each check that failed.
      exact ⟨rfl, forall₂_tellsOf hfrom hfirst⟩

/-- A blank name and no room on the bus are told of together. -/
theorem refused_for_fields_blank_and_full :
    (∃ failure,
      ofVariables [("SERVICE_NAME", " "), ("SERVICE_BUS_CAPACITY", "0")] = .error failure ∧
      failure.findingList.length = 2) ∧
    Field.reported [("SERVICE_NAME", " "), ("SERVICE_BUS_CAPACITY", "0")] =
      Field.invalid [("SERVICE_NAME", " "), ("SERVICE_BUS_CAPACITY", "0")] := by
  have hall : Field.invalid [("SERVICE_NAME", " "), ("SERVICE_BUS_CAPACITY", "0")] =
      [.name, .busCapacity] := by
    decide +kernel
  rcases refused_for_fields [("SERVICE_NAME", " "), ("SERVICE_BUS_CAPACITY", "0")] with
    ⟨hread, htold, -, hiff⟩
  -- Both values are readable, so both fields are reported.
  have hreadable : ∀ f : Field,
      f.isUnreadable [("SERVICE_NAME", " "), ("SERVICE_BUS_CAPACITY", "0")] = false := by
    intro f
    cases f <;> decide +kernel
  have hreported := hiff.mpr fun f g hf _ => absurd hf (Bool.eq_false_iff.mp (hreadable f))
  refine ⟨?_, hreported⟩
  cases hvars : ofVariables [("SERVICE_NAME", " "), ("SERVICE_BUS_CAPACITY", "0")] with
  | ok s =>
      have hnone := hread.mp ⟨s, hvars⟩
      rw [hall] at hnone
      cases hnone
  | error failure =>
      refine ⟨failure, rfl, ?_⟩
      rw [← (htold failure hvars).2.length_eq, hreported, hall]
      rfl

/-- A capacity that cannot be read hides a blank name and signals that cannot be read.
    So the findings of a refusal do not tell of every invalid field. -/
theorem unreadable_hides_others :
    Field.invalid [("SERVICE_NAME", " "), ("SERVICE_BUS_CAPACITY", "many"),
      ("SERVICE_SHUTDOWN_SIGNALS", "usr1")] = [.name, .busCapacity, .signals] ∧
    ofVariables [("SERVICE_NAME", " "), ("SERVICE_BUS_CAPACITY", "many"),
      ("SERVICE_SHUTDOWN_SIGNALS", "usr1")] = .error (unreadable "SERVICE_BUS_CAPACITY") ∧
    ¬∀ vars failure, ofVariables vars = .error failure →
      ∃ fields : List Field, fields.Perm (Field.invalid vars) ∧
        List.Forall₂ (Field.TellsOf vars) fields failure.findingList := by
  have hall : Field.invalid [("SERVICE_NAME", " "), ("SERVICE_BUS_CAPACITY", "many"),
      ("SERVICE_SHUTDOWN_SIGNALS", "usr1")] = [.name, .busCapacity, .signals] := by
    decide +kernel
  have hread : ofVariables [("SERVICE_NAME", " "), ("SERVICE_BUS_CAPACITY", "many"),
      ("SERVICE_SHUTDOWN_SIGNALS", "usr1")] = .error (unreadable "SERVICE_BUS_CAPACITY") := by
    rfl
  refine ⟨hall, hread, fun htells => ?_⟩
  rcases htells _ _ hread with ⟨fields, hperm, htold⟩
  -- Three fields are invalid, and the failure has a single finding.
  have hlength := htold.length_eq
  rw [hperm.length_eq, hall] at hlength
  exact absurd hlength (by decide +kernel)

end Steward.Settings
