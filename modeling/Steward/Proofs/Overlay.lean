import Steward.Proofs.Fields

/-!
# Settings Laid over the Standard Ones

What settings that are read from variables have in common with the standard settings.

What holds unless said otherwise is there twice: as the values of `Settings.standard`,
and as the texts that stand in for variables that are not set. These texts are parsed
like given ones, so nothing but the parsers makes the two agree, and
`Entry.value?_eq_some_iff` asks of every entry that they do. From there a setting is what
its variable is parsed to, or the standard one where there is no variable, and settings
can be read exactly when there is such a value for each of them and they are valid
together.

No other name is ever looked up (`ofVariables_congr`). So an environment, which holds
bytes and much else, is read as the variables are that have the same texts under the five
names.

## Main definitions

* `Overlaid`: A setting that is parsed from its variable, or the standard one.
* `OverlaidBy`: Settings all of which are.
* `variableNames`: The variables that are looked up.

## Theorems

* `Entry.value?_eq_some_iff`: The text that stands in and the standard value agree.
* `readEntries_eq_ok_iff`: Which settings are read from variables.
* `ofVariables_congr`: Nothing else is looked up.
* `lookup_variables`: What an environment has under a name.
* `ofVariables_overlays_standard`: Variables are laid over the standard settings.
-/

namespace Steward.Settings

/-- A setting is what the variable of a name is parsed to, or the standard one where
    there is no such variable. -/
def Overlaid {α : Type} (vars : Variables) (name : String) (parse : String → Option α)
    (standard a : α) : Prop :=
  match vars.lookup name with
  | some text => parse text = some a
  | none => a = standard

/-- Settings that variables lay over the standard ones. -/
structure OverlaidBy (vars : Variables) (s : Settings) : Prop where
  name : Overlaid vars "SERVICE_NAME" some standard.name s.name
  busCapacity :
    Overlaid vars "SERVICE_BUS_CAPACITY" parseCapacity standard.busCapacity s.busCapacity
  signals : Overlaid vars "SERVICE_SHUTDOWN_SIGNALS" parseSignals standard.signals s.signals
  logLevel : Overlaid vars "SERVICE_LOG_LEVEL" some standard.logLevel s.logLevel
  logJson : Overlaid vars "SERVICE_LOG_JSON" parseSwitch standard.logJson s.logJson

/-- The names that are looked up. -/
def variableNames : List String :=
  ["SERVICE_NAME", "SERVICE_BUS_CAPACITY", "SERVICE_SHUTDOWN_SIGNALS", "SERVICE_LOG_LEVEL",
    "SERVICE_LOG_JSON"]

namespace Entry

variable {α : Type} {e : Entry α} {vars vars' : Variables}

/-- A text that stands in gives the standard value, so the value of an entry is laid
    over it. -/
theorem value?_eq_some_iff {standard a : α} (hfallback : e.parse e.fallback = some standard) :
    e.value? vars = some a ↔ Overlaid vars e.key e.parse standard a := by
  rw [value?, text, Overlaid]
  cases vars.lookup e.key with
  | some given => rfl
  | none => rw [Option.getD_none, hfallback, Option.some_inj, eq_comm]

theorem value?_of_unreadable (h : e.isUnreadable vars = true) : e.value? vars = none := by
  rw [isUnreadable, Option.any_eq_true] at h
  rcases h with ⟨given, hgiven, hnone⟩
  rw [value?, text, hgiven, Option.getD_some]
  exact Option.isNone_iff_eq_none.mp hnone

/-- An entry looks up its own name and no other. -/
theorem load_congr (h : vars.lookup e.key = vars'.lookup e.key) : e.load vars = e.load vars' := by
  rw [load, load, text, text, h]

end Entry

variable {vars vars' : Variables} {s t : Settings}

/-- The values of all entries are laid over the standard ones. -/
theorem readFrom_iff_overlaidBy : s.ReadFrom vars ↔ s.OverlaidBy vars := by
  -- The texts the entries fall back on read as the standard settings.
  have hname : nameEntry.parse nameEntry.fallback = some standard.name := rfl
  have hcapacity : capacityEntry.parse capacityEntry.fallback = some standard.busCapacity := by
    decide +kernel
  have hsignals : signalsEntry.parse signalsEntry.fallback = some standard.signals := by
    decide +kernel
  have hlevel : logLevelEntry.parse logLevelEntry.fallback = some standard.logLevel := rfl
  have hjson : logJsonEntry.parse logJsonEntry.fallback = some standard.logJson := by
    decide +kernel
  constructor
  · intro h
    exact
      { name := (Entry.value?_eq_some_iff hname).mp h.name
        busCapacity := (Entry.value?_eq_some_iff hcapacity).mp h.busCapacity
        signals := (Entry.value?_eq_some_iff hsignals).mp h.signals
        logLevel := (Entry.value?_eq_some_iff hlevel).mp h.logLevel
        logJson := (Entry.value?_eq_some_iff hjson).mp h.logJson }
  · intro h
    exact
      { name := (Entry.value?_eq_some_iff hname).mpr h.name
        busCapacity := (Entry.value?_eq_some_iff hcapacity).mpr h.busCapacity
        signals := (Entry.value?_eq_some_iff hsignals).mpr h.signals
        logLevel := (Entry.value?_eq_some_iff hlevel).mpr h.logLevel
        logJson := (Entry.value?_eq_some_iff hjson).mpr h.logJson }

/-- Variables give every setting one value at most. -/
theorem ReadFrom.unique (hs : s.ReadFrom vars) (ht : t.ReadFrom vars) : s = t := by
  rcases s with ⟨name, capacity, signals, level, json⟩
  rcases t with ⟨name', capacity', signals', level', json'⟩
  rw [mk.injEq]
  exact ⟨Option.some.inj (hs.name.symm.trans ht.name),
    Option.some.inj (hs.busCapacity.symm.trans ht.busCapacity),
    Option.some.inj (hs.signals.symm.trans ht.signals),
    Option.some.inj (hs.logLevel.symm.trans ht.logLevel),
    Option.some.inj (hs.logJson.symm.trans ht.logJson)⟩

/-- Settings all of whose fields have values can be read. -/
theorem ReadFrom.isUnreadable_eq_false (h : s.ReadFrom vars) (f : Field) :
    f.isUnreadable vars = false := by
  rw [← Bool.not_eq_true]
  intro hf
  cases f with
  | name => exact Option.some_ne_none _ (h.name.symm.trans (Entry.value?_of_unreadable hf))
  | busCapacity =>
      exact Option.some_ne_none _ (h.busCapacity.symm.trans (Entry.value?_of_unreadable hf))
  | signals =>
      exact Option.some_ne_none _ (h.signals.symm.trans (Entry.value?_of_unreadable hf))
  | logLevel =>
      exact Option.some_ne_none _ (h.logLevel.symm.trans (Entry.value?_of_unreadable hf))
  | logJson =>
      exact Option.some_ne_none _ (h.logJson.symm.trans (Entry.value?_of_unreadable hf))

/-- What is read are the settings that the variables lay over the standard ones. -/
theorem readEntries_eq_ok_iff : readEntries vars = .ok s ↔ s.OverlaidBy vars := by
  rw [← readFrom_iff_overlaidBy]
  rcases readEntries_cases vars with ⟨f, hfirst, hread⟩ | ⟨t, -, hread, ht⟩
  · rw [hread]
    constructor
    · intro h
      cases h
    · intro h
      exact absurd (List.find?_some hfirst) (Bool.eq_false_iff.mp (h.isUnreadable_eq_false f))
  · rw [hread, Except.ok.injEq]
    constructor
    · rintro rfl
      exact ht
    · exact ht.unique

/-- Only what is valid is returned. -/
theorem ofVariables_eq_ok_iff :
    ofVariables vars = .ok s ↔ readEntries vars = .ok s ∧ s.validate = .ok () := by
  rw [ofVariables]
  cases hread : readEntries vars with
  | error key => simp only [reduceCtorEq, false_and]
  | ok t =>
      dsimp only
      rw [Except.ok.injEq]
      constructor
      · intro h
        -- What is read is passed on as it is, or not at all.
        cases hvalid : t.validate with
        | error failure =>
            rw [hvalid] at h
            cases h
        | ok accepted =>
            rw [hvalid] at h
            cases h
            exact ⟨rfl, hvalid⟩
      · rintro ⟨rfl, hvalid⟩
        rw [hvalid]

/-- Variables that agree on the names that are looked up are read alike. -/
theorem ofVariables_congr (h : ∀ name ∈ variableNames, vars.lookup name = vars'.lookup name) :
    ofVariables vars = ofVariables vars' := by
  simp only [variableNames, List.forall_mem_cons] at h
  rcases h with ⟨hname, hcapacity, hsignals, hlevel, hjson, -⟩
  have hread : readEntries vars = readEntries vars' := by
    rw [readEntries, readEntries, Entry.load_congr (e := nameEntry) hname,
      Entry.load_congr (e := capacityEntry) hcapacity,
      Entry.load_congr (e := signalsEntry) hsignals,
      Entry.load_congr (e := logLevelEntry) hlevel, Entry.load_congr (e := logJsonEntry) hjson]
  rw [ofVariables, ofVariables, hread]

/-- A text is read of the bytes that spell it. -/
theorem fromUTF8?_toUTF8 (text : String) : String.fromUTF8? text.toUTF8 = some text :=
  dif_pos text.isValidUTF8

theorem variables_cons (name : String) (value : ByteArray) (env : Environment) :
    Environment.variables ((name, value) :: env) =
      match String.fromUTF8? value with
      | some text => (name, text) :: env.variables
      | none => env.variables := by
  rw [Environment.variables, List.filterMap_cons]
  dsimp only
  cases String.fromUTF8? value <;> rfl

/-- Where an environment has the bytes of a text, or nothing, under a name, its variables
    have this text, or nothing. -/
theorem lookup_variables {env : Environment} {name : String} {text : Option String}
    (h : env.lookup name = text.map String.toUTF8) : env.variables.lookup name = text := by
  induction env with
  | nil =>
      cases text with
      | none => rfl
      | some text => cases h
  | cons entry rest ih =>
      rcases entry with ⟨key, value⟩
      rw [variables_cons]
      rw [List.lookup_cons] at h
      by_cases hkey : name = key
      · subst hkey
        rw [beq_self_eq_true] at h
        cases text with
        | none => cases h
        | some text =>
            rw [Option.map_some] at h
            rw [Option.some.inj h, fromUTF8?_toUTF8]
            exact List.lookup_cons_self
      · rw [beq_false_of_ne hkey] at h
        -- A value that is no text is left out, and it belongs to another key.
        cases String.fromUTF8? value with
        | none => exact ih h
        | some _ =>
            dsimp only
            rw [List.lookup_cons, beq_false_of_ne hkey]
            exact ih h

/-- Variables are laid over the standard settings. What is read has for every setting the
    value that its variable is parsed to, or the standard one where there is no variable,
    and it is valid. Settings like that are always read. No other name has an effect, and
    an environment that has the same texts under the names is read in the same way, with
    the same settings or the same refusal. -/
theorem ofVariables_overlays_standard :
    (∀ (vars : Variables) (s : Settings),
      ofVariables vars = .ok s ↔ s.OverlaidBy vars ∧ s.validate = .ok ()) ∧
    (∀ vars vars' : Variables,
      (∀ name ∈ variableNames, vars.lookup name = vars'.lookup name) →
        ofVariables vars = ofVariables vars') ∧
    ∀ (vars : Variables) (env : Environment),
      (∀ name ∈ variableNames, env.lookup name = (vars.lookup name).map String.toUTF8) →
        ofEnvironment env = ofVariables vars := by
  refine ⟨fun vars s => ?_, fun vars vars' => ofVariables_congr, fun vars env h => ?_⟩
  · rw [ofVariables_eq_ok_iff, readEntries_eq_ok_iff]
  · exact ofVariables_congr fun name hname => lookup_variables (h name hname)

/-- Two settings are given, the others stand in, and what else there is does not matter. -/
theorem ofVariables_overlays_standard_two_given :
    let settings : Settings := { standard with signals := .ofList [.hangup], logJson := true }
    let vars : Variables := [("SERVICE_LOG_JSON", "true"), ("SERVICE_SHUTDOWN_SIGNALS", "HUP,hup")]
    let env : Environment := [("PATH", ⟨#[0xff]⟩), ("SERVICE_SHUTDOWN_SIGNALS", "HUP,hup".toUTF8),
      ("SERVICE_LOG_JSON", "true".toUTF8)]
    ofVariables vars = .ok settings ∧ ofVariables (("PATH", "") :: vars) = .ok settings ∧
      ofEnvironment env = .ok settings := by
  intro settings vars env
  have hread : ofVariables vars = .ok settings := by
    refine (ofVariables_overlays_standard.1 vars settings).mpr ⟨⟨rfl, rfl, ?_, rfl, ?_⟩, ?_⟩
    · rfl
    · rfl
    · exact validate_eq_ok_iff.mpr (by decide +kernel)
  have hother : ofVariables (("PATH", "") :: vars) = ofVariables vars :=
    ofVariables_overlays_standard.2.1 _ _ (by decide +kernel)
  have henv : ofEnvironment env = ofVariables vars :=
    ofVariables_overlays_standard.2.2 vars env (by decide +kernel)
  exact ⟨hread, hother.trans hread, henv.trans hread⟩

end Steward.Settings
