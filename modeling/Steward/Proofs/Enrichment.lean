import Steward.Failure.Body
import Steward.Failure.Reading
import Steward.Failure.Text

/-!
# Enriching a Failure

What a failure has become after any number of additions.

A failure is enriched by whoever finds out more about it: with a label, with findings and
with causes, a single one or several at a time. How it came together does not matter. The
last label holds, findings and causes stand in the order in which they were added, and
neither the portions in which they came nor what was added of another kind in between is
left in it. So two courses of additions come to the same if one can be turned into the
other by cutting runs of findings or of causes into other portions and by exchanging
neighbours of different kinds (`Rearranged`). Those are all courses that add the same of
every kind (`rearranged_iff`), since each of them can be brought into the form in which
all labels come first, then all findings at once and then all causes (`gathered`).

There is one exception, and it is not to be seen. A portion of no findings sets the findings
of a failure that has them unset, and whether there is such a portion is a matter of how
things are portioned. What it makes different is stored and is told neither by the text nor
by the body, nor by the questions for findings and causes (`Indistinct`).

## Main definitions

* `Portion`: What is added in one go.
* `Enrichment`, `Failure.enrich`, `Failure.enrichAll`: Additions, one or many.
* `Enrichment.gathered`: The additions, all of a kind at once.
* `SameAdditions`: Courses that add the same of every kind.
* `Rearranged`: Other portions, or another order among the kinds.
* `Failure.Enriched`: What additions make of a failure.
* `Failure.Indistinct`: Failures that differ in unset findings at most.

## Theorems

* `rearranged_gathered`: Every course of additions can be gathered.
* `rearranged_iff`: It is the same additions of every kind that count.
* `Failure.enriched_enrich`, `Failure.enriched_enrichAll`: One addition, and any number.
* `Failure.Enriched.indistinct`: The same additions make what cannot be told apart.
* `Failure.enrichments_accumulate`: They accumulate, however they are arranged.
-/

namespace Steward

/-- What is added in one go: a single item, or as many as there are. -/
inductive Portion (α : Type) where
  | one (item : α)
  | many (items : List α)

/-- The items of a portion. -/
def Portion.items {α : Type} : Portion α → List α
  | .one item => [item]
  | .many items => items

/-- One addition to a failure. -/
inductive Enrichment where
  | label (subsystem : String)
  | addFindings (findings : Portion Finding)
  | addCauses (causes : Portion Cause)

/-- What is added. -/
inductive Enrichment.Kind where
  | label
  | findings
  | causes
deriving DecidableEq

namespace Enrichment

/-- The kind of an addition. -/
def kind : Enrichment → Kind
  | .label _ => .label
  | .addFindings _ => .findings
  | .addCauses _ => .causes

/-- The label it gives, if it gives one. -/
def subsystems : Enrichment → List String
  | .label subsystem => [subsystem]
  | _ => []

/-- The findings it adds. -/
def findings : Enrichment → List Finding
  | .addFindings portion => portion.items
  | _ => []

/-- The causes it adds. -/
def causes : Enrichment → List Cause
  | .addCauses portion => portion.items
  | _ => []

/-- The labels given in a course of additions, in order. -/
def subsystemsIn (es : List Enrichment) : List String :=
  es.flatMap subsystems

/-- The findings added, in order. -/
def findingsIn (es : List Enrichment) : List Finding :=
  es.flatMap findings

/-- The causes added, in order. -/
def causesIn (es : List Enrichment) : List Cause :=
  es.flatMap causes

/-- The same additions with all labels first, then all findings at once, and then all
    causes. -/
def gathered (es : List Enrichment) : List Enrichment :=
  (subsystemsIn es).map .label ++
    [.addFindings (.many (findingsIn es)), .addCauses (.many (causesIn es))]

theorem subsystemsIn_append (ds es : List Enrichment) :
    subsystemsIn (ds ++ es) = subsystemsIn ds ++ subsystemsIn es :=
  List.flatMap_append

theorem findingsIn_append (ds es : List Enrichment) :
    findingsIn (ds ++ es) = findingsIn ds ++ findingsIn es :=
  List.flatMap_append

theorem causesIn_append (ds es : List Enrichment) :
    causesIn (ds ++ es) = causesIn ds ++ causesIn es :=
  List.flatMap_append

end Enrichment

open Enrichment

variable {a b c : Enrichment} {ds es es' : List Enrichment}

/-- The same of every kind is added, and in the same order. -/
structure SameAdditions (es es' : List Enrichment) : Prop where
  subsystems : subsystemsIn es = subsystemsIn es'
  findings : findingsIn es = findingsIn es'
  causes : causesIn es = causesIn es'

/-- The same additions in other portions, or in another order among the kinds. -/
inductive Rearranged : List Enrichment → List Enrichment → Prop where
  /-- A run of additions of one kind is portioned in another way. -/
  | portions {ds es : List Enrichment} {kind : Kind} (hds : ∀ d ∈ ds, d.kind = kind)
      (hes : ∀ e ∈ es, e.kind = kind) (h : SameAdditions ds es) : Rearranged ds es
  /-- Neighbours of different kinds are exchanged. -/
  | exchange {a b : Enrichment} (h : a.kind ≠ b.kind) : Rearranged [a, b] [b, a]
  | refl (es : List Enrichment) : Rearranged es es
  | append {ds ds' es es' : List Enrichment} (first : Rearranged ds ds')
      (rest : Rearranged es es') : Rearranged (ds ++ es) (ds' ++ es')
  | trans {ds es fs : List Enrichment} (first : Rearranged ds es) (rest : Rearranged es fs) :
      Rearranged ds fs

namespace SameAdditions

theorem symm (h : SameAdditions es es') : SameAdditions es' es :=
  ⟨h.subsystems.symm, h.findings.symm, h.causes.symm⟩

theorem trans (h : SameAdditions ds es) (h' : SameAdditions es es') : SameAdditions ds es' :=
  ⟨h.subsystems.trans h'.subsystems, h.findings.trans h'.findings, h.causes.trans h'.causes⟩

theorem append {ds' : List Enrichment} (h : SameAdditions ds ds') (h' : SameAdditions es es') :
    SameAdditions (ds ++ es) (ds' ++ es') where
  subsystems := by rw [subsystemsIn_append, subsystemsIn_append, h.subsystems, h'.subsystems]
  findings := by rw [findingsIn_append, findingsIn_append, h.findings, h'.findings]
  causes := by rw [causesIn_append, causesIn_append, h.causes, h'.causes]

/-- Additions of different kinds are in nobody's way. -/
theorem exchange (h : a.kind ≠ b.kind) : SameAdditions [a, b] [b, a] := by
  cases a with
  | label _ =>
      cases b with
      | label _ => exact absurd rfl h
      | addFindings _ | addCauses _ => exact ⟨rfl, rfl, rfl⟩
  | addFindings _ =>
      cases b with
      | addFindings _ => exact absurd rfl h
      | label _ | addCauses _ => exact ⟨rfl, rfl, rfl⟩
  | addCauses _ =>
      cases b with
      | addCauses _ => exact absurd rfl h
      | label _ | addFindings _ => exact ⟨rfl, rfl, rfl⟩

end SameAdditions

namespace Rearranged

theorem symm (h : Rearranged es es') : Rearranged es' es := by
  induction h with
  | portions hds hes h => exact .portions hes hds h.symm
  | exchange h => exact .exchange h.symm
  | refl es => exact .refl es
  | append _ _ ihfirst ihrest => exact .append ihfirst ihrest
  | trans _ _ ihfirst ihrest => exact .trans ihrest ihfirst

/-- However additions are arranged, they are the same. -/
theorem sameAdditions (h : Rearranged es es') : SameAdditions es es' := by
  induction h with
  | portions _ _ h => exact h
  | exchange h => exact .exchange h
  | refl es => exact ⟨rfl, rfl, rfl⟩
  | append _ _ ihfirst ihrest => exact ihfirst.append ihrest
  | trans _ _ ihfirst ihrest => exact ihfirst.trans ihrest

/-- What comes before stays where it is. -/
theorem append_left (ds : List Enrichment) (h : Rearranged es es') :
    Rearranged (ds ++ es) (ds ++ es') :=
  .append (.refl ds) h

/-- What comes afterwards stays where it is. -/
theorem append_right (h : Rearranged es es') (ds : List Enrichment) :
    Rearranged (es ++ ds) (es' ++ ds) :=
  .append h (.refl ds)

/-- An addition of nothing may be made anywhere. -/
theorem nothing (h : SameAdditions [] [a]) : Rearranged [] [a] :=
  .portions (List.forall_mem_nil _) (List.forall_mem_singleton.mpr rfl) h

/-- An addition may be made later than any number of others of other kinds. -/
theorem past (h : ∀ d ∈ ds, a.kind ≠ d.kind) : Rearranged (a :: ds) (ds ++ [a]) := by
  induction ds with
  | nil => exact .refl [a]
  | cons d ds ih =>
      have hfirst := h d List.mem_cons_self
      have hrest := ih fun c hc => h c (List.mem_cons_of_mem _ hc)
      exact .trans (append_right (.exchange hfirst) ds) (append_left [d] hrest)

/-- An addition is put off until the next of its kind and made with it. -/
theorem join (hpast : ∀ d ∈ ds, a.kind ≠ d.kind) (h : SameAdditions [a, b] [c])
    (hb : b.kind = a.kind) (hc : c.kind = a.kind) (es : List Enrichment) :
    Rearranged (a :: (ds ++ b :: es)) (ds ++ c :: es) := by
  have hjoined : Rearranged [a, b] [c] :=
    .portions (List.forall_mem_cons.mpr ⟨rfl, List.forall_mem_singleton.mpr hb⟩)
      (List.forall_mem_singleton.mpr hc) h
  have hpassed : Rearranged (a :: (ds ++ b :: es)) (ds ++ ([a, b] ++ es)) := by
    have hpassed := (past hpast).append_right (b :: es)
    rwa [List.append_assoc] at hpassed
  exact .trans hpassed (append_left ds (hjoined.append_right es))

end Rearranged

/-- Every course of additions can be gathered. -/
theorem rearranged_gathered (es : List Enrichment) : Rearranged es (gathered es) := by
  induction es with
  | nil =>
      have hfindings : Rearranged [] [.addFindings (.many [])] := .nothing ⟨rfl, rfl, rfl⟩
      have hcauses : Rearranged [] [.addCauses (.many [])] := .nothing ⟨rfl, rfl, rfl⟩
      exact .append hfindings hcauses
  | cons e es ih =>
      -- The rest is gathered, and the first addition has to find its place in it: a label is
      -- there already, and all else goes past whatever is of another kind.
      refine .trans (.append_left [e] ih) ?_
      cases e with
      | label subsystem => exact .refl _
      | addFindings p =>
          have hsame : SameAdditions [.addFindings p, .addFindings (.many (findingsIn es))]
              [.addFindings (.many (p.items ++ findingsIn es))] :=
            ⟨rfl, by simp [findingsIn, findings, Portion.items], rfl⟩
          have hpast : ∀ d ∈ (subsystemsIn es).map Enrichment.label,
              (Enrichment.addFindings p).kind ≠ d.kind :=
            List.forall_mem_map.mpr fun _ _ => nofun
          exact .join hpast hsame rfl rfl [.addCauses (.many (causesIn es))]
      | addCauses p =>
          have hsame : SameAdditions [.addCauses p, .addCauses (.many (causesIn es))]
              [.addCauses (.many (p.items ++ causesIn es))] :=
            ⟨rfl, rfl, by simp [causesIn, causes, Portion.items]⟩
          have hpast : ∀ d ∈ (subsystemsIn es).map Enrichment.label ++
              [Enrichment.addFindings (.many (findingsIn es))],
              (Enrichment.addCauses p).kind ≠ d.kind :=
            List.forall_mem_append.mpr ⟨List.forall_mem_map.mpr fun _ _ => nofun,
              List.forall_mem_singleton.mpr nofun⟩
          have hjoin := Rearranged.join hpast hsame rfl rfl []
          rw [List.append_assoc, List.append_assoc] at hjoin
          exact hjoin

/-- Two courses of additions are rearrangements of each other if the same of every kind is
    added. -/
theorem rearranged_iff : Rearranged es es' ↔ SameAdditions es es' := by
  constructor
  · exact Rearranged.sameAdditions
  · intro h
    have hgathered : gathered es = gathered es' := by
      rw [gathered, gathered, h.subsystems, h.findings, h.causes]
    have hes := rearranged_gathered es
    rw [hgathered] at hes
    exact .trans hes (rearranged_gathered es').symm

namespace Failure

/-- A failure with one addition. -/
def enrich (f : Failure) : Enrichment → Failure
  | .label subsystem => f.inSubsystem subsystem
  | .addFindings (.one finding) => f.addFinding finding
  | .addFindings (.many findings) => f.addFindings findings
  | .addCauses (.one cause) => f.addCause cause
  | .addCauses (.many causes) => f.addCauses causes

/-- A failure with any number of additions, one after the other. -/
def enrichAll (f : Failure) (es : List Enrichment) : Failure :=
  es.foldl enrich f

/-- What additions make of a failure. -/
structure Enriched (f : Failure) (es : List Enrichment) (g : Failure) : Prop where
  message : g.message = f.message
  subsystem : g.subsystem = (subsystemsIn es).getLastD f.subsystem
  findingList : g.findingList = f.findingList ++ findingsIn es
  unset : g.findings = none ↔ f.findings = none ∧ ∀ e ∈ es, e.kind ≠ .findings
  causes : g.causes = f.causes ++ causesIn es

/-- Two failures that differ at most in that the findings of one are unset where the other
    has an empty list of them. -/
structure Indistinct (f g : Failure) : Prop where
  message : f.message = g.message
  subsystem : f.subsystem = g.subsystem
  findingList : f.findingList = g.findingList
  causes : f.causes = g.causes

variable {f g g' : Failure}

@[simp] theorem enrich_addFindings (f : Failure) (p : Portion Finding) :
    f.enrich (.addFindings p) = f.addFindings p.items := by
  cases p <;> rfl

@[simp] theorem enrich_addCauses (f : Failure) (p : Portion Cause) :
    f.enrich (.addCauses p) = f.addCauses p.items := by
  cases p <;> rfl

/-- One addition, by its kind. -/
theorem enriched_enrich (f : Failure) (e : Enrichment) : Enriched f [e] (f.enrich e) := by
  cases e with
  | label subsystem =>
      exact ⟨rfl, rfl, (List.append_nil _).symm, by simp [enrich, inSubsystem, kind],
        (List.append_nil _).symm⟩
  | addFindings p =>
      rw [enrich_addFindings]
      refine ⟨rfl, rfl, ?_, by simp [addFindings, kind], (List.append_nil _).symm⟩
      rw [findingList_addFindings]
      simp [findingsIn, Enrichment.findings]
  | addCauses p =>
      rw [enrich_addCauses]
      refine ⟨rfl, rfl, (List.append_nil _).symm, by simp [addCauses, kind], ?_⟩
      rw [causes_addCauses]
      simp [causesIn, Enrichment.causes]

namespace Enriched

theorem refl (f : Failure) : Enriched f [] f where
  message := rfl
  subsystem := rfl
  findingList := (List.append_nil _).symm
  unset := by simp
  causes := (List.append_nil _).symm

/-- Further additions to what additions have made. -/
theorem trans (hg : Enriched f ds g) (hg' : Enriched g es g') : Enriched f (ds ++ es) g' where
  message := hg'.message.trans hg.message
  subsystem := by
    rw [hg'.subsystem, hg.subsystem, subsystemsIn_append]
    simp only [List.getLastD_eq_getLast?, List.getLast?_append, Option.getD_or]
  findingList := by rw [hg'.findingList, hg.findingList, findingsIn_append, List.append_assoc]
  unset := by rw [hg'.unset, hg.unset, List.forall_mem_append, and_assoc]
  causes := by rw [hg'.causes, hg.causes, causesIn_append, List.append_assoc]

end Enriched

/-- Any number of additions. -/
theorem enriched_enrichAll (f : Failure) (es : List Enrichment) :
    Enriched f es (f.enrichAll es) := by
  induction es generalizing f with
  | nil => exact .refl f
  | cons e es ih => exact (enriched_enrich f e).trans (ih (f.enrich e))

theorem findings_eq_some (hset : f.findings ≠ none) : f.findings = some f.findingList := by
  cases hf : f.findings with
  | none => exact absurd hf hset
  | some findings => rw [findingList, hf, Option.getD_some]

namespace Indistinct

theorem hasFindings_eq (h : Indistinct f g) : f.hasFindings = g.hasFindings := by
  rw [hasFindings, hasFindings, h.findingList]

theorem hasCauses_eq (h : Indistinct f g) : f.hasCauses = g.hasCauses := by
  rw [hasCauses, hasCauses, h.causes]

theorem text_eq (h : Indistinct f g) : f.text = g.text := by
  rw [Failure.text_eq f, Failure.text_eq g, textWith, textWith, header, header, reasons, reasons,
    h.message, h.subsystem, h.findingList, h.hasFindings_eq, h.causes]

theorem body_eq (h : Indistinct f g) : f.body = g.body := by
  rw [body, body, json, json, members, members, h.message, h.findingList, h.hasFindings_eq]

/-- If their findings are unset in both or in neither, they are the same. -/
theorem eq (h : Indistinct f g) (hunset : f.findings = none ↔ g.findings = none) : f = g := by
  have hfindings : f.findings = g.findings := by
    by_cases hf : f.findings = none
    · rw [hf, hunset.mp hf]
    · have hg : g.findings ≠ none := mt hunset.mpr hf
      rw [findings_eq_some hf, findings_eq_some hg, h.findingList]
  rcases f with ⟨subsystem, message, findings, causes⟩
  rcases g with ⟨subsystem', message', findings', causes'⟩
  rw [Failure.mk.injEq]
  exact ⟨h.subsystem, h.message, hfindings, h.causes⟩

end Indistinct

/-- The same additions, however they are arranged, make of a failure what cannot be told
    apart. -/
theorem Enriched.indistinct (hg : Enriched f es g) (hg' : Enriched f es' g')
    (hsame : SameAdditions es es') : Indistinct g g' where
  message := hg.message.trans hg'.message.symm
  subsystem := by rw [hg.subsystem, hg'.subsystem, hsame.subsystems]
  findingList := by rw [hg.findingList, hg'.findingList, hsame.findings]
  causes := by rw [hg.causes, hg'.causes, hsame.causes]

/-- Of a failure, whatever it was to begin with, additions make one with the last label
    given, the findings it had and then those added, and the causes it had and then those
    added; and its findings are unset only if they were and no portion of findings was
    added, not even an empty one. Arranged in another way the same additions make one with
    the same text, the same body and the same answers to whether it has findings and causes,
    and if its findings were set to begin with, they make the very same one. -/
theorem enrichments_accumulate (f : Failure) (es : List Enrichment) :
    (f.enrichAll es).message = f.message ∧
    (f.enrichAll es).subsystem = (subsystemsIn es).getLastD f.subsystem ∧
    (f.enrichAll es).findingList = f.findingList ++ findingsIn es ∧
    ((f.enrichAll es).findings = none ↔
      f.findings = none ∧ ∀ e ∈ es, e.kind ≠ .findings) ∧
    (f.enrichAll es).causes = f.causes ++ causesIn es ∧
    ∀ es', Rearranged es es' →
      (f.enrichAll es').text = (f.enrichAll es).text ∧
      (f.enrichAll es').body = (f.enrichAll es).body ∧
      (f.enrichAll es').hasFindings = (f.enrichAll es).hasFindings ∧
      (f.enrichAll es').hasCauses = (f.enrichAll es).hasCauses ∧
      (f.findings ≠ none → f.enrichAll es' = f.enrichAll es) := by
  have h := enriched_enrichAll f es
  refine ⟨h.message, h.subsystem, h.findingList, h.unset, h.causes, fun es' hrearranged => ?_⟩
  have h' := enriched_enrichAll f es'
  have hsame := h'.indistinct h hrearranged.sameAdditions.symm
  refine ⟨hsame.text_eq, hsame.body_eq, hsame.hasFindings_eq, hsame.hasCauses_eq,
    fun hset => hsame.eq ?_⟩
  -- What is set stays set, in both arrangements.
  rw [h'.unset, h.unset]
  exact iff_of_false (fun hunset => hset hunset.1) (fun hunset => hset hunset.1)

/-- A failure that was read has its findings unset. Between its labels and causes a portion
    of no findings is added to it, which sets them and shows nowhere. A new failure has its
    findings set, and so single additions and whole lists make the very same of it. -/
theorem enrichments_accumulate_unset_and_new :
    let lost : Finding := ⟨"not found", []⟩
    let abroad : Finding := ⟨"invalid region", ["Config", "Region"]⟩
    let es : List Enrichment := [.label "store", .addCauses (.many [.plain "a", .plain "b"]),
      .label "bucket"]
    let es' : List Enrichment := [.addCauses (.one (.plain "a")), .addFindings (.many []),
      .label "store", .label "bucket", .addCauses (.one (.plain "b"))]
    let ds : List Enrichment := [.addFindings (.one lost), .addCauses (.one (.plain "a")),
      .addFindings (.one abroad), .label "bucket"]
    let ds' : List Enrichment := [.label "bucket", .addFindings (.many [lost, abroad]),
      .addCauses (.many [.plain "a"])]
    ∃ f, ofBody "\x7b\"message\":\"Failed\"\x7d" = .ok f ∧
      Rearranged es es' ∧ (f.enrichAll es).findings = none ∧
      (f.enrichAll es').findings = some [] ∧
      (f.enrichAll es).text = "bucket: Failed. Caused by:\n\n- a\n- b\n" ∧
      (f.enrichAll es').text = (f.enrichAll es).text ∧
      Rearranged ds ds' ∧ (new "Failed").findings ≠ none ∧
      ((new "Failed").enrichAll ds).body = ((new "Failed").enrichAll ds').body ∧
      (new "Failed").enrichAll ds' = (new "Failed").enrichAll ds := by
  intro lost abroad es es' ds ds'
  have hes : Rearranged es es' := rearranged_iff.mpr ⟨rfl, rfl, rfl⟩
  have hds : Rearranged ds ds' := rearranged_iff.mpr ⟨rfl, rfl, rfl⟩
  have hset : (new "Failed").findings ≠ none := Option.some_ne_none []
  -- Read from a body the findings are unset, so only the text and the body are promised; a new
  -- failure has them set to nothing, and then the whole failure is the same.
  have hread := (enrichments_accumulate { message := "Failed" } es).2.2.2.2.2 es' hes
  have hnew := (enrichments_accumulate (new "Failed") ds).2.2.2.2.2 ds' hds
  exact ⟨{ message := "Failed" }, rfl, hes, rfl, rfl, rfl, hread.1, hds, hset, hnew.2.1.symm,
    hnew.2.2.2.2 hset⟩

end Failure

end Steward
