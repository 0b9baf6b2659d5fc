import Steward.Failure.Body
import Steward.Failure.Reading
import Steward.Proofs.Json.Values

/-!
# A Failure Sent and Received

What is left of a failure when its body is read on the other side.

A body tells the message and the findings, and says the rest by leaving it out. So
the one who reads it has to put back what stands for nothing: the empty message where
there is no member for it, the empty path of a finding, and unset findings, whether
they were unset or an empty list before. `Failure.sent` is the failure that comes out,
and it is the one that was sent up to subsystem, causes and this one difference, which
no text shows (`body_sent`).

The shapes that a reader is told to expect and the objects that are written are two
lists of fields. They meet in `Finding.pairs` and `Failure.pairs`, the members of an
object each with the text that is written and the datum that is read.

## Main definitions

* `Failure.sent`: What is left of a failure.
* `Finding.pairs`, `Failure.pairs`: The members of their objects.

## Theorems

* `spells_finding`, `spells_failure`: What is written is read at the shape.
* `body_reads_back`: A body is read as the failure it was written from.
-/

namespace Steward

open Json

/-- The members of a finding's object. -/
def Finding.pairs (f : Finding) : List Pair :=
  ⟨"message", literal f.message, .text f.message⟩ ::
    if f.path.isEmpty then []
    else [⟨"path", array (f.path.map literal), .list (f.path.map .text)⟩]

/-- A finding as it is read. -/
def Finding.datum (f : Finding) : Datum :=
  .record [some (.text f.message),
    if f.path.isEmpty then none else some (.list (f.path.map .text))]

namespace Failure

/-- What is left of a failure whose body is read. -/
def sent (f : Failure) : Failure :=
  { message := f.message, findings := if f.hasFindings then f.findings else none }

/-- The members of a failure's object. -/
def pairs (f : Failure) : List Pair :=
  (if f.message.isEmpty then [] else [⟨"message", literal f.message, .text f.message⟩]) ++
    if f.hasFindings then
      [⟨"validations", array (f.findingList.map Finding.json),
        .list (f.findingList.map Finding.datum)⟩]
    else []

/-- A failure as it is read. -/
def datum (f : Failure) : Datum :=
  .record [if f.message.isEmpty then none else some (.text f.message),
    if f.hasFindings then some (.list (f.findingList.map Finding.datum)) else none]

end Failure

theorem forall₂_map {α β γ : Type} {R : β → γ → Prop} {f : α → β} {g : α → γ}
    (h : ∀ a, R (f a) (g a)) (as : List α) : List.Forall₂ R (as.map f) (as.map g) := by
  rw [List.forall₂_map_left_iff, List.forall₂_map_right_iff, List.forall₂_same]
  exact fun a _ => h a

/-- Texts make a list of texts. -/
theorem spells_texts (texts : List String) :
    Spells (.list .text) (array (texts.map literal)) (.list (texts.map .text)) :=
  spells_array (forall₂_map spells_literal texts)

/-- A finding that was written is read at its shape. -/
theorem spells_finding (f : Finding) : Spells Finding.shape f.json f.datum := by
  have hmessage := spells_literal f.message
  have hpath := spells_texts f.path
  have hjson : f.json = object (f.pairs.map Pair.written) := by
    rw [Finding.json, Finding.pairs]
    split <;> rfl
  rw [hjson, Finding.shape, Finding.datum]
  refine spells_object ?_ ?_ ?_
  · rw [Finding.pairs, List.forall_mem_cons]
    refine ⟨⟨_, rfl, hmessage⟩, ?_⟩
    split
    · exact nofun
    · exact List.forall_mem_singleton.mpr ⟨_, rfl, hpath⟩
  · rw [Finding.pairs]
    split <;> simp
  · rw [Finding.pairs]
    split <;> rfl

/-- A failure that was written is read at its shape. -/
theorem spells_failure (f : Failure) : Spells Failure.shape f.json f.datum := by
  have hmessage := spells_literal f.message
  -- A list begins with a bracket, so it is not taken for a `null`.
  have hfindings : Spells (.optional (.list Finding.shape))
      (array (f.findingList.map Finding.json)) (.list (f.findingList.map Finding.datum)) :=
    (spells_array (forall₂_map spells_finding f.findingList)).optional fun h =>
      absurd (Option.some.inj h) (by decide)
  have hjson : f.json = object (f.pairs.map Pair.written) := by
    rw [Failure.json, Failure.members, Failure.pairs]
    split <;> split <;> rfl
  rw [hjson, Failure.shape, Failure.datum]
  refine spells_object ?_ ?_ ?_
  · rw [Failure.pairs, List.forall_mem_append]
    constructor
    · split
      · exact nofun
      · exact List.forall_mem_singleton.mpr ⟨_, rfl, hmessage⟩
    · split
      · exact List.forall_mem_singleton.mpr ⟨_, rfl, hfindings⟩
      · exact nofun
  · rw [Failure.pairs]
    split <;> split <;> simp
  · rw [Failure.pairs]
    split <;> split <;> rfl

theorem mapM_map_of_eq_some {α β : Type} {f : α → β} {g : β → Option α}
    (h : ∀ a, g (f a) = some a) (as : List α) : (as.map f).mapM g = some as := by
  induction as with
  | nil => rfl
  | cons a rest ih =>
      rw [List.map_cons, List.mapM_cons, h, ih]
      rfl

/-- What is read of a finding is the finding. -/
theorem Finding.ofDatum?_datum (f : Finding) : Finding.ofDatum? f.datum = some f := by
  rcases f with ⟨message, path⟩
  cases path with
  | nil => rfl
  | cons first rest =>
      have hpath := mapM_map_of_eq_some (f := Datum.text) (g := Datum.text?) (fun _ => rfl)
        (first :: rest)
      simp only [Finding.datum, List.isEmpty_cons, Bool.false_eq_true, if_false,
        Finding.ofDatum?, Datum.text?, Datum.list?, Option.bind_eq_bind, Option.bind_some, hpath,
        Option.pure_def]

namespace Failure

theorem findings_eq_of_hasFindings {f : Failure} (h : f.hasFindings = true) :
    f.findings = some f.findingList := by
  cases hf : f.findings with
  | none =>
      rw [hasFindings, findingList, hf] at h
      cases h
  | some findings => rw [findingList, hf, Option.getD_some]

/-- What is read of a failure is what is left of it. -/
theorem ofDatum?_datum (f : Failure) : Failure.ofDatum? f.datum = some f.sent := by
  have hfindings : findingsOfDatum?
      (if f.hasFindings then some (.list (f.findingList.map Finding.datum)) else none) =
        some (if f.hasFindings then f.findings else none) := by
    split
    · rename_i h
      rw [findingsOfDatum?, mapM_map_of_eq_some Finding.ofDatum?_datum, Option.map_some,
        findings_eq_of_hasFindings h]
    · rfl
  simp only [datum, ofDatum?, hfindings, Option.bind_eq_bind, Option.bind_some, sent]
  by_cases hempty : f.message.isEmpty = true
  · rw [if_pos hempty, String.isEmpty_iff.mp hempty]
    rfl
  · rw [if_neg hempty]
    rfl

/-- A body is read as what is left of the failure. -/
theorem ofBody_body (f : Failure) : ofBody f.body = .ok f.sent := by
  rw [ofBody, body, String.toList_ofList, read_of_spells (spells_failure f)]
  simp only [ofDatum?_datum]

/-- What is left of a failure has the same body. -/
theorem body_sent (f : Failure) : f.sent.body = f.body := by
  have hlist : f.sent.findingList = f.findingList := by
    rw [sent, findingList]
    split
    · rfl
    · rename_i h
      rw [hasFindings, Bool.not_eq_true', Bool.not_eq_false, List.isEmpty_iff] at h
      exact h.symm
  have hmessage : f.sent.message = f.message := rfl
  rw [body, body, json, json, members, members, hasFindings, hasFindings, hlist, hmessage]

theorem isMarked_finding (f : Finding) : IsMarked f.json := by
  refine isMarked_object (List.forall_mem_cons.mpr
    ⟨isMarked_member _ (isMarked_literal f.message), ?_⟩)
  split
  · exact nofun
  · refine List.forall_mem_singleton.mpr (isMarked_member _ (isMarked_array ?_))
    exact List.forall_mem_map.mpr fun text _ => isMarked_literal text

theorem isMarked_json (f : Failure) : IsMarked f.json := by
  refine isMarked_object (List.forall_mem_append.mpr ⟨?_, ?_⟩)
  · split
    · exact nofun
    · exact List.forall_mem_singleton.mpr (isMarked_member _ (isMarked_literal f.message))
  · split
    · refine List.forall_mem_singleton.mpr (isMarked_member _ (isMarked_array ?_))
      exact List.forall_mem_map.mpr fun finding _ => isMarked_finding finding
    · exact nofun

theorem isClean_json (f : Failure) : IsClean f.json :=
  (isMarked_json f).isClean

/-- The body of every failure can be read, and what is read has the message, and the
    findings if there were any, and nothing else. It has the same body again, and there
    is no control in it. -/
theorem body_reads_back (f : Failure) :
    ∃ g, ofBody f.body = .ok g ∧ g.message = f.message ∧
      g.findings = (if f.hasFindings then f.findings else none) ∧
      g.subsystem = "" ∧ g.causes = [] ∧ g.body = f.body ∧
      ∀ c ∈ f.body.toList, 0x20 ≤ c.toNat := by
  refine ⟨f.sent, ofBody_body f, rfl, rfl, rfl, rfl, body_sent f, ?_⟩
  rw [body, String.toList_ofList]
  exact isClean_json f

end Failure

end Steward
