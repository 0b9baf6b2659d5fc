import Steward.Failure.Reading
import Steward.Proofs.Json.Derivation
import Steward.Proofs.Json.Rewriting

/-!
# What Does Not Matter in a Body

The many ways in which somebody else may write the same failure.

A body that was written here looks one way only. One that comes from elsewhere may have
white space between its tokens, its members in any order, more members than are asked for,
and its records as lists. None of that matters: two bodies of which one can be turned into
the other by such changes are read as the same failure, if one of them is read at all. The
changes are told by `RewriteAt`, one at a time and each at some place, and since whatever
is accepted is a value between white space, there is no accepted body that they do not
speak of.

What does matter is a member that is asked for and given twice, wherever it is. Then there
is no saying which one is meant, and the body is refused.

## Theorems

* `Failure.ofBody_tolerates`: A body is read as the same failure however it is written, and
  not at all if it repeats a member that is asked for.
-/

namespace Steward

open Json

namespace Failure

/-- A body is read as a failure if its value is. -/
theorem ofBody_eq_ok {text : String} {f : Failure} :
    ofBody text = .ok f ↔ (readAs? shape text.toList).bind ofDatum? = some f := by
  rw [ofBody, readAs?]
  cases read shape text.toList with
  | error e => simp [Except.toOption]
  | ok d =>
      rw [Except.toOption, Option.bind_some]
      cases hdatum : ofDatum? d with
      | none => simp [hdatum]
      | some g => simp [hdatum]

/-- What is read as a failure is an object or a list. -/
theorem isContainer_of_readAs? {v : List Char} (hv : IsValue v)
    (h : (readAs? shape v).isSome = true) : IsContainer v := by
  cases hv with
  | list hgap hspaced hvalues => exact .list ⟨hgap, hspaced, hvalues⟩
  | object hgap hspaced hvalues => exact .object ⟨hgap, hspaced, hvalues⟩
  | @literal cs hcs =>
      -- A string is read to its end and then found to be out of place.
      rw [(gives_quoted hcs fun _ => rfl : Gives shape (quoted cs) _).alone] at h
      cases hspelling : (⟨true, [], .plain⟩ : LiteralScan).spelling cs <;>
        rw [hspelling] at h <;> cases h
  | number hv =>
      rw [(gives_number hv shape).alone] at h
      cases h
  | word hv =>
      simp only [valueWords, List.mem_cons, List.not_mem_nil, or_false] at hv
      rcases hv with rfl | rfl | rfl <;> cases h

/-- Every body that is read is an object or a list between white space. It is read as the
    same failure however it is written, and not at all if it repeats a member that is asked
    for. -/
theorem ofBody_tolerates :
    (∀ text f, ofBody text = .ok f →
      ∃ before v after, IsGap before ∧ IsContainer v ∧ IsGap after ∧
        text.toList = before ++ (v ++ after)) ∧
    (∀ before v after f, IsGap before → IsContainer v → IsGap after →
      ofBody (String.ofList (before ++ (v ++ after))) = .ok f →
      ∀ before' w after', IsGap before' → IsGap after' →
        Relation.EqvGen (RewriteAt shape) v w →
        ofBody (String.ofList (before' ++ (w ++ after'))) = .ok f) ∧
    (∀ before v after, IsGap before → IsGap after → RepeatsFieldAt shape v →
      ∃ e, ofBody (String.ofList (before ++ (v ++ after))) = .error e) := by
  refine ⟨fun text f h => ?_, fun before v after f hbefore hv hafter h before' w after' hbefore'
    hafter' hrewrite => ?_, fun before v after hbefore hafter hrepeats => ?_⟩
  · -- What is read is the text of one value between two gaps, and only a container gives a failure.
    rcases Option.bind_eq_some_iff.mp (ofBody_eq_ok.mp h) with ⟨d, hd, -⟩
    rcases isValue_of_readAs? hd with ⟨before, v, after, hbefore, hv, hafter, htext⟩
    rw [htext, readAs?_between hbefore hv hafter] at hd
    exact ⟨before, v, after, hbefore, isContainer_of_readAs? hv (Option.isSome_of_eq_some hd),
      hafter, htext⟩
  · -- The value is read alike before and after it is rewritten.
    have hsame := reads_of_rewriteAt hrewrite
    rw [ofBody_eq_ok, String.toList_ofList, readAs?_between hbefore hv.isValue hafter] at h
    rw [ofBody_eq_ok, String.toList_ofList,
      readAs?_between hbefore' (hsame.1.mp hv.isValue) hafter', ← hsame.2]
    exact h
  · -- A value with a field given twice is well-formed, and read as nothing.
    have hrefused := hrepeats.refused
    cases hbody : ofBody (String.ofList (before ++ (v ++ after))) with
    | error e => exact ⟨e, rfl⟩
    | ok f =>
        rw [ofBody_eq_ok, String.toList_ofList, readAs?_between hbefore hrefused.1 hafter,
          hrefused.2] at hbody
        cases hbody

/-- A member that nobody asks for is left out, and the other is written as a list. Written
    twice it is refused. -/
theorem ofBody_tolerates_a_list :
    ofBody "\x7b\"message\":\"a\", \"code\":[]\x7d" = .ok { message := "a" } ∧
      ofBody " [ \"a\"]" = .ok { message := "a" } ∧
      ∃ e, ofBody "\x7b\"message\":\"a\",\"message\":\"a\"\x7d" = .error e := by
  have hread : ofBody "\x7b\"message\":\"a\", \"code\":[]\x7d" = .ok { message := "a" } := rfl
  let element : Element := ⟨[], literal "a", []⟩
  let message : Entry := ⟨[], "message".toList.flatMap escape, [], element⟩
  let code : Entry := ⟨[' '], "code".toList.flatMap escape, [], ⟨[], listText [] [], []⟩⟩
  have hvalue : IsValue (literal "a") := .literal (quotable_flatMap_escape _)
  have hspaced : element.IsSpaced := ⟨isGap_nil, isGap_nil⟩
  have hspace : IsGap [' '] := isGap_cons.mpr ⟨rfl, isGap_nil⟩
  have hempty : IsList [] [] := ⟨isGap_nil, List.forall_mem_nil _, List.forall_mem_nil _⟩
  have hlist : IsList [' '] [element] :=
    ⟨hspace, List.forall_mem_singleton.mpr hspaced, List.forall_mem_singleton.mpr hvalue⟩
  have hname : message.IsSpaced := ⟨isGap_nil, quotable_flatMap_escape _, isGap_nil, hspaced⟩
  have hmessage : IsObject [] [message] :=
    ⟨isGap_nil, List.forall_mem_singleton.mpr hname, List.forall_mem_singleton.mpr hvalue⟩
  have hcode : code.IsSpaced := ⟨hspace, quotable_flatMap_escape _, isGap_nil, isGap_nil, isGap_nil⟩
  have hboth : IsObject [] ([message] ++ [code]) := hmessage.insert hcode hempty.isValue
  have hinserted : Rewrite shape (objectText [] ([message] ++ []))
      (objectText [] ([message] ++ [code])) :=
    .inserted .record hmessage hcode hempty.isValue rfl (by decide)
  have hpositional : Rewrite shape (objectText [] [message]) (listText [' '] [element]) :=
    .positional .record (by decide) hmessage ⟨[some "validations"], rfl⟩ hlist rfl
  -- From the object with the unknown member back to the one without it,
  -- and from there to the list.
  have hrewrite : Relation.EqvGen (RewriteAt shape) (objectText [] [message, code])
      (listText [' '] [element]) :=
    .trans _ _ _ (.symm _ _ (.rel _ _ hinserted.whole)) (.rel _ _ hpositional.whole)
  have htwice : RepeatsField shape (objectText [] ([message] ++ [message])) :=
    .twice .record (hmessage.insert hname hvalue) (List.Sublist.refl _) (List.mem_cons_self ..)
      rfl rfl
  exact ⟨hread,
    ofBody_tolerates.2.1 [] _ [] _ isGap_nil (.object hboth) isGap_nil hread [' '] _ [] hspace
      isGap_nil hrewrite,
    ofBody_tolerates.2.2 [] _ [] isGap_nil isGap_nil htwice.whole⟩

end Failure

end Steward
