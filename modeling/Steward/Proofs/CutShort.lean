import Steward.Proofs.Json.Moves
import Steward.Proofs.ReadBack

/-!
# Bodies Cut Short

A body that breaks off before its end.

Whoever receives only the beginning of a body has to notice that the rest is missing, and
must not take what is there for something else: for another, shorter failure, for one
that has the wrong members, or for no JSON at all. The danger is in the values that do not
show where they end. A number that breaks off is a number still, or none at all, but not a
text that ended too early.

The body of a failure has no numbers, and no words either. It is made of literals and of
marks (`Json.IsMarked`), so a reader that goes along it is between two of these or within a
literal, with the rest of the body before it. `Json.Sits` states it, every character keeps
it up (`Json.Sits.moves`), and with it every piece (`Json.Sits.run`). Wherever the body breaks off then, the
reader is in the middle of something, and there is only one thing to say about that.

## Main definitions

* `Json.Sits`: A reader within such a text.

## Theorems

* `Json.Sits.run`: A reader stays within it.
* `Json.Sits.finish_eq`: A reader that has not come to its end misses the rest.
* `Failure.ofBody_cutShort`: A body that breaks off is known to be incomplete.
-/

namespace Steward

namespace Json

/-- The literal that the machine is in. -/
def Mode.scan? : Mode → Option LiteralScan
  | .nameText _ scan | .text _ scan => some scan
  | .value _ | .opened _ | .between _ | .name _ | .colon _ _ | .word _ _ _ | .number _ _ _
  | .finished _ => none

section Steps

variable {s t : State} {c : Char} {frames : List Frame} {scan : LiteralScan}

theorem isResting_deliver (d : Datum) (frames : List Frame) :
    (State.deliver d frames).mode.isResting = true := by
  cases frames <;> rfl

/-- A mark that begins a value begins a list or an object. -/
theorem isResting_of_begun (h : Begun c frames t) (hc : c ∈ marks) :
    t.mode.isResting = true := by
  simp only [marks, List.mem_cons, List.not_mem_nil, or_false] at hc
  cases h with
  | list | object => rfl
  | literal hquote => rcases hc with rfl | rfl | rfl | rfl | rfl | rfl <;> cases hquote
  | word h =>
      simp only [valueWords, List.mem_cons, List.cons.injEq, List.not_mem_nil, or_false] at h
      rcases h with ⟨rfl, -⟩ | ⟨rfl, -⟩ | ⟨rfl, -⟩ <;> exact absurd hc (by decide)
  | number h => rcases hc with rfl | rfl | rfl | rfl | rfl | rfl <;> cases h

/-- A mark between two tokens leads to between two tokens. -/
theorem isResting_of_moves (h : Moves c s t) (hs : s.mode.isResting = true) (hc : c ∈ marks) :
    t.mode.isResting = true := by
  have hquote : c ≠ '"' := by
    rintro rfl
    exact absurd hc (by decide)
  cases h with
  | skipped => exact hs
  | value h | firstElement _ h => exact isResting_of_begun h hc
  | closedEmpty | closed => exact isResting_deliver _ _
  | nextElement | nextEntry | colon => rfl
  | firstEntry h | name h => exact absurd h hquote
  | nameMore | nameEnded | textMore | textEnded | wordMore | wordEnded | numberMore
  | numberEnded => cases hs

theorem scan?_of_begun (h : Begun '"' frames t) :
    ∃ strict, t.mode.scan? = some ⟨strict, [], .plain⟩ := by
  cases h with
  | literal _ _ strict => exact ⟨strict, rfl⟩
  | list h | object h => exact absurd h (by decide)
  | word h => simp [valueWords] at h
  | number h => cases h

/-- A quote between two tokens begins a literal. -/
theorem scan?_of_moves (h : Moves '"' s t) (hs : s.mode.isResting = true) :
    ∃ strict, t.mode.scan? = some ⟨strict, [], .plain⟩ := by
  cases h with
  | value h | firstElement _ h => exact scan?_of_begun h
  | firstEntry _ o | name _ o => exact ⟨o.strict, rfl⟩
  | skipped _ h | nextElement h | nextEntry h | colon h => exact absurd h (by decide)
  | @closedEmpty o h | @closed o h => cases o <;> simp [Open.closer] at h
  | nameMore | nameEnded | textMore | textEnded | wordMore | wordEnded | numberMore
  | numberEnded => cases hs

/-- A literal goes on, or it ends. -/
theorem moves_literal (h : Moves c s t) (hs : s.mode.scan? = some scan) :
    (∃ next, scan.step c = .ok (.more next) ∧ t.mode.scan? = some next) ∨
      ∃ text, scan.step c = .ok (.ended text) ∧ t.mode.isResting = true := by
  -- Inside a literal four moves are possible. All the others begin at another place.
  cases h with
  | nameMore h | textMore h =>
      cases hs
      exact Or.inl ⟨_, h, rfl⟩
  | nameEnded h =>
      cases hs
      exact Or.inr ⟨_, h, rfl⟩
  | textEnded h =>
      cases hs
      exact Or.inr ⟨_, h, isResting_deliver _ _⟩
  | skipped hresting =>
      rcases s with ⟨mode, frames⟩
      cases mode with
      | nameText | text => cases hresting
      | value | opened | between | name | colon | word | number | finished => cases hs
  | value | firstElement | firstEntry | closedEmpty | closed | nextElement | nextEntry | name
  | colon | wordMore | wordEnded | numberMore | numberEnded => cases hs

end Steps

/-- What was written for a string spells something, however it is read. -/
theorem spelling_escaped (strict : Bool) (s : String) :
    ((⟨strict, [], .plain⟩ : LiteralScan).spelling (s.toList.flatMap escape)).isSome = true := by
  cases strict with
  | false => exact (quotable_flatMap_escape s.toList).spelling_loosely []
  | true =>
      rw [← List.append_nil (s.toList.flatMap escape),
        LiteralScan.spelling_append (LiteralScan.goOn_spelled [] s.toList)]
      rfl

/-- A reader within a text of marks and literals, the rest of which is before it. It is
    between two of them or within a literal that will end. -/
inductive Sits (s : State) : List Char → Prop where
  | resting {cs : List Char} (hs : s.mode.isResting = true) (h : IsMarked cs) : Sits s cs
  | inside {scan : LiteralScan} {cs rest : List Char} (hs : s.mode.scan? = some scan)
      (hspells : (scan.spelling cs).isSome = true) (h : IsMarked rest) :
      Sits s (cs ++ '"' :: rest)

namespace Sits

variable {s t : State} {c : Char} {cs : List Char}

/-- The next character leads on within the text. -/
theorem moves (h : Sits s (c :: cs)) (ht : Moves c s t) : Sits t cs := by
  -- The text that is left is kept apart from its first character until it is
  -- known how the reader sits.
  generalize heq : c :: cs = text at h
  cases h with
  | resting hs hmarked =>
      -- At rest the character is a mark of its own, or it opens a literal.
      cases hmarked with
      | nil => cases heq
      | mark hc hrest =>
          cases heq
          exact .resting (isResting_of_moves ht hs hc) hrest
      | literal string hrest =>
          rw [literal, List.cons_append, List.cons_append, List.append_assoc] at heq
          cases heq
          rcases scan?_of_moves ht hs with ⟨strict, hscan⟩
          exact .inside hscan (spelling_escaped strict string) hrest
  | @inside scan written rest hs hspells hrest =>
      -- The literal ends where its spelling ends, and not before.
      cases written with
      | nil =>
          cases heq
          rw [LiteralScan.spelling] at hspells
          rcases moves_literal ht hs with ⟨next, hnext, -⟩ | ⟨text, -, hresting⟩
          · rw [hnext] at hspells
            cases hspells
          · exact .resting hresting hrest
      | cons d written =>
          cases heq
          rw [LiteralScan.spelling] at hspells
          rcases moves_literal ht hs with ⟨next, hnext, hscan⟩ | ⟨text, htext, -⟩
          · rw [hnext] at hspells
            exact .inside hscan hspells hrest
          · rw [htext] at hspells
            cases hspells

/-- A piece of the text leads on within it. -/
theorem run {as bs : List Char} (h : Sits s (as ++ bs)) (ht : Json.run s as = .ok t) :
    Sits t bs := by
  induction as generalizing s with
  | nil =>
      cases ht
      exact h
  | cons c as ih =>
      rw [run_cons] at ht
      cases hstep : Json.step s c with
      | error e =>
          rw [hstep] at ht
          cases ht
      | ok u =>
          rw [hstep] at ht
          exact ih (h.moves (moves_of_step hstep)) ht

/-- A reader that has not come to the end of the text, but could, misses the rest. -/
theorem finish_eq (h : Sits s cs) (hne : cs ≠ []) (ht : Json.run s cs = .ok t) :
    finish s = .error .truncated := by
  rcases s with ⟨mode, frames⟩
  cases h with
  | inside hs _ _ =>
      cases mode with
      | nameText | text => rfl
      | value | opened | between | name | colon | word | number | finished => cases hs
  | resting hs hmarked =>
      cases mode with
      | value | opened | between | name | colon => rfl
      | nameText | text | word | number => cases hs
      | finished d =>
          -- Nothing but white space may follow a value, and there is none in the text.
          cases cs with
          | nil => exact absurd rfl hne
          | cons c cs =>
              have hstep : Json.step ⟨.finished d, frames⟩ c = .error .malformed := by
                simp only [Json.step, State.stepEnded, hmarked.begins, Bool.false_eq_true,
                  if_false]
              rw [run_cons, hstep] at ht
              cases ht

end Sits

/-- What was written without numbers and words is not read to its end by halves. -/
theorem read_cutShort {shape : Shape} {as bs : List Char} {d : Datum}
    (hmarked : IsMarked (as ++ bs)) (hspells : Spells shape (as ++ bs) d) (hne : bs ≠ []) :
    read shape as = .error .truncated := by
  have hsits : Sits (State.start shape) (as ++ bs) := .resting rfl hmarked
  -- The whole text is read, so what is left can be read from where the piece ends.
  have hall : run (State.start shape) (as ++ bs) = .ok (State.deliver d []) := hspells.reads []
  cases has : run (State.start shape) as with
  | error e =>
      rw [run_error has] at hall
      cases hall
  | ok s =>
      rw [run_append_of_run has] at hall
      rw [read, has]
      exact (hsits.run has).finish_eq hne hall

end Json

open Json

namespace Failure

/-- A body that breaks off anywhere before its end, be it before its first character, is
    known to be incomplete. -/
theorem ofBody_cutShort (f : Failure) (text : String) (h : text.toList <+: f.body.toList)
    (hne : text ≠ f.body) : ofBody text = .error .truncated := by
  rcases h with ⟨rest, hrest⟩
  rw [body, String.toList_ofList] at hrest
  have hread : read Failure.shape text.toList = .error .truncated := by
    have hmarked := isMarked_json f
    have hspells := spells_failure f
    rw [← hrest] at hmarked hspells
    refine read_cutShort hmarked hspells ?_
    rintro rfl
    rw [List.append_nil] at hrest
    exact hne (by rw [body, ← hrest, String.ofList_toList])
  rw [ofBody, hread]

/-- A body that breaks off within a name. -/
theorem ofBody_cutShort_in_a_name :
    "\x7b\"mes".toList <+: (Failure.new "a").body.toList ∧ "\x7b\"mes" ≠ (Failure.new "a").body ∧
      ofBody "\x7b\"mes" = .error .truncated := by
  have hstart : "\x7b\"mes".toList <+: (Failure.new "a").body.toList := by decide
  have hne : "\x7b\"mes" ≠ (Failure.new "a").body := by decide
  exact ⟨hstart, hne, ofBody_cutShort _ _ hstart hne⟩

end Failure

end Steward
