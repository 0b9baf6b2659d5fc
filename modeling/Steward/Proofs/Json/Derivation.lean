import Steward.Proofs.Json.Moves

/-!
# Whatever Is Accepted Is JSON

A text that a reader accepts, at whatever shape, is a value with white space around it.

A reader goes forward, but what it has accepted shows only from the end. At every point
there are certain texts that may still follow: the rest of what the reader is in the
middle of, and then the rest of each container that waits for it, the nearest one first.
`Demands` is what a state asks of the text that is still to come, and `Closes` is the part
of it that the containers ask for. After the last character nothing is left to ask, and a
state that leads to another by a character asks for that character and for what the other
asks (`demands_of_moves`). So the first state asks for the whole text, and what it asks for
is a value.

## Main definitions

* `LiteralRest`, `ListRest`, `ObjectRest`: What may still follow in these.
* `Closes`: What may follow a value within its containers.
* `Demands`: What may follow in a state.

## Theorems

* `demands_of_moves`: A character and what may follow it may follow.
* `isValue_of_readAs?`: A text that is accepted is a value between white space.
-/

namespace Steward.Json

variable {c : Char} {cs gap v rest tail : List Char} {frames : List Frame} {t : State}

section Literals

/-- What may follow in a literal up to its closing quote. -/
def LiteralRest : LiteralSpot → List Char → Prop
  | .plain, cs | .lead _, cs => Quotable cs
  | .escape, cs | .leadEscape _, cs => Quotable ('\\' :: cs)
  | .digits _ bytes value, cs => value.isSome = true ∧ ∃ ds rest, cs = ds ++ rest ∧
      (∀ d ∈ ds, IsHexDigit d) ∧ (bytes < 4 → bytes + ds.length = 4) ∧ Quotable rest

variable {scan next : LiteralScan}

theorem quotable_of_digits {lead : Option Nat}
    (h : LiteralRest (.digits lead 0 (some 0)) cs) : Quotable ('\\' :: 'u' :: cs) := by
  rcases h with ⟨-, ds, rest, rfl, hhex, hlength, hrest⟩
  exact .numbered (by have := hlength (by decide); omega) hhex hrest

/-- A code leads back to between two characters. -/
theorem quotable_of_codeStep {lead : Option Nat} {code : Nat}
    (h : scan.codeStep lead code = .ok (.more next)) (hrest : LiteralRest next.spot cs) :
    Quotable cs := by
  rcases LiteralScan.codeStep_cases scan lead code with ⟨e, he⟩ | ⟨t, ht, hmore⟩
  · rw [he] at h
    cases h
  · rw [hmore] at h
    cases h
    rcases ht with hspot | ⟨code, hspot⟩ <;> rw [hspot] at hrest <;> exact hrest

/-- The digits of a code have a value only as long as they are digits. -/
theorem isHexDigit_of_isSome {value : Option Nat}
    (h : (value.bind fun v => (hexValue? c).map (v * 16 + ·)).isSome = true) :
    value.isSome = true ∧ IsHexDigit c := by
  cases value with
  | none => cases h
  | some n =>
      rw [Option.bind_some, Option.isSome_map] at h
      exact ⟨rfl, h⟩

/-- A character of a literal and what may follow it may follow. -/
theorem literalRest_of_step (h : scan.step c = .ok (.more next))
    (hrest : LiteralRest next.spot cs) : LiteralRest scan.spot (c :: cs) := by
  rcases scan with ⟨strict, done, spot⟩
  cases spot with
  | plain =>
      -- A quote would end the literal, so the character is kept or it is a backslash.
      simp only [LiteralScan.step] at h
      split at h
      · cases h
      · split at h
        · rename_i hbackslash
          cases h
          rw [hbackslash]
          exact hrest
        · split at h
          · cases h
          · rename_i hquote hbackslash hclean
            cases h
            exact .plain hquote hbackslash (Nat.not_lt.mp hclean) hrest
  | escape =>
      -- Behind the backslash stands a short escape or the letter before the digits.
      rcases LiteralScan.escapeStep_eq_ok h with hc | ⟨rfl, hnext⟩
      · rcases LiteralScan.escapeStep_of_mem ⟨strict, done, .escape⟩ hc with ⟨d, hd⟩
        have hkeep := hd.symm.trans h
        cases hkeep
        exact .short hc hrest
      · cases hnext
        exact quotable_of_digits hrest
  | lead code =>
      -- After the first half of a pair the second one has to be written with an escape.
      simp only [LiteralScan.step] at h
      split at h
      · rename_i hbackslash
        cases h
        rw [hbackslash]
        exact hrest
      · cases h
  | leadEscape code =>
      simp only [LiteralScan.step] at h
      split at h
      · rename_i hletter
        cases h
        rw [hletter]
        exact quotable_of_digits hrest
      · cases h
  | digits lead bytes value =>
      simp only [LiteralScan.step] at h
      split at h
      · rename_i hbytes
        cases h
        -- The digits to come have a value only if this one has, and then it is one byte.
        rcases hrest with ⟨hvalue, ds, rest, rfl, hhex, hlength, hrest⟩
        rcases isHexDigit_of_isSome hvalue with ⟨hbefore, hc⟩
        rw [utf8Size_of_isHexDigit hc] at hbytes hlength
        refine ⟨hbefore, c :: ds, rest, rfl, List.forall_mem_cons.mpr ⟨hc, hhex⟩, fun _ => ?_,
          hrest⟩
        rw [List.length_cons, Nat.add_comm ds.length, ← Nat.add_assoc]
        exact hlength hbytes
      · -- This digit is the last one, and the code it completes decides how the scan goes on.
        rename_i hbytes
        split at h
        · rename_i code hcode
          rcases isHexDigit_of_isSome (Option.isSome_of_eq_some hcode) with ⟨hbefore, hc⟩
          rw [utf8Size_of_isHexDigit hc] at hbytes
          refine ⟨hbefore, [c], cs, rfl, List.forall_mem_singleton.mpr hc, fun hlow => ?_,
            quotable_of_codeStep h hrest⟩
          rw [List.length_singleton]
          omega
        · cases h

/-- A literal ends with a quote. -/
theorem eq_quote_of_step {text : String} (h : scan.step c = .ok (.ended text)) :
    c = '"' ∧ LiteralRest scan.spot [] := by
  rcases scan with ⟨strict, done, spot⟩
  cases spot with
  | plain =>
      simp only [LiteralScan.step] at h
      split at h
      · -- Only between characters is a quote the end.
        rename_i hquote
        exact ⟨hquote, .nil⟩
      · split at h
        · cases h
        · split at h <;> cases h
  | escape =>
      rcases LiteralScan.escapeStep_eq_ok h with hc | ⟨-, hnext⟩
      · rcases LiteralScan.escapeStep_of_mem ⟨strict, done, .escape⟩ hc with ⟨d, hd⟩
        have hkeep := hd.symm.trans h
        cases hkeep
      · cases hnext
  | lead code | leadEscape code =>
      simp only [LiteralScan.step] at h
      split at h <;> cases h
  | digits lead bytes value =>
      simp only [LiteralScan.step] at h
      split at h
      · cases h
      · split at h
        · rename_i code _
          -- A code is refused or gone on from, and so the literal does not end with it.
          rcases LiteralScan.codeStep_cases ⟨strict, done, .digits lead bytes value⟩ lead code
            with ⟨e, he⟩ | ⟨t, -, hmore⟩
          · rw [he] at h
            cases h
          · rw [hmore] at h
            cases h
        · cases h

end Literals

section Containers

/-- What may follow in a list after an element, and what then follows the list. -/
def ListRest (cs rest : List Char) : Prop :=
  ∃ gap es, IsList gap es ∧
    cs = gap ++ ((es.map Element.text).flatMap (',' :: ·) ++ ']' :: rest)

/-- What may follow in an object after an entry, and what then follows the object. -/
def ObjectRest (cs rest : List Char) : Prop :=
  ∃ gap es, IsObject gap es ∧
    cs = gap ++ ((es.map Entry.text).flatMap (',' :: ·) ++ '\x7d' :: rest)

def Open.Rest : Open → List Char → List Char → Prop
  | .list _ _ | .slots _ _ _ => ListRest
  | .object _ => ObjectRest

def Frame.Rest : Frame → List Char → List Char → Prop
  | .item _ _ | .slot _ _ _ _ => ListRest
  | .member _ _ => ObjectRest

/-- What may follow in a container after its first bracket, and what then follows it. -/
def Open.Inside : Open → List Char → List Char → Prop
  | .list _ _, cs, rest | .slots _ _ _, cs, rest => ∃ gap es, IsList gap es ∧
      cs = gap ++ (List.intercalate [','] (es.map Element.text) ++ ']' :: rest)
  | .object _, cs, rest => ∃ gap es, IsObject gap es ∧
      cs = gap ++ (List.intercalate [','] (es.map Entry.text) ++ '\x7d' :: rest)

theorem rest_fill (f : Frame) (d : Datum) : (f.fill d).Rest = f.Rest := by
  cases f with
  | member o name => cases name <;> rfl
  | item | slot => rfl

/-- What may follow a value within the containers that wait for it. -/
def Closes : List Frame → List Char → Prop
  | [], cs => IsGap cs
  | f :: frames, cs => ∃ rest, f.Rest cs rest ∧ Closes frames rest

/-- A value has to follow, and then something else. -/
def ValueThen (After : List Char → Prop) (cs : List Char) : Prop :=
  ∃ gap v tail, IsGap gap ∧ IsValue v ∧ After tail ∧ cs = gap ++ (v ++ tail)

/-- A colon and a value have to follow, and then something else. -/
def ColonThen (After : List Char → Prop) (cs : List Char) : Prop :=
  ∃ gap tail, IsGap gap ∧ ValueThen After tail ∧ cs = gap ++ ':' :: tail

/-- The rest of a name, a colon and a value have to follow, and then something else. -/
def KeyThen (spot : LiteralSpot) (After : List Char → Prop) (cs : List Char) : Prop :=
  ∃ key tail, LiteralRest spot key ∧ ColonThen After tail ∧ cs = key ++ '"' :: tail

/-- An entry has to follow, and then something else. -/
def EntryThen (After : List Char → Prop) (cs : List Char) : Prop :=
  ∃ gap tail, IsGap gap ∧ KeyThen .plain After tail ∧ cs = gap ++ '"' :: tail

/-- What may follow in a state. -/
def Demands : State → List Char → Prop
  | ⟨.value _, frames⟩, cs => ValueThen (Closes frames) cs
  | ⟨.opened o, frames⟩, cs => ∃ rest, o.Inside cs rest ∧ Closes frames rest
  | ⟨.between o, frames⟩, cs => ∃ rest, o.Rest cs rest ∧ Closes frames rest
  | ⟨.name o, frames⟩, cs => EntryThen (Closes (.member o none :: frames)) cs
  | ⟨.nameText o scan, frames⟩, cs => KeyThen scan.spot (Closes (.member o none :: frames)) cs
  | ⟨.colon frame _, frames⟩, cs => ColonThen (Closes (frame :: frames)) cs
  | ⟨.text _ scan, frames⟩, cs =>
      ∃ chars tail, LiteralRest scan.spot chars ∧ Closes frames tail ∧ cs = chars ++ '"' :: tail
  | ⟨.word _ next letters, frames⟩, cs =>
      ∃ tail, Closes frames tail ∧ cs = next :: (letters ++ tail)
  | ⟨.number _ part _, frames⟩, cs =>
      ∃ chars tail, part.MayEnd chars ∧ Closes frames tail ∧ cs = chars ++ tail
  | ⟨.finished _, _⟩, cs => IsGap cs

theorem demands_deliver (d : Datum) :
    Demands (State.deliver d frames) cs ↔ Closes frames cs := by
  cases frames with
  | nil => exact Iff.rfl
  | cons f frames => rw [State.deliver, Demands, rest_fill, Closes]

/-- A value with what follows it in a list is the first of its elements. -/
theorem element_of_valueThen (h : ValueThen (ListRest · rest) cs) :
    ∃ e es, IsList [] (e :: es) ∧
      cs = e.text ++ ((es.map Element.text).flatMap (',' :: ·) ++ ']' :: rest) := by
  rcases h with ⟨gap, v, tail, hgap, hv, ⟨after, es, hes, rfl⟩, rfl⟩
  refine ⟨⟨gap, v, after⟩, es, ⟨isGap_nil, List.forall_mem_cons.mpr ⟨⟨hgap, hes.gap⟩, hes.spaced⟩,
    List.forall_mem_cons.mpr ⟨hv, hes.values⟩⟩, ?_⟩
  rw [Element.text, List.append_assoc, List.append_assoc]

theorem entry_of_entryThen (h : EntryThen (ObjectRest · rest) cs) :
    ∃ e es, IsObject [] (e :: es) ∧
      cs = e.text ++ ((es.map Entry.text).flatMap (',' :: ·) ++ '\x7d' :: rest) := by
  rcases h with ⟨before, _, hbefore, ⟨key, _, hkey, ⟨afterKey, _, hafterKey,
    ⟨gap, v, _, hgap, hv, ⟨after, es, hes, rfl⟩, rfl⟩, rfl⟩, rfl⟩, rfl⟩
  refine ⟨⟨before, key, afterKey, ⟨gap, v, after⟩⟩, es, ⟨isGap_nil,
    List.forall_mem_cons.mpr ⟨⟨hbefore, hkey, hafterKey, ⟨hgap, hes.gap⟩⟩, hes.spaced⟩,
    List.forall_mem_cons.mpr ⟨hv, hes.values⟩⟩, ?_⟩
  simp only [Entry.text, Entry.inside, Element.text, List.append_assoc, List.cons_append]

/-- The containers that wait for a value come after the one it stands in. -/
theorem exists_of_valueThen {f : Frame} (h : ValueThen (Closes (f :: frames)) cs) :
    ∃ rest, ValueThen (f.Rest · rest) cs ∧ Closes frames rest := by
  rcases h with ⟨gap, v, tail, hgap, hv, ⟨rest, hrest, hcloses⟩, rfl⟩
  exact ⟨rest, ⟨gap, v, tail, hgap, hv, hrest, rfl⟩, hcloses⟩

theorem exists_of_entryThen {o : OpenObject} {name : Option String}
    (h : EntryThen (Closes (.member o name :: frames)) cs) :
    ∃ rest, EntryThen (ObjectRest · rest) cs ∧ Closes frames rest := by
  rcases h with ⟨before, _, hbefore, ⟨key, _, hkey, ⟨afterKey, _, hafterKey, hvalue, rfl⟩, rfl⟩,
    rfl⟩
  rcases exists_of_valueThen hvalue with ⟨rest, hvalue, hcloses⟩
  exact ⟨rest, ⟨before, _, hbefore, ⟨key, _, hkey, ⟨afterKey, _, hafterKey, hvalue, rfl⟩, rfl⟩,
    rfl⟩, hcloses⟩

end Containers

section Values

/-- What may follow when a value has begun makes the rest of it. -/
theorem valueThen_of_begun (h : Begun c frames t) (ht : Demands t cs) :
    ValueThen (Closes frames) (c :: cs) := by
  cases h with
  | literal hc use strict =>
      rcases ht with ⟨chars, tail, hchars, hcloses, rfl⟩
      refine ⟨[], quoted chars, tail, isGap_nil, .literal hchars, hcloses, ?_⟩
      rw [hc, quoted, List.nil_append, List.cons_append, List.append_assoc]
      rfl
  | @list hc o ho =>
      -- A bracket opens a list of items or the slots of a record, never an object.
      have hinside : ∃ rest gap es, Closes frames rest ∧ IsList gap es ∧
          cs = gap ++ (List.intercalate [','] (es.map Element.text) ++ ']' :: rest) := by
        rcases ht with ⟨rest, hinside, hcloses⟩
        cases o with
        | list | slots =>
            rcases hinside with ⟨gap, es, hes, hcs⟩
            exact ⟨rest, gap, es, hcloses, hes, hcs⟩
        | object =>
            have hne : '\x7d' ≠ ']' := by decide
            exact absurd ho hne
      rcases hinside with ⟨rest, gap, es, hcloses, hes, rfl⟩
      refine ⟨[], listText gap es, rest, isGap_nil, hes.isValue, hcloses, ?_⟩
      simp only [hc, listText, List.nil_append, List.cons_append, List.append_assoc]
  | object hc o =>
      rcases ht with ⟨rest, ⟨gap, es, hes, rfl⟩, hcloses⟩
      refine ⟨[], objectText gap es, rest, isGap_nil, hes.isValue, hcloses, ?_⟩
      simp only [hc, objectText, List.nil_append, List.cons_append, List.append_assoc]
  | word h use =>
      rcases ht with ⟨tail, hcloses, rfl⟩
      exact ⟨[], _, tail, isGap_nil, .word h, hcloses, rfl⟩
  | number h use done =>
      rcases ht with ⟨chars, tail, hend, hcloses, rfl⟩
      exact ⟨[], c :: chars, tail, isGap_nil, .number (numeral_iff.mpr ⟨c, chars, _, rfl, h, hend⟩),
        hcloses, rfl⟩

end Values

section Steps

variable {s : State} {o : Open}

theorem listRest_of_comma (h : ValueThen (ListRest · rest) cs) : ListRest (',' :: cs) rest := by
  rcases element_of_valueThen h with ⟨e, es, hes, rfl⟩
  refine ⟨[], e :: es, hes, ?_⟩
  rw [List.map_cons, List.flatMap_cons, List.nil_append, List.append_assoc]
  rfl

theorem objectRest_of_comma (h : EntryThen (ObjectRest · rest) cs) :
    ObjectRest (',' :: cs) rest := by
  rcases entry_of_entryThen h with ⟨e, es, hes, rfl⟩
  refine ⟨[], e :: es, hes, ?_⟩
  rw [List.map_cons, List.flatMap_cons, List.nil_append, List.append_assoc]
  rfl

theorem inside_of_valueThen (ho : o.closer = ']') (h : ValueThen (ListRest · rest) cs) :
    o.Inside cs rest := by
  rcases element_of_valueThen h with ⟨e, es, hes, rfl⟩
  have htext : e.text ++ ((es.map Element.text).flatMap (',' :: ·) ++ ']' :: rest) =
      [] ++ (List.intercalate [','] ((e :: es).map Element.text) ++ ']' :: rest) := by
    rw [List.map_cons, intercalate_cons, List.nil_append, List.append_assoc]
  cases o with
  | list | slots => exact ⟨[], e :: es, hes, htext⟩
  | object =>
      have hne : '\x7d' ≠ ']' := by decide
      exact absurd ho hne

theorem inside_of_entryThen {o : OpenObject} (h : EntryThen (ObjectRest · rest) cs) :
    (Open.object o).Inside cs rest := by
  rcases entry_of_entryThen h with ⟨e, es, hes, rfl⟩
  refine ⟨[], e :: es, hes, ?_⟩
  rw [List.map_cons, intercalate_cons, List.nil_append, List.append_assoc]

theorem inside_close (o : Open) (rest : List Char) : o.Inside (o.closer :: rest) rest := by
  cases o <;> exact ⟨[], [], ⟨isGap_nil, List.forall_mem_nil _, List.forall_mem_nil _⟩, rfl⟩

/-- White space between two tokens may follow before anything else. -/
theorem demands_space (hs : s.mode.isResting = true) (hc : isSpace c = true)
    (h : Demands s cs) : Demands s (c :: cs) := by
  -- What is demanded at rest begins with a gap, and that gap grows by this character.
  have hgap : ∀ {gap}, IsGap gap → IsGap (c :: gap) := fun hgap => isGap_cons.mpr ⟨hc, hgap⟩
  rcases s with ⟨mode, frames⟩
  cases mode with
  | nameText | text | word | number => cases hs
  | value shape =>
      rcases h with ⟨gap, v, tail, hspace, hv, htail, rfl⟩
      exact ⟨c :: gap, v, tail, hgap hspace, hv, htail, rfl⟩
  | opened o =>
      rcases h with ⟨rest, hinside, hcloses⟩
      refine ⟨rest, ?_, hcloses⟩
      cases o with
      | list | slots | object =>
          rcases hinside with ⟨gap, es, hes, rfl⟩
          exact ⟨c :: gap, es, ⟨hgap hes.gap, hes.spaced, hes.values⟩, rfl⟩
  | between o =>
      rcases h with ⟨rest, hrest, hcloses⟩
      refine ⟨rest, ?_, hcloses⟩
      cases o with
      | list | slots | object =>
          rcases hrest with ⟨gap, es, hes, rfl⟩
          exact ⟨c :: gap, es, ⟨hgap hes.gap, hes.spaced, hes.values⟩, rfl⟩
  | name o =>
      rcases h with ⟨gap, tail, hspace, hkey, rfl⟩
      exact ⟨c :: gap, tail, hgap hspace, hkey, rfl⟩
  | colon frame shape =>
      rcases h with ⟨gap, tail, hspace, hvalue, rfl⟩
      exact ⟨c :: gap, tail, hgap hspace, hvalue, rfl⟩
  | finished d => exact hgap h

/-- What is around an element of a list is the rest of a list. -/
theorem rest_of_awaits {shape : Shape} {frame : Frame} (h : o.awaits = some (shape, frame)) :
    o.Rest = ListRest ∧ frame.Rest = ListRest := by
  rcases closer_of_awaits h with ⟨ho, hframe⟩
  have hlist : ∀ p : Open, p.closer = ']' → p.Rest = ListRest := by
    intro p hp
    cases p with
    | list | slots => rfl
    | object =>
        have hne : '\x7d' ≠ ']' := by decide
        exact absurd hp hne
  refine ⟨hlist o ho, ?_⟩
  rw [← rest_fill frame .absent]
  exact hlist _ (hframe .absent)

theorem rest_close (o : Open) (rest : List Char) : o.Rest (o.closer :: rest) rest := by
  cases o <;> exact ⟨[], [], ⟨isGap_nil, List.forall_mem_nil _, List.forall_mem_nil _⟩, rfl⟩

/-- A character and what may follow it may follow. -/
theorem demands_of_moves (h : Moves c s t) (ht : Demands t cs) : Demands s (c :: cs) := by
  -- Only a number that has ended makes another step of the same character.
  induction h with
  | skipped hs hc => exact demands_space hs hc ht
  -- The character begins what was awaited.
  | value h => exact valueThen_of_begun h ht
  | firstElement ho h =>
      rcases exists_of_valueThen (valueThen_of_begun h ht) with ⟨rest, hvalue, hcloses⟩
      rw [(rest_of_awaits ho).2] at hvalue
      exact ⟨rest, inside_of_valueThen (closer_of_awaits ho).1 hvalue, hcloses⟩
  | firstEntry hc obj frames =>
      have hentry : EntryThen (Closes (.member obj none :: frames)) ('"' :: cs) :=
        ⟨[], cs, isGap_nil, ht, rfl⟩
      rcases exists_of_entryThen hentry with ⟨rest, hentry, hcloses⟩
      rw [hc]
      exact ⟨rest, inside_of_entryThen hentry, hcloses⟩
  | @closedEmpty o hc d frames =>
      -- It closes a list or an object.
      rw [hc]
      exact ⟨cs, inside_close o cs, (demands_deliver d).mp ht⟩
  | @closed o hc d frames =>
      rw [hc]
      exact ⟨cs, rest_close o cs, (demands_deliver d).mp ht⟩
  | nextElement hc ho frames =>
      -- It parts two elements or two entries, and the next one is demanded.
      rcases exists_of_valueThen ht with ⟨rest, hvalue, hcloses⟩
      rw [(rest_of_awaits ho).2] at hvalue
      rw [hc, Demands, (rest_of_awaits ho).1]
      exact ⟨rest, listRest_of_comma hvalue, hcloses⟩
  | nextEntry hc obj frames =>
      rcases exists_of_entryThen ht with ⟨rest, hentry, hcloses⟩
      rw [hc]
      exact ⟨rest, objectRest_of_comma hentry, hcloses⟩
  | name hc obj frames =>
      rw [hc]
      exact ⟨[], cs, isGap_nil, ht, rfl⟩
  | nameMore h obj frames =>
      -- It is part of a name, a text, a word or a number.
      rcases ht with ⟨key, tail, hkey, hvalue, rfl⟩
      exact ⟨c :: key, tail, literalRest_of_step h hkey, hvalue, rfl⟩
  | nameEnded h obj field shape frames =>
      rcases eq_quote_of_step h with ⟨rfl, hkey⟩
      exact ⟨[], cs, hkey, ht, rfl⟩
  | colon hc frame shape frames =>
      rw [hc]
      exact ⟨[], cs, isGap_nil, ht, rfl⟩
  | textMore h use frames =>
      rcases ht with ⟨chars, tail, hchars, hcloses, rfl⟩
      exact ⟨c :: chars, tail, literalRest_of_step h hchars, hcloses, rfl⟩
  | textEnded h use d frames =>
      rcases eq_quote_of_step h with ⟨rfl, hchars⟩
      exact ⟨[], cs, hchars, (demands_deliver d).mp ht, rfl⟩
  | wordMore use after letters frames =>
      rcases ht with ⟨tail, hcloses, rfl⟩
      exact ⟨tail, hcloses, rfl⟩
  | wordEnded use frames => exact ⟨cs, (demands_deliver _).mp ht, rfl⟩
  | numberMore h use done frames =>
      rcases ht with ⟨chars, tail, hend, hcloses, rfl⟩
      exact ⟨c :: chars, tail, NumberPart.mayEnd_cons.mpr ⟨_, h, hend⟩, hcloses, rfl⟩
  | numberEnded hpart _ use done ih =>
      -- The number ended before it, so the hypothesis is about the same character.
      exact ⟨[], c :: cs, NumberPart.mayEnd_nil.mpr hpart, (demands_deliver _).mp (ih ht), rfl⟩

/-- A piece and what may follow it may follow. -/
theorem demands_of_run (h : run s cs = .ok t) (ht : Demands t rest) : Demands s (cs ++ rest) := by
  -- The first character is the last one that is put in front.
  induction cs generalizing s with
  | nil =>
      cases h
      exact ht
  | cons c cs ih =>
      rw [run_cons] at h
      cases hstep : step s c with
      | error e =>
          rw [hstep] at h
          cases h
      | ok u =>
          rw [hstep] at h
          exact demands_of_moves (moves_of_step hstep) (ih h)

/-- Where a text may end, nothing need follow. -/
theorem demands_nil {d : Datum} (h : finish s = .ok d) : Demands s [] := by
  rcases s with ⟨mode, frames⟩
  cases mode with
  | finished d => exact isGap_nil
  | number use part done =>
      -- A number is the only value that ends with the input, and only when
      -- nothing is open around it.
      cases use with
      | misplaced =>
          simp only [finish] at h
          split at h <;> cases h
      | wanted | ignored =>
          simp only [finish] at h
          split at h
          · cases h
          · rename_i hcomplete
            cases frames with
            | cons f frames => cases h
            | nil =>
                rw [Bool.not_eq_true', Bool.not_eq_false] at hcomplete
                exact ⟨[], [], NumberPart.mayEnd_nil.mpr hcomplete, isGap_nil, rfl⟩
  | value | opened | between | name | nameText | colon | text | word => cases h

end Steps

/-- A text that is accepted, at whatever shape, is a value between white space. -/
theorem isValue_of_readAs? {shape : Shape} {d : Datum} (h : readAs? shape cs = some d) :
    ∃ before v after, IsGap before ∧ IsValue v ∧ IsGap after ∧ cs = before ++ (v ++ after) := by
  rw [readAs?_eq_go] at h
  rcases Option.bind_eq_some_iff.mp h with ⟨s, hs, hfinish⟩
  have hdemands := demands_of_run (ok_of_toOption hs) (demands_nil (ok_of_toOption hfinish))
  rwa [List.append_nil] at hdemands

end Steward.Json
