import Mathlib.Data.List.Forall2
import Mathlib.Data.List.Induction
import Steward.Signal

/-!
# Lists of Signals

What a text between whose commas signals are named is read as.

Three things happen to such a text. It is cut at the commas, and what is blank of it is
passed over. Every other part is looked up as a name, from the first on, and the first
that is nobody's name is the end of it. What is left then is a list of signals in which
each is kept where it occurs first. The first two are the library's own `splitOn` and a
`mapM`, so a text is accepted exactly when all its parts are, and refused for the first
that is not.

The third is what makes two lists one. Where a signal is kept depends on all that stand
before it, and still it does not matter whether a list has been reduced before others
are put behind it (`keepFirst_append_keepFirst`), since all that later signals ask of it
is which are in it. So a comma between two texts stands for putting the second list
behind the first.

## Main definitions

* `FirstOccurrences`: The members of a list in the order in which they first occur.
* `Signals.Names`: A part of a text names a signal.
* `Signals.named`: The parts of a text that have to name signals.

## Theorems

* `keepFirst_concat`: What one more member does to the first occurrences.
* `firstOccurrences_keepFirst`: They are what is kept.
* `Signals.parseParts_cases`: The parts are read up to the first that names nothing.
* `Signals.parse_comma`: Two texts with a comma between them.
* `Signals.read_part_by_part`: What a text is read as.
-/

namespace Steward

/-- The members of a list, each once, in the order in which they first occur in it. -/
structure FirstOccurrences {α : Type} [DecidableEq α] (given kept : List α) : Prop where
  mem_iff : ∀ a, a ∈ kept ↔ a ∈ given
  inOrder : kept.Pairwise fun a b => given.idxOf a < given.idxOf b

section KeepFirst

variable {α : Type} [DecidableEq α]

/-- What stands behind a list adds what the list does not have. -/
theorem keepFirst_append (l m : List α) :
    keepFirst (l ++ m) = keepFirst l ++ (keepFirst m).filter fun a => decide (a ∉ l) := by
  induction l with
  | nil => simp [keepFirst]
  | cons a rest ih =>
      rw [List.cons_append, keepFirst, keepFirst, ih, List.filter_append, List.filter_filter,
        List.cons_append]
      congr 3
      funext b
      rw [← Bool.decide_and, decide_eq_decide, List.mem_cons, not_or]

/-- One more member is kept, behind all others, unless it is there already. -/
theorem keepFirst_concat (l : List α) (a : α) :
    keepFirst (l ++ [a]) = if a ∈ l then keepFirst l else keepFirst l ++ [a] := by
  rw [keepFirst_append]
  by_cases h : a ∈ l <;> simp [keepFirst, h]

theorem keepFirst_of_nodup {l : List α} (h : l.Nodup) : keepFirst l = l := by
  induction l with
  | nil => rfl
  | cons a rest ih =>
      rw [List.nodup_cons] at h
      have hother : ∀ b ∈ rest, decide (b ≠ a) = true := fun b hb =>
        decide_eq_true fun heq => h.1 (heq ▸ hb)
      rw [keepFirst, ih h.2, List.filter_eq_self.mpr hother]

/-- It does not matter whether two lists are reduced before one is put behind the
    other. -/
theorem keepFirst_append_keepFirst (l m : List α) :
    keepFirst (keepFirst l ++ keepFirst m) = keepFirst (l ++ m) := by
  rw [keepFirst_append, keepFirst_append, keepFirst_of_nodup (keepFirst_nodup l),
    keepFirst_of_nodup (keepFirst_nodup m)]
  simp only [mem_keepFirst]

/-- What is kept are the first occurrences. -/
theorem firstOccurrences_keepFirst (l : List α) : FirstOccurrences l (keepFirst l) where
  mem_iff _ := mem_keepFirst
  inOrder := by
    -- From the end, since a member put there moves none of those before it.
    induction l using List.reverseRecOn with
    | nil => exact List.Pairwise.nil
    | append_singleton l a ih =>
        have hsame : (keepFirst l).Pairwise fun b c => (l ++ [a]).idxOf b < (l ++ [a]).idxOf c := by
          refine ih.imp_of_mem fun {b c} hb hc hlt => ?_
          rw [List.idxOf_append_of_mem (mem_keepFirst.mp hb),
            List.idxOf_append_of_mem (mem_keepFirst.mp hc)]
          exact hlt
        rw [keepFirst_concat]
        by_cases hmem : a ∈ l
        · rw [if_pos hmem]
          exact hsame
        · rw [if_neg hmem, List.pairwise_append]
          refine ⟨hsame, List.pairwise_singleton _ _, fun b hb c hc => ?_⟩
          rw [List.mem_singleton.mp hc, List.idxOf_append_of_mem (mem_keepFirst.mp hb),
            List.idxOf_append_of_notMem hmem]
          exact Nat.lt_add_right _ (List.idxOf_lt_length_of_mem (mem_keepFirst.mp hb))

end KeepFirst

/-- Cutting a text at a character is what the library does under this name. -/
theorem Text.pieces_eq_splitOn (sep : Char) (cs : List Char) :
    Text.pieces sep cs = cs.splitOn sep := by
  induction cs with
  | nil => rfl
  | cons c rest ih =>
      rw [List.splitOn, List.splitOnP_cons_eq_if_modifyHead, ← List.splitOn, ← ih, Text.pieces]
      by_cases h : c = sep
      · rw [if_pos h, if_pos (beq_iff_eq.mpr h)]
      · rw [if_neg h, if_neg (mt beq_iff_eq.mp h)]
        cases hpieces : Text.pieces sep rest with
        | nil => exact absurd hpieces (Text.pieces_ne_nil sep rest)
        | cons first others => rfl

namespace Signals

/-- A part of a text names a signal: trimmed and in small letters it is one of the names
    of the signal. -/
def Names (part : List Char) (s : Signal) : Prop :=
  Signal.normalName part ∈ s.names

/-- The parts between the commas of a text of which something is left once they are
    trimmed. -/
def named (text : String) : List (List Char) :=
  (text.toList.splitOn ',').filter fun part => decide (Text.trim part ≠ [])

theorem parts_eq_named (text : String) : parts text.toList = named text := by
  rw [parts, named, Text.pieces_eq_splitOn]
  refine List.filter_congr fun part _ => ?_
  rw [Bool.eq_iff_iff, Bool.not_eq_true', decide_eq_true_eq, ne_eq, Text.trim_eq_nil_iff,
    Bool.not_eq_true]

theorem mem_named {text : String} {part : List Char} :
    part ∈ named text ↔ part ∈ text.toList.splitOn ',' ∧ Text.trim part ≠ [] := by
  rw [named, List.mem_filter, decide_eq_true_eq]

/-- A name is looked up to the one signal that has it. -/
theorem ofName?_eq_some_iff {name : String} {s : Signal} :
    Signal.ofName? name = some s ↔ name ∈ s.names := by
  constructor
  · intro h
    have hcontains := List.find?_some h
    exact List.contains_iff_mem.mp hcontains
  · intro h
    cases s <;>
      simp only [Signal.names, List.mem_cons, List.not_mem_nil, or_false] at h <;>
      rcases h with rfl | rfl | rfl <;> rfl

theorem parse_eq_ok_iff {part : List Char} {s : Signal} :
    Signal.parse part = .ok s ↔ Names part s := by
  rw [Names, ← ofName?_eq_some_iff, Signal.parse]
  cases Signal.ofName? (Signal.normalName part) <;> simp

/-- What is nobody's name is refused as it was looked up. -/
theorem parse_of_unnamed {part : List Char} (h : ∀ s, ¬Names part s) :
    Signal.parse part = .error ⟨Signal.normalName part⟩ := by
  rw [Signal.parse]
  cases hname : Signal.ofName? (Signal.normalName part) with
  | none => rfl
  | some s => exact absurd (ofName?_eq_some_iff.mp hname) (h s)

/-- All parts name signals, or there is a first that names none, and the reading ends
    there. -/
theorem parseParts_cases (ps : List (List Char)) :
    (∃ given, ps.mapM Signal.parse = .ok given ∧ List.Forall₂ Names ps given) ∨
    ∃ before bad after, ps = before ++ bad :: after ∧ (∀ part ∈ before, ∃ s, Names part s) ∧
      (∀ s, ¬Names bad s) ∧ ps.mapM Signal.parse = .error ⟨Signal.normalName bad⟩ := by
  induction ps with
  | nil => exact Or.inl ⟨[], rfl, .nil⟩
  | cons part rest ih =>
      by_cases hpart : ∃ s, Names part s
      · rcases hpart with ⟨s, hs⟩
        -- A part that is a name comes before the names of the rest, and does not
        -- change where the reading fails.
        have hcons : (part :: rest).mapM Signal.parse =
            (rest.mapM Signal.parse).map (s :: ·) := by
          rw [List.mapM_cons, parse_eq_ok_iff.mpr hs]
          cases rest.mapM Signal.parse <;> rfl
        rcases ih with ⟨given, hread, hgiven⟩ | ⟨before, bad, after, hps, hbefore, hbad, hread⟩
        · refine Or.inl ⟨s :: given, ?_, .cons hs hgiven⟩
          rw [hcons, hread]
          rfl
        · refine Or.inr ⟨part :: before, bad, after, ?_, ?_, hbad, ?_⟩
          · rw [hps, List.cons_append]
          · exact List.forall_mem_cons.mpr ⟨⟨s, hs⟩, hbefore⟩
          · rw [hcons, hread]
            rfl
      · -- The first part is no name, so the reading fails with it and looks at none of the rest.
        have hunnamed : ∀ s, ¬Names part s := fun s hs => hpart ⟨s, hs⟩
        refine Or.inr ⟨[], part, rest, rfl, List.forall_mem_nil _, hunnamed, ?_⟩
        rw [List.mapM_cons, parse_of_unnamed hunnamed]
        rfl

theorem parse_eq (text : String) :
    parse text.toList = ((named text).mapM Signal.parse).map ofList := by
  rw [parse, parts_eq_named]

/-- The signals of one list behind those of another, once both are reduced. -/
theorem ofList_append_ofList (l m : List Signal) :
    ofList ((ofList l).list ++ (ofList m).list) = ofList (l ++ m) := by
  simp only [ofList, keepFirst_append_keepFirst]

/-- Two texts with a comma between them are read one after the other. -/
theorem parse_comma (as bs : List Char) :
    parse (as ++ ',' :: bs) = do
      let a ← parse as
      let b ← parse bs
      return ofList (a.list ++ b.list) := by
  have hparts : parts (as ++ ',' :: bs) = parts as ++ parts bs := by
    rw [parts, Text.pieces_append_sep, List.filter_append, parts, parts]
  rw [parse, parse, parse, hparts, List.mapM_append]
  cases (parts as).mapM Signal.parse with
  | error e => rfl
  | ok l =>
      cases (parts bs).mapM Signal.parse with
      | error e => rfl
      | ok m => exact congrArg Except.ok (ofList_append_ofList l m).symm

/-- A text is read as a list of signals exactly when every part between its commas that
    is not blank names one. The list then has the signals that are named, each where it
    is named first. Otherwise the refusal has the first part that names none, trimmed and
    in small letters. And a comma between two texts puts the signals of the second behind
    those of the first, unless one of the texts is refused. -/
theorem read_part_by_part :
    (∀ text : String,
      ((∃ set, parse text.toList = .ok set) ↔
        ∀ part ∈ text.toList.splitOn ',', Text.trim part ≠ [] → ∃ s, Names part s) ∧
      (∀ set, parse text.toList = .ok set → ∃ given,
        List.Forall₂ Names (named text) given ∧ FirstOccurrences given set.list) ∧
      ∀ e, parse text.toList = .error e → ∃ before bad after,
        named text = before ++ bad :: after ∧ (∀ part ∈ before, ∃ s, Names part s) ∧
        (∀ s, ¬Names bad s) ∧ e.name = Signal.normalName bad) ∧
    ∀ a b : String, parse (a ++ "," ++ b).toList = do
      let first ← parse a.toList
      let second ← parse b.toList
      return ofList (first.list ++ second.list) := by
  refine ⟨fun text => ?_, fun a b => ?_⟩
  · have hall : (∀ part ∈ named text, ∃ s, Names part s) ↔
        ∀ part ∈ text.toList.splitOn ',', Text.trim part ≠ [] → ∃ s, Names part s := by
      simp only [mem_named, and_imp]
    rw [← hall, parse_eq]
    rcases parseParts_cases (named text) with
      ⟨given, hread, hgiven⟩ | ⟨before, bad, after, hnamed, hbefore, hbad, hread⟩
    · rw [hread]
      -- Every part is a name: the set holds their first occurrences.
      refine ⟨⟨fun _ part hpart => ?_, fun _ => ⟨_, rfl⟩⟩, fun set hset => ?_, fun e he => ?_⟩
      · rcases List.forall₂_iff_get.mp hgiven with ⟨hlength, hget⟩
        rcases List.get_of_mem hpart with ⟨i, rfl⟩
        exact ⟨_, hget i i.isLt (hlength ▸ i.isLt)⟩
      · cases hset
        exact ⟨given, hgiven, firstOccurrences_keepFirst given⟩
      · cases he
    · rw [hread]
      -- One part is none, and so there is no set.
      refine ⟨⟨fun h => ?_, fun h => ?_⟩, fun set hset => ?_, fun e he => ?_⟩
      · rcases h with ⟨_, hset⟩
        cases hset
      · rcases h bad (hnamed ▸ List.mem_append_right before List.mem_cons_self) with ⟨s, hs⟩
        exact absurd hs (hbad s)
      · cases hset
      · cases he
        exact ⟨before, bad, after, hnamed, hbefore, hbad, rfl⟩
  · have htext : (a ++ "," ++ b).toList = a.toList ++ ',' :: b.toList := by
      rw [String.toList_append, String.toList_append, List.append_assoc]
      rfl
    rw [htext, parse_comma]

/-- A signal under two of its names, with a part between that is blank. And a name that
    no signal has, behind one that a signal has. -/
theorem read_part_by_part_alias_and_stranger :
    (∃ given, List.Forall₂ Names (named "INT, term,\u00a0,interrupt") given ∧
      FirstOccurrences given [.interrupt, .terminate]) ∧
    (∃ before bad after, named "hup,, Bogus " = before ++ bad :: after ∧
      (∀ part ∈ before, ∃ s, Names part s) ∧ (∀ s, ¬Names bad s) ∧
      "bogus" = Signal.normalName bad) ∧
    parse ("INT, term,\u00a0,interrupt" ++ "," ++ "hup,, Bogus ").toList = .error ⟨"bogus"⟩ := by
  have hread : parse "INT, term,\u00a0,interrupt".toList = .ok standard := by rfl
  have hrefused : parse "hup,, Bogus ".toList = .error ⟨"bogus"⟩ := by rfl
  refine ⟨(read_part_by_part.1 _).2.1 _ hread, (read_part_by_part.1 _).2.2 _ hrefused, ?_⟩
  rw [read_part_by_part.2, hread, hrefused]
  rfl

end Signals

end Steward
