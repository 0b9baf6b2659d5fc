import Steward.Proofs.Json.Containers
import Mathlib.Logic.Relation

/-!
# Ways to Write a Value

Texts that are read as the same value, though they are not the same text.

A value can be written with more or less white space, and an object with its entries in
any order. If it is an object that is read as a record, it can have entries that no field
asks for, and if the others are those of the first fields in their order, it can be a list
of their values as well. A `Rewrite` does one of these things to a list or an object, and
what is read stays what it was (`Rewrite.reads`).

The list or object may be the whole text or stand deep within it. `Place` tells where, as a
text with a gap for it, and of the text around it only one thing matters: it makes
something of what is read in its gap (`Place.reads`). So whatever is read alike there makes
the same of the whole text, and if nothing is read there, then nothing is read at all. The
second half is what becomes of an object with an entry too many for one of its fields
(`RepeatsField`).

## Main definitions

* `Shape.IsRecord`, `Shape.IsListOf`: Shapes of records and lists, which may be missing.
* `Place`: A place within a text.
* `Rewrite`, `RewriteAt`: A list or an object is written in another way.
* `RepeatsField`, `RepeatsFieldAt`: A field is given twice.

## Theorems

* `membersOf_eq_some`: The members of an object, whatever the order of its entries.
* `Place.reads`: What is read of a text is made of what is read at a place in it.
* `Rewrite.reads`, `reads_of_rewriteAt`: However it is written, a value is read as the same.
* `RepeatsFieldAt.refused`: A field that is given twice is refused wherever it is.
-/

namespace Steward.Json

/-- A record, which may be missing. -/
inductive Shape.IsRecord : Shape → List Field → Prop where
  | record {fields : List Field} : IsRecord (.record fields) fields
  | optional {inner : Shape} {fields : List Field} (h : IsRecord inner fields) :
      IsRecord (.optional inner) fields

/-- A list, which may be missing. -/
inductive Shape.IsListOf : Shape → Shape → Prop where
  | list {item : Shape} : IsListOf (.list item) item
  | optional {inner item : Shape} (h : IsListOf inner item) : IsListOf (.optional inner) item

variable {shape item target : Shape} {fields : List Field} {gap : List Char}

theorem Shape.IsRecord.openObject? (h : shape.IsRecord fields) :
    shape.openObject? = some (true, fields) := by
  induction h with
  | record => rfl
  | optional _ ih => exact ih

theorem Shape.IsRecord.openList? (h : shape.IsRecord fields) :
    shape.openList? = some (.slots fields fields []) := by
  induction h with
  | record => rfl
  | optional _ ih => exact ih

theorem Shape.IsListOf.openList? (h : shape.IsListOf item) :
    shape.openList? = some (.list item []) := by
  induction h with
  | list => rfl
  | optional _ ih => exact ih

section Members

variable {strict : Bool} {given : Members} {es : List Entry} {e : Entry}

/-- The members among some entries, where each entry has one or has none. -/
def knownMembers (strict : Bool) (fields : List Field) (es : List Entry) : Members :=
  es.filterMap fun e => (e.member? strict fields).join

theorem knownMembers_cons {m : Option (String × Datum)} (h : e.member? strict fields = some m) :
    knownMembers strict fields (e :: es) = m.toList ++ knownMembers strict fields es := by
  cases m with
  | none =>
      rw [knownMembers, List.filterMap_cons_none (by rw [h, Option.join_some])]
      rfl
  | some m =>
      rw [knownMembers, List.filterMap_cons_some (by rw [h, Option.join_some])]
      rfl

/-- A member whose name is taken neither by the members so far nor by those to come. -/
theorem lookup_cons_eq_none {m : String × Datum} {ms : Members} :
    (∀ n ∈ ms, (m :: given).lookup n.1 = none) ↔
      m.1 ∉ ms.map Prod.fst ∧ ∀ n ∈ ms, given.lookup n.1 = none := by
  simp only [List.lookup_eq_none_iff, List.forall_mem_cons, bne_iff_ne, List.mem_map, not_exists,
    not_and]
  constructor
  · exact fun h => ⟨fun n hn => (h n hn).1, fun n hn => (h n hn).2⟩
  · exact fun h n hn => ⟨h.1 n hn, h.2 n hn⟩

/-- The members of an object are those of its entries, if each entry can be read and no
    field is given twice. -/
theorem foldlM_takeEntry {all : Members} :
    es.foldlM (takeEntry strict fields) given = some all ↔
      (∀ e ∈ es, (e.member? strict fields).isSome = true) ∧
        ((knownMembers strict fields es).map Prod.fst).Nodup ∧
        (∀ m ∈ knownMembers strict fields es, given.lookup m.1 = none) ∧
        all = (knownMembers strict fields es).reverse ++ given := by
  induction es generalizing given with
  | nil =>
      constructor
      · rintro ⟨⟩
        exact ⟨List.forall_mem_nil _, .nil, List.forall_mem_nil _, rfl⟩
      · rintro ⟨-, -, -, rfl⟩
        rfl
  | cons e es ih =>
      rw [List.foldlM_cons, List.forall_mem_cons, takeEntry]
      cases hm : e.member? strict fields with
      | none => simp
      | some m =>
          rw [knownMembers_cons hm]
          cases m with
          -- An entry with an unknown name adds nothing.
          | none => simpa [addMember] using ih
          | some m =>
              rw [Option.toList_some, List.singleton_append, List.map_cons, List.nodup_cons,
                List.forall_mem_cons, List.reverse_cons, List.append_assoc, Option.bind_some,
                addMember]
              -- The name must not be taken, and once it is, no later entry may have it.
              cases hgiven : given.lookup m.1 with
              | some d => simp
              | none =>
                  rw [Option.isSome_none, if_neg Bool.false_ne_true, Option.bind_eq_bind,
                    Option.bind_some, ih, lookup_cons_eq_none]
                  constructor
                  · rintro ⟨hread, hnodup, ⟨hnew, hfree⟩, hall⟩
                    exact ⟨⟨rfl, hread⟩, ⟨hnew, hnodup⟩, ⟨rfl, hfree⟩, hall⟩
                  · rintro ⟨⟨-, hread⟩, ⟨hnew, hnodup⟩, ⟨-, hfree⟩, hall⟩
                    exact ⟨hread, hnodup, ⟨hnew, hfree⟩, hall⟩

theorem membersOf_eq_some {all : Members} :
    membersOf strict fields es = some all ↔
      (∀ e ∈ es, (e.member? strict fields).isSome = true) ∧
        ((knownMembers strict fields es).map Prod.fst).Nodup ∧
        all = (knownMembers strict fields es).reverse := by
  rw [membersOf, foldlM_takeEntry]
  simp

/-- With every name once, the order of members does not matter. -/
theorem lookup_of_perm {ms ns : Members} (h : ms.Perm ns) (hnodup : (ms.map Prod.fst).Nodup)
    (name : String) : ms.lookup name = ns.lookup name := by
  induction h with
  | nil => rfl
  | cons m _ ih =>
      rw [List.map_cons, List.nodup_cons] at hnodup
      rw [List.lookup_cons, List.lookup_cons, ih hnodup.2]
  | swap m n rest =>
      simp only [List.map_cons, List.nodup_cons, List.mem_cons, not_or] at hnodup
      rw [List.lookup_cons, List.lookup_cons, List.lookup_cons, List.lookup_cons]
      by_cases hm : name = m.1
      · have hn : name ≠ n.1 := fun hn => hnodup.1.1 (hn.symm.trans hm)
        rw [beq_false_of_ne hn]
      · rw [beq_false_of_ne hm]
  | trans h _ ih ihlater =>
      rw [ih hnodup]
      exact ihlater ((h.map Prod.fst).nodup_iff.mp hnodup)

/-- A record is made of its members by their names. -/
theorem assemble_congr {ms ns : Members}
    (h : ∀ name, ms.lookup name = ns.lookup name) : assemble fields ms = assemble fields ns := by
  induction fields with
  | nil => rfl
  | cons f fields ih => rw [assemble, assemble, h, ih]

end Members

/-- An element with another value. -/
def Element.holding (e : Element) (v : List Char) : Element :=
  { e with value := v }

/-- An entry with another value. -/
def Entry.holding (e : Entry) (v : List Char) : Entry :=
  { e with element := e.element.holding v }

theorem Element.IsSpaced.holding {e : Element} (h : e.IsSpaced) (v : List Char) :
    (e.holding v).IsSpaced :=
  ⟨h.before, h.after⟩

theorem Entry.IsSpaced.holding {e : Entry} (h : e.IsSpaced) (v : List Char) :
    (e.holding v).IsSpaced :=
  ⟨h.before, h.key, h.afterKey, h.element.holding v⟩

theorem IsList.insert {as bs : List Element} {e : Element} (h : IsList gap (as ++ bs))
    (he : e.IsSpaced) (hvalue : IsValue e.value) : IsList gap (as ++ e :: bs) where
  gap := h.gap
  spaced := by
    have hspaced := List.forall_mem_append.mp h.spaced
    exact List.forall_mem_append.mpr ⟨hspaced.1, List.forall_mem_cons.mpr ⟨he, hspaced.2⟩⟩
  values := by
    have hvalues := List.forall_mem_append.mp h.values
    exact List.forall_mem_append.mpr ⟨hvalues.1, List.forall_mem_cons.mpr ⟨hvalue, hvalues.2⟩⟩

theorem IsObject.insert {as bs : List Entry} {e : Entry} (h : IsObject gap (as ++ bs))
    (he : e.IsSpaced) (hvalue : IsValue e.element.value) : IsObject gap (as ++ e :: bs) where
  gap := h.gap
  spaced := by
    have hspaced := List.forall_mem_append.mp h.spaced
    exact List.forall_mem_append.mpr ⟨hspaced.1, List.forall_mem_cons.mpr ⟨he, hspaced.2⟩⟩
  values := by
    have hvalues := List.forall_mem_append.mp h.values
    exact List.forall_mem_append.mpr ⟨hvalues.1, List.forall_mem_cons.mpr ⟨hvalue, hvalues.2⟩⟩

section Places

/-- A place within the texts of a shape: the text around it, as what becomes of a value
    that is put there, and the shape at which that value is read. -/
inductive Place : Shape → (List Char → List Char) → Shape → Prop where
  /-- The whole text. -/
  | here {shape : Shape} : Place shape (fun v => v) shape
  /-- Within an item of a list. -/
  | item {shape item target : Shape} {gap : List Char} {as bs : List Element} {e : Element}
      {inside : List Char → List Char} (hshape : shape.IsListOf item)
      (hlist : IsList gap (as ++ bs)) (he : e.IsSpaced) (h : Place item inside target) :
      Place shape (fun v => listText gap (as ++ e.holding (inside v) :: bs)) target
  /-- Within a member of a record. -/
  | member {shape target : Shape} {fields : List Field} {f : Field} {name : String}
      {gap : List Char} {as bs : List Entry} {e : Entry} {inside : List Char → List Char}
      (hshape : shape.IsRecord fields) (hobject : IsObject gap (as ++ bs)) (he : e.IsSpaced)
      (hname : e.name? true = some name) (hfield : fields.find? (·.name == name) = some f)
      (h : Place f.shape inside target) :
      Place shape (fun v => objectText gap (as ++ e.holding (inside v) :: bs)) target
  /-- Within a field of a record that is written as a list. -/
  | field {shape target : Shape} {fs later : List Field} {f : Field} {gap : List Char}
      {as bs : List Element} {e : Element} {inside : List Char → List Char}
      (hshape : shape.IsRecord (fs ++ f :: later)) (hlist : IsList gap (as ++ bs))
      (hlength : as.length = fs.length) (he : e.IsSpaced) (h : Place f.shape inside target) :
      Place shape (fun v => listText gap (as ++ e.holding (inside v) :: bs)) target

variable {text : List Char → List Char} {v w : List Char}

/-- A value at a place in a text makes it a value. -/
theorem Place.isValue (h : Place shape text target) (hv : IsValue v) : IsValue (text v) := by
  induction h with
  | here => exact hv
  | item _ hlist he _ ih => exact (hlist.insert (he.holding _) ih).isValue
  | member _ hobject he _ _ _ ih => exact (hobject.insert (he.holding _) ih).isValue
  | field _ hlist _ he _ ih => exact (hlist.insert (he.holding _) ih).isValue

/-- A list makes something of what is read of one of its elements. -/
theorem readList?_holding {o : Open} {as : List Element} {inner : Shape}
    (hopen : shape.openList? = some o)
    (hawaits : ∀ next, as.foldlM Open.takeElement o = some next →
      ∃ frame, next.awaits = some (inner, frame)) (e : Element) (bs : List Element) :
    ∃ make : Datum → Option Datum, ∀ v,
      readList? shape (as ++ e.holding v :: bs) = (readAs? inner v).bind make := by
  -- What comes before the element can be refused by itself, and is the same for all values.
  cases has : as.foldlM Open.takeElement o with
  | none =>
      refine ⟨fun _ => none, fun v => ?_⟩
      rw [readList?, hopen, Option.bind_some, List.foldlM_append, has, Option.bind_fun_none]
      rfl
  | some next =>
      rcases hawaits next has with ⟨frame, hframe⟩
      refine ⟨fun d => (bs.foldlM Open.takeElement (frame.fill d)).bind fun last =>
        last.value.toOption, fun v => ?_⟩
      rw [readList?, hopen, Option.bind_some, List.foldlM_append, has, Option.bind_eq_bind,
        Option.bind_some, List.foldlM_cons, Open.takeElement, hframe, Option.bind_some,
        Option.bind_eq_bind, Option.bind_assoc, Option.bind_map]
      rfl

/-- An object makes something of what is read of one of its members. -/
theorem readObject?_holding {e : Entry} {name : String} {f : Field}
    (hshape : shape.IsRecord fields) (hname : e.name? true = some name)
    (hfield : fields.find? (·.name == name) = some f) (as bs : List Entry) :
    ∃ make : Datum → Option Datum, ∀ v,
      readObject? shape (as ++ e.holding v :: bs) = (readAs? f.shape v).bind make := by
  have hmember : ∀ v, (e.holding v).member? true fields =
      (readAs? f.shape v).map fun d => some (name, d) := by
    intro v
    rw [Entry.member?, show (e.holding v).name? true = some name from hname, Option.bind_some,
      hfield]
    rfl
  -- The entries in front are read whatever the value is, so they fail or leave the same members.
  cases has : as.foldlM (takeEntry true fields) [] with
  | none =>
      refine ⟨fun _ => none, fun v => ?_⟩
      rw [readObject?, hshape.openObject?, Option.bind_some, membersOf, List.foldlM_append, has,
        Option.bind_fun_none]
      rfl
  | some given =>
      refine ⟨fun d => (addMember given (some (name, d))).bind fun given =>
        (bs.foldlM (takeEntry true fields) given).bind fun all =>
          ((assemble fields all).map Datum.record).toOption, fun v => ?_⟩
      rw [readObject?, hshape.openObject?, Option.bind_some, membersOf, List.foldlM_append, has,
        Option.bind_eq_bind, Option.bind_some, List.foldlM_cons, takeEntry, hmember,
        Option.bind_eq_bind, Option.bind_assoc, Option.bind_assoc, Option.bind_map]
      rfl

/-- The fields of a record that is written as a list come one after the other. -/
theorem awaits_slots {fs later : List Field} {f : Field} {given : Members} {as : List Element}
    {next : Open} (hlength : as.length = fs.length)
    (h : as.foldlM Open.takeElement (.slots fields (fs ++ f :: later) given) = some next) :
    ∃ frame, next.awaits = some (f.shape, frame) := by
  induction as generalizing fs given with
  | nil =>
      -- All slots before the field are filled.
      rw [List.length_nil, eq_comm, List.length_eq_zero_iff] at hlength
      cases h
      rw [hlength]
      exact ⟨_, rfl⟩
  | cons e as ih =>
      cases fs with
      | nil => cases hlength
      | cons g fs =>
          rw [List.foldlM_cons] at h
          rcases Option.bind_eq_some_iff.mp h with ⟨o, ho, h⟩
          rcases Option.map_eq_some_iff.mp ho with ⟨d, -, rfl⟩
          exact ih (Nat.succ.inj hlength) h

/-- The items of a list are all read at one shape. -/
theorem awaits_list {done : List Datum} {as : List Element} {next : Open}
    (h : as.foldlM Open.takeElement (.list item done) = some next) :
    ∃ frame, next.awaits = some (item, frame) := by
  rw [foldlM_takeElement_list] at h
  rcases Option.map_eq_some_iff.mp h with ⟨ds, -, rfl⟩
  exact ⟨_, rfl⟩

/-- What is read of a text is made of what is read at a place in it. -/
theorem Place.reads (h : Place shape text target) :
    ∃ make : Datum → Option Datum, ∀ v, IsValue v →
      readAs? shape (text v) = (readAs? target v).bind make := by
  induction h with
  -- The induction is on the way to the place: each level reads what is around the value, and what
  -- it makes of it is composed with what is made inside.
  | here => exact ⟨some, fun v _ => (Option.bind_fun_some _).symm⟩
  | @item shape item target gap as bs e inside hshape hlist he hplace ih =>
      rcases ih with ⟨make, hmake⟩
      rcases readList?_holding hshape.openList? (fun next => awaits_list) e bs with
        ⟨outside, houtside⟩
      refine ⟨fun d => (make d).bind outside, fun v hv => ?_⟩
      rw [readAs?_listText (hlist.insert (he.holding _) (hplace.isValue hv)), houtside, hmake v hv,
        Option.bind_assoc]
  | @member shape target fields f name gap as bs e inside hshape hobject he hname hfield hplace
      ih =>
      rcases ih with ⟨make, hmake⟩
      rcases readObject?_holding hshape hname hfield as bs with ⟨outside, houtside⟩
      refine ⟨fun d => (make d).bind outside, fun v hv => ?_⟩
      rw [readAs?_objectText (hobject.insert (he.holding _) (hplace.isValue hv)), houtside,
        hmake v hv, Option.bind_assoc]
  | @field shape target fs later f gap as bs e inside hshape hlist hlength he hplace ih =>
      rcases ih with ⟨make, hmake⟩
      rcases readList?_holding hshape.openList? (fun next => awaits_slots hlength) e bs with
        ⟨outside, houtside⟩
      refine ⟨fun d => (make d).bind outside, fun v hv => ?_⟩
      rw [readAs?_listText (hlist.insert (he.holding _) (hplace.isValue hv)), houtside, hmake v hv,
        Option.bind_assoc]

end Places

section Rewriting

/-- What an entry has apart from white space. -/
def Entry.content (e : Entry) : List Char × List Char :=
  (e.key, e.element.value)

/-- A list or an object is written in another way. -/
inductive Rewrite (shape : Shape) : List Char → List Char → Prop where
  /-- A list with other white space in it. -/
  | spacedList {gap gap' : List Char} {es es' : List Element} (h : IsList gap es)
      (h' : IsList gap' es') (hsame : es.map Element.value = es'.map Element.value) :
      Rewrite shape (listText gap es) (listText gap' es')
  /-- An object with other white space in it. -/
  | spacedObject {gap gap' : List Char} {es es' : List Entry} (h : IsObject gap es)
      (h' : IsObject gap' es') (hsame : es.map Entry.content = es'.map Entry.content) :
      Rewrite shape (objectText gap es) (objectText gap' es')
  /-- An object with its entries in another order. -/
  | reordered {gap : List Char} {es es' : List Entry} (h : IsObject gap es)
      (hperm : es.Perm es') : Rewrite shape (objectText gap es) (objectText gap es')
  /-- A record with one more entry, whose name is that of no field. -/
  | inserted {fields : List Field} {name : String} {gap : List Char} {as bs : List Entry}
      {e : Entry} (hshape : shape.IsRecord fields) (h : IsObject gap (as ++ bs))
      (he : e.IsSpaced) (hvalue : IsValue e.element.value) (hname : e.name? true = some name)
      (hunknown : ∀ f ∈ fields, f.name ≠ name) :
      Rewrite shape (objectText gap (as ++ bs)) (objectText gap (as ++ e :: bs))
  /-- A record as a list, if its entries are those of its first fields in their order. -/
  | positional {fields : List Field} {gap gap' : List Char} {es : List Entry}
      {ds : List Element} (hshape : shape.IsRecord fields)
      (hdistinct : (fields.map Field.name).Nodup) (h : IsObject gap es)
      (hnames : es.map (Entry.name? true) <+: fields.map fun f => some f.name)
      (h' : IsList gap' ds) (hvalues : ds.map Element.value = es.map (·.element.value)) :
      Rewrite shape (objectText gap es) (listText gap' ds)

variable {v w : List Char}

theorem IsObject.perm {es es' : List Entry} (h : IsObject gap es) (hperm : es.Perm es') :
    IsObject gap es' :=
  ⟨h.gap, fun e he => h.spaced e (hperm.mem_iff.mpr he),
    fun e he => h.values e (hperm.mem_iff.mpr he)⟩

theorem Rewrite.isValue (h : Rewrite shape v w) : IsValue v ∧ IsValue w := by
  cases h with
  | spacedList h h' _ => exact ⟨h.isValue, h'.isValue⟩
  | spacedObject h h' _ => exact ⟨h.isValue, h'.isValue⟩
  | reordered h hperm => exact ⟨h.isValue, (h.perm hperm).isValue⟩
  | inserted _ h he hvalue _ _ => exact ⟨h.isValue, (h.insert he hvalue).isValue⟩
  | positional _ _ h _ h' _ => exact ⟨h.isValue, h'.isValue⟩

/-- A fold that looks at one side of the items only. -/
theorem foldlM_of_map_eq {α β σ : Type} {f : α → β} {g : σ → β → Option σ} {as bs : List α}
    (h : as.map f = bs.map f) (s : σ) :
    as.foldlM (fun s a => g s (f a)) s = bs.foldlM (fun s a => g s (f a)) s := by
  rw [← List.foldlM_map, h, List.foldlM_map]

theorem readList?_spaced {es es' : List Element}
    (h : es.map Element.value = es'.map Element.value) (shape : Shape) :
    readList? shape es = readList? shape es' := by
  have hfold : ∀ o : Open, es.foldlM Open.takeElement o = es'.foldlM Open.takeElement o :=
    foldlM_of_map_eq (g := fun o v => Open.takeElement o ⟨[], v, []⟩) h
  simp only [readList?, hfold]

theorem readObject?_spaced {es es' : List Entry}
    (h : es.map Entry.content = es'.map Entry.content) (shape : Shape) :
    readObject? shape es = readObject? shape es' := by
  have hfold : ∀ strict fields,
      es.foldlM (takeEntry strict fields) [] = es'.foldlM (takeEntry strict fields) [] :=
    fun strict fields => foldlM_of_map_eq
      (g := fun given (p : List Char × List Char) =>
        takeEntry strict fields given ⟨[], p.1, [], ⟨[], p.2, []⟩⟩) h []
  simp only [readObject?, membersOf, hfold]

/-- Entries in another order have the same members in another order. -/
theorem readObject?_of_perm {es es' : List Entry} (h : es.Perm es') {d : Datum}
    (hread : readObject? shape es = some d) : readObject? shape es' = some d := by
  rcases Option.bind_eq_some_iff.mp hread with ⟨⟨strict, fields⟩, ho, hread⟩
  rcases Option.bind_eq_some_iff.mp hread with ⟨all, hall, hassemble⟩
  rcases membersOf_eq_some.mp hall with ⟨hentries, hnodup, rfl⟩
  -- The members come in another order too, but a record looks them up by their names.
  have hknown : (knownMembers strict fields es).Perm (knownMembers strict fields es') :=
    h.filterMap _
  have hall' : membersOf strict fields es' = some (knownMembers strict fields es').reverse :=
    membersOf_eq_some.mpr ⟨fun e he => hentries e (h.mem_iff.mpr he),
      (hknown.map Prod.fst).nodup_iff.mp hnodup, rfl⟩
  have hreverse : (knownMembers strict fields es).reverse.Perm
      (knownMembers strict fields es').reverse :=
    (List.reverse_perm _).trans (hknown.trans (List.reverse_perm _).symm)
  have hlookup := lookup_of_perm hreverse (by
    rw [List.map_reverse]
    exact (List.reverse_perm _).nodup_iff.mpr hnodup)
  rw [readObject?, ho, Option.bind_some, hall', Option.bind_some, ← assemble_congr hlookup]
  exact hassemble

/-- An entry that no field asks for changes nothing. -/
theorem readObject?_inserted {as bs : List Entry} {e : Entry} {name : String}
    (hshape : shape.IsRecord fields) (hvalue : IsValue e.element.value)
    (hname : e.name? true = some name) (hunknown : ∀ f ∈ fields, f.name ≠ name) :
    readObject? shape (as ++ e :: bs) = readObject? shape (as ++ bs) := by
  have hfind : fields.find? (·.name == name) = none :=
    List.find?_eq_none.mpr fun f hf => by simpa using hunknown f hf
  rcases Option.isSome_iff_exists.mp hvalue.isSome_readAs?_any with ⟨d, hd⟩
  have htake : ∀ given, takeEntry true fields given e = some given := by
    intro given
    rw [takeEntry, Entry.member?, hname, Option.bind_some, hfind, hd]
    rfl
  have hmembers : membersOf true fields (as ++ e :: bs) = membersOf true fields (as ++ bs) := by
    simp only [membersOf, List.foldlM_append, List.foldlM_cons, htake, Option.bind_eq_bind,
      Option.bind_some]
  rw [readObject?, readObject?, hshape.openObject?, Option.bind_some, Option.bind_some, hmembers]

/-- Fields of different names are found by their names. -/
theorem find?_name {f : Field} (hdistinct : (fields.map Field.name).Nodup) (hf : f ∈ fields) :
    fields.find? (·.name == f.name) = some f := by
  induction fields with
  | nil => cases hf
  | cons g fields ih =>
      rw [List.map_cons, List.nodup_cons] at hdistinct
      rcases List.mem_cons.mp hf with rfl | hf
      · exact List.find?_cons_of_pos (beq_self_eq_true _)
      · have hne : g.name ≠ f.name := fun h => hdistinct.1 (h ▸ List.mem_map_of_mem hf)
        rw [List.find?_cons_of_neg (by simpa using hne)]
        exact ih hdistinct.2 hf

/-- Entries for the next fields in their order do what the list of their values does. -/
theorem foldlM_takeElement_slots {later : List Field} {given : Members} {es : List Entry}
    {ds : List Element} (hnames : es.map (Entry.name? true) <+: later.map fun f => some f.name)
    (hvalues : ds.map Element.value = es.map (·.element.value))
    (hfind : ∀ f ∈ later, fields.find? (·.name == f.name) = some f)
    (hdistinct : (later.map Field.name).Nodup)
    (hnew : ∀ f ∈ later, given.lookup f.name = none) :
    ds.foldlM Open.takeElement (.slots fields later given) =
      (es.foldlM (takeEntry true fields) given).map
        fun all => .slots fields (later.drop es.length) all := by
  -- Field, entry and element go along together.
  induction es generalizing later given ds with
  | nil =>
      rw [List.map_nil, List.map_eq_nil_iff] at hvalues
      rw [hvalues]
      rfl
  | cons e es ih =>
      cases later with
      | nil => exact absurd (List.prefix_nil.mp hnames) (List.cons_ne_nil _ _)
      | cons f later =>
          rw [List.map_cons, List.map_cons, List.cons_prefix_cons] at hnames
          rw [List.map_cons, List.nodup_cons] at hdistinct
          rw [List.forall_mem_cons] at hfind hnew
          rw [List.map_cons] at hvalues
          rcases List.map_eq_cons_iff.mp hvalues with ⟨d, ds, rfl, hd, hds⟩
          -- The entry has the name of the field whose slot comes next, so both
          -- read the same value alike.
          have hmember : e.member? true fields =
              (readAs? f.shape e.element.value).map fun x => some (f.name, x) := by
            rw [Entry.member?, hnames.1, Option.bind_some, hfind.1]
          rw [List.foldlM_cons, List.foldlM_cons, Open.takeElement, Open.awaits, Option.bind_some,
            takeEntry, hmember, hd]
          cases readAs? f.shape e.element.value with
          | none => rfl
          | some x =>
              simp only [Option.map_some, Option.bind_eq_bind, Option.bind_some, addMember,
                hnew.1, Option.isSome_none, Bool.false_eq_true, if_false, Frame.fill]
              refine ih hnames.2 hds hfind.2 hdistinct.2 fun g hg => ?_
              -- The field is now given, and the later ones have other names.
              have hne : g.name ≠ f.name := fun h => hdistinct.1 (h ▸ List.mem_map_of_mem hg)
              rw [List.lookup_cons, beq_false_of_ne hne]
              exact hnew.2 g hg

/-- A record as a list is the record. -/
theorem readList?_positional {es : List Entry} {ds : List Element}
    (hshape : shape.IsRecord fields) (hdistinct : (fields.map Field.name).Nodup)
    (hnames : es.map (Entry.name? true) <+: fields.map fun f => some f.name)
    (hvalues : ds.map Element.value = es.map (·.element.value)) :
    readList? shape ds = readObject? shape es := by
  rw [readList?, readObject?, hshape.openList?, hshape.openObject?, Option.bind_some,
    Option.bind_some, membersOf,
    foldlM_takeElement_slots hnames hvalues (fun f => find?_name hdistinct) hdistinct
      (fun _ _ => rfl), Option.bind_map]
  rfl

/-- A list or an object is read as the same however it is written. -/
theorem Rewrite.reads (h : Rewrite shape v w) : readAs? shape v = readAs? shape w := by
  cases h with
  | spacedList h h' hsame =>
      rw [readAs?_listText h, readAs?_listText h', readList?_spaced hsame]
  | spacedObject h h' hsame =>
      rw [readAs?_objectText h, readAs?_objectText h', readObject?_spaced hsame]
  | reordered h hperm =>
      rw [readAs?_objectText h, readAs?_objectText (h.perm hperm)]
      exact Option.ext fun d =>
        ⟨readObject?_of_perm hperm, readObject?_of_perm hperm.symm⟩
  | inserted hshape h he hvalue hname hunknown =>
      rw [readAs?_objectText h, readAs?_objectText (h.insert he hvalue),
        readObject?_inserted hshape hvalue hname hunknown]
  | positional hshape hdistinct h hnames h' hvalues =>
      rw [readAs?_objectText h, readAs?_listText h',
        readList?_positional hshape hdistinct hnames hvalues]

/-- A list or an object at some place in a text is written in another way. -/
inductive RewriteAt (shape : Shape) : List Char → List Char → Prop where
  | place {text : List Char → List Char} {target : Shape} {v w : List Char}
      (hplace : Place shape text target) (h : Rewrite target v w) :
      RewriteAt shape (text v) (text w)

theorem Rewrite.whole (h : Rewrite shape v w) : RewriteAt shape v w :=
  .place .here h

/-- Texts that can be turned into each other are read as the same, and if one of them is a
    value, so is the other. -/
theorem reads_of_rewriteAt (h : Relation.EqvGen (RewriteAt shape) v w) :
    (IsValue v ↔ IsValue w) ∧ readAs? shape v = readAs? shape w := by
  induction h with
  | rel _ _ h =>
      cases h with
      | @place text target v w hplace h =>
          rcases hplace.reads with ⟨make, hmake⟩
          refine ⟨iff_of_true (hplace.isValue h.isValue.1) (hplace.isValue h.isValue.2), ?_⟩
          rw [hmake v h.isValue.1, hmake w h.isValue.2, h.reads]
  | refl => exact ⟨Iff.rfl, rfl⟩
  | symm _ _ _ ih => exact ⟨ih.1.symm, ih.2.symm⟩
  | trans _ _ _ _ _ ih ihlater => exact ⟨ih.1.trans ihlater.1, ih.2.trans ihlater.2⟩

end Rewriting

section Repeating

/-- An object in which two entries are for the same field. -/
inductive RepeatsField (shape : Shape) : List Char → Prop where
  | twice {fields : List Field} {f : Field} {gap : List Char} {es : List Entry} {a b : Entry}
      (hshape : shape.IsRecord fields) (h : IsObject gap es) (hpair : [a, b].Sublist es)
      (hf : f ∈ fields) (ha : a.name? true = some f.name) (hb : b.name? true = some f.name) :
      RepeatsField shape (objectText gap es)

/-- There is such an object at some place in a text. -/
inductive RepeatsFieldAt (shape : Shape) : List Char → Prop where
  | place {text : List Char → List Char} {target : Shape} {v : List Char}
      (hplace : Place shape text target) (h : RepeatsField target v) :
      RepeatsFieldAt shape (text v)

variable {v : List Char}

theorem RepeatsField.isValue (h : RepeatsField shape v) : IsValue v := by
  cases h with
  | twice _ h _ _ _ _ => exact h.isValue

theorem RepeatsField.whole (h : RepeatsField shape v) : RepeatsFieldAt shape v :=
  .place .here h

/-- An entry with the name of a field gives that field. -/
theorem member?_of_field {e : Entry} {f : Field} (hf : f ∈ fields)
    (hname : e.name? true = some f.name) (hread : (e.member? true fields).isSome = true) :
    ∃ d, e.member? true fields = some (some (f.name, d)) := by
  rw [Entry.member?, hname, Option.bind_some] at hread ⊢
  cases hfind : fields.find? (·.name == f.name) with
  | none => exact absurd (beq_self_eq_true f.name) (List.find?_eq_none.mp hfind f hf)
  | some g =>
      rw [hfind] at hread
      rcases Option.isSome_iff_exists.mp hread with ⟨m, hm⟩
      rcases Option.map_eq_some_iff.mp hm with ⟨d, hd, rfl⟩
      exact ⟨d, by rw [← hm]⟩

/-- A field that is given twice is refused. -/
theorem RepeatsField.refused (h : RepeatsField shape v) : readAs? shape v = none := by
  cases h with
  | @twice fields f gap es a b hshape h hpair hf ha hb =>
      rw [readAs?_objectText h, readObject?, hshape.openObject?, Option.bind_some]
      cases hall : membersOf true fields es with
      | none => rfl
      | some all =>
          rcases membersOf_eq_some.mp hall with ⟨hentries, hnodup, -⟩
          rcases member?_of_field hf ha (hentries a (hpair.subset (by simp))) with ⟨x, hx⟩
          rcases member?_of_field hf hb (hentries b (hpair.subset (by simp))) with ⟨y, hy⟩
          -- Both entries are among the members, which have every name once.
          have hknown : [(f.name, x), (f.name, y)].Sublist (knownMembers true fields es) := by
            have hsub := hpair.filterMap fun e => (e.member? true fields).join
            simpa [hx, hy, knownMembers] using hsub
          have htwice := (hknown.map Prod.fst).nodup hnodup
          simp at htwice

/-- A field that is given twice is refused wherever it is. -/
theorem RepeatsFieldAt.refused (h : RepeatsFieldAt shape v) :
    IsValue v ∧ readAs? shape v = none := by
  cases h with
  | @place text target v hplace h =>
      rcases hplace.reads with ⟨make, hmake⟩
      refine ⟨hplace.isValue h.isValue, ?_⟩
      rw [hmake v h.isValue, h.refused, Option.bind_none]

end Repeating

end Steward.Json
