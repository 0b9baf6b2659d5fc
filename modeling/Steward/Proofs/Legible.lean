import Steward.Failure.Text

/-!
# Reading a Failure off Its Text

That the text of a failure tells what it was made from.

The causes of a cause stand in the text just as the causes do, without any indentation
that would tell them apart. What tells them apart is the blank line at the end of every
list: a failure with findings or causes ends in a line end of its own, and the list that
it is in adds another. So a text can be read line by line. The last word of the first
line says what follows. Each finding has a line, and a second one exactly if it has a
path. A list of causes goes on with a dash or is over.

Two things must not be in the way. A line end within a message would begin a line that
nobody has written, and within a path `>` stands between the segments. A failure is
`Legible` if neither occurs where it would matter, and if all that stands behind it are
failures again, because of any other cause the text is all there is.

What cannot be told from the text is where in the header the subsystem ends, and whether
findings are unset or none. So two failures are `Alike` if their headers and findings are
the same and their causes are alike, and just this is what equal texts mean
(`text_eq_iff_alike`).

The induction is on the failure, for every text that may follow. The lists of causes are
read beside it, and there a following text is what remains of the list.

## Main definitions

* `Failure.Legible`: Nothing in a failure looks like a part of the layout.
* `Failure.Alike`: Two failures say the same.
* `Failure.opening`, `Failure.underneath`: The first line of a text, and the rest.

## Theorems

* `cut_inj`: Two texts can be cut where a letter stands first.
* `Finding.segments_inj`, `Finding.lines_inj`: Paths and findings can be read off.
* `Failure.opening_inj`: The first line tells what follows it.
* `Failure.Legible.reads`: A failure can be read off what begins with its text.
* `text_eq_iff_alike`: The text of a failure tells what it was made from.
-/

namespace Steward

/-- A text without a line end. -/
def IsOneLine (s : String) : Prop :=
  '\n' ∉ s.toList

instance (s : String) : Decidable (IsOneLine s) :=
  inferInstanceAs (Decidable ('\n' ∉ s.toList))

/-- A finding whose message and path have no line end, and whose path can be taken
    apart. -/
structure Finding.Legible (x : Finding) : Prop where
  message : IsOneLine x.message
  segments : ∀ segment ∈ x.path, IsOneLine segment
  unsplit : ∀ segment ∈ x.path, '>' ∉ segment.toList

mutual

/-- A failure in which nothing looks like a part of the layout, also in what stands
    behind it. -/
inductive Failure.Legible : Failure → Prop where
  | of {f : Failure} (subsystem : IsOneLine f.subsystem) (message : IsOneLine f.message)
      (findings : ∀ x ∈ f.findingList, x.Legible) (causes : Cause.AllLegible f.causes) :
      Failure.Legible f

/-- Causes that are legible failures. -/
inductive Cause.AllLegible : List Cause → Prop where
  | nil : Cause.AllLegible []
  | cons {f : Failure} {more : List Cause} (first : Failure.Legible f)
      (rest : Cause.AllLegible more) : Cause.AllLegible (.failure f :: more)

end

mutual

/-- Failures with the same header and findings, and with causes that are alike. -/
inductive Failure.Alike : Failure → Failure → Prop where
  | of {f g : Failure} (header : f.header = g.header)
      (findings : f.findingList = g.findingList) (causes : Cause.AllAlike f.causes g.causes) :
      Failure.Alike f g

/-- As many failures on both sides, alike one by one. -/
inductive Cause.AllAlike : List Cause → List Cause → Prop where
  | nil : Cause.AllAlike [] []
  | cons {f g : Failure} {more more' : List Cause} (first : Failure.Alike f g)
      (rest : Cause.AllAlike more more') :
      Cause.AllAlike (.failure f :: more) (.failure g :: more')

end

/-- Two texts that go on behind their first `x` agree before and behind it. -/
theorem cut_inj {α : Type} {x : α} : ∀ {a c b d : List α}, x ∉ a → x ∉ c →
    a ++ x :: b = c ++ x :: d → a = c ∧ b = d
  | [], [], _, _, _, _, h => ⟨rfl, (List.cons.inj h).2⟩
  | [], y :: _, _, _, _, hc, h => by
      rw [List.nil_append, List.cons_append] at h
      exact absurd (List.cons.inj h).1 fun hxy => hc (hxy ▸ List.mem_cons_self)
  | y :: _, [], _, _, ha, _, h => by
      rw [List.nil_append, List.cons_append] at h
      exact absurd (List.cons.inj h).1 fun hyx => ha (hyx ▸ List.mem_cons_self)
  | y :: a, z :: c, b, d, ha, hc, h => by
      rw [List.cons_append, List.cons_append] at h
      rcases List.cons.inj h with ⟨rfl, htail⟩
      rcases cut_inj (fun hx => ha (List.mem_cons_of_mem _ hx))
        (fun hx => hc (List.mem_cons_of_mem _ hx)) htail with ⟨rfl, rfl⟩
      exact ⟨rfl, rfl⟩

namespace Finding

variable {x y : Finding} {xs ys : List Finding} {p q : List String} {rest rest' : List Char}

/-- A path as it stands in a text. -/
def segments (path : List String) : List Char :=
  " > ".toList.intercalate (path.map String.toList)

theorem segments_cons_cons (a b : String) (p : List String) :
    segments (a :: b :: p) = (a.toList ++ [' ']) ++ '>' :: (' ' :: segments (b :: p)) := by
  rw [segments, List.map_cons, List.map_cons, List.intercalate_cons_cons, ← List.map_cons,
    ← segments, List.append_assoc, List.append_assoc]
  rfl

theorem segments_singleton (a : String) : segments [a] = a.toList := by
  rw [segments, List.map_singleton, List.intercalate_singleton]

theorem isOneLine_segments (hp : ∀ a ∈ p, IsOneLine a) : '\n' ∉ segments p := by
  induction p with
  | nil => exact List.not_mem_nil
  | cons a p ih =>
      cases p with
      | nil =>
          rw [segments_singleton]
          exact hp a List.mem_cons_self
      | cons b p =>
          have hrest := ih fun c hc => hp c (List.mem_cons_of_mem _ hc)
          have ha := hp a List.mem_cons_self
          rw [IsOneLine] at ha
          simp only [segments_cons_cons, List.mem_append, List.mem_cons, List.not_mem_nil, ha,
            hrest]
          decide

/-- A path that is there can be taken apart where `>` stands. -/
theorem segments_inj : ∀ {p q : List String}, p ≠ [] → q ≠ [] →
    (∀ a ∈ p, '>' ∉ a.toList) → (∀ b ∈ q, '>' ∉ b.toList) → segments p = segments q → p = q
  | [], _, hp, _, _, _, _ => absurd rfl hp
  | _ :: _, [], _, hq, _, _, _ => absurd rfl hq
  | [a], [b], _, _, _, _, h => by
      rw [segments_singleton, segments_singleton] at h
      rw [String.toList_inj.mp h]
  | [a], b :: b' :: q, _, _, hp, _, h => by
      -- One path goes on where the other ends, and then a segment holds the arrow.
      rw [segments_singleton, segments_cons_cons] at h
      exact absurd (h ▸ List.mem_append_right _ List.mem_cons_self) (hp a List.mem_cons_self)
  | a :: a' :: p, [b], _, _, _, hq, h => by
      rw [segments_singleton, segments_cons_cons] at h
      exact absurd (h ▸ List.mem_append_right _ List.mem_cons_self) (hq b List.mem_cons_self)
  | a :: a' :: p, b :: b' :: q, _, _, hp, hq, h => by
      -- Both go on, and are cut at the first arrow.
      have hcut : ∀ c : String, '>' ∉ c.toList → '>' ∉ c.toList ++ [' '] := by
        intro c hc
        simp only [List.mem_append, hc, false_or]
        decide
      rw [segments_cons_cons, segments_cons_cons] at h
      rcases cut_inj (hcut a (hp a List.mem_cons_self)) (hcut b (hq b List.mem_cons_self)) h
        with ⟨hfirst, hmore⟩
      have hab := String.toList_inj.mp (List.append_cancel_right hfirst)
      have hrest := segments_inj (List.cons_ne_nil a' p) (List.cons_ne_nil b' q)
        (fun c hc => hp c (List.mem_cons_of_mem _ hc))
        (fun c hc => hq c (List.mem_cons_of_mem _ hc)) (List.cons.inj hmore).2
      rw [hab, hrest]

theorem line_of_pathless (h : x.path = []) (rest : List Char) :
    x.line.toList ++ rest =
      "    - ".toList ++ ((x.message.toList ++ ['.']) ++ '\n' :: rest) := by
  simp only [line, h, List.isEmpty_nil, if_true, String.toList_append, List.append_assoc]
  rfl

theorem line_of_path (h : x.path ≠ []) (rest : List Char) :
    x.line.toList ++ rest =
      "    - ".toList ++ (x.message.toList ++
        '\n' :: ("      at ".toList ++ ((segments x.path ++ ['.']) ++ '\n' :: rest))) := by
  rw [line, if_neg (by rwa [List.isEmpty_iff])]
  simp only [String.toList_append, String.toList_intercalate, List.append_assoc, segments]
  rfl

/-- The entries of the reasons, one after the other. -/
def lines (xs : List Finding) : List Char :=
  xs.flatMap fun x => x.line.toList

theorem lines_cons (x : Finding) (xs : List Finding) (rest : List Char) :
    lines (x :: xs) ++ rest = x.line.toList ++ (lines xs ++ rest) := by
  rw [lines, List.flatMap_cons, ← lines, List.append_assoc]

/-- Every entry begins with four blanks and a dash. -/
theorem line_starts (x : Finding) (rest : List Char) :
    ∃ more, x.line.toList ++ rest = "    - ".toList ++ more := by
  by_cases hpath : x.path = []
  · exact ⟨_, line_of_pathless hpath rest⟩
  · exact ⟨_, line_of_path hpath rest⟩

/-- What follows the entries is not taken for the path of the last one. -/
theorem lines_ne_path (hrest : ¬"    ".toList <+: rest) (more : List Char) :
    lines xs ++ rest ≠ "      at ".toList ++ more := by
  intro h
  cases xs with
  | nil => exact hrest ⟨"  at ".toList ++ more, h.symm⟩
  | cons x xs =>
      rcases line_starts x (lines xs ++ rest) with ⟨_, hstart⟩
      rw [lines_cons, hstart] at h
      have hfifth := congrArg (·[4]?) h
      exact absurd (Option.some.inj hfifth) (by decide)

/-- An entry can be read off, whatever other entries follow. -/
theorem line_inj (hx : x.Legible) (hy : y.Legible) (hrest : ¬"    ".toList <+: rest)
    (hrest' : ¬"    ".toList <+: rest')
    (h : x.line.toList ++ (lines xs ++ rest) = y.line.toList ++ (lines ys ++ rest')) :
    x = y ∧ lines xs ++ rest = lines ys ++ rest' := by
  have hdot : ∀ text : List Char, '\n' ∉ text → '\n' ∉ text ++ ['.'] := by
    intro text htext
    simp only [List.mem_append, htext, false_or]
    decide
  rcases x with ⟨message, path⟩
  rcases y with ⟨message', path'⟩
  by_cases hpath : path = [] <;> by_cases hpath' : path' = []
  · rw [line_of_pathless hpath, line_of_pathless hpath', List.append_cancel_left_eq] at h
    rcases cut_inj (hdot _ hx.message) (hdot _ hy.message) h with ⟨hmessage, hmore⟩
    have hsame := String.toList_inj.mp (List.append_cancel_right hmessage)
    exact ⟨congr (congrArg Finding.mk hsame) (hpath.trans hpath'.symm), hmore⟩
  · rw [line_of_pathless hpath, line_of_path hpath', List.append_cancel_left_eq] at h
    -- Only one of them goes on with a path, and what follows the other is not taken for one.
    exact absurd (cut_inj (hdot _ hx.message) hy.message h).2 (lines_ne_path hrest _)
  · rw [line_of_path hpath, line_of_pathless hpath', List.append_cancel_left_eq] at h
    exact absurd (cut_inj hx.message (hdot _ hy.message) h).2.symm (lines_ne_path hrest' _)
  · rw [line_of_path hpath, line_of_path hpath', List.append_cancel_left_eq] at h
    rcases cut_inj hx.message hy.message h with ⟨hmessage, hmore⟩
    rw [List.append_cancel_left_eq] at hmore
    rcases cut_inj (hdot _ (isOneLine_segments hx.segments))
      (hdot _ (isOneLine_segments hy.segments)) hmore with ⟨hsegments, hafter⟩
    have hsame := String.toList_inj.mp hmessage
    have hsamePath := segments_inj hpath hpath' hx.unsplit hy.unsplit
      (List.append_cancel_right hsegments)
    exact ⟨congr (congrArg Finding.mk hsame) hsamePath, hafter⟩

/-- The findings can be read off, if what follows does not look like one more. -/
theorem lines_inj (hxs : ∀ x ∈ xs, x.Legible) (hys : ∀ y ∈ ys, y.Legible)
    (hrest : ¬"    ".toList <+: rest) (hrest' : ¬"    ".toList <+: rest')
    (h : lines xs ++ rest = lines ys ++ rest') : xs = ys ∧ rest = rest' := by
  -- What follows the entries is not taken for one more, so both lists end at the same place.
  have hover : ∀ {x : Finding} {xs : List Finding} {rest rest' : List Char},
      ¬"    ".toList <+: rest → rest ≠ lines (x :: xs) ++ rest' := by
    intro x xs rest rest' hrest heq
    rcases line_starts x (lines xs ++ rest') with ⟨more, hstart⟩
    rw [lines_cons, hstart] at heq
    exact hrest ⟨"- ".toList ++ more, heq.symm⟩
  induction xs generalizing ys with
  | nil =>
      cases ys with
      | nil => exact ⟨rfl, h⟩
      | cons y ys => exact absurd h (hover hrest)
  | cons x xs ih =>
      cases ys with
      | nil => exact absurd h.symm (hover hrest')
      | cons y ys =>
          rw [lines_cons, lines_cons] at h
          rcases line_inj (hxs x List.mem_cons_self) (hys y List.mem_cons_self) hrest hrest' h
            with ⟨rfl, hmore⟩
          rcases ih (fun x hx => hxs x (List.mem_cons_of_mem _ hx))
            (fun y hy => hys y (List.mem_cons_of_mem _ hy)) hmore with ⟨rfl, hsame⟩
          exact ⟨rfl, hsame⟩

end Finding

/-- The list of causes as it stands in a text. -/
def Cause.items (cs : List Cause) : List Char :=
  cs.flatMap fun c => "- ".toList ++ c.text.toList ++ ['\n']

theorem Cause.items_cons (c : Cause) (cs : List Cause) (rest : List Char) :
    Cause.items (c :: cs) ++ rest =
      "- ".toList ++ (c.text.toList ++ '\n' :: (Cause.items cs ++ rest)) := by
  rw [items, List.flatMap_cons, ← items, List.append_assoc, List.append_assoc, List.append_assoc,
    List.singleton_append]

namespace Failure

variable {f g : Failure} {rest rest' : List Char}

/-- The first line of a text. Its last word says what comes below. -/
def opening (f : Failure) : List Char :=
  f.header.toList ++
    if f.hasFindings then " Reasons:".toList
    else if f.hasCauses then " Caused by:".toList
    else []

/-- The end of a text, below the findings, with what follows it on the next line. -/
def ending (f : Failure) (rest : List Char) : List Char :=
  if f.hasCauses then
    " Caused by:".toList ++ '\n' :: '\n' :: (Cause.items f.causes ++ '\n' :: rest)
  else '\n' :: rest

/-- A text below its first line, with what follows it on the next line. -/
def underneath (f : Failure) (rest : List Char) : List Char :=
  if f.hasFindings then Finding.lines f.findingList ++ f.ending rest
  else if f.hasCauses then '\n' :: (Cause.items f.causes ++ '\n' :: rest)
  else rest

theorem toList_reasons (h : f.hasFindings = true) :
    f.reasons.toList = " Reasons:".toList ++ '\n' :: Finding.lines f.findingList := by
  have hword : " Reasons:\n".toList = " Reasons:".toList ++ ['\n'] := rfl
  rw [reasons, if_pos h, String.toList_append, String.toList_join, List.flatMap_map, hword,
    Finding.lines, List.append_assoc, List.singleton_append]

theorem toList_causeList (h : f.hasCauses = true) :
    (causeList (f.causes.map Cause.text)).toList =
      " Caused by:".toList ++ '\n' :: '\n' :: Cause.items f.causes := by
  have hword : " Caused by:\n\n".toList = " Caused by:".toList ++ ['\n', '\n'] := rfl
  have hitem : (fun c : Cause => ("- " ++ c.text ++ "\n").toList) =
      fun c => "- ".toList ++ c.text.toList ++ ['\n'] := by
    funext c
    rw [String.toList_append, String.toList_append]
    rfl
  have hsome : ¬(f.causes.map Cause.text).isEmpty = true := by
    rw [hasCauses, Bool.not_eq_true'] at h
    rw [List.isEmpty_map, h]
    exact Bool.false_ne_true
  rw [causeList, if_neg hsome, String.toList_append, String.toList_join, List.flatMap_map,
    List.flatMap_map, hword, hitem, Cause.items, List.append_assoc]
  rfl

/-- A text is its first line and what is underneath. -/
theorem text_eq_opening (f : Failure) (rest : List Char) :
    f.text.toList ++ '\n' :: rest = f.opening ++ '\n' :: f.underneath rest := by
  rw [text_eq, textWith, String.toList_append, String.toList_append, opening, underneath, ending]
  -- Without findings there is no text for them, and so it is for the causes.
  have hnoFindings : f.hasFindings = false → f.reasons.toList = [] := by
    intro h
    rw [reasons, h]
    rfl
  have hnoCauses : f.hasCauses = false → (causeList (f.causes.map Cause.text)).toList = [] := by
    intro h
    rw [hasCauses, Bool.not_eq_false', List.isEmpty_iff] at h
    rw [h]
    rfl
  cases hfindings : f.hasFindings <;> cases hcauses : f.hasCauses
  · simp only [hnoFindings hfindings, hnoCauses hcauses, Bool.false_eq_true, if_false,
      List.append_nil]
  · simp only [hnoFindings hfindings, toList_causeList hcauses, Bool.false_eq_true, if_false,
      if_true, List.append_nil, List.append_assoc, List.cons_append]
  · simp only [toList_reasons hfindings, hnoCauses hcauses, Bool.false_eq_true, if_false,
      if_true, List.append_nil, List.append_assoc, List.cons_append]
  · simp only [toList_reasons hfindings, toList_causeList hcauses, if_true, List.append_assoc,
      List.cons_append]

theorem header_ends (f : Failure) : ∃ words, f.header.toList = words ++ ['.'] := by
  rw [header, String.toList_append]
  exact ⟨_, rfl⟩

/-- The last word of the first line says whether there are findings and, if there are
    none, whether there are causes. Before it stands the header. -/
theorem opening_inj (h : f.opening = g.opening) :
    f.header = g.header ∧ f.hasFindings = g.hasFindings ∧
      (f.hasFindings = false → f.hasCauses = g.hasCauses) := by
  -- Read from behind, the words differ in the first letters.
  have hback := congrArg List.reverse h
  rcases header_ends f with ⟨words, hwords⟩
  rcases header_ends g with ⟨words', hwords'⟩
  rw [opening, opening, hwords, hwords'] at hback
  rw [← String.toList_inj, hwords, hwords']
  cases hfindings : f.hasFindings <;> cases hfindings' : g.hasFindings <;>
    cases hcauses : f.hasCauses <;> cases hcauses' : g.hasCauses <;>
    simp [hfindings, hfindings', hcauses, hcauses'] at hback ⊢ <;> assumption

theorem isOneLine_opening (hsubsystem : IsOneLine f.subsystem) (hmessage : IsOneLine f.message) :
    '\n' ∉ f.opening := by
  rw [IsOneLine] at hsubsystem hmessage
  have hheader : '\n' ∉ f.header.toList := by
    rw [header]
    split <;>
      simp only [String.toList_append, List.mem_append, hsubsystem, hmessage] <;> decide
  rw [opening, List.mem_append, not_or]
  refine ⟨hheader, ?_⟩
  split
  · decide
  · split <;> decide

theorem not_blanks_ending (f : Failure) (rest : List Char) : ¬"    ".toList <+: f.ending rest := by
  rw [ending]
  split <;> rintro ⟨more, h⟩
  · have hsecond := congrArg (·[1]?) h
    exact absurd (Option.some.inj hsecond) (by decide)
  · exact absurd (List.cons.inj h).1 (by decide)

theorem causes_of_hasCauses_eq_false (h : f.hasCauses = false) : f.causes = [] := by
  rwa [hasCauses, Bool.not_eq_false', List.isEmpty_iff] at h

theorem findingList_of_hasFindings_eq_false (h : f.hasFindings = false) : f.findingList = [] := by
  rwa [hasFindings, Bool.not_eq_false', List.isEmpty_iff] at h

/-- Below the findings there are the causes, or nothing. -/
theorem ending_inj (h : f.ending rest = g.ending rest') :
    Cause.items f.causes ++ '\n' :: rest = Cause.items g.causes ++ '\n' :: rest' := by
  rw [ending, ending] at h
  cases hf : f.hasCauses <;> cases hg : g.hasCauses <;>
    simp only [hf, hg, if_true, if_false, Bool.false_eq_true] at h
  · rw [causes_of_hasCauses_eq_false hf, causes_of_hasCauses_eq_false hg]
    exact h
  · exact absurd (List.cons.inj h).1 (by decide)
  · exact absurd (List.cons.inj h).1 (by decide)
  · exact (List.cons.inj (List.cons.inj (List.append_cancel_left h)).2).2

/-- What is underneath the same first line is made of the same findings, and then come
    the causes. -/
theorem underneath_inj (hf : ∀ x ∈ f.findingList, x.Legible)
    (hg : ∀ x ∈ g.findingList, x.Legible)
    (hfindings : f.hasFindings = g.hasFindings)
    (hcauses : f.hasFindings = false → f.hasCauses = g.hasCauses)
    (h : f.underneath rest = g.underneath rest') :
    f.findingList = g.findingList ∧
      Cause.items f.causes ++ '\n' :: rest = Cause.items g.causes ++ '\n' :: rest' := by
  rw [underneath, underneath, ← hfindings] at h
  cases hsome : f.hasFindings with
  | true =>
      rw [hsome, if_pos rfl, if_pos rfl] at h
      rcases Finding.lines_inj hf hg (not_blanks_ending f rest) (not_blanks_ending g rest') h with
        ⟨hsame, hending⟩
      exact ⟨hsame, ending_inj hending⟩
  | false =>
      -- Without findings the causes stand right underneath, if there are any.
      have hnone := findingList_of_hasFindings_eq_false hsome
      have hnone' := findingList_of_hasFindings_eq_false (hfindings ▸ hsome)
      refine ⟨hnone.trans hnone'.symm, ?_⟩
      rw [hsome, if_neg Bool.false_ne_true, if_neg Bool.false_ne_true, ← hcauses hsome] at h
      cases hmore : f.hasCauses with
      | true =>
          rw [hmore, if_pos rfl, if_pos rfl] at h
          exact (List.cons.inj h).2
      | false =>
          rw [hmore, if_neg Bool.false_ne_true, if_neg Bool.false_ne_true] at h
          rw [causes_of_hasCauses_eq_false hmore,
            causes_of_hasCauses_eq_false ((hcauses hsome).symm.trans hmore), h]

end Failure

mutual

/-- Whatever begins with the text of a legible failure begins with the text of no other
    that is not alike. -/
theorem Failure.Legible.reads {f g : Failure} {rest rest' : List Char} :
    f.Legible → g.Legible → f.text.toList ++ '\n' :: rest = g.text.toList ++ '\n' :: rest' →
      f.Alike g ∧ rest = rest'
  | .of hsubsystem hmessage hfindings hcauses, .of hsubsystem' hmessage' hfindings' hcauses', h =>
    by
      rw [Failure.text_eq_opening, Failure.text_eq_opening] at h
      rcases cut_inj (Failure.isOneLine_opening hsubsystem hmessage)
        (Failure.isOneLine_opening hsubsystem' hmessage') h with ⟨hopening, hunder⟩
      rcases Failure.opening_inj hopening with ⟨hheader, hsome, hsomeCauses⟩
      rcases Failure.underneath_inj hfindings hfindings' hsome hsomeCauses hunder with
        ⟨hsame, hitems⟩
      rcases hcauses.reads hcauses' hitems with ⟨halike, hrest⟩
      exact ⟨.of hheader hsame halike, hrest⟩

/-- A list of legible causes can be read off, whatever is told next of the failure that
    it belongs to. -/
theorem Cause.AllLegible.reads {cs ds : List Cause} {rest rest' : List Char} :
    Cause.AllLegible cs → Cause.AllLegible ds →
      Cause.items cs ++ '\n' :: rest = Cause.items ds ++ '\n' :: rest' →
      Cause.AllAlike cs ds ∧ rest = rest'
  | .nil, .nil, h => ⟨.nil, (List.cons.inj h).2⟩
  | .nil, .cons _ _, h => by
      rw [Cause.items_cons] at h
      exact absurd (List.cons.inj h).1 (by decide)
  | .cons _ _, .nil, h => by
      rw [Cause.items_cons] at h
      exact absurd (List.cons.inj h).1 (by decide)
  | .cons hfirst hmore, .cons hfirst' hmore', h => by
      rw [Cause.items_cons, Cause.items_cons, List.append_cancel_left_eq, Cause.text,
        Cause.text] at h
      rcases hfirst.reads hfirst' h with ⟨halike, hlater⟩
      rcases hmore.reads hmore' hlater with ⟨hall, hrest⟩
      exact ⟨.cons halike hall, hrest⟩

end

mutual

/-- Failures that are alike have the same text. -/
theorem Failure.Alike.text_eq {f g : Failure} : f.Alike g → f.text = g.text
  | .of hheader hfindings hcauses => by
      rw [Failure.text_eq, Failure.text_eq, Failure.textWith, Failure.textWith, Failure.reasons,
        Failure.reasons, Failure.hasFindings, Failure.hasFindings, hheader, hfindings,
        hcauses.texts_eq]

theorem Cause.AllAlike.texts_eq {cs ds : List Cause} :
    Cause.AllAlike cs ds → cs.map Cause.text = ds.map Cause.text
  | .nil => rfl
  | .cons hfirst hrest => by
      rw [List.map_cons, List.map_cons, Cause.text, Cause.text, hfirst.text_eq, hrest.texts_eq]

end

/-- Two legible failures have the same text exactly when they have the same header and
    the same findings, and as many causes, which are the same in this sense one by one. -/
theorem text_eq_iff_alike {f g : Failure} (hf : f.Legible) (hg : g.Legible) :
    f.text = g.text ↔ f.Alike g := by
  refine ⟨fun h => ?_, Failure.Alike.text_eq⟩
  have htext : f.text.toList ++ ['\n'] = g.text.toList ++ ['\n'] := by rw [h]
  exact (hf.reads hg htext).1

/-- Two failures with findings and causes within causes have the same text, and differ in
    where their subsystem ends. -/
theorem text_eq_iff_alike_nested :
    let findings := [⟨"late", []⟩, ⟨"no such key", ["pool", "size"]⟩]
    let reset : Failure := ⟨"", "reset", some findings, [.failure (.new "by peer")]⟩
    let causes := [.failure reset, .failure (.new "timeout")]
    let f : Failure := { subsystem := "db", message := "down", causes }
    let g : Failure := { message := "db: down", causes }
    f.Legible ∧ g.Legible ∧ f.text = g.text ∧ f.Alike g ∧ f ≠ g := by
  intro findings reset causes f g
  have hpeer : (Failure.new "by peer").Legible :=
    .of (by decide) (by decide) (fun _ hx => absurd hx List.not_mem_nil) .nil
  have htimeout : (Failure.new "timeout").Legible :=
    .of (by decide) (by decide) (fun _ hx => absurd hx List.not_mem_nil) .nil
  have hfindings : ∀ x ∈ reset.findingList, x.Legible := by
    intro x hx
    rcases List.mem_cons.mp hx with rfl | hx
    · exact ⟨by decide, by decide, by decide⟩
    · rw [List.mem_singleton.mp hx]
      exact ⟨by decide, by decide, by decide⟩
  have hreset : reset.Legible := .of (by decide) (by decide) hfindings (.cons hpeer .nil)
  have hcauses : Cause.AllLegible causes :=
    .cons hreset (.cons htimeout .nil)
  have hf : f.Legible :=
    .of (by decide) (by decide) (fun _ hx => absurd hx List.not_mem_nil) hcauses
  have hg : g.Legible :=
    .of (by decide) (by decide) (fun _ hx => absurd hx List.not_mem_nil) hcauses
  -- The subsystem of one is written in the message of the other.
  have htext : f.text = g.text := by decide +kernel
  refine ⟨hf, hg, htext, (text_eq_iff_alike hf hg).mp htext, fun hsame => ?_⟩
  exact absurd (congrArg Failure.subsystem hsame) (by decide)

end Steward
