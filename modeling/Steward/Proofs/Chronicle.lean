import Steward.Proofs.Launch
import Mathlib.Data.List.Perm.Subperm

/-!
# Chronicles

The logs that a service can write, as a language of notices.

A log of a service has two parts. First there are registrations, in any number but
with one server at most. If a start was accepted, it says so next, and from there on
nobody is registered any more. What follows comes from two sides that know nothing
of each other. The start tells how it goes on, in one of five ways. The stops tell
each a block of its own: that it begins, how the server was stopped, how every
dependency was closed, and how it has ended. Blocks never overlap, and after one that
has ended well there is no other. But between two notices of a block there may be one
of the start, so the whole is a shuffle of the two.

A log says enough to tell the roster by it. `Roster.enter` takes a notice into a roster
of names, and four kinds of notice change something in it; all the others are about
what participants do, not about who they are. `Roster.ofLog` reads a whole log.

The log of a service that is still running is the beginning of one of these. What is
missing is the end of the last block, and every block that was begun can be completed
(`OpenStop.exists_completion`).

## Main definitions

* `lifecycleIn`: The log that is written of what is published.
* `Shuffle`: A list made of two.
* `Registrations`, `StartTrace`, `StopBlock`, `StopBlocks`: The parts of a log.
* `Chronicle`: The logs.
* `OpenStop`: The block of a stop that has not ended.
* `Roster.enter`, `Roster.ofLog`: The roster that a log tells of.

## Theorems

* `OpenStop.exists_completion`: Every block that was begun can be completed.
* `Registrations.ofLog_eq`: Registrations tell who is registered.
* `StopBlocks.foldl_enter`: Blocks tell whether the service was stopped.
* `Shuffle.foldl_enter`: A start that goes on tells nothing of the roster.
-/

namespace Steward

/-- Whether a kind of event is about the life of the service, and neither about its
    health nor about those who listen. -/
def EventKind.isLifecycle : EventKind → Bool
  | .healthChecked | .subscriberOverflow | .subscriberPanicked => false
  | _ => true

/-- The log that is written of what is published. -/
def lifecycleIn (notices : List Notice) : List Notice :=
  notices.filter fun n => n.kind.isLifecycle

theorem lifecycleIn_append (notices more : List Notice) :
    lifecycleIn (notices ++ more) = lifecycleIn notices ++ lifecycleIn more :=
  List.filter_append notices more

/-- A list made of two, each in its order. It grows at its end, as logs do. -/
inductive Shuffle {α : Type} : List α → List α → List α → Prop where
  | nil : Shuffle [] [] []
  | left {first second whole : List α} (a : α) (h : Shuffle first second whole) :
    Shuffle (first ++ [a]) second (whole ++ [a])
  | right {first second whole : List α} (a : α) (h : Shuffle first second whole) :
    Shuffle first (second ++ [a]) (whole ++ [a])

namespace Shuffle

variable {α : Type} {first second whole : List α}

/-- More of the first list may come at the end of the whole. -/
theorem append_left (h : Shuffle first second whole) (more : List α) :
    Shuffle (first ++ more) second (whole ++ more) := by
  induction more generalizing first whole with
  | nil =>
      rw [List.append_nil, List.append_nil]
      exact h
  | cons a rest ih =>
      rw [List.append_cons first, List.append_cons whole]
      exact ih (h.left a)

/-- And so may more of the second. -/
theorem append_right (h : Shuffle first second whole) (more : List α) :
    Shuffle first (second ++ more) (whole ++ more) := by
  induction more generalizing second whole with
  | nil =>
      rw [List.append_nil, List.append_nil]
      exact h
  | cons a rest ih =>
      rw [List.append_cons second, List.append_cons whole]
      exact ih (h.right a)

end Shuffle

/-- A participant is registered. -/
def registeredNotice (kind : EventKind) (name : String) : Notice :=
  { kind, integration := some name }

/-- The service starts. -/
def startingNotice (server : String) : Notice :=
  { kind := .serviceStarting, integration := some server }

/-- The server has returned without an error. -/
def exitedNotice (server : String) : Notice :=
  { kind := .serverExited, integration := some server }

/-- A stop begins. -/
def stoppingNotice : Notice :=
  { kind := .serviceStopping }

/-- A stop has ended well. -/
def stoppedNotice : Notice :=
  { kind := .serviceStopped }

/-- A participant was stopped or closed, or something has gone wrong with that. -/
def Notice.TellsOf (good : EventKind) (name : String) (n : Notice) : Prop :=
  ∃ result, n = System.closeNotice good name result

/-- What is told of registrations, by the server and the dependencies that it leaves
    registered. -/
inductive Registrations : Option String → List String → List Notice → Prop where
  | nothing : Registrations none [] []
  | served {deps : List String} {log : List Notice} (name : String)
      (h : Registrations none deps log) :
    Registrations (some name) deps (log ++ [registeredNotice .serverRegistered name])
  | attached {server : Option String} {deps : List String} {log : List Notice} (name : String)
      (h : Registrations server deps log) :
    Registrations server (deps ++ [name]) (log ++ [registeredNotice .dependencyAttached name])

/-- What a start can tell after it was announced. -/
inductive StartTrace (server : String) : List Notice → Prop where
  | nothing : StartTrace server []
  | failed (cause : Cause) : StartTrace server [failedNotice server cause]
  | exited : StartTrace server [exitedNotice server]
  | heeded (signal : Signal) : StartTrace server [heededNotice signal]
  | exitedHeeded (signal : Signal) :
    StartTrace server [exitedNotice server, heededNotice signal]

/-- What a stop tells of the participants: that it begins, how the server was stopped,
    and how the dependencies of these names were closed, in the order in which they
    were. -/
inductive StopWork (server : String) (names : List String) : List Notice → Prop where
  | mk {first : Notice} {closes : List Notice} (hserver : first.TellsOf .serverStopped server)
      (hcloses : List.Forall₂ (Notice.TellsOf .dependencyClosed) names closes) :
    StopWork server names (stoppingNotice :: first :: closes)

/-- The block of a stop that has ended. `well` says that it has ended well. -/
inductive StopBlock (server : String) (deps : List String) : Bool → List Notice → Prop where
  | failed {names : List String} {work : List Notice} (hnames : names.Perm deps)
      (hwork : StopWork server names work) (hfailed : ∃ n ∈ work, n.kind = .closeFailed)
      (reason : Option String) :
    StopBlock server deps false (work ++ [{ kind := .stopFailed, reason }])
  | stopped {names : List String} {work : List Notice} (hnames : names.Perm deps)
      (hwork : StopWork server names work) (hwell : ∀ n ∈ work, n.kind ≠ .closeFailed) :
    StopBlock server deps true (work ++ [stoppedNotice])

/-- The blocks of stops, one after the other. Only the last can have ended well. -/
inductive StopBlocks (server : String) (deps : List String) : Bool → List Notice → Prop where
  | nothing : StopBlocks server deps false []
  | append {stops block : List Notice} {well : Bool} (h : StopBlocks server deps false stops)
      (hblock : StopBlock server deps well block) : StopBlocks server deps well (stops ++ block)

/-- The logs of services that have come to their end, or could have. -/
inductive Chronicle : List Notice → Prop where
  | unstarted {server : Option String} {deps : List String} {log : List Notice}
      (h : Registrations server deps log) : Chronicle log
  | started {server : String} {deps : List String} {well : Bool}
      {registrations start stops rest : List Notice}
      (hregistrations : Registrations (some server) deps registrations)
      (hstart : StartTrace server start) (hstops : StopBlocks server deps well stops)
      (hrest : Shuffle start stops rest) :
    Chronicle (registrations ++ startingNotice server :: rest)

/-- The block of a stop that has not ended. -/
inductive OpenStop (server : String) (deps : List String) : List Notice → Prop where
  | begun : OpenStop server deps [stoppingNotice]
  | working {names : List String} {work : List Notice} (hnames : names.Subperm deps)
      (hwork : StopWork server names work) : OpenStop server deps work

section Completion

variable {server : String} {deps names : List String} {work log : List Notice}

theorem StopWork.append (h : StopWork server names work) {more : List String}
    {notices : List Notice} (hmore : List.Forall₂ (Notice.TellsOf .dependencyClosed) more notices) :
    StopWork server (names ++ more) (work ++ notices) := by
  cases h with
  | mk hserver hcloses => exact .mk hserver (List.rel_append hcloses hmore)

/-- Dependencies that are closed without an error. -/
theorem forall₂_closed (names : List String) :
    List.Forall₂ (Notice.TellsOf .dependencyClosed) names
      (names.map fun name => System.closeNotice .dependencyClosed name (.ok ())) := by
  rw [List.forall₂_map_right_iff, List.forall₂_same]
  exact fun name _ => ⟨.ok (), rfl⟩

theorem StopWork.exists_block (h : StopWork server names work) (hnames : names.Perm deps) :
    ∃ last well, StopBlock server deps well (work ++ [last]) := by
  by_cases hfailed : ∃ n ∈ work, n.kind = .closeFailed
  · exact ⟨_, false, .failed hnames h hfailed none⟩
  · exact ⟨_, true, .stopped hnames h fun n hmem hkind => hfailed ⟨n, hmem, hkind⟩⟩

/-- Every block that was begun can be completed. -/
theorem OpenStop.exists_completion (h : OpenStop server deps log) :
    ∃ more well, StopBlock server deps well (log ++ more) := by
  cases h with
  | begun =>
      -- The server stops and all dependencies close, each without an error.
      have hwork : StopWork server deps (stoppingNotice ::
          System.closeNotice .serverStopped server (.ok ()) ::
          deps.map fun name => System.closeNotice .dependencyClosed name (.ok ())) :=
        .mk ⟨.ok (), rfl⟩ (forall₂_closed deps)
      rcases hwork.exists_block (List.Perm.refl deps) with ⟨last, well, hblock⟩
      exact ⟨_, well, hblock⟩
  | working hnames hwork =>
      -- The dependencies that nothing was told of yet are closed at last.
      rcases List.subperm_iff.mp hnames with ⟨deps', hperm, hsub⟩
      rcases List.Sublist.exists_perm_append hsub with ⟨missing, hmissing⟩
      have hall : (_ ++ missing).Perm deps := hmissing.symm.trans hperm
      rcases (hwork.append (forall₂_closed missing)).exists_block hall with ⟨last, well, hblock⟩
      rw [List.append_assoc] at hblock
      exact ⟨_, well, hblock⟩

end Completion

/-- Whether a kind of event tells of the roster. -/
def EventKind.isEntry : EventKind → Bool
  | .serverRegistered | .dependencyAttached | .serviceStarting | .serviceStopped => true
  | _ => false

namespace Roster

/-- A roster of names with a notice taken into it. -/
def enter (r : Roster String) (n : Notice) : Roster String :=
  match n.kind with
  | .serverRegistered => { r with server := n.integration }
  | .dependencyAttached => { r with dependencies := r.dependencies ++ n.integration.toList }
  | .serviceStarting => { r with initialized := true }
  | .serviceStopped => { r with stopped := true }
  | _ => r

/-- The roster that a log tells of. -/
def ofLog (log : List Notice) : Roster String :=
  log.foldl enter {}

/-- A roster by the names of the participants. -/
def byName {ι : Type} (nameOf : ι → String) (r : Roster ι) : Roster String where
  initialized := r.initialized
  stopped := r.stopped
  server := r.server.map nameOf
  dependencies := r.dependencies.map nameOf

variable {r : Roster String} {n : Notice} {log : List Notice}

theorem enter_of_kind (h : n.kind.isEntry = false) : r.enter n = r := by
  unfold enter
  cases hkind : n.kind <;> rw [hkind] at h <;> first | rfl | cases h

theorem foldl_enter_of_kinds (h : ∀ n ∈ log, n.kind.isEntry = false) : log.foldl enter r = r := by
  induction log with
  | nil => rfl
  | cons n rest ih =>
      rw [List.forall_mem_cons] at h
      rw [List.foldl_cons, enter_of_kind h.1, ih h.2]

end Roster

section ReadBack

variable {server : String} {deps names : List String} {log work : List Notice} {well : Bool}

theorem isEntry_of_tellsOf {good : EventKind} {name : String} {n : Notice}
    (h : n.TellsOf good name) (hgood : good.isEntry = false) : n.kind.isEntry = false := by
  rcases h with ⟨cause | _, rfl⟩
  · rfl
  · exact hgood

theorem isEntry_of_closes {closes : List Notice}
    (h : List.Forall₂ (Notice.TellsOf .dependencyClosed) names closes) :
    ∀ n ∈ closes, n.kind.isEntry = false := by
  induction h with
  | nil => exact List.forall_mem_nil _
  | cons hfirst _ ih => exact List.forall_mem_cons.mpr ⟨isEntry_of_tellsOf hfirst rfl, ih⟩

theorem StopWork.isEntry (h : StopWork server names work) : ∀ n ∈ work, n.kind.isEntry = false := by
  cases h with
  | mk hserver hcloses =>
      refine List.forall_mem_cons.mpr ⟨rfl, List.forall_mem_cons.mpr ⟨?_, isEntry_of_closes hcloses⟩⟩
      exact isEntry_of_tellsOf hserver rfl

theorem StartTrace.isEntry {start : List Notice} (h : StartTrace server start) :
    ∀ n ∈ start, n.kind.isEntry = false := by
  cases h with
  | nothing => exact List.forall_mem_nil _
  | failed | exited | heeded => exact List.forall_mem_singleton.mpr rfl
  | exitedHeeded => exact List.forall_mem_cons.mpr ⟨rfl, List.forall_mem_singleton.mpr rfl⟩

theorem OpenStop.isEntry (h : OpenStop server deps log) : ∀ n ∈ log, n.kind.isEntry = false := by
  cases h with
  | begun => exact List.forall_mem_singleton.mpr rfl
  | working _ hwork => exact hwork.isEntry

/-- Registrations tell who is registered, and of no start. -/
theorem Registrations.ofLog_eq {server : Option String} (h : Registrations server deps log) :
    Roster.ofLog log = { server, dependencies := deps } := by
  induction h with
  | nothing => rfl
  | served name _ ih | attached name _ ih =>
      rw [Roster.ofLog, List.foldl_append, ← Roster.ofLog, ih]
      rfl

/-- A block tells whether the service was stopped. -/
theorem StopBlock.foldl_enter (h : StopBlock server deps well log) (r : Roster String) :
    log.foldl Roster.enter r = { r with stopped := r.stopped || well } := by
  cases h with
  | failed _ hwork _ _ =>
      rw [List.foldl_append, Roster.foldl_enter_of_kinds hwork.isEntry, Bool.or_false]
      rfl
  | stopped _ hwork _ =>
      rw [List.foldl_append, Roster.foldl_enter_of_kinds hwork.isEntry, Bool.or_true]
      rfl

/-- And so do any number of blocks. -/
theorem StopBlocks.foldl_enter (h : StopBlocks server deps well log) (r : Roster String) :
    log.foldl Roster.enter r = { r with stopped := r.stopped || well } := by
  induction h with
  | nothing =>
      rw [Bool.or_false]
      rfl
  | append _ hblock ih =>
      -- No block before the last has ended well.
      rw [List.foldl_append, ih, hblock.foldl_enter, Bool.or_false]

/-- What tells nothing of the roster can come in between anywhere. -/
theorem Shuffle.foldl_enter {first second whole : List Notice} (h : Shuffle first second whole)
    (hfirst : ∀ n ∈ first, n.kind.isEntry = false) (r : Roster String) :
    whole.foldl Roster.enter r = second.foldl Roster.enter r := by
  induction h with
  | nil => rfl
  | left a _ ih =>
      rcases List.forall_mem_append.mp hfirst with ⟨hbefore, hlast⟩
      rw [List.foldl_append, ih hbefore]
      exact Roster.enter_of_kind (hlast a (List.mem_singleton.mpr rfl))
  | right a _ ih => rw [List.foldl_append, List.foldl_append, ih hfirst]

end ReadBack

end Steward
