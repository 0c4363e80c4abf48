import Casebook.Proofs.Books
import Casebook.Proofs.Enrolment

namespace Casebook

def Call.found? : Call → Option IdSet
  | .lookup _ (.ok ids) => some ids
  | _ => none

def Roster.Shares (roster : Roster) (sets : List IdSet) (ids : IdSet) : Prop :=
  ∀ id, id ∈ ids ↔ id ∈ roster.ids ∧ ∀ set ∈ sets, id ∈ set

namespace Entry

def found (entry : Entry) : List IdSet := entry.calls.filterMap Call.found?

def Idle (entry : Entry) : Prop := entry.left = entry.operation.queue ∧ ∀ call ∈ entry.calls, call.isScan = true

structure Chooses (entry : Entry) (roster : Roster) (ids : IdSet) : Prop where
  known : entry.after.roster = some roster
  shares : roster.Shares entry.found ids
  empty : entry.left ≠ [] → ids = .empty
  -- Whatever the batches that are left would have found.
  settled : ∀ unasked : List IdSet, unasked.length = entry.left.batches.length →
    roster.Shares (entry.found ++ unasked) ids

end Entry

theorem Roster.Shares.more {roster : Roster} {sets : List IdSet} (shares : roster.Shares sets .empty)
    (more : List IdSet) : roster.Shares (sets ++ more) .empty := by
  intro id
  constructor
  · intro member
    exact absurd member (IdSet.not_mem_empty id)
  · intro shared
    obtain ⟨child, all⟩ := shared
    exact (shares id).mpr ⟨child, fun set member => all set (List.mem_append_left more member)⟩

theorem Entry.chooses {made : Entry} {roster : Roster} {ids : IdSet} (known : made.after.roster = some roster)
    (shares : roster.Shares made.found ids) (empty : made.left ≠ [] → ids = .empty) : made.Chooses roster ids := by
  refine ⟨known, shares, empty, ?_⟩
  intro unasked counted
  by_cases nothing : made.left = []
  · have none : unasked = [] := by
      rw [nothing] at counted
      exact List.length_eq_zero_iff.mp counted
    rwa [none, List.append_nil]
  · rw [empty nothing] at shares ⊢
    exact shares.more unasked

structure Consumption (made : Entry) : Prop where
  parts : made.operation.queue.batches = made.answered ++ made.left.batches
  whole : made.operation.queue = Queue.ofBatches made.answered ++ made.left
  calls : ∃ loading failing, made.calls = loading ++ Call.lookups made.answered made.found ++ failing ∧
    (∀ call ∈ loading, call.isScan = true) ∧ (failing = [] ∨ ∃ batch error, failing = [.lookup batch (.error error)])
  unserved : ∀ error, .scan (.error error) ∈ made.calls → made.answer = .error error ∧ made.Idle
  childless : ∀ roster, made.after.roster = some roster → roster.ids = [] →
    made.answer = .ok (.ids .empty) ∧ made.Idle
  failing : ∀ batch error, .lookup batch (.error error) ∈ made.calls →
    made.answer = .error error ∧ made.left.batches.head? = some batch
  blamed : ∀ error, made.answer = .error error →
    .scan (.error error) ∈ made.calls ∨ ∃ batch, .lookup batch (.error error) ∈ made.calls
  chosen : ∀ answer, made.answer = .ok answer → ∃ ids roster, answer = .ids ids ∧ made.Chooses roster ids

section Course
variable {before : Collection} {operation : Operation} {answer : Except Error Answer} {left : Queue}
  {calls : List Call} {error : Error}

theorem lookups_found {done : List Batch} {sets : List IdSet} (paired : done.length = sets.length) :
    (Call.lookups done sets).filterMap Call.found? = sets := by
  rw [lookups_told Call.found? Prod.snd fun _ _ => rfl, List.map_snd_zip (Nat.le_of_eq paired.symm)]

theorem Loads.found {asks : Bool} {known : Option Roster} (loads : Loads before asks calls known) :
    calls.filterMap Call.found? = [] := by
  cases loads <;> rfl

theorem Loads.scans {asks : Bool} {known : Option Roster} (loads : Loads before asks calls known) :
    ∀ call ∈ calls, call.isScan = true := by
  cases loads <;> simp [Call.isScan]

-- The calls in their order: a scan at most, the answered lookups, and at most one that failed.
theorem Course.transcript (course : Course before operation answer left calls) :
    ∃ loading failing, calls = loading ++ Call.lookups (calls.filterMap Call.answered?) (calls.filterMap Call.found?) ++
        failing ∧ (∀ call ∈ loading, call.isScan = true) ∧
      (failing = [] ∨ ∃ batch error, failing = [.lookup batch (.error error)]) := by
  cases course with
  | @unserved error => exact ⟨[.scan (.error error)], [], rfl, by simp [Call.isScan], .inl rfl⟩
  | idle => exact ⟨[], [], rfl, by simp, .inl rfl⟩
  | served loads _ paired _ _ =>
    refine ⟨_, [], ?_, loads.scans, .inl rfl⟩
    rw [List.filterMap_append, List.filterMap_append, loads.answered, loads.found, lookups_answered paired,
      lookups_found paired]
    simp
  | @broken loading _ done _ sets batch error loads _ paired =>
    refine ⟨loading, [.lookup batch (.error error)], ?_, loads.scans, .inr ⟨batch, error, rfl⟩⟩
    have unheard : [Call.lookup batch (.error error)].filterMap Call.answered? = [] := rfl
    have unfound : [Call.lookup batch (.error error)].filterMap Call.found? = [] := rfl
    simp only [List.filterMap_append, loads.answered, loads.found, lookups_answered paired, lookups_found paired,
      unheard, unfound, List.nil_append, List.append_nil]

theorem Loads.no_failed_scan {asks : Bool} {known : Option Roster} (loads : Loads before asks calls known) :
    .scan (.error error) ∉ calls := by
  cases loads <;> simp

theorem Course.unserved_idle (course : Course before operation answer left calls) (asks : operation.asksRoster = true)
    (failed : .scan (.error error) ∈ calls) :
    answer = .error error ∧ left = operation.queue ∧ ∀ call ∈ calls, call.isScan = true := by
  rcases course.asked asks with ⟨_, other, rfl, rfl, same⟩ | ⟨loading, roster, lookups, loads, rfl, unscanned, _⟩
  · cases List.mem_singleton.mp failed
    exact ⟨rfl, same, by simp [Call.isScan]⟩
  · rcases List.mem_append.mp failed with early | late
    · exact absurd early loads.no_failed_scan
    · cases unscanned _ late

theorem Course.blamed (course : Course before operation (.error error) left calls) (asks : operation.asksRoster = true) :
    .scan (.error error) ∈ calls ∨ ∃ batch, .lookup batch (.error error) ∈ calls := by
  cases course with
  | unserved => exact .inl List.mem_cons_self
  | idle next => rw [next] at asks; cases asks
  | @broken _ _ _ _ _ batch _ _ _ _ => exact .inr ⟨batch, by simp⟩

end Course

namespace Session
variable {σ : Type} {source : Source σ} {session after loaded : Session σ} {queue left : Queue} {roster : Roster}

theorem children_childless (known : Session.roster source session = (.ok roster, loaded)) (nobody : roster.ids = []) :
    children source queue session = (.ok .empty, queue, loaded) := by
  have nothing : roster.isEmpty = true := List.isEmpty_iff.mpr nobody
  unfold children
  rw [known]
  dsimp only
  rw [if_pos nothing]

-- A resolution keeps the roster that it went by, be it that it fails.
theorem children_known {answer : Except Error IdSet} (known : Session.roster source session = (.ok roster, loaded))
    (ran : children source queue session = (answer, left, after)) : after.collection.roster = some roster := by
  have there := roster_ok known
  cases children_outcome ran with
  | failed broken =>
    cases broken with
    | scan other =>
      rw [known] at other
      cases other
    | lookup other _ answered lost =>
      rw [known] at other
      cases other
      rw [(perform_failed lost).2]
      exact answered.roster.trans there
  | noChildren other _ =>
    rw [known] at other
    cases other
    exact there
  | chosen other _ answered _ _ =>
    rw [known] at other
    cases other
    exact answered.roster.trans there

theorem entry_children {after : Session (σ × List Call)} {answer : Except Error IdSet}
    (ran : children source.watched queue session.watch = (answer, left, after)) :
    entry source (.children queue) session =
      ⟨.children queue, answer.map .ids, left, after.source.2, session.collection, after.collection⟩ := by
  have same := operate_watched source (.children queue) session
  have made : operate source.watched (.children queue) session.watch = (answer.map .ids, left, after) := by
    rw [operate, queued, ran]
  rw [entry, same, made]
  rfl

theorem entry_chosen {after : Session (σ × List Call)} {ids : IdSet}
    (ran : children source.watched queue session.watch = (.ok ids, left, after)) :
    ∃ roster, (entry source (.children queue) session).Chooses roster ids := by
  rw [entry_children ran]
  cases children_outcome ran with
  | @noChildren roster _ known nobody =>
    obtain ⟨loading, writes, loads⟩ := roster_loads known
    refine ⟨roster, Entry.chooses (roster_ok known) ?_ fun _ => rfl⟩
    intro id
    simp [IdSet.not_mem_empty, nobody]
  | @chosen roster _ _ done rest sets _ known parts answered members stopped =>
    obtain ⟨loading, writes, loads⟩ := roster_loads known
    obtain ⟨paired, further⟩ := answered.writes
    have found : after.source.2.filterMap Call.found? = sets := by
      rw [(writes.append further).written, show session.watch.source.2 = [] from rfl, List.nil_append,
        List.filterMap_append, loads.found, lookups_found paired, List.nil_append]
    refine ⟨roster, Entry.chooses (answered.roster.trans (roster_ok known)) ?_ ?_⟩
    · intro id
      rw [members, Entry.found, found]
    · intro more
      have rest : rest ≠ [] := by
        rintro rfl
        exact more rfl
      refine IdSet.eq_of_members fun id => ?_
      rw [members]
      exact ⟨fun comes => absurd comes.2 (stopped rest id), fun member => absurd member (IdSet.not_mem_empty id)⟩

theorem entry_childless (known : (entry source (.children queue) session).after.roster = some roster)
    (nobody : roster.ids = []) :
    (entry source (.children queue) session).answer = .ok (.ids .empty) ∧
      (entry source (.children queue) session).Idle := by
  rcases ran : children source.watched queue session.watch with ⟨answer, left, after⟩
  rcases loading : Session.roster source.watched session.watch with ⟨told, loaded⟩
  rw [entry_children ran] at known ⊢
  cases told with
  | error error =>
    obtain ⟨missing, same⟩ := roster_failed loading
    have lost : children source.watched queue session.watch = (.error error, queue, loaded) := by
      unfold children
      rw [loading]
    rw [lost] at ran
    cases ran
    dsimp only at known
    rw [same, missing] at known
    cases known
  | ok other =>
    rw [children_known loading ran] at known
    cases known
    rw [children_childless loading nobody] at ran
    cases ran
    obtain ⟨calls, writes, loads⟩ := roster_loads loading
    refine ⟨rfl, rfl, ?_⟩
    rw [writes.written]
    exact loads.scans

theorem children_consumption (source : Source σ) (queue : Queue) (session : Session σ) :
    Consumption (entry source (.children queue) session) := by
  have course := (entry_course source (.children queue) session).2
  constructor
  · exact course.parts
  · exact entry_parts source (.children queue) session
  · exact course.transcript
  · intro error failed
    exact course.unserved_idle rfl failed
  · intro roster known nobody
    exact entry_childless known nobody
  · intro batch error failed
    obtain ⟨answer, front, _⟩ := course.fails failed
    exact ⟨answer, front⟩
  · intro error failed
    rw [failed] at course
    exact course.blamed rfl
  · intro answer told
    rcases ran : children source.watched queue session.watch with ⟨result, left, after⟩
    rw [entry_children ran] at told
    cases result with
    | error error => cases told
    | ok ids =>
      cases told
      obtain ⟨roster, chooses⟩ := entry_chosen ran
      exact ⟨ids, roster, rfl, chooses⟩

end Session
end Casebook
