import Casebook.Command
import Casebook.Proofs.Conjunction
import Casebook.Proofs.History

namespace Casebook

def lastOf (records : List Case) (id : CaseId) : Option Case := (records.filter (·.id == id)).getLast?

theorem lastOf_append (first second : List Case) (id : CaseId) :
    lastOf (first ++ second) id = (lastOf second id).or (lastOf first id) := by
  rw [lastOf, List.filter_append, List.getLast?_append, lastOf, lastOf]

theorem mem_of_lastOf {records : List Case} {id : CaseId} {record : Case} (last : lastOf records id = some record) :
    record ∈ records ∧ record.id = id := by
  simpa using List.mem_of_getLast? last

namespace Store
variable {held : CaseId → Option Case} {store : Store}

def overlaid (held : CaseId → Option Case) (records : List Case) (id : CaseId) : Option Case :=
  (lastOf records id).or (held id)

theorem overlaid_nil : overlaid held [] = held := by
  funext id
  rfl

theorem overlaid_append (first second : List Case) :
    overlaid held (first ++ second) = overlaid (overlaid held first) second := by
  funext id
  rw [overlaid, lastOf_append, Option.or_assoc]
  rfl

theorem overlaid_single (record : Case) : overlaid held [record] = Function.update held record.id (some record) := by
  funext id
  by_cases same : id = record.id
  · simp [overlaid, lastOf, same]
  · simp [overlaid, lastOf, same, Ne.symm same]

theorem overlaid_nothing (records : List Case) : overlaid (fun _ => none) records = lastOf records := by
  funext id
  simp [overlaid]

theorem Holds.putAll (holds : Holds held store) (records : List Case) :
    (Command.putAll records store).1 = .ok () ∧ Holds (overlaid held records) (Command.putAll records store).2 := by
  induction records generalizing held store with
  | nil => exact ⟨rfl, overlaid_nil ▸ holds⟩
  | cons record rest ih =>
    obtain ⟨done, further⟩ := holds.put record
    have step : Command.putAll (record :: rest) store = Command.putAll rest (store.put record).2 := by
      rw [Command.putAll]
      rcases put : store.put record with ⟨answer, after⟩
      rw [put] at done
      cases done
      rfl
    rw [step, ← List.singleton_append, overlaid_append, overlaid_single]
    exact ih further

end Store

namespace Command
open Store

variable {held : CaseId → Option Case} {store : Store}

def said : Except String String → Option (List ImportedCase)
  | .ok text => ImportedCase.listOfText text
  | .error _ => none

theorem import_said (holds : Holds held store) {content : Except String String} {inputs : List ImportedCase}
    (told : said content = some inputs) (format : Report.Format) :
    runImport content format store =
      (.ok (Report.message ("Imported " ++ toString inputs.length ++ " case(s)") format),
        (putAll (inputs.map ImportedCase.toCase) store).2) := by
  cases content with
  | error => cases told
  | ok text =>
    have done := (holds.putAll (inputs.map ImportedCase.toCase)).1
    have read : ImportedCase.listOfText text = some inputs := told
    unfold runImport
    dsimp only
    rw [read]
    dsimp only
    rcases put : putAll (inputs.map ImportedCase.toCase) store with ⟨answer, after⟩
    rw [put] at done
    cases done
    rfl

theorem import_unsaid {content : Except String String} (untold : said content = none) (format : Report.Format)
    (store : Store) : ∃ failure, runImport content format store = (.error failure, store) := by
  cases content with
  | error detail => exact ⟨_, rfl⟩
  | ok text =>
    have unread : ImportedCase.listOfText text = none := untold
    unfold runImport
    dsimp only
    rw [unread]
    exact ⟨_, rfl⟩

theorem select_reads (config : Config) (reference : Reference) (store : Store) :
    (select config reference store).2 = store := by
  have truthful := stored_truthful store
  unfold select
  dsimp only
  split
  · rename_i placed
    exact Session.positions_among truthful rfl placed
  · rename_i placed
    have stays := Session.positions_among truthful rfl placed
    split
    · rename_i known
      exact Session.roster_among truthful stays known
    · rename_i known
      exact Session.roster_among truthful stays known

theorem keyOf_reads (config : Config) (reference : Reference) (store : Store) :
    (keyOf config reference store).2 = store := by
  unfold keyOf
  split
  · rcases ran : Session.cacheKey .stored reference (start config store) with ⟨key, session⟩
    exact Session.cacheKey_among (stored_truthful store) rfl ran
  · rfl

-- Only an import writes: any other command leaves the store as it found it, whatever it answers.
theorem run_reads (config : Config) (format : Report.Format) (store : Store) {command : Command}
    (reads : ∀ content, command ≠ .importCases content) : (run config format store command).2 = store := by
  cases command with
  | importCases content => exact absurd rfl (reads content)
  | query text =>
    change (runQuery config text format store).2 = store
    unfold runQuery
    split
    · rfl
    · exact select_reads config _ store
  | cacheKey text =>
    change (runCacheKey config text format store).2 = store
    unfold runCacheKey
    split
    · rfl
    · exact keyOf_reads config _ store
  | stats =>
    change (runStats config store).2 = store
    unfold runStats
    split
    · rename_i known
      exact Session.roster_among (stored_truthful store) rfl known
    · rename_i known
      exact Session.roster_among (stored_truthful store) rfl known

structure Step where
  command : Command
  format : Report.Format
  deriving DecidableEq

namespace Step

-- The cases that a step imports; a document that cannot be read says none.
def records (step : Step) : List Case :=
  match step.command with
  | .importCases content => ((said content).getD []).map ImportedCase.toCase
  | _ => []

def answer (config : Config) (store : Store) (step : Step) : Except Failure String :=
  (run config step.format store step.command).1

def make (config : Config) (store : Store) (step : Step) : Store := (run config step.format store step.command).2

end Step

structure Reply where
  step : Step
  answer : Except Failure String
  size : Nat
  deriving DecidableEq

namespace Reply

def of (config : Config) (store : Store) (step : Step) : Reply :=
  ⟨step, step.answer config store, (step.make config store).size⟩

def imported (reply : Reply) : Bool :=
  match reply.step.command, reply.answer with
  | .importCases _, .ok _ => true
  | _, _ => false

end Reply

def afterwards (config : Config) (steps : List Step) (store : Store) : Store := steps.foldl (Step.make config) store

def replies (config : Config) : List Step → Store → List Reply
  | [], _ => []
  | step :: later, store => Reply.of config store step :: replies config later (step.make config store)

theorem make_holds (config : Config) (step : Step) (holds : Holds held store) :
    Holds (overlaid held step.records) (step.make config store) := by
  obtain ⟨command, format⟩ := step
  cases command with
  | importCases content =>
    change Holds (overlaid held (((said content).getD []).map ImportedCase.toCase)) (runImport content format store).2
    cases told : said content with
    | none =>
      obtain ⟨failure, failed⟩ := import_unsaid told format store
      rw [failed]
      exact overlaid_nil ▸ holds
    | some inputs =>
      rw [import_said holds told]
      exact (holds.putAll _).2
  | query | cacheKey | stats =>
    rw [Step.make, run_reads config format store (by simp)]
    exact overlaid_nil ▸ holds

theorem afterwards_holds (config : Config) (steps : List Step) (holds : Holds held store) :
    Holds (overlaid held (steps.flatMap Step.records)) (afterwards config steps store) := by
  induction steps generalizing held store with
  | nil => exact overlaid_nil ▸ holds
  | cons step later ih =>
    rw [List.flatMap_cons, overlaid_append]
    exact ih (make_holds config step holds)

theorem imports_held (config : Config) (steps : List Step) :
    Holds (lastOf (steps.flatMap Step.records)) (afterwards config steps .empty) := by
  have holds := afterwards_holds config steps holds_empty
  rwa [overlaid_nothing] at holds

-- A put never fails midway, so there is no import that fails after it has begun to put.
theorem make_idle (config : Config) (step : Step) (holds : Holds held store)
    (idle : (Reply.of config store step).imported = false) : step.make config store = store := by
  obtain ⟨command, format⟩ := step
  cases command with
  | importCases content =>
    change (runImport content format store).2 = store
    cases told : said content with
    | none =>
      obtain ⟨failure, failed⟩ := import_unsaid told format store
      rw [failed]
    | some inputs =>
      have done : (Reply.of config store ⟨.importCases content, format⟩).answer = .ok _ :=
        congrArg Prod.fst (import_said holds told format)
      unfold Reply.imported at idle
      rw [done] at idle
      cases idle
  | query | cacheKey | stats => exact run_reads config format store (by simp)

theorem replies_without (config : Config) (steps : List Step) (holds : Holds held store) {kept : List Reply}
    (thinner : kept.Sublist (replies config steps store))
    (imports : kept.filter Reply.imported = (replies config steps store).filter Reply.imported) :
    replies config (kept.map Reply.step) store = kept := by
  induction steps generalizing held store kept with
  | nil =>
    cases thinner
    rfl
  | cons step later ih =>
    rw [replies] at thinner imports
    have further := make_holds config step holds
    cases thinner with
    | cons _ behind =>
      cases did : (Reply.of config store step).imported with
      | true =>
        -- The imports that are kept all come behind this one, so they are fewer.
        have fewer := (behind.filter Reply.imported).length_le
        rw [imports, List.filter_cons_of_pos did, List.length_cons] at fewer
        omega
      | false =>
        have same := make_idle config step holds did
        rw [List.filter_cons_of_neg (by simp [did])] at imports
        rw [same] at behind imports
        exact ih holds behind imports
    | @cons_cons rest _ _ behind =>
      have others : rest.filter Reply.imported =
          (replies config later (step.make config store)).filter Reply.imported := by
        simp only [List.filter_cons] at imports
        split at imports
        · exact (List.cons.inj imports).2
        · exact imports
      exact congrArg (Reply.of config store step :: ·) (ih further behind others)

-- Any steps may be left out but imports that succeed: those that are kept report what they reported before.
theorem only_imports_matter (config : Config) (steps : List Step) (kept : List Reply)
    (thinner : kept.Sublist (replies config steps .empty))
    (imports : kept.filter Reply.imported = (replies config steps .empty).filter Reply.imported) :
    replies config (kept.map Reply.step) .empty = kept :=
  replies_without config steps holds_empty thinner imports

-- Two imports, with a query, a document cut short and a missing file between them.
def bobAndAnother : Step :=
  ⟨.importCases (.ok "[\x7b\"id\":1,\"columns\":\x7b\"name\":\"Bob\"\x7d\x7d,\x7b\"id\":2\x7d]"), .table⟩

def annAgain : Step :=
  ⟨.importCases (.ok "[\x7b\"id\":1,\"columns\":\x7b\"name\":\"Ann\"\x7d\x7d]"), .table⟩

def secondChild : Step := ⟨.cacheKey "/casedb/case[1]", .table⟩

def sitting : List Step :=
  [bobAndAnother, ⟨.query "/casedb/case[@name='Bob'", .json⟩, ⟨.importCases (.ok "[[3],"), .table⟩, annAgain,
    ⟨.importCases (.error "No such file or directory (os error 2)"), .json⟩, secondChild]

def sittingKept : List Reply :=
  [⟨bobAndAnother, .ok "Imported 2 case(s)", 2⟩, ⟨annAgain, .ok "Imported 1 case(s)", 2⟩,
    ⟨secondChild, .ok "/casedb/case[1]: cacheable=true, id=2", 2⟩]

theorem sitting_imports_matter :
    sittingKept.Sublist (replies {} sitting .empty) ∧
      sittingKept.filter Reply.imported = (replies {} sitting .empty).filter Reply.imported ∧
      replies {} (sittingKept.map Reply.step) .empty = sittingKept := by
  have thinner : sittingKept.Sublist (replies {} sitting .empty) := by decide +kernel
  have imports : sittingKept.filter Reply.imported = (replies {} sitting .empty).filter Reply.imported := by
    decide +kernel
  exact ⟨thinner, imports, only_imports_matter {} sitting sittingKept thinner imports⟩

end Command
end Casebook
