import Casebook.Proofs.Places
import Casebook.Proofs.Retry
import Casebook.Proofs.Transcript

namespace Casebook

namespace Roster
variable {roster : Roster} {reference other : Reference} {position : Position} {id : CaseId}

theorem keyOf_pinned (pinned : reference.pinnedPosition = some position) :
    Session.keyOf roster reference = roster.idAt position.toNat := by
  rw [Session.keyOf, pinned, Option.bind_some]

theorem keyOf_iff : Session.keyOf roster reference = some id ↔
    ∃ position, reference.pinnedPosition = some position ∧ roster.idAt position.toNat = some id :=
  Option.bind_eq_some_iff

theorem same_key_iff : (∃ id, Session.keyOf roster reference = some id ∧ Session.keyOf roster other = some id) ↔
    ∃ position, reference.pinnedPosition = some position ∧ other.pinnedPosition = some position ∧
      position.toNat < roster.size := by
  constructor
  · intro shared
    obtain ⟨id, key, key'⟩ := shared
    obtain ⟨position, pinned, here⟩ := keyOf_iff.mp key
    obtain ⟨position', pinned', there⟩ := keyOf_iff.mp key'
    have same : position.toNat = position'.toNat := by
      apply Option.some.inj
      rw [← idAt_iff.mp here, idAt_iff.mp there]
    cases UInt64.toNat_inj.mp same
    refine ⟨position, pinned, pinned', idAt_isSome.mp ?_⟩
    rw [here]
    rfl
  · intro together
    obtain ⟨position, pinned, pinned', below⟩ := together
    obtain ⟨id, there⟩ := Option.isSome_iff_exists.mp (idAt_isSome.mpr below)
    exact ⟨id, (keyOf_pinned pinned).trans there, (keyOf_pinned pinned').trans there⟩

end Roster

theorem Config.pinpoints_pinned {config : Config} {reference : Reference}
    (pinpoints : config.pinpoints reference = true) : ∃ position, reference.pinnedPosition = some position := by
  obtain ⟨_, _, _, pinned⟩ := Config.pinpoints_bare pinpoints
  exact pinned

namespace Session
variable {σ : Type} {source : Source σ} {content : Content} {states : σ → Prop} {session after : Session σ}
  {queue left : Queue} {reference : Reference}

-- What a collection is after any use of it, while its source stays among the states.
inductive Reached (source : Source σ) (states : σ → Prop) : Session σ → Prop where
  | fresh {config : Config} {state : σ} : states state → Reached source states (fresh config state)
  | operate {session : Session σ} {operation : Operation} : Reached source states session →
      Reached source states (operate source operation session).2.2
  -- Others ask the source as well.
  | turn {session : Session σ} {state : σ} : Reached source states session → states state →
      Reached source states ⟨state, session.collection⟩

structure Views (content : Content) (states : σ → Prop) (session : Session σ) : Prop where
  state : states session.source
  roster : session.collection.rosterOver content.ids = .ofIds content.ids

theorem Views.same (views : session.Views content states) (here : states after.source)
    (kept : after.collection.roster = session.collection.roster) : after.Views content states := by
  refine ⟨here, ?_⟩
  rw [Collection.rosterOver, kept]
  exact views.roster

theorem Views.loaded (truthful : source.Truthful content states) (views : session.Views content states)
    {answer : Except Error Roster} (ran : Session.roster source session = (answer, after)) :
    after.Views content states := by
  have here := roster_among truthful views.state ran
  cases answer with
  | error error => exact views.same here (congrArg Collection.roster (roster_failed ran).2)
  | ok roster =>
    refine ⟨here, ?_⟩
    rw [Collection.rosterOver, roster_ok ran, roster_told truthful views.state ran]
    exact views.roster

theorem Views.performed (truthful : source.Truthful content states) (views : session.Views content states)
    {batch : Batch} {answer : Except Error IdSet} (ran : perform source batch session = (answer, after)) :
    after.Views content states := by
  have stays := (truthful.lookup batch session.source views.state).1
  cases answer with
  | error error =>
    rw [(perform_failed ran).1] at stays
    exact views.same stays (congrArg Collection.roster (perform_failed ran).2)
  | ok ids =>
    rw [(perform_ok ran).1] at stays
    refine views.same stays ?_
    rw [(perform_ok ran).2, answered_roster]

theorem Views.answeredNext (truthful : source.Truthful content states) (views : session.Views content states)
    {answer : Except Error IdSet} (ran : answerNext source queue session = (answer, left, after)) :
    after.Views content states := by
  unfold answerNext at ran
  split at ran
  · cases ran
    exact views
  · split at ran
    all_goals
      rename_i performed
      cases ran
      exact views.performed truthful performed

theorem Views.chosen (truthful : source.Truthful content states) (views : session.Views content states)
    {answer : Except Error IdSet} (ran : children source queue session = (answer, left, after)) :
    after.Views content states := by
  have here := children_among truthful views.state ran
  cases answer with
  | error error =>
    obtain ⟨done, broken⟩ := children_failed ran
    exact ⟨here, (broken.roster truthful views.state).trans views.roster⟩
  | ok ids =>
    obtain ⟨roster, loaded, known, there⟩ := children_roster ran
    refine ⟨here, ?_⟩
    rw [Collection.rosterOver, there, roster_told truthful views.state known]
    exact views.roster

theorem Views.placed (truthful : source.Truthful content states) (views : session.Views content states)
    {answer : Except Error (List Nat)} (ran : positions source queue session = (answer, left, after)) :
    after.Views content states := by
  cases answer with
  | error error => exact views.chosen truthful (positions_failed_iff.mp ran)
  | ok found =>
    rcases chosen : children source queue session with ⟨result, left', last⟩
    cases result with
    | error error =>
      rw [positions_failed_iff.mpr chosen] at ran
      cases ran
    | ok ids =>
      obtain ⟨roster, loaded, known, placed⟩ := positions_ok chosen
      rw [placed] at ran
      cases ran
      exact views.chosen truthful chosen

theorem Views.asked (truthful : source.Truthful content states) (views : session.Views content states) {α : Type}
    (answer : Roster → α) : (fromRoster source answer session).2.Views content states := by
  unfold fromRoster
  rcases ran : Session.roster source session with ⟨result, loaded⟩
  have reached := views.loaded truthful ran
  cases result <;> exact reached

theorem Views.keyed (truthful : source.Truthful content states) (views : session.Views content states)
    (reference : Reference) : (cacheKey source reference session).2.Views content states := by
  unfold cacheKey
  rcases ran : Session.roster source session with ⟨result, loaded⟩
  have reached := views.loaded truthful ran
  cases result with
  | error error => exact reached
  | ok roster => exact reached.same reached.state rfl

theorem Views.operated (truthful : source.Truthful content states) (views : session.Views content states)
    (operation : Operation) : (operate source operation session).2.2.Views content states := by
  cases operation with
  | load => exact views.loaded truthful rfl
  | next queue => exact views.answeredNext truthful rfl
  | children queue => exact views.chosen truthful rfl
  | positions queue => exact views.placed truthful rfl
  | count => exact views.asked truthful Roster.size
  | idAt position => exact views.asked truthful fun roster => roster.idAt position
  | positionOf id => exact views.asked truthful fun roster => roster.positionOf id
  | cacheKey reference => exact views.keyed truthful reference

theorem Reached.views (truthful : source.Truthful content states) (reached : Reached source states session) :
    session.Views content states := by
  induction reached with
  | fresh here => exact ⟨here, rfl⟩
  | operate _ ih => exact ih.operated truthful _
  | turn _ here ih => exact ⟨here, ih.roster⟩

-- Whatever the source may refuse later, it has given its ids or does so when it is asked next.
def Opens (source : Source σ) (session : Session σ) : Prop := ∃ roster, (Session.roster source session).1 = .ok roster

theorem Views.opened (truthful : source.Truthful content states) (views : session.Views content states)
    (opens : Opens source session) : ∃ loaded, Session.roster source session = (.ok (.ofIds content.ids), loaded) := by
  obtain ⟨roster, told⟩ := opens
  rcases ran : Session.roster source session with ⟨answer, loaded⟩
  rw [ran] at told
  cases told
  have same := roster_told truthful views.state ran
  rw [views.roster] at same
  exact ⟨loaded, by rw [same]⟩

section Known
variable {roster : Roster} (known : Session.roster source session = (.ok roster, after))
include known

theorem fromRoster_known {α : Type} (answer : Roster → α) :
    (fromRoster source answer session).1 = .ok (answer roster) := by
  unfold fromRoster
  rw [known]

theorem cacheKey_known (reference : Reference) :
    (cacheKey source reference session).1 = .ok (keyOf roster reference) := by
  unfold cacheKey
  rw [known]

end Known

-- How the keys of one collection stand to the children of another one. Both may be the same, now or later.
structure Identifies (source : Source σ) (first second : Session σ) : Prop where
  children : ∀ reference position, reference.pinnedPosition = some position → ∃ key size,
    (cacheKey source reference first).1 = .ok key ∧ (count source second).1 = .ok size ∧
      (key.isSome = true ↔ position.toNat < size) ∧
      ∀ id, key = some id → (idAt source position.toNat second).1 = .ok (some id) ∧
        (positionOf source id second).1 = .ok (some position.toNat)
  pinned : ∀ reference, first.collection.config.pinpoints reference = true →
    ∃ position, reference.pinnedPosition = some position
  shared : ∀ reference other, ∃ key key' size,
    (cacheKey source reference first).1 = .ok key ∧ (cacheKey source other second).1 = .ok key' ∧
      (count source second).1 = .ok size ∧
      ((∃ id, key = some id ∧ key' = some id) ↔ ∃ position, reference.pinnedPosition = some position ∧
        other.pinnedPosition = some position ∧ position.toNat < size)
  -- A word holds every position, so there is a reference to each of them.
  selected : ∀ queue ids, (Session.children source queue first).1 = .ok ids →
    (∃ places, (positions source queue first).1 = .ok places ∧ (∀ place ∈ places, place < UInt64.size) ∧
      ∀ reference position, reference.pinnedPosition = some position → ∃ key,
        (cacheKey source reference second).1 = .ok key ∧ (position.toNat ∈ places ↔ ∃ id ∈ ids, key = some id)) ∧
    ∀ others, (Session.children source queue second).1 = .ok others → others = ids

theorem keys_identify (truthful : source.Truthful content states) {first second : Session σ}
    (reached : Reached source states first) (reached' : Reached source states second) (opens : Opens source first)
    (opens' : Opens source second) : Identifies source first second := by
  have views := reached.views truthful
  have views' := reached'.views truthful
  obtain ⟨loaded, known⟩ := views.opened truthful opens
  obtain ⟨loaded', known'⟩ := views'.opened truthful opens'
  refine ⟨?_, fun _ => Config.pinpoints_pinned, ?_, ?_⟩
  · intro reference position pinned
    refine ⟨_, _, cacheKey_known known reference, fromRoster_known known' Roster.size, ?_, ?_⟩
    · rw [Roster.keyOf_pinned pinned]
      exact Roster.idAt_isSome
    · intro id key
      rw [Roster.keyOf_pinned pinned] at key
      rw [idAt, positionOf, fromRoster_known known', fromRoster_known known', key, Roster.idAt_iff.mp key]
      exact ⟨rfl, rfl⟩
  · intro reference other
    exact ⟨_, _, _, cacheKey_known known reference, cacheKey_known known' other, fromRoster_known known' Roster.size,
      Roster.same_key_iff⟩
  · intro queue ids chosen
    have members := children_members truthful known (views.loaded truthful known).state chosen
    rcases ran : Session.children source queue first with ⟨answer, left, after⟩
    rw [ran] at chosen
    cases chosen
    obtain ⟨roster, _, known'', placed⟩ := positions_ok ran
    rw [known] at known''
    cases known''
    refine ⟨⟨_, congrArg Prod.fst placed, ?_, ?_⟩, ?_⟩
    · intro place member
      obtain ⟨id, _, there⟩ := Roster.mem_positionsOf.mp member
      have below : place < (Roster.ofIds content.ids).size := Roster.idAt_isSome.mp (by rw [there]; rfl)
      exact Nat.lt_of_lt_of_le below (Roster.size_le _)
    · intro reference position pinned
      refine ⟨_, cacheKey_known known' reference, ?_⟩
      rw [Roster.keyOf_pinned pinned]
      exact Roster.mem_positionsOf
    · intro others chosen'
      have members' := children_members truthful known' (views'.loaded truthful known').state chosen'
      apply IdSet.eq_of_members
      intro id
      rw [members, members']

-- The scan gives the first id again, and a lookup knows an id that is no child.
def repeating : Memory := { ids := [5, 6, 5, 7], rows := [⟨6, [("name", "Ann")]⟩, ⟨9, [("name", "Ann")]⟩] }

def askedBefore : Session Memory :=
  (operate .memory (.children [.column "name" "Ann"]) (fresh { collectionName := "archive" } repeating)).2.2

def thirdChild : Reference := ⟨true, [⟨"casedb", none, []⟩, ⟨"case", some 2, []⟩]⟩

theorem repeating_keys_identify :
    Reached .memory (·.healthy = repeating.healthy) (fresh {} repeating) ∧
      Reached .memory (·.healthy = repeating.healthy) askedBefore ∧
      Opens .memory (fresh {} repeating) ∧ Opens .memory askedBefore ∧
      Identifies .memory (fresh {} repeating) askedBefore ∧
      (cacheKey .memory thirdChild (fresh {} repeating)).1 = .ok (some 7) := by
  have unused : Reached .memory (·.healthy = repeating.healthy) (fresh {} repeating) := .fresh rfl
  have used : Reached .memory (·.healthy = repeating.healthy) askedBefore := .operate (.fresh rfl)
  have opens : Opens .memory (fresh {} repeating) := ⟨.ofIds [5, 6, 5, 7], by decide⟩
  have opens' : Opens .memory askedBefore := ⟨.ofIds [5, 6, 5, 7], by decide⟩
  exact ⟨unused, used, opens, opens', keys_identify repeating.truthful unused used opens opens', by decide⟩

end Session
end Casebook
