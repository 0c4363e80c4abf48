import Casebook.Proofs.Taking
import Casebook.Source.Memory

namespace Casebook.Session
variable {σ : Type} {source : Source σ} {session middle after : Session σ} {queue left : Queue} {batch : Batch}
  {batches later rest : List Batch} {ids : IdSet} {running result : Option IdSet} {error : Error} {roster : Roster}

theorem answerNext_ofBatches (cut : Queue.Cut (batch :: later)) :
    answerNext source (Queue.ofBatches (batch :: later)) session =
      match perform source batch session with
      | (.error error, session) => (.error error, Queue.ofBatches (batch :: later), session)
      | (.ok ids, session) => (.ok ids, Queue.ofBatches later, session) := by
  have front := Queue.batches_ofBatches cut
  unfold answerNext
  split
  · rename_i nothing
    rw [front] at nothing
    cases nothing
  · rename_i parts
    rw [front] at parts
    cases parts
    rfl

theorem answerNext_shorter (ran : answerNext source queue session = (.ok ids, left, after)) :
    left.length < queue.length := by
  rw [answerNext_takes] at ran
  exact takeNext_shorter ran

-- The rule begins with all children and keeps those in the answer to the next batch, until the queue or the set is empty.
-- A resolution begins with the first answer instead and looks at the children at its end.
def keepByRule (source : Source σ) (running : IdSet) (queue : Queue) (session : Session σ) : Resolved IdSet σ :=
  if queue.isEmpty || running.isEmpty then (.ok running, queue, session)
  else
    match _ : answerNext source queue session with
    | (.error error, left, session) => (.error error, left, session)
    | (.ok ids, left, session) => keepByRule source (running.inter ids) left session
termination_by queue.length
decreasing_by
  rename_i ran
  exact answerNext_shorter ran

def childrenByRule (source : Source σ) (queue : Queue) (session : Session σ) : Resolved IdSet σ :=
  match Session.roster source session with
  | (.error error, session) => (.error error, queue, session)
  | (.ok roster, session) => keepByRule source roster.idSet queue session

theorem keepByRule_end (kept : IdSet) : keepByRule source kept [] session = (.ok kept, [], session) := by
  unfold keepByRule
  rfl

theorem keepByRule_nobody {kept : IdSet} (nobody : kept.isEmpty = true) :
    keepByRule source kept queue session = (.ok kept, queue, session) := by
  unfold keepByRule
  rw [nobody, Bool.or_true, if_pos rfl]

theorem keepByRule_step {kept : IdSet} (cut : Queue.Cut (batch :: later)) (somebody : kept.isEmpty = false) :
    keepByRule source kept (Queue.ofBatches (batch :: later)) session =
      match perform source batch session with
      | (.error error, session) => (.error error, Queue.ofBatches (batch :: later), session)
      | (.ok ids, session) => keepByRule source (kept.inter ids) (Queue.ofBatches later) session := by
  have asks : (Queue.ofBatches (batch :: later)).isEmpty = false := by
    have positive := Queue.ofBatches_cons_length cut.1 later
    cases queue : Queue.ofBatches (batch :: later) with
    | nil => simp [queue] at positive
    | cons => rfl
  rw [keepByRule, asks, somebody, Bool.or_false, if_neg Bool.false_ne_true]
  split
  · rename_i ran
    rw [answerNext_ofBatches cut] at ran
    split at ran
    · cases ran
      rfl
    · cases ran
  · rename_i ran
    rw [answerNext_ofBatches cut] at ran
    split at ran
    · cases ran
    · cases ran
      rfl

def closed (roster : Roster) : Except Error (Option IdSet) × List Batch × Session σ → Resolved IdSet σ
  | (.error error, left, session) => (.error error, Queue.ofBatches left, session)
  | (.ok running, left, session) => (.ok (chosen roster running), Queue.ofBatches left, session)

theorem children_closed (known : Session.roster source session = (.ok roster, after)) (inhabited : roster.ids ≠ []) :
    children source queue session = closed roster (narrow source none after queue.batches) := by
  have somebody : roster.isEmpty = false := List.isEmpty_eq_false_iff.mpr inhabited
  unfold children
  rw [known]
  dsimp only
  rw [somebody, if_neg Bool.false_ne_true]
  rcases narrow source none after queue.batches with ⟨answer, rest, last⟩
  cases answer <;> rfl

-- The answers so far agree on some ids, none of them a child, and a batch is left to be asked.
def Strays (source : Source σ) (roster : Roster) (running : Option IdSet) (session : Session σ)
    (batches : List Batch) : Prop :=
  ∃ done next later sets after, batches = done ++ next :: later ∧ Answered source session done sets after ∧
    (∃ id, Passes running id ∧ ∀ ids ∈ sets, id ∈ ids) ∧
    ∀ id ∈ roster.ids, ¬ (Passes running id ∧ ∀ ids ∈ sets, id ∈ ids)

def Visible (roster : Roster) (running : Option IdSet) : Prop := ∃ id ∈ roster.ids, Passes running id

theorem chosen_somebody (visible : Visible roster running) : (chosen roster running).isEmpty = false := by
  obtain ⟨id, child, passes⟩ := visible
  refine Bool.eq_false_iff.mpr fun nobody => ?_
  exact IdSet.isEmpty_exact.mp nobody id (mem_chosen.mpr ⟨child, passes⟩)

theorem chosen_nobody (hidden : ¬ Visible roster running) : chosen roster running = .empty := by
  refine IdSet.eq_of_members fun id => ?_
  rw [mem_chosen]
  constructor
  · intro comes
    obtain ⟨child, passes⟩ := comes
    exact absurd ⟨id, child, passes⟩ hidden
  · intro member
    exact absurd member (IdSet.not_mem_empty id)

theorem chosen_isEmpty (hidden : ¬ Visible roster running) : (chosen roster running).isEmpty = true := by
  rw [chosen_nobody hidden]
  rfl

theorem chosen_inter : (chosen roster running).inter ids = chosen roster (some (narrowed running ids)) := by
  refine IdSet.eq_of_members fun id => ?_
  rw [IdSet.mem_inter, mem_chosen, mem_chosen, passes_narrowed, and_assoc]

-- Where a child is still in sight the straying lies behind the next batch.
theorem strays_cons (visible : Visible roster running) :
    Strays source roster running session (batch :: later) ↔
      ∃ ids middle, perform source batch session = (.ok ids, middle) ∧
        Strays source roster (some (narrowed running ids)) middle later := by
  constructor
  · intro strays
    obtain ⟨done, next, behind, sets, last, parts, answered, agree, outside⟩ := strays
    cases answered with
    | nil =>
      obtain ⟨id, child, passes⟩ := visible
      exact absurd ⟨passes, by simp⟩ (outside id child)
    | @cons _ middle _ _ rest ids sets step answered =>
      cases parts
      simp only [List.forall_mem_cons, ← and_assoc, ← passes_narrowed] at agree outside
      exact ⟨ids, middle, step, rest, next, behind, sets, last, rfl, answered, agree, outside⟩
  · intro further
    obtain ⟨ids, middle, step, done, next, behind, sets, last, rfl, answered, agree, outside⟩ := further
    refine ⟨batch :: done, next, behind, ids :: sets, last, rfl, .cons step answered, ?_, ?_⟩
    · simpa only [List.forall_mem_cons, ← and_assoc, ← passes_narrowed] using agree
    · simpa only [List.forall_mem_cons, ← and_assoc, ← passes_narrowed] using outside

theorem follows_rule (cut : Queue.Cut batches) (visible : Visible roster running)
    (straight : ¬ Strays source roster running session batches) :
    closed roster (narrow source running session batches) =
      keepByRule source (chosen roster running) (Queue.ofBatches batches) session := by
  induction batches generalizing running session with
  | nil => exact (keepByRule_end _).symm
  | cons batch later ih =>
    rw [keepByRule_step cut (chosen_somebody visible), narrow]
    rcases performed : perform source batch session with ⟨answer, middle⟩
    cases answer with
    | error error => rfl
    | ok ids =>
      dsimp only
      rw [chosen_inter]
      by_cases inSight : Visible roster (some (narrowed running ids))
      · split
        · rename_i nothing
          obtain ⟨id, _, passes⟩ := inSight
          exact absurd passes (IdSet.isEmpty_exact.mp nothing id)
        · refine ih cut.2.2 inSight fun strays => straight ?_
          exact (strays_cons visible).mpr ⟨ids, middle, performed, strays⟩
      · rw [keepByRule_nobody (chosen_isEmpty inSight)]
        split
        · rfl
        · rename_i something
          -- Some id has come through, and no child: only where nothing is left to ask is that the end of both.
          cases later with
          | nil => rfl
          | cons next behind =>
            obtain ⟨id, passes⟩ := IdSet.exists_mem something
            refine absurd ((strays_cons visible).mpr ⟨ids, middle, performed, ?_⟩) straight
            refine ⟨[], next, behind, [], middle, rfl, .nil, ⟨id, passes, by simp⟩, ?_⟩
            intro other child agreed
            exact inSight ⟨other, child, agreed.1⟩

theorem narrow_shorter (cut : Queue.Cut (batch :: later)) {id : CaseId} (passes : Passes running id)
    (ran : narrow source running session (batch :: later) = (.ok result, rest, after)) :
    (Queue.ofBatches rest).length < (Queue.ofBatches (batch :: later)).length := by
  obtain ⟨done, sets, parts, answered, through, stopped⟩ := narrow_ok ran
  cases answered with
  | nil =>
    have more : rest ≠ [] := by
      rw [List.nil_append] at parts
      simp [← parts]
    exact absurd ((through id).mpr ⟨passes, by simp⟩) (stopped more id)
  | @cons _ _ _ _ asked _ _ _ _ =>
    rw [List.cons_append, List.cons.injEq] at parts
    have shorter := Queue.ofBatches_cons_length cut.1 later
    have whole : (Queue.ofBatches later).length = (Queue.ofBatches asked).length + (Queue.ofBatches rest).length := by
      rw [parts.2, Queue.ofBatches_append, List.length_append]
    omega

theorem strays_outcome (cut : Queue.Cut batches) (visible : Visible roster running)
    (strays : Strays source roster running session batches) :
    (keepByRule source (chosen roster running) (Queue.ofBatches batches) session).1 = .ok .empty ∧
      ((∃ error, (closed roster (narrow source running session batches)).1 = .error error) ∨
        (closed roster (narrow source running session batches)).1 = .ok .empty ∧
          (closed roster (narrow source running session batches)).2.1.length <
            (keepByRule source (chosen roster running) (Queue.ofBatches batches) session).2.1.length) := by
  induction batches generalizing running session with
  | nil =>
    obtain ⟨done, next, behind, _, _, parts, _⟩ := strays
    simp at parts
  | cons batch later ih =>
    obtain ⟨ids, middle, performed, further⟩ := (strays_cons visible).mp strays
    have ahead := further
    obtain ⟨done, next, behind, _, _, parts, _, ⟨id, passes, _⟩, _⟩ := ahead
    have something : ¬ (narrowed running ids).isEmpty = true := fun nothing =>
      IdSet.isEmpty_exact.mp nothing id passes
    rw [keepByRule_step cut (chosen_somebody visible), narrow, performed]
    dsimp only
    rw [chosen_inter, if_neg something]
    by_cases inSight : Visible roster (some (narrowed running ids))
    · exact ih cut.2.2 inSight further
    · rw [keepByRule_nobody (chosen_isEmpty inSight), chosen_nobody inSight]
      refine ⟨rfl, ?_⟩
      rcases narrowing : narrow source (some (narrowed running ids)) middle later with ⟨answer, rest, last⟩
      cases answer with
      | error error => exact .inl ⟨error, rfl⟩
      | ok result =>
        obtain ⟨_, _, _, _, through, _⟩ := narrow_ok narrowing
        have hidden : ¬ Visible roster result := by
          intro visible
          obtain ⟨other, child, comes⟩ := visible
          exact inSight ⟨other, child, ((through other).mp comes).1⟩
        refine .inr ⟨congrArg Except.ok (chosen_nobody hidden), ?_⟩
        cases later with
        | nil => simp at parts
        | cons => exact narrow_shorter cut.2.2 passes narrowing

def AsksInVain (source : Source σ) (queue : Queue) (session : Session σ) : Prop :=
  ∃ roster loaded done next later sets after, Session.roster source session = (.ok roster, loaded) ∧
    roster.ids ≠ [] ∧ queue.batches = done ++ next :: later ∧ Answered source loaded done sets after ∧
    (∃ id, ∀ ids ∈ sets, id ∈ ids) ∧ ∀ id ∈ roster.ids, ∃ ids ∈ sets, id ∉ ids

theorem asksInVain_iff (known : Session.roster source session = (.ok roster, middle)) (inhabited : roster.ids ≠ []) :
    AsksInVain source queue session ↔ Strays source roster none middle queue.batches := by
  constructor
  · intro vain
    obtain ⟨_, _, done, next, later, sets, after, known', _, parts, answered, ⟨id, agreed⟩, outside⟩ := vain
    rw [known] at known'
    cases known'
    refine ⟨done, next, later, sets, after, parts, answered, ⟨id, trivial, agreed⟩, ?_⟩
    intro other child comes
    obtain ⟨ids, member, missing⟩ := outside other child
    exact missing (comes.2 ids member)
  · intro strays
    obtain ⟨done, next, later, sets, after, parts, answered, ⟨id, _, agreed⟩, outside⟩ := strays
    refine ⟨roster, middle, done, next, later, sets, after, known, inhabited, parts, answered, ⟨id, agreed⟩, ?_⟩
    intro other child
    have missing := outside other child
    simpa [Passes] using missing

theorem children_by_rule (straight : ¬ AsksInVain source queue session) :
    children source queue session = childrenByRule source queue session := by
  unfold childrenByRule
  rcases known : Session.roster source session with ⟨answer, loaded⟩
  cases answer with
  | error error =>
    unfold children
    rw [known]
  | ok roster =>
    by_cases nobody : roster.ids = []
    · have empty : roster.idSet = .empty := by
        refine IdSet.eq_of_members fun id => ?_
        simp [Roster.mem_idSet, nobody, IdSet.not_mem_empty]
      have nothing : roster.isEmpty = true := List.isEmpty_iff.mpr nobody
      unfold children
      rw [known]
      dsimp only
      rw [empty, keepByRule_nobody rfl, if_pos nothing]
    · rw [asksInVain_iff known nobody] at straight
      obtain ⟨id, child⟩ := List.exists_mem_of_ne_nil _ nobody
      have visible : Visible roster none := ⟨id, child, trivial⟩
      have followed := follows_rule (Queue.cut_batches queue) visible straight
      rw [children_closed known nobody, followed, Queue.ofBatches_batches]
      rfl

theorem children_in_vain (vain : AsksInVain source queue session) :
    (childrenByRule source queue session).1 = .ok .empty ∧
      ((∃ error, (children source queue session).1 = .error error) ∨
        (children source queue session).1 = .ok .empty ∧
          (children source queue session).2.1.length < (childrenByRule source queue session).2.1.length) := by
  have asked := vain
  obtain ⟨roster, loaded, _, _, _, _, _, known, inhabited, _⟩ := asked
  obtain ⟨id, child⟩ := List.exists_mem_of_ne_nil _ inhabited
  have visible : Visible roster none := ⟨id, child, trivial⟩
  have outcome := strays_outcome (Queue.cut_batches queue) visible ((asksInVain_iff known inhabited).mp vain)
  rw [← children_closed known inhabited, Queue.ofBatches_batches] at outcome
  unfold childrenByRule
  rw [known]
  exact outcome

-- Only in vain do they differ, and then they differ for whoever asked: either a lookup that the rule does not
-- make fails, or fewer predicates are left. No set is ever wrong.
theorem children_follow_rule_iff (source : Source σ) (queue : Queue) (session : Session σ) :
    (children source queue session = childrenByRule source queue session ↔ ¬ AsksInVain source queue session) ∧
      (AsksInVain source queue session →
        (childrenByRule source queue session).1 = .ok .empty ∧
          ((∃ error, (children source queue session).1 = .error error) ∨
            (children source queue session).1 = .ok .empty ∧
              (children source queue session).2.1.length < (childrenByRule source queue session).2.1.length)) := by
  refine ⟨⟨?_, children_by_rule⟩, children_in_vain⟩
  intro same vain
  obtain ⟨ruled, ⟨error, failed⟩ | ⟨_, shorter⟩⟩ := children_in_vain vain
  · rw [same, ruled] at failed
    cases failed
  · rw [same] at shorter
    exact Nat.lt_irrefl _ shorter

-- One child, and a row that came after the scan.
def strangers : Memory := { ids := [1], rows := [⟨99, [("name", "Bob")]⟩] }

def askedOfStrangers : Queue := [.column "name" "Bob", .relationship "parent" "P1"]

theorem strangers_asked_in_vain :
    (children .memory askedOfStrangers ⟨strangers, {}⟩).2.1 = [] ∧
      (childrenByRule .memory askedOfStrangers ⟨strangers, {}⟩).2.1 = [.relationship "parent" "P1"] ∧
      children .memory askedOfStrangers ⟨strangers, {}⟩ ≠ childrenByRule .memory askedOfStrangers ⟨strangers, {}⟩ := by
  have asked : (children .memory askedOfStrangers ⟨strangers, {}⟩).2.1 = [] := by decide +kernel
  have ruled : (childrenByRule .memory askedOfStrangers ⟨strangers, {}⟩).2.1 = [.relationship "parent" "P1"] := by
    have cut : Queue.Cut [.columns ["name"] ["Bob"], .relationship "parent" "P1"] := Queue.cut_batches askedOfStrangers
    change (keepByRule .memory (.ofList [1])
      (Queue.ofBatches [.columns ["name"] ["Bob"], .relationship "parent" "P1"]) ⟨strangers, _⟩).2.1 = _
    rw [keepByRule_step cut (by decide)]
    change (keepByRule .memory _ (Queue.ofBatches [.relationship "parent" "P1"]) ⟨strangers, _⟩).2.1 = _
    rw [keepByRule_nobody (by decide +kernel)]
    rfl
  refine ⟨asked, ruled, ?_⟩
  intro same
  rw [same, ruled] at asked
  cases asked

end Casebook.Session
