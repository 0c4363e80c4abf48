import Casebook.Proofs.Conjunction
import Casebook.Proofs.Places
import Casebook.Proofs.Records
import Casebook.Proofs.Steps

namespace Casebook

-- What a predicate asks for: a key behind the marker names a relationship, every other key names a column.
inductive Predicate.Asks (marker : String) : Predicate → Routed → Prop where
  | relationship {name value : String} : marker ≠ "" → Asks marker ⟨marker ++ name, value⟩ (.relationship name value)
  | column {key value : String} : (marker = "" ∨ ∀ name, key ≠ marker ++ name) →
      Asks marker ⟨key, value⟩ (.column key value)

def Routed.name : Routed → String
  | .column name _ => name
  | .relationship name _ => name

namespace Case

def Has (record : Case) : Routed → Prop
  | .column name value => record.column? name = some value
  | .relationship name value => ⟨name, value⟩ ∈ record.edges

def Meets (record : Case) (marker : String) (predicate : Predicate) : Prop :=
  ∃ routed, predicate.Asks marker routed ∧ record.Has routed

def ShortNames (record : Case) : Prop :=
  (∀ column ∈ record.columns, Store.Key.IsShort column.1) ∧ ∀ edge ∈ record.edges, Store.Key.IsShort edge.name

instance (record : Case) : Decidable record.ShortNames := inferInstanceAs (Decidable (_ ∧ _))

end Case

-- How many ids there are below an id; one that is imported again counts once.
def rank (records : List Case) (id : CaseId) : Nat := (distinctIds (records.map Case.id)).countP (· < id)

structure Selected (records : List Case) (marker : String) (predicates : List Predicate) (rows : List Report.Row) :
    Prop where
  ascending : rows.Pairwise fun row later => row.record.id < later.record.id
  members : ∀ row, row ∈ rows ↔ lastOf records row.record.id = some row.record ∧
    (∀ predicate ∈ predicates, row.record.Meets marker predicate) ∧ row.position = rank records row.record.id

namespace Routed
variable {marker : String} {predicate : Predicate} {routed : Routed}

theorem asks_ofPredicate (marker : String) (predicate : Predicate) :
    predicate.Asks marker (ofPredicate marker predicate) := by
  obtain ⟨key, value⟩ := predicate
  unfold ofPredicate
  split
  · rename_i name starts
    have spelled : key = marker ++ String.ofList name := by
      rw [← String.toList_inj, String.toList_append, String.toList_ofList]
      exact without_exact.mp starts
    split
    · rename_i empty
      exact .column (.inl (String.isEmpty_iff.mp empty))
    · rename_i marked
      rw [spelled]
      exact .relationship fun empty => marked (String.isEmpty_iff.mpr empty)
  · rename_i differs
    refine .column (.inr ?_)
    intro name spelled
    have starts : without marker.toList key.toList = some name.toList := by
      rw [without_exact, spelled, String.toList_append]
    rw [starts] at differs
    cases differs

theorem ofPredicate_of_asks (asks : predicate.Asks marker routed) : ofPredicate marker predicate = routed := by
  cases asks with
  | @relationship name value marked =>
    have starts : without marker.toList (marker ++ name).toList = some name.toList := by
      rw [without_exact, String.toList_append]
    have nonempty : ¬ marker.isEmpty = true := fun empty => marked (String.isEmpty_iff.mp empty)
    unfold ofPredicate
    rw [starts]
    dsimp only
    rw [if_neg nonempty, String.ofList_toList]
  | @column key value unmarked =>
    have told := asks_ofPredicate marker ⟨key, value⟩
    cases asked : ofPredicate marker ⟨key, value⟩ with
    | column other target =>
      rw [asked] at told
      cases told
      rfl
    | relationship other target =>
      rw [asked] at told
      generalize again : key = spelled at told
      cases told with
      | relationship marked =>
        rcases unmarked with empty | differs
        · exact absurd empty marked
        · exact absurd again (differs other)

theorem asks_iff : predicate.Asks marker routed ↔ ofPredicate marker predicate = routed := by
  refine ⟨ofPredicate_of_asks, ?_⟩
  rintro rfl
  exact asks_ofPredicate marker predicate

end Routed

theorem Case.meets_iff {record : Case} {marker : String} {predicate : Predicate} :
    record.Meets marker predicate ↔ record.Has (Routed.ofPredicate marker predicate) := by
  unfold Case.Meets
  simp only [Routed.asks_iff, exists_eq_left']

namespace Command
open Store

variable {held : CaseId → Option Case} {store : Store}

def rowOf (held : CaseId → Option Case) (roster : Roster) (position : Nat) : Option Report.Row :=
  ((roster.idAt position).bind held).map fun record => ⟨position, record⟩

theorem rowsAt_held (holds : Holds held store) (roster : Roster) (positions : List Nat) :
    rowsAt store roster positions = .ok (positions.filterMap (rowOf held roster)) := by
  have each : rowAt store roster = fun position => pure (rowOf held roster position) := by
    funext position
    unfold rowAt rowOf
    cases roster.idAt position with
    | none => rfl
    | some id =>
      dsimp only
      rw [holds.get]
      rfl
  unfold rowsAt
  rw [each, List.mapM_pure]
  change Except.ok ((positions.map (rowOf held roster)).filterMap id) = _
  rw [List.filterMap_map]
  rfl

theorem rowOf_iff {roster : Roster} (own : ∀ id record, held id = some record → record.id = id) {position : Nat}
    {row : Report.Row} :
    rowOf held roster position = some row ↔
      row.position = position ∧ held row.record.id = some row.record ∧ roster.idAt position = some row.record.id := by
  rw [rowOf, Option.map_eq_some_iff]
  constructor
  · intro shown
    obtain ⟨record, there, rfl⟩ := shown
    obtain ⟨id, here, kept⟩ := Option.bind_eq_some_iff.mp there
    cases own id record kept
    exact ⟨rfl, kept, here⟩
  · intro there
    obtain ⟨rfl, kept, here⟩ := there
    exact ⟨row.record, Option.bind_eq_some_iff.mpr ⟨_, here, kept⟩, rfl⟩

theorem mem_rows {roster : Roster} {found : IdSet} (own : ∀ id record, held id = some record → record.id = id)
    {row : Report.Row} :
    row ∈ (roster.positionsOf found).filterMap (rowOf held roster) ↔
      held row.record.id = some row.record ∧ row.record.id ∈ found ∧ roster.idAt row.position = some row.record.id := by
  rw [List.mem_filterMap]
  constructor
  · intro there
    obtain ⟨position, among, shown⟩ := there
    obtain ⟨rfl, kept, here⟩ := (rowOf_iff own).mp shown
    obtain ⟨id, member, here'⟩ := Roster.mem_positionsOf.mp among
    cases here.symm.trans here'
    exact ⟨kept, member, here⟩
  · intro there
    obtain ⟨kept, member, here⟩ := there
    exact ⟨row.position, Roster.mem_positionsOf.mpr ⟨_, member, here⟩, (rowOf_iff own).mpr ⟨rfl, kept, here⟩⟩

theorem rows_ascending {roster : Roster} (ordered : roster.ids.Pairwise (· < ·)) (found : IdSet)
    (own : ∀ id record, held id = some record → record.id = id) :
    ((roster.positionsOf found).filterMap (rowOf held roster)).Pairwise
      fun row later => row.record.id < later.record.id := by
  refine List.Pairwise.filterMap _ ?_ (roster.positionsOf_ascending found)
  intro position later before row shown behind shown'
  exact Roster.idAt_below ordered before ((rowOf_iff own).mp shown).2.2 ((rowOf_iff own).mp shown').2.2

-- The children of a store are its ids, and they stay the same while it is asked.
theorem start_roster (holds : Holds held store) (config : Config) :
    ∃ roster loaded, Session.roster .stored (start config store) = (.ok roster, loaded) ∧ loaded.source = store ∧
      roster.ids.Pairwise (· < ·) ∧ ∀ id, id ∈ roster.ids ↔ (held id).isSome = true := by
  obtain ⟨ids, listed, ascending, members, _⟩ := holds.answers.ids
  have known : Session.roster .stored (start config store) =
      (.ok (.ofIds ids), ⟨store, (start config store).collection.enrolled (.ofIds ids)⟩) := by
    unfold Session.roster start
    dsimp only [Source.stored]
    rw [listed]
  have same : (Roster.ofIds ids).ids = ids := distinctIds_distinct (ascending.imp UInt64.ne_of_lt)
  refine ⟨_, _, known, rfl, ?_⟩
  rw [same]
  exact ⟨ascending, members⟩

theorem select_placed {config : Config} {reference : Reference} {places : List Nat} {left : Queue}
    {after : Session Store} {roster : Roster}
    (placed : Session.positions .stored ((start config store).collection.queue reference.finalPredicates)
      (start config store) = (.ok places, left, after)) (there : after.collection.roster = some roster) :
    select config reference store =
      ((rowsAt store roster places).map fun rows => (rows, after.collection.hint), store) := by
  have here : after.source = store := Session.positions_among (stored_truthful store) rfl placed
  unfold select
  dsimp only
  rw [placed]
  dsimp only
  rw [Session.roster_loaded there]
  dsimp only
  rw [here]

theorem select_held (holds : Holds held store) (config : Config) (reference : Reference) :
    ∃ (roster : Roster) (found : IdSet) (hint : Option Hint),
      roster.ids.Pairwise (· < ·) ∧ (∀ id, id ∈ roster.ids ↔ (held id).isSome = true) ∧
      (∀ id, id ∈ found ↔ id ∈ roster.ids ∧
        ∀ routed ∈ Queue.ofPredicates config.relationshipMarker reference.finalPredicates, id ∈ store.meeting routed) ∧
      select config reference store = (.ok ((roster.positionsOf found).filterMap (rowOf held roster), hint), store) := by
  obtain ⟨roster, loaded, known, here, ordered, members⟩ := start_roster holds config
  obtain ⟨found, answered, chosen⟩ :=
    Session.stored_children known here ((start config store).collection.queue reference.finalPredicates)
  rcases ran : Session.children .stored _ (start config store) with ⟨result, left, after⟩
  rw [ran] at answered
  cases answered
  obtain ⟨_, _, known', there⟩ := Session.children_roster ran
  obtain ⟨_, _, known'', placed⟩ := Session.positions_ok ran
  rw [known] at known' known''
  cases known'
  cases known''
  refine ⟨roster, found, after.collection.hint, ordered, members, chosen, ?_⟩
  rw [select_placed placed there, rowsAt_held holds]
  rfl

theorem records_distinct {steps : List Step} {record : Case} (member : record ∈ steps.flatMap Step.records) :
    record.Distinct := by
  obtain ⟨⟨command, format⟩, _, among⟩ := List.mem_flatMap.mp member
  cases command with
  | importCases content =>
    obtain ⟨input, _, rfl⟩ := List.mem_map.mp among
    exact input.toCase_kept.2
  | query | cacheKey | stats => cases among

theorem mem_meeting (holds : Holds held store) (distinct : ∀ id record, held id = some record → record.Distinct)
    (stored : ∀ id record, held id = some record → record.ShortNames) {routed : Routed}
    (asked : Key.IsShort routed.name) {id : CaseId} :
    id ∈ store.meeting routed ↔ ∃ record, held id = some record ∧ record.Has routed := by
  cases routed with
  | column name value =>
    have short : Key.IsShort name := asked
    change id ∈ store.columns.find name value ↔ _
    rw [holds.columns.find_short short fun id record there => (stored id record there).1]
    apply exists_congr
    intro record
    apply and_congr_right
    intro there
    exact (distinct id record there).column_iff.symm
  | relationship name value =>
    exact holds.answers.withShortEdge name asked (fun id record there => (stored id record there).2) value id

theorem lastOf_isSome {records : List Case} {id : CaseId} :
    (lastOf records id).isSome = true ↔ id ∈ records.map Case.id := by
  simp [lastOf]

theorem idAt_rank {roster : Roster} (ordered : roster.ids.Pairwise (· < ·)) {records : List Case}
    (members : ∀ id, id ∈ roster.ids ↔ (lastOf records id).isSome = true) {position : Nat} {id : CaseId} :
    roster.idAt position = some id ↔ (lastOf records id).isSome = true ∧ position = rank records id := by
  have permuted : roster.ids.Perm (distinctIds (records.map Case.id)) := by
    apply (List.perm_ext_iff_of_nodup roster.distinct (distinctIds_nodup _)).mpr
    intro other
    rw [members, lastOf_isSome, mem_distinctIds]
  have counted : roster.ids.countP (· < id) = rank records id := permuted.countP_eq _
  rw [← members, ← counted]
  constructor
  · intro here
    exact ⟨Roster.mem_of_idAt here, (count_below ordered here).symm⟩
  · intro there
    obtain ⟨member, rfl⟩ := there
    obtain ⟨position, here⟩ := Roster.exists_idAt member
    rw [count_below ordered here]
    exact here

theorem rows_selected {records : List Case} (holds : Holds (lastOf records) store)
    (distinct : ∀ record ∈ records, record.Distinct)
    (stored : ∀ id record, lastOf records id = some record → record.ShortNames) {marker : String}
    {predicates : List Predicate}
    (asked : ∀ predicate ∈ predicates, ∀ routed, predicate.Asks marker routed → Key.IsShort routed.name)
    {roster : Roster} {found : IdSet} (ordered : roster.ids.Pairwise (· < ·))
    (members : ∀ id, id ∈ roster.ids ↔ (lastOf records id).isSome = true)
    (chosen : ∀ id, id ∈ found ↔ id ∈ roster.ids ∧
      ∀ routed ∈ Queue.ofPredicates marker predicates, id ∈ store.meeting routed) :
    Selected records marker predicates ((roster.positionsOf found).filterMap (rowOf (lastOf records) roster)) where
  ascending := rows_ascending ordered found holds.filed.own
  members row := by
    rw [mem_rows holds.filed.own]
    apply and_congr_right
    intro kept
    have child : (lastOf records row.record.id).isSome = true := by simp [kept]
    have lasting : ∀ id record, lastOf records id = some record → record.Distinct :=
      fun _ _ last => distinct _ (mem_of_lastOf last).1
    rw [idAt_rank ordered members, chosen, members, and_iff_right child, and_iff_right child]
    apply and_congr_left
    intro _
    rw [Queue.ofPredicates, List.forall_mem_map]
    apply forall₂_congr
    intro predicate member
    have asks := Routed.asks_ofPredicate marker predicate
    rw [mem_meeting holds lasting stored (asked predicate member _ asks), kept, Case.meets_iff]
    simp

-- Whatever else was done to the store before, and whatever the collection was called then.
theorem query_selects (before config : Config) (steps : List Step) (format : Report.Format) {text : String}
    {reference : Reference} (parsed : Reference.parse text = .ok reference)
    (stored : ∀ id record, lastOf (steps.flatMap Step.records) id = some record → record.ShortNames)
    (asked : ∀ predicate ∈ reference.finalPredicates, ∀ routed, predicate.Asks config.relationshipMarker routed →
      Key.IsShort routed.name) :
    ∃ rows hint,
      select config reference (afterwards before steps .empty) =
        (.ok (rows, hint), afterwards before steps .empty) ∧
      run config format (afterwards before steps .empty) (.query text) =
        (.ok (Report.cases rows format ++ "\n" ++ Report.hint hint format), afterwards before steps .empty) ∧
      Selected (steps.flatMap Step.records) config.relationshipMarker reference.finalPredicates rows := by
  have holds := imports_held before steps
  obtain ⟨roster, found, hint, ordered, members, chosen, selected⟩ := select_held holds config reference
  have exact := rows_selected holds (fun _ => records_distinct) stored asked ordered members chosen
  refine ⟨_, hint, selected, ?_, exact⟩
  change fromCore (runQuery config text format _) = _
  unfold runQuery
  rw [parsed]
  dsimp only
  rw [selected]
  rfl

-- The second child is first imported as Ann and then as Bob; the query asks for Bobs whose parent is H1.
def twoChildren : Step :=
  ⟨.importCases (.ok ("[\x7b\"id\":2,\"columns\":\x7b\"name\":\"Ann\"\x7d,\"indices\":\x7b\"parent\":\"H1\"\x7d\x7d," ++
    "\x7b\"id\":1,\"columns\":\x7b\"name\":\"Bob\"\x7d\x7d]")), .table⟩

def renamed : Step :=
  ⟨.importCases (.ok
    "[\x7b\"id\":2,\"columns\":\x7b\"name\":\"Bob\"\x7d,\"indices\":\x7b\"parent\":\"H1\"\x7d\x7d]"), .table⟩

def bobsOfParent : Reference :=
  ⟨true, [⟨"casedb", none, []⟩, ⟨"case", none, [⟨"case-in-parent", "H1"⟩, ⟨"name", "Bob"⟩]⟩]⟩

def bobOfParent : Report.Row := ⟨1, ⟨2, [("name", "Bob")], [⟨"parent", "H1"⟩]⟩⟩

theorem bobs_selected :
    Reference.parse "/casedb/case[@case-in-parent='H1'][@name='Bob']" = .ok bobsOfParent ∧
      (∀ record ∈ [twoChildren, renamed].flatMap Step.records, record.ShortNames) ∧
      (∀ predicate ∈ bobsOfParent.finalPredicates, Key.IsShort (Routed.ofPredicate "case-in-" predicate).name) ∧
      select {} bobsOfParent (afterwards {} [twoChildren, renamed] .empty) =
        (.ok ([bobOfParent], some ⟨["name"], ["Bob"]⟩), afterwards {} [twoChildren, renamed] .empty) ∧
      Selected ([twoChildren, renamed].flatMap Step.records) "case-in-" bobsOfParent.finalPredicates [bobOfParent] := by
  have parsed : Reference.parse "/casedb/case[@case-in-parent='H1'][@name='Bob']" = .ok bobsOfParent := by
    decide +kernel
  have stored : ∀ record ∈ [twoChildren, renamed].flatMap Step.records, record.ShortNames := by
    decide +kernel
  have asked : ∀ predicate ∈ bobsOfParent.finalPredicates,
      Key.IsShort (Routed.ofPredicate "case-in-" predicate).name := by
    decide +kernel
  have ran : select {} bobsOfParent (afterwards {} [twoChildren, renamed] .empty) =
      (.ok ([bobOfParent], some ⟨["name"], ["Bob"]⟩), afterwards {} [twoChildren, renamed] .empty) := by
    apply Prod.ext
    · decide +kernel
    · exact select_reads _ _ _
  obtain ⟨rows, hint, selected, _, exact⟩ := query_selects {} {} [twoChildren, renamed] .table parsed
    (fun _ record last => stored record (mem_of_lastOf last).1)
    (fun predicate member _ asks => Routed.ofPredicate_of_asks asks ▸ asked predicate member)
  rw [ran] at selected
  cases selected
  exact ⟨parsed, stored, asked, ran, exact⟩

end Command
end Casebook
