import Casebook.Proofs.Descent

namespace Casebook.Reference
open Text

section Resumed

variable {start later : Stage} {cursor next : Cursor} {draft : Draft} {path : Path}

def Cursor.resume (stage : Stage) (cursor : Cursor) : Except Failure Reference := run stage cursor.offset cursor.rest

theorem resume_congr (ended : cursor.rest = [] → finish start = finish later)
    (moves : ∀ c ∈ cursor.rest.head?, step start c = step later c) : cursor.resume start = cursor.resume later := by
  obtain ⟨offset, text⟩ := cursor
  unfold Cursor.resume
  cases text with
  | nil => simp [run, ended rfl]
  | cons c rest => simp [run, moves c rfl]

theorem resume_refused {fault : Fault} (ended : cursor.rest = [] → finish start = .error fault)
    (moves : ∀ c ∈ cursor.rest.head?, step start c = refuse fault) : cursor.resume start = cursor.fail fault := by
  obtain ⟨offset, text⟩ := cursor
  unfold Cursor.resume Cursor.fail
  cases text with
  | nil => simp [run, ended rfl]
  | cons c rest => simp [run, moves c rfl, refuse]

theorem resume_eaten {c : Char} (ate : cursor.eat c = some next) (moves : step start c = .ok later) :
    cursor.resume start = next.resume later := by
  obtain ⟨offset, text⟩ := cursor
  unfold Cursor.eat at ate
  cases text with
  | nil => cases ate
  | cons d rest =>
    dsimp only at ate
    split at ate
    · rename_i same
      cases ate
      simp [Cursor.resume, run, same, moves]
    · cases ate

-- Each character of a run moves the reader to a stage of the same kind, so the run is taken in as a whole.
theorem resume_greedy {α : Type} (among : Char → Bool) (kind : α → Stage) (take : α → Char → α)
    (moves : ∀ held c, among c = true → step (kind held) c = .ok (kind (take held c))) (held : α)
    (cursor : Cursor) :
    cursor.resume (kind held) =
      (cursor.span among).2.resume (kind ((cursor.span among).1.foldl take held)) := by
  obtain ⟨offset, text⟩ := cursor
  unfold Cursor.resume Cursor.span
  induction text generalizing held offset with
  | nil => rfl
  | cons c rest ih =>
    cases taken : among c with
    | false => simp [taken, utf8Length]
    | true =>
      have behind := ih (take held c) (offset + c.utf8Size)
      simpa [run, taken, moves held c taken, utf8Length, Nat.add_assoc] using behind

theorem span_ends {among : Char → Bool} : ∀ c ∈ (cursor.span among).2.rest.head?, among c = false := by
  intro c front
  have stopped := List.head?_dropWhile_not among cursor.rest
  have behind : (cursor.rest.dropWhile among).head? = some c := front
  rwa [behind] at stopped

theorem resume_expect {expected : Char} (ended : finish start = .error (.expected expected))
    (moves : ∀ c ∈ cursor.rest.head?,
      step start c = if c = expected then .ok later else refuse (.expected expected)) :
    cursor.resume start = cursor.expect expected >>= Cursor.resume later := by
  obtain ⟨offset, text⟩ := cursor
  unfold Cursor.resume Cursor.expect Cursor.eat Cursor.fail
  cases text with
  | nil => simp [run, ended, bind, Except.bind]
  | cons c rest =>
    by_cases same : c = expected
    · subst same
      have moved := moves c rfl
      rw [if_pos rfl] at moved
      simp [run, moved, bind, Except.bind]
    · simp [run, moves c rfl, same, refuse, bind, Except.bind]

theorem name_ends {missing : Fault} {name : String} (found : cursor.name missing = .ok (name, next)) :
    ∀ c ∈ next.rest.head?, isNameChar c = false := by
  unfold Cursor.name at found
  dsimp only at found
  split at found
  · cases found
  · cases found
    exact span_ends

theorem resume_name {missing : Fault} (more : List Char → Stage)
    (begins : ∀ c, step start c = if isNameChar c then .ok (more [c]) else refuse missing)
    (nothing : finish start = .error missing)
    (goes : ∀ read c, isNameChar c = true → step (more read) c = .ok (more (c :: read))) (cursor : Cursor) :
    cursor.resume start =
      cursor.name missing >>= fun found => found.2.resume (more found.1.toList.reverse) := by
  obtain ⟨offset, text⟩ := cursor
  cases text with
  | nil =>
    rw [resume_refused (fun _ => nothing) (by simp)]
    rfl
  | cons c rest =>
    cases among : isNameChar c with
    | false =>
      have refused : ∀ d ∈ (c :: rest).head?, step start d = refuse missing := by
        intro d front
        cases front
        simp [begins, among]
      rw [resume_refused (by simp) refused]
      simp [Cursor.name, Cursor.span, among, utf8Length, Cursor.fail, bind, Except.bind]
    | true =>
      have first : Cursor.resume start ⟨offset, c :: rest⟩ = Cursor.resume (more []) ⟨offset, c :: rest⟩ := by
        apply resume_congr
        · intro empty
          cases empty
        · intro d front
          cases front
          rw [begins, among, goes [] c among]
          rfl
      rw [first, resume_greedy isNameChar more (fun read c => c :: read) goes, List.foldl_flip_cons_eq_append',
        List.append_nil]
      simp [Cursor.name, Cursor.span, among, bind, Except.bind]

theorem resume_segment (path : Path) (cursor : Cursor) :
    cursor.resume (.segment path) = cursor.name .missingName >>= fun found =>
      found.2.resume (.closed ⟨path, found.1, false, none, []⟩) := by
  rw [resume_name (.name path) (fun _ => rfl) rfl (fun read c among => by simp [step, among])]
  cases named : cursor.name .missingName with
  | error failure => rfl
  | ok found =>
    obtain ⟨name, next⟩ := found
    apply resume_congr
    · simp [finish, Path.named, word]
    · intro c front
      simp [step, name_ends named c front, Path.named, word]

theorem resume_equals (draft : Draft) (key : String) (cursor : Cursor) :
    cursor.resume (.equals draft key) =
      cursor.quoted >>= fun found => found.2.resume (.closing (draft.ask key found.1)) := by
  obtain ⟨offset, text⟩ := cursor
  cases text with
  | nil => simp [Cursor.resume, Cursor.quoted, Cursor.fail, run, finish, bind, Except.bind]
  | cons quote rest =>
    by_cases quotes : quote = '\'' ∨ quote = '"'
    · have inside : (⟨offset, quote :: rest⟩ : Cursor).resume (.equals draft key) =
          Cursor.resume (.value draft key quote []) ⟨offset + quote.utf8Size, rest⟩ := by
        simp [Cursor.resume, run, step, quotes]
      have more : ∀ read c, decide (c ≠ quote) = true →
          step (.value draft key quote read) c = .ok (.value draft key quote (c :: read)) := by
        intro read c other
        simpa [step] using other
      have closes : ∀ read, ∀ c ∈ (Cursor.span (· ≠ quote) ⟨offset + quote.utf8Size, rest⟩).2.rest.head?,
          step (.value draft key quote read) c =
            if c = quote then .ok (.closing (draft.ask key (word read))) else refuse (.expected quote) := by
        intro read c front
        have same : c = quote := by simpa using span_ends c front
        simp [step, same]
      rw [inside, resume_greedy (· ≠ quote) (.value draft key quote) (fun read c => c :: read) more,
        List.foldl_flip_cons_eq_append', List.append_nil, resume_expect rfl (closes _), Cursor.quoted]
      simp only [if_pos quotes, word, List.reverse_reverse]
      cases (Cursor.span (· ≠ quote) ⟨offset + quote.utf8Size, rest⟩).2.expect quote <;> rfl
    · simp [Cursor.resume, Cursor.quoted, Cursor.fail, run, step, quotes, refusePast, bind, Except.bind]

theorem resume_sign (draft : Draft) (cursor : Cursor) :
    cursor.resume (.sign draft) = cursor.name .missingKey >>= fun found =>
      found.2.expect '=' >>= Cursor.resume (.equals draft found.1) := by
  rw [resume_name (.key draft) (fun _ => rfl) rfl (fun read c among => by simp [step, among])]
  cases named : cursor.name .missingKey with
  | error failure => rfl
  | ok found =>
    obtain ⟨name, next⟩ := found
    apply resume_expect rfl
    intro c front
    simp [step, name_ends named c front, word]

theorem resume_predicate (draft : Draft) {cursor : Cursor}
    (free : ∀ c ∈ cursor.rest.head?, c ≠ '*' ∧ c.isDigit = false) :
    cursor.resume (.bracket draft) = cursor.predicate >>= fun found =>
      found.2.resume (.closing (draft.ask found.1.key found.1.value)) := by
  have signed : cursor.resume (.bracket draft) = ((cursor.eat '@').getD cursor).resume (.sign draft) := by
    obtain ⟨offset, text⟩ := cursor
    cases text with
    | nil => rfl
    | cons c rest =>
      obtain ⟨unstarred, undigit⟩ := free c rfl
      by_cases sign : c = '@'
      · simp [Cursor.resume, Cursor.eat, run, step, sign]
      · simp [Cursor.resume, Cursor.eat, run, step, sign, unstarred, undigit]
  rw [signed, resume_sign, Cursor.predicate]
  simp only [bind_assoc, pure_bind, ← resume_equals]

theorem resume_place {draft : Draft} (unbound : draft.bound = false) {cursor : Cursor} {first : Char}
    (front : cursor.rest.head? = some first) (digit : first.isDigit = true) :
    cursor.resume (.bracket draft) = cursor.place >>= fun found =>
      found.2.resume (.closing (draft.bind (some found.1))) := by
  have starts : cursor.resume (.bracket draft) = cursor.resume (.digits draft 0) := by
    apply resume_congr
    · intro empty
      simp [empty] at front
    · intro c head
      cases front.symm.trans head
      have unstarred : first ≠ '*' := by
        rintro rfl
        cases digit
      simp [step, unstarred, digit, unbound]
  have more : ∀ value c, c.isDigit = true →
      step (.digits draft value) c = .ok (.digits draft (10 * value + digitValue c)) := by
    intro value c digit
    simp [step, digit]
  rw [starts, resume_greedy Char.isDigit (.digits draft) (fun value c => 10 * value + digitValue c) more]
  change (cursor.span Char.isDigit).2.resume (.digits draft (Nat.ofDigitChars 10 (cursor.span Char.isDigit).1 0)) = _
  unfold Cursor.place
  dsimp only
  split
  · rename_i fits
    apply resume_congr
    · simp [finish, fits]
    · intro c behind
      simp [step, fits, span_ends c behind]
  · rename_i large
    apply resume_refused
    · simp [finish, large]
    · intro c behind
      simp [step, large, span_ends c behind]

theorem resume_bracket (draft : Draft) (cursor : Cursor) :
    cursor.resume (.bracket draft) = cursor.bracket draft.bound >>= fun found =>
      found.2.resume (.closing (draft.take found.1)) := by
  obtain ⟨offset, text⟩ := cursor
  unfold Cursor.bracket
  cases text with
  | nil =>
    rw [resume_predicate draft (by simp)]
    simp [Cursor.eat, Draft.take]
  | cons c rest =>
    by_cases star : c = '*'
    · subst star
      cases bound : draft.bound with
      | true =>
        simp [Cursor.resume, Cursor.eat, Cursor.fail, run, step, bound, refusePast, bind, Except.bind]
      | false => simp [Cursor.resume, Cursor.eat, run, step, bound, Draft.take, bind, Except.bind]
    · cases digit : c.isDigit with
      | true =>
        cases bound : draft.bound with
        | true =>
          simp [Cursor.resume, Cursor.eat, Cursor.fail, run, step, star, digit, bound, refuse, bind, Except.bind]
        | false =>
          rw [resume_place bound (rfl : (c :: rest).head? = some c) digit]
          simp [Cursor.eat, star, digit, Draft.take]
      | false =>
        rw [resume_predicate draft (by simp [star, digit])]
        simp [Cursor.eat, star, digit, Draft.take]

theorem bracket_free {bound : Bool} {bracket : Bracket} (found : cursor.bracket bound = .ok (bracket, next))
    (places : bracket.places = true) : bound = false := by
  unfold Cursor.bracket at found
  cases bound with
  | false => rfl
  | true =>
    split at found
    · cases found
    · split at found
      · cases found
      · obtain ⟨_, _, told⟩ := ok_of_bind found
        cases told
        cases places

theorem take_segment {bracket : Bracket} (free : bracket.places = true → draft.position = none) :
    (draft.take bracket).segment = draft.segment.take bracket := by
  cases bracket with
  | everywhere => simp [Draft.take, Draft.bind, Draft.segment, Segment.take, free rfl]
  | place position => rfl
  | asks predicate => simp [Draft.take, Draft.ask, Draft.segment, Segment.take]

theorem take_path (draft : Draft) (bracket : Bracket) : (draft.take bracket).path = draft.path := by
  cases bracket <;> rfl

def Draft.Open (draft : Draft) : Prop := draft.bound = false → draft.position = none

theorem Draft.Open.take (opened : draft.Open) (bracket : Bracket) : (draft.take bracket).Open := by
  cases bracket with
  | everywhere | place => nofun
  | asks => exact opened

theorem take_bound (draft : Draft) (bracket : Bracket) :
    (draft.take bracket).bound = (draft.bound || bracket.places) := by
  cases bracket <;> simp [Draft.take, Draft.bind, Draft.ask, Bracket.places]

def Cursor.behind (path : Path) (cursor : Cursor) : Except Failure Reference :=
  if cursor.rest.isEmpty then .ok path.reference else cursor.expect '/' >>= Cursor.resume (.segment path)

theorem resume_behind (draft : Draft) (ended : cursor.eat '[' = none) :
    cursor.resume (.closed draft) = cursor.behind draft.finish := by
  unfold Cursor.behind
  split
  · rename_i empty
    rw [List.isEmpty_iff] at empty
    simp [Cursor.resume, empty, run, finish]
  · rename_i more
    obtain ⟨offset, text⟩ := cursor
    cases text with
    | nil => exact absurd rfl more
    | cons c rest =>
      have unbracketed : c ≠ '[' := by
        rintro rfl
        simp [Cursor.eat] at ended
      by_cases slash : c = '/'
      · simp [Cursor.resume, Cursor.expect, Cursor.eat, run, step, stepClosed, slash, bind, Except.bind]
      · simp [Cursor.resume, Cursor.expect, Cursor.eat, Cursor.fail, run, step, stepClosed, unbracketed, slash, refuse,
          bind, Except.bind]

-- The induction is on the brackets that are read; the draft goes along with the segment that is built.
theorem resume_closed (held : Segment) (bound : Bool) (cursor : Cursor) (draft : Draft) (same : draft.segment = held)
    (binds : draft.bound = bound) (opened : draft.Open) :
    cursor.resume (.closed draft) = cursor.brackets held bound >>= fun found =>
      found.2.behind ⟨draft.path.absolute, found.1 :: draft.path.before⟩ := by
  fun_induction Cursor.brackets held bound cursor generalizing draft with
  | case1 held bound cursor ended =>
    subst same
    exact resume_behind draft ended
  | case2 held bound cursor inside ate failure refused =>
    rw [resume_eaten ate rfl, resume_bracket, binds, refused]
    rfl
  | case3 held bound cursor inside ate bracket last read failure refused =>
    rw [resume_eaten ate rfl, resume_bracket, binds, read]
    change last.resume (.closing (draft.take bracket)) = _
    rw [resume_expect rfl (fun _ _ => rfl), refused]
    rfl
  | case4 held bound cursor inside ate bracket last read next closed ih =>
    have unplaced : bracket.places = true → draft.position = none :=
      fun places => opened (binds.trans (bracket_free read places))
    have further := ih (draft.take bracket) (by rw [take_segment unplaced, same]) (by rw [take_bound, binds])
      (opened.take bracket)
    rw [take_path] at further
    rw [resume_eaten ate rfl, resume_bracket, binds, read]
    change last.resume (.closing (draft.take bracket)) = _
    rw [resume_expect rfl (fun _ _ => rfl), closed]
    exact further

theorem resume_whole (path : Path) (cursor : Cursor) :
    cursor.resume (.segment path) = cursor.segment >>= fun found =>
      found.2.behind ⟨path.absolute, found.1 :: path.before⟩ := by
  rw [resume_segment, Cursor.segment]
  simp only [bind_assoc]
  congr 1
  funext found
  exact resume_closed { name := found.1 } false found.2 ⟨path, found.1, false, none, []⟩ rfl rfl (fun _ => rfl)

theorem resume_segments (before : List Segment) (cursor : Cursor) (path : Path) (same : path.before.reverse = before) :
    cursor.resume (.segment path) = (cursor.segments before).map (⟨path.absolute, ·⟩) := by
  fun_induction Cursor.segments before cursor generalizing path with
  | case1 before cursor failure refused =>
    rw [resume_whole, refused]
    rfl
  | case2 before cursor segment last found ended =>
    rw [resume_whole, found]
    change last.behind _ = _
    subst same
    simp [Cursor.behind, ended, Path.reference, Except.map]
  | case3 before cursor segment last found more failure refused =>
    rw [resume_whole, found]
    change last.behind _ = _
    simp [Cursor.behind, more, refused, Except.map, bind, Except.bind]
  | case4 before cursor segment last found more next slashed ih =>
    rw [resume_whole, found]
    change last.behind _ = _
    have further := ih ⟨path.absolute, segment :: path.before⟩ (by simp [same])
    simpa [Cursor.behind, more, slashed, bind, Except.bind] using further

end Resumed

-- The reader that goes from stage to stage reads what the descent reads and refuses what it refuses, at the same place.
theorem read_descends (text : List Char) : read text = descend text := by
  cases text with
  | nil => rfl
  | cons c rest =>
    change Cursor.resume .opening ⟨0, c :: rest⟩ = _
    by_cases slash : c = '/'
    · have ate : (⟨0, c :: rest⟩ : Cursor).eat '/' = some ⟨0 + c.utf8Size, rest⟩ := by simp [Cursor.eat, slash]
      rw [resume_eaten ate rfl, resume_segments [] _ ⟨true, []⟩ rfl, descend, ate]
      rfl
    · have uneaten : (⟨0, c :: rest⟩ : Cursor).eat '/' = none := by simp [Cursor.eat, slash]
      have relative : Cursor.resume .opening ⟨0, c :: rest⟩ =
          Cursor.resume (.segment ⟨false, []⟩) ⟨0, c :: rest⟩ := by
        simp [Cursor.resume, run, step, slash]
      rw [relative, resume_segments [] _ ⟨false, []⟩ rfl, descend, uneaten]
      rfl

end Casebook.Reference
