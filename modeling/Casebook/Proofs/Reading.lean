import Casebook.Proofs.Grammar

namespace Casebook.Reference
open Text

def Leads (stage : Stage) (text : List Char) (last : Stage) : Prop := text.foldlM step stage = .ok last

section Walks

variable {stage middle last : Stage} {before after text : List Char} {c : Char}

theorem leads_nil : Leads stage [] last ↔ stage = last := by simp [Leads, pure, Except.pure]

theorem leads_cons : Leads stage (c :: text) last ↔ ∃ next, step stage c = .ok next ∧ Leads next text last := by
  cases moved : step stage c <;> simp [Leads, moved, bind, Except.bind]

theorem Leads.cons (moved : step stage c = .ok middle) (later : Leads middle text last) :
    Leads stage (c :: text) last := leads_cons.2 ⟨middle, moved, later⟩

theorem Leads.single (moved : step stage c = .ok last) : Leads stage [c] last := .cons moved (leads_nil.2 rfl)

theorem Leads.append (first : Leads stage before middle) (later : Leads middle after last) :
    Leads stage (before ++ after) last := by
  unfold Leads at first ⊢
  rw [List.foldlM_append, first]
  exact later

theorem run_ok_iff {reference : Reference} {offset : Nat} :
    run stage offset text = .ok reference ↔ ∃ last, Leads stage text last ∧ finish last = .ok reference := by
  induction text generalizing stage offset with
  | nil =>
    simp only [leads_nil, exists_eq_left']
    cases ended : finish stage <;> simp [run, ended]
  | cons c rest ih =>
    cases moved : step stage c with
    | error refusal => simp [run, leads_cons, moved]
    | ok next => simp [run, leads_cons, moved, ih]

end Walks

def Draft.take (draft : Draft) : Bracket → Draft
  | .everywhere => draft.bind none
  | .place position => draft.bind (some position)
  | .asks predicate => draft.ask predicate.key predicate.value

-- What is held of a segment after its name and these brackets.
def Path.draft (path : Path) (name : List Char) (brackets : List Bracket) : Draft :=
  ⟨path, String.ofList name, brackets.any Bracket.places, brackets.findSome? Bracket.position?,
    (brackets.filterMap Bracket.predicate?).reverse⟩

section Drafts

variable {path : Path} {name : List Char} {brackets : List Bracket} {bracket : Bracket}

theorem named_draft : path.named name.reverse = path.draft name [] := by simp [Path.named, Path.draft, word]

theorem draft_segment : (path.draft name brackets).segment =
    ⟨String.ofList name, brackets.findSome? Bracket.position?, brackets.filterMap Bracket.predicate?⟩ := by
  simp [Path.draft, Draft.segment]

theorem free_before (once : (brackets ++ [bracket]).countP Bracket.places ≤ 1) (places : bracket.places = true) :
    brackets.any Bracket.places = false := by
  rw [List.countP_append, List.countP_singleton, if_pos places] at once
  have silent : brackets.countP Bracket.places = 0 := by omega
  exact List.any_eq_false.2 (List.countP_eq_zero.1 silent)

theorem once_after (once : brackets.countP Bracket.places ≤ 1)
    (free : bracket.places = true → brackets.any Bracket.places = false) :
    (brackets ++ [bracket]).countP Bracket.places ≤ 1 := by
  rw [List.countP_append, List.countP_singleton]
  split
  · next places =>
    have silent : brackets.countP Bracket.places = 0 := List.countP_eq_zero.2 (List.any_eq_false.1 (free places))
    omega
  · omega

theorem unplaced (free : brackets.any Bracket.places = false) : brackets.findSome? Bracket.position? = none := by
  rw [List.findSome?_eq_none_iff]
  intro bracket member
  have silent := List.any_eq_false.1 free bracket member
  cases bracket with
  | everywhere => rfl
  | place position => exact absurd rfl silent
  | asks predicate => rfl

theorem draft_take (once : (brackets ++ [bracket]).countP Bracket.places ≤ 1) :
    (path.draft name brackets).take bracket = path.draft name (brackets ++ [bracket]) := by
  cases bracket with
  | everywhere | place =>
    have silent := unplaced (free_before once rfl)
    simp [Path.draft, Draft.take, Draft.bind, Bracket.places, Bracket.position?, Bracket.predicate?, silent]
  | asks =>
    simp [Path.draft, Draft.take, Draft.ask, Bracket.places, Bracket.position?, Bracket.predicate?]

end Drafts

def Path.Read (path : Path) (text : List Char) : Prop :=
  ∃ texts, List.Forall₂ Segment.Written path.before.reverse texts ∧
    text = slash path.absolute ++ texts.flatMap (· ++ ['/'])

inductive Draft.Read : Draft → List Char → Prop where
  | mk {path : Path} {before name : List Char} {brackets : List Bracket} {texts : List (List Char)} :
      path.Read before → Word name → List.Forall₂ Bracket.Written brackets texts →
      brackets.countP Bracket.places ≤ 1 → Read (path.draft name brackets) (before ++ (name ++ texts.flatten))

-- What may have been read when the reader comes to a stage.
inductive Stage.Read : Stage → List Char → Prop where
  | opening : Read .opening []
  | segment {path : Path} {text : List Char} : path.Read text → Read (.segment path) text
  | name {path : Path} {before name : List Char} : path.Read before → Word name →
      Read (.name path name.reverse) (before ++ name)
  | bracket {draft : Draft} {text : List Char} : draft.Read text → Read (.bracket draft) (text ++ ['['])
  | digits {draft : Draft} {text : List Char} (digits : List Char) : draft.Read text → draft.bound = false →
      digits ≠ [] → (∀ c ∈ digits, c.isDigit = true) →
      Read (.digits draft (Nat.ofDigitChars 10 digits 0)) (text ++ '[' :: digits)
  | sign {draft : Draft} {text : List Char} : draft.Read text → Read (.sign draft) (text ++ ['[', '@'])
  | key {draft : Draft} {text sign key : List Char} : draft.Read text → Word key → Signs sign key →
      Read (.key draft key.reverse) (text ++ ('[' :: sign ++ key))
  | equals {draft : Draft} {text sign key : List Char} : draft.Read text → Word key → Signs sign key →
      Read (.equals draft (String.ofList key)) (text ++ ('[' :: sign ++ key ++ ['=']))
  | value {draft : Draft} {text sign key : List Char} {quote : Char} (value : List Char) : draft.Read text →
      Word key → Signs sign key → quote = '\'' ∨ quote = '"' → quote ∉ value →
      Read (.value draft (String.ofList key) quote value.reverse) (text ++ ('[' :: sign ++ key ++ '=' :: quote :: value))
  | closing {draft : Draft} {text : List Char} : draft.Read (text ++ [']']) → Read (.closing draft) text
  | closed {draft : Draft} {text : List Char} : draft.Read text → Read (.closed draft) text

section Soundness

variable {path : Path} {draft : Draft} {stage next : Stage} {text before more : List Char} {c : Char}

theorem Path.Read.named {name : List Char} (read : path.Read before) (word : Word name) :
    (path.draft name []).Read (before ++ name) := by
  have held := Draft.Read.mk read word .nil (by simp)
  simpa using held

theorem Draft.Read.take {bracket : Bracket} (read : draft.Read text) (written : bracket.Written more)
    (free : bracket.places = true → draft.bound = false) : (draft.take bracket).Read (text ++ more) := by
  obtain @⟨path, before, name, brackets, texts, onPath, word, each, once⟩ := read
  have still := once_after once free
  have held := Draft.Read.mk onPath word (List.rel_append each (.cons written .nil)) still
  rw [draft_take still]
  simpa using held

theorem Draft.Read.segment (read : draft.Read text) :
    ∃ before more, draft.path.Read before ∧ draft.segment.Written more ∧ text = before ++ more := by
  obtain @⟨path, before, name, brackets, texts, onPath, word, each, once⟩ := read
  refine ⟨before, name ++ texts.flatten, onPath, ?_, rfl⟩
  rw [draft_segment]
  exact .mk word each once

theorem Draft.Read.finish (read : draft.Read text) : draft.finish.Read (text ++ ['/']) := by
  obtain ⟨before, more, ⟨texts, each, rfl⟩, written, rfl⟩ := read.segment
  refine ⟨texts ++ [more], ?_, by simp [Draft.finish]⟩
  rw [Draft.finish, List.reverse_cons]
  exact List.rel_append each (.cons written .nil)

theorem Draft.Read.reference (read : draft.Read text) : draft.finish.reference.Written text := by
  obtain ⟨before, more, ⟨texts, each, rfl⟩, written, rfl⟩ := read.segment
  have whole := Reference.Written.mk draft.path.absolute (by simp) (List.rel_append each (.cons written .nil))
  rw [intercalate_snoc] at whole
  simpa [Path.reference, Draft.finish] using whole

theorem stepSegment_read (read : path.Read text) (moved : stepSegment path c = .ok next) : next.Read (text ++ [c]) := by
  unfold stepSegment refuse at moved
  split at moved
  · next nameChar =>
    cases moved
    have word : Word [c] := ⟨by simp, by simpa using nameChar⟩
    exact .name read word
  · cases moved

theorem stepClosed_read (read : draft.Read text) (moved : stepClosed draft c = .ok next) : next.Read (text ++ [c]) := by
  unfold stepClosed refuse at moved
  split at moved
  · next opens =>
    subst opens
    cases moved
    exact .bracket read
  · split at moved
    · next ends =>
      subst ends
      cases moved
      exact .segment read.finish
    · cases moved

theorem stepClosing_read (read : draft.Read (text ++ [']'])) (moved : stepClosing draft c = .ok next) :
    next.Read (text ++ [c]) := by
  unfold stepClosing refuse at moved
  split at moved
  · next closes =>
    subst closes
    cases moved
    exact .closed read
  · cases moved

theorem stepKey_read {sign : List Char} (read : draft.Read text) (signs : Signs sign [c])
    (moved : stepKey draft c = .ok next) : next.Read (text ++ ('[' :: sign ++ [c])) := by
  unfold stepKey refuse at moved
  split at moved
  · next nameChar =>
    cases moved
    have word : Word [c] := ⟨by simp, by simpa using nameChar⟩
    exact .key read word signs
  · cases moved

theorem bracket_read (held : draft.Read text) (moved : step (.bracket draft) c = .ok next) :
    next.Read (text ++ ['[', c]) := by
  simp only [step, refuse, refusePast] at moved
  split at moved
  · next star =>
    subst star
    split at moved
    · cases moved
    · next free =>
      cases moved
      have taken := held.take .everywhere fun _ => by simpa using free
      exact .closing (by simpa [Draft.take] using taken)
  split at moved
  · next digit =>
    split at moved
    · cases moved
    · next free =>
      cases moved
      have first := Stage.Read.digits [c] held (by simpa using free) (by simp) (by simpa using digit)
      simpa [Nat.ofDigitChars, digitValue] using first
  split at moved
  · next signed =>
    subst signed
    cases moved
    exact .sign held
  · next notDigit _ =>
    have begun := stepKey_read held (.inr ⟨rfl, by simpa using notDigit⟩) moved
    simpa using begun

theorem digits_read {digits : List Char} (held : draft.Read text) (free : draft.bound = false) (filled : digits ≠ [])
    (each : ∀ c ∈ digits, c.isDigit = true) (moved : step (.digits draft (Nat.ofDigitChars 10 digits 0)) c = .ok next) :
    next.Read (text ++ '[' :: digits ++ [c]) := by
  simp only [step, refuse] at moved
  split at moved
  · next digit =>
    cases moved
    have longer := Stage.Read.digits (digits ++ [c]) held free (by simp)
      (List.forall_mem_append.2 ⟨each, by simpa using digit⟩)
    simpa [Nat.ofDigitChars, digitValue, List.foldl_append] using longer
  split at moved
  · next small =>
    have taken := held.take (.place filled each small) fun _ => free
    exact stepClosing_read (by simpa [Draft.take] using taken) moved
  · cases moved

theorem key_read {sign key : List Char} (held : draft.Read text) (named : Word key) (signs : Signs sign key)
    (moved : step (.key draft key.reverse) c = .ok next) : next.Read (text ++ ('[' :: sign ++ key) ++ [c]) := by
  simp only [step, refuse] at moved
  split at moved
  · next nameChar =>
    cases moved
    have longer := Stage.Read.key held (named.snoc nameChar) (signs.append named)
    simpa using longer
  split at moved
  · next equals =>
    subst equals
    cases moved
    have ended := Stage.Read.equals held named signs
    simpa [word] using ended
  · cases moved

theorem value_read {sign key value : List Char} {quote : Char} (held : draft.Read text) (named : Word key)
    (signs : Signs sign key) (quoted : quote = '\'' ∨ quote = '"') (outside : quote ∉ value)
    (moved : step (.value draft (String.ofList key) quote value.reverse) c = .ok next) :
    next.Read (text ++ ('[' :: sign ++ key ++ '=' :: quote :: value) ++ [c]) := by
  simp only [step] at moved
  split at moved
  · next ends =>
    subst ends
    cases moved
    have taken := held.take (.asks named signs quoted outside) (by simp [Bracket.places])
    exact .closing (by simpa [Draft.take, word] using taken)
  · next inside =>
    cases moved
    have longer := Stage.Read.value (value ++ [c]) held named signs quoted (by simpa [outside] using Ne.symm inside)
    simpa using longer

theorem step_read (read : stage.Read text) (moved : step stage c = .ok next) : next.Read (text ++ [c]) := by
  cases read with
  | opening =>
    simp only [step] at moved
    split at moved
    · next slashed =>
      subst slashed
      cases moved
      exact .segment ⟨[], .nil, rfl⟩
    · exact stepSegment_read ⟨[], .nil, rfl⟩ moved
  | segment onPath => exact stepSegment_read onPath moved
  | name onPath named =>
    simp only [step] at moved
    split at moved
    · next nameChar =>
      cases moved
      have longer := Stage.Read.name onPath (named.snoc nameChar)
      simpa using longer
    · rw [named_draft] at moved
      exact stepClosed_read (onPath.named named) moved
  | bracket held =>
    have longer := bracket_read held moved
    simpa using longer
  | digits digits held free filled each => exact digits_read held free filled each moved
  | sign held =>
    have begun := stepKey_read held (.inl rfl) moved
    simpa using begun
  | key held named signs => exact key_read held named signs moved
  | equals held named signs =>
    simp only [step, refusePast] at moved
    split at moved
    · next quoted =>
      cases moved
      have opened := Stage.Read.value [] held named signs quoted (by simp)
      simpa using opened
    · cases moved
  | value value held named signs quoted outside => exact value_read held named signs quoted outside moved
  | closing held => exact stepClosing_read held moved
  | closed held => exact stepClosed_read held moved

theorem leads_read {last : Stage} (read : stage.Read text) (leads : Leads stage more last) :
    last.Read (text ++ more) := by
  induction more generalizing stage text with
  | nil =>
    obtain rfl := leads_nil.1 leads
    simpa using read
  | cons c rest ih =>
    obtain ⟨middle, moved, later⟩ := leads_cons.1 leads
    have whole := ih (step_read read moved) later
    simpa using whole

theorem finish_written {reference : Reference} (read : stage.Read text) (ended : finish stage = .ok reference) :
    reference.Written text := by
  cases read with
  | name onPath word =>
    cases ended
    rw [named_draft]
    exact (onPath.named word).reference
  | closed held =>
    cases ended
    exact held.reference
  | _ => cases ended

end Soundness

inductive Stage.Holds : Stage → Draft → Prop where
  | name (path : Path) (read : List Char) : Holds (.name path read) (path.named read)
  | closed (draft : Draft) : Holds (.closed draft) draft

section Completeness

variable {path : Path} {draft : Draft} {stage : Stage} {text : List Char} {c : Char}

theorem ne_of_isNameChar {other : Char} (nameChar : isNameChar c = true) (outside : isNameChar other = false) :
    c ≠ other := by
  rintro rfl
  exact absurd nameChar (by simp [outside])

theorem Stage.Holds.step (holds : stage.Holds draft) (outside : isNameChar c = false) :
    step stage c = stepClosed draft c := by
  cases holds <;> simp [Reference.step, outside]

theorem Stage.Holds.finish (holds : stage.Holds draft) : finish stage = .ok draft.finish.reference := by
  cases holds <;> rfl

theorem leads_run {held : Type} (stays : held → Stage) (add : held → Char → held) (text : List Char)
    (each : ∀ c ∈ text, ∀ old, step (stays old) c = .ok (stays (add old c))) (old : held) :
    Leads (stays old) text (stays (text.foldl add old)) := by
  induction text generalizing old with
  | nil => exact leads_nil.2 rfl
  | cons c rest ih =>
    rw [List.forall_mem_cons] at each
    exact .cons (each.1 old) (ih each.2 (add old c))

theorem leads_reading (stays : List Char → Stage) (text : List Char)
    (each : ∀ c ∈ text, ∀ old, step (stays old) c = .ok (stays (c :: old))) (old : List Char) :
    Leads (stays old) text (stays (text.reverse ++ old)) := by
  have run := leads_run stays (fun old c => c :: old) text each old
  simpa using run

theorem leads_digits {digits : List Char} (filled : digits ≠ []) (each : ∀ c ∈ digits, c.isDigit = true)
    (free : draft.bound = false) : Leads (.bracket draft) digits (.digits draft (Nat.ofDigitChars 10 digits 0)) := by
  cases digits with
  | nil => exact absurd rfl filled
  | cons c rest =>
    rw [List.forall_mem_cons] at each
    have first : step (.bracket draft) c = .ok (.digits draft (digitValue c)) := by
      have notStar : c ≠ '*' := by
        rintro rfl
        exact absurd each.1 (by decide)
      simp [step, notStar, each.1, free]
    have run := leads_run (Stage.digits draft) (fun value c => 10 * value + digitValue c) rest
      (fun c member value => by simp [step, each.2 c member]) (digitValue c)
    simpa [Nat.ofDigitChars, digitValue] using Leads.cons first run

theorem leads_key {sign key : List Char} (named : Word key) (signs : Signs sign key) :
    Leads (.bracket draft) (sign ++ key) (.key draft key.reverse) := by
  obtain ⟨filled, nameChars⟩ := named
  cases key with
  | nil => exact absurd rfl filled
  | cons c rest =>
    rw [List.forall_mem_cons] at nameChars
    have run := leads_reading (Stage.key draft) rest (fun c member old => by simp [step, nameChars.2 c member]) [c]
    have begun : stepKey draft c = .ok (.key draft [c]) := by simp [stepKey, nameChars.1]
    rw [List.reverse_cons]
    rcases signs with rfl | ⟨rfl, bare⟩
    · exact .cons rfl (.cons begun run)
    · have notDigit : c.isDigit = false := bare c rfl
      have notStar : c ≠ '*' := ne_of_isNameChar nameChars.1 (by decide)
      have notSign : c ≠ '@' := ne_of_isNameChar nameChars.1 (by decide)
      refine .cons ?_ run
      simpa [step, notStar, notDigit, notSign] using begun

theorem leads_bracket {bracket : Bracket} (holds : stage.Holds draft) (written : bracket.Written text)
    (free : bracket.places = true → draft.bound = false) : Leads stage text (.closed (draft.take bracket)) := by
  have opens : step stage '[' = .ok (.bracket draft) := holds.step (by decide)
  cases written with
  | everywhere =>
    have star : step (.bracket draft) '*' = .ok (.closing (draft.bind none)) := by simp [step, free rfl]
    exact .cons opens (.cons star (.single rfl))
  | @place digits filled each small =>
    have closes : step (.digits draft (Nat.ofDigitChars 10 digits 0)) ']' =
        .ok (.closed (draft.take (.place (UInt64.ofNat (Nat.ofDigitChars 10 digits 0))))) := by
      simp [step, small, stepClosing, Draft.take]
    exact .cons opens ((leads_digits filled each (free rfl)).append (.single closes))
  | @asks sign key value quote named signs quoted outside =>
    have equals : step (.key draft key.reverse) '=' = .ok (.equals draft (String.ofList key)) := by
      simp [step, word, show isNameChar '=' = false by decide]
    have opened : step (.equals draft (String.ofList key)) quote = .ok (.value draft (String.ofList key) quote []) := by
      simp [step, quoted]
    have inside := leads_reading (Stage.value draft (String.ofList key) quote) value
      (fun c member old => by simp [step, ne_of_mem_of_not_mem member outside]) []
    have ended : step (.value draft (String.ofList key) quote value.reverse) quote =
        .ok (.closing (draft.ask (String.ofList key) (String.ofList value))) := by simp [step, word]
    have tail : Leads (.key draft key.reverse) ('=' :: quote :: value ++ [quote, ']'])
        (.closed (draft.ask (String.ofList key) (String.ofList value))) := by
      rw [List.append_nil] at inside
      exact .cons equals (.cons opened (inside.append (.cons ended (.single rfl))))
    have whole := Leads.cons opens ((leads_key named signs).append tail)
    simpa [Draft.take] using whole

theorem leads_brackets {name : List Char} {done brackets : List Bracket} {texts : List (List Char)}
    (holds : stage.Holds (path.draft name done)) (each : List.Forall₂ Bracket.Written brackets texts)
    (once : (done ++ brackets).countP Bracket.places ≤ 1) :
    ∃ last, Leads stage texts.flatten last ∧ last.Holds (path.draft name (done ++ brackets)) := by
  induction each generalizing stage done with
  | nil => exact ⟨stage, leads_nil.2 rfl, by simpa using holds⟩
  | @cons bracket text brackets texts written _ ih =>
    rw [List.append_cons] at once ⊢
    have first : (done ++ [bracket]).countP Bracket.places ≤ 1 := by
      rw [List.countP_append] at once
      omega
    have taken := leads_bracket holds written (free_before first)
    rw [draft_take first] at taken
    obtain ⟨last, later, holds⟩ := ih (.closed _) once
    exact ⟨last, taken.append later, holds⟩

theorem leads_segment {segment : Segment} (path : Path) (written : segment.Written text) :
    ∃ last draft, Leads (.segment path) text last ∧ last.Holds draft ∧
      draft.finish = ⟨path.absolute, segment :: path.before⟩ := by
  obtain @⟨name, brackets, texts, ⟨filled, nameChars⟩, each, once⟩ := written
  have named : Leads (.segment path) name (.name path name.reverse) := by
    cases name with
    | nil => exact absurd rfl filled
    | cons c rest =>
      rw [List.forall_mem_cons] at nameChars
      have run := leads_reading (Stage.name path) rest (fun c member old => by simp [step, nameChars.2 c member]) [c]
      rw [List.reverse_cons]
      exact .cons (by simp [step, stepSegment, nameChars.1]) run
  have holds := Stage.Holds.name path name.reverse
  rw [named_draft] at holds
  obtain ⟨last, later, ends⟩ := leads_brackets holds each (by simpa using once)
  refine ⟨last, _, named.append later, ends, ?_⟩
  rw [Draft.finish, draft_segment]
  rfl

theorem leads_segments {segments : List Segment} {texts : List (List Char)} (path : Path)
    (each : List.Forall₂ Segment.Written segments texts) (filled : segments ≠ []) :
    ∃ last draft, Leads (.segment path) (['/'].intercalate texts) last ∧ last.Holds draft ∧
      draft.finish.reference = ⟨path.absolute, path.before.reverse ++ segments⟩ := by
  induction each generalizing path with
  | nil => exact absurd rfl filled
  | @cons segment text segments texts written each ih =>
    obtain ⟨middle, draft, first, holds, finished⟩ := leads_segment path written
    cases each with
    | nil =>
      refine ⟨middle, draft, by simpa [List.intercalate] using first, holds, ?_⟩
      simp [finished, Path.reference]
    | cons next each =>
      obtain ⟨last, final, later, ends, reference⟩ := ih draft.finish (by simp)
      have slashed : step middle '/' = .ok (.segment draft.finish) := holds.step (by decide)
      refine ⟨last, final, ?_, ends, ?_⟩
      · rw [List.intercalate_cons_cons, List.append_assoc]
        exact first.append (.cons slashed later)
      · rw [reference, finished]
        simp

theorem leads_written {reference : Reference} (written : reference.Written text) :
    ∃ last draft, Leads .opening text last ∧ last.Holds draft ∧ draft.finish.reference = reference := by
  obtain @⟨absolute, segments, texts, filled, each⟩ := written
  obtain ⟨last, draft, leads, holds, told⟩ := leads_segments ⟨absolute, []⟩ each filled
  refine ⟨last, draft, ?_, holds, told⟩
  cases absolute with
  | true => exact .cons rfl leads
  | false =>
    cases each with
    | nil => exact absurd rfl filled
    | cons first later =>
      obtain ⟨c, rest, rfl, nameChar⟩ := first.head
      rw [intercalate_cons, List.cons_append] at leads ⊢
      obtain ⟨next, moved, leads⟩ := leads_cons.1 leads
      have notSlash : c ≠ '/' := ne_of_isNameChar nameChar (by decide)
      refine .cons ?_ leads
      simpa [step, notSlash] using moved

end Completeness

theorem read_ok_iff {text : List Char} {reference : Reference} :
    read text = .ok reference ↔ reference.Written text := by
  unfold read
  rw [run_ok_iff]
  constructor
  · rintro ⟨last, leads, ended⟩
    exact finish_written (leads_read .opening leads) ended
  · intro written
    obtain ⟨last, draft, leads, holds, rfl⟩ := leads_written written
    exact ⟨last, leads, holds.finish⟩

theorem Written.unique {text : List Char} {reference other : Reference} (written : reference.Written text)
    (otherwise : other.Written text) : reference = other := by
  have same := (read_ok_iff.2 written).symm.trans (read_ok_iff.2 otherwise)
  exact Except.ok.inj same

theorem parse_ok_iff {text : String} {reference : Reference} :
    parse text = .ok reference ↔ reference.Written (trim text.toList) := by
  rw [← read_ok_iff]
  unfold parse
  cases read (trim text.toList) <;> simp

theorem parse_grammar (text : String) :
    (∀ reference, parse text = .ok reference ↔ reference.Written (trim text.toList)) ∧
      ((∃ reference : Reference, reference.Written (trim text.toList)) ∨
        ∃ detail, parse text = .error (.invalidReference detail)) := by
  refine ⟨fun reference => parse_ok_iff, ?_⟩
  cases told : read (trim text.toList) with
  | ok reference => exact .inl ⟨reference, read_ok_iff.1 told⟩
  | error failure => exact .inr ⟨failure.describe (trim text.toList), by simp [parse, told]⟩

end Casebook.Reference
