import Casebook.Proofs.Printing

namespace Casebook

namespace Text

theorem trimStart_append {before behind : List Char} {c : Char} (first : behind.head? = some c)
    (solid : isBlank c = false) : trimStart (before ++ behind) = trimStart before ++ behind := by
  obtain ⟨rest, rfl⟩ := List.head?_eq_some_iff.1 first
  unfold trimStart
  rw [List.dropWhile_append]
  split
  · next nothing =>
    rw [List.isEmpty_iff.1 nothing, List.dropWhile_cons_of_neg (by simp [solid]), List.nil_append]
  · rfl

theorem trimEnd_append {before behind : List Char} {c : Char} (last : before.getLast? = some c)
    (solid : isBlank c = false) : trimEnd (before ++ behind) = before ++ trimEnd behind := by
  have first : before.reverse.head? = some c := by rw [List.head?_reverse, last]
  have cut : (behind.reverse ++ before.reverse).dropWhile isBlank = behind.reverse.dropWhile isBlank ++ before.reverse :=
    trimStart_append first solid
  rw [trimEnd, List.reverse_append, cut, List.reverse_append, List.reverse_reverse, trimEnd]

theorem trim_bracketed (before middle after : List Char) :
    trim (before ++ ('[' :: middle ++ [']']) ++ after) =
      trimStart before ++ ('[' :: middle ++ [']']) ++ trimEnd after := by
  rw [trim, List.append_assoc, trimStart_append (c := '[') rfl (by decide), ← List.append_assoc,
    trimEnd_append (c := ']') (by rw [← List.append_assoc, List.getLast?_concat]) (by decide)]

end Text

namespace Reference
open Text

section Walks

variable {stage middle last : Stage} {draft : Draft} {before after : List Char} {c : Char} {reference : Reference}

theorem Leads.append_iff (first : Leads stage before middle) :
    Leads stage (before ++ after) last ↔ Leads middle after last := by
  unfold Leads at first ⊢
  rw [List.foldlM_append, first]
  rfl

theorem parse_leads_iff {text : String} :
    parse text = .ok reference ↔ ∃ last, Leads .opening (trim text.toList) last ∧ finish last = .ok reference := by
  rw [parse_ok_iff, ← read_ok_iff]
  exact run_ok_iff

theorem holds_of_finish (ended : finish stage = .ok reference) : ∃ draft, stage.Holds draft := by
  cases stage with
  | name path read => exact ⟨_, .name path read⟩
  | closed draft => exact ⟨_, .closed draft⟩
  | _ => cases ended

theorem refused_stops {refusal : Refusal} (refused : step stage c = .error refusal) : ¬ Leads stage (c :: after) last := by
  rw [leads_cons, refused]
  rintro ⟨next, moved, _⟩
  cases moved

theorem blank_stops (holds : stage.Holds draft) (blank : isBlank c = true) : ¬ Leads stage (c :: after) last := by
  have apart : ∀ other : Char, isBlank other = false → c ≠ other := by
    rintro other solid rfl
    simp [solid] at blank
  have outside : isNameChar c = false := by
    rw [← Bool.not_eq_true]
    intro nameChar
    simp [blank_outside nameChar] at blank
  have refused : step stage c = .error ⟨.expected '/', false⟩ := by
    rw [holds.step outside, stepClosed, if_neg (apart '[' (by decide)), if_neg (apart '/' (by decide)), refuse]
  exact refused_stops refused

end Walks

def asking (sign key value : String) (quote : Char) : String :=
  "[" ++ (sign ++ key ++ "=" ++ String.singleton quote ++ value ++ String.singleton quote) ++ "]"

-- The key begins as a position does.
def Counted (key : String) : Prop := ∃ c, key.toList.head? = some c ∧ c.isDigit = true

-- Behind a reference the bracket is read where that reference ended, and only if no blanks stand in between.
theorem parse_asking_iff {before : String} {whole : Reference} (parsed : parse before = .ok whole) :
    ∃ stage draft, stage.Holds draft ∧ ∀ (sign key value : String) (quote : Char) (after : String) reference,
      parse (before ++ asking sign key value quote ++ after) = .ok reference ↔
        trimStart before.toList = trim before.toList ∧
          ∃ last, Leads stage ((asking sign key value quote).toList ++ trimEnd after.toList) last ∧
            finish last = .ok reference := by
  obtain ⟨stage, leads, ended⟩ := parse_leads_iff.1 parsed
  obtain ⟨draft, holds⟩ := holds_of_finish ended
  obtain ⟨blanks, split, blank⟩ := trimEnd_split (trimStart before.toList)
  change trimStart before.toList = trim before.toList ++ blanks at split
  refine ⟨stage, draft, holds, fun sign key value quote after reference => ?_⟩
  have spelled : trim (before ++ asking sign key value quote ++ after).toList =
      trimStart before.toList ++ ((asking sign key value quote).toList ++ trimEnd after.toList) := by
    have cut := trim_bracketed before.toList
      (sign ++ key ++ "=" ++ String.singleton quote ++ value ++ String.singleton quote).toList after.toList
    simpa [asking] using cut
  rw [parse_leads_iff, spelled, split]
  cases blanks with
  | nil => simp only [List.append_nil, leads.append_iff, true_and]
  | cons c rest =>
    have different : trim before.toList ++ c :: rest ≠ trim before.toList := by simp
    simp only [different, false_and, iff_false, List.append_assoc, leads.append_iff]
    rintro ⟨last, stopped, _⟩
    exact blank_stops holds (blank c List.mem_cons_self) stopped

section Keys

variable {draft : Draft} {last : Stage} {key rest : List Char}

theorem digits_refused (draft : Draft) (value : Nat) {c : Char} (notDigit : c.isDigit = false) (opens : c ≠ ']') :
    ∃ refusal, step (.digits draft value) c = .error refusal := by
  simp only [step, notDigit, Bool.false_eq_true, if_false, stepClosing, if_neg opens, refuse]
  split <;> exact ⟨_, rfl⟩

-- However many digits a key begins with, the character behind them closes no bracket.
theorem digits_stop (named : ∀ c ∈ key, isNameChar c = true) (value : Nat) :
    ¬ Leads (.digits draft value) (key ++ '=' :: rest) last := by
  induction key generalizing value with
  | nil =>
    obtain ⟨refusal, refused⟩ := digits_refused draft value (show '='.isDigit = false from rfl) (by decide)
    exact refused_stops refused
  | cons c later ih =>
    rw [List.forall_mem_cons] at named
    cases digit : c.isDigit with
    | true =>
      rw [List.cons_append, leads_cons]
      rintro ⟨next, moved, leads⟩
      simp only [step, digit, if_true, Except.ok.injEq] at moved
      subst moved
      exact ih named.2 _ leads
    | false =>
      have opens : c ≠ ']' := ne_of_isNameChar named.1 (by decide)
      obtain ⟨refusal, refused⟩ := digits_refused draft value digit opens
      exact refused_stops refused

theorem counted_stops {c : Char} (first : key.head? = some c) (digit : c.isDigit = true) (named : Word key) :
    ¬ Leads (.bracket draft) (key ++ '=' :: rest) last := by
  obtain ⟨later, rfl⟩ := List.head?_eq_some_iff.1 first
  have notStar : c ≠ '*' := by
    rintro rfl
    exact absurd digit (by decide)
  cases bound : draft.bound with
  | true =>
    have refused : step (.bracket draft) c = .error ⟨.duplicatePosition, false⟩ := by
      simp [step, notStar, digit, bound, refuse]
    exact refused_stops refused
  | false =>
    rw [List.cons_append, leads_cons]
    rintro ⟨next, moved, leads⟩
    simp only [step, if_neg notStar, digit, bound, if_true, Bool.false_eq_true, if_false, Except.ok.injEq] at moved
    subst moved
    exact digits_stop (fun c member => named.2 c (List.mem_cons_of_mem _ member)) _ leads

end Keys

section Brackets

variable {stage last : Stage} {draft : Draft} {sign key value : String} {quote : Char} {rest : List Char}

theorem asking_toList (sign key value : String) (quote : Char) :
    (asking sign key value quote).toList =
      '[' :: sign.toList ++ key.toList ++ '=' :: quote :: value.toList ++ [quote, ']'] := by
  simp [asking]

theorem asking_leads_iff (holds : stage.Holds draft) (named : Word key.toList)
    (signs : Signs sign.toList key.toList) (quoted : quote = '\'' ∨ quote = '"') (outside : quote ∉ value.toList) :
    Leads stage ((asking sign key value quote).toList ++ rest) last ↔ Leads (.closed (draft.ask key value)) rest last := by
  have read := leads_bracket holds (.asks named signs quoted outside) (by simp [Bracket.places])
  rw [← asking_toList] at read
  simp only [Draft.take, String.ofList_toList] at read
  exact read.append_iff

theorem counted_asking_stops (holds : stage.Holds draft) (named : Word key.toList) (counted : Counted key) :
    ¬ Leads stage ((asking "" key value quote).toList ++ rest) last := by
  obtain ⟨c, first, digit⟩ := counted
  have opens : step stage '[' = .ok (.bracket draft) := holds.step (by decide)
  rw [asking_toList, String.toList_empty]
  intro leads
  simp only [List.cons_append, List.append_assoc, List.nil_append] at leads
  obtain ⟨next, moved, later⟩ := leads_cons.1 leads
  obtain rfl := Except.ok.inj (opens.symm.trans moved)
  exact counted_stops first digit named later

theorem signs_of_uncounted (uncounted : ¬ Counted key) : Signs [] key.toList := by
  refine .inr ⟨rfl, fun c first => ?_⟩
  rw [← Bool.not_eq_true]
  exact fun digit => uncounted ⟨c, first, digit⟩

end Brackets

theorem sign_spared_iff {before : String} {whole : Reference} (parsed : parse before = .ok whole) {key value : String}
    {quote : Char} (named : Word key.toList) (quoted : quote = '\'' ∨ quote = '"') (outside : quote ∉ value.toList)
    (after : String) :
    ((∀ reference, parse (before ++ asking "@" key value quote ++ after) = .ok reference ↔
          parse (before ++ asking "" key value quote ++ after) = .ok reference) ↔
        (Counted key → ∀ reference, parse (before ++ asking "@" key value quote ++ after) ≠ .ok reference)) ∧
      (Counted key → ∀ reference, parse (before ++ asking "" key value quote ++ after) ≠ .ok reference) := by
  obtain ⟨stage, draft, holds, asked⟩ := parse_asking_iff parsed
  have bare : Counted key → ∀ reference, parse (before ++ asking "" key value quote ++ after) ≠ .ok reference := by
    intro counted reference told
    obtain ⟨_, last, leads, _⟩ := (asked "" key value quote after reference).1 told
    exact counted_asking_stops holds named counted leads
  refine ⟨⟨?_, ?_⟩, bare⟩
  · intro same counted reference told
    exact bare counted reference ((same reference).1 told)
  · intro refused reference
    by_cases counted : Counted key
    · exact iff_of_false (refused counted reference) (bare counted reference)
    · have signed : Signs "@".toList key.toList := .inl rfl
      have unsigned : Signs "".toList key.toList := signs_of_uncounted counted
      rw [asked, asked]
      simp only [asking_leads_iff holds named signed quoted outside,
        asking_leads_iff holds named unsigned quoted outside]

theorem lettered_key_spares_sign :
    (parse "/é[2]" = .ok ⟨true, [⟨"é", some 2, []⟩]⟩ ∧ Word "k1".toList ∧ '"' ∉ "it's".toList) ∧
    ∀ reference, parse ("/é[2]" ++ asking "@" "k1" "it's" '"' ++ "/b ") = .ok reference ↔
      parse ("/é[2]" ++ asking "" "k1" "it's" '"' ++ "/b ") = .ok reference := by
  have parsed : parse "/é[2]" = .ok ⟨true, [⟨"é", some 2, []⟩]⟩ := rfl
  have named : Word "k1".toList := ⟨by decide, List.all_eq_true.1 rfl⟩
  have outside : '"' ∉ "it's".toList := by decide
  have uncounted : ¬ Counted "k1" := by
    rintro ⟨c, first, digit⟩
    obtain rfl : 'k' = c := by simpa using first
    exact absurd digit (by decide)
  exact ⟨⟨parsed, named, outside⟩,
    (sign_spared_iff parsed named (.inr rfl) outside "/b ").1.2 fun counted => absurd counted uncounted⟩

-- Without its sign the key is read as a position that is not closed.
theorem counted_key_needs_sign :
    (parse "/a" = .ok ⟨true, [⟨"a", none, []⟩]⟩ ∧ Word "1k".toList ∧ '\'' ∉ "v".toList) ∧
    (parse ("/a" ++ asking "@" "1k" "v" '\'' ++ "") = .ok ⟨true, [⟨"a", none, [⟨"1k", "v"⟩]⟩]⟩ ∧
      parse ("/a" ++ asking "" "1k" "v" '\'' ++ "") =
        .error (.invalidReference "expected ']' at offset 4 in '/a[1k='v']'")) ∧
    ¬ ∀ reference, parse ("/a" ++ asking "@" "1k" "v" '\'' ++ "") = .ok reference ↔
      parse ("/a" ++ asking "" "1k" "v" '\'' ++ "") = .ok reference := by
  have signed : parse ("/a" ++ asking "@" "1k" "v" '\'' ++ "") = .ok ⟨true, [⟨"a", none, [⟨"1k", "v"⟩]⟩]⟩ := rfl
  have bare : parse ("/a" ++ asking "" "1k" "v" '\'' ++ "") =
      .error (.invalidReference "expected ']' at offset 4 in '/a[1k='v']'") := rfl
  refine ⟨⟨rfl, ⟨by decide, List.all_eq_true.1 rfl⟩, by decide⟩, ⟨signed, bare⟩, fun same => ?_⟩
  have told := (same _).1 signed
  rw [bare] at told
  cases told

end Reference
end Casebook
