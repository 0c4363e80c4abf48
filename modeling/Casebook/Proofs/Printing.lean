import Casebook.Proofs.Reading
import Casebook.Reference.Printer
import Mathlib.Algebra.Ring.Nat

namespace Casebook
open Reference Text

def Firm (text : List Char) : Prop :=
  (∀ c ∈ text.head?, isBlank c = false) ∧ ∀ c ∈ text.getLast?, isBlank c = false

namespace Text

theorem trimStart_split (text : List Char) :
    ∃ blanks, text = blanks ++ trimStart text ∧ ∀ c ∈ blanks, isBlank c = true := by
  refine ⟨text.takeWhile isBlank, List.takeWhile_append_dropWhile.symm, ?_⟩
  intro c member
  exact List.all_eq_true.1 List.all_takeWhile c member

theorem trimEnd_split (text : List Char) :
    ∃ blanks, text = trimEnd text ++ blanks ∧ ∀ c ∈ blanks, isBlank c = true := by
  refine ⟨(text.reverse.takeWhile isBlank).reverse, ?_, ?_⟩
  · rw [trimEnd, ← List.reverse_append, List.takeWhile_append_dropWhile, List.reverse_reverse]
  · intro c member
    exact List.all_eq_true.1 List.all_takeWhile c (List.mem_reverse.1 member)

theorem dropWhile_isBlank {text : List Char} (solid : ∀ c ∈ text.head?, isBlank c = false) :
    text.dropWhile isBlank = text := by
  cases text with
  | nil => rfl
  | cons c rest => simp [solid c rfl]

theorem head_solid {text : List Char} {c : Char} (found : (text.dropWhile isBlank).head? = some c) :
    isBlank c = false := by
  have stopped := List.head?_dropWhile_not isBlank text
  rwa [found] at stopped

theorem trim_firm (text : List Char) : Firm (trim text) := by
  constructor
  · intro c found
    obtain ⟨blanks, split, -⟩ := trimEnd_split (trimStart text)
    have kept : (trimEnd (trimStart text)).head? = some c := found
    have front : (trimStart text).head? = some c := by
      rw [split, List.head?_append, kept, Option.some_or]
    exact head_solid front
  · intro c found
    rw [trim, trimEnd, List.getLast?_reverse] at found
    exact head_solid found

theorem trimStart_blanks {before behind : List Char} (blank : ∀ c ∈ before, isBlank c = true) :
    trimStart (before ++ behind) = trimStart behind := List.dropWhile_append_of_pos blank

theorem trimEnd_blanks {before behind : List Char} (blank : ∀ c ∈ behind, isBlank c = true) :
    trimEnd (before ++ behind) = trimEnd before := by
  unfold trimEnd
  rw [List.reverse_append, List.dropWhile_append_of_pos (by simpa using blank)]

end Text

-- Whatever the way of cutting: the trimmed text is the one between the blanks.
theorem trim_iff {text middle : List Char} :
    trim text = middle ↔ Firm middle ∧ ∃ before after, text = before ++ middle ++ after ∧
      (∀ c ∈ before, isBlank c = true) ∧ ∀ c ∈ after, isBlank c = true := by
  constructor
  · rintro rfl
    obtain ⟨before, front, blank⟩ := trimStart_split text
    obtain ⟨after, back, blank'⟩ := trimEnd_split (trimStart text)
    refine ⟨trim_firm text, before, after, ?_, blank, blank'⟩
    rw [List.append_assoc, trim, ← back]
    exact front
  · intro cut
    obtain ⟨⟨head, last⟩, before, after, rfl, blank, blank'⟩ := cut
    rw [List.append_assoc, Text.trim, trimStart_blanks blank]
    cases middle with
    | nil =>
      have nothing : trimStart (after ++ []) = trimStart [] := trimStart_blanks blank'
      rw [List.append_nil] at nothing
      rw [List.nil_append, nothing]
      rfl
    | cons opener rest =>
      have front : trimStart (opener :: rest ++ after) = opener :: rest ++ after := dropWhile_isBlank head
      have back : (opener :: rest).reverse.dropWhile isBlank = (opener :: rest).reverse :=
        dropWhile_isBlank (by rw [List.head?_reverse]; exact last)
      rw [front, trimEnd_blanks blank', trimEnd, back, List.reverse_reverse]

theorem Firm.trim {text : List Char} (firm : Firm text) : trim text = text :=
  trim_iff.2 ⟨firm, [], [], by simp⟩

theorem Firm.append {first later : List Char} (before : Firm first) (behind : Firm later) : Firm (first ++ later) := by
  refine ⟨fun c found => ?_, fun c found => ?_⟩
  · rw [List.head?_append, Option.mem_def, Option.or_eq_some_iff] at found
    rcases found with found | ⟨_, found⟩
    · exact before.1 c found
    · exact behind.1 c found
  · rw [List.getLast?_append, Option.mem_def, Option.or_eq_some_iff] at found
    rcases found with found | ⟨_, found⟩
    · exact behind.2 c found
    · exact before.2 c found

theorem Firm.flatten {texts : List (List Char)} (each : ∀ text ∈ texts, Firm text) : Firm texts.flatten := by
  induction texts with
  | nil => simp [Firm]
  | cons text later ih =>
    rw [List.forall_mem_cons] at each
    exact each.1.append (ih each.2)

theorem blank_outside {c : Char} (nameChar : isNameChar c = true) : isBlank c = false := by
  have apart : ∀ range ∈ blankRanges, ∀ more < range.2 + 1 - range.1,
      isNameChar (Char.ofNat (range.1 + more)) = false := by decide +kernel
  by_contra blank
  rw [Bool.not_eq_false, isBlank, CharRanges.contains_exact] at blank
  obtain ⟨range, member, low, high⟩ := blank
  have outside := apart range member (c.toNat - range.1) (by omega)
  rw [Nat.add_sub_cancel' low, Char.ofNat_toNat, nameChar] at outside
  cases outside

theorem Word.firm {text : List Char} (word : Word text) : Firm text :=
  ⟨fun c found => blank_outside (word.2 c (List.mem_of_mem_head? found)),
    fun c found => blank_outside (word.2 c (List.mem_of_mem_getLast? found))⟩

theorem firm_bracketed (middle : List Char) : Firm ('[' :: middle ++ [']']) := by
  refine ⟨fun c found => ?_, fun c found => ?_⟩
  · obtain rfl : '[' = c := by simpa using found
    decide
  · rw [List.getLast?_concat] at found
    obtain rfl : ']' = c := by simpa using found
    decide

theorem Firm.slashed {absolute : Bool} {texts : List (List Char)} (each : ∀ text ∈ texts, Firm text) :
    Firm (slash absolute ++ ['/'].intercalate texts) := by
  have slashed : Firm ['/'] := ⟨by simp; decide, by simp; decide⟩
  refine Firm.append ?_ ?_
  · cases absolute with
    | true => exact slashed
    | false => simp [Firm, slash]
  · cases texts with
    | nil => simp [Firm, List.intercalate]
    | cons first later =>
      rw [List.forall_mem_cons] at each
      rw [intercalate_cons, List.flatMap]
      refine each.1.append (Firm.flatten ?_)
      rw [List.forall_mem_map]
      exact fun text member => slashed.append (each.2 text member)

-- True of every segment that some text is written for.
structure Segment.Named (segment : Segment) : Prop where
  name : Word segment.name.toList
  keys : ∀ predicate ∈ segment.predicates, Word predicate.key.toList

structure Reference.Named (reference : Reference) : Prop where
  filled : reference.segments ≠ []
  each : ∀ segment ∈ reference.segments, segment.Named

def Segment.Plain (segment : Segment) : Prop := ∀ predicate ∈ segment.predicates, '\'' ∉ predicate.value.toList

section Forms

variable {segment : Segment} {reference : Reference} {predicate : Predicate} {text : List Char}

theorem exists_of_forall₂ {part : Type} {spells : part → List Char → Prop} {parts : List part}
    {texts : List (List Char)} (each : List.Forall₂ spells parts texts) : ∀ one ∈ parts, ∃ text, spells one text := by
  induction each with
  | nil => simp
  | cons first _ ih =>
    rw [List.forall_mem_cons]
    exact ⟨⟨_, first⟩, ih⟩

theorem Bracket.Written.key {bracket : Bracket} (written : bracket.Written text)
    (asks : bracket.predicate? = some predicate) : Word predicate.key.toList := by
  cases written with
  | everywhere => cases asks
  | place => cases asks
  | asks named =>
    cases asks
    simpa using named

theorem Segment.Written.named (written : segment.Written text) : segment.Named := by
  obtain ⟨named, each, _⟩ := written
  refine ⟨by simpa using named, fun predicate member => ?_⟩
  obtain ⟨bracket, among, asks⟩ := List.mem_filterMap.1 member
  obtain ⟨text, written⟩ := exists_of_forall₂ each bracket among
  exact written.key asks

theorem Reference.Written.named (written : reference.Written text) : reference.Named := by
  obtain ⟨_, filled, each⟩ := written
  refine ⟨filled, fun segment member => ?_⟩
  obtain ⟨text, written⟩ := exists_of_forall₂ each segment member
  exact written.named

theorem print_slashed (filled : reference.segments ≠ []) :
    print reference = slash reference.absolute ++ ['/'].intercalate (reference.segments.map printSegment) := by
  obtain ⟨absolute, segments⟩ := reference
  cases segments with
  | nil => exact absurd rfl filled
  | cons first later =>
    rw [List.map_cons, intercalate_cons, List.flatMap_map]
    cases absolute <;> rfl

theorem printSegment_firm (named : segment.Named) : Firm (printSegment segment) := by
  refine (named.name.firm.append ?_).append ?_
  · cases segment.position with
    | none => simp [Firm, printPosition]
    | some position => exact firm_bracketed _
  · refine Firm.flatten (List.forall_mem_map.2 fun predicate _ => ?_)
    have bracketed := firm_bracketed ('@' :: predicate.key.toList ++ '=' :: '\'' :: predicate.value.toList ++ ['\''])
    simpa [printPredicate] using bracketed

theorem print_firm (named : reference.Named) : Firm (print reference) := by
  rw [print_slashed named.filled]
  exact Firm.slashed (List.forall_mem_map.2 fun segment member => printSegment_firm (named.each segment member))

theorem printPosition_written (position : Position) :
    (Bracket.place position).Written (printPosition (some position)) := by
  have digits : ∀ c ∈ Nat.toDigits 10 position.toNat, c.isDigit = true := fun c member =>
    Nat.isDigit_of_mem_toDigits (by decide) (by decide) member
  have value : Nat.ofDigitChars 10 (Nat.toDigits 10 position.toNat) 0 = position.toNat :=
    Nat.ofDigitChars_toDigits (by decide) (by decide)
  have written := Bracket.Written.place Nat.toDigits_ne_nil digits (by rw [value]; exact position.toNat_lt_size)
  rwa [value, UInt64.ofNat_toNat] at written

theorem printPredicate_written (named : Word predicate.key.toList) (plain : '\'' ∉ predicate.value.toList) :
    (Bracket.asks predicate).Written (printPredicate predicate) := by
  have written := Bracket.Written.asks named (.inl rfl) (.inl rfl) plain
  simpa [printPredicate] using written

theorem printSegment_written (named : segment.Named) (plain : segment.Plain) :
    segment.Written (printSegment segment) := by
  obtain ⟨name, position, predicates⟩ := segment
  have asked : List.Forall₂ Bracket.Written (predicates.map .asks) (predicates.map printPredicate) := by
    rw [List.forall₂_map_left_iff, List.forall₂_map_right_iff, List.forall₂_same]
    exact fun predicate member => printPredicate_written (named.keys predicate member) (plain predicate member)
  have silent : (predicates.map Bracket.asks).countP Bracket.places = 0 := by
    simp [List.countP_map, Function.comp_def, Bracket.places]
  have unplaced : (predicates.map Bracket.asks).findSome? Bracket.position? = none := by simp [Bracket.position?]
  have asking : (predicates.map Bracket.asks).filterMap Bracket.predicate? = predicates := by
    simp [List.filterMap_map, Function.comp_def, Bracket.predicate?]
  cases position with
  | none =>
    have written := Segment.Written.mk named.name asked (by omega)
    simpa [unplaced, asking, printSegment, printPosition, List.flatMap] using written
  | some position =>
    have written := Segment.Written.mk named.name (.cons (printPosition_written position) asked)
      (by rw [List.countP_cons, silent]; split <;> omega)
    rw [List.findSome?_cons, List.filterMap_cons] at written
    simpa [Bracket.position?, Bracket.predicate?, asking, printSegment, List.flatMap] using written

theorem print_written (named : reference.Named) (plain : ∀ segment ∈ reference.segments, segment.Plain) :
    reference.Written (print reference) := by
  rw [print_slashed named.filled]
  refine .mk reference.absolute named.filled ?_
  rw [List.forall₂_map_right_iff, List.forall₂_same]
  exact fun segment member => printSegment_written (named.each segment member) (plain segment member)

end Forms

def Predicate.quotes (predicate : Predicate) : Nat := 2 + predicate.value.toList.count '\''

def Bracket.quotes (bracket : Bracket) : Nat := (bracket.predicate?.map Predicate.quotes).getD 0

def Segment.quotes (segment : Segment) : Nat := (segment.predicates.map Predicate.quotes).sum

section Counts

variable {segment : Segment} {reference : Reference} {predicate : Predicate} {text : List Char}

theorem Word.unquoted (word : Word text) : text.count '\'' = 0 := by
  rw [List.count_eq_zero]
  intro member
  exact absurd (word.2 _ member) (by decide)

theorem count_slashed {absolute : Bool} {texts : List (List Char)} :
    (slash absolute ++ ['/'].intercalate texts).count '\'' = (texts.map (List.count '\'')).sum := by
  have parted : (['/'].intercalate texts).count '\'' = (texts.map (List.count '\'')).sum := by
    cases texts with
    | nil => rfl
    | cons first later =>
      rw [intercalate_cons, List.count_append, List.count_flatMap]
      simp [Function.comp_def]
  cases absolute <;> simpa [slash] using parted

theorem count_printPredicate (named : Word predicate.key.toList) :
    (printPredicate predicate).count '\'' = predicate.quotes := by
  have counted : (printPredicate predicate).count '\'' = predicate.value.toList.count '\'' + 1 + 1 := by
    simp [printPredicate, named.unquoted]
  rw [counted, Predicate.quotes]
  omega

theorem digits_unquoted {digits : List Char} (each : ∀ c ∈ digits, c.isDigit = true) : digits.count '\'' = 0 := by
  rw [List.count_eq_zero]
  intro member
  exact absurd (each _ member) (by decide)

theorem count_printPosition (position : Option Position) : (printPosition position).count '\'' = 0 := by
  cases position with
  | none => rfl
  | some position =>
    have unquoted := digits_unquoted fun c member =>
      Nat.isDigit_of_mem_toDigits (b := 10) (n := position.toNat) (by decide) (by decide) member
    simp [printPosition, unquoted]

theorem count_printSegment (named : segment.Named) : (printSegment segment).count '\'' = segment.quotes := by
  have asked : segment.predicates.map (fun predicate => (printPredicate predicate).count '\'') =
      segment.predicates.map Predicate.quotes :=
    List.map_congr_left fun predicate member => count_printPredicate (named.keys predicate member)
  rw [printSegment, List.count_append, List.count_append, named.name.unquoted, count_printPosition, List.count_flatMap]
  simpa [Function.comp_def, Segment.quotes] using congrArg List.sum asked

-- Where the texts of some parts have no more quotes than the parts are measured at, and as many in all, every part is
-- measured exactly.
theorem exact_of_count {part : Type} {measure : part → Nat} {parts : List part} {texts : List (List Char)}
    {exact : part → Prop}
    (each : List.Forall₂ (fun one text => text.count '\'' ≤ measure one ∧ (text.count '\'' = measure one → exact one))
      parts texts) : (texts.map (List.count '\'')).sum ≤ (parts.map measure).sum ∧
      ((texts.map (List.count '\'')).sum = (parts.map measure).sum → ∀ one ∈ parts, exact one) := by
  induction each with
  | nil => simp
  | cons first _ ih =>
    simp only [List.map_cons, List.sum_cons, List.forall_mem_cons]
    refine ⟨by omega, fun equal => ⟨first.2 (by omega), ih.2 (by omega)⟩⟩

theorem Bracket.Written.count_le {bracket : Bracket} (written : bracket.Written text) :
    text.count '\'' ≤ bracket.quotes ∧ (text.count '\'' = bracket.quotes →
      ∀ predicate ∈ bracket.predicate?, '\'' ∉ predicate.value.toList) := by
  cases written with
  | everywhere => simp [Bracket.predicate?, Bracket.quotes]
  | place _ each => simp [Bracket.predicate?, Bracket.quotes, digits_unquoted each]
  | @asks sign key value quote named signs quoted outside =>
    have unsigned : sign.count '\'' = 0 := by
      rcases signs with rfl | ⟨rfl, _⟩ <;> rfl
    rcases quoted with rfl | rfl
    · simp [Bracket.predicate?, Bracket.quotes, Predicate.quotes, named.unquoted, unsigned,
        List.count_eq_zero.2 outside, outside]
    · -- Double quotes are two fewer than the print has.
      simp [Bracket.predicate?, Bracket.quotes, Predicate.quotes, named.unquoted, unsigned]

theorem sum_quotes (brackets : List Bracket) : (brackets.map Bracket.quotes).sum =
    ((brackets.filterMap Bracket.predicate?).map Predicate.quotes).sum := by
  induction brackets with
  | nil => rfl
  | cons bracket later ih => cases bracket <;> simp [List.filterMap_cons, Bracket.predicate?, Bracket.quotes, ih]

theorem Segment.Written.count_le (written : segment.Written text) :
    text.count '\'' ≤ segment.quotes ∧ (text.count '\'' = segment.quotes → segment.Plain) := by
  obtain @⟨name, brackets, texts, named, each, _⟩ := written
  obtain ⟨most, exact⟩ := exact_of_count (each.imp fun _ _ => Bracket.Written.count_le)
  rw [sum_quotes] at most exact
  rw [List.count_append, named.unquoted, List.count_flatten, Nat.zero_add]
  refine ⟨most, fun equal predicate member => ?_⟩
  obtain ⟨bracket, among, asks⟩ := List.mem_filterMap.1 member
  exact exact equal bracket among predicate asks

theorem count_print (named : reference.Named) :
    (print reference).count '\'' = (reference.segments.map Segment.quotes).sum := by
  rw [print_slashed named.filled, count_slashed, List.map_map]
  exact congrArg List.sum (List.map_congr_left fun segment member => count_printSegment (named.each segment member))

theorem Reference.Written.plain (written : reference.Written text)
    (exact : text.count '\'' = (reference.segments.map Segment.quotes).sum) :
    ∀ segment ∈ reference.segments, segment.Plain := by
  obtain ⟨_, _, each⟩ := written
  rw [count_slashed] at exact
  exact (exact_of_count (each.imp fun _ _ => Segment.Written.count_le)).2 exact

end Counts

namespace Reference

theorem text_reads_back (source : String) {reference : Reference} (parsed : parse source = .ok reference) :
    parse reference.text = .ok reference ↔
      ∀ segment ∈ reference.segments, ∀ predicate ∈ segment.predicates, '\'' ∉ predicate.value.toList := by
  have named := (parse_ok_iff.1 parsed).named
  rw [parse_ok_iff, Reference.text, String.toList_ofList, (print_firm named).trim]
  constructor
  · -- The print has two single quotes for every value beside those inside it, and whatever is read as this reference
    -- has that many only if there are none inside.
    intro written
    exact written.plain (count_print named)
  · exact print_written named

theorem double_quoted_reads_back : parse "case[@name=\"Bob\"]" = .ok ⟨false, [⟨"case", none, [⟨"name", "Bob"⟩]⟩]⟩ ∧
    parse (text ⟨false, [⟨"case", none, [⟨"name", "Bob"⟩]⟩]⟩) = .ok ⟨false, [⟨"case", none, [⟨"name", "Bob"⟩]⟩]⟩ :=
  ⟨rfl, (text_reads_back "case[@name=\"Bob\"]" rfl).2 (by decide)⟩

-- The print of a value with a single quote is refused, or it is read as other predicates.
theorem single_quotes_lost :
    (parse "/a[@k=\"it's\"]" = .ok ⟨true, [⟨"a", none, [⟨"k", "it's"⟩]⟩]⟩ ∧
      parse (text ⟨true, [⟨"a", none, [⟨"k", "it's"⟩]⟩]⟩) =
        .error (.invalidReference "expected ']' at offset 10 in '/a[@k='it's']'")) ∧
    parse "/a[@k=\"x'][@j='y\"]" = .ok ⟨true, [⟨"a", none, [⟨"k", "x'][@j='y"⟩]⟩]⟩ ∧
      parse (text ⟨true, [⟨"a", none, [⟨"k", "x'][@j='y"⟩]⟩]⟩) =
        .ok ⟨true, [⟨"a", none, [⟨"k", "x"⟩, ⟨"j", "y"⟩]⟩]⟩ :=
  ⟨⟨rfl, rfl⟩, rfl, rfl⟩

structure Printable (reference : Reference) : Prop where
  filled : reference.segments ≠ []
  names : ∀ segment ∈ reference.segments, Word segment.name.toList
  keys : ∀ segment ∈ reference.segments, ∀ predicate ∈ segment.predicates, Word predicate.key.toList
  plain : ∀ segment ∈ reference.segments, ∀ predicate ∈ segment.predicates, '\'' ∉ predicate.value.toList

theorem Printable.named {reference : Reference} (printable : reference.Printable) : reference.Named :=
  ⟨printable.filled, fun segment member => ⟨printable.names segment member, printable.keys segment member⟩⟩

theorem parse_text_iff {reference : Reference} : parse reference.text = .ok reference ↔ reference.Printable := by
  constructor
  · -- Only now that some text spells the reference is its own text known to have no blanks around it.
    intro told
    have written := parse_ok_iff.1 told
    have named := written.named
    rw [Reference.text, String.toList_ofList, (print_firm named).trim] at written
    exact ⟨named.filled, fun segment member => (named.each segment member).name,
      fun segment member => (named.each segment member).keys, written.plain (count_print named)⟩
  · intro printable
    have named := printable.named
    rw [parse_ok_iff, Reference.text, String.toList_ofList, (print_firm named).trim]
    exact print_written named printable.plain

theorem text_tells_iff (reference : Reference) :
    (parse reference.text = .ok reference ↔ reference.Printable) ∧
      ∀ other : Reference, reference.Printable → other.Printable → reference.text = other.text → reference = other := by
  refine ⟨parse_text_iff, ?_⟩
  intro other printable otherwise same
  have told := parse_text_iff.2 printable
  rw [same, parse_text_iff.2 otherwise] at told
  exact (Except.ok.inj told).symm

-- A bracket in a name is taken for a position.
example : parse (text ⟨true, [⟨"a[3]", none, []⟩]⟩) = .ok ⟨true, [⟨"a", some 3, []⟩]⟩ := rfl

end Reference

end Casebook
