import Casebook.Text.Utf8

namespace Casebook

theorem bytes_trichotomy {left right : Bytes} (notBelow : ¬ left < right) (different : left ≠ right) :
    right < left := by
  rcases Std.Trichotomous.rel_or_eq_or_rel_swap (r := (· < · : Bytes → Bytes → Prop)) (a := left) (b := right) with
    below | same | above
  · exact absurd below notBelow
  · exact absurd same different
  · exact above

namespace OrderedMap
variable {κ ν : Type} (bytes : κ → Bytes)

def Ascending (entries : List (κ × ν)) : Prop := entries.Pairwise fun a b => bytes a.1 < bytes b.1

def insertEntry (key : κ) (value : ν) : List (κ × ν) → List (κ × ν)
  | [] => [(key, value)]
  | first :: rest =>
    if bytes key < bytes first.1 then (key, value) :: first :: rest
    else if bytes key = bytes first.1 then (key, value) :: rest
    else first :: insertEntry key value rest

theorem mem_of_mem_insertEntry {key : κ} {value : ν} {entries : List (κ × ν)} {entry : κ × ν}
    (member : entry ∈ insertEntry bytes key value entries) : entry = (key, value) ∨ entry ∈ entries := by
  induction entries with
  | nil => simpa [insertEntry] using member
  | cons first rest ih =>
    unfold insertEntry at member
    split at member
    · simpa using member
    · split at member
      · rcases List.mem_cons.mp member with new | old
        · exact .inl new
        · exact .inr (List.mem_cons_of_mem _ old)
      · rcases List.mem_cons.mp member with rfl | inRest
        · exact .inr (by simp)
        · rcases ih inRest with new | old
          · exact .inl new
          · exact .inr (List.mem_cons_of_mem _ old)

theorem insertEntry_ascending {key : κ} {value : ν} {entries : List (κ × ν)}
    (ascending : Ascending bytes entries) : Ascending bytes (insertEntry bytes key value entries) := by
  unfold Ascending at ascending ⊢
  induction entries with
  | nil => simp [insertEntry]
  | cons first rest ih =>
    obtain ⟨above, tail⟩ := List.pairwise_cons.mp ascending
    unfold insertEntry
    split
    · rename_i below
      refine List.pairwise_cons.mpr ⟨?_, ascending⟩
      intro entry member
      rcases List.mem_cons.mp member with rfl | old
      · exact below
      · exact List.lt_trans below (above entry old)
    · rename_i notBelow
      split
      · rename_i same
        refine List.pairwise_cons.mpr ⟨?_, tail⟩
        intro entry member
        have later := above entry member
        rwa [← same] at later
      · rename_i different
        refine List.pairwise_cons.mpr ⟨?_, ih tail⟩
        intro entry member
        rcases mem_of_mem_insertEntry bytes member with rfl | old
        · exact bytes_trichotomy notBelow different
        · exact above entry old

end OrderedMap

structure OrderedMap {κ : Type} (bytes : κ → Bytes) (ν : Type) where
  entries : List (κ × ν)
  ascending : OrderedMap.Ascending bytes entries

namespace OrderedMap
variable {κ ν : Type} {bytes : κ → Bytes}

def empty : OrderedMap bytes ν := ⟨[], .nil⟩

def insert (key : κ) (value : ν) (map : OrderedMap bytes ν) : OrderedMap bytes ν :=
  ⟨insertEntry bytes key value map.entries, insertEntry_ascending bytes map.ascending⟩

def erase (key : κ) (map : OrderedMap bytes ν) : OrderedMap bytes ν :=
  ⟨map.entries.filter fun entry => bytes entry.1 != bytes key, List.Pairwise.filter _ map.ascending⟩

def get? (map : OrderedMap bytes ν) (key : κ) : Option ν :=
  (map.entries.find? fun entry => bytes entry.1 == bytes key).map Prod.snd

-- Replaces what is under a key by what a change makes of it; nothing made of it drops the entry.
def update (key : κ) (change : Option ν → Option ν) (map : OrderedMap bytes ν) : OrderedMap bytes ν :=
  match change (map.get? key) with
  | some value => map.insert key value
  | none => map.erase key

def keys (map : OrderedMap bytes ν) : List κ := map.entries.map Prod.fst

def size (map : OrderedMap bytes ν) : Nat := map.entries.length

def isEmpty (map : OrderedMap bytes ν) : Bool := map.entries.isEmpty

def ofList (entries : List (κ × ν)) : OrderedMap bytes ν :=
  entries.foldl (fun map entry => map.insert entry.1 entry.2) empty

end OrderedMap

abbrev ByteMap (ν : Type) := OrderedMap (fun bytes : Bytes => bytes) ν

abbrev TextMap := OrderedMap Text.utf8 String

end Casebook
