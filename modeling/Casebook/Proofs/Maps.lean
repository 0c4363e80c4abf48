import Casebook.OrderedMap

namespace Casebook.OrderedMap
variable {κ ν : Type} {bytes : κ → Bytes}

theorem find_insertEntry (key other : κ) (value : ν) (entries : List (κ × ν)) :
    ((insertEntry bytes key value entries).find? fun entry => bytes entry.1 == bytes other).map Prod.snd =
      if bytes key = bytes other then some value
      else (entries.find? fun entry => bytes entry.1 == bytes other).map Prod.snd := by
  induction entries with
  | nil => by_cases asked : bytes key = bytes other <;> simp [insertEntry, asked]
  | cons first rest ih =>
    unfold insertEntry
    by_cases asked : bytes key = bytes other
    · rw [if_pos asked] at ih ⊢
      split
      · simp [asked]
      · split
        · simp [asked]
        · rename_i different
          have skipped : ¬ bytes first.1 = bytes other := fun same => different (asked.trans same.symm)
          simpa [skipped] using ih
    · rw [if_neg asked] at ih ⊢
      split
      · simp [asked]
      · split
        · rename_i same
          have skipped : ¬ bytes first.1 = bytes other := fun found => asked (same.trans found)
          simp [asked, skipped]
        · by_cases found : bytes first.1 = bytes other
          · simp [found]
          · simpa [found] using ih

theorem get_insert (map : OrderedMap bytes ν) (key other : κ) (value : ν) :
    (map.insert key value).get? other = if bytes key = bytes other then some value else map.get? other :=
  find_insertEntry key other value map.entries

theorem get_erase (map : OrderedMap bytes ν) (key other : κ) :
    (map.erase key).get? other = if bytes key = bytes other then none else map.get? other := by
  unfold get? erase
  rw [List.find?_filter]
  by_cases asked : bytes key = bytes other
  · simp [asked]
  · rw [if_neg asked]
    congr 2
    funext entry
    by_cases found : bytes entry.1 = bytes other
    · simp [found, Ne.symm asked]
    · simp [found]

theorem get_update (map : OrderedMap bytes ν) (key other : κ) (change : Option ν → Option ν) :
    (map.update key change).get? other =
      if bytes key = bytes other then change (map.get? key) else map.get? other := by
  unfold update
  cases made : change (map.get? key) with
  | none => exact get_erase map key other
  | some value => exact get_insert map key other value

theorem key_of_get {map : OrderedMap bytes ν} {key : κ} {value : ν} (found : map.get? key = some value) :
    ∃ other ∈ map.keys, bytes other = bytes key := by
  obtain ⟨entry, first, _⟩ := Option.map_eq_some_iff.mp found
  have member := List.mem_of_find?_eq_some first
  have same := List.find?_some first
  exact ⟨entry.1, List.mem_map_of_mem member, by simpa using same⟩

theorem get_of_key {map : OrderedMap bytes ν} {key : κ} (present : key ∈ map.keys) :
    ∃ value, map.get? key = some value := by
  obtain ⟨entry, member, rfl⟩ := List.mem_map.mp present
  have found : (map.entries.find? fun other => bytes other.1 == bytes entry.1).isSome = true :=
    List.find?_isSome.mpr ⟨entry, member, by simp⟩
  obtain ⟨first, eq⟩ := Option.isSome_iff_exists.mp found
  exact ⟨first.2, by rw [get?, eq]; rfl⟩

theorem key_of_insert {map : OrderedMap bytes ν} {key other : κ} {value : ν}
    (present : other ∈ (map.insert key value).keys) : other = key ∨ other ∈ map.keys := by
  obtain ⟨entry, member, rfl⟩ := List.mem_map.mp present
  rcases mem_of_mem_insertEntry bytes member with rfl | old
  · exact .inl rfl
  · exact .inr (List.mem_map_of_mem old)

theorem key_of_erase {map : OrderedMap bytes ν} {key other : κ} (present : other ∈ (map.erase key).keys) :
    other ∈ map.keys := by
  obtain ⟨entry, member, rfl⟩ := List.mem_map.mp present
  exact List.mem_map_of_mem (List.mem_filter.mp member).1

theorem key_of_update {map : OrderedMap bytes ν} {key other : κ} {change : Option ν → Option ν}
    (present : other ∈ (map.update key change).keys) : other = key ∨ other ∈ map.keys := by
  unfold update at present
  split at present
  · exact key_of_insert present
  · exact .inr (key_of_erase present)

theorem filter_insertEntry (key : κ) (value : ν) (entries : List (κ × ν)) :
    (insertEntry bytes key value entries).filter (fun entry => bytes entry.1 != bytes key) =
      entries.filter fun entry => bytes entry.1 != bytes key := by
  induction entries with
  | nil => simp [insertEntry]
  | cons first rest ih =>
    unfold insertEntry
    split
    · simp
    · split
      · rename_i same
        simp [same]
      · rw [List.filter_cons, List.filter_cons, ih]

theorem erase_insert (map : OrderedMap bytes ν) (key : κ) (value : ν) :
    (map.insert key value).erase key = map.erase key := by
  unfold erase insert
  congr 1
  exact filter_insertEntry key value map.entries

theorem erase_erase (map : OrderedMap bytes ν) (key : κ) : (map.erase key).erase key = map.erase key := by
  unfold erase
  congr 1
  rw [List.filter_filter]
  simp only [Bool.and_self]

theorem keys_erase (map : OrderedMap bytes ν) (key : κ) :
    (map.erase key).keys = map.keys.filter fun other => bytes other != bytes key := by
  rw [keys, keys, List.filter_map]
  rfl

theorem keys_ascending (map : OrderedMap bytes ν) : map.keys.Pairwise fun a b => bytes a < bytes b :=
  List.pairwise_map.mpr map.ascending

theorem keys_distinct (map : OrderedMap bytes ν) : map.keys.Nodup := by
  apply map.keys_ascending.imp
  intro key other before same
  rw [same] at before
  exact List.lt_irrefl _ before

def lastUnder (bytes : κ → Bytes) (entries : List (κ × ν)) (key : κ) : Option ν :=
  ((entries.filter fun entry => bytes entry.1 == bytes key).getLast?).map Prod.snd

theorem get_inserted (entries : List (κ × ν)) (map : OrderedMap bytes ν) (key : κ) :
    (entries.foldl (fun map entry => map.insert entry.1 entry.2) map).get? key =
      (lastUnder bytes entries key).or (map.get? key) := by
  induction entries generalizing map with
  | nil => rfl
  | cons entry rest ih =>
    rw [List.foldl_cons, ih, get_insert]
    unfold lastUnder
    by_cases own : bytes entry.1 = bytes key
    · rw [List.filter_cons_of_pos (by simpa using own), List.getLast?_cons, if_pos own]
      cases (rest.filter fun entry => bytes entry.1 == bytes key).getLast? <;> rfl
    · rw [List.filter_cons_of_neg (by simpa using own), if_neg own]

theorem get_ofList (entries : List (κ × ν)) (key : κ) :
    (ofList entries : OrderedMap bytes ν).get? key = lastUnder bytes entries key := by
  rw [ofList, get_inserted]
  exact Option.or_none

theorem entries_under (map : OrderedMap bytes ν) (key : κ) :
    map.entries.filter (fun entry => bytes entry.1 == bytes key) =
      (map.entries.find? fun entry => bytes entry.1 == bytes key).toList := by
  have ordered := map.ascending.filter fun entry => bytes entry.1 == bytes key
  have own : ∀ entry ∈ map.entries.filter (fun entry => bytes entry.1 == bytes key), bytes entry.1 = bytes key := by
    intro entry member
    simpa using (List.mem_filter.mp member).2
  rw [← List.head?_filter]
  generalize map.entries.filter _ = under at ordered own ⊢
  match under with
  | [] => rfl
  | [entry] => rfl
  | first :: second :: rest =>
    have below := (List.pairwise_cons.mp ordered).1 second (by simp)
    rw [own first (by simp), own second (by simp)] at below
    exact absurd below (List.lt_irrefl _)

theorem lastUnder_entries (map : OrderedMap bytes ν) (key : κ) : lastUnder bytes map.entries key = map.get? key := by
  rw [lastUnder, entries_under, get?]
  cases map.entries.find? fun entry => bytes entry.1 == bytes key <;> rfl

theorem mem_entries_iff (exact : ∀ {key other}, bytes key = bytes other → key = other) {map : OrderedMap bytes ν}
    {key : κ} {value : ν} :
    (key, value) ∈ map.entries ↔ map.get? key = some value := by
  constructor
  · intro member
    have under : (key, value) ∈ map.entries.filter fun entry => bytes entry.1 == bytes key :=
      List.mem_filter.mpr ⟨member, by simp⟩
    rw [entries_under, Option.mem_toList] at under
    rw [get?, under, Option.map_some]
  · intro found
    obtain ⟨⟨other, _⟩, first, rfl⟩ := Option.map_eq_some_iff.mp found
    have same := List.find?_some first
    rw [← exact (eq_of_beq same)]
    exact List.mem_of_find?_eq_some first

theorem isSome_lastUnder {entries : List (κ × ν)} {key : κ} :
    (lastUnder bytes entries key).isSome = true ↔ ∃ entry ∈ entries, bytes entry.1 = bytes key := by
  simp [lastUnder]

-- Where bytes tell keys apart, the keys of a map are those under which something is found.
theorem key_iff_get (exact : ∀ {key other}, bytes key = bytes other → key = other) {map : OrderedMap bytes ν}
    {key : κ} :
    key ∈ map.keys ↔ (map.get? key).isSome = true := by
  constructor
  · intro present
    obtain ⟨value, found⟩ := get_of_key present
    rw [found, Option.isSome_some]
  · intro there
    obtain ⟨value, found⟩ := Option.isSome_iff_exists.mp there
    obtain ⟨other, present, same⟩ := key_of_get found
    rwa [← exact same]

end Casebook.OrderedMap
