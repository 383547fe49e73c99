/-!
# Finite maps from names

A finite map is its list of entries, ascending by name and with at most one entry for a name. Two
maps with the same entries are therefore equal, whatever the order of the insertions.
-/

namespace ApiTrace

/-- Entries of a finite map, strictly ascending by name. -/
structure NameMap (α : Type) where
  /-- The entries, in ascending order of their names. -/
  entries : List (String × α)
  /-- No name occurs twice, and the order is ascending. -/
  ascending : entries.Pairwise fun left right => left.1 < right.1

namespace NameMap

variable {α : Type}

instance [DecidableEq α] : DecidableEq (NameMap α) := fun left right =>
  if same : left.entries = right.entries then
    isTrue (by cases left; cases right; cases same; rfl)
  else
    isFalse fun equal => same (congrArg entries equal)

/-- The map without entries. -/
def empty : NameMap α := ⟨[], .nil⟩

instance : EmptyCollection (NameMap α) := ⟨empty⟩

instance : Inhabited (NameMap α) := ⟨empty⟩

/-- Put an entry at its place, instead of an entry with the same name. -/
def putEntry (name : String) (value : α) : List (String × α) → List (String × α)
  | [] => [(name, value)]
  | (other, kept) :: entries =>
    if name < other then (name, value) :: (other, kept) :: entries
    else if name = other then (name, value) :: entries
    else (other, kept) :: putEntry name value entries

theorem mem_putEntry {name : String} {value : α} {entry : String × α}
    {entries : List (String × α)} (h : entry ∈ putEntry name value entries) :
    entry = (name, value) ∨ entry ∈ entries := by
  induction entries with
  | nil => simpa [putEntry] using h
  | cons head entries ih =>
    simp only [putEntry] at h
    split at h
    · simpa using h
    · split at h
      · simp only [List.mem_cons] at h ⊢
        exact h.imp_right .inr
      · simp only [List.mem_cons] at h ⊢
        rcases h with h | h
        · exact .inr (.inl h)
        · exact (ih h).imp_right .inr

theorem ascending_putEntry (name : String) (value : α) {entries : List (String × α)}
    (h : entries.Pairwise fun left right => left.1 < right.1) :
    (putEntry name value entries).Pairwise fun left right => left.1 < right.1 := by
  induction entries with
  | nil => simp [putEntry]
  | cons head entries ih =>
    obtain ⟨above, rest⟩ := List.pairwise_cons.1 h
    simp only [putEntry]
    split
    · rename_i before
      refine List.pairwise_cons.2 ⟨fun entry member => ?_, h⟩
      rcases List.mem_cons.1 member with rfl | member
      · exact before
      · exact String.lt_trans before (above entry member)
    · rename_i notBefore
      split
      · rename_i same
        subst same
        exact List.pairwise_cons.2 ⟨above, rest⟩
      · rename_i different
        refine List.pairwise_cons.2 ⟨fun entry member => ?_, ih rest⟩
        rcases mem_putEntry member with rfl | member
        · by_cases after : head.1 < name
          · exact after
          · exact absurd (String.le_antisymm (String.not_lt.1 after) (String.not_lt.1 notBefore))
              different
        · exact above entry member

/-- Add an entry, or replace the entry of that name. -/
def insert (map : NameMap α) (name : String) (value : α) : NameMap α :=
  ⟨putEntry name value map.entries, ascending_putEntry name value map.ascending⟩

/-- The value of a name. -/
def find? (map : NameMap α) (name : String) : Option α :=
  map.entries.lookup name

/-- Whether a name has an entry. -/
def contains (map : NameMap α) (name : String) : Bool :=
  (map.find? name).isSome

theorem lookup_putEntry_self (name : String) (value : α) (entries : List (String × α)) :
    (putEntry name value entries).lookup name = some value := by
  induction entries with
  | nil => simp [putEntry]
  | cons head entries ih =>
    simp only [putEntry]
    split
    · simp
    · split
      · simp
      · rename_i different
        rw [List.lookup_cons, beq_eq_false_iff_ne.2 different]
        exact ih

theorem lookup_putEntry_of_ne {name other : String} (different : other ≠ name) (value : α)
    (entries : List (String × α)) :
    (putEntry name value entries).lookup other = entries.lookup other := by
  have skipped : (other == name) = false := beq_eq_false_iff_ne.2 different
  induction entries with
  | nil => simp [putEntry, different]
  | cons head entries ih =>
    simp only [putEntry]
    split
    · rw [List.lookup_cons, skipped]
    · split
      · rename_i same
        rw [List.lookup_cons, List.lookup_cons, ← same, skipped]
      · rw [List.lookup_cons, List.lookup_cons, ih]

/-- Looking a name up after an entry is put. -/
theorem find?_insert (map : NameMap α) (name : String) (value : α) (other : String) :
    (map.insert name value).find? other = if other = name then some value else map.find? other := by
  split
  · rename_i same
    rw [same, find?, insert, lookup_putEntry_self]
  · rename_i different
    rw [find?, insert, lookup_putEntry_of_ne different, find?]

/-- The number of entries. -/
def size (map : NameMap α) : Nat :=
  map.entries.length

/-- The names, ascending. -/
def names (map : NameMap α) : List String :=
  map.entries.map Prod.fst

/-- The values, by ascending name. -/
def values (map : NameMap α) : List α :=
  map.entries.map Prod.snd

end NameMap

end ApiTrace
