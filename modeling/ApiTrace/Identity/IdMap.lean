import ApiTrace.Header.Basic
import ApiTrace.Identity.Error
import ApiTrace.Identity.Version
import ApiTrace.NameMap

/-!
# Shipped numbers

The numbers that the last run shipped, by versioned name. Names and numbers are pairwise distinct
and no number is zero; `nextFree` is where new numbers start. The map is read back from the header
that the last run wrote, one entry on a line.
-/

namespace ApiTrace

/-- Shipped numbers by versioned name. -/
structure IdMap where
  numbers : NameMap Nat
  /-- No two names share a number. -/
  distinct : numbers.entries.Pairwise fun left right => left.2 ≠ right.2
  /-- Zero is reserved for "no function". -/
  positive : ∀ entry ∈ numbers.entries, 0 < entry.2
  /-- No new number is below this one. -/
  nextFree : Nat

/-- A shipped name with its number. -/
structure Prior where
  name : String
  number : Nat
  /-- The version that the name carries. -/
  version : Option Nat
  deriving DecidableEq, Repr

/-- The version of a shipped name as a number. -/
def Prior.rank (prior : Prior) : Nat :=
  prior.version.getD 1

namespace NameMap

theorem pairwise_putEntry {α : Type} {related : String × α → String × α → Prop}
    {name : String} {value : α} {entries : List (String × α)} (h : entries.Pairwise related)
    (below : ∀ entry ∈ entries, related (name, value) entry)
    (above : ∀ entry ∈ entries, related entry (name, value)) :
    (putEntry name value entries).Pairwise related := by
  induction entries with
  | nil => simp [putEntry]
  | cons head entries ih =>
    obtain ⟨first, rest⟩ := List.pairwise_cons.1 h
    simp only [putEntry]
    split
    · exact List.pairwise_cons.2 ⟨below, h⟩
    · split
      · exact List.pairwise_cons.2 ⟨fun entry member => below entry (.tail _ member), rest⟩
      · refine List.pairwise_cons.2 ⟨fun entry member => ?_, ih rest
          (fun entry member => below entry (.tail _ member))
          (fun entry member => above entry (.tail _ member))⟩
        rcases mem_putEntry member with rfl | member
        · exact above _ (.head _)
        · exact first entry member

end NameMap

namespace IdMap

/-- The map without entries: new numbers start at one. -/
def empty : IdMap := ⟨∅, .nil, fun _ member => (List.not_mem_nil member).elim, 1⟩

instance : EmptyCollection IdMap := ⟨empty⟩

instance : Inhabited IdMap := ⟨empty⟩

/-- The entries by ascending name. -/
def entries (map : IdMap) : List (String × Nat) :=
  map.numbers.entries

/-- Two maps are equal when their entries and their starts are. -/
theorem eq_of_entries_eq {left right : IdMap} (entries : left.entries = right.entries)
    (nextFree : left.nextFree = right.nextFree) : left = right := by
  rcases left with ⟨⟨_, _⟩, _, _, _⟩
  rcases right with ⟨⟨_, _⟩, _, _, _⟩
  cases entries
  cases nextFree
  rfl

instance : DecidableEq IdMap := fun left right =>
  if same : left.entries = right.entries ∧ left.nextFree = right.nextFree then
    isTrue (eq_of_entries_eq same.1 same.2)
  else
    isFalse fun equal => same ⟨congrArg entries equal, congrArg nextFree equal⟩

/-- The number of a versioned name. -/
def find? (map : IdMap) (name : String) : Option Nat :=
  map.numbers.find? name

/-- The name that owns a number. -/
def owner? (map : IdMap) (number : Nat) : Option String :=
  (map.entries.find? fun entry => entry.2 = number).map Prod.fst

theorem ne_of_owner?_eq_none {map : IdMap} {number : Nat} (h : map.owner? number = none) :
    ∀ entry ∈ map.entries, number ≠ entry.2 := by
  intro entry member same
  have absent := List.find?_eq_none.1 (Option.map_eq_none_iff.1 h) entry member
  exact absent (by simp [same])

/-- Let new numbers start elsewhere. -/
def withNextFree (map : IdMap) (number : Nat) : IdMap :=
  { map with nextFree := number }

/-- Add a name with its number. New numbers then start above it, as far as 32 bits allow. -/
def insert (map : IdMap) (scope name : String) (number : Nat) : Except IdError IdMap :=
  if nonzero : number = 0 then .error (.reservedNumber scope name)
  else
    match free : map.owner? number with
    | some first => .error (.duplicateNumber scope number first name)
    | none =>
      if map.numbers.contains name then .error (.duplicateName scope name)
      else .ok
        { numbers := map.numbers.insert name number
          distinct := NameMap.pairwise_putEntry map.distinct
            (fun entry member => ne_of_owner?_eq_none free entry member)
            (fun entry member => (ne_of_owner?_eq_none free entry member).symm)
          positive := fun entry member => by
            rcases NameMap.mem_putEntry member with rfl | member
            · exact Nat.pos_of_ne_zero nonzero
            · exact map.positive entry member
          nextFree := max map.nextFree (min (number + 1) Text.maxWord) }

/-- The map of a list of names with their numbers. -/
def ofPairs (scope : String) (pairs : List (String × Nat)) : Except IdError IdMap :=
  pairs.foldlM (fun map pair => map.insert scope pair.1 pair.2) ∅

/-- The entries of a function, over all its versions, by ascending name. -/
def versionsOf (map : IdMap) (base : String) : List Prior :=
  map.entries.filterMap fun (name, number) =>
    let versioned := VersionedName.ofName name
    if versioned.base = base then some ⟨name, number, versioned.version⟩ else none

/-- The first of the highest versions. -/
def highest? (versions : List Prior) : Option Prior :=
  versions.foldl (fun best prior =>
    match best with
    | none => some prior
    | some best => if best.rank < prior.rank then some prior else some best) none

/-- The shipped entry that a function continues: the one with its declared number if there is one,
otherwise the highest version. -/
def prior? (map : IdMap) (base : String) (declared : Option Nat) : Option Prior :=
  let versions := map.versionsOf base
  (versions.find? fun prior => declared = some prior.number).or (highest? versions)

/-- The highest version of a function; one if it was never shipped. -/
def highestVersion (map : IdMap) (base : String) : Nat :=
  (map.versionsOf base).foldl (fun best prior => max best prior.rank) 1

end IdMap

end ApiTrace
