import ApiTrace.Identity.Entry
import ApiTrace.Identity.IdMap

/-!
# Plans

What happens to each function and to each shipped pair is decided before any number is minted. The
decisions depend on the shipped pairs and on the declared numbers alone: a shipped pair is kept, or
it is evicted because another function declares its number.
-/

namespace ApiTrace

/-- Whether a record belongs to a function of the current header. -/
inductive Origin where
  | current
  /-- A shipped pair that is kept for older consumers. -/
  | residual
  deriving DecidableEq, Repr

/-- One decision of a plan. -/
inductive Move where
  /-- A new function takes the number that it declares. -/
  | adopt (function : String) (number : Nat)
  /-- A new function gets a fresh number. -/
  | mint (function : String)
  /-- A shipped pair keeps its number. -/
  | keep (base : String) (prior : Prior) (origin : Origin)
  /-- A shipped pair loses its number to `claimant` and goes on under a new version. -/
  | evict (base : String) (prior : Prior) (claimant : String) (origin : Origin)
  /-- A function goes on under a new version with the number that it declares now. -/
  | reversion (function : String) (prior : Prior) (number : Nat)
  deriving DecidableEq, Repr

/-- The function that declares a number. -/
def declarer? (entries : List Entry) (number : Nat) : Option String :=
  (entries.find? fun entry => entry.declared = some number).map Entry.name

/-- The function other than `base` that declares a number. -/
def claimant? (entries : List Entry) (number : Nat) (base : String) : Option String :=
  (declarer? entries number).filter fun name => name != base

/-- Keep a shipped pair, or evict it if another function claims its number. -/
def keepOrEvict (entries : List Entry) (base : String) (prior : Prior) (origin : Origin) : Move :=
  match claimant? entries prior.number base with
  | some claimant => .evict base prior claimant origin
  | none => .keep base prior origin

/-- The decisions about one function. -/
def movesOfEntry (entries : List Entry) (map : IdMap) (entry : Entry) : List Move :=
  match map.prior? entry.name entry.declared, entry.declared with
  | none, some number => [.adopt entry.name number]
  | none, none => [.mint entry.name]
  | some prior, some number =>
    if number = prior.number then [keepOrEvict entries entry.name prior .current]
    else [keepOrEvict entries entry.name prior .residual, .reversion entry.name prior number]
  | some prior, none => [keepOrEvict entries entry.name prior .current]

/-- The shipped names that functions of the list continue. -/
def continued (entries : List Entry) (map : IdMap) : List String :=
  entries.filterMap fun entry => (map.prior? entry.name entry.declared).map Prior.name

/-- The shipped pairs that no function continues, by ascending number. -/
def residuals (entries : List Entry) (map : IdMap) : List (String × Nat) :=
  let names := continued entries map
  (map.entries.filter fun entry => !names.contains entry.1).mergeSort fun left right =>
    left.2 ≤ right.2

/-- The decision about a shipped pair that no function continues. -/
def moveOfResidual (entries : List Entry) (pair : String × Nat) : Move :=
  let versioned := VersionedName.ofName pair.1
  keepOrEvict entries versioned.base ⟨pair.1, pair.2, versioned.version⟩ .residual

/-- All decisions, in the order in which they are carried out. -/
def plan (entries : List Entry) (map : IdMap) : List Move :=
  entries.flatMap (movesOfEntry entries map) ++
    (residuals entries map).map (moveOfResidual entries)

end ApiTrace
