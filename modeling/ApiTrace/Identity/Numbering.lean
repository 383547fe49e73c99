import ApiTrace.Identity.Category
import ApiTrace.Identity.Plan
import ApiTrace.Journal

/-!
# Numbering

Carrying out a plan. Fresh numbers ascend and skip every shipped and every declared number; fresh
versions of a function continue above its highest shipped version. Both stay within 32 bits: the
arithmetic is checked, and an addition that overflows ends the run with `IdError.exhausted`.
-/

namespace ApiTrace

/-- A numbered function. -/
structure Record where
  /-- The name without version tag. -/
  function : String
  number : Nat
  version : Option Nat
  origin : Origin
  deriving DecidableEq, Repr

namespace Record

/-- The name with its version tag. -/
def name (record : Record) : String :=
  VersionedName.name ⟨record.function, record.version⟩

/-- The enumerator that stands for the number. -/
def enumerator (record : Record) : String :=
  record.name ++ "_id"

end Record

/-- Something that was done to keep shipped numbers valid. -/
inductive Event where
  /-- A function declares a new number; the old pair stays. -/
  | reversioned (function retained : String) (retainedNumber : Nat) (minted : String)
    (mintedNumber : Nat)
  /-- A shipped number went to another function; the evicted pair has a new name and number. -/
  | recycled (evicted : String) (number : Nat) (claimant reassigned : String)
    (reassignedNumber : Nat)
  deriving DecidableEq, Repr

/-- The first number from `start` on that is not taken. -/
def firstFree (taken : List Nat) (start : Nat) : Nat :=
  if start ∈ taken then firstFree (taken.erase start) (start + 1) else start
termination_by taken.length
decreasing_by
  rename_i member
  have := List.length_pos_of_mem member
  rw [List.length_erase_of_mem member]
  omega

/-- How far a plan has been carried out. -/
structure Numbering where
  /-- The last fresh number; zero before the first. -/
  last : Nat := 0
  /-- The functions that got a fresh version, once for each. -/
  bumped : List String := []
  records : List Record := []
  events : List Event := []
  deriving DecidableEq, Repr

/-- What a numbering may not use, and where it starts. -/
structure NumberSpace where
  category : Category
  map : IdMap
  /-- The shipped and the declared numbers. -/
  taken : List Nat

namespace Numbering

/-- Take the next fresh number. The search starts above the last one and adds one for each number
that it skips. If an addition overflows 32 bits, checked arithmetic ends the run; arithmetic that
wraps around is not modelled. -/
def mint (numbering : Numbering) (space : NumberSpace) : Except IdError (Nat × Numbering) :=
  let number := firstFree space.taken (max space.map.nextFree (numbering.last + 1))
  if number ≤ Text.maxWord then .ok (number, { numbering with last := number })
  else .error .exhausted

/-- Take the next version of a function. If the addition overflows 32 bits, checked arithmetic ends
the run. -/
def bump (numbering : Numbering) (space : NumberSpace) (base : String) :
    Except IdError (Nat × Numbering) :=
  let version := space.map.highestVersion base + numbering.bumped.count base + 1
  if version ≤ Text.maxWord then
    .ok (version, { numbering with bumped := base :: numbering.bumped })
  else .error .exhausted

/-- Add a record. -/
def addRecord (numbering : Numbering) (record : Record) : Numbering :=
  { numbering with records := numbering.records ++ [record] }

/-- Add an event. -/
def addEvent (numbering : Numbering) (event : Event) : Numbering :=
  { numbering with events := numbering.events ++ [event] }

/-- Carry out one decision. -/
def carryOut (space : NumberSpace) (numbering : Numbering) :
    Move → Except IdError Numbering
  | .adopt function number => .ok (numbering.addRecord ⟨function, number, none, .current⟩)
  | .mint function => do
    let (number, numbering) ← numbering.mint space
    return numbering.addRecord ⟨function, number, none, .current⟩
  | .keep base prior origin =>
    .ok (numbering.addRecord ⟨base, prior.number, prior.version, origin⟩)
  | .evict base prior claimant origin => do
    let (version, numbering) ← numbering.bump space base
    let (number, numbering) ← numbering.mint space
    let record : Record := ⟨base, number, some version, origin⟩
    return (numbering.addRecord record).addEvent
      (.recycled prior.name prior.number claimant record.name number)
  | .reversion function prior number => do
    let (version, numbering) ← numbering.bump space function
    let record : Record := ⟨function, number, some version, .current⟩
    return (numbering.addRecord record).addEvent
      (.reversioned function prior.name prior.number record.name number)

end Numbering

/-- What the journal says about a new function. -/
def newFunctionMessage (scope function : String) (number : Nat) : Message :=
  ⟨.debug, scope ++ ": new `" ++ function ++ "` = " ++ Text.showNat number⟩

/-- What the journal says about an event. -/
def Event.message (scope : String) : Event → Message
  | .recycled evicted number claimant reassigned reassignedNumber =>
    ⟨.warning, scope ++ ": id " ++ Text.showNat number ++ " of `" ++ evicted ++
      "` is now claimed by `" ++ claimant ++ "`, re-emitted as `" ++ reassigned ++ "` = " ++
      Text.showNat reassignedNumber⟩
  | .reversioned function retained retainedNumber minted mintedNumber =>
    ⟨.warning, scope ++ ": `" ++ function ++ "` changed its id from " ++
      Text.showNat retainedNumber ++ " to " ++ Text.showNat mintedNumber ++ ", kept `" ++
      retained ++ "` and added `" ++ minted ++ "`"⟩

/-- What the journal says about the decision that led to a numbering. -/
def messagesOf (scope : String) (move : Move) (after : Numbering) : List Message :=
  match move with
  | .adopt .. | .mint .. =>
    (after.records.getLast?.map fun record =>
      newFunctionMessage scope record.function record.number).toList
  | .keep .. => []
  | .evict .. | .reversion .. => (after.events.getLast?.map (Event.message scope)).toList

namespace Numbering

/-- Carry out one decision and note it. -/
def step (space : NumberSpace) (numbering : Numbering) (move : Move) :
    Journalled IdError Numbering :=
  match numbering.carryOut space move with
  | .error error => .fail error
  | .ok after => ⟨messagesOf space.category.key move after, .ok after⟩

@[simp]
theorem outcome_step (space : NumberSpace) (numbering : Numbering) (move : Move) :
    (numbering.step space move).outcome = numbering.carryOut space move := by
  unfold step
  split <;> rename_i ended <;> simp only [ended, Journalled.outcome_fail]

end Numbering

end ApiTrace
