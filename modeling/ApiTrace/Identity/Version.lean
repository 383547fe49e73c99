import ApiTrace.Text.Numeral
import ApiTrace.Text.Search

/-!
# Version tags

A function whose number had to change continues under its name with a tag `_vN`, where `N` is at
least two. `VersionedName.ofName` takes the tag off a name and `VersionedName.name` puts it back.
-/

namespace ApiTrace

/-- A function's name and the version under which it is numbered. -/
structure VersionedName where
  base : String
  /-- The version, from two on; the first version has no tag. -/
  version : Option Nat
  deriving DecidableEq, Repr

namespace VersionedName

/-- The text that starts a version tag. -/
def mark : List Char := ['_', 'v']

/-- The version in the digits of a tag. -/
def versionOfDigits? (digits : List Char) : Option Nat :=
  (Text.readNatural? 10 digits).filter fun version => 2 ≤ version ∧ version ≤ Text.maxWord

/-- Take the version tag off a name. A text that is no proper tag belongs to the base. -/
def ofName (name : String) : VersionedName :=
  match Text.splitLast? mark name.toList with
  | some (c :: base, digits) =>
    match versionOfDigits? digits with
    | some version => ⟨String.ofList (c :: base), some version⟩
    | none => ⟨name, none⟩
  | _ => ⟨name, none⟩

/-- The base with its tag. -/
def name (versioned : VersionedName) : String :=
  match versioned.version with
  | some version => versioned.base ++ "_v" ++ Text.showNat version
  | none => versioned.base

/-- The version as a number: a name without a tag is the first version. -/
def rank (versioned : VersionedName) : Nat :=
  versioned.version.getD 1

end VersionedName

end ApiTrace
