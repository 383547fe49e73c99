import ApiTrace.Text.LetterCase

/-!
# Categories

A category is one independent space of numbers, named by a domain and a subdomain.
-/

namespace ApiTrace

/-- A space of numbers. -/
structure Category where
  domain : String
  subdomain : String
  deriving DecidableEq, Repr

namespace Category

/-- The name of the category inside identifiers. -/
def key (category : Category) : String :=
  category.domain ++ "_" ++ category.subdomain

/-- The name of the category as a person reads it. -/
def label (category : Category) : String :=
  category.domain ++ "/" ++ category.subdomain

/-- The ending of the constant that stands for the category's group. -/
def apiGroup (category : Category) : String :=
  String.ofList (Text.upper category.subdomain.toList)

end Category

end ApiTrace
