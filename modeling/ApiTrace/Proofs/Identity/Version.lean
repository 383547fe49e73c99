import ApiTrace.Identity.Version
import Mathlib.Data.Set.Operations

/-!
# Reading version tags back

A name is read as tagged exactly if it is a nonempty base, the mark and digits of a version from two
on that fits 32 bits. So such a version is read off a name as it was written, whatever the base ends
in. Hence a name determines its base and version among the pairs that reading can give, and what
reading gives is always such a pair.

A name need not be what writing gives for its base and version: a tag may have leading zeros.
-/

namespace ApiTrace.VersionedName

/-! ## Reading -/

theorem versionOfDigits?_eq_some_iff {digits : List Char} {version : Nat} :
    versionOfDigits? digits = some version ↔
      Text.readNatural? 10 digits = some version ∧ 2 ≤ version ∧ version ≤ Text.maxWord := by
  simp [versionOfDigits?, Option.filter_eq_some_iff]

theorem versionOfDigits?_decimal {version : Nat} (atLeast : 2 ≤ version)
    (atMost : version ≤ Text.maxWord) :
    versionOfDigits? (Text.decimal version) = some version :=
  versionOfDigits?_eq_some_iff.mpr ⟨Text.readNatural?_decimal version, atLeast, atMost⟩

/-- A tagged name is a nonempty base, the mark and the digits of a version. -/
theorem ofName_eq_tagged_iff {text base : String} {version : Nat} :
    ofName text = ⟨base, some version⟩ ↔ base ≠ "" ∧ ∃ digits,
      text.toList = base.toList ++ (mark ++ digits) ∧ versionOfDigits? digits = some version := by
  constructor
  · intro read
    unfold ofName at read
    split at read
    · rename_i first rest digits cut
      split at read
      · rename_i valid
        cases read
        refine ⟨by simp, digits, ?_, valid⟩
        rw [String.toList_ofList, ← List.append_assoc]
        exact Text.append_of_splitLast?_eq_some cut
      · cases read
    · cases read
  -- No mark comes after the one in front of the digits, for digits hold no underscore.
  · rintro ⟨nonempty, digits, written, valid⟩
    have natural := (versionOfDigits?_eq_some_iff.mp valid).1
    have absent : '_' ∉ 'v' :: digits := by
      simpa using Text.underscore_not_mem_of_readNatural? natural
    have cut : Text.splitLast? mark text.toList = some (base.toList, digits) := by
      rw [written]
      exact Text.splitLast?_append base.toList absent
    have characters : base.toList ≠ [] := by simpa using nonempty
    obtain ⟨first, rest, split⟩ := List.exists_cons_of_ne_nil characters
    rw [ofName, cut, split]
    simp only [valid, ← split, String.ofList_toList]

/-- A name that is read without a tag is its own base. -/
theorem eq_of_ofName_eq_untagged {text base : String} (read : ofName text = ⟨base, none⟩) :
    base = text := by
  unfold ofName at read
  split at read
  · split at read
    · cases read
    · cases read
      rfl
  · cases read
    rfl

/-- What reading a name can give: the name itself, or a nonempty base with a version from two on. -/
theorem ofName_cases (text : String) :
    ofName text = ⟨text, none⟩ ∨
      ∃ base version, base ≠ "" ∧ 2 ≤ version ∧ version ≤ Text.maxWord ∧
        ofName text = ⟨base, some version⟩ := by
  rcases read : ofName text with ⟨base, _ | version⟩
  · exact .inl (by rw [eq_of_ofName_eq_untagged read])
  · obtain ⟨nonempty, digits, _, valid⟩ := ofName_eq_tagged_iff.mp read
    obtain ⟨_, atLeast, atMost⟩ := versionOfDigits?_eq_some_iff.mp valid
    exact .inr ⟨base, version, nonempty, atLeast, atMost, rfl⟩

/-- A tag is read off, so the base is shorter. -/
theorem length_base_lt {text base : String} {version : Nat}
    (read : ofName text = ⟨base, some version⟩) : base.length < text.length := by
  obtain ⟨_, digits, written, _⟩ := ofName_eq_tagged_iff.mp read
  have characters := congrArg List.length written
  simp only [List.length_append, mark, List.length_cons, String.length_toList] at characters
  omega

/-- A name starts with its base. -/
theorem base_ofName_isPrefix (text : String) : (ofName text).base.toList <+: text.toList := by
  rcases read : ofName text with ⟨base, _ | version⟩
  · obtain rfl := eq_of_ofName_eq_untagged read
    exact List.prefix_refl _
  · obtain ⟨_, digits, written, _⟩ := ofName_eq_tagged_iff.mp read
    rw [written]
    exact List.prefix_append _ _

theorem two_le_of_ofName_eq {text base : String} {version : Nat}
    (read : ofName text = ⟨base, some version⟩) : 2 ≤ version := by
  obtain ⟨_, digits, _, valid⟩ := ofName_eq_tagged_iff.mp read
  exact (versionOfDigits?_eq_some_iff.mp valid).2.1

/-- Reading gives no version that could be mistaken for an absent one. -/
theorem version_eq_of_rank_eq {leftText rightText base : String} {left right : Option Nat}
    (leftRead : ofName leftText = ⟨base, left⟩) (rightRead : ofName rightText = ⟨base, right⟩)
    (same : left.getD 1 = right.getD 1) : left = right := by
  cases left with
  | none =>
      cases right with
      | none => rfl
      | some version =>
          have atLeast := two_le_of_ofName_eq rightRead
          rw [Option.getD_none, Option.getD_some] at same
          omega
  | some version =>
      have atLeast := two_le_of_ofName_eq leftRead
      cases right with
      | none =>
          rw [Option.getD_none, Option.getD_some] at same
          omega
      | some other => exact congrArg some same

theorem base_ofName_ne_empty {text : String} (nonempty : text ≠ "") :
    (ofName text).base ≠ "" := by
  rcases ofName_cases text with untagged | ⟨base, version, baseNonempty, _, _, tagged⟩
  · rwa [untagged]
  · rwa [tagged]

/-! ## Writing and reading again -/

/-- The base and version that reading their own name gives. -/
def Proper (versioned : VersionedName) : Prop :=
  ofName versioned.name = versioned

theorem toList_name_tagged (base : String) (version : Nat) :
    (name ⟨base, some version⟩).toList =
      base.toList ++ (mark ++ Text.decimal version) := by
  simp [name, mark, Text.showNat]

theorem name_ne_empty {versioned : VersionedName} (nonempty : versioned.base ≠ "") :
    versioned.name ≠ "" := by
  obtain ⟨base, version⟩ := versioned
  cases version with
  | none => exact nonempty
  | some version =>
      intro empty
      have characters := congrArg String.toList empty
      rw [toList_name_tagged] at characters
      simp [mark] at characters

/-- A written tag is read off, whatever the base ends in. -/
theorem proper_tagged {base : String} {version : Nat} (nonempty : base ≠ "")
    (atLeast : 2 ≤ version) (atMost : version ≤ Text.maxWord) :
    Proper ⟨base, some version⟩ :=
  ofName_eq_tagged_iff.mpr ⟨nonempty, Text.decimal version, toList_name_tagged base version,
    versionOfDigits?_decimal atLeast atMost⟩

/-- No other tag that is written is read off. -/
theorem proper_tagged_iff {base : String} {version : Nat} :
    Proper ⟨base, some version⟩ ↔ base ≠ "" ∧ 2 ≤ version ∧ version ≤ Text.maxWord := by
  constructor
  · intro proper
    obtain ⟨nonempty, digits, _, valid⟩ := ofName_eq_tagged_iff.mp proper
    exact ⟨nonempty, (versionOfDigits?_eq_some_iff.mp valid).2⟩
  · rintro ⟨nonempty, atLeast, atMost⟩
    exact proper_tagged nonempty atLeast atMost

/-- A tag without a base is no tag. -/
theorem ofName_name_of_base_empty (version : Option Nat) :
    ofName (name ⟨"", version⟩) = ⟨name ⟨"", version⟩, none⟩ := by
  cases version with
  | none => rfl
  | some version =>
      have absent : '_' ∉ 'v' :: Text.decimal version := by
        simpa using Text.underscore_not_mem_decimal version
      have cut : Text.splitLast? mark (name ⟨"", some version⟩).toList =
          some ([], Text.decimal version) := by
        rw [toList_name_tagged]
        exact Text.splitLast?_append [] absent
      rw [ofName, cut]

/-- Whatever reading gives can be written and read again. -/
theorem proper_ofName (text : String) : (ofName text).Proper := by
  rcases ofName_cases text with untagged | ⟨base, version, nonempty, atLeast, atMost, tagged⟩
  · rw [Proper, untagged]
    exact untagged
  · rw [tagged]
    exact proper_tagged nonempty atLeast atMost

theorem eq_of_name_eq {left right : VersionedName} (leftProper : left.Proper)
    (rightProper : right.Proper) (same : left.name = right.name) : left = right := by
  calc
    left = ofName left.name := leftProper.symm
    _ = ofName right.name := congrArg ofName same
    _ = right := rightProper

/-! ## One name for each base and version -/

/-- A nonempty base with a version that a tag can carry, or without a version if the base itself is
not read as tagged. -/
def Unambiguous (versioned : VersionedName) : Prop :=
  versioned.base ≠ "" ∧
    match versioned.version with
    | some version => 2 ≤ version ∧ version ≤ Text.maxWord
    | none => ofName versioned.base = ⟨versioned.base, none⟩

theorem unambiguous_iff {versioned : VersionedName} :
    versioned.Unambiguous ↔ versioned.base ≠ "" ∧ versioned.Proper := by
  obtain ⟨base, _ | version⟩ := versioned
  · rfl
  · constructor
    · rintro ⟨nonempty, atLeast, atMost⟩
      exact ⟨nonempty, proper_tagged nonempty atLeast atMost⟩
    · rintro ⟨nonempty, proper⟩
      exact ⟨nonempty, (proper_tagged_iff.mp proper).2⟩

/-- Joining and splitting lose nothing. A written tag is read off exactly if its base is nonempty
and its version is from two on and fits 32 bits; a name that is read without a tag is its own base;
and the unambiguous pairs have a name each, which are the nonempty names that are written as they
were read. -/
theorem ofName_inverts_name :
    (∀ base version, ofName (name ⟨base, some version⟩) = ⟨base, some version⟩ ↔
      base ≠ "" ∧ 2 ≤ version ∧ version ≤ Text.maxWord) ∧
    (∀ text base, ofName text = ⟨base, none⟩ → base = text) ∧
    Set.BijOn name {versioned | versioned.Unambiguous}
      {text | text ≠ "" ∧ (ofName text).name = text} := by
  refine ⟨fun base version => proper_tagged_iff, fun text base => eq_of_ofName_eq_untagged,
    ?written, ?injective, ?covered⟩
  case written =>
    intro versioned unambiguous
    obtain ⟨nonempty, proper⟩ := unambiguous_iff.mp unambiguous
    exact ⟨name_ne_empty nonempty, congrArg name proper⟩
  case injective =>
    intro left leftUnambiguous right rightUnambiguous same
    exact eq_of_name_eq (unambiguous_iff.mp leftUnambiguous).2
      (unambiguous_iff.mp rightUnambiguous).2 same
  case covered =>
    rintro text ⟨nonempty, canonical⟩
    have unambiguous : (ofName text).Unambiguous :=
      unambiguous_iff.mpr ⟨base_ofName_ne_empty nonempty, proper_ofName text⟩
    exact ⟨ofName text, unambiguous, canonical⟩

/-- A base that ends in a tag and in a mark, a version of one that is no tag, and two pairs of which
one name starts with the other. -/
theorem ofName_inverts_name_stacked :
    ("zeInit_v3_v" ≠ "" ∧ 2 ≤ 4294967295 ∧ 4294967295 ≤ Text.maxWord ∧
      ofName "zeInit_v3_v_v4294967295" = ⟨"zeInit_v3_v", some 4294967295⟩) ∧
    (∃ base, ofName "zeInit_v1" = ⟨base, none⟩ ∧ base = "zeInit_v1") ∧
    Unambiguous ⟨"zeInit", some 2⟩ ∧ Unambiguous ⟨"zeInit_v2_v", none⟩ ∧
      name ⟨"zeInit", some 2⟩ ≠ name ⟨"zeInit_v2_v", none⟩ := by
  obtain ⟨reads, untagged, _, injective, _⟩ := ofName_inverts_name
  have written : name ⟨"zeInit_v3_v", some 4294967295⟩ = "zeInit_v3_v_v4294967295" := by
    decide +kernel
  have first : ofName "zeInit_v1" = ⟨"zeInit_v1", none⟩ := by decide +kernel
  have tagged : Unambiguous ⟨"zeInit", some 2⟩ := ⟨by decide, by decide, by decide⟩
  have marked : Unambiguous ⟨"zeInit_v2_v", none⟩ := ⟨by decide, by decide +kernel⟩
  refine ⟨⟨by decide, by decide, by decide, ?_⟩, ⟨_, first, untagged _ _ first⟩, tagged, marked, ?_⟩
  · rw [← written]
    exact (reads _ _).mpr ⟨by decide, by decide, by decide⟩
  · intro same
    exact absurd (injective tagged marked same) (by decide)

end ApiTrace.VersionedName
