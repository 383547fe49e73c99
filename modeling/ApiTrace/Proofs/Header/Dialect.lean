import ApiTrace.Header.Dialect
import Mathlib.Data.List.SplitBy

/-!
# Signs in names

A sign is an ASCII character before the digits: a line ending, a number sign, a slash. Words hold
none and a change of case makes none, so the parameter structure of a function has no sign that the
name of the function has not.
-/

namespace ApiTrace

namespace Text

/-- An ASCII character before the digits. -/
def IsSign (c : Char) : Prop :=
  0 < c.toNat ∧ c.toNat < 48

instance : DecidablePred IsSign := fun c => inferInstanceAs (Decidable (0 < c.toNat ∧ c.toNat < 48))

/-- What holds of the characters of the lowest codes, one by one. -/
@[elab_as_elim]
theorem of_toNat_lt {bound : Nat} {motive : Char → Prop} {c : Char} (below : c.toNat < bound)
    (each : ∀ code < bound, motive (Char.ofNat code)) : motive c := by
  have this := each c.toNat below
  rwa [Char.ofNat_toNat] at this

/-- A word holds no sign. -/
theorem not_isSign_of_isWordChar {c : Char} (inWord : isWordChar c = true) : ¬IsSign c := by
  rintro ⟨_, below⟩
  rw [isWordChar, if_pos (by omega)] at inWord
  have outside : (c.isAlphanum || c == '_') = false := of_toNat_lt below (by decide)
  rw [inWord] at outside
  contradiction

/-! ## Changes of case -/

/-- A number that is no code gives the character of code zero. -/
theorem toNat_ofNat_cases (code : Nat) :
    (Char.ofNat code).toNat = code ∨ (Char.ofNat code).toNat = 0 := by
  by_cases valid : code.isValidChar
  · exact .inl (congrArg Char.toNat (dif_pos valid))
  · exact .inr (congrArg Char.toNat (dif_neg valid))

theorem not_isSign_ofNat {code : Nat} (above : 48 ≤ code) : ¬IsSign (Char.ofNat code) := by
  rintro ⟨positive, below⟩
  rcases toNat_ofNat_cases code with kept | zero
  · omega
  · omega

/-- A table of cases whose images are no signs. -/
theorem eq_of_mem_caseImage {runs : List (Nat × Nat × Nat × Nat)}
    {expansions : List (Nat × List Nat)}
    (runsAbove : ∀ run ∈ runs, 48 ≤ run.2.2.2)
    (expansionsAbove : ∀ expansion ∈ expansions, ∀ code ∈ expansion.2, 48 ≤ code) {c d : Char}
    (member : c ∈ caseImage runs expansions d) (sign : IsSign c) : c = d := by
  unfold caseImage at member
  split at member
  · rename_i codes found
    obtain ⟨earlier, later, split, _⟩ := List.lookup_eq_some_iff.mp found
    obtain ⟨code, among, rfl⟩ := List.mem_map.mp member
    exact absurd sign (not_isSign_ofNat
      (expansionsAbove (d.toNat, codes)
        (split ▸ List.mem_append_right _ List.mem_cons_self) code among))
  · cases image : applyRuns runs d.toNat with
    | none =>
        rw [image] at member
        exact List.mem_singleton.mp member
    | some code =>
        rw [image] at member
        obtain ⟨⟨first, last, step, target⟩, among, applied⟩ :=
          List.exists_of_findSome?_eq_some image
        have above : 48 ≤ code := by
          have targetAbove : 48 ≤ target := runsAbove _ among
          dsimp only at applied
          split at applied
          · cases applied
            omega
          · contradiction
        have same : c = Char.ofNat code := List.mem_singleton.mp member
        exact absurd (same ▸ sign) (not_isSign_ofNat above)

/-- A change of case that keeps the ASCII signs, and whose table has no signs as images. -/
theorem eq_of_mem_case {change : Char → Char} {runs : List (Nat × Nat × Nat × Nat)}
    {expansions : List (Nat × List Nat)}
    (ascii : ∀ code < 128, IsSign (change (Char.ofNat code)) →
      change (Char.ofNat code) = Char.ofNat code)
    (runsAbove : ∀ run ∈ runs, 48 ≤ run.2.2.2)
    (expansionsAbove : ∀ expansion ∈ expansions, ∀ code ∈ expansion.2, 48 ≤ code) {c d : Char}
    (member : c ∈ if d.toNat < 128 then [change d] else caseImage runs expansions d)
    (sign : IsSign c) : c = d := by
  split at member
  · rename_i below
    have same : IsSign (change d) → change d = d := of_toNat_lt below ascii
    rw [List.mem_singleton.mp member] at sign ⊢
    exact same sign
  · exact eq_of_mem_caseImage runsAbove expansionsAbove member sign

/-- The upper case of a character holds no sign but the character itself. -/
theorem eq_of_mem_upperChar {c d : Char} (member : c ∈ upperChar d) (sign : IsSign c) : c = d := by
  unfold upperChar at member
  exact eq_of_mem_case (by decide +kernel) (by decide +kernel) (by decide +kernel) member sign

/-- The lower case of a character holds no sign but the character itself. -/
theorem eq_of_mem_lowerChar {c d : Char} (member : c ∈ lowerChar d) (sign : IsSign c) : c = d := by
  unfold lowerChar at member
  exact eq_of_mem_case (by decide +kernel) (by decide +kernel) (by decide +kernel) member sign

theorem mem_of_mem_lowerAfter {reversed text : List Char} {c : Char}
    (member : c ∈ lowerAfter reversed text) (sign : IsSign c) : c ∈ text := by
  induction text generalizing reversed with
  | nil => exact absurd member List.not_mem_nil
  | cons d text ih =>
      unfold lowerAfter at member
      dsimp only at member
      rcases List.mem_append.mp member with inImage | later
      · have same : c = d := by
          split at inImage
          · split at inImage
            · cases List.mem_singleton.mp inImage
              exact absurd sign (by decide)
            · cases List.mem_singleton.mp inImage
              exact absurd sign (by decide)
          · exact eq_of_mem_lowerChar inImage sign
        exact same ▸ List.mem_cons_self
      · exact List.mem_cons_of_mem d (ih later)

/-- The lower case of a text holds no sign that the text does not hold. -/
theorem mem_of_mem_lower {text : List Char} {c : Char} (member : c ∈ lower text) (sign : IsSign c) :
    c ∈ text :=
  mem_of_mem_lowerAfter member sign

end Text

/-! ## Parameter structures -/

namespace Dialect

theorem mem_of_mem_capitalize {name : List Char} {c : Char} (member : c ∈ capitalize name)
    (sign : Text.IsSign c) : c ∈ name := by
  cases name with
  | nil => exact absurd member List.not_mem_nil
  | cons d name =>
      rcases List.mem_append.mp member with first | later
      · exact Text.eq_of_mem_upperChar first sign ▸ List.mem_cons_self
      · exact List.mem_cons_of_mem d later

-- A text is decided by its own characters, not by those of the whole alphabet.
attribute [local instance (high)] List.decidableBAll

/-- The spellings of a dialect hold no signs. -/
structure SignFree (dialect : Dialect) : Prop where
  folded : ∀ acronym ∈ dialect.acronyms, ∀ c ∈ acronym.folded.toList, ¬Text.IsSign c
  ending : ∀ c ∈ dialect.parameterStructEnd.toList, ¬Text.IsSign c

theorem signFree_default : SignFree {} where
  folded := by decide
  ending := by decide

theorem mem_of_mem_fold {acronyms : List Acronym}
    (free : ∀ acronym ∈ acronyms, ∀ c ∈ acronym.folded.toList, ¬Text.IsSign c) {name : List Char}
    {c : Char} (member : c ∈ acronyms.foldl (fun name acronym =>
      Text.replaceEvery acronym.written.toList acronym.folded.toList name) name)
    (sign : Text.IsSign c) : c ∈ name := by
  induction acronyms generalizing name with
  | nil => exact member
  | cons acronym acronyms ih =>
      obtain ⟨headFree, restFree⟩ := List.forall_mem_cons.mp free
      rcases Text.mem_of_mem_replaceEvery (ih restFree member) with written | kept
      · exact absurd sign (headFree c written)
      · exact kept

/-- The parameter structure of a function holds no sign that the function's name does not hold. -/
theorem mem_of_mem_parameterStruct {dialect : Dialect} (free : dialect.SignFree) {function : String}
    {c : Char} (member : c ∈ (dialect.parameterStruct function).toList) (sign : Text.IsSign c) :
    c ∈ function.toList := by
  unfold parameterStruct at member
  dsimp only at member
  rw [String.toList_append, String.toList_ofList] at member
  rcases List.mem_append.mp member with inWords | inEnd
  · obtain ⟨word, among, inWord⟩ := List.mem_flatMap.mp inWords
    rcases List.mem_append.mp inWord with inLower | underscore
    · have inFolded := List.mem_flatten_of_mem among (Text.mem_of_mem_lower inLower sign)
      rw [splitWords, List.flatten_splitBy] at inFolded
      exact mem_of_mem_capitalize (mem_of_mem_fold free.folded inFolded sign) sign
    · cases List.mem_singleton.mp underscore
      exact absurd sign (by decide)
  · exact absurd sign (free.ending c inEnd)

end Dialect

end ApiTrace
