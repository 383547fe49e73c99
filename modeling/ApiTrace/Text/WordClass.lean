import ApiTrace.Text.WordRange

/-!
# Word characters

The characters that names in headers and hook sources are made of, and identifiers: words that start
with an ASCII letter or an underscore.
-/

namespace ApiTrace.Text

/-- Whether `code` lies in one of the ranges, ends included. -/
def inRanges (ranges : List (Nat × Nat)) (code : Nat) : Bool :=
  ranges.any fun range => range.1 ≤ code && code ≤ range.2

/-- Letters, marks, decimal digits, connector punctuation and join controls. -/
def isWordChar (c : Char) : Bool :=
  if c.toNat < 128 then c.isAlphanum || c == '_' else inRanges WordRange.all c.toNat

/-- Whether `text` is a word that starts with an ASCII letter or an underscore. -/
def isIdentifier : List Char → Bool
  | [] => false
  | c :: text => (c.isAlpha || c == '_') && text.all isWordChar

theorem isWordChar_of_isAlpha {c : Char} (letter : c.isAlpha = true) : isWordChar c = true := by
  have ascii : c.toNat < 128 := by
    delta Char.isAlpha Char.isUpper Char.isLower at letter
    simp only [Bool.or_eq_true, Bool.and_eq_true, decide_eq_true_eq, ge_iff_le,
      UInt32.le_iff_toNat_le] at letter
    have bounds : 'Z'.val.toNat < 128 ∧ 'z'.val.toNat < 128 := by decide
    have code : c.toNat = c.val.toNat := rfl
    omega
  rw [isWordChar, if_pos ascii, Char.isAlphanum, letter]
  rfl

/-- An identifier is a word. -/
theorem forall_isWordChar_of_isIdentifier {text : List Char}
    (identifier : isIdentifier text = true) :
    ∀ c ∈ text, isWordChar c = true := by
  cases text with
  | nil => contradiction
  | cons c rest =>
    rw [isIdentifier, Bool.and_eq_true, Bool.or_eq_true, List.all_eq_true] at identifier
    refine List.forall_mem_cons.2 ⟨?_, identifier.2⟩
    rcases identifier.1 with letter | underscore
    · exact isWordChar_of_isAlpha letter
    · rw [eq_of_beq underscore]
      rfl

end ApiTrace.Text
