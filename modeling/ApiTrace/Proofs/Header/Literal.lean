import ApiTrace.Header.Declaration
import Mathlib.Algebra.Order.BigOperators.Group.List
import Mathlib.Data.Nat.Digits.Defs

/-!
# Integer literals

Which texts are read as numbers, next to the integer constants of C. A constant of C that starts
with a zero is octal, and no sign stands behind `0x`. A literal is read as C reads it unless it is
of one of two kinds: digits behind a leading zero are read as decimal ones, and a sign behind `0x`
is accepted.
-/

namespace ApiTrace

/-! ## Numerals -/

namespace Text

/-- The values of digits, beginning with the last digit. -/
def digitValues (digits : List Char) : List Nat :=
  digits.reverse.map fun c => (digitValue? c).getD 0

/-- A text of digits, at least one, with the number that it has in a base. -/
structure Numeral (base : Nat) (digits : List Char) (value : Nat) : Prop where
  nonempty : digits ≠ []
  proper : ∀ c ∈ digits, ∃ digit < base, digitValue? c = some digit
  denotes : value = Nat.ofDigits base (digitValues digits)

/-- A text with an optional minus sign in front. -/
inductive Signed (unsigned : List Char → Nat → Prop) : List Char → Int → Prop where
  | plain {text : List Char} {value : Nat} (read : unsigned text value) : Signed unsigned text value
  | negative {text : List Char} {value : Nat} (read : unsigned text value) :
    Signed unsigned ('-' :: text) (-value)

/-- Whether a number is a signed 64-bit one. -/
def IsLong (number : Int) : Prop :=
  minLong ≤ number ∧ number ≤ maxLong

instance (number : Int) : Decidable (IsLong number) :=
  inferInstanceAs (Decidable (_ ∧ _))

theorem ofDigits_digitValues_cons (base : Nat) (c : Char) (digits : List Char) :
    Nat.ofDigits base (digitValues (c :: digits)) =
      Nat.ofDigits base (digitValues digits) + base ^ digits.length * (digitValue? c).getD 0 := by
  rw [digitValues, List.reverse_cons, List.map_append, Nat.ofDigits_append, List.length_map,
    List.length_reverse, List.map_singleton, Nat.ofDigits_singleton, digitValues]

/-- Digits are appended to what is already read. -/
theorem readDigits?_eq_some_iff {base before number : Nat} {digits : List Char} :
    readDigits? base before digits = some number ↔
      (∀ c ∈ digits, ∃ digit < base, digitValue? c = some digit) ∧
        number = before * base ^ digits.length + Nat.ofDigits base (digitValues digits) := by
  induction digits generalizing before with
  | nil => simp [readDigits?, digitValues, eq_comm]
  | cons c digits ih =>
      rw [List.forall_mem_cons, ofDigits_digitValues_cons, readDigits?, List.length_cons]
      cases read : digitValue? c with
      | none => simp
      | some digit =>
          by_cases small : digit < base
          · have shifted : (before * base + digit) * base ^ digits.length +
                  Nat.ofDigits base (digitValues digits) =
                before * base ^ (digits.length + 1) +
                  (Nat.ofDigits base (digitValues digits) + base ^ digits.length * digit) := by
              ring
            simp [small, ih, shifted]
          · simp [small]

/-- A natural number is read exactly from the numerals of its base. -/
theorem readNatural?_eq_some_iff {base value : Nat} {digits : List Char} :
    readNatural? base digits = some value ↔ Numeral base digits value := by
  unfold readNatural?
  split
  · rename_i empty
    constructor
    · exact nofun
    · intro numeral
      exact absurd (List.isEmpty_iff.mp empty) numeral.nonempty
  · rename_i nonempty
    rw [readDigits?_eq_some_iff, Nat.zero_mul, Nat.zero_add]
    constructor
    · rintro ⟨proper, denotes⟩
      exact ⟨fun empty => nonempty (List.isEmpty_iff.mpr empty), proper, denotes⟩
    · intro numeral
      exact ⟨numeral.proper, numeral.denotes⟩

namespace Numeral

variable {base value other : Nat} {c : Char} {digits : List Char}

theorem unique (numeral : Numeral base digits value) (another : Numeral base digits other) :
    value = other :=
  numeral.denotes.trans another.denotes.symm

/-- A character without value in any base stands in no numeral. -/
theorem not_mem (numeral : Numeral base digits value) (foreign : digitValue? c = none) :
    c ∉ digits := by
  intro member
  obtain ⟨digit, _, read⟩ := numeral.proper c member
  rw [foreign] at read
  contradiction

end Numeral

/-- In bases eight and ten, the same digits have the same number exactly if it is a single digit. -/
theorem Numeral.octal_iff {value : Nat} {digits : List Char} (numeral : Numeral 10 digits value) :
    Numeral 8 digits value ↔ value < 8 := by
  have denotes := numeral.denotes
  constructor
  · intro octal
    have agrees := octal.denotes
    cases values : digitValues digits with
    | nil => simp [octal.denotes, values]
    | cons last others =>
        rw [values, Nat.ofDigits_cons] at denotes agrees
        have lastProper : last < 8 := by
          obtain ⟨c, member, rfl⟩ :=
            List.mem_map.mp (values ▸ List.mem_cons_self : last ∈ digitValues digits)
          obtain ⟨digit, small, read⟩ := octal.proper c (List.mem_reverse.mp member)
          rwa [read]
        have smaller := Nat.ofDigits_monotone others (by decide : 8 ≤ 10)
        omega
  · intro small
    refine ⟨numeral.nonempty, fun c member => ?_, ?_⟩
    · obtain ⟨digit, _, read⟩ := numeral.proper c member
      have among : digit ∈ digitValues digits :=
        List.mem_map.mpr ⟨c, List.mem_reverse.mpr member, by rw [read]; rfl⟩
      have bounded : digit ≤ value :=
        calc
          digit ≤ (digitValues digits).sum := List.le_sum_of_mem among
          _ ≤ Nat.ofDigits 10 (digitValues digits) := Nat.sum_le_ofDigits _ (by decide)
          _ = value := denotes.symm
      exact ⟨digit, by omega, read⟩
    · cases values : digitValues digits with
      | nil => rwa [values] at denotes
      | cons last others =>
          rw [values, Nat.ofDigits_cons] at denotes
          have smaller := Nat.ofDigits_monotone others (by decide : 8 ≤ 10)
          rw [Nat.ofDigits_cons]
          omega

section Signed

variable {unsigned : List Char → Nat → Prop} {text : List Char} {number : Int}

theorem signed_minus_iff (foreign : ∀ value, ¬unsigned ('-' :: text) value) :
    Signed unsigned ('-' :: text) number ↔
      ∃ value, unsigned text value ∧ number = -(value : Int) := by
  constructor
  · intro signed
    cases signed with
    | plain read => exact absurd read (foreign _)
    | negative read => exact ⟨_, read, rfl⟩
  · rintro ⟨value, read, rfl⟩
    exact .negative read

theorem signed_iff_of_ne (plain : ∀ rest, text ≠ '-' :: rest) :
    Signed unsigned text number ↔ ∃ value, unsigned text value ∧ number = (value : Int) := by
  constructor
  · intro signed
    cases signed with
    | plain read => exact ⟨_, read, rfl⟩
    | negative read => exact absurd rfl (plain _)
  · rintro ⟨value, read, rfl⟩
    exact .plain read

end Signed

theorem map_readNatural?_eq_some_iff {base : Nat} {digits : List Char} {sign : Int → Int}
    {number : Int} :
    (do let value ← readNatural? base digits; pure (value : Int)).map sign = some number ↔
      ∃ value, Numeral base digits value ∧ number = sign value := by
  cases read : readNatural? base digits with
  | none =>
      constructor
      · exact nofun
      · rintro ⟨value, numeral, _⟩
        exact absurd (read.symm.trans (readNatural?_eq_some_iff.mpr numeral)) nofun
  | some first =>
      have numeral := readNatural?_eq_some_iff.mp read
      constructor
      · intro same
        exact ⟨first, numeral, (Option.some.inj same).symm⟩
      · rintro ⟨value, another, rfl⟩
        rw [numeral.unique another]
        rfl

/-- A numeral with a sign has one number. -/
theorem Signed.unique {base : Nat} {text : List Char} {number other : Int}
    (signed : Signed (Numeral base) text number) (another : Signed (Numeral base) text other) :
    number = other := by
  cases signed with
  | plain numeral =>
      cases another with
      | plain otherNumeral => rw [numeral.unique otherNumeral]
      | negative _ => exact absurd List.mem_cons_self (numeral.not_mem rfl)
  | negative numeral =>
      cases another with
      | plain otherNumeral => exact absurd List.mem_cons_self (otherNumeral.not_mem rfl)
      | negative otherNumeral => rw [numeral.unique otherNumeral]

/-- A signed 64-bit number is read exactly from a numeral with an optional sign. -/
theorem readLong?_eq_some_iff {base : Nat} {text : List Char} {number : Int} :
    readLong? base text = some number ↔
      IsLong number ∧ (Signed (Numeral base) text number ∨
        ∃ digits, text = '+' :: digits ∧
          ∃ value, Numeral base digits value ∧ number = (value : Int)) := by
  have unread (sign : Char) (foreign : digitValue? sign = none) (digits : List Char) (value : Nat) :
      ¬Numeral base (sign :: digits) value :=
    fun numeral => numeral.not_mem foreign List.mem_cons_self
  unfold readLong?
  rw [Option.filter_eq_some_iff, decide_eq_true_iff, and_comm]
  refine and_congr_right fun _ => ?_
  split
  · rename_i digits
    rw [map_readNatural?_eq_some_iff, signed_minus_iff (unread '-' rfl digits)]
    simp
  · rename_i digits
    rw [map_readNatural?_eq_some_iff, signed_iff_of_ne (by simp)]
    simp [unread '+' rfl digits]
  · rename_i unsigned unsignedPlus
    rw [map_readNatural?_eq_some_iff, signed_iff_of_ne unsigned]
    constructor
    · exact .inl
    · rintro (read | ⟨digits, plus, _⟩)
      · exact read
      · exact absurd plus (unsignedPlus digits)

end Text

/-! ## Constants of C -/

namespace Declaration

open Text

/-- An integer constant of C in a base, with its number: the digits of a decimal constant do not
start with a zero, those of an octal constant do, and a hexadecimal constant starts with `0x`. -/
inductive Magnitude : Nat → List Char → Nat → Prop where
  | decimal {digits : List Char} {value : Nat} (first : digits.head? ≠ some '0')
    (numeral : Numeral 10 digits value) : Magnitude 10 digits value
  | octal {digits : List Char} {value : Nat} (first : digits.head? = some '0')
    (numeral : Numeral 8 digits value) : Magnitude 8 digits value
  | hexadecimal {mark : Char} {digits : List Char} {value : Nat} (marked : mark = 'x' ∨ mark = 'X')
    (numeral : Numeral 16 digits value) : Magnitude 16 ('0' :: mark :: digits) value

/-- An integer constant of C with an optional minus sign. -/
def Constant (base : Nat) : List Char → Int → Prop :=
  Signed (Magnitude base)

/-- The number of a constant of C without sign. -/
def magnitude? : List Char → Option Nat
  | '0' :: 'x' :: digits => readNatural? 16 digits
  | '0' :: 'X' :: digits => readNatural? 16 digits
  | '0' :: digits => readNatural? 8 ('0' :: digits)
  | digits => readNatural? 10 digits

/-- The number of a constant of C. -/
def constant? : List Char → Option Int
  | '-' :: text => (magnitude? text).map fun value : Nat => -(value : Int)
  | text => (magnitude? text).map fun value : Nat => (value : Int)

/-- Decimal digits that start with a zero, with an optional minus sign and the number they have in
base ten. -/
def ZeroLed : List Char → Int → Prop :=
  Signed fun digits value => digits.head? = some '0' ∧ Numeral 10 digits value

/-- Hexadecimal digits with a sign between the mark and the digits. -/
inductive InnerSigned : List Char → Int → Prop where
  | plus {mark : Char} {digits : List Char} {value : Nat} (marked : mark = 'x' ∨ mark = 'X')
    (numeral : Numeral 16 digits value) : InnerSigned ('0' :: mark :: '+' :: digits) value
  | minus {mark : Char} {digits : List Char} {value : Nat} (marked : mark = 'x' ∨ mark = 'X')
    (numeral : Numeral 16 digits value) : InnerSigned ('0' :: mark :: '-' :: digits) (-value)

section Reading

variable {text : List Char} {number : Int}

theorem mark_foreign {mark : Char} (marked : mark = 'x' ∨ mark = 'X') :
    digitValue? mark = none := by
  rcases marked with rfl | rfl <;> rfl

/-- A hexadecimal mark stands in no decimal numeral. -/
theorem not_signed_marked {mark : Char} {digits : List Char} (marked : mark = 'x' ∨ mark = 'X') :
    ¬Signed (Numeral 10) ('0' :: mark :: digits) number := by
  intro signed
  cases signed with
  | plain numeral =>
      exact numeral.not_mem (mark_foreign marked) (List.mem_cons_of_mem '0' List.mem_cons_self)

/-- What is read behind the mark: hexadecimal digits, and a sign in front of them. -/
theorem readLong?_marked_iff {mark : Char} {digits : List Char} (marked : mark = 'x' ∨ mark = 'X') :
    readLong? 16 digits = some number ↔ IsLong number ∧
      ((∃ value : Nat, Magnitude 16 ('0' :: mark :: digits) value ∧ number = value) ∨
        InnerSigned ('0' :: mark :: digits) number) := by
  rw [readLong?_eq_some_iff]
  refine and_congr_right fun _ => ?_
  constructor
  · rintro (signed | ⟨digits, rfl, value, numeral, rfl⟩)
    · cases signed with
      | plain numeral => exact .inl ⟨_, .hexadecimal marked numeral, rfl⟩
      | negative numeral => exact .inr (.minus marked numeral)
    · exact .inr (.plus marked numeral)
  · rintro (⟨value, magnitude, rfl⟩ | inner)
    · cases magnitude with
      | hexadecimal _ numeral => exact .inl (.plain numeral)
    · cases inner with
      | plus _ numeral => exact .inr ⟨_, rfl, _, numeral, rfl⟩
      | minus _ numeral => exact .inl (.negative numeral)

/-- The texts that are read as a number: decimal digits with an optional minus sign, hexadecimal
constants, and hexadecimal digits with an inner sign. -/
theorem literal?_eq_some_iff : literal? text = some number ↔ IsLong number ∧
    (Signed (Numeral 10) (trim text) number ∨
      (∃ value : Nat, Magnitude 16 (trim text) value ∧ number = value) ∨
        InnerSigned (trim text) number) := by
  unfold literal?
  generalize trim text = code
  split
  · rw [readLong?_marked_iff (.inl rfl), or_iff_right (not_signed_marked (.inl rfl))]
  · rw [readLong?_marked_iff (.inr rfl), or_iff_right (not_signed_marked (.inr rfl))]
  · constructor
    · exact nofun
    · rintro ⟨_, signed | ⟨_, magnitude, _⟩ | inner⟩
      · cases signed with
        | plain numeral => exact absurd List.mem_cons_self (numeral.not_mem rfl)
      · cases magnitude
      · cases inner
  · rename_i lower upper plus
    rw [readLong?_eq_some_iff]
    refine and_congr_right fun _ => ⟨?_, ?_⟩
    · rintro (signed | ⟨digits, rfl, _⟩)
      · exact .inl signed
      · exact absurd rfl (plus digits)
    · rintro (signed | ⟨_, magnitude, _⟩ | inner)
      · exact .inl signed
      · cases magnitude with
        | hexadecimal marked _ =>
            rcases marked with rfl | rfl
            · exact absurd rfl (lower _)
            · exact absurd rfl (upper _)
      · rcases inner with ⟨rfl | rfl, _⟩ | ⟨rfl | rfl, _⟩
        · exact absurd rfl (lower _)
        · exact absurd rfl (upper _)
        · exact absurd rfl (lower _)
        · exact absurd rfl (upper _)

theorem magnitude_ten_iff {digits : List Char} {value : Nat} :
    Magnitude 10 digits value ↔ digits.head? ≠ some '0' ∧ Numeral 10 digits value := by
  constructor
  · intro magnitude
    cases magnitude with
    | decimal first numeral => exact ⟨first, numeral⟩
  · rintro ⟨first, numeral⟩
    exact .decimal first numeral

/-- Decimal digits are a decimal constant unless a zero leads them. -/
theorem signed_decimal_iff :
    Signed (Numeral 10) text number ↔ Constant 10 text number ∨ ZeroLed text number := by
  constructor
  · rintro (⟨numeral⟩ | ⟨numeral⟩)
    · by_cases first : text.head? = some '0'
      · exact .inr (.plain ⟨first, numeral⟩)
      · exact .inl (.plain (.decimal first numeral))
    · rename_i digits value
      by_cases first : digits.head? = some '0'
      · exact .inr (.negative ⟨first, numeral⟩)
      · exact .inl (.negative (.decimal first numeral))
  · rintro ((magnitude | magnitude) | (read | read))
    · exact .plain (magnitude_ten_iff.mp magnitude).2
    · exact .negative (magnitude_ten_iff.mp magnitude).2
    · exact .plain read.2
    · exact .negative read.2

/-- C reads digits behind a leading zero in base eight. -/
theorem magnitude_iff_of_zero {base value other : Nat} {digits : List Char}
    (first : digits.head? = some '0') (numeral : Numeral 10 digits value) :
    Magnitude base digits other ↔ base = 8 ∧ Numeral 8 digits other := by
  constructor
  · intro magnitude
    cases magnitude with
    | decimal different _ => exact absurd first different
    | octal _ octal => exact ⟨rfl, octal⟩
    | hexadecimal marked _ =>
        exact absurd (List.mem_cons_of_mem '0' List.mem_cons_self)
          (numeral.not_mem (mark_foreign marked))
  · rintro ⟨rfl, octal⟩
    exact .octal first octal

theorem not_magnitude_minus {base value : Nat} {digits : List Char} :
    ¬Magnitude base ('-' :: digits) value := by
  intro magnitude
  cases magnitude with
  | decimal _ numeral => exact numeral.not_mem rfl List.mem_cons_self
  | octal first _ => exact absurd first (by simp)

/-- A number is computed for the constants of C and for no other text. -/
theorem magnitude?_eq_some_iff {value : Nat} :
    magnitude? text = some value ↔ ∃ base, Magnitude base text value := by
  have marked_iff {mark : Char} {digits : List Char} (marked : mark = 'x' ∨ mark = 'X') :
      readNatural? 16 digits = some value ↔
        ∃ base, Magnitude base ('0' :: mark :: digits) value := by
    rw [readNatural?_eq_some_iff]
    constructor
    · intro numeral
      exact ⟨16, .hexadecimal marked numeral⟩
    · rintro ⟨base, magnitude⟩
      cases magnitude with
      | decimal first _ => exact absurd rfl first
      | octal _ numeral =>
          exact absurd (List.mem_cons_of_mem '0' List.mem_cons_self)
            (numeral.not_mem (mark_foreign marked))
      | hexadecimal _ numeral => exact numeral
  unfold magnitude?
  split
  · exact marked_iff (.inl rfl)
  · exact marked_iff (.inr rfl)
  · rename_i digits lower upper
    rw [readNatural?_eq_some_iff]
    constructor
    · intro numeral
      exact ⟨8, .octal rfl numeral⟩
    · rintro ⟨base, magnitude⟩
      cases magnitude with
      | decimal first _ => exact absurd rfl first
      | octal _ numeral => exact numeral
      | hexadecimal marked _ =>
          rcases marked with rfl | rfl
          · exact absurd rfl (lower _)
          · exact absurd rfl (upper _)
  · rename_i unled
    have first : text.head? ≠ some '0' := by
      intro led
      obtain ⟨digits, rfl⟩ := List.head?_eq_some_iff.mp led
      exact unled digits rfl
    rw [readNatural?_eq_some_iff]
    constructor
    · intro numeral
      exact ⟨10, .decimal first numeral⟩
    · rintro ⟨base, magnitude⟩
      cases magnitude with
      | decimal _ numeral => exact numeral
      | octal led _ => exact absurd led first
      | hexadecimal _ _ => exact absurd rfl first

theorem constant?_eq_some_iff :
    constant? text = some number ↔ ∃ base, Constant base text number := by
  unfold constant?
  split
  · simp only [Option.map_eq_some_iff, magnitude?_eq_some_iff, Constant,
      signed_minus_iff fun _ => not_magnitude_minus]
    constructor
    · rintro ⟨value, ⟨base, magnitude⟩, rfl⟩
      exact ⟨base, value, magnitude, rfl⟩
    · rintro ⟨base, value, magnitude, rfl⟩
      exact ⟨value, ⟨base, magnitude⟩, rfl⟩
  · rename_i unsigned
    simp only [Option.map_eq_some_iff, magnitude?_eq_some_iff, Constant, signed_iff_of_ne unsigned]
    constructor
    · rintro ⟨value, ⟨base, magnitude⟩, rfl⟩
      exact ⟨base, value, magnitude, rfl⟩
    · rintro ⟨base, value, magnitude, rfl⟩
      exact ⟨value, ⟨base, magnitude⟩, rfl⟩

/-- Digits behind a leading zero are read as C reads them exactly if their number is a single octal
digit. -/
theorem exists_constant_iff_of_zeroLed (led : ZeroLed text number) :
    (∃ base, Constant base text number) ↔ number.natAbs < 8 := by
  rcases led with ⟨first, numeral⟩ | ⟨first, numeral⟩
  · have unsigned (rest : List Char) : text ≠ '-' :: rest := by
      rintro rfl
      exact absurd first (by simp)
    simp [Constant, signed_iff_of_ne unsigned, magnitude_iff_of_zero first numeral,
      ← numeral.octal_iff]
  · simp [Constant, signed_minus_iff fun _ => not_magnitude_minus,
      magnitude_iff_of_zero first numeral, ← numeral.octal_iff]

/-- C reads no sign between the mark and the digits. -/
theorem not_constant_of_innerSigned (inner : InnerSigned text number) (base : Nat) (other : Int) :
    ¬Constant base text other := by
  have foreign {mark sign : Char} {digits : List Char} (marked : mark = 'x' ∨ mark = 'X')
      (signForeign : digitValue? sign = none) :
      ¬Constant base ('0' :: mark :: sign :: digits) other := by
    intro constant
    cases constant with
    | plain magnitude =>
        cases magnitude with
        | decimal first _ => exact first rfl
        | octal _ numeral =>
            exact numeral.not_mem (mark_foreign marked)
              (List.mem_cons_of_mem '0' List.mem_cons_self)
        | hexadecimal _ numeral => exact numeral.not_mem signForeign List.mem_cons_self
  cases inner with
  | plus marked _ => exact foreign marked rfl
  | minus marked _ => exact foreign marked rfl

end Reading

/-! ## Decimal numbers -/

theorem head?_decimal_ne_zero {number : Nat} (positive : 0 < number) :
    (decimal number).head? ≠ some '0' := by
  have ne_zero : ∀ value < 10, 0 < value → digit value ≠ '0' := by decide
  fun_induction decimal number with
  | case1 number small => simpa using ne_zero number small positive
  | case2 number large ih =>
      rw [List.head?_append_of_ne_nil _ (decimal_ne_nil _)]
      exact ih (by omega)

theorem exists_magnitude_decimal (value : Nat) : ∃ base, Magnitude base (decimal value) value := by
  have numeral := readNatural?_eq_some_iff.mp (readNatural?_decimal value)
  rcases Nat.eq_zero_or_pos value with rfl | positive
  · have first : (decimal 0).head? = some '0' := by rw [decimal]; rfl
    exact ⟨8, .octal first (numeral.octal_iff.mpr (by decide))⟩
  · exact ⟨10, .decimal (head?_decimal_ne_zero positive) numeral⟩

/-- An integer is spelled by the digits of its absolute value. -/
theorem decimalInt_cases (number : Int) :
    ∃ value : Nat, (number = value ∧ decimalInt number = decimal value) ∨
      (number = -(value : Int) ∧ decimalInt number = '-' :: decimal value) := by
  refine ⟨number.natAbs, ?_⟩
  rw [decimalInt]
  split
  · exact .inr ⟨by omega, rfl⟩
  · exact .inl ⟨by omega, rfl⟩

theorem constant?_decimalInt (number : Int) : constant? (decimalInt number) = some number := by
  obtain ⟨value, ⟨rfl, spelled⟩ | ⟨rfl, spelled⟩⟩ := decimalInt_cases number
  all_goals
    obtain ⟨base, magnitude⟩ := exists_magnitude_decimal value
    rw [constant?_eq_some_iff, spelled]
  · exact ⟨base, .plain magnitude⟩
  · exact ⟨base, .negative magnitude⟩

theorem isBlank_of_mem_decimalInt {number : Int} {c : Char} (member : c ∈ decimalInt number) :
    isBlank c = false := by
  have solid : ∀ value < 10, isBlank (digit value) = false := by decide
  have digitSolid {value : Nat} (within : c ∈ decimal value) : isBlank c = false := by
    obtain ⟨last, small, rfl⟩ := exists_digit_of_mem_decimal within
    exact solid last small
  obtain ⟨value, ⟨_, spelled⟩ | ⟨_, spelled⟩⟩ := decimalInt_cases number
  · exact digitSolid (spelled ▸ member)
  · rcases List.mem_cons.mp (spelled ▸ member) with rfl | within
    · rfl
    · exact digitSolid within

/-- A decimal number without leading zeros is read as itself. -/
theorem eq_of_literal?_decimalInt {number other : Int}
    (read : literal? (decimalInt number) = some other) : other = number := by
  have signed : Signed (Numeral 10) (decimalInt number) number := by
    obtain ⟨value, ⟨rfl, spelled⟩ | ⟨rfl, spelled⟩⟩ := decimalInt_cases number
    all_goals
      have numeral := readNatural?_eq_some_iff.mp (readNatural?_decimal value)
      rw [spelled]
    · exact .plain numeral
    · exact .negative numeral
  rw [literal?_eq_some_iff, trim_eq_self fun c => isBlank_of_mem_decimalInt] at read
  generalize decimalInt number = text at signed read
  obtain ⟨_, another | ⟨value, magnitude, _⟩ | inner⟩ := read
  · exact another.unique signed
  · cases magnitude with
    | hexadecimal marked _ => exact absurd signed (not_signed_marked marked)
  · cases inner with
    | plus marked _ => exact absurd signed (not_signed_marked marked)
    | minus marked _ => exact absurd signed (not_signed_marked marked)

/-! ## What is read -/

/-- A text is read as a number exactly if it is a decimal or hexadecimal constant of C with that
number, if it is led by a zero, or if a sign stands behind its mark, and the number is a signed
64-bit one. In the last two cases C reads it differently, unless the number behind the zero is a
single octal digit. -/
theorem literal?_reads_constants (text : List Char) (number : Int) :
    (literal? text = some number ↔ IsLong number ∧
      (Constant 10 (trim text) number ∨
        (∃ value : Nat, Magnitude 16 (trim text) value ∧ number = value) ∨
        ZeroLed (trim text) number ∨ InnerSigned (trim text) number)) ∧
    (literal? text = some number →
      ((∃ base, Constant base (trim text) number) ↔
        ¬InnerSigned (trim text) number ∧ (ZeroLed (trim text) number → number.natAbs < 8))) := by
  rw [literal?_eq_some_iff, signed_decimal_iff]
  generalize trim text = code
  constructor
  · rw [or_assoc, or_left_comm (a := ZeroLed code number)]
  · rintro ⟨_, read⟩
    constructor
    · rintro ⟨base, constant⟩
      exact ⟨fun inner => not_constant_of_innerSigned inner base number constant,
        fun led => (exists_constant_iff_of_zeroLed led).mp ⟨base, constant⟩⟩
    · rintro ⟨notInner, small⟩
      rcases read with (constant | led) | ⟨value, magnitude, rfl⟩ | inner
      · exact ⟨10, constant⟩
      · exact (exists_constant_iff_of_zeroLed led).mpr (small led)
      · exact ⟨16, .plain magnitude⟩
      · exact absurd inner notInner

/-- A sign behind the mark is read although C knows no such constant, and an octal constant is read
with another number. -/
theorem literal?_reads_unlike_constants :
    literal? "0x-5".toList = some (-5) ∧ (∀ base number, ¬Constant base "0x-5".toList number) ∧
      literal? "010".toList = some 10 ∧ Constant 8 "010".toList 8 := by
  refine ⟨by decide, ?_, by decide, ?_⟩
  · have digits : Numeral 16 ['5'] 5 := readNatural?_eq_some_iff.mp (by decide)
    exact not_constant_of_innerSigned (.minus (.inl rfl) digits)
  · have digits : Numeral 8 "010".toList 8 := readNatural?_eq_some_iff.mp (by decide)
    exact .plain (.octal rfl digits)

end Declaration

end ApiTrace
