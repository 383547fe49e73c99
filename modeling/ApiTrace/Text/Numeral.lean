/-!
# Numerals

Decimal and hexadecimal numerals over ASCII digits: writing a natural number, and reading natural
numbers and signed integers. Bounds of machine words are checks of the readers, so numbers
themselves are unbounded.
-/

namespace ApiTrace.Text

/-- The largest unsigned 32-bit number. -/
def maxWord : Nat := 4294967295

/-- The largest signed 64-bit number. -/
def maxLong : Int := 9223372036854775807

/-- The smallest signed 64-bit number. -/
def minLong : Int := -9223372036854775808

/-- The character of a decimal digit. -/
def digit (value : Nat) : Char :=
  Char.ofNat (48 + value)

/-- The decimal numeral of a natural number, without leading zeros. -/
def decimal (number : Nat) : List Char :=
  if number < 10 then [digit number] else decimal (number / 10) ++ [digit (number % 10)]

/-- A hexadecimal digit in lower case. -/
def hexDigit (value : Nat) : Char :=
  if value < 10 then digit value else Char.ofNat (87 + value)

/-- The two hexadecimal digits of a number below 256. -/
def hexByte (number : Nat) : List Char :=
  [hexDigit (number / 16), hexDigit (number % 16)]

/-- The value of an ASCII digit in base sixteen; it is below ten exactly on the decimal digits. -/
def digitValue? (c : Char) : Option Nat :=
  if '0' ≤ c ∧ c ≤ '9' then some (c.toNat - 48)
  else if 'a' ≤ c ∧ c ≤ 'f' then some (c.toNat - 87)
  else if 'A' ≤ c ∧ c ≤ 'F' then some (c.toNat - 55)
  else none

/-- Append digits to a number already read. Fails on a character that is no digit of `base`. -/
def readDigits? (base : Nat) (value : Nat) : List Char → Option Nat
  | [] => some value
  | c :: text =>
    match digitValue? c with
    | some next => if next < base then readDigits? base (value * base + next) text else none
    | none => none

/-- The value of a nonempty numeral in `base`. -/
def readNatural? (base : Nat) (text : List Char) : Option Nat :=
  if text.isEmpty then none else readDigits? base 0 text

/-- An integer with an optional sign, within the signed 64-bit range. -/
def readLong? (base : Nat) (text : List Char) : Option Int :=
  let value? : Option Int :=
    match text with
    | '-' :: magnitude => (readNatural? base magnitude).map fun value => -(value : Int)
    | '+' :: magnitude => (readNatural? base magnitude).map fun value => (value : Int)
    | magnitude => (readNatural? base magnitude).map fun value => (value : Int)
  value?.filter fun value => minLong ≤ value ∧ value ≤ maxLong

/-- A decimal numeral of an unsigned 32-bit number, with an optional plus sign. -/
def readWord? (text : List Char) : Option Nat :=
  let value? := match text with
    | '+' :: magnitude => readNatural? 10 magnitude
    | magnitude => readNatural? 10 magnitude
  value?.filter fun value => value ≤ maxWord

/-- The decimal text of an integer. -/
def decimalInt (number : Int) : List Char :=
  if number < 0 then '-' :: decimal number.natAbs else decimal number.natAbs

/-- The decimal text of a natural number as a string. -/
def showNat (number : Nat) : String :=
  String.ofList (decimal number)

theorem digitValue?_digit : ∀ value < 10, digitValue? (digit value) = some value := by decide

theorem readDigits?_append (base value : Nat) (first second : List Char) :
    readDigits? base value (first ++ second) =
      (readDigits? base value first).bind fun read => readDigits? base read second := by
  induction first generalizing value with
  | nil => rfl
  | cons c first ih =>
    simp only [List.cons_append, readDigits?]
    cases digitValue? c with
    | none => rfl
    | some next =>
      by_cases small : next < base
      · simp only [small, if_true, ih]
      · simp only [small, if_false, Option.bind_none]

theorem readDigits?_decimal (number : Nat) :
    readDigits? 10 0 (decimal number) = some number := by
  fun_induction decimal number with
  | case1 number small =>
    simp [readDigits?, digitValue?_digit number small, small]
  | case2 number large ih =>
    have last : number % 10 < 10 := Nat.mod_lt _ (by decide)
    rw [readDigits?_append, ih]
    simp only [Option.bind_some, readDigits?, digitValue?_digit _ last, last, if_true]
    congr 1
    omega

theorem decimal_ne_nil (number : Nat) : decimal number ≠ [] := by
  rw [decimal]
  split <;> simp

/-- A decimal numeral reads back as the number it was written for. -/
theorem readNatural?_decimal (number : Nat) :
    readNatural? 10 (decimal number) = some number := by
  rw [readNatural?, if_neg (by simp [decimal_ne_nil]), readDigits?_decimal]

theorem exists_digit_of_mem_decimal {number : Nat} {c : Char} (member : c ∈ decimal number) :
    ∃ value < 10, c = digit value := by
  fun_induction decimal number with
  | case1 number small => exact ⟨number, small, List.mem_singleton.mp member⟩
  | case2 number large ih =>
    rcases List.mem_append.mp member with member | member
    · exact ih member
    · exact ⟨number % 10, Nat.mod_lt _ (by decide), List.mem_singleton.mp member⟩

theorem underscore_not_mem_of_readDigits? {base value number : Nat} {text : List Char}
    (read : readDigits? base value text = some number) : '_' ∉ text := by
  induction text generalizing value with
  | nil => exact List.not_mem_nil
  | cons c text ih =>
    rw [readDigits?] at read
    split at read
    · split at read
      · have different : '_' ≠ c := by
          rintro rfl
          contradiction
        exact List.not_mem_cons_of_ne_of_not_mem different (ih read)
      · contradiction
    · contradiction

theorem underscore_not_mem_of_readNatural? {base number : Nat} {text : List Char}
    (read : readNatural? base text = some number) : '_' ∉ text := by
  unfold readNatural? at read
  split at read
  · contradiction
  · exact underscore_not_mem_of_readDigits? read

theorem underscore_not_mem_decimal (number : Nat) : '_' ∉ decimal number :=
  underscore_not_mem_of_readNatural? (readNatural?_decimal number)

theorem digit_ne_plus : ∀ value < 10, digit value ≠ '+' := by decide

/-- A decimal numeral of a 32-bit number reads back as that number. -/
theorem readWord?_decimal {number : Nat} (within : number ≤ maxWord) :
    readWord? (decimal number) = some number := by
  have unsigned : ∀ magnitude, decimal number ≠ '+' :: magnitude := by
    intro magnitude same
    obtain ⟨value, small, plus⟩ :=
      exists_digit_of_mem_decimal (same ▸ List.mem_cons_self : '+' ∈ decimal number)
    exact digit_ne_plus value small plus.symm
  rw [readWord?, readNatural?_decimal, Option.filter_some, if_pos (by simpa using within)]
  exact unsigned

end ApiTrace.Text
