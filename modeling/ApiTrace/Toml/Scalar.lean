import ApiTrace.Text.Numeral
import ApiTrace.Toml.Value

/-!
# TOML scalars

Numbers, dates, times and the words for truth values, each read from its complete spelling.
-/

namespace ApiTrace.Toml

/-- Whether `c` may occur in the spelling of a scalar. -/
def isScalarChar (c : Char) : Bool :=
  c.isAlphanum || c == '+' || c == '-' || c == '_' || c == '.' || c == ':'

/-- Digits that underscores may separate, one between two digits. -/
def dropUnderscores? (isDigit : Char → Bool) : List Char → Option (List Char)
  | [] => none
  | [c] => if isDigit c then some [c] else none
  | c :: '_' :: digits =>
    if isDigit c then (dropUnderscores? isDigit digits).map fun rest => c :: rest else none
  | c :: digits =>
    if isDigit c then (dropUnderscores? isDigit digits).map fun rest => c :: rest else none

/-- The decimal digits of a text without its underscores. -/
def decimalDigits? (text : List Char) : Option (List Char) :=
  dropUnderscores? Char.isDigit text

/-- Decimal digits without a leading zero, unless zero is all there is. -/
def wholeDigits? (text : List Char) : Option (List Char) := do
  match ← decimalDigits? text with
  | '0' :: _ :: _ => none
  | digits => some digits

/-- Take the sign off a number; the flag says whether it is negative. -/
def dropSign : List Char → Bool × List Char
  | '-' :: text => (true, text)
  | '+' :: text => (false, text)
  | text => (false, text)

/-- An integer within the signed 64-bit range. -/
def boundedInteger? (value : Int) : Option Value :=
  if Text.minLong ≤ value ∧ value ≤ Text.maxLong then some (.integer value) else none

/-- Digits of a base other than ten, after its mark. -/
def basedInteger? (base : Nat) (text : List Char) : Option Value := do
  let isDigit (c : Char) : Bool :=
    ((Text.digitValue? c).map fun value => decide (value < base)).getD false
  let digits ← dropUnderscores? isDigit text
  let value ← Text.readNatural? base digits
  boundedInteger? value

/-- An integer. -/
def integer? : List Char → Option Value
  | '0' :: 'x' :: digits => basedInteger? 16 digits
  | '0' :: 'o' :: digits => basedInteger? 8 digits
  | '0' :: 'b' :: digits => basedInteger? 2 digits
  | text => do
    let (negative, magnitude) := dropSign text
    let value ← Text.readNatural? 10 (← wholeDigits? magnitude)
    boundedInteger? (if negative then -(value : Int) else value)

/-- Whether the decimal number `digits * 10 ^ exponent` is too large for a double. -/
def overflowsDouble (digits : Nat) (exponent : Int) : Bool :=
  let limit : Nat := Nat.pow 2 1024 - Nat.pow 2 970
  if digits = 0 then false
  else if exponent > 400 then true
  else if exponent ≥ 0 then digits * Nat.pow 10 exponent.toNat ≥ limit
  else if exponent.natAbs > (Text.decimal digits).length then false
  else digits ≥ limit * Nat.pow 10 exponent.natAbs

/-- The exponent of a float: a sign and digits, which may start with zeros. -/
def exponent? (text : List Char) : Option Int := do
  let (negative, magnitude) := dropSign text
  let value ← Text.readNatural? 10 (← decimalDigits? magnitude)
  some (if negative then -(value : Int) else value)

/-- A float: whole digits with a fraction, an exponent, or both; or one of the special words. A
float that is not negative must be finite as a double; a negative one may be beyond all finite
doubles. -/
def float? (text : List Char) : Option Value := do
  let (negative, magnitude) := dropSign text
  if magnitude = "inf".toList ∨ magnitude = "nan".toList then
    return .float (String.ofList text)
  let isMark (c : Char) : Bool := c == 'e' || c == 'E'
  let mantissa := magnitude.takeWhile fun c => !isMark c
  let whole := mantissa.takeWhile (· != '.')
  let fraction := mantissa.dropWhile (· != '.')
  let power := magnitude.dropWhile fun c => !isMark c
  let wholeDigits ← wholeDigits? whole
  let fractionDigits ← match fraction with
    | [] => some []
    | _ :: digits => decimalDigits? digits
  let exponent ← match power with
    | [] => some 0
    | _ :: digits => exponent? digits
  let digits ← Text.readNatural? 10 (wholeDigits ++ fractionDigits)
  if fraction.isEmpty && power.isEmpty then none
  else if !negative && overflowsDouble digits (exponent - fractionDigits.length) then none
  else some (.float (String.ofList text))

/-- A number of exactly `count` digits at the start of a text. -/
def fixedDigits? (count : Nat) (text : List Char) : Option (Nat × List Char) := do
  let digits := text.take count
  if digits.length = count ∧ digits.all Char.isDigit then
    some (← Text.readNatural? 10 digits, text.drop count)
  else none

/-- One given character at the start of a text. -/
def mark? (c : Char) (text : List Char) : Option (List Char) :=
  [c].isPrefixOf? text

/-- The number of days of a month. -/
def daysOfMonth (year month : Nat) : Nat :=
  if month = 2 then
    if (year % 4 = 0 ∧ year % 100 ≠ 0) ∨ year % 400 = 0 then 29 else 28
  else if month = 4 ∨ month = 6 ∨ month = 9 ∨ month = 11 then 30
  else 31

/-- A calendar date at the start of a text. -/
def date? (text : List Char) : Option (List Char) := do
  let (year, text) ← fixedDigits? 4 text
  let text ← mark? '-' text
  let (month, text) ← fixedDigits? 2 text
  let text ← mark? '-' text
  let (day, text) ← fixedDigits? 2 text
  if 1 ≤ month ∧ month ≤ 12 ∧ 1 ≤ day ∧ day ≤ daysOfMonth year month then some text else none

/-- The fraction of a second at the start of a text, if there is one. -/
def fraction? : List Char → Option (List Char)
  | '.' :: c :: text => if c.isDigit then some (text.dropWhile Char.isDigit) else none
  | '.' :: [] => none
  | text => some text

/-- A time of day at the start of a text. -/
def time? (text : List Char) : Option (List Char) := do
  let (hour, text) ← fixedDigits? 2 text
  let text ← mark? ':' text
  let (minute, text) ← fixedDigits? 2 text
  let text ← mark? ':' text
  let (second, text) ← fixedDigits? 2 text
  if hour ≤ 23 ∧ minute ≤ 59 ∧ second ≤ 60 then fraction? text else none

/-- The distance to universal time at the end of a text, if there is one. -/
def isOffset (text : List Char) : Bool :=
  match text with
  | [] => true
  | ['Z'] => true
  | ['z'] => true
  | c :: rest =>
    (c == '+' || c == '-') &&
      ((do
        let (hour, rest) ← fixedDigits? 2 rest
        let rest ← mark? ':' rest
        let (minute, rest) ← fixedDigits? 2 rest
        return rest.isEmpty && hour ≤ 23 && minute ≤ 59) : Option Bool).getD false

/-- A date, a time, or a date and a time that a letter or a blank separates. -/
def moment? (text : List Char) : Option Value :=
  let spelled : Value := .moment (String.ofList text)
  match date? text with
  | some [] => some spelled
  | some (c :: rest) =>
    if c = 'T' ∨ c = 't' ∨ c = ' ' then
      match time? rest with
      | some offset => if isOffset offset then some spelled else none
      | none => none
    else none
  | none =>
    match time? text with
    | some [] => some spelled
    | _ => none

/-- The value of the complete spelling of a scalar. -/
def scalar? (text : List Char) : Option Value :=
  if text = "true".toList then some (.boolean true)
  else if text = "false".toList then some (.boolean false)
  else ((moment? text).or (float? text)).or (integer? text)

end ApiTrace.Toml
