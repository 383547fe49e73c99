import ApiTrace.Text.Numeral
import ApiTrace.Text.Search

/-!
# TOML strings

The four kinds of quoted text. Each reader starts after the opening quotes and yields the text with
what follows the closing quotes.
-/

namespace ApiTrace.Toml

/-- Whether `c` may stand in a comment or, quotes and backslashes apart, in a quoted text. -/
def isPlain (c : Char) : Bool :=
  c == '\t' || (32 ≤ c.toNat && c.toNat != 127)

/-- What follows a line ending at the start of a text. -/
def lineEnding? : List Char → Option (List Char)
  | '\n' :: text => some text
  | '\r' :: '\n' :: text => some text
  | _ => none

/-- The character that `count` hexadecimal digits stand for. -/
def codePoint? (count : Nat) (text : List Char) : Option (Char × List Char) := do
  let digits := text.take count
  if digits.length ≠ count then none
  let code ← Text.readNatural? 16 digits
  if code < 0xD800 ∨ (0xE000 ≤ code ∧ code < 0x110000) then
    some (Char.ofNat code, text.drop count)
  else none

/-- The character of an escape sequence, after its backslash. -/
def escape? : List Char → Option (Char × List Char)
  | 'b' :: text => some ('\x08', text)
  | 't' :: text => some ('\t', text)
  | 'n' :: text => some ('\n', text)
  | 'f' :: text => some ('\x0c', text)
  | 'r' :: text => some ('\r', text)
  | '"' :: text => some ('"', text)
  | '\\' :: text => some ('\\', text)
  | 'u' :: text => codePoint? 4 text
  | 'U' :: text => codePoint? 8 text
  | _ => none

/-- The rest of a text in double quotes on one line. -/
def basic? (fuel : Nat) (reversed : List Char) (text : List Char) :
    Option (String × List Char) :=
  match fuel, text with
  | _, '"' :: rest => some (String.ofList reversed.reverse, rest)
  | fuel + 1, '\\' :: rest => do
    let (c, rest) ← escape? rest
    basic? fuel (c :: reversed) rest
  | fuel + 1, c :: rest => if isPlain c then basic? fuel (c :: reversed) rest else none
  | _, _ => none

/-- The rest of a text in single quotes on one line. -/
def literal? (reversed : List Char) : List Char → Option (String × List Char)
  | [] => none
  | c :: rest =>
    if c = '\x27' then some (String.ofList reversed.reverse, rest)
    else if isPlain c then literal? (c :: reversed) rest
    else none

/-- Three closing quotes at the start of a text, with up to two more that belong to the text before
them: how many those are, and what follows. -/
def closing? (quote : Char) (text : List Char) : Option (Nat × List Char) :=
  let count := (text.takeWhile (· == quote)).length
  if 3 ≤ count then
    let closed := min count 5
    some (closed - 3, text.drop closed)
  else none

/-- What follows a backslash at the end of a line: the next character that is neither a blank nor a
line ending. -/
def afterContinuation? (text : List Char) : Option (List Char) := do
  let rest ← lineEnding? (text.dropWhile fun c => c == ' ' || c == '\t')
  let isSkipped (c : Char) : Bool := c == ' ' || c == '\t' || c == '\n' || c == '\r'
  let skipped := rest.takeWhile isSkipped
  if Text.contains ['\r'] skipped && !(Text.pieces ['\r', '\n'] skipped).all fun piece =>
      !piece.contains '\r' then none
  else some (rest.dropWhile isSkipped)

/-- The rest of a text in three double quotes. -/
def basicLines? (fuel : Nat) (reversed : List Char) (text : List Char) :
    Option (String × List Char) :=
  match fuel with
  | 0 => none
  | fuel + 1 =>
    match closing? '"' text with
    | some (quotes, rest) =>
      some (String.ofList (reversed.reverse ++ List.replicate quotes '"'), rest)
    | none =>
      match lineEnding? text with
      | some rest => basicLines? fuel ('\n' :: reversed) rest
      | none =>
        match text with
        | [] => none
        | '\\' :: rest =>
          match afterContinuation? rest with
          | some rest => basicLines? fuel reversed rest
          | none =>
            match escape? rest with
            | some (c, rest) => basicLines? fuel (c :: reversed) rest
            | none => none
        | c :: rest => if isPlain c then basicLines? fuel (c :: reversed) rest else none

/-- The rest of a text in three single quotes. -/
def literalLines? (fuel : Nat) (reversed : List Char) (text : List Char) :
    Option (String × List Char) :=
  match fuel with
  | 0 => none
  | fuel + 1 =>
    match closing? '\x27' text with
    | some (quotes, rest) =>
      some (String.ofList (reversed.reverse ++ List.replicate quotes '\x27'), rest)
    | none =>
      match lineEnding? text with
      | some rest => literalLines? fuel ('\n' :: reversed) rest
      | none =>
        match text with
        | [] => none
        | c :: rest => if isPlain c then literalLines? fuel (c :: reversed) rest else none

/-- A text without a line ending at its start. -/
def dropLineEnding (text : List Char) : List Char :=
  (lineEnding? text).getD text

/-- A quoted text on one line. -/
def quotedLine? : List Char → Option (String × List Char)
  | '"' :: text => basic? text.length [] text
  | '\x27' :: text => literal? [] text
  | _ => none

/-- A quoted text, on one line or on several. -/
def quoted? (text : List Char) : Option (String × List Char) :=
  match text with
  | '"' :: '"' :: '"' :: text => basicLines? (text.length + 1) [] (dropLineEnding text)
  | '\x27' :: '\x27' :: '\x27' :: text => literalLines? (text.length + 1) [] (dropLineEnding text)
  | text => quotedLine? text

end ApiTrace.Toml
