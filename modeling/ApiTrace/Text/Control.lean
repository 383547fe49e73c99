import ApiTrace.Text.Numeral

/-!
# Terminal controls

Some characters can steer the terminal that shows a text. Written by their codes they cannot; all
other characters, the tab and the ends of lines among them, stay as they are.
-/

namespace ApiTrace.Text

/-- The bell, the backspace, the form feed, the escape and the delete character. -/
def isTerminalControl (c : Char) : Bool :=
  c == '\x07' || c == '\x08' || c == '\x0c' || c == '\x1b' || c == '\x7f'

/-- The controls that follow the ASCII characters. -/
def isHighControl (c : Char) : Bool :=
  0x80 ≤ c.toNat && c.toNat ≤ 0x9f

/-- The harmless spelling of a character; the code of a control has two hexadecimal digits. -/
def disarm (c : Char) : List Char :=
  if isTerminalControl c then '\\' :: 'x' :: hexByte c.toNat
  else if isHighControl c then '\\' :: 'u' :: '\x7b' :: hexByte c.toNat ++ ['\x7d']
  else [c]

/-- A text that leaves the terminal alone. -/
def disarmed (text : String) : String :=
  String.ofList (text.toList.flatMap disarm)

end ApiTrace.Text
