import ApiTrace.Text.CaseTable
import ApiTrace.Text.WordClass

/-!
# Upper and lower case

Full case mapping: one character may become several. A capital sigma becomes the final form of its
small letter where it ends a word, which depends on the nearest characters that are not skipped as
case-ignorable.
-/

namespace ApiTrace.Text

/-- The image of `code` under the first run that holds it. -/
def applyRuns (runs : List (Nat × Nat × Nat × Nat)) (code : Nat) : Option Nat :=
  runs.findSome? fun (first, last, step, target) =>
    if first ≤ code ∧ code ≤ last ∧ (code - first) % step = 0 then some (target + (code - first))
    else none

/-- The case image of a character beyond ASCII under a table of runs and expansions. -/
def caseImage (runs : List (Nat × Nat × Nat × Nat)) (expansions : List (Nat × List Nat))
    (c : Char) : List Char :=
  match expansions.lookup c.toNat with
  | some codes => codes.map Char.ofNat
  | none => [((applyRuns runs c.toNat).map Char.ofNat).getD c]

/-- The upper case of one character. -/
def upperChar (c : Char) : List Char :=
  if c.toNat < 128 then [c.toUpper] else caseImage CaseTable.upperRuns CaseTable.upperExpansions c

/-- The lower case of one character where it does not stand at the end of a word. -/
def lowerChar (c : Char) : List Char :=
  if c.toNat < 128 then [c.toLower] else caseImage CaseTable.lowerRuns CaseTable.lowerExpansions c

/-- Whether the first character that is not case-ignorable has a case. -/
def meetsCased (text : List Char) : Bool :=
  match text.dropWhile fun c => inRanges CaseTable.ignorable c.toNat with
  | [] => false
  | c :: _ => inRanges CaseTable.cased c.toNat

/-- Upper case of a text. -/
def upper (text : List Char) : List Char :=
  text.flatMap upperChar

/-- Lower case of a text whose characters before it are `reversed` backwards. -/
def lowerAfter (reversed : List Char) : List Char → List Char
  | [] => []
  | c :: text =>
    let image :=
      if c = 'Σ' then
        if meetsCased reversed && !meetsCased text then ['ς'] else ['σ']
      else lowerChar c
    image ++ lowerAfter (c :: reversed) text

/-- Lower case of a text. -/
def lower (text : List Char) : List Char :=
  lowerAfter [] text

end ApiTrace.Text
