import ApiTrace.Proofs.Header.Grammar
import ApiTrace.Proofs.Header.Literal
import ApiTrace.Proofs.Symbol.EnumReading

/-!
# Enumerations with conditional members

A member under a condition stands in the program only if the condition holds, and C counts the
members that stand there. The reader counts the kept lines once for all, and these are the lines
that stand if every condition holds. Under other conditions a member keeps its number only as far as
the pieces of the body before it count alike, or a value is written behind them.
-/

namespace ApiTrace

open Declaration (MemberLine)

/-! ## The lines that stand -/

namespace Header

/-- The texts of lines that are neither blank nor directives. -/
def codeOf (lines : List NumberedLine) : List (List Char) :=
  (lines.filterMap (keptUnder none)).map GuardedLine.text

/-- The condition of a block. -/
def ConditionalBlock.guard (block : ConditionalBlock) : Guard :=
  ⟨block.condition.spell block.expression⟩

/-- The lines of a piece that stand in the program, where `holds` says which conditions hold. -/
def Piece.standing (holds : Guard → Bool) : Piece → List (List Char)
  | .single line _ => codeOf [line]
  | .conditional block =>
    if holds block.guard then codeOf block.body
    else codeOf (block.otherwise.elim [] ElseBranch.body)

/-- The kept lines of a piece stand in the program. -/
def Piece.Stands (holds : Guard → Bool) : Piece → Prop
  | .single _ _ => True
  | .conditional block => holds block.guard = true

/-- A body that falls into pieces. -/
def BodyOf (header : Header) (line : Nat) (name : String) (pieces : List Piece) : Prop :=
  ∃ span, header.bodyFrom line name = .ok span ∧
    plainLines .code (header.slice span) = pieces.flatMap Piece.lines

theorem map_text_filterMap (guard : Option Guard) (lines : List NumberedLine) :
    (lines.filterMap (keptUnder guard)).map GuardedLine.text = codeOf lines := by
  have same (line : NumberedLine) :
      (keptUnder guard line).map GuardedLine.text = (keptUnder none line).map GuardedLine.text := by
    unfold keptUnder
    split <;> rfl
  rw [codeOf, List.map_filterMap, List.map_filterMap]
  exact List.filterMap_congr fun line _ => same line

theorem Piece.standing_of_stands {holds : Guard → Bool} {piece : Piece}
    (stands : piece.Stands holds) :
    piece.standing holds = piece.kept.map GuardedLine.text := by
  cases piece with
  | single line plain =>
      rw [standing, kept, codeOf, List.filterMap_cons, List.filterMap_nil]
      cases keptUnder none line <;> rfl
  | conditional block =>
      have holding : holds block.guard = true := stands
      rw [standing, if_pos holding, kept, map_text_filterMap]

/-- The kept lines are those that stand if all conditions hold. -/
theorem Piece.standing_true (piece : Piece) :
    piece.standing (fun _ => true) = piece.kept.map GuardedLine.text := by
  apply standing_of_stands
  cases piece with
  | single line plain => trivial
  | conditional block => rfl

theorem flatMap_standing_true (pieces : List Piece) :
    pieces.flatMap (Piece.standing fun _ => true) =
      (pieces.flatMap Piece.kept).map GuardedLine.text := by
  rw [List.map_flatMap]
  exact congrArg pieces.flatMap (funext Piece.standing_true)

end Header

open Header (Piece)

/-! ## Counting as C does -/

/-- The number of the member on a line, where `next` is the number behind the members before it. It
is not known for an expression that is no constant, and for a line that does not declare one member.
-/
def memberNumber (next : Option Int) (line : List Char) : Option Int :=
  match Declaration.enumMember line with
  | .ok ⟨_, none⟩ => next
  | .ok ⟨_, some expression⟩ => Declaration.constant? expression.toList
  | .error _ => none

/-- The number behind the members on lines, where `next` is the number behind the members before
them. -/
def countOn (next : Option Int) (lines : List (List Char)) : Option Int :=
  lines.foldl (fun next line => (memberNumber next line).map (· + 1)) next

/-- A value is written on the line. -/
def WritesValue (line : List Char) : Prop :=
  ∃ name expression, Declaration.enumMember line = .ok ⟨name, some expression⟩

/-- A value on the line is a decimal number without leading zeros, or no literal. -/
def PlainlyValued (line : List Char) : Prop :=
  ∀ name expression, Declaration.enumMember line = .ok ⟨name, some expression⟩ →
    (∃ number, expression.toList = Text.decimalInt number) ∨
      Declaration.literal? expression.toList = none

theorem PlainlyValued.of_implicit {line : List Char} (name : String)
    (read : Declaration.enumMember line = .ok ⟨name, none⟩) : PlainlyValued line := by
  intro other expression written
  have same := Except.ok.inj (read.symm.trans written)
  exact nomatch congrArg MemberLine.value same

theorem PlainlyValued.of_decimal {line : List Char} (name expression : String) (number : Int)
    (read : Declaration.enumMember line = .ok ⟨name, some expression⟩)
    (spelled : expression.toList = Text.decimalInt number) : PlainlyValued line := by
  intro other value written
  have same := Except.ok.inj (read.symm.trans written)
  obtain rfl := Option.some.inj (congrArg MemberLine.value same)
  exact .inl ⟨number, spelled⟩

section Counting

variable {next other : Option Int} {line : List Char} {lines : List (List Char)}

theorem countOn_append (next : Option Int) (lines more : List (List Char)) :
    countOn next (lines ++ more) = countOn (countOn next lines) more :=
  List.foldl_append

theorem memberNumber_of_read {written : MemberLine}
    (read : Declaration.enumMember line = .ok written) :
    memberNumber next line =
      match written.value with
      | none => next
      | some expression => Declaration.constant? expression.toList := by
  rw [memberNumber, read]
  obtain ⟨name, value⟩ := written
  cases value <;> rfl

/-- The members before a written value do not matter. -/
theorem memberNumber_of_writesValue (writes : WritesValue line) :
    memberNumber next line = memberNumber other line := by
  obtain ⟨name, expression, read⟩ := writes
  rw [memberNumber_of_read read, memberNumber_of_read read]

theorem countOn_of_writesValue (writes : ∃ line ∈ lines, WritesValue line) :
    countOn next lines = countOn other lines := by
  induction lines generalizing next other with
  | nil =>
      obtain ⟨line, member, _⟩ := writes
      contradiction
  | cons line lines ih =>
      obtain ⟨writer, member, writes⟩ := writes
      rcases List.mem_cons.mp member with rfl | member
      · simp only [countOn, List.foldl_cons]
        rw [memberNumber_of_writesValue writes]
      · exact ih ⟨writer, member, writes⟩

/-- Members without values count one each. -/
theorem countOn_of_implicit
    (implicit : ∀ line ∈ lines, ∃ name, Declaration.enumMember line = .ok ⟨name, none⟩) :
    countOn next lines = next.map (· + (lines.length : Int)) := by
  induction lines generalizing next with
  | nil => cases next <;> simp [countOn]
  | cons line lines ih =>
      obtain ⟨⟨name, read⟩, rest⟩ := List.forall_mem_cons.mp implicit
      have counted : countOn next (line :: lines) = countOn (next.map (· + 1)) lines := by
        simp only [countOn, List.foldl_cons, memberNumber_of_read read]
      rw [counted, ih rest]
      cases next with
      | none => rfl
      | some number =>
          simp only [Option.map_some, List.length_cons]
          congr 1
          push_cast
          ring

end Counting

/-- A piece leaves the same number whether its condition holds or not. -/
def Header.Piece.Balanced (piece : Piece) : Prop :=
  ∀ holds next, countOn next (piece.standing holds) = countOn next (piece.standing fun _ => true)

/-! ## What the reader counts -/

theorem explicitValue_eq_resolved_iff {expression : String} {number : Int} :
    explicitValue expression = .resolved number ↔
      Declaration.literal? expression.toList = some number := by
  unfold explicitValue
  cases Declaration.literal? expression.toList <;> simp

/-- Members that are read from kept lines, each with the number that C counts for it if all kept
lines stand. -/
inductive Tracks : List GuardedLine → List EnumMember → Prop where
  | nil : Tracks [] []
  | concat {kept : List GuardedLine} {members : List EnumMember} {line : GuardedLine}
    {written : MemberLine} {value : EnumValue} (tracks : Tracks kept members)
    (read : Declaration.enumMember line.text = .ok written)
    (counted : ∀ number, value = .resolved number →
      memberNumber (countOn (some 0) (kept.map GuardedLine.text)) line.text = some number) :
    Tracks (kept ++ [line]) (members ++ [⟨written.name, value⟩])

namespace Tracks

variable {kept : List GuardedLine} {members after : List EnumMember} {line : GuardedLine}

/-- A number for the next member without value is the one that C counts. -/
theorem countOn_eq (tracks : Tracks kept members) {number : Int}
    (implicit : implicitValue members = .resolved number) :
    countOn (some 0) (kept.map GuardedLine.text) = some number := by
  cases tracks with
  | nil =>
      cases implicit
      rfl
  | concat tracks read counted =>
      obtain ⟨before, isBefore, rfl, _⟩ :=
        (implicitValue_eq_resolved_iff (List.getLast?_concat ..) number).mp implicit
      rw [List.map_append, countOn_append, List.map_singleton, countOn, List.foldl_cons,
        List.foldl_nil, counted before isBefore, Option.map_some]

/-- A line that is accepted keeps the numbers. -/
theorem of_addMember (tracks : Tracks kept members) {file name : String}
    (plain : PlainlyValued line.text) (added : addMember file name members line = .ok after) :
    Tracks (kept ++ [line]) after := by
  obtain ⟨⟨member, value⟩, read, _, rfl⟩ := addMember_eq_ok added
  refine .concat tracks read fun number resolved => ?_
  rw [memberNumber_of_read read]
  cases value with
  | none => exact tracks.countOn_eq resolved
  | some expression =>
      have literal := explicitValue_eq_resolved_iff.mp resolved
      dsimp only
      rcases plain member expression read with ⟨decimal, spelled⟩ | symbolic
      · rw [spelled] at literal ⊢
        rw [Declaration.eq_of_literal?_decimalInt literal]
        exact Declaration.constant?_decimalInt decimal
      · exact absurd (symbolic.symm.trans literal) nofun

/-- Lines that are accepted one after the other keep the numbers. -/
theorem of_foldlM (tracks : Tracks kept members) {file name : String} {lines : List GuardedLine}
    (plain : ∀ line ∈ lines, PlainlyValued line.text)
    (ended : lines.foldlM (addMember file name) members = .ok after) :
    Tracks (kept ++ lines) after := by
  induction lines generalizing kept members with
  | nil =>
      cases ended
      rwa [List.append_nil]
  | cons line lines ih =>
      obtain ⟨linePlain, restPlain⟩ := List.forall_mem_cons.mp plain
      rw [List.foldlM_cons] at ended
      obtain ⟨next, added, ended⟩ := bind_eq_ok ended
      have tracksAll := ih (tracks.of_addMember linePlain added) restPlain ended
      rwa [List.append_assoc, List.singleton_append] at tracksAll

/-- Every kept line declares a member. -/
theorem accepted (tracks : Tracks kept members) (member : line ∈ kept) :
    ∃ written, Declaration.enumMember line.text = .ok written := by
  induction tracks with
  | nil => contradiction
  | concat tracks read counted ih =>
      rcases List.mem_append.mp member with earlier | last
      · exact ih earlier
      · obtain rfl := List.mem_singleton.mp last
        exact ⟨_, read⟩

/-- Every member is declared on a kept line and has its number from the lines before. -/
theorem exists_line (tracks : Tracks kept members) {member : EnumMember}
    (among : member ∈ members) :
    ∃ before line rest, kept = before ++ line :: rest ∧
      (∃ written, Declaration.enumMember line.text = .ok written ∧ written.name = member.name) ∧
        ∀ number, member.value = .resolved number →
          memberNumber (countOn (some 0) (before.map GuardedLine.text)) line.text =
            some number := by
  induction tracks with
  | nil => contradiction
  | @concat kept members last written value tracks read counted ih =>
      rcases List.mem_append.mp among with earlier | single
      · obtain ⟨before, line, rest, rfl, declares, numbered⟩ := ih earlier
        refine ⟨before, line, rest ++ [last], ?_, declares, numbered⟩
        rw [List.append_assoc, List.cons_append]
      · obtain rfl := List.mem_singleton.mp single
        exact ⟨kept, last, [], rfl, ⟨written, read, rfl⟩, counted⟩

end Tracks

/-! ## Under a setting of the conditions -/

/-- The place of a kept line in the pieces of a body: the pieces before its own and the lines of its
own piece before it. -/
structure MemberPlace (pieces : List Piece) where
  front : List Piece
  piece : Piece
  back : List Piece
  pieces_eq : pieces = front ++ piece :: back
  before : List GuardedLine
  line : GuardedLine
  after : List GuardedLine
  kept_eq : piece.kept = before ++ line :: after

/-- A kept line of pieces has a place in one of them. -/
theorem exists_memberPlace {pieces : List Piece} {before rest : List GuardedLine}
    {line : GuardedLine}
    (split : pieces.flatMap Piece.kept = before ++ line :: rest) :
    ∃ place : MemberPlace pieces,
      place.front.flatMap Piece.kept ++ place.before = before ∧ place.line = line := by
  induction pieces generalizing before with
  | nil => exact absurd split (by simp)
  | cons piece pieces ih =>
      have inRest {skipped : List GuardedLine} (passed : before = piece.kept ++ skipped)
          (restSplit : pieces.flatMap Piece.kept = skipped ++ line :: rest) :
          ∃ place : MemberPlace (piece :: pieces),
            place.front.flatMap Piece.kept ++ place.before = before ∧ place.line = line := by
        obtain ⟨place, beforeEq, lineEq⟩ := ih restSplit
        refine ⟨⟨piece :: place.front, place.piece, place.back, ?_, place.before, place.line,
          place.after, place.kept_eq⟩, ?_, lineEq⟩
        · rw [List.cons_append, ← place.pieces_eq]
        · rw [List.flatMap_cons, List.append_assoc, beforeEq, passed]
      rw [List.flatMap_cons] at split
      rcases List.append_eq_append_iff.mp split with
        ⟨skipped, passed, restSplit⟩ | ⟨here, kept, inPiece⟩
      · exact inRest passed restSplit
      · cases here with
        | nil =>
            rw [List.append_nil] at kept
            exact inRest (by rw [kept, List.append_nil])
              (inPiece.symm.trans (List.nil_append _).symm)
        | cons first here =>
            obtain ⟨rfl, _⟩ := List.cons.inj inPiece
            exact ⟨⟨[], piece, pieces, rfl, before, line, here, kept⟩, rfl, rfl⟩

namespace MemberPlace

variable {pieces : List Piece} (place : MemberPlace pieces)

/-- The lines that stand before the member, where `holds` says which conditions hold. -/
def standingBefore (holds : Guard → Bool) : List (List Char) :=
  place.front.flatMap (Piece.standing holds) ++ place.before.map GuardedLine.text

/-- The number behind the pieces before the member, where `holds` says which conditions hold. -/
def countUnder (holds : Guard → Bool) : Option Int :=
  countOn (some 0) (place.front.flatMap (Piece.standing holds))

/-- The number that C gives to the member, where `holds` says which conditions hold. -/
def numberUnder (holds : Guard → Bool) : Option Int :=
  memberNumber (countOn (some 0) (place.standingBefore holds)) place.line.text

/-- The name of the member. -/
def Declares (name : String) : Prop :=
  ∃ written, Declaration.enumMember place.line.text = .ok written ∧ written.name = name

/-- A value is written for the member or in its own piece before it. -/
def Anchored : Prop :=
  ∃ line ∈ place.before ++ [place.line], WritesValue line.text

/-- The member stands behind the lines that stand before it. -/
theorem exists_standing_eq {holds : Guard → Bool} (stands : place.piece.Stands holds) :
    ∃ rest, pieces.flatMap (Piece.standing holds) =
      place.standingBefore holds ++ place.line.text :: rest := by
  refine ⟨place.after.map GuardedLine.text ++ place.back.flatMap (Piece.standing holds), ?_⟩
  calc
    pieces.flatMap (Piece.standing holds) =
        (place.front ++ place.piece :: place.back).flatMap (Piece.standing holds) :=
      congrArg _ place.pieces_eq
    _ = place.front.flatMap (Piece.standing holds) ++
        ((place.before ++ place.line :: place.after).map GuardedLine.text ++
          place.back.flatMap (Piece.standing holds)) := by
      rw [List.flatMap_append, List.flatMap_cons, Piece.standing_of_stands stands, place.kept_eq]
    _ = _ := by simp [standingBefore]

theorem standingBefore_true :
    place.standingBefore (fun _ => true) =
      (place.front.flatMap Piece.kept ++ place.before).map GuardedLine.text := by
  rw [standingBefore, Header.flatMap_standing_true, ← List.map_append]

theorem numberUnder_eq (holds : Guard → Bool) :
    place.numberUnder holds =
      memberNumber (countOn (place.countUnder holds) (place.before.map GuardedLine.text))
        place.line.text := by
  rw [numberUnder, standingBefore, countOn_append, countUnder]

/-- Behind a written value, no setting changes the number. -/
theorem numberUnder_of_anchored (anchored : place.Anchored) (holds other : Guard → Bool) :
    place.numberUnder holds = place.numberUnder other := by
  obtain ⟨line, member, writes⟩ := anchored
  rcases List.mem_append.mp member with before | last
  · rw [numberUnder_eq, numberUnder_eq,
      countOn_of_writesValue ⟨line.text, List.mem_map_of_mem before, writes⟩]
  · obtain rfl := List.mem_singleton.mp last
    exact memberNumber_of_writesValue writes

/-- Without a written value, the number is counted from the pieces before. -/
theorem numberUnder_of_not_anchored (free : ¬place.Anchored)
    (accepted : ∀ line ∈ place.before ++ [place.line],
      ∃ written, Declaration.enumMember line.text = .ok written) (holds : Guard → Bool) :
    place.numberUnder holds = (place.countUnder holds).map (· + (place.before.length : Int)) := by
  have implicit : ∀ line ∈ place.before ++ [place.line],
      ∃ name, Declaration.enumMember line.text = .ok ⟨name, none⟩ := by
    intro line member
    obtain ⟨⟨name, value⟩, read⟩ := accepted line member
    cases value with
    | none => exact ⟨name, read⟩
    | some expression => exact absurd ⟨line, member, name, expression, read⟩ free
  rw [List.forall_mem_append, List.forall_mem_singleton] at implicit
  obtain ⟨before, name, read⟩ := implicit
  rw [numberUnder_eq, memberNumber_of_read read,
    countOn_of_implicit (List.forall_mem_map.mpr before), List.length_map]

/-- A number is kept behind a written value. Otherwise it moves with the number behind the pieces
before. -/
theorem numberUnder_eq_iff (holds : Guard → Bool) {number : Int}
    (accepted : ∀ line ∈ place.before ++ [place.line],
      ∃ written, Declaration.enumMember line.text = .ok written)
    (numbered : place.numberUnder (fun _ => true) = some number) :
    place.numberUnder holds = some number ↔
      place.Anchored ∨ place.countUnder holds = place.countUnder fun _ => true := by
  by_cases anchored : place.Anchored
  · rw [place.numberUnder_of_anchored anchored holds fun _ => true]
    exact iff_of_true numbered (.inl anchored)
  · have injective := Option.map_injective (add_left_injective (place.before.length : Int))
    rw [or_iff_right anchored, ← numbered, place.numberUnder_of_not_anchored anchored accepted,
      place.numberUnder_of_not_anchored anchored accepted]
    exact injective.eq_iff

end MemberPlace

/-- Balanced pieces leave the same number under every setting. -/
theorem countOn_of_balanced {pieces : List Piece} (balanced : ∀ piece ∈ pieces, piece.Balanced)
    (holds : Guard → Bool) (next : Option Int) :
    countOn next (pieces.flatMap (Piece.standing holds)) =
      countOn next (pieces.flatMap (Piece.standing fun _ => true)) := by
  induction pieces generalizing next with
  | nil => rfl
  | cons piece pieces ih =>
      obtain ⟨pieceBalanced, restBalanced⟩ := List.forall_mem_cons.mp balanced
      rw [List.flatMap_cons, List.flatMap_cons, countOn_append, countOn_append,
        pieceBalanced holds next, ih restBalanced]

/-! ## The enumeration -/

/-- The body of an enumeration that is read falls into pieces, and every member that it has stands
on a line of one of them. A number that the reader gives to a member is the one that C counts under
a setting of the conditions under which the member stands, exactly if a value is written for the
member or before it in its own piece, or the pieces before leave the same number as if all
conditions held. Where all pieces before are balanced, the setting does not matter. -/
theorem readEnumeration_counts {header : Header} {line : Nat} {name : String}
    {enumeration : Enumeration} (ended : readEnumeration header line name = .ok enumeration) :
    (∃ pieces, header.BodyOf line name pieces) ∧ ∀ pieces, header.BodyOf line name pieces →
      (∀ kept ∈ pieces.flatMap Piece.kept, PlainlyValued kept.text) →
        ∀ member ∈ enumeration.members, ∃ place : MemberPlace pieces, place.Declares member.name ∧
          ∀ number, member.value = .resolved number → ∀ holds, place.piece.Stands holds →
            (∃ rest, pieces.flatMap (Piece.standing holds) =
              place.standingBefore holds ++ place.line.text :: rest) ∧
            (place.numberUnder holds = some number ↔
              place.Anchored ∨ place.countUnder holds = place.countUnder fun _ => true) ∧
            ((∀ piece ∈ place.front, piece.Balanced) → place.numberUnder holds = some number) := by
  obtain ⟨span, found, reading⟩ := bind_eq_ok ended
  obtain ⟨kept, guarded, folding⟩ := bind_eq_ok reading
  obtain ⟨members, folded, closing⟩ := bind_eq_ok folding
  rw [Header.guardedLines_eq_ok_iff] at guarded
  constructor
  · obtain ⟨pieces, split⟩ := (Header.flatConditionals_of_keepPlain guarded).exists_pieces
    exact ⟨pieces, span, found, split⟩
  rintro pieces ⟨other, otherFound, split⟩ plain member among
  obtain rfl := Except.ok.inj (found.symm.trans otherFound)
  rw [split, Header.keepPlain_pieces] at guarded
  obtain rfl := Option.some.inj guarded
  have tracks := Tracks.nil.of_foldlM plain folded
  rw [List.nil_append] at tracks
  split at closing
  · contradiction
  cases closing
  obtain ⟨before, line, rest, keptEq, declares, numbered⟩ := tracks.exists_line among
  obtain ⟨place, rfl, rfl⟩ := exists_memberPlace keptEq
  refine ⟨place, declares, fun number resolved holds stands => ?_⟩
  have atAll : place.numberUnder (fun _ => true) = some number := by
    rw [MemberPlace.numberUnder, place.standingBefore_true]
    exact numbered number resolved
  have accepted : ∀ line ∈ place.before ++ [place.line],
      ∃ written, Declaration.enumMember line.text = .ok written := by
    intro line member
    rw [keptEq, List.append_assoc] at tracks
    apply tracks.accepted
    rcases List.mem_append.mp member with earlier | last
    · exact List.mem_append_right _ (List.mem_append_left _ earlier)
    · obtain rfl := List.mem_singleton.mp last
      exact List.mem_append_right _ (List.mem_append_right _ List.mem_cons_self)
  have counts := place.numberUnder_eq_iff holds accepted atAll
  exact ⟨place.exists_standing_eq stands, counts,
    fun balanced => counts.mpr (.inr (countOn_of_balanced balanced holds _))⟩

/-! ## A block that moves the numbers behind it, and one that does not -/

namespace Modes

def header : Header where
  name := "ze_api.h"
  lines := ["typedef enum _ze_mode_t \x7b", " ZE_A,", "#ifdef ZE_EXTRA", " ZE_B,", "#endif",
    " ZE_C,", "#if ZE_DEEP", " ZE_D = 8,", "#else", " ZE_E = 8,", "#endif", " ZE_F",
    "\x7d ze_mode_t;"].map String.toList

def enumeration : Enumeration where
  name := "ze_mode_t"
  members := [⟨"ZE_A", .resolved 0⟩, ⟨"ZE_B", .resolved 1⟩, ⟨"ZE_C", .resolved 2⟩,
    ⟨"ZE_D", .resolved 8⟩, ⟨"ZE_F", .resolved 9⟩]

def extra : Header.ConditionalBlock where
  opener := ⟨3, "#ifdef ZE_EXTRA".toList⟩
  condition := .isDefined
  expression := "ZE_EXTRA".toList
  opens := by decide +kernel
  nonempty := by decide
  body := [⟨4, "ZE_B,".toList⟩]
  plain := by decide +kernel
  otherwise := none
  closer := ⟨5, "#endif".toList⟩
  closes := by decide +kernel

def deep : Header.ConditionalBlock where
  opener := ⟨7, "#if ZE_DEEP".toList⟩
  condition := .holds
  expression := "ZE_DEEP".toList
  opens := by decide +kernel
  nonempty := by decide
  body := [⟨8, "ZE_D = 8,".toList⟩]
  plain := by decide +kernel
  otherwise := some
    { separator := ⟨9, "#else".toList⟩
      separates := by decide +kernel
      body := [⟨10, "ZE_E = 8,".toList⟩]
      plain := by decide +kernel }
  closer := ⟨11, "#endif".toList⟩
  closes := by decide +kernel

def pieces : List Piece :=
  [.single ⟨2, "ZE_A,".toList⟩ (by decide +kernel), .conditional extra,
    .single ⟨6, "ZE_C,".toList⟩ (by decide +kernel), .conditional deep,
    .single ⟨12, "ZE_F".toList⟩ (by decide +kernel)]

theorem ended : readEnumeration header 0 "ze_mode_t" = .ok enumeration :=
  toOption_eq_some_iff.mp (by decide +kernel)

theorem bodyOf : header.BodyOf 0 "ze_mode_t" pieces :=
  ⟨⟨1, 12⟩, toOption_eq_some_iff.mp (by decide +kernel), by decide +kernel⟩

theorem eight : "8".toList = Text.decimalInt 8 := by
  rw [Text.decimalInt, Text.decimal]
  decide

theorem plain : ∀ kept ∈ pieces.flatMap Piece.kept, PlainlyValued kept.text := by
  have kept : (pieces.flatMap Piece.kept).map GuardedLine.text =
      ["ZE_A,", "ZE_B,", "ZE_C,", "ZE_D = 8,", "ZE_F"].map String.toList := by decide +kernel
  have plainly : ∀ text ∈ ["ZE_A,", "ZE_B,", "ZE_C,", "ZE_D = 8,", "ZE_F"].map String.toList,
      PlainlyValued text := by
    simp only [List.map_cons, List.map_nil, List.forall_mem_cons]
    exact ⟨.of_implicit "ZE_A" (toOption_eq_some_iff.mp (by decide +kernel)),
      .of_implicit "ZE_B" (toOption_eq_some_iff.mp (by decide +kernel)),
      .of_implicit "ZE_C" (toOption_eq_some_iff.mp (by decide +kernel)),
      .of_decimal "ZE_D" "8" 8 (toOption_eq_some_iff.mp (by decide +kernel)) eight,
      .of_implicit "ZE_F" (toOption_eq_some_iff.mp (by decide +kernel)), nofun⟩
  rw [← kept] at plainly
  exact fun line member => plainly _ (List.mem_map_of_mem member)

/-- The third piece declares the member behind the block that may be left out. -/
def behind : MemberPlace pieces where
  front := pieces.take 2
  piece := .single ⟨6, "ZE_C,".toList⟩ (by decide +kernel)
  back := pieces.drop 3
  pieces_eq := rfl
  before := []
  line := ⟨6, "ZE_C,".toList, none⟩
  after := []
  kept_eq := by decide +kernel

end Modes

theorem readEnumeration_counts_modes :
    readEnumeration Modes.header 0 "ze_mode_t" = .ok Modes.enumeration ∧
      ∀ member ∈ Modes.enumeration.members, ∃ place : MemberPlace Modes.pieces,
        place.Declares member.name ∧
          ∀ number, member.value = .resolved number → ∀ holds, place.piece.Stands holds →
            (place.numberUnder holds = some number ↔
              place.Anchored ∨ place.countUnder holds = place.countUnder fun _ => true) := by
  refine ⟨Modes.ended, fun member among => ?_⟩
  obtain ⟨place, declares, numbered⟩ :=
    (readEnumeration_counts Modes.ended).2 Modes.pieces Modes.bodyOf Modes.plain member among
  exact ⟨place, declares,
    fun number resolved holds stands => (numbered number resolved holds stands).2.1⟩

/-- Where the block before it is left out, a member is counted lower than the reader says. -/
theorem readEnumeration_counts_skipped :
    readEnumeration Modes.header 0 "ze_mode_t" = .ok Modes.enumeration ∧
      ⟨"ZE_C", .resolved 2⟩ ∈ Modes.enumeration.members ∧
        Modes.header.BodyOf 0 "ze_mode_t" Modes.pieces ∧ Modes.behind.Declares "ZE_C" ∧
          Modes.behind.piece.Stands (fun _ => false) ∧
            Modes.behind.numberUnder (fun _ => false) = some 1 := by
  refine ⟨Modes.ended, by decide, Modes.bodyOf, ⟨⟨"ZE_C", none⟩, ?_, rfl⟩, trivial,
    by decide +kernel⟩
  exact toOption_eq_some_iff.mp (by decide +kernel)

end ApiTrace
