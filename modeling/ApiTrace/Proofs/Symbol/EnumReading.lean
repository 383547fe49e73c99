import ApiTrace.Proofs.Sequence
import ApiTrace.Symbol.EnumReading
import Mathlib.Data.List.Nodup

/-!
# The values of an enumeration

The reader looks at the member before to number a member without a value. Here every value is said
in terms of the written members alone: the last of them with a value, up to the member itself,
decides. The law is carried from one member to the next, and from there to the whole enumeration.
-/

namespace ApiTrace

open Declaration (MemberLine)

/-! ## The law of the values -/

/-- The value that is written for the member at an index. -/
def writtenAt (written : List MemberLine) (index : Nat) : Option String :=
  written[index]?.bind MemberLine.value

/-- The member at `last` is the last one before `index` that is written with a value. -/
structure LastWritten (values : Nat → Option String) (index last : Nat) (expression : String) :
    Prop where
  before : last < index
  written : values last = some expression
  implicit : ∀ between, last < between → between < index → values between = none

/-- The value of the member at an index, by what is written for the members up to it. -/
structure Resolves (values : Nat → Option String) (index : Nat) (value : EnumValue) : Prop where
  /-- A literal is its number, another expression is kept. -/
  explicit : ∀ expression, values index = some expression →
    (∀ number, Declaration.literal? expression.toList = some number → value = .resolved number) ∧
      (Declaration.literal? expression.toList = none → value = .unresolved expression)
  /-- Before all written values, members are counted from zero. -/
  leading : (∀ earlier ≤ index, values earlier = none) →
    ∀ number, value = .resolved number ↔ number = index ∧ number ≤ Text.maxLong
  /-- Behind a written value, members are counted from it if it is a literal. -/
  following : values index = none → ∀ last expression, LastWritten values index last expression →
    ∀ number, value = .resolved number ↔
      ∃ start, Declaration.literal? expression.toList = some start ∧
        number = start + ((index : Int) - last) ∧ number ≤ Text.maxLong

section Values

variable {values others : Nat → Option String} {index : Nat} {value : EnumValue}

theorem LastWritten.congr {last : Nat} {expression : String}
    (same : ∀ place ≤ index, others place = values place)
    (written : LastWritten values index last expression) :
    LastWritten others index last expression where
  before := written.before
  written := (same last (Nat.le_of_lt written.before)).trans written.written
  implicit between after before :=
    (same between (Nat.le_of_lt before)).trans (written.implicit between after before)

/-- What is written later does not matter. -/
theorem Resolves.congr (resolves : Resolves values index value)
    (same : ∀ place ≤ index, others place = values place) : Resolves others index value where
  explicit expression written :=
    resolves.explicit expression ((same index (Nat.le_refl index)).symm.trans written)
  leading implicit := resolves.leading fun earlier upTo =>
    (same earlier upTo).symm.trans (implicit earlier upTo)
  following implicit last expression written :=
    resolves.following ((same index (Nat.le_refl index)).symm.trans implicit) last expression
      (written.congr fun place upTo => (same place upTo).symm)

theorem resolves_explicitValue {expression : String} (written : values index = some expression) :
    Resolves values index (explicitValue expression) where
  explicit other otherWritten := by
    obtain rfl := Option.some.inj (otherWritten.symm.trans written)
    unfold explicitValue
    constructor
    · intro number literal
      rw [literal]
    · intro literal
      rw [literal]
  leading implicit := absurd (written.symm.trans (implicit index (Nat.le_refl index))) nofun
  following implicit := absurd (written.symm.trans implicit) nofun

theorem resolves_zero (implicit : values 0 = none) : Resolves values 0 (.resolved 0) where
  explicit expression written := absurd (implicit.symm.trans written) nofun
  leading _ number := by
    have small : (0 : Int) ≤ Text.maxLong := by decide
    rw [EnumValue.resolved.injEq]
    omega
  following _ last expression written := absurd written.before (Nat.not_lt_zero last)

/-- A member without a value has the number after the one before it, if there is one. -/
theorem implicitValue_eq_resolved_iff {members : List EnumMember} {last : EnumMember}
    (ends : members.getLast? = some last) (number : Int) :
    implicitValue members = .resolved number ↔
      ∃ before, last.value = .resolved before ∧ number = before + 1 ∧ number ≤ Text.maxLong := by
  rw [implicitValue, ends]
  dsimp only
  cases last.value with
  | unresolved expression => simp
  | resolved before =>
      simp only [EnumValue.resolved.injEq, exists_eq_left']
      split
      · rw [EnumValue.resolved.injEq]
        omega
      · simp only [reduceCtorEq, false_iff]
        omega

theorem Resolves.next {next : EnumValue} (resolves : Resolves values index value)
    (implicit : values (index + 1) = none)
    (counted : ∀ number, next = .resolved number ↔
      ∃ before, value = .resolved before ∧ number = before + 1 ∧ number ≤ Text.maxLong) :
    Resolves values (index + 1) next where
  explicit expression written := absurd (implicit.symm.trans written) nofun
  leading none number := by
    have before := resolves.leading fun earlier upTo => none earlier (by omega)
    rw [counted]
    simp only [before]
    constructor
    · rintro ⟨_, ⟨rfl, _⟩, rfl, bounded⟩
      exact ⟨by omega, bounded⟩
    · rintro ⟨rfl, bounded⟩
      exact ⟨index, ⟨rfl, by omega⟩, by omega, bounded⟩
  following _ last expression written number := by
    rw [counted]
    rcases Nat.lt_succ_iff_lt_or_eq.mp written.before with earlier | rfl
    · have restImplicit : values index = none :=
        written.implicit index earlier (Nat.lt_succ_self index)
      have before := resolves.following restImplicit last expression
        ⟨earlier, written.written,
          fun between after upTo => written.implicit between after (by omega)⟩
      simp only [before]
      constructor
      · rintro ⟨_, ⟨start, literal, rfl, _⟩, rfl, bounded⟩
        exact ⟨start, literal, by omega, bounded⟩
      · rintro ⟨start, literal, rfl, bounded⟩
        exact ⟨start + ((index : Int) - last), ⟨start, literal, rfl, by omega⟩, by omega, bounded⟩
    · obtain ⟨resolved, unresolved⟩ := resolves.explicit expression written.written
      constructor
      · rintro ⟨before, isBefore, rfl, bounded⟩
        cases literal : Declaration.literal? expression.toList with
        | none => exact absurd ((unresolved literal).symm.trans isBefore) nofun
        | some start =>
            have same := (resolved start literal).symm.trans isBefore
            cases same
            exact ⟨before, rfl, by omega, bounded⟩
      · rintro ⟨start, literal, rfl, bounded⟩
        exact ⟨start, resolved start literal, by omega, bounded⟩

end Values

/-! ## From one member to the next -/

/-- The value of a written member behind others. -/
def valueBehind (members : List EnumMember) (line : MemberLine) : EnumValue :=
  match line.value with
  | some expression => explicitValue expression
  | none => implicitValue members

/-- What a line does if it is accepted. -/
theorem addMember_eq_ok {file name : String} {members after : List EnumMember} {line : GuardedLine}
    (added : addMember file name members line = .ok after) :
    ∃ written : MemberLine, Declaration.enumMember line.text = .ok written ∧
      written.name ∉ members.map EnumMember.name ∧
        after = members ++ [⟨written.name, valueBehind members written⟩] := by
  unfold addMember at added
  split at added
  · contradiction
  · rename_i written read
    split at added
    · contradiction
    · rename_i fresh
      refine ⟨written, read, ?_, (Except.ok.inj added).symm⟩
      intro taken
      obtain ⟨member, among, same⟩ := List.mem_map.mp taken
      exact fresh (List.any_eq_true.mpr ⟨member, among, decide_eq_true same⟩)

theorem writtenAt_append {written : List MemberLine} {index : Nat} (within : index < written.length)
    (more : List MemberLine) : writtenAt (written ++ more) index = writtenAt written index := by
  rw [writtenAt, List.getElem?_append_left within, writtenAt]

theorem writtenAt_length (written : List MemberLine) (line : MemberLine) :
    writtenAt (written ++ [line]) written.length = line.value := by
  rw [writtenAt, List.getElem?_concat_length, Option.bind_some]

/-- Members as they are written, in order, with distinct names and with the values of the law. -/
structure MembersOf (written : List MemberLine) (members : List EnumMember) : Prop where
  names : members.map EnumMember.name = written.map MemberLine.name
  distinct : (members.map EnumMember.name).Nodup
  values : ∀ index member, members[index]? = some member →
    Resolves (writtenAt written) index member.value

namespace MembersOf

variable {written : List MemberLine} {members : List EnumMember} {line : MemberLine}

theorem length_eq (built : MembersOf written members) : members.length = written.length := by
  simpa using congrArg List.length built.names

/-- The value of one more member obeys the law. -/
theorem resolves_valueBehind (built : MembersOf written members) (line : MemberLine) :
    Resolves (writtenAt (written ++ [line])) members.length (valueBehind members line) := by
  have last := writtenAt_length written line
  rw [← built.length_eq] at last
  unfold valueBehind
  split
  · rename_i expression explicit
    exact resolves_explicitValue (last.trans explicit)
  · rename_i implicit
    rcases members.eq_nil_or_concat with rfl | ⟨before, member, rfl⟩
    · exact resolves_zero (last.trans implicit)
    · have length : before.length < written.length := by
        simp [← built.length_eq]
      have resolves := built.values before.length member (by simp)
      rw [List.length_concat] at last ⊢
      exact (resolves.congr fun place upTo => writtenAt_append (by omega) _).next
        (last.trans implicit) (implicitValue_eq_resolved_iff (by simp))

/-- One more member keeps the law. -/
theorem concat (built : MembersOf written members)
    (fresh : line.name ∉ members.map EnumMember.name) :
    MembersOf (written ++ [line]) (members ++ [⟨line.name, valueBehind members line⟩]) where
  names := by
    rw [List.map_append, List.map_append, built.names]
    rfl
  distinct := by
    rw [List.map_append, List.map_singleton, ← List.concat_eq_append]
    exact built.distinct.concat fresh
  values index member found := by
    rcases Nat.lt_trichotomy index members.length with earlier | rfl | beyond
    · rw [List.getElem?_append_left earlier] at found
      refine (built.values index member found).congr fun place upTo => writtenAt_append ?_ _
      rw [← built.length_eq]
      omega
    · rw [List.getElem?_concat_length] at found
      cases found
      exact built.resolves_valueBehind line
    · have length := (List.getElem?_eq_some_iff.mp found).1
      rw [List.length_append, List.length_singleton] at length
      omega

/-- Lines that are accepted one after the other keep the law. -/
theorem of_foldlM {file name : String} {kept : List GuardedLine} {after : List EnumMember}
    (built : MembersOf written members)
    (ended : kept.foldlM (addMember file name) members = .ok after) :
    ∃ more, List.Forall₂ (fun line read => Declaration.enumMember line.text = .ok read) kept more ∧
      MembersOf (written ++ more) after := by
  induction kept generalizing written members with
  | nil =>
      cases ended
      exact ⟨[], .nil, by rwa [List.append_nil]⟩
  | cons line kept ih =>
      rw [List.foldlM_cons] at ended
      obtain ⟨next, added, ended⟩ := bind_eq_ok ended
      obtain ⟨read, isRead, fresh, rfl⟩ := addMember_eq_ok added
      obtain ⟨more, areRead, builtAll⟩ := ih (built.concat fresh) ended
      rw [List.append_assoc, List.singleton_append] at builtAll
      exact ⟨read :: more, .cons isRead areRead, builtAll⟩

end MembersOf

/-! ## The enumeration -/

/-- An enumeration that is read has the members that its kept lines declare, one for each line and
at least one, with distinct names. The value of each follows from what is written for the members up
to it. Behind the largest 64-bit number no member has a number; counted from zero, no header gets
there. -/
theorem readEnumeration_resolves {header : Header} {line : Nat} {name : String}
    {enumeration : Enumeration} (ended : readEnumeration header line name = .ok enumeration) :
    ∃ span kept written, header.bodyFrom line name = .ok span ∧
      header.guardedLines span = .ok kept ∧
      List.Forall₂ (fun line read => Declaration.enumMember line.text = .ok read) kept written ∧
        enumeration.name = name ∧ written ≠ [] ∧ MembersOf written enumeration.members := by
  obtain ⟨span, found, ended⟩ := bind_eq_ok ended
  obtain ⟨kept, guarded, ended⟩ := bind_eq_ok ended
  obtain ⟨members, folded, ended⟩ := bind_eq_ok ended
  have start : MembersOf [] [] := ⟨rfl, List.nodup_nil, nofun⟩
  obtain ⟨written, read, built⟩ := start.of_foldlM folded
  rw [List.nil_append] at built
  split at ended
  · contradiction
  · rename_i nonempty
    cases ended
    refine ⟨span, kept, written, found, guarded, read, rfl, ?_, built⟩
    rintro rfl
    exact nonempty (List.isEmpty_iff.mpr (List.length_eq_zero_iff.mp built.length_eq))

namespace Counted

/-- Members before and behind a literal, behind an expression and at the end of the range. -/
def header : Header where
  name := "ze_api.h"
  lines := ["typedef enum _ze_count_t \x7b", " ZE_A,", " ZE_B,", " ZE_C = 0x10,", " ZE_D,",
    " ZE_E = ZE_BIT(3),", " ZE_F,", " ZE_G = 9223372036854775807,", " ZE_H,", " ZE_I",
    "\x7d ze_count_t;"].map String.toList

def enumeration : Enumeration where
  name := "ze_count_t"
  members := [⟨"ZE_A", .resolved 0⟩, ⟨"ZE_B", .resolved 1⟩, ⟨"ZE_C", .resolved 16⟩,
    ⟨"ZE_D", .resolved 17⟩, ⟨"ZE_E", .unresolved "ZE_BIT(3)"⟩, ⟨"ZE_F", .unresolved "ZE_E + 1"⟩,
    ⟨"ZE_G", .resolved 9223372036854775807⟩, ⟨"ZE_H", .unresolved "ZE_G + 1"⟩,
    ⟨"ZE_I", .unresolved "ZE_H + 1"⟩]

theorem ended : readEnumeration header 0 "ze_count_t" = .ok enumeration :=
  toOption_eq_some_iff.mp (by decide +kernel)

end Counted

theorem readEnumeration_resolves_counted :
    readEnumeration Counted.header 0 "ze_count_t" = .ok Counted.enumeration ∧
      ∃ span kept written, Counted.header.bodyFrom 0 "ze_count_t" = .ok span ∧
        Counted.header.guardedLines span = .ok kept ∧
        List.Forall₂ (fun line read => Declaration.enumMember line.text = .ok read) kept written ∧
          Counted.enumeration.name = "ze_count_t" ∧ written ≠ [] ∧
            MembersOf written Counted.enumeration.members :=
  ⟨Counted.ended, readEnumeration_resolves Counted.ended⟩

end ApiTrace
