import ApiTrace.Header.Declaration
import ApiTrace.Proofs.Sequence
import ApiTrace.Proofs.Text.Words

/-!
# Members of enumerations

A line is read as a member if it has at most one comma outside parentheses and is, up to blanks
around it and commas at its end, a name or a name with a value. The value then has a comma outside
parentheses exactly if the comma of the line does not stand at its end: what follows the comma is
taken for a part of the value.
-/

namespace ApiTrace.Declaration

/-! ## Commas outside parentheses -/

/-- The depth of parentheses behind a text, from a depth on. A closing one without an opening one
counts for nothing. -/
def nesting (depth : Nat) : List Char → Nat
  | [] => depth
  | '(' :: text => nesting (depth + 1) text
  | ')' :: text => nesting (depth - 1) text
  | _ :: text => nesting depth text

/-- A text with a comma outside parentheses between two parts. -/
structure TopComma (text before after : List Char) : Prop where
  split : text = before ++ ',' :: after
  outside : nesting 0 before = 0

/-- Two commas outside parentheses are the same one. -/
def SoleTopComma (text : List Char) : Prop :=
  ∀ before after others rest, TopComma text before after →
    TopComma text others rest → others = before

section TopComma

variable {depth : Nat} {text before after : List Char}

theorem nesting_append (depth : Nat) (first second : List Char) :
    nesting depth (first ++ second) = nesting (nesting depth first) second := by
  fun_induction nesting depth first with
  | case1 => rfl
  | case2 depth text ih => exact ih
  | case3 depth text ih => exact ih
  | case4 depth c text opening closing ih =>
    rw [List.cons_append, nesting.eq_4 _ _ _ opening closing, ih]

theorem topLevelCommas_append (depth : Nat) (first second : List Char) :
    topLevelCommas depth (first ++ second) =
      topLevelCommas depth first + topLevelCommas (nesting depth first) second := by
  fun_induction topLevelCommas depth first with
  | case1 => exact (Nat.zero_add _).symm
  | case2 depth text ih => exact ih
  | case3 depth text ih => exact ih
  | case4 depth text ih =>
      rw [List.cons_append, topLevelCommas, ih, Nat.add_assoc]
      rfl
  | case5 depth c text opening closing comma ih =>
      rw [List.cons_append, topLevelCommas.eq_5 _ _ _ opening closing comma, ih,
        nesting.eq_4 _ _ _ opening closing]

/-- The comma counts, between the commas on its two sides. -/
theorem TopComma.topLevelCommas_eq (comma : TopComma text before after) :
    topLevelCommas 0 text = topLevelCommas 0 before + (1 + topLevelCommas 0 after) := by
  rw [comma.split, topLevelCommas_append, comma.outside]
  rfl

/-- Of two commas outside parentheses, the later one counts as well. -/
theorem TopComma.one_lt_topLevelCommas {others rest : List Char}
    (comma : TopComma text before after)
    (earlier : TopComma before others rest) : 1 < topLevelCommas 0 text := by
  have counts := comma.topLevelCommas_eq
  have inBefore := earlier.topLevelCommas_eq
  omega

/-- What is counted is a comma outside parentheses. -/
theorem exists_of_topLevelCommas_ne_zero (counted : topLevelCommas depth text ≠ 0) :
    ∃ before after, text = before ++ ',' :: after ∧ nesting depth before = 0 := by
  fun_induction topLevelCommas depth text with
  | case1 => contradiction
  | case2 depth text ih =>
      obtain ⟨before, after, rfl, outside⟩ := ih counted
      exact ⟨'(' :: before, after, rfl, outside⟩
  | case3 depth text ih =>
      obtain ⟨before, after, rfl, outside⟩ := ih counted
      exact ⟨')' :: before, after, rfl, outside⟩
  | case4 depth text ih =>
      by_cases outer : depth = 0
      · exact ⟨[], text, rfl, outer⟩
      · rw [if_neg outer, Nat.zero_add] at counted
        obtain ⟨before, after, rfl, outside⟩ := ih counted
        exact ⟨',' :: before, after, rfl, outside⟩
  | case5 depth c text opening closing comma ih =>
      obtain ⟨before, after, rfl, outside⟩ := ih counted
      exact ⟨c :: before, after, rfl, (nesting.eq_4 _ _ _ opening closing).trans outside⟩

theorem exists_topComma (counted : topLevelCommas 0 text ≠ 0) :
    ∃ before after, TopComma text before after := by
  obtain ⟨before, after, split, outside⟩ := exists_of_topLevelCommas_ne_zero counted
  exact ⟨before, after, split, outside⟩

theorem topLevelCommas_eq_zero_iff :
    topLevelCommas 0 text = 0 ↔ ∀ before after, ¬TopComma text before after := by
  constructor
  · intro none before after comma
    have counted := comma.topLevelCommas_eq
    omega
  · intro none
    by_contra counted
    obtain ⟨before, after, comma⟩ := exists_topComma counted
    exact none before after comma

theorem topLevelCommas_le_one_iff : topLevelCommas 0 text ≤ 1 ↔ SoleTopComma text := by
  constructor
  · intro few before after others rest comma other
    -- Of two different commas, one stands before the other and is counted there.
    rcases List.append_eq_append_iff.mp (comma.split.symm.trans other.split) with
      ⟨between, longer, same⟩ | ⟨between, longer, same⟩
    · cases between with
      | nil => rw [longer, List.append_nil]
      | cons c between =>
          obtain ⟨rfl, same⟩ := List.cons.inj same
          exact absurd (other.one_lt_topLevelCommas ⟨longer, comma.outside⟩) (Nat.not_lt.mpr few)
    · cases between with
      | nil => rw [longer, List.append_nil]
      | cons c between =>
          obtain ⟨rfl, same⟩ := List.cons.inj same
          exact absurd (comma.one_lt_topLevelCommas ⟨longer, other.outside⟩) (Nat.not_lt.mpr few)
  · intro sole
    by_contra many
    have some : topLevelCommas 0 text ≠ 0 := by omega
    obtain ⟨before, after, comma⟩ := exists_topComma some
    have counts := comma.topLevelCommas_eq
    by_cases early : topLevelCommas 0 before = 0
    · have behind : topLevelCommas 0 after ≠ 0 := by omega
      obtain ⟨others, rest, later⟩ := exists_topComma behind
      have outside : nesting 0 (before ++ ',' :: others) = 0 := by
        rw [nesting_append, comma.outside]
        exact later.outside
      have second : TopComma text (before ++ ',' :: others) rest :=
        ⟨by rw [comma.split, later.split, List.append_assoc, List.cons_append], outside⟩
      have same := congrArg List.length (sole _ _ _ _ comma second)
      rw [List.length_append, List.length_cons] at same
      omega
    · obtain ⟨others, rest, earlier⟩ := exists_topComma early
      have first : TopComma text others (rest ++ ',' :: after) :=
        ⟨by rw [comma.split, earlier.split, List.append_assoc, List.cons_append], earlier.outside⟩
      have same := congrArg List.length (sole _ _ _ _ comma first)
      rw [earlier.split, List.length_append, List.length_cons] at same
      omega

/-- A text without parentheses and commas. -/
def Flat (text : List Char) : Prop :=
  ∀ c ∈ text, c ≠ '(' ∧ c ≠ ')' ∧ c ≠ ','

theorem Flat.nesting_eq (flat : Flat text) (depth : Nat) : nesting depth text = depth := by
  induction text with
  | nil => rfl
  | cons c text ih =>
      obtain ⟨⟨opening, closing, _⟩, rest⟩ := List.forall_mem_cons.mp flat
      rw [nesting.eq_4 _ _ _ (by simpa using opening) (by simpa using closing), ih rest]

theorem Flat.topLevelCommas_eq (flat : Flat text) (depth : Nat) :
    topLevelCommas depth text = 0 := by
  induction text with
  | nil => rfl
  | cons c text ih =>
      obtain ⟨⟨opening, closing, comma⟩, rest⟩ := List.forall_mem_cons.mp flat
      rw [topLevelCommas.eq_5 _ _ _ (by simpa using opening) (by simpa using closing)
        (by simpa using comma), ih rest]

end TopComma

/-! ## Written members -/

/-- A line is a text between blanks, with commas at its very end. -/
structure Wraps (line core left right commas : List Char) : Prop where
  split : line = left ++ (core ++ (right ++ commas))
  leftBlank : ∀ c ∈ left, Text.isBlank c = true
  rightBlank : ∀ c ∈ right, Text.isBlank c = true
  onlyCommas : ∀ c ∈ commas, c = ','
  /-- All commas at the end are meant. -/
  ends : core.getLast? = some ',' → right ≠ []

/-- A name, or a name with a value, as the text of a member. -/
inductive Writes : List Char → MemberLine → Prop where
  | bare {name : List Char} (identifier : Text.isIdentifier name = true) :
      Writes name ⟨String.ofList name, none⟩
  | assigned {name left right value : List Char} (identifier : Text.isIdentifier name = true)
    (leftBlank : ∀ c ∈ left, Text.isBlank c = true)
    (rightBlank : ∀ c ∈ right, Text.isBlank c = true)
    (nonempty : value ≠ []) (trimmed : Text.trim value = value) (single : '=' ∉ value) :
    Writes (name ++ (left ++ '=' :: (right ++ value)))
      ⟨String.ofList name, some (String.ofList value)⟩

section Written

variable {line core left right commas : List Char} {member : MemberLine}

theorem equals_not_mem_identifier {name : List Char} (identifier : Text.isIdentifier name = true) :
    '=' ∉ name :=
  fun member => absurd (Text.forall_isWordChar_of_isIdentifier identifier '=' member) (by decide)

/-- The text of a member has no blanks around it. -/
theorem Writes.trim_eq (writes : Writes core member) : core ≠ [] ∧ Text.trim core = core := by
  cases writes with
  | bare identifier =>
      exact ⟨Text.ne_nil_of_isIdentifier identifier,
        Text.trim_eq_self (Text.isBlank_of_mem_identifier identifier)⟩
  | @assigned name left right value identifier leftBlank rightBlank nonempty trimmed single =>
      have named := Text.ne_nil_of_isIdentifier identifier
      refine ⟨List.append_ne_nil_of_left_ne_nil named _, Text.trim_eq_self_of_ends ?_ ?_⟩
      · intro c first
        rw [List.head?_append_of_ne_nil _ named] at first
        exact Text.isBlank_of_mem_identifier identifier c (List.mem_of_mem_head? first)
      · intro c last
        have ends : (name ++ (left ++ '=' :: (right ++ value))).getLast? = value.getLast? := by
          rw [← List.cons_append, ← List.append_assoc, ← List.append_assoc,
            List.getLast?_append_of_ne_nil _ nonempty]
        rw [ends, ← trimmed] at last
        exact Text.isBlank_getLast?_trim last

/-- The text between the blanks is found. -/
theorem Wraps.trim_eq (wraps : Wraps line core left right commas) (nonempty : core ≠ [])
    (trimmed : Text.trim core = core) : Text.trim (Text.dropEndWhile (· == ',') line) = core := by
  have kept : ∀ c ∈ (left ++ (core ++ right)).getLast?, (c == ',') = false := by
    intro c last
    rw [List.getLast?_append_of_ne_nil _ (List.append_ne_nil_of_left_ne_nil nonempty right)] at last
    rw [beq_eq_false_iff_ne]
    rintro rfl
    by_cases empty : right = []
    · rw [empty, List.append_nil] at last
      exact wraps.ends last empty
    · rw [List.getLast?_append_of_ne_nil _ empty] at last
      exact absurd (wraps.rightBlank ',' (List.mem_of_mem_getLast? last)) (by decide)
  have dropped : Text.dropEndWhile (· == ',') line = left ++ (core ++ right) := by
    rw [wraps.split, ← List.append_assoc core, ← List.append_assoc left]
    exact Text.dropEndWhile_append_eq kept fun c inCommas =>
      beq_iff_eq.mpr (wraps.onlyCommas c inCommas)
  rw [dropped, Text.trim_append wraps.leftBlank, Text.trim_append_right wraps.rightBlank, trimmed]

/-- Every line has blanks and commas around a text. -/
theorem exists_wraps (line : List Char) :
    ∃ left right commas,
      Wraps line (Text.trim (Text.dropEndWhile (· == ',') line)) left right commas := by
  obtain ⟨commas, whole, onlyCommas, last⟩ := Text.exists_append_dropEndWhile (· == ',') line
  obtain ⟨left, right, split, leftBlank, rightBlank⟩ :=
    Text.exists_append_trim (Text.dropEndWhile (· == ',') line)
  refine ⟨left, right, commas, ?_, leftBlank, rightBlank,
    fun c member => eq_of_beq (onlyCommas c member), ?_⟩
  · rw [← List.append_assoc _ right, ← List.append_assoc left, ← split]
    exact whole
  · rintro comma rfl
    have ends : (Text.dropEndWhile (· == ',') line).getLast? = some ',' := by
      rw [split, List.append_nil, List.getLast?_append, comma]
      rfl
    exact absurd (last ',' ends) (by decide)

/-- A text without blanks around it that is cut at its first equals sign is cut between blanks. -/
theorem exists_trimmed_cut {text before after : List Char} (trimmed : Text.trim text = text)
    (cut : Text.splitOnce? ['='] text = some (before, after)) :
    ∃ left right, text = Text.trim before ++ (left ++ '=' :: (right ++ Text.trim after)) ∧
      (∀ c ∈ left, Text.isBlank c = true) ∧ ∀ c ∈ right, Text.isBlank c = true := by
  have split := Text.append_of_splitOnce?_eq_some cut
  obtain ⟨first, left, before_eq, firstBlank, leftBlank⟩ := Text.exists_append_trim before
  obtain ⟨right, last, after_eq, rightBlank, lastBlank⟩ := Text.exists_append_trim after
  refine ⟨left, right, Text.eq_of_trim_eq_self trimmed ?_ firstBlank lastBlank, leftBlank,
    rightBlank⟩
  calc
    text = before ++ ['='] ++ after := split
    _ = (first ++ (Text.trim before ++ left)) ++ ['='] ++ (right ++ (Text.trim after ++ last)) := by
      rw [← before_eq, ← after_eq]
    _ = first ++ (Text.trim before ++ (left ++ '=' :: (right ++ Text.trim after)) ++ last) := by
      simp

/-- What is read of a line is written by its text. -/
theorem writes_of_enumMember (read : enumMember line = .ok member) :
    topLevelCommas 0 line ≤ 1 ∧ Writes (Text.trim (Text.dropEndWhile (· == ',') line)) member := by
  have trimmed := Text.trim_trim (Text.dropEndWhile (· == ',') line)
  unfold enumMember at read
  dsimp only at read
  generalize Text.trim (Text.dropEndWhile (· == ',') line) = text at trimmed read ⊢
  split at read
  · contradiction
  rename_i few
  refine ⟨Nat.le_of_not_lt few, ?_⟩
  split at read
  · split at read
    · rename_i identifier
      cases read
      exact .bare identifier
    · contradiction
  · rename_i before after cut
    split at read
    · contradiction
    rename_i solid
    rw [Bool.or_eq_true, not_or, List.isEmpty_iff, List.contains_iff_mem] at solid
    split at read
    · rename_i identifier
      cases read
      obtain ⟨left, right, split, leftBlank, rightBlank⟩ := exists_trimmed_cut trimmed cut
      rw [split]
      exact .assigned identifier leftBlank rightBlank solid.1 (Text.trim_trim after) solid.2
    · contradiction

/-- What the text of a line writes is read. -/
theorem enumMember_of_writes (few : topLevelCommas 0 line ≤ 1)
    (writes : Writes (Text.trim (Text.dropEndWhile (· == ',') line)) member) :
    enumMember line = .ok member := by
  unfold enumMember
  dsimp only
  generalize Text.trim (Text.dropEndWhile (· == ',') line) = text at writes ⊢
  rw [if_neg (Nat.not_lt.mpr few)]
  cases writes with
  | bare identifier =>
      have absent := equals_not_mem_identifier identifier
      rw [Text.splitOnce?_eq_none_iff.mpr (Text.contains_eq_false_of_not_mem absent)]
      exact if_pos identifier
  | @assigned name left right value identifier leftBlank rightBlank nonempty valueTrimmed single =>
      have absent : '=' ∉ name ++ left := by
        rw [List.mem_append]
        rintro (inName | inLeft)
        · exact equals_not_mem_identifier identifier inName
        · exact absurd (leftBlank _ inLeft) (by decide)
      have cut : Text.splitOnce? ['='] (name ++ (left ++ '=' :: (right ++ value))) =
          some (name ++ left, right ++ value) := by
        rw [← List.append_assoc]
        exact Text.splitOnce?_append absent [] (right ++ value)
      have named : Text.trim (name ++ left) = name := by
        rw [Text.trim_append_right leftBlank]
        exact Text.trim_eq_self (Text.isBlank_of_mem_identifier identifier)
      have valued : Text.trim (right ++ value) = value := by
        rw [Text.trim_append rightBlank, valueTrimmed]
      rw [cut]
      simp [named, valued, identifier, nonempty, single]

theorem enumMember_eq_ok_iff : enumMember line = .ok member ↔
    topLevelCommas 0 line ≤ 1 ∧ Writes (Text.trim (Text.dropEndWhile (· == ',') line)) member :=
  ⟨writes_of_enumMember, fun ⟨few, writes⟩ => enumMember_of_writes few writes⟩

/-- A line is read as a member exactly if it is written as one and has no two commas outside
parentheses. -/
theorem enumMember_eq_ok_iff_writes : enumMember line = .ok member ↔
    SoleTopComma line ∧
      ∃ core left right commas, Wraps line core left right commas ∧ Writes core member := by
  rw [enumMember_eq_ok_iff, topLevelCommas_le_one_iff]
  refine and_congr_right fun _ => ⟨fun writes => ?_, ?_⟩
  · obtain ⟨left, right, commas, wraps⟩ := exists_wraps line
    exact ⟨_, left, right, commas, wraps, writes⟩
  · rintro ⟨core, left, right, commas, wraps, writes⟩
    obtain ⟨nonempty, trimmed⟩ := writes.trim_eq
    rw [wraps.trim_eq nonempty trimmed]
    exact writes

end Written

/-! ## Commas in values -/

section Values

theorem Flat.append {first second : List Char} (firstFlat : Flat first) (secondFlat : Flat second) :
    Flat (first ++ second) :=
  fun c member => (List.mem_append.mp member).elim (firstFlat c) (secondFlat c)

theorem flat_of_blank {blanks : List Char} (blank : ∀ c ∈ blanks, Text.isBlank c = true) :
    Flat blanks := by
  intro c member
  have solid := blank c member
  refine ⟨?_, ?_, ?_⟩
  all_goals
    rintro rfl
    exact absurd solid (by decide)

theorem flat_of_isIdentifier {name : List Char} (identifier : Text.isIdentifier name = true) :
    Flat name := by
  intro c member
  have inWord := Text.forall_isWordChar_of_isIdentifier identifier c member
  refine ⟨?_, ?_, ?_⟩
  all_goals
    rintro rfl
    exact absurd inWord (by decide)

variable {line : List Char} {name value : String}

/-- A line with a value is the value between a text without parentheses and commas and a text of
blanks, with commas at its very end. -/
theorem exists_of_enumMember_value (read : enumMember line = .ok ⟨name, some value⟩) :
    ∃ start right commas, line = start ++ (value.toList ++ (right ++ commas)) ∧ Flat start ∧
      (∀ c ∈ right, Text.isBlank c = true) ∧ (∀ c ∈ commas, c = ',') ∧
        (value.toList.getLast? = some ',' → right ≠ []) := by
  obtain ⟨_, core, left, right, commas, wraps, writes⟩ := enumMember_eq_ok_iff_writes.mp read
  cases writes with
  | @assigned name before behind value identifier beforeBlank behindBlank nonempty trimmed single =>
      rw [String.toList_ofList]
      have sign : Flat ['='] := by simp [Flat]
      refine ⟨left ++ (name ++ (before ++ (['='] ++ behind))), right, commas, ?_, ?_,
        wraps.rightBlank, wraps.onlyCommas, fun comma => wraps.ends ?_⟩
      · rw [wraps.split]
        simp
      · exact (flat_of_blank wraps.leftBlank).append ((flat_of_isIdentifier identifier).append
          ((flat_of_blank beforeBlank).append (sign.append (flat_of_blank behindBlank))))
      · rw [← List.cons_append, ← List.append_assoc, ← List.append_assoc,
          List.getLast?_append_of_ne_nil _ nonempty]
        exact comma

/-- A comma outside parentheses stands behind a text without such commas. -/
theorem TopComma.exists_append {start rest before after : List Char}
    (comma : TopComma (start ++ rest) before after) (none : topLevelCommas 0 start = 0) :
    ∃ between, before = start ++ between ∧ rest = between ++ ',' :: after := by
  rcases List.append_eq_append_iff.mp comma.split with
    ⟨between, same, rest_eq⟩ | ⟨between, same, after_eq⟩
  · exact ⟨between, same, rest_eq⟩
  · cases between with
    | nil => exact ⟨[], by simpa using same.symm, after_eq.symm⟩
    | cons c between =>
        obtain ⟨rfl, _⟩ := List.cons.inj after_eq
        exact absurd ⟨same, comma.outside⟩ (topLevelCommas_eq_zero_iff.mp none before between)

/-- A value has a comma outside parentheses exactly if a comma outside parentheses is not the end of
the line. -/
theorem value_topComma_iff (read : enumMember line = .ok ⟨name, some value⟩) :
    (∀ before after, ¬TopComma value.toList before after) ↔
      ∀ before after, TopComma line before after → after = [] := by
  obtain ⟨start, right, commas, split, startFlat, rightBlank, onlyCommas, ends⟩ :=
    exists_of_enumMember_value read
  have outer : nesting 0 start = 0 := startFlat.nesting_eq 0
  constructor
  · intro none before after comma
    have rightFlat := flat_of_blank rightBlank
    have free : topLevelCommas 0 (start ++ (value.toList ++ right)) = 0 := by
      rw [topLevelCommas_append, outer, topLevelCommas_append, startFlat.topLevelCommas_eq,
        rightFlat.topLevelCommas_eq, topLevelCommas_eq_zero_iff.mpr none]
    have behind : line = start ++ (value.toList ++ right) ++ commas := by rw [split]; simp
    obtain ⟨between, before_eq, commas_eq⟩ := (behind ▸ comma).exists_append free
    -- Another comma would follow at once, and the line has only one outside parentheses.
    cases after with
    | nil => rfl
    | cons c after =>
        have same : c = ',' := onlyCommas c (by rw [commas_eq]; simp)
        subst same
        have next : TopComma line (before ++ [',']) after := by
          refine ⟨by rw [comma.split]; simp, ?_⟩
          rw [nesting_append, comma.outside]
          rfl
        have sole := (enumMember_eq_ok_iff_writes.mp read).1 _ _ _ _ comma next
        exact absurd (congrArg List.length sole) (by simp)
  · intro last before after comma
    have inLine : TopComma line (start ++ before) (after ++ (right ++ commas)) := by
      refine ⟨by rw [split, comma.split]; simp, ?_⟩
      rw [nesting_append, outer, comma.outside]
    have empty := last _ _ inLine
    rw [List.append_eq_nil_iff, List.append_eq_nil_iff] at empty
    obtain ⟨rfl, rfl, _⟩ := empty
    exact ends (by rw [comma.split]; simp) rfl

end Values

/-! ## All lines -/

/-- A line is read as a member exactly if it has no two commas outside parentheses and is a name, or
a name with a value, up to blanks around it and commas at its end. No comma outside parentheses is
taken into the value exactly if there is none in the line but at its very end. -/
theorem enumMember_reads_members (line : List Char) :
    (∀ member, enumMember line = .ok member ↔ SoleTopComma line ∧
      ∃ core left right commas, Wraps line core left right commas ∧ Writes core member) ∧
    ∀ name value, enumMember line = .ok ⟨name, some value⟩ →
      ((∀ before after, ¬TopComma value.toList before after) ↔
        ∀ before after, TopComma line before after → after = []) :=
  ⟨fun _ => enumMember_eq_ok_iff_writes, fun _ _ => value_topComma_iff⟩

theorem enumMember_reads_members_call :
    enumMember "ZE_A = ZE_MAKE(1, 2),".toList = .ok ⟨"ZE_A", some "ZE_MAKE(1, 2)"⟩ ∧
      ∀ before after, ¬TopComma "ZE_MAKE(1, 2)".toList before after := by
  have read : enumMember "ZE_A = ZE_MAKE(1, 2),".toList = .ok ⟨"ZE_A", some "ZE_MAKE(1, 2)"⟩ :=
    toOption_eq_some_iff.mp (by decide +kernel)
  refine ⟨read, ((enumMember_reads_members _).2 _ _ read).mpr ?_⟩
  intro before after comma
  have split : "ZE_A = ZE_MAKE(1, 2),".toList = "ZE_A = ZE_MAKE(1, 2)".toList ++ [','] := by
    decide +kernel
  obtain ⟨between, _, last⟩ := (split ▸ comma).exists_append (by decide +kernel)
  have lengths := congrArg List.length last
  rw [List.length_append, List.length_singleton, List.length_cons] at lengths
  exact List.length_eq_zero_iff.mp (by omega)

/-- The one comma that a line may have is taken to end it: a member behind it becomes a part of the
value, although two members are refused if a comma follows the second. -/
theorem enumMember_reads_members_joined :
    enumMember "ZE_A = 1, ZE_B".toList = .ok ⟨"ZE_A", some "1, ZE_B"⟩ ∧
      TopComma "1, ZE_B".toList ['1'] " ZE_B".toList ∧
        enumMember "ZE_A = 1, ZE_B,".toList = .error .singleMember :=
  ⟨toOption_eq_some_iff.mp (by decide +kernel), ⟨by decide +kernel, rfl⟩, rfl⟩

end ApiTrace.Declaration
