import ApiTrace.Header.Declaration
import ApiTrace.Proofs.Header.Comment
import ApiTrace.Proofs.Sequence
import ApiTrace.Proofs.Text.Words

/-!
# Callback types within texts

The function of a callback is decoded from what stands between the first start of a callback type in
a text and the next end, wherever these stand: they need not belong to one identifier. The function
is that of a whole identifier of the text exactly if the three parts make up such an identifier, and
the callback type of the function is the decoded text exactly if nothing stands around them.
-/

namespace ApiTrace

-- A text is decided by its own characters, not by those of the whole alphabet.
attribute [local instance (high)] List.decidableBAll Option.decidableForallMem

/-! ## First occurrences -/

namespace Text

/-- A text is cut at the first occurrence of a pattern. -/
structure FirstCut (pattern text before after : List Char) : Prop where
  split : text = before ++ (pattern ++ after)
  first : ∀ earlier later, text = earlier ++ (pattern ++ later) → before.length ≤ earlier.length

section FirstCut

variable {pattern text before after others rest : List Char}

theorem FirstCut.unique (cut : FirstCut pattern text before after)
    (other : FirstCut pattern text others rest) : others = before ∧ rest = after := by
  have same : others.length = before.length :=
    Nat.le_antisymm (other.first before after cut.split) (cut.first others rest other.split)
  obtain ⟨sameBefore, sameRest⟩ := List.append_inj (other.split.symm.trans cut.split) same
  exact ⟨sameBefore, List.append_cancel_left sameRest⟩

theorem firstCut_of_splitOnce? (cut : splitOnce? pattern text = some (before, after)) :
    FirstCut pattern text before after where
  split := by rw [append_of_splitOnce?_eq_some cut, List.append_assoc]
  first earlier later split := length_le_of_splitOnce? cut (by rw [split, List.append_assoc])

theorem splitOnce?_eq_some_iff :
    splitOnce? pattern text = some (before, after) ↔ FirstCut pattern text before after := by
  constructor
  · exact firstCut_of_splitOnce?
  · intro cut
    have within : contains pattern text = true :=
      contains_iff_isInfix.mpr ⟨before, after, by rw [cut.split, List.append_assoc]⟩
    obtain ⟨⟨others, rest⟩, found⟩ := Option.isSome_iff_exists.mp within
    obtain ⟨rfl, rfl⟩ := cut.unique (firstCut_of_splitOnce? found)
    exact found

/-- A pattern whose first character does not come again in it occurs only once if it does not occur
behind its first occurrence. -/
theorem FirstCut.eq_of_sole {c : Char} {tail earlier later : List Char} (apart : c ∉ tail)
    (cut : FirstCut (c :: tail) text before after) (sole : contains (c :: tail) after = false)
    (split : text = earlier ++ (c :: tail ++ later)) : earlier = before ∧ later = after := by
  have behind {part : List Char} : after ≠ part ++ (c :: tail ++ later) := by
    rintro rfl
    rw [← Bool.not_eq_true, contains_iff_isInfix] at sole
    exact sole ⟨part, later, List.append_assoc part _ later⟩
  have reached := cut.first earlier later split
  obtain ⟨between, rfl, same⟩ : ∃ between, earlier = before ++ between ∧
      c :: tail ++ after = between ++ (c :: tail ++ later) := by
    rcases List.append_eq_append_iff.mp (cut.split.symm.trans split) with
      ⟨between, longer, same⟩ | ⟨between, shorter, same⟩
    · exact ⟨between, longer, same⟩
    · have empty : between = [] := by
        rw [shorter, List.length_append] at reached
        exact List.length_eq_zero_iff.mp (by omega)
      subst empty
      exact ⟨[], by simpa using shorter.symm, same.symm⟩
  cases between with
  | nil => exact ⟨List.append_nil before, List.append_cancel_left same.symm⟩
  | cons d between =>
      -- The other occurrence starts within the first one or behind it.
      obtain ⟨rfl, inner⟩ := List.cons.inj same
      rcases List.append_eq_append_iff.mp inner with ⟨part, _, rest⟩ | ⟨part, overlap, rest⟩
      · exact absurd rest behind
      · cases part with
        | nil => exact absurd (rest.symm.trans (List.nil_append _).symm) behind
        | cons e part =>
            obtain ⟨rfl, _⟩ := List.cons.inj rest
            exact absurd (overlap ▸ List.mem_append_right between List.mem_cons_self) apart

theorem length_splitEvery_eq_one_iff (nonempty : pattern ≠ []) :
    (splitEvery pattern nonempty text).length = 1 ↔ contains pattern text = false := by
  rw [← splitOnce?_eq_none_iff]
  unfold splitEvery
  split
  · rename_i uncut
    exact iff_of_true rfl uncut
  · rename_i before after cut
    refine iff_of_false ?_ (by rw [cut]; exact Option.some_ne_none _)
    rw [List.length_cons]
    have some : (splitEvery pattern nonempty after).length ≠ 0 := by
      rw [Ne, List.length_eq_zero_iff]
      unfold splitEvery
      split <;> exact List.cons_ne_nil _ _
    omega

/-- A pattern occurs once if it occurs, but not behind its first occurrence. -/
theorem occurrences_eq_one_iff (nonempty : pattern ≠ []) :
    occurrences pattern text = 1 ↔
      ∃ before after, FirstCut pattern text before after ∧ contains pattern after = false := by
  rw [occurrences, pieces, dif_pos nonempty]
  unfold splitEvery
  split
  · rename_i uncut
    refine iff_of_false (by simp) ?_
    rintro ⟨before, after, cut, _⟩
    rw [splitOnce?_eq_some_iff.mpr cut] at uncut
    contradiction
  · rename_i before after cut
    rw [List.length_cons, Nat.add_sub_cancel, length_splitEvery_eq_one_iff]
    constructor
    · intro sole
      exact ⟨before, after, firstCut_of_splitOnce? cut, sole⟩
    · rintro ⟨others, rest, other, sole⟩
      obtain ⟨_, rfl⟩ := (firstCut_of_splitOnce? cut).unique other
      exact sole

end FirstCut

/-! ## Identifiers within a text -/

/-- No word character stands at the end of the one part or at the start of the other. -/
structure Apart (before after : List Char) : Prop where
  left : ∀ c ∈ before.getLast?, isWordChar c = false
  right : ∀ c ∈ after.head?, isWordChar c = false

/-- A part of a text has no word character directly before it or behind it. -/
def OccursWhole (part text : List Char) : Prop :=
  ∃ before after, text = before ++ (part ++ after) ∧ Apart before after

end Text

/-! ## The decoded part -/

namespace Dialect

variable {dialect : Dialect} {token before body after : List Char} {function : String}

/-- The function of the part between a start and an end. -/
def functionOf (dialect : Dialect) (body : List Char) : String :=
  dialect.functionStart ++ String.ofList (Text.trim body)

/-- A text is cut at the first start of a callback type and at the next end. -/
structure CallbackCut (dialect : Dialect) (text before body after : List Char) : Prop where
  start : Text.FirstCut dialect.callbackStart.toList text before
    (body ++ (dialect.callbackEnd.toList ++ after))
  stop : Text.FirstCut dialect.callbackEnd.toList (body ++ (dialect.callbackEnd.toList ++ after))
      body after

theorem callbackCut_iff : dialect.CallbackCut token before body after ↔
    Text.splitOnce? dialect.callbackStart.toList token =
        some (before, body ++ (dialect.callbackEnd.toList ++ after)) ∧
      Text.splitOnce? dialect.callbackEnd.toList (body ++ (dialect.callbackEnd.toList ++ after)) =
        some (body, after) := by
  rw [Text.splitOnce?_eq_some_iff, Text.splitOnce?_eq_some_iff]
  exact ⟨fun cut => ⟨cut.start, cut.stop⟩, fun ⟨start, stop⟩ => ⟨start, stop⟩⟩

instance : Decidable (dialect.CallbackCut token before body after) :=
  decidable_of_iff _ callbackCut_iff.symm

/-- What is decoded is the part between the first start and the next end, unless it is blank. -/
theorem CallbackCut.functionOfCallback?_eq (cut : dialect.CallbackCut token before body after) :
    dialect.functionOfCallback? token =
      if Text.trim body = [] then none else some (dialect.functionOf body) := by
  obtain ⟨start, stop⟩ := callbackCut_iff.mp cut
  unfold functionOfCallback?
  rw [start]
  change (Text.splitOnce? _ (body ++ (dialect.callbackEnd.toList ++ after))).bind _ = _
  rw [stop]
  simp only [Option.bind_some, List.isEmpty_iff]
  rfl

theorem functionOfCallback?_eq_some_iff :
    dialect.functionOfCallback? token = some function ↔ ∃ before body after,
      dialect.CallbackCut token before body after ∧ Text.trim body ≠ [] ∧
        function = dialect.functionOf body := by
  constructor
  · intro decoded
    have parts := decoded
    unfold functionOfCallback? at parts
    obtain ⟨⟨before, rest⟩, start, parts⟩ := Option.bind_eq_some_iff.mp parts
    obtain ⟨⟨body, after⟩, stop, _⟩ := Option.bind_eq_some_iff.mp parts
    have split := Text.firstCut_of_splitOnce? stop
    obtain rfl := split.split
    have cut : dialect.CallbackCut token before body after :=
      ⟨Text.firstCut_of_splitOnce? start, split⟩
    rw [cut.functionOfCallback?_eq] at decoded
    split at decoded
    · contradiction
    · rename_i solid
      exact ⟨before, body, after, cut, solid, (Option.some.inj decoded).symm⟩
  · rintro ⟨before, body, after, cut, solid, rfl⟩
    rw [cut.functionOfCallback?_eq, if_neg solid]

theorem toList_functionOf (dialect : Dialect) (body : List Char) :
    (dialect.functionOf body).toList = dialect.functionStart.toList ++ Text.trim body := by
  rw [functionOf, String.toList_append, String.toList_ofList]

/-- The callback type of a decoded function. -/
theorem toList_callbackType_functionOf (dialect : Dialect) (body : List Char) :
    (dialect.callbackType (dialect.functionOf body)).toList =
      dialect.callbackStart.toList ++ (Text.trim body ++ dialect.callbackEnd.toList) := by
  rw [callbackType, toList_functionOf, Text.dropStart?, Text.isPrefixOf?_append_self]
  simp

/-! ## Lines that declare a callback type -/

/-- A line with the marker of callback types and one start of such a type, cut at the start and the
next end. -/
structure CallbackLine (dialect : Dialect) (line before body after : List Char) : Prop extends
    dialect.CallbackCut line before body after where
  marked : Text.contains dialect.callMarker.toList line = true
  sole : Text.contains dialect.callbackStart.toList
      (body ++ (dialect.callbackEnd.toList ++ after)) = false
  solid : Text.trim body ≠ []

theorem callbackLine_iff : dialect.CallbackLine token before body after ↔
    dialect.CallbackCut token before body after ∧
      Text.contains dialect.callMarker.toList token = true ∧
      Text.contains dialect.callbackStart.toList
          (body ++ (dialect.callbackEnd.toList ++ after)) = false ∧
        Text.trim body ≠ [] :=
  ⟨fun line => ⟨line.toCallbackCut, line.marked, line.sole, line.solid⟩,
    fun ⟨cut, marked, sole, solid⟩ => ⟨cut, marked, sole, solid⟩⟩

instance : Decidable (dialect.CallbackLine token before body after) :=
  decidable_of_iff _ callbackLine_iff.symm

/-- The lines whose callback type is decoded. -/
theorem callback_eq_some_iff (nonempty : dialect.callbackStart.toList ≠ []) {line : List Char} :
    Declaration.callback dialect line = .ok (some function) ↔ ∃ before body after,
      dialect.CallbackLine line before body after ∧ function = dialect.functionOf body := by
  unfold Declaration.callback
  constructor
  · intro declared
    split at declared
    · rename_i mentions
      rw [Bool.and_eq_true] at mentions
      split at declared
      · rename_i once
        obtain ⟨others, rest, first, sole⟩ := (Text.occurrences_eq_one_iff nonempty).mp once
        split at declared
        · rename_i found decoded
          obtain ⟨before, body, after, cut, solid, rfl⟩ :=
            functionOfCallback?_eq_some_iff.mp decoded
          obtain ⟨_, rfl⟩ := cut.start.unique first
          cases declared
          exact ⟨before, body, after, ⟨cut, mentions.1, sole, solid⟩, rfl⟩
        · contradiction
      · contradiction
    · cases declared
  · rintro ⟨before, body, after, declared, rfl⟩
    have mentioned : Text.contains dialect.callbackStart.toList line = true :=
      Text.contains_iff_isInfix.mpr ⟨before, _, by rw [declared.start.split, List.append_assoc]⟩
    have once : Text.occurrences dialect.callbackStart.toList line = 1 :=
      (Text.occurrences_eq_one_iff nonempty).mpr ⟨before, _, declared.start, declared.sole⟩
    rw [declared.marked, mentioned, Bool.and_self, if_pos rfl, if_pos once,
      declared.functionOfCallback?_eq, if_neg declared.solid]

/-! ## Whole identifiers -/

theorem isIdentifier_functionOf (body : List Char) :
    Text.isIdentifier (functionOf {} body).toList = true ↔
      ∀ c ∈ Text.trim body, Text.isWordChar c = true := by
  have start : (functionOf {} body).toList = 'z' :: 'e' :: Text.trim body :=
    toList_functionOf {} body
  have second : Text.isWordChar 'e' = true := by decide
  rw [start, Text.isIdentifier, List.all_cons, second, Bool.true_and, ← List.all_eq_true]
  exact Bool.eq_iff_iff.mp (Bool.true_and _)

/-- The callback type of the function stands in the line as an identifier exactly if the decoded
parts are one. -/
theorem CallbackLine.whole_iff {line : List Char}
    (declared : CallbackLine {} line before body after) :
    Text.OccursWhole (callbackType {} (functionOf {} body)).toList line ∧
        Text.isIdentifier (functionOf {} body).toList = true ↔
      Text.Apart before after ∧ ∀ c ∈ body, Text.isWordChar c = true := by
  rw [toList_callbackType_functionOf, isIdentifier_functionOf]
  constructor
  · rintro ⟨⟨others, rest, split, apart⟩, word⟩
    rw [List.append_assoc, List.append_assoc] at split
    obtain ⟨rfl, same⟩ := declared.start.eq_of_sole (by decide) declared.sole split
    have short := declared.stop.first (Text.trim body) rest same.symm
    have trimmed : Text.trim body = body :=
      (Text.trim_isInfix body).eq_of_length
        (Nat.le_antisymm (Text.trim_isInfix body).length_le short)
    rw [trimmed] at same word
    obtain rfl := List.append_cancel_left (List.append_cancel_left same)
    exact ⟨apart, word⟩
  · rintro ⟨apart, word⟩
    have trimmed : Text.trim body = body :=
      Text.trim_eq_self fun c member => Text.isBlank_of_isWordChar (word c member)
    rw [trimmed]
    refine ⟨⟨before, after, ?_, apart⟩, word⟩
    rw [List.append_assoc, List.append_assoc]
    exact declared.start.split

/-- A text without blanks is decoded as it is written. -/
theorem CallbackCut.trim_body (cut : dialect.CallbackCut token before body after)
    (solid : ∀ c ∈ token, Text.isBlank c = false) : Text.trim body = body := by
  apply Text.trim_eq_self
  intro c member
  apply solid c
  rw [cut.start.split]
  exact List.mem_append_right _ (List.mem_append_right _ (List.mem_append_left _ member))

/-- The callback type of the function is the decoded text exactly if nothing stands around the
parts. -/
theorem CallbackCut.callbackType_eq_iff (cut : dialect.CallbackCut token before body after)
    (solid : ∀ c ∈ token, Text.isBlank c = false) :
    (dialect.callbackType (dialect.functionOf body)).toList = token ↔ before = [] ∧ after = [] := by
  rw [toList_callbackType_functionOf, cut.trim_body solid]
  constructor
  · intro same
    have lengths := congrArg List.length (same.trans cut.start.split)
    simp only [List.length_append] at lengths
    exact ⟨List.length_eq_zero_iff.mp (by omega), List.length_eq_zero_iff.mp (by omega)⟩
  · rintro ⟨rfl, rfl⟩
    rw [cut.start.split, List.append_nil, List.nil_append]

theorem functionOf_inj {part : List Char} (trimmed : Text.trim body = body)
    (otherTrimmed : Text.trim part = part) :
    dialect.functionOf body = dialect.functionOf part ↔ body = part := by
  rw [← String.toList_inj, toList_functionOf, toList_functionOf, trimmed, otherTrimmed,
    List.append_cancel_left_eq]

/-- Texts without blanks are decoded alike exactly if the same stands between their starts and their
ends. -/
theorem CallbackCut.functionOfCallback?_eq_iff {other others part rest : List Char}
    (cut : dialect.CallbackCut token before body after)
    (otherCut : dialect.CallbackCut other others part rest)
    (solid : ∀ c ∈ token, Text.isBlank c = false)
    (otherSolid : ∀ c ∈ other, Text.isBlank c = false) :
    dialect.functionOfCallback? token = dialect.functionOfCallback? other ↔ body = part := by
  have trimmed := cut.trim_body solid
  have otherTrimmed := otherCut.trim_body otherSolid
  rw [cut.functionOfCallback?_eq, otherCut.functionOfCallback?_eq, trimmed, otherTrimmed]
  by_cases empty : body = []
  · by_cases otherEmpty : part = []
    · rw [if_pos empty, if_pos otherEmpty, empty, otherEmpty]
      exact iff_of_true rfl rfl
    · rw [if_pos empty, if_neg otherEmpty, empty]
      exact iff_of_false nofun (Ne.symm otherEmpty)
  · by_cases otherEmpty : part = []
    · rw [if_neg empty, if_pos otherEmpty, otherEmpty]
      exact iff_of_false nofun empty
    · rw [if_neg empty, if_neg otherEmpty, Option.some.injEq, functionOf_inj trimmed otherTrimmed]

/-! ## All callback types -/

/-- A line declares the function between the first start of a callback type and the next end, if
that start is the only one. It is the function of an identifier of the line exactly if start, middle
and end make up one. An identifier is decoded in the same way, its callback type is the identifier
exactly if start and end are its own, and identifiers are decoded alike exactly if they have the
same middle. -/
theorem callback_decodes_parts (line token other : List Char) :
    (∀ function, Declaration.callback {} line = .ok (some function) ↔
      ∃ before body after, CallbackLine {} line before body after ∧ function = functionOf {} body) ∧
    (∀ before body after, CallbackLine {} line before body after →
      (Text.OccursWhole (callbackType {} (functionOf {} body)).toList line ∧
          Text.isIdentifier (functionOf {} body).toList = true ↔
        Text.Apart before after ∧ ∀ c ∈ body, Text.isWordChar c = true)) ∧
    (∀ function, functionOfCallback? {} token = some function ↔ ∃ before body after,
      CallbackCut {} token before body after ∧ Text.trim body ≠ [] ∧
        function = functionOf {} body) ∧
    (∀ before body after, Text.isIdentifier token = true → CallbackCut {} token before body after →
      ((callbackType {} (functionOf {} body)).toList = token ↔ before = [] ∧ after = [])) ∧
    ∀ before body after others part rest,
      Text.isIdentifier token = true → Text.isIdentifier other = true →
      CallbackCut {} token before body after → CallbackCut {} other others part rest →
        (functionOfCallback? {} token = functionOfCallback? {} other ↔ body = part) := by
  refine ⟨fun function => callback_eq_some_iff (by decide), fun before body after => ?_,
    fun function => functionOfCallback?_eq_some_iff, ?_, ?_⟩
  · exact CallbackLine.whole_iff
  · intro before body after identifier cut
    exact cut.callbackType_eq_iff (Text.isBlank_of_mem_identifier identifier)
  · intro before body after others part rest identifier otherIdentifier cut otherCut
    exact cut.functionOfCallback?_eq_iff otherCut (Text.isBlank_of_mem_identifier identifier)
      (Text.isBlank_of_mem_identifier otherIdentifier)

theorem callback_decodes_parts_init :
    (CallbackLine {} "typedef void (ZE_APICALL *ze_pfnInitCb_t)(".toList
        "typedef void (ZE_APICALL *".toList "Init".toList ")(".toList ∧
      Text.OccursWhole (callbackType {} (functionOf {} "Init".toList)).toList
          "typedef void (ZE_APICALL *ze_pfnInitCb_t)(".toList ∧
        Text.isIdentifier (functionOf {} "Init".toList).toList = true) ∧
    (Text.isIdentifier "ze_pfnInitCb_t2".toList = true ∧
      CallbackCut {} "ze_pfnInitCb_t2".toList [] "Init".toList ['2'] ∧
        (callbackType {} (functionOf {} "Init".toList)).toList ≠ "ze_pfnInitCb_t2".toList) ∧
    Text.isIdentifier "zex_ze_pfnInitCb_t".toList = true ∧
      CallbackCut {} "zex_ze_pfnInitCb_t".toList "zex_".toList "Init".toList [] ∧
        functionOfCallback? {} "ze_pfnInitCb_t2".toList =
          functionOfCallback? {} "zex_ze_pfnInitCb_t".toList := by
  have line : CallbackLine {} "typedef void (ZE_APICALL *ze_pfnInitCb_t)(".toList
      "typedef void (ZE_APICALL *".toList "Init".toList ")(".toList := by decide +kernel
  have identifier : Text.isIdentifier "ze_pfnInitCb_t2".toList = true := by decide +kernel
  have cut : CallbackCut {} "ze_pfnInitCb_t2".toList [] "Init".toList ['2'] := by decide +kernel
  have otherIdentifier : Text.isIdentifier "zex_ze_pfnInitCb_t".toList = true := by decide +kernel
  have otherCut : CallbackCut {} "zex_ze_pfnInitCb_t".toList "zex_".toList "Init".toList [] := by
    decide +kernel
  obtain ⟨_, whole, _, inverse, alike⟩ := callback_decodes_parts
    "typedef void (ZE_APICALL *ze_pfnInitCb_t)(".toList "ze_pfnInitCb_t2".toList
      "zex_ze_pfnInitCb_t".toList
  have apart : Text.Apart "typedef void (ZE_APICALL *".toList ")(".toList :=
    ⟨by decide +kernel, by decide +kernel⟩
  refine ⟨⟨line, (whole _ _ _ line).mpr ⟨apart, by decide +kernel⟩⟩, ⟨identifier, cut, ?_⟩,
    otherIdentifier, otherCut, (alike _ _ _ _ _ _ identifier otherIdentifier cut otherCut).mpr rfl⟩
  intro same
  exact absurd ((inverse _ _ _ identifier cut).mp same).2 nofun

/-- The next end may belong to another identifier of the line, and an identifier may go on behind
its end. -/
theorem callback_decodes_across_identifiers :
    (Declaration.callback {} "typedef void (ZE_APICALL *ze_pfnInit)(ze_init_Cb_t*);".toList =
        .ok (some "zeInit)(ze_init_") ∧
      Text.isIdentifier "zeInit)(ze_init_".toList = false) ∧
    Text.isIdentifier "ze_pfnInitCb_t2".toList = true ∧
      functionOfCallback? {} "ze_pfnInitCb_t2".toList = some "zeInit" ∧
        functionOfCallback? {} "ze_pfnInitCb_t".toList = some "zeInit" ∧
          callbackType {} "zeInit" ≠ "ze_pfnInitCb_t2" :=
  ⟨⟨toOption_eq_some_iff.mp (by decide +kernel), by decide +kernel⟩, by decide +kernel,
    by decide +kernel, by decide +kernel, by decide +kernel⟩

end Dialect

end ApiTrace
