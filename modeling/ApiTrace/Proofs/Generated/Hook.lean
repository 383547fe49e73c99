import ApiTrace.Generated.Hook
import ApiTrace.Proofs.Header.Callback

/-!
# Names in a hook source

The hooks of a source are its longest runs of word characters that start with one of the starts and
go on behind it. A start that is a whole word gives way to a shorter one, a name reaches to the end
of its word, and no word behind a name is passed over.
-/

namespace ApiTrace

-- A text is decided by its own characters, not by those of the whole alphabet.
attribute [local instance (high)] List.decidableBAll Option.decidableForallMem

namespace Text

/-- A longest run of word characters of a text. -/
structure WordRun (word text : List Char) : Prop where
  nonempty : word ≠ []
  solid : ∀ c ∈ word, isWordChar c = true
  whole : OccursWhole word text

/-! ## Runs of a rest -/

/-- A part of a text has no word character directly before it or behind it. The character before the
text is one if `inWord` holds. -/
def OccursFrom (inWord : Bool) (part text : List Char) : Prop :=
  ∃ before after, text = before ++ (part ++ after) ∧
    (before.getLast?.map isWordChar).getD inWord = false ∧ ∀ c ∈ after.head?, isWordChar c = false

section OccursFrom

variable {part text : List Char}

theorem occursFrom_false_iff : OccursFrom false part text ↔ OccursWhole part text := by
  have start (before : List Char) : (before.getLast?.map isWordChar).getD false = false ↔
      ∀ c ∈ before.getLast?, isWordChar c = false := by
    cases before.getLast? <;> simp
  constructor
  · rintro ⟨before, after, split, left, right⟩
    exact ⟨before, after, split, (start before).mp left, right⟩
  · rintro ⟨before, after, split, apart⟩
    exact ⟨before, after, split, (start before).mpr apart.left, apart.right⟩

/-- A longest run at the start of a text is what the text starts with. -/
theorem exists_append_iff_takeWhile (solid : ∀ c ∈ part, isWordChar c = true) :
    (∃ after, text = part ++ after ∧ ∀ c ∈ after.head?, isWordChar c = false) ↔
      part = text.takeWhile isWordChar := by
  constructor
  · rintro ⟨after, rfl, stop⟩
    rw [List.takeWhile_append_of_pos solid]
    cases after with
    | nil => exact (List.append_nil part).symm
    | cons c after =>
        have outside : isWordChar c = false := stop c rfl
        rw [List.takeWhile_cons_of_neg (by simp [outside]), List.append_nil]
  · rintro rfl
    refine ⟨text.dropWhile isWordChar, List.takeWhile_append_dropWhile.symm, ?_⟩
    intro c first
    have stopped := List.head?_dropWhile_not isWordChar text
    rw [first] at stopped
    exact stopped

/-- A part of a text is at its start or behind its first character. -/
theorem occursFrom_cons_iff (solid : ∀ c ∈ part, isWordChar c = true) {inWord : Bool} {c : Char} :
    OccursFrom inWord part (c :: text) ↔
      inWord = false ∧ part = (c :: text).takeWhile isWordChar ∨
        OccursFrom (isWordChar c) part text := by
  have last (before : List Char) : ((c :: before).getLast?.map isWordChar).getD inWord =
      (before.getLast?.map isWordChar).getD (isWordChar c) := by
    rw [List.getLast?_cons]
    cases before.getLast? <;> rfl
  rw [← exists_append_iff_takeWhile solid]
  constructor
  · rintro ⟨before, after, split, left, right⟩
    cases before with
    | nil => exact .inl ⟨left, after, split, right⟩
    | cons d before =>
        obtain ⟨rfl, tail⟩ := List.cons.inj split
        exact .inr ⟨before, after, tail, (last before).symm.trans left, right⟩
  · rintro (⟨left, after, split, right⟩ | ⟨before, after, rfl, left, right⟩)
    · exact ⟨[], after, split, left, right⟩
    · exact ⟨c :: before, after, rfl, (last before).trans left, right⟩

end OccursFrom

end Text

namespace HookSet

/-- A word starts with one of the starts and goes on behind it. -/
def Extends (starts : List (List Char)) (word : List Char) : Prop :=
  ∃ start ∈ starts, start <+: word ∧ start.length < word.length

theorem Extends.ne_nil {starts : List (List Char)} {word : List Char}
    (longer : Extends starts word) :
    word ≠ [] := by
  obtain ⟨start, _, _, shorter⟩ := longer
  exact List.ne_nil_of_length_pos (Nat.zero_lt_of_lt shorter)

section Names

variable {starts : List (List Char)}
  (solid : ∀ start ∈ starts, ∀ c ∈ start, Text.isWordChar c = true)

/-! ## The name at the start of a text -/

include solid in
/-- What is found is the whole word that the text starts with. -/
theorem eq_of_nameAt? {text name rest : List Char}
    (found : nameAt? starts text = some (name, rest)) :
    name = text.takeWhile Text.isWordChar ∧ rest = text.dropWhile Text.isWordChar ∧
      Extends starts name := by
  obtain ⟨start, among, found⟩ := List.exists_of_findSome?_eq_some found
  split at found
  · contradiction
  · rename_i after dropped
    split at found
    · contradiction
    · rename_i c word taken
      obtain ⟨rfl, rfl⟩ := Prod.mk.inj (Option.some.inj found)
      obtain rfl := Text.append_of_isPrefixOf?_eq_some dropped
      rw [List.takeWhile_append_of_pos (solid start among),
        List.dropWhile_append_of_pos (solid start among), taken]
      refine ⟨rfl, rfl, start, among, List.prefix_append start _, ?_⟩
      rw [List.length_append, List.length_cons]
      omega

/-- A start that does not fit does not keep the others from fitting. -/
theorem isSome_nameAt? {text : List Char}
    (longer : Extends starts (text.takeWhile Text.isWordChar)) :
    (nameAt? starts text).isSome := by
  obtain ⟨start, among, ⟨more, word⟩, shorter⟩ := longer
  have split : start ++ (more ++ text.dropWhile Text.isWordChar) = text := by
    rw [← List.append_assoc, word, List.takeWhile_append_dropWhile]
  have dropped := Text.isPrefixOf?_append_self start (more ++ text.dropWhile Text.isWordChar)
  rw [split] at dropped
  rw [nameAt?, List.findSome?_isSome_iff]
  refine ⟨start, among, ?_⟩
  rw [dropped]
  cases more with
  | nil =>
      rw [← word, List.append_nil] at shorter
      exact absurd shorter (Nat.lt_irrefl _)
  | cons c more =>
      have inWord : c ∈ text.takeWhile Text.isWordChar := by
        rw [← word]
        exact List.mem_append_right start List.mem_cons_self
      dsimp only
      rw [List.cons_append,
        List.takeWhile_cons_of_pos (List.all_eq_true.mp List.all_takeWhile c inWord)]
      rfl

include solid in
/-- A name is found where a word extends a start, and it is that word. -/
theorem fst_nameAt?_eq_some_iff {text name : List Char} :
    (nameAt? starts text).map Prod.fst = some name ↔
      name = text.takeWhile Text.isWordChar ∧ Extends starts name := by
  constructor
  · intro found
    obtain ⟨⟨word, rest⟩, pair, rfl⟩ := Option.map_eq_some_iff.mp found
    obtain ⟨same, _, longer⟩ := eq_of_nameAt? solid pair
    exact ⟨same, longer⟩
  · rintro ⟨rfl, longer⟩
    obtain ⟨⟨word, rest⟩, found⟩ := Option.isSome_iff_exists.mp (isSome_nameAt? longer)
    rw [found, Option.map_some, (eq_of_nameAt? solid found).1]

include solid in
theorem nameAt?_eq_none {c : Char} (outside : Text.isWordChar c = false) (text : List Char) :
    nameAt? starts (c :: text) = none := by
  cases found : nameAt? starts (c :: text) with
  | none => rfl
  | some pair =>
      obtain ⟨empty, _, longer⟩ := eq_of_nameAt? solid found
      rw [List.takeWhile_cons_of_neg (by simp [outside])] at empty
      exact absurd empty longer.ne_nil

/-! ## All names -/

/-- The rest of a word holds no name. -/
theorem namesIn_dropWhile (text : List Char) :
    namesIn starts true (text.dropWhile Text.isWordChar) = namesIn starts true text := by
  induction text with
  | nil => rfl
  | cons c text ih =>
      cases inWord : Text.isWordChar c with
      | false => rw [List.dropWhile_cons_of_neg (by simp [inWord])]
      | true => rw [List.dropWhile_cons_of_pos inWord, ih, namesIn.eq_2, inWord, if_pos rfl]

include solid in
/-- The search goes on behind every character, also behind those of a name. -/
theorem namesIn_cons (inWord : Bool) (c : Char) (text : List Char) :
    namesIn starts inWord (c :: text) =
      (if inWord then none else (nameAt? starts (c :: text)).map Prod.fst).toList ++
        namesIn starts (Text.isWordChar c) text := by
  rw [namesIn.eq_2]
  cases inner : Text.isWordChar c with
  | false =>
      have missing := nameAt?_eq_none solid inner text
      cases inWord with
      | false => rw [if_pos rfl, if_neg Bool.false_ne_true, missing]; rfl
      | true =>
          rw [if_neg Bool.noConfusion]
          split
          · rename_i found
            rw [missing] at found
            contradiction
          · rfl
  | true =>
      cases inWord with
      | true => simp
      | false =>
          rw [if_neg Bool.false_ne_true]
          split
          · rename_i name after found
            obtain ⟨_, rfl, _⟩ := eq_of_nameAt? solid found
            rw [found, List.dropWhile_cons_of_pos inner, namesIn_dropWhile]
            rfl
          · rename_i missing
            rw [missing]
            rfl

include solid in
/-- The names of a text are its longest runs of word characters that extend a start. -/
theorem mem_namesIn_iff {inWord : Bool} {text name : List Char} :
    name ∈ namesIn starts inWord text ↔ Extends starts name ∧
      (∀ c ∈ name, Text.isWordChar c = true) ∧ Text.OccursFrom inWord name text := by
  induction text generalizing inWord with
  | nil =>
      rw [namesIn]
      refine iff_of_false List.not_mem_nil ?_
      rintro ⟨longer, _, before, after, split, _⟩
      exact longer.ne_nil (List.append_eq_nil_iff.mp (List.append_eq_nil_iff.mp split.symm).2).1
  | cons c text ih =>
      rw [namesIn_cons solid, List.mem_append, ih, Option.mem_toList]
      constructor
      · rintro (first | ⟨longer, word, later⟩)
        · cases inWord with
          | true => contradiction
          | false =>
              obtain ⟨rfl, longer⟩ := (fst_nameAt?_eq_some_iff solid).mp first
              have word : ∀ d ∈ (c :: text).takeWhile Text.isWordChar, Text.isWordChar d = true :=
                List.all_eq_true.mp List.all_takeWhile
              exact ⟨longer, word, (Text.occursFrom_cons_iff word).mpr (.inl ⟨rfl, rfl⟩)⟩
        · exact ⟨longer, word, (Text.occursFrom_cons_iff word).mpr (.inr later)⟩
      · rintro ⟨longer, word, occurs⟩
        rcases (Text.occursFrom_cons_iff word).mp occurs with ⟨rfl, whole⟩ | later
        · exact .inl ((fst_nameAt?_eq_some_iff solid).mpr ⟨whole, longer⟩)
        · exact .inr ⟨longer, word, later⟩

end Names

/-! ## Hooks -/

/-- A source has the hooks that are longest runs of word characters and extend a start. -/
theorem contains_ofSource_iff (text : String) (starts : List String)
    (solid : ∀ start ∈ starts, ∀ c ∈ start.toList, Text.isWordChar c = true) (name : String) :
    (ofSource text starts).contains name = true ↔ Text.WordRun name.toList text.toList ∧
      ∃ start ∈ starts, start ≠ "" ∧ start.toList <+: name.toList ∧
        start.toList.length < name.toList.length := by
  have extends_iff :
      Extends ((starts.map String.toList).filter fun start => !start.isEmpty) name.toList ↔
        ∃ start ∈ starts, start ≠ "" ∧ start.toList <+: name.toList ∧
          start.toList.length < name.toList.length := by
    simp [Extends, and_assoc]
  have solidStarts : ∀ start ∈ (starts.map String.toList).filter fun start => !start.isEmpty,
      ∀ c ∈ start, Text.isWordChar c = true := by
    intro start member
    obtain ⟨written, among, rfl⟩ := List.mem_map.mp (List.mem_filter.mp member).1
    exact solid written among
  rw [contains, ofSource, List.contains_iff_mem, List.mem_eraseDups, ← extends_iff]
  constructor
  · intro member
    obtain ⟨found, among, rfl⟩ := List.mem_map.mp member
    rw [String.toList_ofList] at extends_iff ⊢
    obtain ⟨longer, word, occurs⟩ := (mem_namesIn_iff solidStarts).mp among
    exact ⟨⟨longer.ne_nil, word, Text.occursFrom_false_iff.mp occurs⟩, longer⟩
  · rintro ⟨run, longer⟩
    refine List.mem_map.mpr ⟨name.toList, ?_, String.ofList_toList⟩
    exact (mem_namesIn_iff solidStarts).mpr ⟨longer, run.solid,
      Text.occursFrom_false_iff.mpr run.whole⟩

/-- The longer start is a whole word of the source, so the shorter one makes the name; the word that
has it in the middle is no hook. -/
theorem contains_ofSource_overlapping :
    (∀ start ∈ ["OnEnterInit", "", "OnEnter"], ∀ c ∈ start.toList, Text.isWordChar c = true) ∧
      (ofSource "void MyOnEnterInit2(); void OnEnterInit();"
        ["OnEnterInit", "", "OnEnter"]).contains
        "OnEnterInit" = true := by
  have solid : ∀ start ∈ ["OnEnterInit", "", "OnEnter"],
      ∀ c ∈ start.toList, Text.isWordChar c = true := by
    decide +kernel
  have run :
      Text.WordRun "OnEnterInit".toList "void MyOnEnterInit2(); void OnEnterInit();".toList :=
    ⟨by decide +kernel, by decide +kernel, "void MyOnEnterInit2(); void ".toList, "();".toList,
      by decide +kernel, by decide +kernel, by decide +kernel⟩
  exact ⟨solid, (contains_ofSource_iff _ _ solid "OnEnterInit").mpr
    ⟨run, "OnEnter", by decide +kernel, by decide +kernel, by decide +kernel, by decide +kernel⟩⟩

end HookSet

end ApiTrace
