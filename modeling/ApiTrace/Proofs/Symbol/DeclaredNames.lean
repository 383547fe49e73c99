import ApiTrace.Proofs.Sequence
import ApiTrace.Symbol.Table

/-!
# Declared functions

The functions of a table are those that the lines of the headers declare. A repeated declaration, in
one header or in several, is passed over, so every function stands once, at the place of its first
declaration.
-/

namespace ApiTrace

/-! ## First places -/

/-- The names are those of a longer list, each once, in the order of their first places. -/
structure FirstPlaces (names declared : List String) : Prop where
  mem_iff : ∀ name, name ∈ names ↔ name ∈ declared
  ordered : names.Pairwise fun earlier later => declared.idxOf earlier < declared.idxOf later

namespace FirstPlaces

variable {names declared : List String} {name : String}

theorem nil : FirstPlaces [] [] :=
  ⟨fun _ => .rfl, .nil⟩

theorem nodup (first : FirstPlaces names declared) : names.Nodup :=
  first.ordered.imp (S := (· ≠ ·)) fun before same => Nat.lt_irrefl _ (same ▸ before)

/-- A further place after the list moves no first place in it. -/
theorem ordered_append (first : FirstPlaces names declared) (more : List String) :
    names.Pairwise fun earlier later =>
      (declared ++ more).idxOf earlier < (declared ++ more).idxOf later := by
  refine first.ordered.imp_of_mem fun earlierMem laterMem before => ?_
  rwa [List.idxOf_append_of_mem ((first.mem_iff _).mp earlierMem),
    List.idxOf_append_of_mem ((first.mem_iff _).mp laterMem)]

theorem append_known (first : FirstPlaces names declared) (known : name ∈ names) :
    FirstPlaces names (declared ++ [name]) where
  mem_iff other := by
    rw [List.mem_append, List.mem_singleton, first.mem_iff]
    refine ⟨.inl, fun member => member.elim id fun same => ?_⟩
    exact same ▸ (first.mem_iff name).mp known
  ordered := first.ordered_append [name]

theorem append_fresh (first : FirstPlaces names declared) (fresh : name ∉ names) :
    FirstPlaces (names ++ [name]) (declared ++ [name]) where
  mem_iff other := by
    rw [List.mem_append, List.mem_append, first.mem_iff]
  ordered := by
    refine List.pairwise_append.mpr ⟨first.ordered_append [name], List.pairwise_singleton _ _, ?_⟩
    intro earlier member later last
    rw [List.mem_singleton.mp last, List.idxOf_append_of_mem ((first.mem_iff earlier).mp member),
      List.idxOf_append_of_notMem (mt (first.mem_iff name).mpr fresh)]
    exact Nat.lt_add_right _ (List.idxOf_lt_length_of_mem ((first.mem_iff earlier).mp member))

end FirstPlaces

theorem firstPlaces_of_addNames {file : String} {names declared more after : List String}
    (first : FirstPlaces names declared) (ended : (addNames file names more).outcome = .ok after) :
    FirstPlaces after (declared ++ more) := by
  unfold addNames at ended
  rw [Journalled.outcome_foldlM] at ended
  refine holds_of_foldlM_seen (fun seen names => FirstPlaces names (declared ++ seen))
    ?_ (by simpa) ended
  intro seen name before after first ended
  rw [← List.append_assoc]
  split at ended
  · rename_i known
    cases ended
    exact first.append_known (List.contains_iff_mem.mp known)
  · rename_i fresh
    cases ended
    exact first.append_fresh (mt List.contains_iff_mem.mpr fresh)

/-! ## Declarations of the headers -/

/-- The function whose callback type a line declares. -/
def declaredBy? (dialect : Dialect) (line : List Char) : Option String :=
  match Declaration.callback dialect line with
  | .ok (some function) => some function
  | _ => none

/-- The functions that the lines of the headers declare, as often as they do. -/
def declarations (dialect : Dialect) (headers : List Header) : List String :=
  (headers.flatMap Header.lines).filterMap (declaredBy? dialect)

theorem declarations_concat (dialect : Dialect) (headers : List Header) (header : Header) :
    declarations dialect (headers ++ [header]) =
      declarations dialect headers ++ header.lines.filterMap (declaredBy? dialect) := by
  rw [declarations, List.flatMap_append, List.filterMap_append, List.flatMap_singleton,
    declarations]

theorem Header.eq_filterMap_of_callbacksIn {dialect : Dialect} {file : String}
    {lines : List NumberedLine}
    {functions : List String} (ended : callbacksIn dialect file lines = .ok functions) :
    functions = (lines.map NumberedLine.text).filterMap (declaredBy? dialect) := by
  induction lines generalizing functions with
  | nil =>
      cases ended
      rfl
  | cons line lines ih =>
      rw [List.map_cons, List.filterMap_cons, declaredBy?]
      unfold callbacksIn at ended
      split at ended
      · contradiction
      · rename_i silent
        rw [silent]
        exact ih ended
      · rename_i function declares
        rw [declares]
        obtain ⟨more, rest, rfl⟩ := map_eq_ok ended
        exact congrArg _ (ih rest)

/-- The functions that are read off a header are those that its lines declare. -/
theorem Header.eq_filterMap_of_callbacks {dialect : Dialect} {header : Header}
    {functions : List String}
    (read : header.callbacks dialect = .ok functions) :
    functions = header.lines.filterMap (declaredBy? dialect) := by
  rw [eq_filterMap_of_callbacksIn read, map_text_numbered]

theorem firstPlaces_of_declaredNames {dialect : Dialect} {headers : List Header}
    {names : List String}
    (ended : (declaredNames dialect headers).outcome = .ok names) :
    FirstPlaces names (declarations dialect headers) := by
  unfold declaredNames at ended
  rw [Journalled.outcome_foldlM] at ended
  refine holds_of_foldlM_seen (fun seen names => FirstPlaces names (declarations dialect seen)) ?_
    .nil ended
  intro seen header before after first ended
  obtain ⟨more, read, ended⟩ := Journalled.liftM_bind_eq_ok ended
  rw [declarations_concat, ← Header.eq_filterMap_of_callbacks read]
  exact firstPlaces_of_addNames first ended

end ApiTrace
