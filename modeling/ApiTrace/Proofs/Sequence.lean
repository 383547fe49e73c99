import ApiTrace.Journal
import Mathlib.Data.List.Forall2

/-!
# Computations in sequence

A sequence that succeeds is taken apart into its steps. The messages of a journalled sequence are
forgotten step by step, so only sequences of plain results have to be looked at: one result for each
item of a list, and properties that every step of a fold preserves.
-/

namespace ApiTrace

/-! ## Plain results -/

section Except

variable {ε α β : Type}

@[simp]
theorem ok_bind (value : α) (next : α → Except ε β) : (Except.ok value >>= next) = next value := rfl

theorem bind_eq_ok {first : Except ε α} {next : α → Except ε β} {value : β}
    (ended : first >>= next = .ok value) :
    ∃ middle, first = .ok middle ∧ next middle = .ok value := by
  cases first with
  | error error => contradiction
  | ok middle => exact ⟨middle, rfl, ended⟩

theorem bind_eq_error {first : Except ε α} {next : α → Except ε β} {error : ε}
    (ended : first >>= next = .error error) :
    first = .error error ∨ ∃ middle, first = .ok middle ∧ next middle = .error error := by
  cases first with
  | error cause =>
      cases ended
      exact .inl rfl
  | ok middle => exact .inr ⟨middle, rfl, ended⟩

theorem map_eq_ok {first : Except ε α} {convert : α → β} {value : β}
    (ended : first.map convert = .ok value) :
    ∃ middle, first = .ok middle ∧ convert middle = value := by
  cases first with
  | error error => contradiction
  | ok middle => exact ⟨middle, rfl, Except.ok.inj ended⟩

/-- A value is not touched when the error is converted. -/
theorem ok_of_mapError {δ : Type} {convert : ε → δ} {result : Except ε α} {value : α}
    (ended : result.mapError convert = .ok value) : result = .ok value := by
  cases result with
  | error cause => contradiction
  | ok result =>
      cases ended
      rfl

/-- A result with a view that can be computed. -/
theorem exists_of_map_toOption {result : Except ε α} {view : α → β} {seen : β}
    (viewed : result.toOption.map view = some seen) :
    ∃ value, result = .ok value ∧ view value = seen := by
  cases result with
  | error cause => contradiction
  | ok value => exact ⟨value, rfl, Option.some.inj viewed⟩

theorem toOption_eq_some_iff {result : Except ε α} {value : α} :
    result.toOption = some value ↔ result = .ok value := by
  cases result <;> simp [Except.toOption]

theorem toOption_map (result : Except ε α) (f : α → β) :
    (result.map f).toOption = result.toOption.map f := by
  cases result <;> rfl

theorem toOption_bind (first : Except ε α) (next : α → Except ε β) :
    (first >>= next).toOption = first.toOption.bind fun value => (next value).toOption := by
  cases first <;> rfl

/-- Sequences whose steps differ in errors only end alike, but for errors. -/
theorem toOption_bind_congr {first other : Except ε α} {next after : α → Except ε β}
    (same : first.toOption = other.toOption)
    (agree : ∀ value, other = .ok value → (next value).toOption = (after value).toOption) :
    (first >>= next).toOption = (other >>= after).toOption := by
  rw [toOption_bind, toOption_bind, same]
  cases other with
  | error cause => rfl
  | ok value => exact agree value rfl

/-- Folds whose steps differ in errors only end alike, but for errors. -/
theorem toOption_foldlM_congr {step other : β → α → Except ε β} {items : List α}
    (agree : ∀ item ∈ items, ∀ before, (step before item).toOption = (other before item).toOption)
    (first : β) : (items.foldlM step first).toOption = (items.foldlM other first).toOption := by
  induction items generalizing first with
  | nil => rfl
  | cons item items ih =>
      obtain ⟨itemAgrees, restAgrees⟩ := List.forall_mem_cons.mp agree
      rw [List.foldlM_cons, List.foldlM_cons]
      exact toOption_bind_congr (itemAgrees first) fun next _ => ih restAgrees next

/-- A sequence that succeeds has one result for each item. -/
theorem forall₂_of_mapM {compute : α → Except ε β} {items : List α} {results : List β}
    (ended : items.mapM compute = .ok results) :
    List.Forall₂ (fun item result => compute item = .ok result) items results := by
  induction items generalizing results with
  | nil =>
      cases ended
      exact .nil
  | cons item items ih =>
      rw [List.mapM_cons] at ended
      obtain ⟨result, itemEnded, ended⟩ := bind_eq_ok ended
      obtain ⟨rest, restEnded, ended⟩ := bind_eq_ok ended
      cases ended
      exact .cons itemEnded (ih restEnded)

/-- What every step of a fold preserves holds at its end. -/
theorem holds_of_foldlM {step : β → α → Except ε β} {holds : β → Prop} {items : List α}
    (preserved : ∀ item ∈ items, ∀ before after, holds before → step before item = .ok after →
      holds after)
    {first last : β} (start : holds first) (ended : items.foldlM step first = .ok last) :
    holds last := by
  induction items generalizing first with
  | nil =>
      cases ended
      exact start
  | cons item items ih =>
      obtain ⟨itemPreserved, restPreserved⟩ := List.forall_mem_cons.mp preserved
      rw [List.foldlM_cons] at ended
      obtain ⟨next, stepped, ended⟩ := bind_eq_ok ended
      exact ih restPreserved (itemPreserved first next start stepped) ended

/-- What every step of a fold carries from the items behind it to one more item holds of all items
at its end. -/
theorem holds_of_foldlM_seen {step : β → α → Except ε β} (holds : List α → β → Prop)
    (carried : ∀ seen item before after, holds seen before → step before item = .ok after →
      holds (seen ++ [item]) after)
    {items : List α} {first last : β} (start : holds [] first)
    (ended : items.foldlM step first = .ok last) :
    holds items last := by
  have run : ∀ seen before, holds seen before → items.foldlM step before = .ok last →
      holds (seen ++ items) last := by
    clear start ended
    induction items with
    | nil =>
        intro seen before held ended
        cases ended
        rwa [List.append_nil]
    | cons item items ih =>
        intro seen before held ended
        rw [List.foldlM_cons] at ended
        obtain ⟨next, stepped, ended⟩ := bind_eq_ok ended
        rw [List.append_cons]
        exact ih _ next (carried seen item before next held stepped) ended
  exact run [] first start ended

section Related

variable {γ : Type} {related : α → γ → Prop} {step : β → α → Except ε β} {items : List α}

/-- Folds over related items end alike if their steps do. -/
theorem foldlM_congr_of_forall₂ {other : β → γ → Except ε β} {others : List γ}
    (pairs : List.Forall₂ related items others)
    (agree : ∀ item counterpart, related item counterpart → ∀ before,
      step before item = other before counterpart)
    (first : β) : items.foldlM step first = others.foldlM other first := by
  induction pairs generalizing first with
  | nil => rfl
  | cons pair _ ih =>
      rw [List.foldlM_cons, List.foldlM_cons, agree _ _ pair first]
      exact congrArg _ (funext ih)

/-- A fold that succeeds has a counterpart for every item, if its steps have. -/
theorem exists_forall₂_of_foldlM
    (counterparts : ∀ item before after, step before item = .ok after →
      ∃ counterpart, related item counterpart)
    {first last : β} (ended : items.foldlM step first = .ok last) :
    ∃ others, List.Forall₂ related items others := by
  induction items generalizing first with
  | nil => exact ⟨[], .nil⟩
  | cons item items ih =>
      rw [List.foldlM_cons] at ended
      obtain ⟨next, stepped, ended⟩ := bind_eq_ok ended
      obtain ⟨counterpart, pair⟩ := counterparts item first next stepped
      obtain ⟨others, pairs⟩ := ih ended
      exact ⟨counterpart :: others, .cons pair pairs⟩

/-- Every counterpart has its item. -/
theorem exists_item_of_forall₂ {others : List γ} (pairs : List.Forall₂ related items others)
    {counterpart : γ} (member : counterpart ∈ others) :
    ∃ item ∈ items, related item counterpart := by
  induction pairs with
  | nil => contradiction
  | cons pair _ ih =>
      rcases List.mem_cons.mp member with rfl | member
      · exact ⟨_, List.mem_cons_self, pair⟩
      · obtain ⟨item, itemMem, pair⟩ := ih member
        exact ⟨item, List.mem_cons_of_mem _ itemMem, pair⟩

end Related

end Except

/-! ## Journalled results -/

namespace Journalled

variable {ε α β γ : Type}

private theorem andThen_pure (first : Journalled ε α) : first.andThen pure = first := by
  obtain ⟨messages, outcome⟩ := first
  cases outcome with
  | error cause => rfl
  | ok value =>
      change (⟨messages ++ [], .ok value⟩ : Journalled ε α) = _
      rw [List.append_nil]

private theorem andThen_assoc (first : Journalled ε α) (second : α → Journalled ε β)
    (third : β → Journalled ε γ) :
    (first.andThen second).andThen third =
      first.andThen fun value => (second value).andThen third := by
  obtain ⟨messages, outcome⟩ := first
  cases outcome with
  | error cause => rfl
  | ok value =>
      cases ended : (second value).outcome with
      | error cause => simp only [andThen, ended]
      | ok next => simp only [andThen, ended, List.append_assoc]

instance : LawfulMonad (Journalled ε) :=
  LawfulMonad.mk' (Journalled ε) andThen_pure
    (fun value next => by
      change (⟨[] ++ (next value).messages, (next value).outcome⟩ : Journalled _ _) = next value
      rw [List.nil_append])
    andThen_assoc

@[simp]
theorem outcome_liftM (result : Except ε α) :
    (liftM result : Journalled ε α).outcome = result := rfl

/-- A sequence that ends with a value does so step by step. -/
theorem bind_eq_ok {first : Journalled ε α} {next : α → Journalled ε β} {value : β}
    (ended : (first >>= next).outcome = .ok value) :
    ∃ middle, first.outcome = .ok middle ∧ (next middle).outcome = .ok value := by
  rw [outcome_bind] at ended
  exact ApiTrace.bind_eq_ok ended

/-- A plain result as the first step. -/
theorem liftM_bind_eq_ok {result : Except ε α} {next : α → Journalled ε β} {value : β}
    (ended : (liftM result >>= next).outcome = .ok value) :
    ∃ middle, result = .ok middle ∧ (next middle).outcome = .ok value :=
  bind_eq_ok ended

theorem outcome_of_mapError {δ : Type} {convert : ε → δ} {computation : Journalled ε α} {value : α}
    (ended : (computation.mapError convert).outcome = .ok value) :
    computation.outcome = .ok value :=
  ok_of_mapError ended

theorem outcome_mapM (compute : α → Journalled ε β) (items : List α) :
    (items.mapM compute).outcome = items.mapM fun item => (compute item).outcome := by
  induction items with
  | nil => rfl
  | cons item items ih =>
      rw [List.mapM_cons, List.mapM_cons, outcome_bind]
      congr 1
      funext result
      rw [outcome_bind, ih]
      rfl

theorem outcome_foldlM (step : β → α → Journalled ε β) (items : List α) (first : β) :
    (items.foldlM step first).outcome =
      items.foldlM (fun result item => (step result item).outcome) first := by
  induction items generalizing first with
  | nil => rfl
  | cons item items ih =>
      rw [List.foldlM_cons, List.foldlM_cons, outcome_bind]
      congr 1
      funext result
      exact ih result

theorem forall₂_of_outcome_mapM {compute : α → Journalled ε β} {items : List α} {results : List β}
    (ended : (items.mapM compute).outcome = .ok results) :
    List.Forall₂ (fun item result => (compute item).outcome = .ok result) items results := by
  rw [outcome_mapM] at ended
  exact forall₂_of_mapM ended

end Journalled

end ApiTrace
