import ApiTrace.Run.Operation

/-!
# Running operations

What an operation does apart from its messages: the workspace that it leaves and how it ends.
Sequencing goes on with the value on that workspace, or stops there with the error.
-/

namespace ApiTrace

namespace Operation

variable {α β γ : Type}

/-- The workspace that an operation leaves, and how it ends. -/
def run (operation : Operation α) (workspace : Workspace) : Workspace × Except RunError α :=
  ((operation workspace).1, (operation workspace).2.outcome)

@[simp]
theorem run_pure (value : α) (workspace : Workspace) :
    (pure value : Operation α).run workspace = (workspace, .ok value) := rfl

@[simp]
theorem run_reading (read : Workspace → Journalled RunError α) (workspace : Workspace) :
    (reading read).run workspace = (workspace, (read workspace).outcome) := rfl

@[simp]
theorem run_changing (change : Workspace → Workspace × Except AccessError α)
    (workspace : Workspace) :
    (changing change).run workspace =
      ((change workspace).1, (change workspace).2.mapError RunError.access) := rfl

@[simp]
theorem run_write (level : Level) (text : String) (workspace : Workspace) :
    (write level text).run workspace = (workspace, .ok ()) := rfl

@[simp]
theorem run_writeAll (level : Level) (texts : List String) (workspace : Workspace) :
    (writeAll level texts).run workspace = (workspace, .ok ()) := rfl

theorem run_bind (first : Operation α) (next : α → Operation β) (workspace : Workspace) :
    (first >>= next).run workspace =
      match first.run workspace with
      | (between, .error cause) => (between, .error cause)
      | (between, .ok value) => (next value).run between := by
  change (andThen first next).run workspace = _
  unfold run andThen
  cases ended : (first workspace).2.outcome with
  | error cause => simp only [ended]
  | ok value => simp only [ended]

theorem run_bind_of_ok {first : Operation α} {workspace between : Workspace} {value : α}
    (ended : first.run workspace = (between, .ok value)) (next : α → Operation β) :
    (first >>= next).run workspace = (next value).run between := by
  rw [run_bind, ended]

/-- An operation ends in a value if both of its parts do. -/
theorem run_bind_eq_ok_iff {first : Operation α} {next : α → Operation β}
    {workspace after : Workspace} {result : β} :
    (first >>= next).run workspace = (after, .ok result) ↔
      ∃ between value, first.run workspace = (between, .ok value) ∧
        (next value).run between = (after, .ok result) := by
  rw [run_bind]
  constructor
  · intro ended
    split at ended
    · simp at ended
    · exact ⟨_, _, ‹_›, ended⟩
  · rintro ⟨between, value, ended, rest⟩
    rw [ended]
    exact rest

section Changing

variable {change : Workspace → Workspace × Except AccessError α} {workspace after : Workspace}

theorem run_changing_of_ok {value : α} (changed : change workspace = (after, .ok value)) :
    (changing change).run workspace = (after, .ok value) := by
  rw [run_changing, changed]
  rfl

theorem run_changing_of_error {error : AccessError}
    (changed : change workspace = (after, .error error)) :
    (changing change).run workspace = (after, .error (.access error)) := by
  rw [run_changing, changed]
  rfl

/-- A change that ends in a value is the change of the workspace. -/
theorem run_changing_eq_ok_iff {value : α} :
    (changing change).run workspace = (after, .ok value) ↔
      change workspace = (after, .ok value) := by
  cases changed : change workspace with
  | mk reached outcome =>
      cases outcome with
      | error error => simp [run_changing_of_error changed]
      | ok result => simp [run_changing_of_ok changed]

end Changing

private theorem andThen_pure (first : Operation α) : first.andThen pure = first := by
  funext workspace
  unfold andThen
  rcases first workspace with ⟨after, messages, outcome⟩
  cases outcome with
  | error cause => rfl
  | ok value =>
      change (after, (⟨messages ++ [], .ok value⟩ : Journalled RunError α)) = _
      rw [List.append_nil]

private theorem andThen_assoc (first : Operation α) (second : α → Operation β)
    (third : β → Operation γ) :
    (first.andThen second).andThen third =
      first.andThen fun value => (second value).andThen third := by
  funext workspace
  unfold andThen
  cases ended : (first workspace).2.outcome with
  | error cause => simp only [ended]
  | ok value =>
      simp only [ended]
      cases (second value (first workspace).1).2.outcome with
      | error cause => rfl
      | ok next => simp only [List.append_assoc]

instance : LawfulMonad Operation :=
  LawfulMonad.mk' Operation andThen_pure (fun _ _ => rfl) andThen_assoc

end Operation

end ApiTrace
