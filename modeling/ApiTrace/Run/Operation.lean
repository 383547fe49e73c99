import ApiTrace.Journal
import ApiTrace.Run.Error
import ApiTrace.Workspace.Access

/-!
# Operations on a workspace

An operation reads and changes a workspace, keeps a journal, and ends in a value or an error. What
it changed before an error stays. Operations made with `reading` change nothing.
-/

namespace ApiTrace

/-- A computation on a workspace that keeps a journal. -/
def Operation (α : Type) : Type :=
  Workspace → Workspace × Journalled RunError α

namespace Operation

variable {α β : Type}

/-- Continue with the value of an operation, on the workspace that it left. -/
def andThen (first : Operation α) (next : α → Operation β) : Operation β := fun workspace =>
  let (between, result) := first workspace
  match result.outcome with
  | .error cause => (between, ⟨result.messages, .error cause⟩)
  | .ok value =>
    let (after, rest) := next value between
    (after, ⟨result.messages ++ rest.messages, rest.outcome⟩)

instance : Monad Operation where
  pure value := fun workspace => (workspace, pure value)
  bind := andThen

/-- An operation that only looks at the workspace. -/
def reading (read : Workspace → Journalled RunError α) : Operation α := fun workspace =>
  (workspace, read workspace)

/-- An operation that changes the workspace and writes no message. -/
def changing (change : Workspace → Workspace × Except AccessError α) : Operation α :=
  fun workspace =>
    let (after, result) := change workspace
    (after, .ofExcept (result.mapError RunError.access))

/-- Write one message. -/
def write (level : Level) (text : String) : Operation Unit := fun workspace =>
  (workspace, .write level text)

/-- Write several messages of one level. -/
def writeAll (level : Level) (texts : List String) : Operation Unit := fun workspace =>
  (workspace, .writeAll (texts.map (Message.mk level)))

end Operation

end ApiTrace
