/-!
# Computations that keep a journal

A journalled computation ends in a value or an error and has the messages that it wrote on the way,
also when it fails. `outcome` forgets the messages and respects sequencing, so statements about
values never mention them.
-/

namespace ApiTrace

/-- The weight of a journal message. -/
inductive Level where
  | debug
  | info
  | warning
  | error
  deriving DecidableEq, Repr

/-- One message of the journal. -/
structure Message where
  level : Level
  text : String
  deriving DecidableEq, Repr

/-- The result of a computation with the messages it wrote. -/
structure Journalled (ε α : Type) where
  /-- Messages in the order in which they were written. -/
  messages : List Message
  /-- How the computation ended. -/
  outcome : Except ε α

namespace Journalled

variable {ε α β : Type}

/-- Continue with the value of a computation; the messages of both parts are kept. -/
def andThen (first : Journalled ε α) (next : α → Journalled ε β) : Journalled ε β :=
  match first.outcome with
  | .error cause => ⟨first.messages, .error cause⟩
  | .ok value =>
    let rest := next value
    ⟨first.messages ++ rest.messages, rest.outcome⟩

instance : Monad (Journalled ε) where
  pure value := ⟨[], .ok value⟩
  bind := andThen

/-- End with an error. -/
def fail (cause : ε) : Journalled ε α := ⟨[], .error cause⟩

/-- A result without messages. -/
def ofExcept (result : Except ε α) : Journalled ε α := ⟨[], result⟩

/-- Write one message. -/
def write (level : Level) (text : String) : Journalled ε Unit := ⟨[⟨level, text⟩], .ok ()⟩

/-- Write several messages. -/
def writeAll (messages : List Message) : Journalled ε Unit := ⟨messages, .ok ()⟩

/-- Convert the error. -/
def mapError {δ : Type} (convert : ε → δ) (computation : Journalled ε α) : Journalled δ α :=
  ⟨computation.messages, computation.outcome.mapError convert⟩

instance : MonadLift (Except ε) (Journalled ε) := ⟨ofExcept⟩

@[simp]
theorem outcome_pure (value : α) : (pure value : Journalled ε α).outcome = .ok value := rfl

@[simp]
theorem outcome_bind (first : Journalled ε α) (next : α → Journalled ε β) :
    (first >>= next).outcome = first.outcome >>= fun value => (next value).outcome := by
  change (andThen first next).outcome = _
  unfold andThen
  split <;> rename_i ended <;> simp only [ended] <;> rfl

@[simp]
theorem outcome_fail (cause : ε) : (fail cause : Journalled ε α).outcome = .error cause := rfl

@[simp]
theorem outcome_ofExcept (result : Except ε α) : (ofExcept result).outcome = result := rfl

@[simp]
theorem outcome_write (level : Level) (text : String) :
    (write level text : Journalled ε Unit).outcome = .ok () := rfl

end Journalled

end ApiTrace
