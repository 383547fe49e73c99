import ApiTrace.Proofs.Identity.Names

/-!
# Where numbers and names come from

The number of a record is shipped, fresh or declared. Its name is shipped, new, or raised to a
version above all that its function had.
-/

namespace ApiTrace

/-- Where the number of a deed comes from. -/
inductive Numbered (entries : List Entry) (map : IdMap) (deed : Deed) : Prop
  | shipped {pair : String × Nat} (member : pair ∈ map.entries)
      (disposes : deed.move.shipped? = some pair) (numberEq : deed.record.number = pair.2)
      (unclaimed : claimant? entries pair.2 (VersionedName.ofName pair.1).base = none)
  | fresh (mints : deed.move.mints) (unshipped : deed.record.number ∉ map.entries.map Prod.snd)
      (undeclared : ∀ entry ∈ entries, entry.declared ≠ some deed.record.number)
  | declared (gives : deed.move.declared? = some deed.record.number)
      (declares : ⟨deed.record.function, some deed.record.number⟩ ∈ entries)
      (foreign : ∀ prior ∈ map.versionsOf deed.record.function, prior.number ≠ deed.record.number)

/-- Where the name of a deed comes from. -/
inductive Titled (map : IdMap) (deed : Deed) : Prop
  | shipped {pair : String × Nat} (member : pair ∈ map.entries)
      (disposes : deed.move.shipped? = some pair) (numberEq : deed.record.number = pair.2)
      (versionedEq : deed.record.versioned = VersionedName.ofName pair.1)
  | introduced (introduces : deed.move.introduced? = some deed.record.function)
      (untagged : deed.record.version = none) (unshipped : map.versionsOf deed.record.function = [])
  | raised (bumps : deed.move.bumped? = some deed.record.function)
      (tagged : deed.record.version = some deed.record.rank)
      (above : map.highestVersion deed.record.function < deed.record.rank)

namespace Executed

variable {category : Category} {entries : List Entry} {map : IdMap} {deeds : List Deed}

theorem numbered (executed : Executed category entries map deeds) {deed : Deed}
    (member : deed ∈ deeds) : Numbered entries map deed := by
  have minted : deed.move.mints → Numbered entries map deed := by
    intro mints
    have untaken := ((executed.yields deed member).fresh mints).untaken
    rw [mem_taken_spaceOf_iff] at untaken
    push Not at untaken
    exact .fresh mints untaken.1 untaken.2
  cases executed.justified member with
  | adopt declares unshipped =>
      apply Numbered.declared rfl declares
      intro prior priorMem
      rw [unshipped] at priorMem
      contradiction
  | mint | evict => exact minted rfl
  | keep shipped unclaimed _ =>
      obtain ⟨pairMem, read⟩ := IdMap.mem_versionsOf_iff.mp shipped
      apply Numbered.shipped pairMem rfl rfl
      rw [read]
      exact unclaimed
  | reversion declares continues changes _ =>
      apply Numbered.declared rfl declares
      intro other otherMem same
      dsimp only at same
      subst same
      rw [IdMap.prior?_eq_some_of_number_eq otherMem] at continues
      cases continues
      exact changes rfl

theorem titled (executed : Executed category entries map deeds) {deed : Deed}
    (member : deed ∈ deeds) : Titled map deed := by
  cases executed.justified member with
  | adopt _ unshipped => exact .introduced rfl rfl unshipped
  | mint _ unshipped _ => exact .introduced rfl rfl unshipped
  | keep shipped _ _ =>
      obtain ⟨pairMem, read⟩ := IdMap.mem_versionsOf_iff.mp shipped
      exact .shipped pairMem rfl rfl read.symm
  | evict _ _ _ _ raised => exact .raised rfl rfl raised.highest_lt
  | reversion _ _ _ raised => exact .raised rfl rfl raised.highest_lt

/-- A shipped pair whose number no other function declares is kept. -/
theorem exists_deed_of_unclaimed (executed : Executed category entries map deeds) {name : String}
    {number : Nat} (shipped : (name, number) ∈ map.entries)
    (unclaimed : ∀ entry ∈ entries, entry.declared = some number →
      entry.name = (VersionedName.ofName name).base) :
    ∃ deed ∈ deeds, deed.record.versioned = VersionedName.ofName name ∧
      deed.record.number = number := by
  have nobody := executed.valid.claimant?_eq_none_iff.mpr unclaimed
  obtain ⟨origin, member⟩ :=
    executed.exists_keep_of_unclaimed (IdMap.mem_versionsOf_of_mem shipped) nobody
  exact ⟨_, member, rfl, rfl⟩

/-- No function falls behind a version that it had. -/
theorem exists_deed_of_version (executed : Executed category entries map deeds) {base : String}
    {prior : Prior} (version : prior ∈ map.versionsOf base) :
    ∃ deed ∈ deeds, deed.record.function = base ∧ prior.rank ≤ deed.record.rank := by
  cases claims : claimant? entries prior.number base with
  | none =>
      obtain ⟨origin, member⟩ := executed.exists_keep_of_unclaimed version claims
      exact ⟨_, member, rfl, Nat.le_refl _⟩
  | some claimant =>
      obtain ⟨origin, fresh, raised, member, _, isRaised⟩ :=
        executed.exists_evict_of_claimed version claims
      have atMost := IdMap.rank_le_highestVersion version
      exact ⟨_, member, rfl, Nat.le_of_lt (Nat.lt_of_le_of_lt atMost isRaised.highest_lt)⟩

/-- If all shipped and all declared numbers have 32 bits, then so has every number of a run. -/
theorem number_le_maxWord (executed : Executed category entries map deeds)
    (shipped : ∀ pair ∈ map.entries, pair.2 ≤ Text.maxWord)
    (declared : ∀ entry ∈ entries, ∀ number ∈ entry.declared, number ≤ Text.maxWord) {deed : Deed}
    (member : deed ∈ deeds) : deed.record.number ≤ Text.maxWord := by
  cases executed.numbered member with
  | shipped pairMem _ numberEq _ => exact numberEq ▸ shipped _ pairMem
  | fresh mints _ _ => exact ((executed.yields deed member).fresh mints).le_maxWord
  | declared _ declares _ => exact declared _ declares _ rfl

end Executed

end ApiTrace
