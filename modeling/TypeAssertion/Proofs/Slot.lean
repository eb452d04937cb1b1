import TypeAssertion.Proofs.Check
import TypeAssertion.Slot

/-!
Slots over whole runs. A slot lets null in before it looks at its descriptor, and so accepts what
the nullable form of the descriptor accepts. A run makes a slot and then writes to it and takes from
it, each time under a setting of the switch of its own; what the slot holds is null or told by the
last write that was accepted.
-/

set_option autoImplicit false

namespace TypeAssertion

theorem conforms_nullable (switch : Bool) (value : Value) (descriptor : Descriptor) :
    conforms switch value (.nullable descriptor) =
      (value.isNull || conforms switch value descriptor) := by
  rw [conforms_eq, conforms_eq, Descriptor.accepts]
  cases switch <;> simp

theorem Value.isNull_iff (value : Value) : value.isNull = true ↔ value = .null := by
  cases value <;> simp [isNull]

namespace Slot

/-- Tries a write: what comes of it, and the slot after it. A refused write leaves the slot. -/
def attempt (slot : Slot) (switch : Bool) (value : Value) : Except TypeFailure Unit × Slot :=
  match slot.write switch value with
  | .ok written => (.ok (), written)
  | .error failure => (.error failure, slot)

/-- An accepted write: the setting of the switch and the value. -/
structure Write where
  enforced : Bool
  value : Value

/-- The slots of a descriptor that a run reaches, each with the writes that were accepted so far.
The switch may have any setting at each of them. -/
inductive Reached (descriptor : Descriptor) : List Write → Slot → Prop
  | vacant {enforced : Bool} {slot : Slot} :
      make enforced descriptor none = .ok slot → Reached descriptor [] slot
  | filled {enforced : Bool} {value : Value} {slot : Slot} :
      make enforced descriptor (some value) = .ok slot →
      Reached descriptor [⟨enforced, value⟩] slot
  | accepted {history : List Write} {slot : Slot} {enforced : Bool} {value : Value} :
      Reached descriptor history slot → (slot.attempt enforced value).1 = .ok () →
      Reached descriptor (history ++ [⟨enforced, value⟩]) (slot.attempt enforced value).2
  | refused {history : List Write} {slot : Slot} {enforced : Bool} {value : Value}
      {failure : TypeFailure} :
      Reached descriptor history slot → (slot.attempt enforced value).1 = .error failure →
      Reached descriptor history (slot.attempt enforced value).2
  | taken {history : List Write} {slot : Slot} :
      Reached descriptor history slot → Reached descriptor history slot.take.2

/-! ### One write -/

/-- A write is accepted when the value conforms to the nullable form of the descriptor. A failure
names the descriptor without the layer. -/
theorem write_eq (switch : Bool) (slot : Slot) (value : Value) :
    slot.write switch value =
      if conforms switch value slot.asDescriptor then .ok { slot with value := value }
      else .error (.ofMismatch value slot.descriptor) := by
  rw [write, asDescriptor, conforms_nullable, ensure_eq]
  cases value.isNull with
  | true => simp
  | false => cases conforms switch value slot.descriptor <;> simp [Except.map]

theorem write_eq_ok_iff {switch : Bool} {slot written : Slot} {value : Value} :
    slot.write switch value = .ok written ↔
      ensure switch value slot.asDescriptor = .ok () ∧ written = ⟨slot.descriptor, value⟩ := by
  rw [write_eq, ensure_eq_ok_iff]
  cases conforms switch value slot.asDescriptor <;> simp [eq_comm]

theorem eq_ofMismatch_of_write_eq_error {switch : Bool} {slot : Slot} {value : Value}
    {failure : TypeFailure} (refused : slot.write switch value = .error failure) :
    failure = .ofMismatch value slot.descriptor := by
  rw [write_eq] at refused
  cases fits : conforms switch value slot.asDescriptor with
  | true => simp [fits] at refused
  | false =>
    rw [fits] at refused
    exact (Except.error.inj refused).symm

theorem attempt_eq_ok_iff {slot : Slot} {switch : Bool} {value : Value} :
    (slot.attempt switch value).1 = .ok () ↔ ensure switch value slot.asDescriptor = .ok () := by
  rw [attempt, write_eq, ensure_eq_ok_iff]
  cases conforms switch value slot.asDescriptor <;> simp

theorem attempt_of_ok {slot : Slot} {switch : Bool} {value : Value}
    (accepted : (slot.attempt switch value).1 = .ok ()) :
    (slot.attempt switch value).2 = ⟨slot.descriptor, value⟩ := by
  have ensured := attempt_eq_ok_iff.1 accepted
  rw [attempt, write_eq_ok_iff.2 ⟨ensured, rfl⟩]

/-- A refused write changes nothing, and its failure names the descriptor without the layer. -/
theorem attempt_of_error {slot : Slot} {switch : Bool} {value : Value} {failure : TypeFailure}
    (refused : (slot.attempt switch value).1 = .error failure) :
    (slot.attempt switch value).2 = slot ∧ failure = .ofMismatch value slot.descriptor := by
  rw [attempt] at refused ⊢
  cases written : slot.write switch value with
  | ok written' => simp [written] at refused
  | error cause =>
    rw [written] at refused
    obtain rfl := Except.error.inj refused
    exact ⟨rfl, eq_ofMismatch_of_write_eq_error written⟩

/-! ### Runs -/

/-- The invariant: a slot has its descriptor, and holds null or what was written last, which
conformed to the nullable form of the descriptor if it was checked. -/
structure Explained (descriptor : Descriptor) (history : List Write) (slot : Slot) : Prop where
  descriptor_eq : slot.descriptor = descriptor
  told : slot.value = .null ∨ ∃ write, history.getLast? = some write ∧ slot.value = write.value ∧
    (write.enforced = true → conforms true slot.value (.nullable descriptor) = true)

theorem explained_vacant (descriptor : Descriptor) : Explained descriptor [] (vacant descriptor) :=
  ⟨rfl, .inl rfl⟩

/-- An accepted write keeps the invariant, whatever the slot held before. -/
theorem Explained.write {descriptor : Descriptor} {history : List Write} {slot : Slot}
    {enforced : Bool} {value : Value} (explained : Explained descriptor history slot)
    (fits : conforms enforced value slot.asDescriptor = true) :
    Explained descriptor (history ++ [⟨enforced, value⟩]) { slot with value := value } := by
  refine ⟨explained.descriptor_eq, .inr ⟨⟨enforced, value⟩, List.getLast?_concat, rfl, ?_⟩⟩
  intro on
  obtain rfl : enforced = true := on
  rw [asDescriptor, explained.descriptor_eq] at fits
  exact fits

theorem explained_of_reached {descriptor : Descriptor} {history : List Write} {slot : Slot}
    (reached : Reached descriptor history slot) : Explained descriptor history slot := by
  induction reached with
  | vacant made =>
    obtain rfl := Except.ok.inj made
    exact explained_vacant descriptor
  | filled made =>
    obtain ⟨ensured, rfl⟩ := write_eq_ok_iff.1 made
    exact (explained_vacant descriptor).write (ensure_eq_ok_iff.1 ensured)
  | accepted _ accepted ih =>
    rw [attempt_of_ok accepted]
    exact ih.write (ensure_eq_ok_iff.1 (attempt_eq_ok_iff.1 accepted))
  | refused _ refused ih =>
    rw [(attempt_of_error refused).1]
    exact ih
  | taken _ ih => exact ⟨ih.descriptor_eq, .inl rfl⟩

/-- A slot of a descriptor agrees with the nullable form of it. It is made with a value, and a value
is written to it, exactly when a strict check of that form succeeds under the same setting; a
failure names the descriptor itself, and a refused write changes nothing. What is written is held
until it is taken, which leaves null. At every moment the slot holds null, or what conforms to the
descriptor, or what was written last while enforcement was off. -/
theorem slot_agrees_with_nullable_descriptor (descriptor : Descriptor) :
    (∀ switch, make switch descriptor none = .ok ⟨descriptor, .null⟩) ∧
    (∀ switch value,
      let made := make switch descriptor (some value)
      (∀ slot, made = .ok slot ↔
        ensure switch value (.nullable descriptor) = .ok () ∧ slot = ⟨descriptor, value⟩) ∧
      ∀ failure, made = .error failure → failure = .ofMismatch value descriptor) ∧
    ∀ history slot, Reached descriptor history slot →
      slot.asDescriptor = .nullable descriptor ∧
      (∀ switch value,
        let tried := slot.attempt switch value
        (tried.1 = .ok () ↔ ensure switch value slot.asDescriptor = .ok ()) ∧
        (tried.1 = .ok () → tried.2 = ⟨descriptor, value⟩) ∧
        ∀ failure, tried.1 = .error failure →
          tried.2 = slot ∧ failure = .ofMismatch value descriptor) ∧
      slot.take = (slot.value, ⟨descriptor, .null⟩) ∧
      (slot.value = .null ∨ conforms true slot.value descriptor = true ∨
        history.getLast? = some ⟨false, slot.value⟩) ∧
      ((∀ write ∈ history, write.enforced = true) →
        conforms true slot.value slot.asDescriptor = true) := by
  refine ⟨fun _ => rfl, ?_, ?_⟩
  · intro switch value made
    -- A slot that is made with a value is a vacant one to which the value is written.
    exact ⟨fun slot => write_eq_ok_iff, fun failure => eq_ofMismatch_of_write_eq_error⟩
  · intro history slot reached
    obtain ⟨rfl, told⟩ := explained_of_reached reached
    refine ⟨rfl, ?_, rfl, ?_, ?_⟩
    · intro switch value tried
      exact ⟨attempt_eq_ok_iff, attempt_of_ok, fun failure => attempt_of_error⟩
    · rcases told with vacant | ⟨⟨enforced, value⟩, last, rfl, checked⟩
      · exact .inl vacant
      · cases enforced with
        | false => exact .inr (.inr last)
        | true =>
          have fits := checked rfl
          rw [conforms_nullable, Bool.or_eq_true, Value.isNull_iff] at fits
          exact fits.imp_right .inl
    · intro enforced
      rcases told with vacant | ⟨write, last, -, checked⟩
      · rw [vacant, asDescriptor, conforms_nullable]
        rfl
      · exact checked (enforced write (List.mem_of_getLast? last))

/-- A slot for texts that is filled while enforcement is off, refuses a number and lets go of what
it holds. -/
theorem slot_holds_what_was_written_unchecked :
    let slot : Slot := ⟨.string, .bool true⟩
    Reached .string [⟨false, .bool true⟩] slot ∧
    (slot.attempt true (.boxedNumber .zero)).1 =
      .error (.ofMismatch (.boxedNumber .zero) .string) ∧
    (slot.attempt true (.boxedNumber .zero)).2.take = (.bool true, vacant .string) ∧
    conforms true slot.value .string = false := by
  intro slot
  obtain ⟨-, made, moments⟩ := slot_agrees_with_nullable_descriptor .string
  have filled : make false .string (some (.bool true)) = .ok slot :=
    ((made false (.bool true)).1 slot).2 ⟨rfl, rfl⟩
  have reached : Reached .string [⟨false, .bool true⟩] slot := .filled filled
  obtain ⟨-, tried, taken, -, -⟩ := moments _ slot reached
  have refused : (slot.attempt true (.boxedNumber .zero)).1 =
      .error (.ofMismatch (.boxedNumber .zero) .string) := rfl
  obtain ⟨kept, -⟩ := (tried true (.boxedNumber .zero)).2.2 _ refused
  refine ⟨reached, refused, ?_, rfl⟩
  rw [kept]
  exact taken

end Slot

end TypeAssertion
