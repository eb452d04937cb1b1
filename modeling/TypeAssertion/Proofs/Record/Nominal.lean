import Mathlib.Data.List.TFAE
import TypeAssertion.Proofs.Record.History
import TypeAssertion.Proofs.Workshop.Sound

/-!
Record types are told by their making. A record type has a class of its own directly under the class
of all records, so whether a record belongs to a type, whether two types are the same, whether their
descriptors are equal and whether the value of a record conforms to the descriptor of a type is one
question: whether both types stem from one making.
-/

set_option autoImplicit false

namespace TypeAssertion

/-- A class directly under the class of all records inherits from itself and from that one. -/
theorem Class.inheritsFrom_iff_of_parent?_eq {cls : Class} (based : cls.parent? = some Class.record)
    (ancestor : Class) :
    cls.inheritsFrom ancestor = true ↔ ancestor.id = cls.id ∨ ancestor.id = Class.record.id := by
  cases cls with
  | root id name => simp [parent?] at based
  | extend parent id name =>
    obtain rfl := Option.some.inj based
    change (id == ancestor.id || Class.record.id == ancestor.id) = true ↔ _
    rw [Bool.or_eq_true, beq_iff_eq, beq_iff_eq]
    exact or_congr eq_comm eq_comm

theorem Record.conforms_toValue (record : Record) (cls : Class) :
    conforms true record.toValue (.instanceOf cls) = record.type.cls.inheritsFrom cls := by
  rw [conforms_on]
  rfl

namespace Workshop

variable {workshop : Workshop}

/-- The numbers of classes tell the makings of record types apart. -/
theorem Sound.making_eq_iff (sound : workshop.Sound) {first second : Made RecordType}
    (hf : first ∈ workshop.types) (hs : second ∈ workshop.types) :
    first.making = second.making ↔ second.item.cls.id = first.item.cls.id := by
  constructor
  · intro same
    rw [sound.types.item_eq first hf second hs same]
  · intro same
    exact sound.types.making_eq first hf second hs first.item.cls.id rfl (congrArg some same)

/-- No class of a record type is the class of all records. -/
theorem Sound.cls_id_ne_record (sound : workshop.Sound) {made : Made RecordType}
    (member : made ∈ workshop.types) : made.item.cls.id ≠ Class.record.id := by
  intro same
  have equal := sound.reached.class_eq (sound.owned made member) sound.reached.record_mem same
  have based := sound.based made member
  rw [equal] at based
  simp [Class.record, Class.parent?] at based

/-- In every run, the four ways to ask whether a record is of a type have one answer: whether the
type of the record and the other one stem from one making. The value of a record conforms to the
descriptors of two classes, that of its type and that of all records. What is made later changes
none of this, for it leaves the types and classes in their places. -/
theorem record_types_are_nominal (deeds later : List Deed) :
    let workshop := opened.after deeds
    let future := workshop.after later
    workshop.classes.Nodup ∧
    (∀ (i j : Nat) (first second : Made RecordType),
      workshop.types[i]? = some first → workshop.types[j]? = some second →
      future.types[i]? = some first ∧ future.types[j]? = some second ∧
      ∀ history record, Record.Reached first.item history record →
        [record.isOf second.item = true,
          first.item.same second.item = true,
          first.item.descriptor.equals second.item.descriptor = true,
          conforms true record.toValue second.item.descriptor = true,
          first.making = second.making].TFAE) ∧
    (∀ (i k : Nat) (made : Made RecordType) (cls : Class),
      workshop.types[i]? = some made → workshop.classes[k]? = some cls →
      future.types[i]? = some made ∧ future.classes[k]? = some cls ∧
      ∀ history record, Record.Reached made.item history record →
        (conforms true record.toValue (.instanceOf cls) = true ↔
          cls = made.item.cls ∨ cls = Class.record)) := by
  intro workshop future
  have sound : workshop.Sound := sound_opened.after deeds
  have grows : workshop.Grows future := .after workshop later
  refine ⟨sound.nodup_classes, ?_, ?_⟩
  · intro i j first second hi hj
    refine ⟨grows.types_getElem? hi, grows.types_getElem? hj, fun history record reached => ?_⟩
    have known := List.mem_of_getElem? hi
    have known' := List.mem_of_getElem? hj
    have typed : record.type = first.item := (Record.explained_of_reached reached).type_eq
    have numbered := sound.making_eq_iff known known'
    have same : first.item.cls.same second.item.cls = true ↔ first.making = second.making := by
      rw [numbered, Class.same, beq_iff_eq, eq_comm]
    refine List.tfae_of_forall (first.making = second.making) _ ?_
    simp only [List.forall_mem_cons, List.not_mem_nil, false_implies, implies_true, and_true]
    refine ⟨?_, same, same, ?_⟩
    · rw [Record.isOf, typed]
      exact same
    · rw [RecordType.descriptor, Record.conforms_toValue, typed,
        Class.inheritsFrom_iff_of_parent?_eq (sound.based first known), numbered]
      exact or_iff_left (sound.cls_id_ne_record known')
  · intro i k made cls hi hk
    refine ⟨grows.types_getElem? hi, grows.classes_getElem? hk, fun history record reached => ?_⟩
    have known := List.mem_of_getElem? hi
    have kept : cls ∈ workshop.handles.classes := List.mem_reverse.1 (List.mem_of_getElem? hk)
    have typed : record.type = made.item := (Record.explained_of_reached reached).type_eq
    rw [Record.conforms_toValue, typed,
      Class.inheritsFrom_iff_of_parent?_eq (sound.based made known)]
    refine or_congr ⟨?_, congrArg Class.id⟩ ⟨?_, congrArg Class.id⟩
    · exact sound.reached.class_eq kept (sound.owned made known)
    · exact sound.reached.class_eq kept sound.reached.record_mem

/-- Two types of one name and one specification, and a copy of the first: a record is of the first
type and of its copy, and not of the second. -/
theorem points_are_of_their_own_type :
    let point : RecordSpec := ⟨[("x", .number)], by decide⟩
    let workshop := opened.after [.makeType "Point" point, .makeType "Point" point, .copyType 0]
    ∃ first second copy : Made RecordType,
      workshop.types[0]? = some first ∧ workshop.types[1]? = some second ∧
      workshop.types[2]? = some copy ∧
      (Record.blank first.item).isOf copy.item = true ∧
      first.item.same second.item = false ∧
      conforms true (Record.blank first.item).toValue (.instanceOf Class.record) = true := by
  intro point workshop
  let first : Made RecordType := ⟨0, ⟨.extend Class.record 1 "Point", point⟩⟩
  let second : Made RecordType := ⟨1, ⟨.extend Class.record 2 "Point", point⟩⟩
  have reached : Record.Reached first.item [] (Record.blank first.item) :=
    @Record.Reached.built _ true (.object []) _ rfl
  obtain ⟨-, alike, based⟩ := record_types_are_nominal
    [.makeType "Point" point, .makeType "Point" point, .copyType 0] []
  have copied := (alike 0 2 first first rfl rfl).2.2 [] _ reached
  have other := (alike 0 1 first second rfl rfl).2.2 [] _ reached
  refine ⟨first, second, first, rfl, rfl, rfl, (copied.out 0 4).2 rfl, ?_, ?_⟩
  · exact Bool.eq_false_iff.2 (mt (other.out 1 4).1 Nat.zero_ne_one)
  · exact ((based 0 0 first Class.record rfl rfl).2.2 [] _ reached).2 (.inr rfl)

end Workshop

end TypeAssertion
