import TypeAssertion.Proofs.Workshop.Sound
import TypeAssertion.Shield

/-!
Equal descriptors stand in for each other. Equality looks at the number of a custom descriptor and
at the class of a class descriptor, never at names or tests. In a run these tell which descriptor it
is, with its name and its test, so equal descriptors have all in common. Which descriptors are equal
is thus a question of how they came to be.
-/

set_option autoImplicit false

namespace TypeAssertion

namespace Descriptor

theorem equals_self (descriptor : Descriptor) : descriptor.equals descriptor = true := by
  induction descriptor with
  | primitive kind => exact beq_self_eq_true kind
  | absent => rfl
  | nullable inner ih => exact ih
  | custom id name test => exact beq_self_eq_true id
  | instanceOf cls => exact beq_self_eq_true cls.id

/-- In a run, equal descriptors are one and the same, names and tests included. -/
theorem BuiltOf.eq_of_equals {registry : Registry} {handles : Handles}
    (reached : registry.Reached handles) {first second : Descriptor}
    (hf : first.BuiltOf handles) (hs : second.BuiltOf handles)
    (equal : first.equals second = true) : first = second := by
  induction hf generalizing second with
  | primitive =>
    cases hs with
    | primitive => rw [eq_of_beq equal]
    | _ => simp [equals] at equal
  | absent =>
    cases hs with
    | absent => rfl
    | _ => simp [equals] at equal
  | nullable _ ih =>
    cases hs with
    | nullable inner => rw [ih inner equal]
    | _ => simp [equals] at equal
  | custom made =>
    cases hs with
    | custom made' => exact reached.custom_eq made made' (congrArg some (eq_of_beq equal))
    | _ => simp [equals] at equal
  | instanceOf made =>
    cases hs with
    | instanceOf made' => rw [reached.class_eq made made' (eq_of_beq equal)]
    | _ => simp [equals] at equal

theorem BuiltOf.equals_iff_eq {registry : Registry} {handles : Handles}
    (reached : registry.Reached handles) {first second : Descriptor}
    (hf : first.BuiltOf handles) (hs : second.BuiltOf handles) :
    first.equals second = true ↔ first = second := by
  refine ⟨hf.eq_of_equals reached hs, ?_⟩
  rintro rfl
  exact equals_self first

theorem eq_instanceOf_of_class? {descriptor : Descriptor} {cls : Class}
    (h : descriptor.class? = some cls) : descriptor = .instanceOf cls := by
  cases descriptor with
  | instanceOf own => rw [Option.some.inj h]
  | _ => simp [class?] at h

theorem class?_of_customId? {descriptor : Descriptor} {number : Nat}
    (h : descriptor.customId? = some number) : descriptor.class? = none := by
  cases descriptor with
  | custom id name test => rfl
  | _ => simp [customId?] at h

/-- What two descriptors have in common when nothing tells one from the other: the verdicts, with
the failures, what is shown, and whatever is done with a shield or a record type that has the one or
the other in some place. -/
structure Interchangeable (first second : Descriptor) : Prop where
  check : ∀ (mode : EnforcementMode) (switch : Bool) (value : Value) (strictness : Strictness),
    checkIn mode switch value first strictness = checkIn mode switch value second strictness
  display : first.display = second.display
  isNullable : first.isNullable = second.isNullable
  isAbsent : first.isAbsent = second.isAbsent
  argument : ∀ {α : Type} (registry : Registry) (before after : List Descriptor)
    (returns : Descriptor) (function : Value) (bound? : Option Value) (use : Shield → Action α),
    (Shield.make registry (before ++ first :: after) returns function bound? >>= use) =
      (Shield.make registry (before ++ second :: after) returns function bound? >>= use)
  answer : ∀ {α : Type} (registry : Registry) (arguments : List Descriptor) (function : Value)
    (bound? : Option Value) (use : Shield → Action α),
    (Shield.make registry arguments first function bound? >>= use) =
      (Shield.make registry arguments second function bound? >>= use)
  field : ∀ {α : Type} (registry : Registry) (name : String) (spec : RecordSpec) (field : String)
    (use : RecordType × Registry → Monitored α),
    (RecordType.make registry name (spec.insert field first) >>= use) =
      (RecordType.make registry name (spec.insert field second) >>= use)

end Descriptor

namespace Workshop

open Descriptor (Interchangeable)

variable {workshop : Workshop}

namespace Sound

variable {first second : Made Descriptor}

theorem equals_iff_eq (sound : workshop.Sound) (hf : first ∈ workshop.descriptors)
    (hs : second ∈ workshop.descriptors) :
    first.item.equals second.item = true ↔ first.item = second.item :=
  (sound.built first hf).equals_iff_eq sound.reached (sound.built second hs)

theorem interchangeable_of_equals (sound : workshop.Sound) (hf : first ∈ workshop.descriptors)
    (hs : second ∈ workshop.descriptors) (equal : first.item.equals second.item = true) :
    Interchangeable first.item second.item := by
  rw [(sound.equals_iff_eq hf hs).1 equal]
  constructor <;> (intros; rfl)

/-- The class of a descriptor was made in the run. -/
theorem exists_place_of_class? (sound : workshop.Sound) (member : first ∈ workshop.descriptors)
    {cls : Class} (h : first.item.class? = some cls) :
    ∃ i : Nat, workshop.classes[i]? = some cls := by
  have built := sound.built first member
  rw [Descriptor.eq_instanceOf_of_class? h] at built
  cases built with
  | instanceOf made => exact List.mem_iff_getElem?.1 (List.mem_reverse.2 made)

/-- Class descriptors are equal when their classes stand in one place. -/
theorem equals_iff_place_eq (sound : workshop.Sound) {first second : Descriptor} {i j : Nat}
    {cls other : Class} (hf : first.class? = some cls) (hs : second.class? = some other)
    (hi : workshop.classes[i]? = some cls) (hj : workshop.classes[j]? = some other) :
    first.equals second = true ↔ i = j := by
  obtain rfl := Descriptor.eq_instanceOf_of_class? hf
  obtain rfl := Descriptor.eq_instanceOf_of_class? hs
  have known := List.mem_reverse.1 (List.mem_of_getElem? hi)
  have known' := List.mem_reverse.1 (List.mem_of_getElem? hj)
  constructor
  · intro equal
    have same := sound.reached.class_eq known known' (eq_of_beq equal)
    have inside := (List.getElem?_eq_some_iff.1 hi).1
    exact (List.getElem?_inj inside sound.nodup_classes).1 (by rw [hi, hj, same])
  · rintro rfl
    rw [hi] at hj
    obtain rfl := Option.some.inj hj
    exact Descriptor.equals_self _

/-- Custom descriptors are equal when they stem from one making. -/
theorem equals_iff_making_eq (sound : workshop.Sound) (hf : first ∈ workshop.descriptors)
    (hs : second ∈ workshop.descriptors) {number : Nat}
    (numbered : first.item.customId? = some number) :
    first.item.equals second.item = true ↔ first.making = second.making := by
  rw [sound.equals_iff_eq hf hs]
  constructor
  · intro same
    exact sound.descriptors.making_eq first hf second hs number numbered (same ▸ numbered)
  · exact sound.descriptors.item_eq first hf second hs

end Sound

/-- What equality of descriptors is in a workshop: an equivalence whose equals are interchangeable.
It holds between descriptors of classes when they are for one class, which has one place among the
classes made, between custom ones when they stem from one making, and never between both sorts. -/
structure EqualityLaws (workshop : Workshop) : Prop where
  refl : ∀ first ∈ workshop.descriptors, first.item.equals first.item = true
  symm : ∀ first ∈ workshop.descriptors, ∀ second ∈ workshop.descriptors,
    first.item.equals second.item = true → second.item.equals first.item = true
  trans : ∀ first ∈ workshop.descriptors, ∀ second ∈ workshop.descriptors,
    ∀ third ∈ workshop.descriptors, first.item.equals second.item = true →
      second.item.equals third.item = true → first.item.equals third.item = true
  interchangeable : ∀ first ∈ workshop.descriptors, ∀ second ∈ workshop.descriptors,
    first.item.equals second.item = true → Interchangeable first.item second.item
  place : ∀ made ∈ workshop.descriptors, ∀ cls, made.item.class? = some cls →
    ∃ i : Nat, workshop.classes[i]? = some cls
  classes : ∀ first ∈ workshop.descriptors, ∀ second ∈ workshop.descriptors,
    ∀ (i j : Nat) (cls other : Class), workshop.classes[i]? = some cls →
      workshop.classes[j]? = some other → first.item.class? = some cls →
      second.item.class? = some other → (first.item.equals second.item = true ↔ i = j)
  customs : ∀ first ∈ workshop.descriptors, ∀ second ∈ workshop.descriptors,
    first.item.customId?.isSome = true → second.item.customId?.isSome = true →
      (first.item.equals second.item = true ↔ first.making = second.making)
  apart : ∀ first ∈ workshop.descriptors, ∀ second ∈ workshop.descriptors,
    first.item.customId?.isSome = true → second.item.class?.isSome = true →
      first.item.equals second.item = false ∧ second.item.equals first.item = false

/-- Equality of descriptors is as it should be in every run. -/
theorem equal_descriptors_are_interchangeable (deeds : List Deed) :
    (opened.after deeds).EqualityLaws := by
  have sound : (opened.after deeds).Sound := sound_opened.after deeds
  constructor
  case refl =>
    intro first _
    exact first.item.equals_self
  case symm =>
    intro first hf second hs equal
    exact (sound.equals_iff_eq hs hf).2 ((sound.equals_iff_eq hf hs).1 equal).symm
  case trans =>
    intro first hf second hs third ht equal equal'
    have same := (sound.equals_iff_eq hf hs).1 equal
    have same' := (sound.equals_iff_eq hs ht).1 equal'
    exact (sound.equals_iff_eq hf ht).2 (same.trans same')
  case interchangeable =>
    intro first hf second hs equal
    exact sound.interchangeable_of_equals hf hs equal
  case place =>
    intro made member cls known
    exact sound.exists_place_of_class? member known
  case classes =>
    intro first _ second _ i j cls other hi hj known known'
    exact sound.equals_iff_place_eq known known' hi hj
  case customs =>
    intro first hf second hs numbered _
    obtain ⟨number, numbered⟩ := Option.isSome_iff_exists.1 numbered
    exact sound.equals_iff_making_eq hf hs numbered
  case apart =>
    intro first hf second hs numbered known
    have apart : first.item ≠ second.item := by
      intro same
      obtain ⟨number, numbered⟩ := Option.isSome_iff_exists.1 numbered
      rw [← same, Descriptor.class?_of_customId? numbered] at known
      simp at known
    exact ⟨Bool.eq_false_iff.2 (mt (sound.equals_iff_eq hf hs).1 apart),
      Bool.eq_false_iff.2 (mt (sound.equals_iff_eq hs hf).1 apart.symm)⟩

/-- All of one name: a class described twice, another class, two custom descriptors, and a copy of
the first of these. -/
theorem points_are_told_apart :
    let workshop := opened.after [.makeClass "Point", .makeClass "Point", .describeClass 1,
      .describeClass 1, .describeClass 2, .makeCustom "Point" fun _ _ => true,
      .makeCustom "Point" fun _ _ => true, .copyDescriptor 3]
    ∃ point again other any all copy : Made Descriptor,
      workshop.descriptors = [point, again, other, any, all, copy] ∧
      Interchangeable point.item again.item ∧
      point.item.equals other.item = false ∧
      any.item.equals copy.item = true ∧
      any.item.equals all.item = false ∧
      any.item.equals point.item = false := by
  intro workshop
  have laws : workshop.EqualityLaws := equal_descriptors_are_interchangeable _
  have known (place : Nat) {made : Made Descriptor}
      (found : workshop.descriptors[place]? = some made) : made ∈ workshop.descriptors :=
    List.mem_of_getElem? found
  refine ⟨_, _, _, _, _, _, rfl, ?_, ?_, ?_, ?_, ?_⟩
  · exact laws.interchangeable _ (known 0 rfl) _ (known 1 rfl) rfl
  · exact Bool.eq_false_iff.2 (mt (laws.classes _ (known 0 rfl) _
      (known 2 rfl) 1 2 _ _ rfl rfl rfl rfl).1 (by decide))
  · exact (laws.customs _ (known 3 rfl) _ (known 5 rfl) rfl rfl).2 rfl
  · exact Bool.eq_false_iff.2 (mt (laws.customs _ (known 3 rfl) _
      (known 4 rfl) rfl rfl).1 (by decide))
  · exact (laws.apart _ (known 3 rfl) _ (known 0 rfl) rfl rfl).1

end Workshop

end TypeAssertion
