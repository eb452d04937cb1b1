import Mathlib.Data.List.Nodup
import TypeAssertion.Registry

/-!
Runs of the registry. Whatever a run makes is numbered in the order of its making, each kind by
itself, so a number tells which handle it is: two handles of one run with one number are the same
handle, name and parents included.
-/

set_option autoImplicit false

namespace TypeAssertion

/-- The number of a custom descriptor. -/
def Descriptor.customId? : Descriptor → Option Nat
  | custom id _ _ => some id
  | _ => none

/-- What a run of the registry has handed out, the latest first. -/
structure Handles where
  functions : List Function
  customs : List Descriptor
  classes : List Class

namespace Registry

/-- The registries that a run reaches, each with the handles that were made so far. A class extends
only what is there already. -/
inductive Reached : Registry → Handles → Prop
  | start : Reached .initial ⟨[], [], [Class.record]⟩
  | madeFunction {registry : Registry} {handles : Handles} (name : String) (behaviour : Behaviour) :
      Reached registry handles →
      Reached (registry.makeFunction name behaviour).2
        { handles with
          functions := (registry.makeFunction name behaviour).1 :: handles.functions }
  | madeCustom {registry : Registry} {handles : Handles} (name : String) (test : Matcher) :
      Reached registry handles →
      Reached (registry.makeCustom name test).2
        { handles with customs := (registry.makeCustom name test).1 :: handles.customs }
  | madeClass {registry : Registry} {handles : Handles} (name : String) (parent? : Option Class) :
      Reached registry handles → (∀ parent ∈ parent?, parent ∈ handles.classes) →
      Reached (registry.makeClass name parent?).2
        { handles with classes := (registry.makeClass name parent?).1 :: handles.classes }

/-- The invariant: the handles of each kind are numbered from zero on without a gap. -/
structure Numbers (registry : Registry) (handles : Handles) : Prop where
  functions : handles.functions.map Function.id = (List.range registry.behaviours.size).reverse
  customs : handles.customs.map Descriptor.customId? =
    (List.range registry.customCount).reverse.map some
  classes : handles.classes.map Class.id = (List.range registry.classCount).reverse

theorem id_makeClass (registry : Registry) (name : String) (parent? : Option Class) :
    (registry.makeClass name parent?).1.id = registry.classCount := by
  cases parent? <;> rfl

variable {registry : Registry} {handles : Handles}

theorem numbers_of_reached (reached : registry.Reached handles) : registry.Numbers handles := by
  induction reached with
  | start => exact ⟨rfl, rfl, rfl⟩
  | madeFunction name behaviour _ ih =>
    refine ⟨?_, ih.customs, ih.classes⟩
    simp [makeFunction, List.range_succ, ih.functions]
  | madeCustom name test _ ih =>
    refine ⟨ih.functions, ?_, ih.classes⟩
    simp [makeCustom, Descriptor.customId?, List.range_succ, ih.customs]
  | madeClass name parent? _ _ ih =>
    refine ⟨ih.functions, ih.customs, ?_⟩
    rw [List.map_cons, id_makeClass, ih.classes]
    simp [makeClass, List.range_succ]

theorem Reached.function_eq (reached : registry.Reached handles) {f g : Function}
    (hf : f ∈ handles.functions) (hg : g ∈ handles.functions) (same : f.id = g.id) : f = g := by
  have distinct : (handles.functions.map Function.id).Nodup := by
    rw [(numbers_of_reached reached).functions]
    exact List.nodup_reverse.2 List.nodup_range
  exact List.inj_on_of_nodup_map distinct hf hg same

theorem Reached.custom_eq (reached : registry.Reached handles) {d e : Descriptor}
    (hd : d ∈ handles.customs) (he : e ∈ handles.customs) (same : d.customId? = e.customId?) :
    d = e := by
  have distinct : (handles.customs.map Descriptor.customId?).Nodup := by
    rw [(numbers_of_reached reached).customs]
    exact (List.nodup_reverse.2 List.nodup_range).map fun _ _ equal => Option.some.inj equal
  exact List.inj_on_of_nodup_map distinct hd he same

theorem Reached.class_eq (reached : registry.Reached handles) {c d : Class}
    (hc : c ∈ handles.classes) (hd : d ∈ handles.classes) (same : c.id = d.id) : c = d := by
  have distinct : (handles.classes.map Class.id).Nodup := by
    rw [(numbers_of_reached reached).classes]
    exact List.nodup_reverse.2 List.nodup_range
  exact List.inj_on_of_nodup_map distinct hc hd same

end Registry

end TypeAssertion
