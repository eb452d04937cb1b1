import Mathlib.Data.List.TFAE
import TypeAssertion.Property
import TypeAssertion.Proofs.Check
import TypeAssertion.Proofs.Class.Chain
import TypeAssertion.Proofs.Workshop.Sound

/-!
Inheritance among the classes of a run. A class stands in the place of its making, and the classes
of a run form a forest by inheritance: it is a partial order of their places, in which all that one
class inherits from is a chain. What is made later leaves the answers as they are, and names have no
part in them. The checks for instances of a class follow this order.
-/

set_option autoImplicit false

namespace TypeAssertion

namespace Class

/-- A class with every name on its chain left blank. -/
def unnamed : Class → Class
  | root id _ => root id ""
  | extend parent id _ => extend parent.unnamed id ""

@[simp] theorem id_unnamed (cls : Class) : cls.unnamed.id = cls.id := by
  cases cls <;> rfl

/-- The search for an ancestor does not look at names. -/
theorem inheritsFrom_unnamed (cls ancestor : Class) :
    cls.unnamed.inheritsFrom ancestor.unnamed = cls.inheritsFrom ancestor := by
  induction cls with
  | root id name => simp [unnamed, inheritsFrom]
  | extend parent id name ih => simp [unnamed, inheritsFrom, ih]

end Class

/-- A deed with the name that it gives to a class left blank. -/
def Deed.unnamed : Deed → Deed
  | .makeClass _ => .makeClass ""
  | .extendClass parent _ => .extendClass parent ""
  | .makeType _ spec => .makeType "" spec
  | .readType _ schema => .readType "" schema
  | deed => deed

namespace Workshop

/-- Whether the class in one place inherits from the class in another, if there are such classes. -/
def inherits? (workshop : Workshop) (place ancestor : Nat) : Option Bool :=
  workshop.classes[place]?.bind fun cls =>
    workshop.classes[ancestor]?.map fun base => cls.inheritsFrom base

theorem inherits?_of_classes {workshop : Workshop} {i j : Nat} {cls base : Class}
    (hi : workshop.classes[i]? = some cls) (hj : workshop.classes[j]? = some base) :
    workshop.inherits? i j = some (cls.inheritsFrom base) := by
  rw [inherits?, hi, hj]
  rfl

theorem inherits?_eq_some_iff {workshop : Workshop} {i j : Nat} {answer : Bool} :
    workshop.inherits? i j = some answer ↔
      ∃ cls base, workshop.classes[i]? = some cls ∧ workshop.classes[j]? = some base ∧
        cls.inheritsFrom base = answer := by
  simp only [inherits?, Option.bind_eq_some_iff, Option.map_eq_some_iff]
  constructor
  · rintro ⟨cls, hi, base, hj, found⟩
    exact ⟨cls, base, hi, hj, found⟩
  · rintro ⟨cls, base, hi, hj, found⟩
    exact ⟨cls, hi, base, hj, found⟩

/-! ### Places of classes -/

section Sound

variable {workshop : Workshop} {i j : Nat} {cls base : Class}

/-- A class is numbered by its place. -/
theorem Sound.id_eq (sound : workshop.Sound) (found : workshop.classes[i]? = some cls) :
    cls.id = i := by
  have numbered : workshop.classes.map Class.id = List.range workshop.registry.classCount := by
    rw [classes, List.map_reverse, (Registry.numbers_of_reached sound.reached).classes,
      List.reverse_reverse]
  have there : (workshop.classes.map Class.id)[i]? = some cls.id := by
    rw [List.getElem?_map, found]
    rfl
  rw [numbered] at there
  obtain ⟨bound, same⟩ := List.getElem?_eq_some_iff.1 there
  rw [← same]
  exact List.getElem_range bound

theorem Sound.place_eq (sound : workshop.Sound) (hi : workshop.classes[i]? = some cls)
    (hj : workshop.classes[j]? = some cls) : i = j :=
  (sound.id_eq hi).symm.trans (sound.id_eq hj)

theorem mem_handles (found : workshop.classes[i]? = some cls) : cls ∈ workshop.handles.classes :=
  List.mem_reverse.1 (List.mem_of_getElem? found)

/-- In a run, the search for an ancestor finds what stands on the chain. -/
theorem Sound.inherits?_iff (sound : workshop.Sound) :
    workshop.inherits? i j = some true ↔
      ∃ cls base, workshop.classes[i]? = some cls ∧ workshop.classes[j]? = some base ∧
        base ∈ cls.chain := by
  rw [inherits?_eq_some_iff]
  refine exists_congr fun cls => exists_congr fun base => ?_
  refine and_congr_right fun hi => and_congr_right fun hj => ?_
  exact sound.reached.inheritsFrom_iff_mem_chain (mem_handles hi) (mem_handles hj)

end Sound

/-! ### Inheritance is an order of the places -/

/-- Inheritance among the classes of a workshop, by their places. -/
structure Forest (workshop : Workshop) : Prop where
  /-- The search ends within a step for each class made up to the one it starts from. -/
  ends : ∀ {i j : Nat} {cls base : Class}, workshop.classes[i]? = some cls →
    workshop.classes[j]? = some base →
    Class.searchWithin base (i + 1) (some cls) = workshop.inherits? i j
  identical : ∀ {i j : Nat} {cls base : Class}, workshop.classes[i]? = some cls →
    workshop.classes[j]? = some base → (cls.same base = true ↔ i = j)
  refl : ∀ {i : Nat}, i < workshop.classes.length → workshop.inherits? i i = some true
  antisymm : ∀ {i j : Nat}, workshop.inherits? i j = some true →
    workshop.inherits? j i = some true → i = j
  trans : ∀ {i j k : Nat}, workshop.inherits? i j = some true →
    workshop.inherits? j k = some true → workshop.inherits? i k = some true
  comparable : ∀ {i j k : Nat}, workshop.inherits? i j = some true →
    workshop.inherits? i k = some true →
    workshop.inherits? j k = some true ∨ workshop.inherits? k j = some true

theorem Sound.forest {workshop : Workshop} (sound : workshop.Sound) : workshop.Forest where
  ends := by
    intro i j cls base hi hj
    have descends := (sound.reached.descends (mem_handles hi)).1
    have enough : cls.chain.length ≤ i + 1 := by
      rw [← sound.id_eq hi]
      exact Class.length_chain_le descends
    rw [Class.searchWithin_eq enough, inherits?_of_classes hi hj]
  identical := by
    intro i j cls base hi hj
    rw [Class.same, beq_iff_eq, sound.id_eq hi, sound.id_eq hj]
  refl := by
    intro i bound
    have there := List.getElem?_eq_getElem bound
    exact sound.inherits?_iff.2 ⟨_, _, there, there, Class.self_mem_chain _⟩
  antisymm := by
    intro i j up down
    obtain ⟨cls, base, hi, hj, above⟩ := sound.inherits?_iff.1 up
    obtain ⟨base', cls', hj', hi', below⟩ := sound.inherits?_iff.1 down
    obtain rfl : cls = cls' := Option.some.inj (hi.symm.trans hi')
    obtain rfl : base = base' := Option.some.inj (hj.symm.trans hj')
    obtain rfl := Class.eq_of_mem_chain above below
    exact sound.place_eq hi hj
  trans := by
    intro i j k first second
    obtain ⟨cls, base, hi, hj, above⟩ := sound.inherits?_iff.1 first
    obtain ⟨base', top, hj', hk, above'⟩ := sound.inherits?_iff.1 second
    obtain rfl : base = base' := Option.some.inj (hj.symm.trans hj')
    exact sound.inherits?_iff.2 ⟨cls, top, hi, hk, Class.mem_chain_trans above' above⟩
  comparable := by
    intro i j k first second
    obtain ⟨cls, base, hi, hj, above⟩ := sound.inherits?_iff.1 first
    obtain ⟨cls', top, hi', hk, above'⟩ := sound.inherits?_iff.1 second
    obtain rfl : cls = cls' := Option.some.inj (hi.symm.trans hi')
    rcases Class.mem_chain_or_mem_chain above above' with up | down
    · exact .inl (sound.inherits?_iff.2 ⟨base, top, hj, hk, up⟩)
    · exact .inr (sound.inherits?_iff.2 ⟨top, base, hk, hj, down⟩)

/-- What was once answered stays so. -/
theorem Grows.inherits? {workshop later : Workshop} (grows : workshop.Grows later) {i j : Nat}
    {answer : Bool} (answered : workshop.inherits? i j = some answer) :
    later.inherits? i j = some answer := by
  obtain ⟨cls, base, hi, hj, found⟩ := inherits?_eq_some_iff.1 answered
  exact inherits?_eq_some_iff.2
    ⟨cls, base, grows.classes_getElem? hi, grows.classes_getElem? hj, found⟩

/-! ### Names -/

/-- True of workshops that agree in the switch and, up to names, in their classes. -/
structure Alike (first second : Workshop) : Prop where
  enforced : first.monitor.enforced = second.monitor.enforced
  count : first.registry.classCount = second.registry.classCount
  classes : first.handles.classes.map Class.unnamed = second.handles.classes.map Class.unnamed

namespace Alike

variable {first second : Workshop}

theorem refl (workshop : Workshop) : workshop.Alike workshop := ⟨rfl, rfl, rfl⟩

theorem symm (alike : first.Alike second) : second.Alike first :=
  ⟨alike.enforced.symm, alike.count.symm, alike.classes.symm⟩

theorem trans {third : Workshop} (h : first.Alike second) (h' : second.Alike third) :
    first.Alike third :=
  ⟨h.enforced.trans h'.enforced, h.count.trans h'.count, h.classes.trans h'.classes⟩

theorem getElem?_classes (alike : first.Alike second) (place : Nat) :
    first.classes[place]?.map Class.unnamed = second.classes[place]?.map Class.unnamed := by
  have blanked : first.classes.map Class.unnamed = second.classes.map Class.unnamed := by
    rw [Workshop.classes, Workshop.classes, List.map_reverse, List.map_reverse, alike.classes]
  rw [← List.getElem?_map, ← List.getElem?_map, blanked]

theorem inherits?_eq (alike : first.Alike second) (i j : Nat) :
    first.inherits? i j = second.inherits? i j := by
  have blanked : ∀ workshop : Workshop, workshop.inherits? i j =
      (workshop.classes[i]?.map Class.unnamed).bind fun cls =>
        (workshop.classes[j]?.map Class.unnamed).map fun base => cls.inheritsFrom base := by
    intro workshop
    simp only [inherits?, Option.bind_map, Option.map_map]
    congr 1
    funext cls
    congr 1
    funext base
    exact (Class.inheritsFrom_unnamed cls base).symm
  rw [blanked, blanked, alike.getElem?_classes, alike.getElem?_classes]

theorem addClass (alike : first.Alike second) (name name' : String)
    {parent? parent?' : Option Class}
    (above : parent?.map Class.unnamed = parent?'.map Class.unnamed) :
    (first.addClass (first.registry.makeClass name parent?)).Alike
      (second.addClass (second.registry.makeClass name' parent?')) where
  enforced := alike.enforced
  count := congrArg Nat.succ alike.count
  classes := by
    have new : (first.registry.makeClass name parent?).1.unnamed =
        (second.registry.makeClass name' parent?').1.unnamed := by
      cases parent? <;> cases parent?' <;>
        simp_all [Registry.makeClass, Class.unnamed, alike.count]
    change List.cons _ _ = List.cons _ _
    rw [new, alike.classes]

theorem withMonitor (alike : first.Alike second) {monitor monitor' : Monitor}
    (same : monitor.enforced = monitor'.enforced) :
    { first with monitor := monitor }.Alike { second with monitor := monitor' } :=
  ⟨same, alike.count, alike.classes⟩

theorem addType (alike : first.Alike second) (name name' : String) (spec : RecordSpec) :
    let made := (RecordType.make first.registry name spec).run first.monitor
    let made' := (RecordType.make second.registry name' spec).run second.monitor
    ({ first with monitor := made.2 }.addType made.1).Alike
      ({ second with monitor := made'.2 }.addType made'.1) := by
  intro made made'
  have extended := @addClass _ _ alike name name' (some Class.record) (some Class.record) rfl
  exact ⟨alike.enforced, extended.count, extended.classes⟩

/-- What is quiet with each thing is quiet with the one in a place. -/
theorem withPlace {α : Type} (workshop : Workshop) (items : List α) (place : Nat)
    {next : α → Workshop} (quiet : ∀ item, (next item).Alike workshop) :
    (workshop.withPlace items place next).Alike workshop :=
  @withPlace_cases _ _ _ _ _ (fun after => after.Alike workshop) (refl workshop)
    fun item _ => quiet item

theorem of_readDescriptor (workshop : Workshop) (text : Value) :
    (workshop.perform (.readDescriptor text)).Alike workshop := by
  rw [Workshop.perform]
  cases Descriptor.ofValue text with
  | error failure => exact refl workshop
  | ok descriptor => exact ⟨rfl, rfl, rfl⟩

/-- A deed does the same whatever names it gives. -/
theorem perform (alike : first.Alike second) (deed : Deed) :
    (first.perform deed).Alike (second.perform deed.unnamed) := by
  -- All that is neither a class made nor the switch set leaves both workshops as they were.
  have quiet {first' second' : Workshop} (h : first'.Alike first) (h' : second'.Alike second) :
      first'.Alike second' := h.trans (alike.trans h'.symm)
  cases deed with
  | setSwitch enabled =>
    refine alike.withMonitor ?_
    rw [enforced_setEnforced, enforced_setEnforced]
  | makeClass name => exact alike.addClass name "" rfl
  | extendClass place name =>
    have above := alike.getElem?_classes place
    change (first.withPlace _ _ _).Alike (second.withPlace _ _ _)
    unfold Workshop.withPlace
    cases hf : first.classes[place]? with
    | none =>
      cases hs : second.classes[place]? with
      | none => exact alike
      | some parent => simp [hf, hs] at above
    | some parent =>
      cases hs : second.classes[place]? with
      | none => simp [hf, hs] at above
      | some parent' =>
        rw [hf, hs] at above
        exact alike.addClass name "" above
  | makeType name spec => exact alike.addType name "" spec
  | readType name schema =>
    change (first.perform (.readType name schema)).Alike (second.perform (.readType "" schema))
    rw [Workshop.perform, Workshop.perform, RecordType.run_ofSchema, RecordType.run_ofSchema,
      alike.enforced]
    cases RecordSpec.ofSchema second.monitor.enforced schema with
    | error failure => exact alike
    | ok spec => exact alike.addType name "" spec
  | makeFunction _ _ | makeCustom _ _ | describeKind _ | describeNothing =>
    exact quiet ⟨rfl, rfl, rfl⟩ ⟨rfl, rfl, rfl⟩
  | readDescriptor text =>
    exact quiet (of_readDescriptor first text) (of_readDescriptor second text)
  | copyType place | describeClass place | describeType place | wrap place | copyDescriptor place =>
    apply quiet
    · exact withPlace _ _ _ fun _ => ⟨rfl, rfl, rfl⟩
    · exact withPlace _ _ _ fun _ => ⟨rfl, rfl, rfl⟩

theorem after (alike : first.Alike second) (deeds : List Deed) :
    (first.after deeds).Alike (second.after (deeds.map Deed.unnamed)) := by
  induction deeds generalizing first second with
  | nil => exact alike
  | cons deed rest ih => exact ih (alike.perform deed)

/-- Runs that differ in names alone make classes that differ in names alone. -/
theorem of_unnamed_eq {deeds others : List Deed}
    (same : deeds.map Deed.unnamed = others.map Deed.unnamed) :
    (opened.after deeds).Alike (opened.after others) := by
  have renamed := (refl opened).after deeds
  rw [same] at renamed
  exact renamed.trans ((refl opened).after others).symm

end Alike

/-! ### Instances -/

theorem requireConstructed_eq_ok_iff {cls : Class} {value : Value} :
    requireConstructed cls value = .ok () ↔ isConstructed cls value = true := by
  unfold requireConstructed
  cases isConstructed cls value <;> simp

theorem conforms_instanceOf_iff {cls : Class} {value : Value} :
    conforms true value (.instanceOf cls) = true ↔
      ∃ own fields, value = .instance own fields ∧ own.inheritsFrom cls = true := by
  rw [conforms_on]
  constructor
  · intro accepted
    cases value with
    | «instance» own fields => exact ⟨own, fields, rfl, accepted⟩
    | _ => simp [Descriptor.accepts, Descriptor.isInstance, Value.class?] at accepted
  · rintro ⟨own, fields, rfl, inherits⟩
    exact inherits

section Instance

variable {workshop : Workshop} {value : Value} {j : Nat} {base : Class}

/-- A value conforms to a class of a run when its own class inherits from that one. -/
theorem conforms_iff_inherits? (known : ∀ cls ∈ value.class?, cls ∈ workshop.classes)
    (hj : workshop.classes[j]? = some base) :
    conforms true value (.instanceOf base) = true ↔
      ∃ i own fields, workshop.classes[i]? = some own ∧ value = .instance own fields ∧
        workshop.inherits? i j = some true := by
  rw [conforms_instanceOf_iff]
  constructor
  · rintro ⟨own, fields, rfl, inherits⟩
    obtain ⟨i, hi⟩ := List.mem_iff_getElem?.1 (known own rfl)
    refine ⟨i, own, fields, hi, rfl, ?_⟩
    rw [inherits?_of_classes hi hj, inherits]
  · rintro ⟨i, own, fields, hi, rfl, inherits⟩
    rw [inherits?_of_classes hi hj] at inherits
    exact ⟨own, fields, rfl, Option.some.inj inherits⟩

/-- The three ways to ask whether a value is an instance of a class agree with the order. -/
theorem tfae_isConstructed (known : ∀ cls ∈ value.class?, cls ∈ workshop.classes)
    (hj : workshop.classes[j]? = some base) :
    [conforms true value (.instanceOf base) = true,
      isConstructed base value = true,
      requireConstructed base value = .ok (),
      ∃ i own fields, workshop.classes[i]? = some own ∧ value = .instance own fields ∧
        workshop.inherits? i j = some true].TFAE := by
  tfae_have 1 ↔ 2 := by rw [conforms_on]; rfl
  tfae_have 3 ↔ 2 := requireConstructed_eq_ok_iff
  tfae_have 1 ↔ 4 := conforms_iff_inherits? known hj
  tfae_finish

end Instance

/-- In every run the classes form a forest. What is made later leaves every answer as it was, and
a run that gives other names gives the same answers. A value whose class was made in the run is an
instance of a class exactly when its own class inherits from that one, in whichever of three ways
one asks, and so what conforms to a class conforms to all that the class inherits from. -/
theorem classes_form_a_forest (deeds : List Deed) :
    let workshop := opened.after deeds
    workshop.Forest ∧
    (∀ (later : List Deed) (i j : Nat) (answer : Bool), workshop.inherits? i j = some answer →
      (workshop.after later).inherits? i j = some answer) ∧
    (∀ others : List Deed, deeds.map Deed.unnamed = others.map Deed.unnamed →
      ∀ i j : Nat, workshop.inherits? i j = (opened.after others).inherits? i j) ∧
    ∀ value : Value, (∀ cls ∈ value.class?, cls ∈ workshop.classes) →
      (∀ (j : Nat) (base : Class), workshop.classes[j]? = some base →
        [conforms true value (.instanceOf base) = true,
          isConstructed base value = true,
          requireConstructed base value = .ok (),
          ∃ i own fields, workshop.classes[i]? = some own ∧ value = .instance own fields ∧
            workshop.inherits? i j = some true].TFAE) ∧
      ∀ (j k : Nat) (base top : Class), workshop.classes[j]? = some base →
        workshop.classes[k]? = some top → workshop.inherits? j k = some true →
        conforms true value (.instanceOf base) = true →
        conforms true value (.instanceOf top) = true := by
  intro workshop
  have sound : workshop.Sound := sound_opened.after deeds
  refine ⟨sound.forest, ?_, ?_, ?_⟩
  · intro later i j answer answered
    exact (Grows.after workshop later).inherits? answered
  · intro others same i j
    exact (Alike.of_unnamed_eq same).inherits?_eq i j
  · intro value known
    refine ⟨fun j base hj => tfae_isConstructed known hj, ?_⟩
    intro j k base top hj hk above conforming
    obtain ⟨i, own, fields, hi, is, inherits⟩ := (conforms_iff_inherits? known hj).1 conforming
    have onward := sound.forest.trans inherits above
    exact (conforms_iff_inherits? known hk).2 ⟨i, own, fields, hi, is, onward⟩

/-- Two circles of one name, of which a disc extends the first: a disc is a circle of the first
kind, hence a shape, and no circle of the second kind; so it is in a run in which all have one
name. -/
theorem disc_is_a_circle_of_one_kind :
    let deeds : List Deed := [.makeClass "Shape", .extendClass 1 "Circle", .extendClass 1 "Circle",
      .extendClass 2 "Disc"]
    let others : List Deed := [.makeClass "A", .extendClass 1 "A", .extendClass 1 "A",
      .extendClass 2 "A"]
    let shape : Class := .root 1 "Shape"
    let circle : Class := .extend shape 2 "Circle"
    let circle' : Class := .extend shape 3 "Circle"
    let disc : Value := .instance (.extend circle 4 "Disc") []
    (opened.after deeds).inherits? 4 2 = some true ∧
    requireConstructed circle disc = .ok () ∧
    isConstructed circle' disc = false ∧
    conforms true disc (.instanceOf shape) = true ∧
    (opened.after others).inherits? 4 3 = some false ∧
    ((opened.after deeds).after [.extendClass 3 "Disc"]).inherits? 4 3 = some false := by
  intro deeds others shape circle circle' disc
  obtain ⟨-, kept, renamed, checks⟩ := classes_form_a_forest deeds
  obtain ⟨verdicts, upward⟩ := checks disc <| by
    rintro cls ⟨⟩
    exact List.mem_of_getElem? (i := 4) rfl
  have below : (opened.after deeds).inherits? 4 2 = some true := rfl
  have apart : (opened.after deeds).inherits? 4 3 = some false := rfl
  have isCircle := verdicts 2 circle rfl
  have conforming : conforms true disc (.instanceOf circle) = true := by
    refine (isCircle.out 0 3).2 ?_
    exact ⟨4, .extend circle 4 "Disc", [], rfl, rfl, below⟩
  have accepted : requireConstructed circle disc = .ok () := (isCircle.out 0 2).1 conforming
  refine ⟨below, accepted, rfl, ?_, ?_, ?_⟩
  · exact upward 2 1 circle shape rfl rfl rfl conforming
  · exact (renamed others rfl 4 3).symm.trans apart
  · exact kept _ 4 3 false apart

end Workshop

end TypeAssertion
