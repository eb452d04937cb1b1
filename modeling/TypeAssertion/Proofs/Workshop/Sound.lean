import TypeAssertion.Proofs.Descriptor.Layers
import TypeAssertion.Proofs.Record.Write
import TypeAssertion.Proofs.Workshop.Deed

/-!
What holds of every workshop. The numbers that identify classes and custom descriptors tell makings
apart, for what is made new has a number of its own, and every class of a record type extends the
class of all records. A deed keeps this and leaves what is there in its place, so by induction every
run does.
-/

set_option autoImplicit false

namespace TypeAssertion

/-! ### Makings -/

/-- Things by their makings: copies are alike, and of the numbers that some of them have none is
shared by different makings. All numbers are below those that are given next. -/
structure Tracked {α : Type} (number? : α → Option Nat) (things : List (Made α))
    (makings next : Nat) : Prop where
  making_lt : ∀ made ∈ things, made.making < makings
  number_lt : ∀ made ∈ things, ∀ number ∈ number? made.item, number < next
  item_eq : ∀ first ∈ things, ∀ second ∈ things, first.making = second.making →
    first.item = second.item
  making_eq : ∀ first ∈ things, ∀ second ∈ things, ∀ number ∈ number? first.item,
    number ∈ number? second.item → first.making = second.making

theorem forall_mem_concat {α : Type} {P : α → Prop} {things : List α} {new : α}
    (old : ∀ thing ∈ things, P thing) (last : P new) : ∀ thing ∈ things ++ [new], P thing :=
  List.forall_mem_append.2 ⟨old, List.forall_mem_singleton.2 last⟩

namespace Tracked

variable {α : Type} {number? : α → Option Nat} {things : List (Made α)} {makings next : Nat}

theorem nil (number? : α → Option Nat) (makings next : Nat) : Tracked number? [] makings next := by
  constructor <;> simp

theorem mono {makings' next' : Nat} (tracked : Tracked number? things makings next)
    (makings_le : makings ≤ makings') (next_le : next ≤ next') :
    Tracked number? things makings' next' where
  making_lt made member := (tracked.making_lt made member).trans_le makings_le
  number_lt made member number known := (tracked.number_lt made member number known).trans_le next_le
  item_eq := tracked.item_eq
  making_eq := tracked.making_eq

theorem copy (tracked : Tracked number? things makings next) {made : Made α}
    (member : made ∈ things) : Tracked number? (things ++ [made]) makings next := by
  have among : ∀ other ∈ things ++ [made], other ∈ things :=
    forall_mem_concat (fun _ among => among) member
  exact {
    making_lt := fun other h => tracked.making_lt other (among other h)
    number_lt := fun other h => tracked.number_lt other (among other h)
    item_eq := fun first hf second hs =>
      tracked.item_eq first (among first hf) second (among second hs)
    making_eq := fun first hf second hs =>
      tracked.making_eq first (among first hf) second (among second hs) }

/-- What holds both ways holds between any two things when it does between the old ones and with
the new one. -/
private theorem forall_pairs_concat {R : Made α → Made α → Prop} {new : Made α}
    (symm : ∀ first second, R first second → R second first)
    (old : ∀ first ∈ things, ∀ second ∈ things, R first second)
    (mixed : ∀ first ∈ things, R first new) (self : R new new) :
    ∀ first ∈ things ++ [new], ∀ second ∈ things ++ [new], R first second := by
  simp only [List.forall_mem_append, List.forall_mem_singleton]
  exact ⟨fun first hf => ⟨old first hf, mixed first hf⟩,
    fun second hs => symm second new (mixed second hs), self⟩

/-- A new thing with the next number, or with none, is told from all that is there. -/
theorem add (tracked : Tracked number? things makings next) {item : α} {next' : Nat}
    (fresh : ∀ number ∈ number? item, number = next ∧ next < next') (next_le : next ≤ next') :
    Tracked number? (things ++ [⟨makings, item⟩]) (makings + 1) next' := by
  have old := tracked.mono (Nat.le_succ makings) next_le
  constructor
  case making_lt => exact forall_mem_concat old.making_lt (Nat.lt_succ_self makings)
  case number_lt =>
    refine forall_mem_concat old.number_lt fun number known => ?_
    obtain ⟨rfl, below⟩ := fresh number known
    exact below
  case item_eq =>
    refine forall_pairs_concat (fun _ _ told same => (told same.symm).symm) tracked.item_eq ?_ ?_
    · intro first hf same
      exact absurd same (tracked.making_lt first hf).ne
    · exact fun _ => rfl
  case making_eq =>
    refine forall_pairs_concat (fun _ _ told number known known' => (told number known' known).symm)
      tracked.making_eq ?_ ?_
    · intro first hf number known known'
      exact absurd (fresh number known').1 (tracked.number_lt first hf number known).ne
    · exact fun _ _ _ => rfl

end Tracked

/-! ### What holds of every workshop -/

/-- A descriptor that is put together from what a run has made. -/
inductive Descriptor.BuiltOf (handles : Handles) : Descriptor → Prop
  | primitive {kind : Primitive} : BuiltOf handles (.primitive kind)
  | absent : BuiltOf handles .absent
  | nullable {inner : Descriptor} : BuiltOf handles inner → BuiltOf handles (.nullable inner)
  | custom {id : Nat} {name : String} {test : Matcher} :
      .custom id name test ∈ handles.customs → BuiltOf handles (.custom id name test)
  | instanceOf {cls : Class} : cls ∈ handles.classes → BuiltOf handles (.instanceOf cls)

namespace Descriptor

theorem BuiltOf.mono {handles more : Handles} {descriptor : Descriptor}
    (built : descriptor.BuiltOf handles) (customs : handles.customs ⊆ more.customs)
    (classes : handles.classes ⊆ more.classes) : descriptor.BuiltOf more := by
  induction built with
  | primitive => exact .primitive
  | absent => exact .absent
  | nullable _ ih => exact .nullable ih
  | custom made => exact .custom (customs made)
  | instanceOf made => exact .instanceOf (classes made)

theorem builtOf_of_isWritable (handles : Handles) {descriptor : Descriptor}
    (h : descriptor.isWritable = true) : descriptor.BuiltOf handles := by
  induction descriptor with
  | primitive kind => exact .primitive
  | absent => exact .absent
  | nullable inner ih => exact .nullable (ih h)
  | custom id name test => simp [isWritable] at h
  | instanceOf cls => simp [isWritable] at h

theorem customId?_of_isWritable {descriptor : Descriptor} (h : descriptor.isWritable = true) :
    descriptor.customId? = none := by
  cases descriptor with
  | custom id name test => simp [isWritable] at h
  | _ => rfl

theorem isWritable_of_ofValue {text : Value} {descriptor : Descriptor}
    (h : ofValue text = .ok descriptor) : descriptor.isWritable = true := by
  unfold ofValue at h
  cases held : text.text? with
  | none => simp [held] at h
  | some chars =>
    rw [held] at h
    exact isWritable_of_parse h

end Descriptor

theorem Registry.Reached.record_mem {registry : Registry} {handles : Handles}
    (reached : registry.Reached handles) : Class.record ∈ handles.classes := by
  induction reached with
  | start => exact List.mem_singleton_self _
  | madeFunction _ _ _ ih => exact ih
  | madeCustom _ _ _ ih => exact ih
  | madeClass _ _ _ _ ih => exact List.mem_cons_of_mem _ ih

namespace Workshop

/-- The number of the class of a record type. -/
def classId (type : RecordType) : Option Nat := some type.cls.id

/-- The invariant of a workshop: what was made is in its registry, and record types and custom
descriptors are numbered by their makings. -/
structure Sound (workshop : Workshop) : Prop where
  reached : workshop.registry.Reached workshop.handles
  owned : ∀ made ∈ workshop.types, made.item.cls ∈ workshop.handles.classes
  based : ∀ made ∈ workshop.types, made.item.cls.parent? = some Class.record
  types : Tracked classId workshop.types workshop.makings workshop.registry.classCount
  built : ∀ made ∈ workshop.descriptors, made.item.BuiltOf workshop.handles
  descriptors : Tracked Descriptor.customId? workshop.descriptors workshop.makings
    workshop.registry.customCount

theorem sound_opened : opened.Sound where
  reached := .start
  owned := List.forall_mem_nil _
  based := List.forall_mem_nil _
  types := .nil _ _ _
  built := List.forall_mem_nil _
  descriptors := .nil _ _ _

namespace Sound

variable {workshop : Workshop}

theorem withMonitor (sound : workshop.Sound) (monitor : Monitor) :
    { workshop with monitor := monitor }.Sound :=
  ⟨sound.reached, sound.owned, sound.based, sound.types, sound.built, sound.descriptors⟩

theorem addClass (sound : workshop.Sound) (name : String) {parent? : Option Class}
    (known : ∀ parent ∈ parent?, parent ∈ workshop.handles.classes) :
    (workshop.addClass (workshop.registry.makeClass name parent?)).Sound where
  reached := sound.reached.madeClass name parent? known
  owned made member := List.mem_cons_of_mem _ (sound.owned made member)
  based := sound.based
  types := sound.types.mono le_rfl (Nat.le_succ _)
  built made member :=
    (sound.built made member).mono (List.Subset.refl _) (List.subset_cons_self _ _)
  descriptors := sound.descriptors

theorem addType (sound : workshop.Sound) (name : String) (spec : RecordSpec) :
    let made := (RecordType.make workshop.registry name spec).run workshop.monitor
    (workshop.addType made.1).Sound := by
  intro made
  have known : ∀ parent ∈ some Class.record, parent ∈ workshop.handles.classes := by
    rintro parent ⟨⟩
    exact sound.reached.record_mem
  have extended := sound.addClass name known
  constructor
  case reached => exact extended.reached
  case owned => exact forall_mem_concat extended.owned List.mem_cons_self
  case based => exact forall_mem_concat extended.based rfl
  case types =>
    refine sound.types.add ?_ (Nat.le_succ _)
    rintro number ⟨⟩
    exact ⟨rfl, Nat.lt_succ_self _⟩
  case built => exact extended.built
  case descriptors => exact extended.descriptors.mono (Nat.le_succ _) le_rfl

theorem addDescriptor (sound : workshop.Sound) {descriptor : Descriptor}
    (built : descriptor.BuiltOf workshop.handles) (plain : descriptor.customId? = none) :
    (workshop.addDescriptor descriptor).Sound where
  reached := sound.reached
  owned := sound.owned
  based := sound.based
  types := sound.types.mono (Nat.le_succ _) le_rfl
  built := forall_mem_concat sound.built built
  descriptors := sound.descriptors.add (by simp [plain]) le_rfl

theorem addCustom (sound : workshop.Sound) (name : String) (test : Matcher) :
    (workshop.addCustom (workshop.registry.makeCustom name test)).Sound where
  reached := sound.reached.madeCustom name test
  owned := sound.owned
  based := sound.based
  types := sound.types.mono (Nat.le_succ _) le_rfl
  built := by
    refine forall_mem_concat (fun made member => ?_) (.custom List.mem_cons_self)
    exact (sound.built made member).mono (List.subset_cons_self _ _) (List.Subset.refl _)
  descriptors := by
    refine sound.descriptors.add ?_ (Nat.le_succ _)
    rintro number ⟨⟩
    exact ⟨rfl, Nat.lt_succ_self _⟩

theorem copyType (sound : workshop.Sound) {made : Made RecordType}
    (member : made ∈ workshop.types) :
    { workshop with types := workshop.types ++ [made] }.Sound where
  reached := sound.reached
  owned := forall_mem_concat sound.owned (sound.owned made member)
  based := forall_mem_concat sound.based (sound.based made member)
  types := sound.types.copy member
  built := sound.built
  descriptors := sound.descriptors

theorem copyDescriptor (sound : workshop.Sound) {made : Made Descriptor}
    (member : made ∈ workshop.descriptors) :
    { workshop with descriptors := workshop.descriptors ++ [made] }.Sound where
  reached := sound.reached
  owned := sound.owned
  based := sound.based
  types := sound.types
  built := forall_mem_concat sound.built (sound.built made member)
  descriptors := sound.descriptors.copy member

/-- Every deed keeps the invariant. -/
theorem perform (sound : workshop.Sound) (deed : Deed) : (workshop.perform deed).Sound := by
  cases deed with
  | setSwitch enabled => exact sound.withMonitor _
  | makeFunction name behaviour =>
    exact {
      reached := sound.reached.madeFunction name behaviour
      owned := sound.owned
      based := sound.based
      types := sound.types
      built := fun made member =>
        (sound.built made member).mono (List.Subset.refl _) (List.Subset.refl _)
      descriptors := sound.descriptors }
  | makeClass name => exact sound.addClass name (by simp)
  | extendClass parent name =>
    refine withPlace_cases sound fun cls member => sound.addClass name ?_
    rintro parent ⟨⟩
    exact List.mem_reverse.1 member
  | makeType name spec => exact (sound.withMonitor _).addType name spec
  | readType name schema =>
    rw [Workshop.perform, RecordType.run_ofSchema]
    cases RecordSpec.ofSchema workshop.monitor.enforced schema with
    | error failure => exact sound.withMonitor _
    | ok spec => exact (sound.withMonitor _).addType name spec
  | copyType place => exact withPlace_cases sound fun made member => sound.copyType member
  | describeKind kind => exact sound.addDescriptor .primitive rfl
  | describeNothing => exact sound.addDescriptor .absent rfl
  | describeClass place =>
    exact withPlace_cases sound fun cls member =>
      sound.addDescriptor (.instanceOf (List.mem_reverse.1 member)) rfl
  | describeType place =>
    exact withPlace_cases sound fun made member =>
      sound.addDescriptor (.instanceOf (sound.owned made member)) rfl
  | makeCustom name test => exact sound.addCustom name test
  | readDescriptor text =>
    rw [Workshop.perform]
    cases read : Descriptor.ofValue text with
    | error failure => exact sound
    | ok descriptor =>
      have writable := Descriptor.isWritable_of_ofValue read
      exact sound.addDescriptor (Descriptor.builtOf_of_isWritable _ writable)
        (Descriptor.customId?_of_isWritable writable)
  | wrap place =>
    exact withPlace_cases sound fun made member =>
      sound.addDescriptor (.nullable (sound.built made member)) rfl
  | copyDescriptor place =>
    exact withPlace_cases sound fun made member => sound.copyDescriptor member

theorem after (sound : workshop.Sound) (deeds : List Deed) : (workshop.after deeds).Sound := by
  induction deeds generalizing workshop with
  | nil => exact sound
  | cons deed rest ih => exact ih (sound.perform deed)

/-- Every class is made once, so its place tells which one it is. -/
theorem nodup_classes (sound : workshop.Sound) : workshop.classes.Nodup := by
  rw [classes, List.nodup_reverse]
  apply List.Nodup.of_map Class.id
  rw [(Registry.numbers_of_reached sound.reached).classes]
  exact List.nodup_reverse.2 List.nodup_range

end Sound

/-! ### What stays -/

/-- What stands in a place stays there. -/
structure Grows (workshop later : Workshop) : Prop where
  classes : workshop.classes <+: later.classes
  types : workshop.types <+: later.types

namespace Grows

theorem of_eq {workshop later : Workshop}
    (classes : later.handles.classes = workshop.handles.classes)
    (types : later.types = workshop.types) : workshop.Grows later where
  classes := by rw [Workshop.classes, Workshop.classes, classes]
  types := by rw [types]

theorem trans {first second third : Workshop} (h : first.Grows second) (h' : second.Grows third) :
    first.Grows third :=
  ⟨h.classes.trans h'.classes, h.types.trans h'.types⟩

theorem addClass (workshop : Workshop) (made : Class × Registry) :
    workshop.Grows (workshop.addClass made) where
  classes := by
    rw [Workshop.addClass, Workshop.classes, Workshop.classes, List.reverse_cons]
    exact List.prefix_append _ _
  types := List.prefix_rfl

theorem addType (workshop : Workshop) (monitor : Monitor) (made : RecordType × Registry) :
    workshop.Grows ({ workshop with monitor := monitor }.addType made) where
  classes := (addClass workshop (made.1.cls, made.2)).classes
  types := List.prefix_append _ _

/-- Every deed leaves what is there in its place. -/
theorem perform (workshop : Workshop) (deed : Deed) : workshop.Grows (workshop.perform deed) := by
  have same : workshop.Grows workshop := of_eq rfl rfl
  cases deed with
  | makeClass name => exact addClass workshop _
  | extendClass parent name => exact withPlace_cases same fun cls _ => addClass workshop _
  | makeType name spec => exact addType workshop _ _
  | readType name schema =>
    rw [Workshop.perform, RecordType.run_ofSchema]
    cases RecordSpec.ofSchema workshop.monitor.enforced schema with
    | error failure => exact of_eq rfl rfl
    | ok spec => exact addType workshop _ _
  | copyType place =>
    exact withPlace_cases same fun made _ => ⟨List.prefix_rfl, List.prefix_append _ _⟩
  | readDescriptor text =>
    rw [Workshop.perform]
    cases Descriptor.ofValue text with
    | error failure => exact same
    | ok descriptor => exact of_eq rfl rfl
  | describeClass place => exact withPlace_cases same fun _ _ => of_eq rfl rfl
  | describeType place => exact withPlace_cases same fun _ _ => of_eq rfl rfl
  | wrap place => exact withPlace_cases same fun _ _ => of_eq rfl rfl
  | copyDescriptor place => exact withPlace_cases same fun _ _ => of_eq rfl rfl
  | _ => exact of_eq rfl rfl

theorem after (workshop : Workshop) (deeds : List Deed) : workshop.Grows (workshop.after deeds) := by
  induction deeds generalizing workshop with
  | nil => exact of_eq rfl rfl
  | cons deed rest ih => exact (perform workshop deed).trans (ih _)

theorem types_getElem? {workshop later : Workshop} (grows : workshop.Grows later) {place : Nat}
    {made : Made RecordType} (found : workshop.types[place]? = some made) :
    later.types[place]? = some made := by
  obtain ⟨more, same⟩ := grows.types
  rw [← same, List.getElem?_append_left (List.getElem?_eq_some_iff.1 found).1, found]

theorem classes_getElem? {workshop later : Workshop} (grows : workshop.Grows later) {place : Nat}
    {cls : Class} (found : workshop.classes[place]? = some cls) :
    later.classes[place]? = some cls := by
  obtain ⟨more, same⟩ := grows.classes
  rw [← same, List.getElem?_append_left (List.getElem?_eq_some_iff.1 found).1, found]

end Grows

end Workshop

end TypeAssertion
