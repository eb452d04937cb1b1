import TypeAssertion.Proofs.Registry

/-!
Chains of classes. A class stands at the head of the chain of all that it inherits from, and the
chain of an ancestor is the end of it; so ancestors of one class are comparable, and two classes
that inherit from each other are one. In a run, parents are made before what extends them, which
bounds the search for an ancestor by the number of the class, and a number tells which class it is,
so the search finds the ancestor itself and not one of its name.
-/

set_option autoImplicit false

namespace TypeAssertion

namespace Class

/-- A class and all that it inherits from, itself first. -/
def chain : Class → List Class
  | root id name => [root id name]
  | extend parent id name => extend parent id name :: parent.chain

/-- The search for an ancestor, one class at a time, if it ends within so many steps. -/
def searchWithin (ancestor : Class) : Nat → Option Class → Option Bool
  | _, none => some false
  | 0, some _ => none
  | steps + 1, some cls =>
    if cls.same ancestor then some true else searchWithin ancestor steps cls.parent?

/-- True of a class whose ancestors were all made before what extends them. -/
def Descends : Class → Prop
  | root _ _ => True
  | extend parent id _ => parent.id < id ∧ parent.Descends

theorem chain_eq_cons (cls : Class) : ∃ rest, cls.chain = cls :: rest := by
  cases cls with
  | root id name => exact ⟨[], rfl⟩
  | extend parent id name => exact ⟨parent.chain, rfl⟩

theorem self_mem_chain (cls : Class) : cls ∈ cls.chain := by
  obtain ⟨rest, parts⟩ := cls.chain_eq_cons
  rw [parts]
  exact List.mem_cons_self

theorem inheritsFrom_iff {cls ancestor : Class} :
    cls.inheritsFrom ancestor = true ↔ ∃ base ∈ cls.chain, base.id = ancestor.id := by
  induction cls with
  | root id name => simp [inheritsFrom, chain, Class.id]
  | extend parent id name ih => simp [inheritsFrom, chain, ih, Class.id]

/-- The chain of an ancestor is the end of the chain of a class. -/
theorem chain_suffix_of_mem {cls base : Class} (h : base ∈ cls.chain) :
    base.chain <:+ cls.chain := by
  induction cls with
  | root id name =>
    obtain rfl := List.mem_singleton.1 h
    exact List.suffix_refl _
  | extend parent id name ih =>
    rcases List.mem_cons.1 h with rfl | above
    · exact List.suffix_refl _
    · exact (ih above).trans (List.suffix_cons _ _)

theorem mem_chain_trans {first second third : Class} (h : third ∈ second.chain)
    (h' : second ∈ first.chain) : third ∈ first.chain :=
  (chain_suffix_of_mem h').subset h

/-- Two chains that are ends of one another have the same head. -/
theorem eq_of_mem_chain {first second : Class} (h : second ∈ first.chain)
    (h' : first ∈ second.chain) : first = second := by
  have within := chain_suffix_of_mem h
  have within' := chain_suffix_of_mem h'
  have same : second.chain = first.chain := within.eq_of_length_le within'.length_le
  obtain ⟨_, head⟩ := first.chain_eq_cons
  obtain ⟨_, head'⟩ := second.chain_eq_cons
  rw [head, head'] at same
  exact (List.cons.inj same).1.symm

/-- Of two ends of one chain, one is an end of the other. -/
theorem mem_chain_or_mem_chain {cls first second : Class} (h : first ∈ cls.chain)
    (h' : second ∈ cls.chain) : second ∈ first.chain ∨ first ∈ second.chain := by
  rcases List.suffix_or_suffix_of_suffix (chain_suffix_of_mem h) (chain_suffix_of_mem h') with
    within | within
  · exact .inr (within.subset first.self_mem_chain)
  · exact .inl (within.subset second.self_mem_chain)

theorem searchWithin_none (ancestor : Class) (steps : Nat) :
    searchWithin ancestor steps none = some false := by
  cases steps <;> rfl

/-- With a step for each class of the chain the search ends, and finds what there is. -/
theorem searchWithin_eq {cls ancestor : Class} {steps : Nat} (enough : cls.chain.length ≤ steps) :
    searchWithin ancestor steps (some cls) = some (cls.inheritsFrom ancestor) := by
  induction cls generalizing steps with
  | root id name =>
    obtain ⟨rest, rfl⟩ : ∃ rest, steps = rest + 1 := Nat.exists_eq_add_one.2 enough
    change (if id == ancestor.id then some true else searchWithin ancestor rest none) =
      some (id == ancestor.id)
    rw [searchWithin_none]
    cases id == ancestor.id <;> rfl
  | extend parent id name ih =>
    obtain ⟨rest, rfl⟩ : ∃ rest, steps = rest + 1 :=
      Nat.exists_eq_add_one.2 (Nat.lt_of_lt_of_le (Nat.succ_pos _) enough)
    have above := @ih rest (Nat.le_of_succ_le_succ enough)
    change (if id == ancestor.id then some true else searchWithin ancestor rest (some parent)) =
      some (id == ancestor.id || parent.inheritsFrom ancestor)
    rw [above]
    cases id == ancestor.id <;> rfl

theorem length_chain_le {cls : Class} (h : cls.Descends) : cls.chain.length ≤ cls.id + 1 := by
  induction cls with
  | root id name => exact Nat.le_add_left 1 id
  | extend parent id name ih =>
    obtain ⟨older, above⟩ := h
    have rest := ih above
    change parent.chain.length + 1 ≤ id + 1
    omega

end Class

/-! ### Classes of a run -/

namespace Registry

variable {registry : Registry} {handles : Handles}

theorem Reached.class_id_lt (reached : registry.Reached handles) {cls : Class}
    (made : cls ∈ handles.classes) : cls.id < registry.classCount := by
  have numbered : cls.id ∈ handles.classes.map Class.id := List.mem_map_of_mem made
  rw [(numbers_of_reached reached).classes] at numbered
  simpa using numbered

/-- Parents are older: whatever a class extends was there when the class was made. -/
theorem Reached.descends (reached : registry.Reached handles) {cls : Class}
    (made : cls ∈ handles.classes) : cls.Descends ∧ ∀ base ∈ cls.chain, base ∈ handles.classes := by
  induction reached generalizing cls with
  | start =>
    obtain rfl := List.mem_singleton.1 made
    exact ⟨trivial, by simp [Class.record, Class.chain]⟩
  | madeFunction _ _ _ ih => exact ih made
  | madeCustom _ _ _ ih => exact ih made
  | @madeClass registry handles name parent? reached known ih =>
    rcases List.mem_cons.1 made with rfl | old
    · cases parent? with
      | none => exact ⟨trivial, by simp [makeClass, Class.chain]⟩
      | some parent =>
        have there := known parent rfl
        obtain ⟨descends, above⟩ := ih there
        refine ⟨⟨reached.class_id_lt there, descends⟩, ?_⟩
        intro base inside
        rcases List.mem_cons.1 inside with rfl | inside
        · exact List.mem_cons_self
        · exact List.mem_cons_of_mem _ (above base inside)
    · obtain ⟨descends, above⟩ := ih old
      exact ⟨descends, fun base inside => List.mem_cons_of_mem _ (above base inside)⟩

/-- Among the classes of a run, the search for an ancestor finds that very class. -/
theorem Reached.inheritsFrom_iff_mem_chain (reached : registry.Reached handles)
    {cls ancestor : Class} (made : cls ∈ handles.classes) (made' : ancestor ∈ handles.classes) :
    cls.inheritsFrom ancestor = true ↔ ancestor ∈ cls.chain := by
  rw [Class.inheritsFrom_iff]
  constructor
  · rintro ⟨base, inside, same⟩
    have there := (reached.descends made).2 base inside
    obtain rfl := reached.class_eq there made' same
    exact inside
  · intro inside
    exact ⟨ancestor, inside, rfl⟩

end Registry

end TypeAssertion
