import TypeAssertion.Proofs.Shield.Make

/-!
Which shields can be built. The arguments that may be left out have to be the last ones; an argument
that is required after an optional one stands in the way, and the least position of such an argument
is reported. The leading arguments are required and the one after them is optional, so whatever is
required further on is misplaced, and if nothing is, the leading ones are all that have to be given.
-/

set_option autoImplicit false

namespace TypeAssertion.Shield

/-! ### Positions of arguments -/

/-- The argument at a position may be left out. -/
def OptionalAt (arguments : List Descriptor) (position : Nat) : Prop :=
  ∃ descriptor, arguments[position]? = some descriptor ∧ descriptor.isNullable = true

/-- There is an argument at a position, and it may not be left out. -/
def RequiredAt (arguments : List Descriptor) (position : Nat) : Prop :=
  ∃ descriptor, arguments[position]? = some descriptor ∧ descriptor.isNullable = false

/-- An argument that is required although one before it is optional. -/
structure Misplaced (arguments : List Descriptor) (position : Nat) : Prop where
  required : RequiredAt arguments position
  after_optional : ∃ earlier < position, OptionalAt arguments earlier

/-- The least position of a misplaced argument. -/
structure FirstMisplaced (arguments : List Descriptor) (position : Nat) : Prop
    extends Misplaced arguments position where
  least : ∀ other, Misplaced arguments other → position ≤ other

/-- The optional arguments are those from a position on. -/
structure OptionalFrom (arguments : List Descriptor) (start : Nat) : Prop where
  start_le : start ≤ arguments.length
  before : ∀ position < start, RequiredAt arguments position
  after : ∀ position, start ≤ position → position < arguments.length →
    OptionalAt arguments position

variable {arguments : List Descriptor} {position start : Nat}

theorem optionalAt_iff (inside : position < arguments.length) :
    OptionalAt arguments position ↔ arguments[position].isNullable = true := by
  simp [OptionalAt, inside]

theorem requiredAt_iff (inside : position < arguments.length) :
    RequiredAt arguments position ↔ arguments[position].isNullable = false := by
  simp [RequiredAt, inside]

theorem RequiredAt.not_optionalAt (required : RequiredAt arguments position) :
    ¬OptionalAt arguments position := by
  obtain ⟨descriptor, found, needed⟩ := required
  rintro ⟨other, found', optional⟩
  obtain rfl := Option.some.inj (found.symm.trans found')
  exact absurd (needed.symm.trans optional) (by decide)

theorem RequiredAt.lt_length (required : RequiredAt arguments position) :
    position < arguments.length := by
  obtain ⟨descriptor, found, -⟩ := required
  exact (List.getElem?_eq_some_iff.1 found).1

theorem optionalAt_or_requiredAt (inside : position < arguments.length) :
    OptionalAt arguments position ∨ RequiredAt arguments position := by
  rw [optionalAt_iff inside, requiredAt_iff inside]
  cases arguments[position].isNullable <;> simp

theorem requiredAt_drop :
    RequiredAt (arguments.drop start) position ↔ RequiredAt arguments (start + position) := by
  simp only [RequiredAt, List.getElem?_drop]

namespace OptionalFrom

theorem not_misplaced (trailing : OptionalFrom arguments start) :
    ¬Misplaced arguments position := by
  rintro ⟨required, earlier, before, optional⟩
  have late : start ≤ earlier :=
    Nat.le_of_not_lt fun early => (trailing.before earlier early).not_optionalAt optional
  exact required.not_optionalAt (trailing.after position (by omega) required.lt_length)

/-- The start of the optional arguments is the number of the others. -/
theorem start_add_countP (trailing : OptionalFrom arguments start) :
    start + arguments.countP Descriptor.isNullable = arguments.length := by
  have none : (arguments.take start).countP Descriptor.isNullable = 0 := by
    rw [List.countP_eq_zero]
    intro descriptor inside
    obtain ⟨position, below, rfl⟩ := List.mem_take_iff_getElem.1 inside
    have needed := (requiredAt_iff (by omega)).1 (trailing.before position (by omega))
    simp [needed]
  have all : (arguments.drop start).countP Descriptor.isNullable = arguments.length - start := by
    rw [← List.length_drop, List.countP_eq_length]
    intro descriptor inside
    obtain ⟨position, below, rfl⟩ := List.mem_drop_iff_getElem.1 inside
    exact (optionalAt_iff (by omega)).1 (trailing.after _ (by omega) (by omega))
  have inside := trailing.start_le
  calc start + arguments.countP Descriptor.isNullable
      = start + (arguments.take start ++ arguments.drop start).countP Descriptor.isNullable := by
        rw [List.take_append_drop]
    _ = start + (0 + (arguments.length - start)) := by rw [List.countP_append, none, all]
    _ = arguments.length := by omega

end OptionalFrom

theorem FirstMisplaced.unique {other : Nat} (first : FirstMisplaced arguments position)
    (second : FirstMisplaced arguments other) : position = other :=
  Nat.le_antisymm (first.least _ second.toMisplaced) (second.least _ first.toMisplaced)

/-! ### The leading arguments -/

/-- How many arguments stand before the first optional one. -/
def leading (arguments : List Descriptor) : Nat :=
  (arguments.takeWhile fun descriptor => !descriptor.isNullable).length

theorem leading_cons (descriptor : Descriptor) (rest : List Descriptor) :
    leading (descriptor :: rest) = if descriptor.isNullable then 0 else leading rest + 1 := by
  rw [leading, List.takeWhile_cons]
  cases descriptor.isNullable <;> rfl

theorem leading_le (arguments : List Descriptor) : leading arguments ≤ arguments.length :=
  (List.takeWhile_prefix _).length_le

theorem requiredAt_of_lt_leading (before : position < leading arguments) :
    RequiredAt arguments position := by
  induction arguments generalizing position with
  | nil => simp [leading] at before
  | cons descriptor rest ih =>
    rw [leading_cons] at before
    cases optional : descriptor.isNullable with
    | true => simp [optional] at before
    | false =>
      cases position with
      | zero => exact ⟨descriptor, rfl, optional⟩
      | succ position =>
        rw [optional, if_neg Bool.false_ne_true] at before
        exact ih (Nat.lt_of_succ_lt_succ before)

theorem not_requiredAt_leading (arguments : List Descriptor) :
    ¬RequiredAt arguments (leading arguments) := by
  induction arguments with
  | nil =>
    rintro ⟨_, found, -⟩
    simp at found
  | cons descriptor rest ih =>
    rw [leading_cons]
    cases optional : descriptor.isNullable with
    | true => exact fun required => required.not_optionalAt ⟨descriptor, rfl, optional⟩
    | false => exact ih

/-- If nothing is required after the leading arguments, the others are the optional ones. -/
theorem optionalFrom_leading
    (h : ∀ position, ¬RequiredAt arguments (leading arguments + position)) :
    OptionalFrom arguments (leading arguments) where
  start_le := leading_le arguments
  before _ := requiredAt_of_lt_leading
  after position late inside := by
    have none := h (position - leading arguments)
    rw [Nat.add_sub_cancel' late] at none
    exact (optionalAt_or_requiredAt inside).resolve_right none

/-- The first argument that is required after the leading ones is misplaced. -/
theorem firstMisplaced_leading (required : RequiredAt arguments (leading arguments + position))
    (first : ∀ earlier < position, ¬RequiredAt arguments (leading arguments + earlier)) :
    FirstMisplaced arguments (leading arguments + position) := by
  have after : position ≠ 0 := by
    rintro rfl
    exact not_requiredAt_leading arguments required
  have gap : OptionalAt arguments (leading arguments) := by
    have inside := required.lt_length
    exact (optionalAt_or_requiredAt (by omega)).resolve_right (not_requiredAt_leading arguments)
  refine ⟨⟨required, leading arguments, by omega, gap⟩, ?_⟩
  rintro other ⟨required', earlier, before, optional⟩
  have late : leading arguments ≤ earlier :=
    Nat.le_of_not_lt fun early => (requiredAt_of_lt_leading early).not_optionalAt optional
  refine Nat.le_of_not_lt fun below => first (other - leading arguments) (by omega) ?_
  rwa [Nat.add_sub_cancel' (by omega)]

/-! ### The number of required arguments -/

theorem findIdx?_required_eq_some_iff :
    (arguments.findIdx? fun descriptor => !descriptor.isNullable) = some position ↔
      RequiredAt arguments position ∧ ∀ earlier < position, ¬RequiredAt arguments earlier := by
  rw [List.findIdx?_eq_some_iff_getElem]
  constructor
  · rintro ⟨inside, needed, passed⟩
    refine ⟨(requiredAt_iff inside).2 (by simpa using needed), ?_⟩
    intro earlier before
    rw [requiredAt_iff (by omega)]
    simpa using passed earlier before
  · rintro ⟨required, passed⟩
    have inside := required.lt_length
    refine ⟨inside, by simpa using (requiredAt_iff inside).1 required, ?_⟩
    intro earlier before
    have optional := passed earlier before
    rw [requiredAt_iff (by omega)] at optional
    simpa using optional

theorem findIdx?_required_eq_none_iff :
    (arguments.findIdx? fun descriptor => !descriptor.isNullable) = none ↔
      ∀ position, ¬RequiredAt arguments position := by
  rw [List.findIdx?_eq_none_iff]
  constructor
  · rintro none position ⟨descriptor, found, needed⟩
    have optional := none descriptor (List.mem_of_getElem? found)
    simp [needed] at optional
  · intro none descriptor inside
    obtain ⟨position, found⟩ := List.mem_iff_getElem?.1 inside
    cases needed : descriptor.isNullable with
    | true => rfl
    | false => exact absurd ⟨descriptor, found, needed⟩ (none position)

/-- The number of required arguments is the start of the optional ones, unless an argument is
misplaced. -/
theorem requiredCount_cases (arguments : List Descriptor) :
    (∃ start, requiredCount arguments = .ok start ∧ OptionalFrom arguments start) ∨
      ∃ position,
        requiredCount arguments = .error (.precondition (.requiredAfterOptional position)) ∧
        FirstMisplaced arguments position := by
  cases found : (arguments.drop (leading arguments)).findIdx? fun d => !d.isNullable with
  | none =>
    have count : requiredCount arguments = .ok (leading arguments) := by
      rw [leading] at found ⊢
      simp only [requiredCount, found]
    have none := findIdx?_required_eq_none_iff.1 found
    simp only [requiredAt_drop] at none
    exact .inl ⟨_, count, optionalFrom_leading none⟩
  | some position =>
    have refused : requiredCount arguments =
        .error (.precondition (.requiredAfterOptional (leading arguments + position))) := by
      rw [leading] at found ⊢
      simp only [requiredCount, found]
    obtain ⟨required, first⟩ := findIdx?_required_eq_some_iff.1 found
    simp only [requiredAt_drop] at required first
    exact .inr ⟨_, refused, firstMisplaced_leading required first⟩

theorem exists_requiredCount_eq_ok_iff :
    (∃ start, requiredCount arguments = .ok start) ↔ ∀ position, ¬Misplaced arguments position := by
  rcases requiredCount_cases arguments with ⟨start, count, trailing⟩ | ⟨position, refused, first⟩
  · exact ⟨fun _ _ => trailing.not_misplaced, fun _ => ⟨start, count⟩⟩
  · rw [refused]
    refine ⟨by simp, fun none => absurd first.toMisplaced (none position)⟩

theorem optionalFrom_of_requiredCount (h : requiredCount arguments = .ok start) :
    OptionalFrom arguments start := by
  rcases requiredCount_cases arguments with ⟨_, count, trailing⟩ | ⟨_, refused, -⟩
  · obtain rfl := Except.ok.inj (count.symm.trans h)
    exact trailing
  · simp [refused] at h

theorem requiredCount_eq_error_iff {failure : Failure} :
    requiredCount arguments = .error failure ↔
      ∃ position, FirstMisplaced arguments position ∧
        failure = .precondition (.requiredAfterOptional position) := by
  rcases requiredCount_cases arguments with ⟨start, count, trailing⟩ | ⟨position, refused, first⟩
  · rw [count]
    refine ⟨by simp, ?_⟩
    rintro ⟨position, first, -⟩
    exact absurd first.toMisplaced trailing.not_misplaced
  · rw [refused]
    constructor
    · intro told
      exact ⟨position, first, (Except.error.inj told).symm⟩
    · rintro ⟨other, first', rfl⟩
      rw [first.unique first']

/-! ### Building -/

variable {registry : Registry} {returns : Descriptor} {function : Value} {bound? : Option Value}
  {monitor : Monitor}

/-- A function is put under a shield unless an argument is misplaced; the switch only decides how a
value that is none is refused. -/
theorem assemble_eq (switch : Bool) :
    assemble switch registry arguments returns function bound? =
      match function.function? with
      | some f => (requiredCount arguments).map fun least =>
          ⟨arguments, returns, f, registry.behaviour f, bound?, least⟩
      | none =>
        .error (if switch then .type (.ofMismatch function .function)
          else .precondition .notCallable) := by
  rw [assemble, ensure_eq, conforms_eq]
  cases function with
  | function f => cases switch <;> cases requiredCount arguments <;> rfl
  | _ => cases switch <;> rfl

/-- A shield is built around a function exactly when no argument is misplaced, whatever the switch.
Then the optional arguments are the last ones, and the shield admits any number of arguments between
the number of the others and the number of all; otherwise the least misplaced argument is the
failure. What is no function is refused for its type while enforcement is on, and else because it
cannot be called. -/
theorem shield_is_built_iff_optional_arguments_trail (registry : Registry)
    (arguments : List Descriptor) (returns : Descriptor) (function : Value)
    (bound? : Option Value) (monitor : Monitor) :
    let made := (make registry arguments returns function bound?).run.run monitor
    (function.isFunction = false → made =
      (.error (if monitor.enforced then .type ⟨.function, some function.typeName, none⟩
        else .precondition .notCallable), monitor)) ∧
    (function.isFunction = true →
      ((∃ shield, made.1 = .ok shield) ↔ ∀ position, ¬Misplaced arguments position) ∧
      (∀ shield, made.1 = .ok shield →
        shield.most = arguments.length ∧
        shield.least + arguments.countP Descriptor.isNullable = arguments.length ∧
        (∀ position < shield.least, RequiredAt arguments position) ∧
        ∀ position, shield.least ≤ position → position < arguments.length →
          OptionalAt arguments position) ∧
      ∀ failure, made.1 = .error failure ↔ ∃ position, FirstMisplaced arguments position ∧
        failure = .precondition (.requiredAfterOptional position)) := by
  intro made
  have run : made = _ := run_make registry arguments returns function bound? monitor
  rw [assemble_eq] at run
  constructor
  · intro other
    rw [Value.isFunction, Option.isSome_eq_false_iff, Option.isNone_iff_eq_none] at other
    rw [other] at run
    exact run
  · intro callable
    obtain ⟨f, isFunction⟩ := Option.isSome_iff_exists.1 callable
    rw [isFunction] at run
    rw [← exists_requiredCount_eq_ok_iff]
    simp only [← requiredCount_eq_error_iff]
    cases count : requiredCount arguments with
    | error cause =>
      rw [count] at run
      simp [run, Except.map]
    | ok least =>
      rw [count] at run
      have trailing := optionalFrom_of_requiredCount count
      refine ⟨by simp [run, Except.map], ?_, by simp [run, Except.map]⟩
      intro shield built
      rw [run] at built
      obtain rfl := Except.ok.inj built
      exact ⟨rfl, trailing.start_add_countP, trailing.before, trailing.after⟩

/-- Two optional arguments after a required one; an optional argument before two others that are
required, while enforcement is off; and a text in place of a function. -/
theorem misplaced_argument_is_named :
    let f := Value.function ⟨0, "f"⟩
    (∃ shield left,
      (make .initial [.string, .nullable .number, .nullable .object] .absent f none).run.run
        .initial = (.ok shield, left) ∧
      shield.least = 1 ∧ shield.most = 3) ∧
    (∃ failure,
      ((make .initial [.string, .nullable .number, .boolean, .string] .absent f none).run.run
        ⟨false, #[]⟩).1 = .error failure ∧
      failure.message =
        "precondition failed: argument 2 is required but follows an optional argument") ∧
    (make .initial [] .absent (.string "f") none).run.run .initial =
      (.error (.type ⟨.function, some "string", none⟩), .initial) := by
  intro f
  refine ⟨?_, ?_, ?_⟩
  · obtain ⟨-, law⟩ := shield_is_built_iff_optional_arguments_trail .initial
      [.string, .nullable .number, .nullable .object] .absent f none .initial
    obtain ⟨built, bounds, -⟩ := law rfl
    have trailing : OptionalFrom [.string, .nullable .number, .nullable .object] 1 :=
      optionalFrom_of_requiredCount rfl
    obtain ⟨shield, made⟩ := built.2 fun _ => trailing.not_misplaced
    obtain ⟨most, least, -⟩ := bounds shield made
    refine ⟨shield, _, Prod.ext made rfl, ?_, most⟩
    exact Nat.add_right_cancel (show shield.least + 2 = 1 + 2 from least)
  · obtain ⟨-, law⟩ := shield_is_built_iff_optional_arguments_trail .initial
      [.string, .nullable .number, .boolean, .string] .absent f none ⟨false, #[]⟩
    obtain ⟨-, -, refused⟩ := law rfl
    refine ⟨.precondition (.requiredAfterOptional 2), (refused _).2 ⟨2, ⟨?_, ?_⟩, rfl⟩, rfl⟩
    · exact ⟨⟨_, rfl, rfl⟩, 1, by decide, _, rfl, rfl⟩
    · rintro other ⟨required, earlier, before, optional⟩
      -- Nothing optional stands before the second argument.
      match earlier with
      | 0 => exact absurd optional (RequiredAt.not_optionalAt ⟨_, rfl, rfl⟩)
      | earlier + 1 => omega
  · exact (shield_is_built_iff_optional_arguments_trail .initial [] .absent (.string "f") none
      .initial).1 rfl

end TypeAssertion.Shield
