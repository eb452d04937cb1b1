import TypeAssertion.Proofs.Enforcement.Path

/-!
The switch as the top of a stack. Of a setting there is only one at a time, and each guard holds the
one it replaced. In a body whose guards nest, these make up a stack: the switch is its top, and below
the entry of a guard stands what the guard holds.
-/

set_option autoImplicit false

namespace TypeAssertion

namespace Enforcement

/-- True of a body that drops no guard before a later one and lets no guard out. The bodies in it
are such bodies. -/
def Code.Nested : {α : Type} → Code α → Prop
  | _, finish _ => True
  | _, panic => True
  | _, serve _ next => ∀ answer, (next answer).Nested
  | _, setSwitch _ next => ∀ previous, (next previous).Nested
  | _, makeGuard _ next => ∀ guard, (next guard).Nested
  | _, dropGuard place next => place = 0 ∧ next.Nested
  | _, release _ _ => False
  | _, adopt _ _ => False
  | _, scope _ body next => body.Nested ∧ ∀ answer, (next answer).Nested
  | _, strictScope body next => body.Nested ∧ ∀ answer, (next answer).Nested
  | _, attempt body next => body.Nested ∧ ∀ ending, (next ending).Nested
  | _, callShield _ function _ _ next =>
    (∀ context arguments, (function context arguments).Nested) ∧ ∀ outcome, (next outcome).Nested

/-- What an act does to the stack of settings. -/
def Act.onStack : Act → List Bool → List Bool
  | opened enabled _, stack => enabled :: stack
  | replaced enabled _, stack => enabled :: stack.tail
  | closed _, stack => stack.tail
  | served, stack => stack

/-- What an act does to the guards that are open, the latest of which is the first. -/
def Act.onGuards : Act → List Guard → List Guard
  | opened _ guard, guards => guard :: guards
  | closed _, guards => guards.tail
  | replaced _ _, guards => guards
  | served, guards => guards

/-- The stack of settings after some moments. -/
def stackAfter (stack : List Bool) (moments : List Moment) : List Bool :=
  moments.foldl (fun stack moment => moment.act.onStack stack) stack

/-- The guards that are open after some moments. -/
def openAfter (guards : List Guard) (moments : List Moment) : List Guard :=
  moments.foldl (fun guards moment => moment.act.onGuards guards) guards

/-! ### Guards close in order -/

/-- True when the moments lead from some open guards to others, and only the latest guard that is
open is ever closed. -/
def InOrder : List Guard → List Moment → List Guard → Prop
  | guards, [], left => guards = left
  | guards, moment :: rest, left =>
    (∀ guard, moment.act = .closed guard → guards.head? = some guard) ∧
      InOrder (moment.act.onGuards guards) rest left

theorem InOrder.append {guards middle left : List Guard} {first second : List Moment}
    (before : InOrder guards first middle) (after : InOrder middle second left) :
    InOrder guards (first ++ second) left := by
  induction first generalizing guards with
  | nil =>
    obtain rfl : guards = middle := before
    exact after
  | cons moment rest ih =>
    obtain ⟨latest, later⟩ := before
    exact ⟨latest, ih later⟩

theorem InOrder.split {guards left : List Guard} {first second : List Moment}
    (inOrder : InOrder guards (first ++ second) left) :
    InOrder guards first (openAfter guards first) ∧
      InOrder (openAfter guards first) second left := by
  induction first generalizing guards with
  | nil => exact ⟨rfl, inOrder⟩
  | cons moment rest ih =>
    obtain ⟨latest, later⟩ := inOrder
    obtain ⟨before, after⟩ := ih later
    exact ⟨⟨latest, before⟩, after⟩

theorem inOrder_served (guards : List Guard) (before after : Monitor) :
    InOrder guards [⟨before, .served, after⟩] guards := by
  refine ⟨?_, rfl⟩
  intro guard closed
  cases closed

/-- Dropping the latest guards of all closes them in order. -/
theorem inOrder_closing (own below : List Guard) (monitor : Monitor) :
    InOrder (own ++ below) (closing own monitor) below := by
  induction own generalizing monitor with
  | nil => rfl
  | cons guard rest ih =>
    refine ⟨?_, ih (guard.drop.run monitor).2⟩
    rintro _ ⟨⟩
    rfl

theorem inOrder_moments {β : Type} {own below : List Guard} {later : β → List Moment}
    (goesOn : ∀ answer, InOrder (own ++ below) (later answer) below) (monitor : Monitor)
    (ending : Ending β) : InOrder (own ++ below) (ending.moments own later monitor) below := by
  cases ending with
  | returned answer => exact goesOn answer
  | panicked => exact inOrder_closing own below monitor

/-- A scope closes its own guard, which is the latest again when its body has ended. -/
theorem inOrder_scopeMoments {β : Type} {enabled : Bool} {body : Monitored (Ending β)}
    {inside : Monitor → List Moment}
    (nested : ∀ guards monitor, InOrder guards (inside monitor) guards) (guards : List Guard)
    (monitor : Monitor) : InOrder guards (scopeMoments enabled body inside monitor) guards := by
  refine ⟨?_, InOrder.append (nested _ _) ⟨?_, rfl⟩⟩
  · intro guard closed
    cases closed
  · rintro _ ⟨⟩
    rfl

/-- A nested body that has some guards of its own closes these and leaves the others open. -/
theorem inOrder_trace {α : Type} {code : Code α} (nested : code.Nested) (own below : List Guard)
    (monitor : Monitor) : InOrder (own ++ below) (code.trace own monitor) below := by
  -- A body inside has no guards of its own at first; all that are open lie below it.
  induction code generalizing own below monitor with
  | finish answer => exact inOrder_closing own below monitor
  | panic => exact inOrder_closing own below monitor
  | serve service next ih =>
    exact InOrder.append (inOrder_served _ _ _) (ih _ (nested _) own below _)
  | setSwitch enabled next ih =>
    refine ⟨?_, ih _ (nested _) own below _⟩
    intro guard closed
    cases closed
  | makeGuard enabled next ih =>
    refine ⟨?_, ih _ (nested _) (_ :: own) below _⟩
    intro guard closed
    cases closed
  | dropGuard place next ih =>
    obtain ⟨rfl, nested⟩ := nested
    cases own with
    | nil => exact ih nested [] below _
    | cons guard rest =>
      exact InOrder.append (inOrder_closing [guard] (rest ++ below) _) (ih nested rest below _)
  | release place next ih => exact nested.elim
  | adopt guard next ih => exact nested.elim
  | scope enabled body next body_ih next_ih =>
    exact InOrder.append (inOrder_scopeMoments (body_ih nested.1 []) _ _)
      (inOrder_moments (fun answer => next_ih answer (nested.2 answer) own below _) _ _)
  | strictScope body next body_ih next_ih =>
    exact InOrder.append (inOrder_scopeMoments (body_ih nested.1 []) _ _)
      (inOrder_moments (fun answer => next_ih answer (nested.2 answer) own below _) _ _)
  | attempt body next body_ih next_ih =>
    exact InOrder.append (body_ih nested.1 [] (own ++ below) monitor)
      (next_ih _ (nested.2 _) own below _)
  | callShield shield function context arguments next function_ih next_ih =>
    refine InOrder.append ?_ (inOrder_moments ?_ _ _)
    · cases shield.refusal? monitor.enforced arguments with
      | some failure => exact inOrder_served _ _ _
      | none => exact function_ih _ _ (nested.1 _ _) [] (own ++ below) monitor
    · exact fun outcome => next_ih outcome (nested.2 outcome) own below _

/-! ### The stack -/

/-- The stack that the switch and the open guards make up. -/
def stackOf (monitor : Monitor) (guards : List Guard) : List Bool :=
  monitor.enforced :: guards.map Guard.previous

/-- One moment: what it does to the stack is what it does to the switch and the open guards. -/
theorem Moment.Lawful.onStack_eq {moment : Moment} (lawful : moment.Lawful) {guards : List Guard}
    (latest : ∀ guard, moment.act = .closed guard → guards.head? = some guard) :
    moment.act.onStack (stackOf moment.before guards) =
      stackOf moment.after (moment.act.onGuards guards) := by
  obtain ⟨before, act, after⟩ := moment
  cases act with
  | opened enabled guard =>
    have sets : after.enforced = enabled := lawful.enforced_after rfl
    have holds : guard.previous = before.enforced := lawful.former_eq rfl
    simp [Act.onStack, Act.onGuards, stackOf, sets, holds]
  | replaced enabled previous =>
    have sets : after.enforced = enabled := lawful.enforced_after rfl
    simp [Act.onStack, Act.onGuards, stackOf, sets]
  | closed guard =>
    have restores : after.enforced = guard.previous := lawful.enforced_after rfl
    cases guards with
    | nil => simpa using latest guard rfl
    | cons first rest =>
      obtain rfl : first = guard := Option.some.inj (latest guard rfl)
      simp [Act.onStack, Act.onGuards, stackOf, restores]
  | served =>
    have stays : after.enforced = before.enforced := (lawful.quiet rfl).enforced
    simp [Act.onStack, Act.onGuards, stackOf, stays]

/-- A whole run: by induction on its moments, the stack stays that of the switch and the open
guards. -/
theorem Path.stackAfter_eq {start finish : Monitor} {moments : List Moment}
    {guards left : List Guard} (path : Path start moments finish)
    (inOrder : InOrder guards moments left) :
    stackAfter (stackOf start guards) moments = stackOf finish left := by
  induction moments generalizing start guards with
  | nil =>
    obtain rfl : start = finish := path
    obtain rfl : guards = left := inOrder
    rfl
  | cons moment rest ih =>
    obtain ⟨rfl, lawful, later⟩ := path
    obtain ⟨latest, ordered⟩ := inOrder
    change stackAfter (moment.act.onStack (stackOf moment.before guards)) rest = _
    rw [lawful.onStack_eq latest]
    exact ih later ordered

/-- In a run of a body whose guards nest, the switch is at every moment the top of a stack. The stack
starts with the switch as it is found. A scope or a guard pushes its setting when it opens, a plain
setting replaces the top, and the close of a scope or a guard, by a panic too, pops. Below the entry
of each open guard stands the setting that the guard holds. Every scope, nested or not, leaves the
switch as it finds it. -/
theorem switch_is_top_of_stack {α : Type} {code : Code α} (nested : code.Nested)
    (monitor : Monitor) :
    let moments := code.trace [] monitor
    let finish := ((code.run []).run monitor).2
    Path monitor moments finish ∧
    (∀ before moment after, moments = before ++ moment :: after →
      let stack := stackAfter [monitor.enforced] before
      let guards := openAfter [] before
      stack = moment.before.enforced :: guards.map Guard.previous ∧
      moment.act.onStack stack =
        moment.after.enforced :: (moment.act.onGuards guards).map Guard.previous ∧
      ∀ guard, moment.act = .closed guard → guards.head? = some guard) ∧
    stackAfter [monitor.enforced] moments = [finish.enforced] ∧
    ∀ {β : Type} (enabled : Bool) (body : Code β) (found : Monitor),
      ((withEnforcement enabled (body.run [])).run found).2.enforced = found.enforced ∧
      ((strictly (body.run [])).run found).2.enforced = found.enforced := by
  intro moments finish
  have path : Path monitor moments finish := path_trace code [] monitor
  have inOrder : InOrder [] moments [] := inOrder_trace nested [] [] monitor
  refine ⟨path, ?_, path.stackAfter_eq inOrder, ?_⟩
  · intro before moment after split stack guards
    rw [split] at path inOrder
    obtain ⟨middle, toHere, here⟩ := path.split
    obtain ⟨ordered, latest, later⟩ := inOrder.split
    obtain ⟨rfl, lawful, onward⟩ := here
    have stack_eq : stack = stackOf moment.before guards := toHere.stackAfter_eq ordered
    refine ⟨stack_eq, ?_, latest⟩
    rw [stack_eq]
    exact lawful.onStack_eq latest
  · intro β enabled body found
    constructor
    · exact enforced_withEnforcement enabled (body.run []) found
    · exact enforced_withEnforcement true (body.run []) found

/-- Two scopes with a guard between them, all left by a panic, which is caught under another guard. -/
def panickingScopes : Code Unit :=
  .makeGuard false fun _ =>
  .attempt
    (.scope true
      (.setSwitch false fun _ =>
        .makeGuard true fun _ =>
        .strictScope (.setSwitch false fun _ => .panic) fun () => .finish ())
      fun () => .finish ())
    fun (_ : Ending Unit) =>
  .setSwitch true fun _ =>
  .dropGuard 0 <|
  .setSwitch false fun _ =>
  .finish ()

/-- The panic closes the guard between the scopes after the inner scope: the entry of the guard is
the top again, and below it stands the setting that the guard held. -/
theorem panic_closes_guard_between_scopes :
    panickingScopes.Nested ∧ ∃ before moment after,
      panickingScopes.trace [] .initial = before ++ moment :: after ∧
      before.length = 7 ∧ moment.act = .closed ⟨false⟩ ∧
      stackAfter [true] before = [true, false, false, true] ∧
      stackAfter [true] before = moment.before.enforced :: (openAfter [] before).map Guard.previous ∧
      [false, false, true] =
        moment.after.enforced :: (openAfter [] (before ++ [moment])).map Guard.previous ∧
      (openAfter [] before).head? = some ⟨false⟩ := by
  have nested : panickingScopes.Nested := by simp [panickingScopes, Code.Nested]
  have moments := (switch_is_top_of_stack nested .initial).2.1
  obtain ⟨stack, popped, latest⟩ := moments
    ((panickingScopes.trace [] .initial).take 7) _ ((panickingScopes.trace [] .initial).drop 8) rfl
  exact ⟨nested, _, _, _, rfl, rfl, rfl, rfl, stack, popped, latest _ rfl⟩

end Enforcement

end TypeAssertion
