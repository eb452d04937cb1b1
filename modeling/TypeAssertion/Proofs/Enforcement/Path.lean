import TypeAssertion.Proofs.Enforcement.Code
import TypeAssertion.Proofs.Record.Write
import TypeAssertion.Proofs.Shield.Make

/-!
The moments of a run join up: each starts where the one before it ended, and each is what its act
does to the switch. A guard, a scope and a plain setting all set the switch, and everything else
leaves it as it is and reports no setting of it.
-/

set_option autoImplicit false

namespace TypeAssertion

namespace Enforcement

/-! ### Setting the switch -/

/-- What setting the switch leaves. -/
def switched (enabled : Bool) (monitor : Monitor) : Monitor :=
  if monitor.enforced = enabled then monitor
  else ⟨enabled, monitor.events.push (.toggled enabled)⟩

theorem setEnforced_run_eq (enabled : Bool) (monitor : Monitor) :
    (setEnforced enabled).run monitor = (monitor.enforced, switched enabled monitor) :=
  run_setEnforced enabled monitor

theorem set_run_eq (enabled : Bool) (monitor : Monitor) :
    (Guard.set enabled).run monitor = (⟨monitor.enforced⟩, switched enabled monitor) := by
  unfold Guard.set
  rw [StateT.run_bind, setEnforced_run_eq]
  rfl

theorem drop_run_eq (guard : Guard) (monitor : Monitor) :
    guard.drop.run monitor = ((), switched guard.previous monitor) := by
  unfold Guard.drop
  rw [StateT.run_bind, setEnforced_run_eq]
  rfl

theorem enforced_switched (enabled : Bool) (monitor : Monitor) :
    (switched enabled monitor).enforced = enabled := by
  unfold switched
  by_cases same : monitor.enforced = enabled
  · rw [if_pos same]
    exact same
  · rw [if_neg same]

/-- A scope makes a guard, runs its body and drops the guard. -/
theorem withEnforcement_run_eq {α : Type} (enabled : Bool) (body : Monitored α)
    (monitor : Monitor) :
    (withEnforcement enabled body).run monitor =
      ((body.run (switched enabled monitor)).1,
        switched monitor.enforced (body.run (switched enabled monitor)).2) := by
  unfold withEnforcement
  rw [StateT.run_bind, set_run_eq]
  change (body >>= fun result => do
    (⟨monitor.enforced⟩ : Guard).drop
    return result).run (switched enabled monitor) = _
  rw [StateT.run_bind]
  change ((⟨monitor.enforced⟩ : Guard).drop >>= fun _ =>
    (pure (body.run (switched enabled monitor)).1 : Monitored α)).run
      (body.run (switched enabled monitor)).2 = _
  rw [StateT.run_bind, drop_run_eq]
  rfl

/-! ### Leaving the switch -/

/-- The setting that an event reports, if it reports one. -/
def reported? : Event → Option Bool
  | .toggled enabled => some enabled
  | _ => none

/-- True when the switch stays, and at most events that report no setting of it are added. -/
structure Quiet (before after : Monitor) : Prop where
  enforced : after.enforced = before.enforced
  events : ∃ others : List Event, after.events.toList = before.events.toList ++ others ∧
    ∀ event ∈ others, reported? event = none

theorem Quiet.refl (monitor : Monitor) : Quiet monitor monitor :=
  ⟨rfl, [], by simp⟩

theorem Quiet.push (monitor : Monitor) {event : Event} (other : reported? event = none) :
    Quiet monitor ⟨monitor.enforced, monitor.events.push event⟩ := by
  refine ⟨rfl, [event], ?_, ?_⟩
  · exact Array.toList_push
  · rw [List.forall_mem_singleton]
    exact other

theorem quiet_make (registry : Registry) (name : String) (spec : RecordSpec) (monitor : Monitor) :
    Quiet monitor ((RecordType.make registry name spec).run monitor).2 :=
  Quiet.push monitor rfl

theorem quiet_makeShield (registry : Registry) (arguments : List Descriptor)
    (returns : Descriptor) (function : Value) (bound? : Option Value) (monitor : Monitor) :
    Quiet monitor ((Shield.make registry arguments returns function bound?).run.run monitor).2 := by
  rw [Shield.run_make]
  cases Shield.assemble monitor.enforced registry arguments returns function bound? with
  | error failure => exact Quiet.refl monitor
  | ok shield => exact Quiet.push monitor rfl

/-- No service touches the switch. -/
theorem Service.quiet {α : Type} (service : Service α) (monitor : Monitor) :
    Quiet monitor (service.run.run monitor).2 := by
  cases service with
  | makeType registry name spec => exact quiet_make registry name spec monitor
  | readType registry name schema =>
    change Quiet monitor ((RecordType.ofSchema registry name schema).run.run monitor).2
    rw [RecordType.run_ofSchema]
    cases RecordSpec.ofSchema monitor.enforced schema with
    | error failure => exact Quiet.refl monitor
    | ok spec => exact quiet_make registry name spec monitor
  | makeShield registry arguments returns function bound? =>
    exact quiet_makeShield registry arguments returns function bound? monitor
  | readShield registry arguments returns function bound? =>
    change Quiet monitor
      ((Shield.ofValues registry arguments returns function bound?).run.run monitor).2
    rw [Shield.run_ofValues]
    cases Shield.readContract monitor.enforced arguments returns with
    | error failure => exact Quiet.refl monitor
    | ok contract =>
      exact quiet_makeShield registry contract.1 contract.2 function bound? monitor
  | _ => exact Quiet.refl monitor

theorem quiet_refused (shield : Shield) (count : Nat) (monitor : Monitor) :
    Quiet monitor (shield.refused count monitor) := by
  unfold Shield.refused
  split
  · exact Quiet.refl monitor
  · exact Quiet.push monitor rfl

/-! ### Moments that join up -/

/-- True of a moment that is what its act does. -/
def Moment.Lawful (moment : Moment) : Prop :=
  match moment.act with
  | .opened enabled guard => (Guard.set enabled).run moment.before = (guard, moment.after)
  | .replaced enabled previous => (setEnforced enabled).run moment.before = (previous, moment.after)
  | .closed guard => guard.drop.run moment.before = ((), moment.after)
  | .served => Quiet moment.before moment.after

/-- The setting that an act gives the switch, if it sets it. -/
def Act.setting? : Act → Option Bool
  | opened enabled _ => some enabled
  | replaced enabled _ => some enabled
  | closed guard => some guard.previous
  | served => none

/-- The former setting that is given back for an act: by setting the switch, and in a guard. -/
def Act.former? : Act → Option Bool
  | opened _ guard => some guard.previous
  | replaced _ previous => some previous
  | closed _ => none
  | served => none

namespace Moment.Lawful

variable {moment : Moment}

/-- An act that sets the switch does nothing else. -/
theorem after_eq (lawful : moment.Lawful) {enabled : Bool}
    (sets : moment.act.setting? = some enabled) :
    moment.after = switched enabled moment.before := by
  obtain ⟨before, act, after⟩ := moment
  cases act with
  | opened enabled guard =>
    obtain rfl := Option.some.inj sets
    have made := (set_run_eq _ before).symm.trans lawful
    exact (congrArg Prod.snd made).symm
  | replaced enabled previous =>
    obtain rfl := Option.some.inj sets
    have set := (setEnforced_run_eq _ before).symm.trans lawful
    exact (congrArg Prod.snd set).symm
  | closed guard =>
    obtain rfl := Option.some.inj sets
    have dropped := (drop_run_eq guard before).symm.trans lawful
    exact (congrArg Prod.snd dropped).symm
  | served => cases sets

theorem enforced_after (lawful : moment.Lawful) {enabled : Bool}
    (sets : moment.act.setting? = some enabled) : moment.after.enforced = enabled := by
  rw [lawful.after_eq sets]
  exact enforced_switched enabled moment.before

/-- The former setting that is given back is that of the switch. -/
theorem former_eq (lawful : moment.Lawful) {previous : Bool}
    (former : moment.act.former? = some previous) : previous = moment.before.enforced := by
  obtain ⟨before, act, after⟩ := moment
  cases act with
  | opened enabled guard =>
    obtain rfl := Option.some.inj former
    have made := (set_run_eq enabled before).symm.trans lawful
    exact (congrArg Guard.previous (congrArg Prod.fst made)).symm
  | replaced enabled previous =>
    obtain rfl := Option.some.inj former
    have set := (setEnforced_run_eq enabled before).symm.trans lawful
    exact (congrArg Prod.fst set).symm
  | closed guard => cases former
  | served => cases former

theorem quiet (lawful : moment.Lawful) (leaves : moment.act.setting? = none) :
    Quiet moment.before moment.after := by
  obtain ⟨before, act, after⟩ := moment
  cases act with
  | served => exact lawful
  | opened enabled guard => cases leaves
  | replaced enabled previous => cases leaves
  | closed guard => cases leaves

end Moment.Lawful

/-- True when the moments are lawful and lead from one state to the other. -/
def Path : Monitor → List Moment → Monitor → Prop
  | start, [], finish => start = finish
  | start, moment :: rest, finish =>
    moment.before = start ∧ moment.Lawful ∧ Path moment.after rest finish

theorem Path.append {start middle finish : Monitor} {first second : List Moment}
    (before : Path start first middle) (after : Path middle second finish) :
    Path start (first ++ second) finish := by
  induction first generalizing start with
  | nil =>
    obtain rfl : start = middle := before
    exact after
  | cons moment rest ih =>
    obtain ⟨here, lawful, later⟩ := before
    exact ⟨here, lawful, ih later⟩

theorem Path.split {start finish : Monitor} {first second : List Moment}
    (path : Path start (first ++ second) finish) :
    ∃ middle, Path start first middle ∧ Path middle second finish := by
  induction first generalizing start with
  | nil => exact ⟨start, rfl, path⟩
  | cons moment rest ih =>
    obtain ⟨here, lawful, later⟩ := path
    obtain ⟨middle, before, after⟩ := ih later
    exact ⟨middle, ⟨here, lawful, before⟩, after⟩

theorem path_closing (guards : List Guard) (monitor : Monitor) :
    Path monitor (closing guards monitor) ((dropAll guards).run monitor).2 := by
  induction guards generalizing monitor with
  | nil => rfl
  | cons guard rest ih => exact ⟨rfl, rfl, ih (guard.drop.run monitor).2⟩

/-- Whatever a part of a body answers, the moments after it lead to the end of the body. -/
theorem path_moments {α β : Type} {own : List Guard} {next : β → Monitored (Ending α)}
    {later : β → List Moment} {monitor : Monitor}
    (goesOn : ∀ answer, Path monitor (later answer) ((next answer).run monitor).2)
    (ending : Ending β) :
    Path monitor (ending.moments own later monitor) ((ending.goOn own next).run monitor).2 := by
  cases ending with
  | returned answer => exact goesOn answer
  | panicked => exact path_closing own monitor

theorem path_scopeMoments {β : Type} {enabled : Bool} {body : Monitored (Ending β)}
    {inside : Monitor → List Moment}
    (joined : ∀ monitor, Path monitor (inside monitor) (body.run monitor).2) (monitor : Monitor) :
    Path monitor (scopeMoments enabled body inside monitor)
      ((withEnforcement enabled body).run monitor).2 := by
  refine ⟨rfl, rfl, Path.append (joined _) ⟨rfl, ?_, rfl⟩⟩
  change Guard.drop _ _ = _
  rw [withEnforcement_run_eq, set_run_eq]
  exact drop_run_eq _ _

/-- What a call leaves: it is refused, or its function runs and the call adds nothing. -/
theorem call_around_left (shield : Shield)
    (function : Value → List Value → Monitored (Ending (Except Failure Value))) (context : Value)
    (arguments : List Value) (monitor : Monitor) :
    (((around shield function).call context arguments).run.run monitor).2 =
      match shield.refusal? monitor.enforced arguments with
      | some _ => shield.refused arguments.length monitor
      | none => ((function (shield.bound?.getD context) arguments).run monitor).2 := by
  have same : (around shield function).refusal? monitor.enforced arguments =
      shield.refusal? monitor.enforced arguments := rfl
  have behaves : ((around shield function).behaviour (shield.bound?.getD context) arguments).run.run
      monitor = (((function (shield.bound?.getD context) arguments).run monitor).1.outcome,
        ((function (shield.bound?.getD context) arguments).run monitor).2) := rfl
  rw [Shield.run_call_eq, same]
  cases shield.refusal? monitor.enforced arguments with
  | some failure => rfl
  | none =>
    dsimp only
    rw [show (around shield function).bound? = shield.bound? from rfl, behaves]
    cases ((function (shield.bound?.getD context) arguments).run monitor).1.outcome with
    | error failure => rfl
    | ok answer =>
      dsimp only
      cases (around shield function).complaint? _ answer with
      | some failure => rfl
      | none => rfl

theorem callAround_left (shield : Shield)
    (function : Value → List Value → Monitored (Ending (Except Failure Value))) (context : Value)
    (arguments : List Value) (monitor : Monitor) :
    ((callAround shield function context arguments).run monitor).2 =
      (((around shield function).call context arguments).run.run monitor).2 := by
  unfold callAround StateT.run
  dsimp only
  split <;> rfl

theorem path_trace {α : Type} (code : Code α) (own : List Guard) (monitor : Monitor) :
    Path monitor (code.trace own monitor) ((code.run own).run monitor).2 := by
  induction code generalizing own monitor with
  | finish answer => exact path_closing own monitor
  | panic => exact path_closing own monitor
  | serve service next ih => exact ⟨rfl, service.quiet monitor, ih _ own _⟩
  | setSwitch enabled next ih => exact ⟨rfl, rfl, ih _ own _⟩
  | makeGuard enabled next ih => exact ⟨rfl, rfl, ih _ _ _⟩
  | dropGuard place next ih => exact Path.append (path_closing _ _) (ih _ _)
  | release place next ih => exact ih _ _ _
  | adopt guard next ih => exact ih _ _
  | scope enabled body next body_ih next_ih =>
    exact Path.append (path_scopeMoments (body_ih []) monitor)
      (path_moments (fun answer => next_ih answer own _) _)
  | strictScope body next body_ih next_ih =>
    exact Path.append (path_scopeMoments (body_ih []) monitor)
      (path_moments (fun answer => next_ih answer own _) _)
  | attempt body next body_ih next_ih =>
    exact Path.append (body_ih [] monitor) (next_ih _ own _)
  | callShield shield function context arguments next function_ih next_ih =>
    refine Path.append ?_ (path_moments (fun outcome => next_ih outcome own _) _)
    rw [callAround_left, call_around_left]
    cases refused : shield.refusal? monitor.enforced arguments with
    | some failure => exact ⟨rfl, quiet_refused shield arguments.length monitor, rfl⟩
    | none => exact function_ih _ _ [] monitor

end Enforcement

end TypeAssertion
