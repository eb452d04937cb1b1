import Mathlib.Data.List.Chain
import TypeAssertion.Proofs.Enforcement.Path

/-!
The reports of the switch as its history. Every body, in whatever order it drops its guards, reports
each change of the switch and nothing else of it: the reports alternate, and the last one is the
switch.
-/

set_option autoImplicit false

namespace TypeAssertion

namespace Enforcement

/-- The settings of the switch that were reported, the oldest first. -/
def toggles (monitor : Monitor) : List Bool := monitor.events.toList.filterMap reported?

/-- The setting that the reports tell, where the switch was found as given. -/
def toldSetting (found : Bool) (monitor : Monitor) : Bool := (toggles monitor).getLast?.getD found

/-- True when the reports are the history of the switch, which was found as given. -/
structure Recorded (found : Bool) (monitor : Monitor) : Prop where
  alternates : (toggles monitor).IsChain (· ≠ ·)
  first : ∀ enabled ∈ (toggles monitor).head?, enabled = !found
  current : monitor.enforced = toldSetting found monitor

theorem Recorded.start (found : Bool) : Recorded found ⟨found, #[]⟩ :=
  ⟨.nil, by simp [toggles], rfl⟩

theorem Quiet.toggles_eq {before after : Monitor} (quiet : Quiet before after) :
    toggles after = toggles before := by
  obtain ⟨others, events, silent⟩ := quiet.events
  have none_told : others.filterMap reported? = [] := List.filterMap_eq_nil_iff.2 silent
  unfold toggles
  rw [events, List.filterMap_append, none_told, List.append_nil]

theorem Quiet.recorded {found : Bool} {before after : Monitor} (quiet : Quiet before after)
    (recorded : Recorded found before) : Recorded found after := by
  have same : toggles after = toggles before := quiet.toggles_eq
  constructor
  · rw [same]
    exact recorded.alternates
  · rw [same]
    exact recorded.first
  · rw [quiet.enforced, recorded.current]
    unfold toldSetting
    rw [same]

theorem toggles_push (monitor : Monitor) (enabled : Bool) :
    toggles ⟨enabled, monitor.events.push (.toggled enabled)⟩ = toggles monitor ++ [enabled] := by
  unfold toggles
  rw [Array.toList_push, List.filterMap_append]
  rfl

/-- Setting the switch keeps the reports its history: a change is told, and it differs from what was
told last. -/
theorem Recorded.switched {found : Bool} {monitor : Monitor} (recorded : Recorded found monitor)
    (enabled : Bool) : Recorded found (switched enabled monitor) := by
  unfold Enforcement.switched
  by_cases same : monitor.enforced = enabled
  · rw [if_pos same]
    exact recorded
  · rw [if_neg same]
    have pushed := toggles_push monitor enabled
    have current := recorded.current
    unfold toldSetting at current
    constructor
    · rw [pushed]
      refine recorded.alternates.append (.singleton enabled) ?_
      intro last isLast new isNew
      obtain rfl : enabled = new := Option.some.inj isNew
      rw [isLast] at current
      intro equal
      exact same (current.trans equal)
    · rw [pushed, List.head?_append]
      intro first isFirst
      cases told : toggles monitor with
      | nil =>
        rw [told] at current isFirst
        obtain rfl : enabled = first := Option.some.inj isFirst
        have changed : enabled ≠ found := fun equal => same (current.trans equal.symm)
        exact Bool.eq_not.2 changed
      | cons oldest later =>
        rw [told] at isFirst
        apply recorded.first
        rw [told]
        exact isFirst
    · unfold toldSetting
      rw [pushed, List.getLast?_concat]
      rfl

/-- One moment keeps the reports the history of the switch. -/
theorem Moment.Lawful.recorded {moment : Moment} (lawful : moment.Lawful) {found : Bool}
    (recorded : Recorded found moment.before) : Recorded found moment.after := by
  cases sets : moment.act.setting? with
  | none => exact (lawful.quiet sets).recorded recorded
  | some enabled =>
    rw [lawful.after_eq sets]
    exact recorded.switched enabled

/-- A whole run: by induction on its moments, the reports are the history of the switch at each. -/
theorem Path.recorded {start finish : Monitor} {moments : List Moment} {found : Bool}
    (path : Path start moments finish) (recorded : Recorded found start) :
    Recorded found finish ∧ ∀ moment ∈ moments,
      moment.Lawful ∧ Recorded found moment.before ∧ Recorded found moment.after := by
  induction moments generalizing start with
  | nil =>
    obtain rfl : start = finish := path
    exact ⟨recorded, List.forall_mem_nil _⟩
  | cons moment rest ih =>
    obtain ⟨rfl, lawful, later⟩ := path
    have kept : Recorded found moment.after := lawful.recorded recorded
    obtain ⟨ended, throughout⟩ := ih later kept
    refine ⟨ended, ?_⟩
    rw [List.forall_mem_cons]
    exact ⟨⟨lawful, recorded, kept⟩, throughout⟩

/-- In every run the reports of the switch are its history. They alternate and start with the
opposite of what the switch was found as, and at every moment the last one is the switch. What sets
the switch reports a change and nothing else, and the former setting it gives back is the one that
the reports before it tell. -/
theorem toggles_are_history_of_switch {α : Type} (code : Code α) (found : Bool) :
    let start : Monitor := ⟨found, #[]⟩
    let moments := code.trace [] start
    let finish := ((code.run []).run start).2
    Path start moments finish ∧ Recorded found finish ∧
    ∀ moment ∈ moments, Recorded found moment.before ∧ Recorded found moment.after ∧
      (∀ enabled, moment.act.setting? = some enabled →
        moment.after.enforced = enabled ∧
        moment.after.events =
          if moment.before.enforced = enabled then moment.before.events
          else moment.before.events.push (.toggled enabled)) ∧
      ∀ previous, moment.act.former? = some previous →
        previous = toldSetting found moment.before := by
  intro start moments finish
  have path : Path start moments finish := path_trace code [] start
  obtain ⟨ended, throughout⟩ := path.recorded (Recorded.start found)
  refine ⟨path, ended, ?_⟩
  intro moment member
  obtain ⟨lawful, before, after⟩ := throughout moment member
  refine ⟨before, after, ?_, ?_⟩
  · intro enabled sets
    refine ⟨lawful.enforced_after sets, ?_⟩
    rw [lawful.after_eq sets]
    unfold switched
    exact apply_ite Monitor.events _ _ _
  · intro previous former
    rw [lawful.former_eq former]
    exact before.current

/-- A guard that is dropped before a later one, a scope left by a panic, a shield whose function sets
the switch, and two settings that change nothing. -/
def crossingGuards : Code Unit :=
  .makeGuard false fun _ =>
  .makeGuard false fun _ =>
  .dropGuard 1 <|
  .attempt (.scope false .panic fun () => .finish ()) fun (_ : Ending Unit) =>
  .callShield ⟨[], .absent, ⟨0, "f"⟩, Behaviour.constant .undefined, none, 0⟩
    (fun _ _ => .setSwitch false fun _ => .finish (.ok .undefined)) .null [] fun _ =>
  .setSwitch false fun _ =>
  .dropGuard 0 <|
  .finish ()

theorem crossing_guards_are_recorded :
    let finish := ((crossingGuards.run []).run .initial).2
    toggles finish = [false, true, false, true, false] ∧ Recorded true finish ∧
    ∃ moment ∈ crossingGuards.trace [] .initial,
      moment.act = .replaced false false ∧ toggles moment.before = [false, true, false, true, false] ∧
      moment.after.events = moment.before.events ∧ toldSetting true moment.before = false := by
  intro finish
  obtain ⟨-, recorded, throughout⟩ := toggles_are_history_of_switch crossingGuards true
  refine ⟨rfl, recorded, ?_⟩
  have member : (crossingGuards.trace [] .initial)[6] ∈ crossingGuards.trace [] .initial :=
    List.getElem_mem _
  obtain ⟨-, -, sets, former⟩ := throughout _ member
  exact ⟨_, member, rfl, rfl, (sets false rfl).2, (former false rfl).symm⟩

end Enforcement

end TypeAssertion
