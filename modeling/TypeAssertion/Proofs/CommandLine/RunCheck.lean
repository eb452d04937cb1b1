import TypeAssertion.CommandLine
import TypeAssertion.Proofs.Check.Verdict
import TypeAssertion.Proofs.Configuration

/-!
A check from the three sources of the setting to the exit code. Descriptor and document are read
first and fail whatever the setting is. Then a check that is neither enforced nor forced says `ok`,
and any other says so when the document is null under a layer or of the kind of the core. It
follows that nothing but null meets a core that is a function or absent.
-/

set_option autoImplicit false

namespace TypeAssertion

namespace Descriptor

/-- A descriptor that a text can give does not look at the switch. -/
theorem blind_of_isWritable {descriptor : Descriptor} (writable : descriptor.isWritable = true) :
    descriptor.Blind := by
  intro value
  rw [accepts_eq true descriptor, accepts_eq false descriptor]
  rcases core_of_isWritable writable with ⟨kind, core⟩ | core
  · rw [core]
    rfl
  · rw [core]
    rfl

/-- The verdict on a document, while the switch is on or off. -/
theorem verdict_ofDocument_iff {descriptor : Descriptor} {document : Json}
    (writable : descriptor.isWritable = true) (sound : document.WellFormed) (switch : Bool) :
    descriptor.verdict switch (Value.ofDocument document) = true ↔ document.Fits descriptor := by
  have blind := blind_of_isWritable writable
  rw [@Blind.verdict_eq true _ _ blind switch, ← accepts_eq_verdict]
  exact accepts_ofDocument_iff writable sound

end Descriptor

namespace Json

theorem fits_iff {document : Json} {descriptor : Descriptor} : document.Fits descriptor ↔
    (document = .null ∧ 0 < descriptor.layers) ∨
      ∃ kind, descriptor.core = .primitive kind ∧ document.kind? = some kind := by
  rw [Fits, Descriptor.isNullable_eq, decide_eq_true_iff]

/-- No document is a function, and none is missing. -/
theorem Fits.of_hollow {document : Json} {descriptor : Descriptor} (fits : document.Fits descriptor)
    (hollow : descriptor.core = .function ∨ descriptor.core = .absent) :
    document = .null ∧ 0 < descriptor.layers := by
  rcases fits_iff.1 fits with layered | ⟨kind, core, is⟩
  · exact layered
  · rcases hollow with core' | core'
    · obtain rfl : kind = .function := Descriptor.primitive.inj (core.symm.trans core')
      cases document <;> simp [kind?] at is
    · rw [core'] at core
      cases core

end Json

namespace CommandLine

/-- The text that a check is about. A dash stands for the input. -/
def CheckRequest.text (request : CheckRequest) (input : String) : String :=
  if request.input = "-" then input else request.input

/-- True when a check takes its document for granted. -/
def CheckRequest.Skips (request : CheckRequest) (enforced : Bool) : Prop :=
  enforced = false ∧ request.force = false

/-- The message of a mismatch that is not soft. -/
def mismatchMessage (document : Json) (descriptor : Descriptor) : String :=
  "invalid type: " ++ (Value.ofDocument document).typeName ++ ", expected " ++ descriptor.display

/-- How a check ends under a setting. -/
structure CheckEnds (enforced : Bool) (request : CheckRequest) (text : String)
    (outcome : Outcome) : Prop where
  ok_iff : outcome.code = 0 ∧ outcome.output = "ok\n" ↔
    ∃ descriptor document, Descriptor.parse request.descriptor = .ok descriptor ∧
      Json.ofText? text = some document ∧
      (request.Skips enforced ∨
        (document = .null ∧ 0 < descriptor.layers) ∨
        ∃ kind, descriptor.core = .primitive kind ∧ document.kind? = some kind)
  otherwise : ¬(outcome.code = 0 ∧ outcome.output = "ok\n") →
    outcome.code = 1 ∧ outcome.output ≠ "ok\n"
  bad_descriptor : ∀ cause, Descriptor.parse request.descriptor = .error cause →
    outcome = .failed (.descriptor cause)
  bad_document : ∀ descriptor, Descriptor.parse request.descriptor = .ok descriptor →
    Json.ofText? text = none → outcome = .failed .invalidInput
  mismatch : ∀ descriptor document, Descriptor.parse request.descriptor = .ok descriptor →
    Json.ofText? text = some document → ¬(outcome.code = 0 ∧ outcome.output = "ok\n") →
    outcome.output = "mismatch\n" ∧
      outcome.notes = if request.soft then [] else [mismatchMessage document descriptor]
  hollow : ∀ descriptor document, Descriptor.parse request.descriptor = .ok descriptor →
    Json.ofText? text = some document →
    descriptor.core = .function ∨ descriptor.core = .absent →
    outcome.code = 0 → request.Skips enforced ∨ (document = .null ∧ 0 < descriptor.layers)

variable {request : CheckRequest} {enforced : Bool} {input : String}

/-! ### The strictness of a request -/

theorem CheckRequest.strictness_eq_forced_iff
    (flags : ¬(request.soft = true ∧ request.force = true)) :
    request.strictness = .forced ↔ request.force = true := by
  unfold strictness
  cases soft : request.soft <;> cases force : request.force <;> simp_all

theorem CheckRequest.strictness_eq_soft_iff : request.strictness = .soft ↔ request.soft = true := by
  unfold strictness
  cases request.soft <;> cases request.force <;> simp

/-! ### What a check says -/

section Said

variable {descriptor : Descriptor} {document : Json}

theorem runCheck_of_parse (parsed : Descriptor.parse request.descriptor = .ok descriptor) :
    runCheck enforced input request =
      match evaluate .followSwitch enforced (request.text input) descriptor request.strictness with
      | .error failure => .failed failure
      | .ok .matched => ⟨0, "ok\n", []⟩
      | .ok (.mismatch message?) => ⟨1, "mismatch\n", message?.toList⟩ := by
  rw [runCheck, parsed]
  rfl

/-- A check whose descriptor and document are read says what the check of the value does. -/
theorem runCheck_of_read (parsed : Descriptor.parse request.descriptor = .ok descriptor)
    (read : Json.ofText? (request.text input) = some document) :
    runCheck enforced input request =
      match checkIn .followSwitch enforced (Value.ofDocument document) descriptor
        request.strictness with
      | .ok true => ⟨0, "ok\n", []⟩
      | .ok false => ⟨1, "mismatch\n", []⟩
      | .error failure => ⟨1, "mismatch\n", [failure.message]⟩ := by
  rw [runCheck_of_parse parsed, evaluate, read]
  dsimp only
  cases checkIn .followSwitch enforced (Value.ofDocument document) descriptor
      request.strictness with
  | error failure => rfl
  | ok answer => cases answer <;> rfl

theorem runCheck_of_passing (flags : ¬(request.soft = true ∧ request.force = true))
    (parsed : Descriptor.parse request.descriptor = .ok descriptor)
    (read : Json.ofText? (request.text input) = some document)
    (passing : request.Skips enforced ∨ document.Fits descriptor) :
    runCheck enforced input request = ⟨0, "ok\n", []⟩ := by
  have writable := Descriptor.isWritable_of_parse parsed
  have sound := Json.wellFormed_of_ofText? read
  have checked : checkIn .followSwitch enforced (Value.ofDocument document) descriptor
      request.strictness = .ok true := by
    rw [checkIn_eq_ok_true_iff, Descriptor.verdict_ofDocument_iff writable sound]
    intro reached
    rcases passing with ⟨off, unforced⟩ | fits
    · rcases reached with on | forced
      · exact absurd (on.symm.trans off) (by decide)
      · rw [CheckRequest.strictness_eq_forced_iff flags, unforced] at forced
        cases forced
    · exact fits
  rw [runCheck_of_read parsed read, checked]

theorem runCheck_of_failing (flags : ¬(request.soft = true ∧ request.force = true))
    (parsed : Descriptor.parse request.descriptor = .ok descriptor)
    (read : Json.ofText? (request.text input) = some document)
    (looks : ¬request.Skips enforced) (unfit : ¬document.Fits descriptor) :
    runCheck enforced input request =
      ⟨1, "mismatch\n", if request.soft then [] else [mismatchMessage document descriptor]⟩ := by
  have writable := Descriptor.isWritable_of_parse parsed
  have sound := Json.wellFormed_of_ofText? read
  have rejected : ¬descriptor.verdict enforced (Value.ofDocument document) = true :=
    mt (Descriptor.verdict_ofDocument_iff writable sound enforced).1 unfit
  have reached : EnforcementMode.followSwitch.resolve enforced = true ∨
      request.strictness = .forced := by
    rw [CheckRequest.strictness_eq_forced_iff flags]
    cases enforced with
    | true => exact .inl rfl
    | false => exact .inr (Bool.eq_true_of_not_eq_false fun unforced => looks ⟨rfl, unforced⟩)
  rw [runCheck_of_read parsed read, checkIn_of_reached reached, if_neg rejected]
  simp only [CheckRequest.strictness_eq_soft_iff]
  cases request.soft <;> rfl

/-- The law for a check that passes, by what was read. -/
theorem checkEnds_of_passing {text : String}
    (parsed : Descriptor.parse request.descriptor = .ok descriptor)
    (read : Json.ofText? text = some document)
    (passing : request.Skips enforced ∨ document.Fits descriptor) :
    CheckEnds enforced request text ⟨0, "ok\n", []⟩ where
  ok_iff := iff_of_true ⟨rfl, rfl⟩
    ⟨descriptor, document, parsed, read, passing.imp_right Json.fits_iff.1⟩
  otherwise := absurd ⟨rfl, rfl⟩
  bad_descriptor := by simp [parsed]
  bad_document := by simp [read]
  mismatch _ _ _ _ := absurd ⟨rfl, rfl⟩
  hollow := by
    intro other document' parsed' read' hollow _
    obtain rfl := Except.ok.inj (parsed.symm.trans parsed')
    obtain rfl := Option.some.inj (read.symm.trans read')
    exact passing.imp_right fun fits => fits.of_hollow hollow

/-- The law for a check that finds a mismatch, by what was read. -/
theorem checkEnds_of_failing {text : String}
    (parsed : Descriptor.parse request.descriptor = .ok descriptor)
    (read : Json.ofText? text = some document)
    (failing : ¬(request.Skips enforced ∨ document.Fits descriptor)) :
    CheckEnds enforced request text
      ⟨1, "mismatch\n", if request.soft then [] else [mismatchMessage document descriptor]⟩ where
  ok_iff := by
    refine iff_of_false (by simp) ?_
    rintro ⟨other, document', parsed', read', met⟩
    obtain rfl := Except.ok.inj (parsed.symm.trans parsed')
    obtain rfl := Option.some.inj (read.symm.trans read')
    exact failing (met.imp_right Json.fits_iff.2)
  otherwise _ := ⟨rfl, by simp⟩
  bad_descriptor := by simp [parsed]
  bad_document := by simp [read]
  mismatch := by
    intro other document' parsed' read' _
    obtain rfl := Except.ok.inj (parsed.symm.trans parsed')
    obtain rfl := Option.some.inj (read.symm.trans read')
    exact ⟨rfl, rfl⟩
  hollow := by simp

end Said

/-- A check ends by the law, once the setting of the switch is known. -/
theorem checkEnds_runCheck (flags : ¬(request.soft = true ∧ request.force = true)) :
    CheckEnds enforced request (request.text input) (runCheck enforced input request) := by
  cases parsed : Descriptor.parse request.descriptor with
  | error cause =>
    have said : runCheck enforced input request = .failed (.descriptor cause) := by
      rw [runCheck, parsed]
    rw [said]
    constructor <;> simp [parsed, Outcome.failed]
  | ok descriptor =>
    cases read : Json.ofText? (request.text input) with
    | none =>
      have said : runCheck enforced input request = .failed .invalidInput := by
        rw [runCheck_of_parse parsed, evaluate, read]
      rw [said]
      constructor <;> simp [parsed, read, Outcome.failed]
    | some document =>
      by_cases passing : request.Skips enforced ∨ document.Fits descriptor
      · rw [runCheck_of_passing flags parsed read passing]
        exact checkEnds_of_passing parsed read passing
      · obtain ⟨looks, unfit⟩ := not_or.1 passing
        rw [runCheck_of_failing flags parsed read looks unfit]
        exact checkEnds_of_failing parsed read passing

/-! ### From the invocation to the outcome -/

/-- A check is carried out under the setting that its sources settle on. -/
theorem run_perform_of_check {surroundings : Surroundings} {invocation : Invocation}
    {configuration? : Option Configuration} (monitor : Monitor)
    (loaded : chosenConfiguration surroundings.files invocation.configuration? = .ok configuration?)
    (command : invocation.command = .check request) :
    let settled := (Configuration.resolve configuration? surroundings.setting?
      invocation.turnedOff).run monitor
    ∃ left : Monitor, left.enforced = settled.1 ∧
      (perform surroundings invocation).run monitor =
        (runCheck settled.1 surroundings.input request, left) := by
  intro settled
  let left := ((setEnforced settled.1).run settled.2).2
  have set : left.enforced = settled.1 := enforced_setEnforced settled.1 settled.2
  refine ⟨left, set, ?_⟩
  rw [perform, loaded]
  dsimp only
  rw [command]
  change (runCheck left.enforced surroundings.input request, left) = _
  rw [set]

/-- A check sets the switch to what the flag, the environment and the configuration settle on. It
says `ok` exactly when descriptor and document can be read and the check is neither enforced nor
forced, or the document is null under a layer or of the kind of the core. -/
theorem check_says_ok_iff_document_fits {surroundings : Surroundings} {invocation : Invocation}
    {configuration? : Option Configuration}
    (loaded : chosenConfiguration surroundings.files invocation.configuration? = .ok configuration?)
    (command : invocation.command = .check request)
    (flags : ¬(request.soft = true ∧ request.force = true)) (monitor : Monitor) :
    let ended := (perform surroundings invocation).run monitor
    Configuration.SettledBy configuration? surroundings.setting? invocation.turnedOff
      ended.2.enforced ∧
    CheckEnds ended.2.enforced request (request.text surroundings.input) ended.1 := by
  intro ended
  obtain ⟨left, set, said⟩ := run_perform_of_check monitor loaded command
  change ended = _ at said
  rw [said, set]
  exact ⟨Configuration.settledBy_resolve _ _ _ monitor, checkEnds_runCheck flags⟩

/-- The environment turns enforcement off against the configuration, and a forced check looks all
the same: null passes under the layer, and for a boolean there is a message. -/
theorem forced_check_looks_while_environment_says_off :
    let files : Files := fun path => if path = "ensure.yaml" then some "enforce: true\n" else none
    let request : CheckRequest := ⟨"?number", false, true, "-"⟩
    let invocation : Invocation := ⟨0, some "ensure.yaml", false, .check request⟩
    let ended (input : String) := (perform ⟨some " OFF ", input, files⟩ invocation).run .initial
    chosenConfiguration files invocation.configuration? = .ok (some ⟨true⟩) ∧
    (ended "null").2.enforced = false ∧
    (ended "null").1.code = 0 ∧ (ended "null").1.output = "ok\n" ∧
    (ended "true").1.code = 1 ∧ (ended "true").1.output = "mismatch\n" ∧
    (ended "true").1.notes = ["invalid type: boolean, expected Nullable<Number>"] := by
  intro files request invocation ended
  have loaded : chosenConfiguration files invocation.configuration? = .ok (some ⟨true⟩) := rfl
  have parsed : Descriptor.parse "?number" = .ok (.nullable .number) := rfl
  have readNull : Json.ofText? "null" = some .null := rfl
  have readTrue : Json.ofText? "true" = some (.bool true) := rfl
  have flags : ¬(request.soft = true ∧ request.force = true) := by decide
  have law (input : String) := @check_says_ok_iff_document_fits request
    ⟨some " OFF ", input, files⟩ invocation (some ⟨true⟩) loaded rfl flags .initial
  have word : Configuration.settingWord " OFF " ∈ ["0", "false", "off", "no"] := by decide
  have off : (ended "null").2.enforced = false := (law "null").1.off rfl " OFF " rfl word
  obtain ⟨code, output⟩ := (law "null").2.ok_iff.2
    ⟨.nullable .number, .null, parsed, readNull, .inr (.inl ⟨rfl, by decide⟩)⟩
  have refused : ¬((ended "true").1.code = 0 ∧ (ended "true").1.output = "ok\n") := by
    intro said
    obtain ⟨descriptor, document, parsed', read, met⟩ := (law "true").2.ok_iff.1 said
    obtain rfl := Except.ok.inj (parsed.symm.trans parsed')
    obtain rfl := Option.some.inj (readTrue.symm.trans read)
    rcases met with ⟨-, unforced⟩ | ⟨isNull, -⟩ | ⟨kind, core, is⟩
    · cases unforced
    · cases isNull
    · cases core
      cases is
  have mismatch := (law "true").2.mismatch _ (.bool true) parsed readTrue refused
  exact ⟨loaded, off, code, output, ((law "true").2.otherwise refused).1, mismatch.1, mismatch.2⟩

end CommandLine

end TypeAssertion
