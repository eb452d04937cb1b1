import TypeAssertion.Proofs.CommandLine.Options
import TypeAssertion.Proofs.CommandLine.RunCheck

/-!
A check of a document that is an argument, against the same check with the document on the input.
What a line of arguments asks for is told by its options and the document alone. So both checks come
to the same, unless the document looks like an option: a negative number is refused as an argument,
and can be given only after the mark of the words or through the input.
-/

set_option autoImplicit false

namespace TypeAssertion

namespace Json

theorem readDocument_dash (depth : Nat) (text : List Char) :
    readDocument depth ('-' :: text) =
      (readNumeral ('-' :: text)).map fun (numeral, rest) => (.number numeral, rest) := by
  rw [readDocument]
  all_goals simp

theorem exists_digit_of_readNumeral {text : List Char} {read : Numeral × List Char}
    (h : readNumeral ('-' :: text) = some read) :
    ∃ digit rest, text = digit :: rest ∧ isDigit digit = true := by
  change (if (takeDigits text).1.isEmpty || _ then none else _) = some read at h
  cases text with
  | nil => cases h
  | cons c rest =>
    refine ⟨c, rest, rfl, ?_⟩
    by_contra plain
    have none : (takeDigits (c :: rest)).1 = [] := List.takeWhile_cons_of_neg plain
    rw [none] at h
    cases h

/-- A document that starts with a dash is a negative numeral. -/
theorem exists_digit_of_ofText? {text : String} {document : Json} {rest : List Char}
    (read : ofText? text = some document) (written : text.toList = '-' :: rest) :
    ∃ digit more, rest = digit :: more ∧ isDigit digit = true := by
  have start : skipSpaces ('-' :: rest) = '-' :: rest := rfl
  rw [ofText?, written, start, readDocument_dash] at read
  cases numeral : readNumeral ('-' :: rest) with
  | none =>
    rw [numeral] at read
    cases read
  | some found => exact exists_digit_of_readNumeral numeral

end Json

namespace CommandLine

/-- What the options of a check ask for, the document apart. -/
structure CheckOptions where
  verbosity : Nat
  configuration? : Option String
  turnedOff : Bool
  descriptor : String
  soft : Bool
  force : Bool

def CheckOptions.request (options : CheckOptions) (document : String) : CheckRequest :=
  ⟨options.descriptor, options.soft, options.force, document⟩

def CheckOptions.invocation (options : CheckOptions) (document : String) : Invocation :=
  ⟨options.verbosity, options.configuration?, options.turnedOff, .check (options.request document)⟩

/-- The arguments of a check around its document: the options in front of the command, and those on
both sides of the document. When all options come first, a mark may set the document apart. -/
structure CheckLine where
  top : List WrittenOption
  before : List WrittenOption
  after : List WrittenOption
  marked : Bool

namespace CheckLine

/-- The arguments after the name of the command. -/
def checkArguments (line : CheckLine) (document : String) : List String :=
  if line.marked then
    (line.before ++ line.after).flatMap WrittenOption.arguments ++ ["--", document]
  else
    line.before.flatMap WrittenOption.arguments ++
      document :: line.after.flatMap WrittenOption.arguments

def arguments (line : CheckLine) (document : String) : List String :=
  line.top.flatMap WrittenOption.arguments ++ "check" :: line.checkArguments document

/-- True of a line whose options are written as their forms ask. -/
structure Suits (line : CheckLine) : Prop where
  top : ∀ option ∈ line.top, option.Suits topForms
  check : ∀ option ∈ line.before ++ line.after, option.Suits checkForms

/-- What the options of a line come to, or why they are refused. -/
def options (line : CheckLine) : Except Stop CheckOptions := do
  let top ← Given.nothing.addOptions line.top
  let given ← Given.nothing.addOptions (line.before ++ line.after)
  if given.has "soft" && given.has "force" then
    throw (.misuse (.conflictingOptions "soft" "force"))
  let descriptor ← given.require "type"
  return {
    verbosity := if given.count = 0 then top.count else given.count
    configuration? := (given.value? "config").or (top.value? "config")
    turnedOff := given.has "no-enforce" || top.has "no-enforce"
    descriptor := descriptor
    soft := given.has "soft"
    force := given.has "force" }

variable {line : CheckLine} {document : String}

/-! ### Reading a line -/

theorem readLevel_checkArguments (suits : line.Suits)
    (word : looksLikeOption document = false ∨ line.marked = true) :
    readLevel checkForms [] 1 none .nothing (line.checkArguments document) =
      (Given.nothing.addOptions (line.before ++ line.after)).map fun given =>
        (given.withWords [document], none) := by
  obtain ⟨before, after⟩ := List.forall_mem_append.1 suits.check
  have silent : ∀ command ∈ ([] : List String), looksLikeOption command = false := nofun
  unfold checkArguments
  cases marked : line.marked with
  | true =>
    rw [if_pos rfl, readLevel_options 1 writable_checkForms silent suits.check]
    cases added : Given.nothing.addOptions (line.before ++ line.after) with
    | error stop => rfl
    | ok given =>
      have fresh : given.words = [] := Given.words_of_addOptions added
      change (given.addWords 1 [document]).map (fun given => (given, none)) = _
      rw [Given.addWords, Given.addWord, fresh]
      rfl
  | false =>
    have plain : looksLikeOption document = false := word.resolve_right (by simp [marked])
    rw [if_neg Bool.false_ne_true, readLevel_options 1 writable_checkForms silent before,
      Given.addOptions_append]
    cases added : Given.nothing.addOptions line.before with
    | error stop => rfl
    | ok given =>
      have fresh : given.words = [] := Given.words_of_addOptions added
      have worded : given.addWord 1 document = .ok (given.withWords [document]) := by
        rw [Given.addWord, fresh]
        rfl
      change readLevel checkForms [] 1 none given _ = (given.addOptions line.after).map _
      rw [readLevel_word plain rfl, worded]
      change readLevel checkForms [] 1 none (given.withWords [document]) _ = _
      have read := readLevel_options 1 writable_checkForms silent after
        (given.withWords [document]) []
      rw [List.append_nil, Given.addOptions_withWords] at read
      rw [read]
      cases given.addOptions line.after <;> rfl

/-- The options in front of the command are read first, then the arguments of the check. -/
theorem readInvocation_eq (suits : line.Suits) (document : String) :
    readInvocation (line.arguments document) = do
      let top ← Given.nothing.addOptions line.top
      let (given, command) ← readCheck (line.checkArguments document)
      return {
        verbosity := if given.count = 0 then top.count else given.count
        configuration? := (given.value? "config").or (top.value? "config")
        turnedOff := given.has "no-enforce" || top.has "no-enforce"
        command := command } := by
  have silent : ∀ command ∈ commandNames, looksLikeOption command = false := by decide
  rw [readInvocation, arguments, readLevel_options 0 writable_topForms silent suits.top]
  cases Given.nothing.addOptions line.top with
  | error stop => rfl
  | ok top =>
    have found : readLevel topForms commandNames 0 none top
        ("check" :: line.checkArguments document) =
          .ok (top, some ("check", line.checkArguments document)) := by
      rw [readLevel]
      rfl
    change (readLevel topForms commandNames 0 none top _ >>= _) = _
    rw [found]
    rfl

/-- A line whose document is a word or set apart is read as what its options come to, with the
document. -/
theorem readInvocation_arguments (suits : line.Suits)
    (word : looksLikeOption document = false ∨ line.marked = true) :
    readInvocation (line.arguments document) =
      line.options.map fun options => options.invocation document := by
  rw [readInvocation_eq suits, readCheck, readLevel_checkArguments suits word, options]
  cases Given.nothing.addOptions line.top with
  | error stop => rfl
  | ok top =>
    cases Given.nothing.addOptions (line.before ++ line.after) with
    | error stop => rfl
    | ok given =>
      change ((if given.has "soft" && given.has "force" then _ else given.require "type" >>= _) >>=
        _) = Except.map _
          (if given.has "soft" && given.has "force" then _ else given.require "type" >>= _)
      cases given.has "soft" && given.has "force" with
      | true => rfl
      | false => cases given.require "type" <;> rfl

theorem exists_of_options_eq_ok {asked : CheckOptions} (accepted : line.options = .ok asked) :
    (∃ top, Given.nothing.addOptions line.top = .ok top) ∧
      ∃ given, Given.nothing.addOptions line.before = .ok given := by
  rw [options, Given.addOptions_append] at accepted
  cases top : Given.nothing.addOptions line.top with
  | error stop =>
    rw [top] at accepted
    cases accepted
  | ok top' =>
    cases before : Given.nothing.addOptions line.before with
    | error stop =>
      rw [top, before] at accepted
      cases accepted
    | ok given => exact ⟨⟨top', rfl⟩, ⟨given, rfl⟩⟩

/-- A document that starts like a negative number is refused, unless it is set apart. -/
theorem readInvocation_of_negative {asked : CheckOptions} {digit : Char} {rest : List Char}
    (suits : line.Suits) (accepted : line.options = .ok asked) (plain : line.marked = false)
    (written : document.toList = '-' :: digit :: rest) (isDigit : Json.isDigit digit = true) :
    readInvocation (line.arguments document) =
      .error (.misuse (.unknownOption (String.ofList ['-', digit]))) := by
  obtain ⟨⟨top, topAdded⟩, given, added⟩ := exists_of_options_eq_ok accepted
  have silent : ∀ command ∈ ([] : List String), looksLikeOption command = false := nofun
  have before := (List.forall_mem_append.1 suits.check).1
  have single : digit ≠ '-' := by
    rintro rfl
    cases isDigit
  have unlettered : ∀ form ∈ checkForms, form.letter?.any Json.isDigit = false := by decide
  have unknown : (checkForms.find? fun form => form.letter? == some digit) = none := by
    rw [List.find?_eq_none]
    intro form inside has
    have plain := unlettered form inside
    rw [beq_iff_eq.1 has, Option.any_some, isDigit] at plain
    cases plain
  have refused : readCheck (line.checkArguments document) =
      .error (.misuse (.unknownOption (String.ofList ['-', digit]))) := by
    rw [readCheck, checkArguments, if_neg (by simp [plain]),
      readLevel_options 1 writable_checkForms silent before, added]
    change (readLevel checkForms [] 1 none given _ >>= _) = _
    rw [readLevel_option silent (looksLikeOption_of_toList written)
      (ne_mark_of_toList written single), readArgument, spelling_of_dash written single]
    dsimp only
    rw [Given.addLetters, unknown]
    rfl
  rw [readInvocation_eq suits, topAdded, refused]
  rfl

end CheckLine

/-! ### Carrying out -/

/-- A dash stands for the input: naming a document is giving it through the input. -/
theorem runCheck_request (switch : Bool) (input : String) (options : CheckOptions)
    {document : String} (named : document ≠ "-") :
    runCheck switch input (options.request document) =
      runCheck switch document (options.request "-") := by
  have literal : (options.request document).text input = document := if_neg named
  have dashed : (options.request "-").text document = document := if_pos rfl
  cases parsed : Descriptor.parse options.descriptor with
  | error failure =>
    rw [runCheck, runCheck, CheckOptions.request, CheckOptions.request]
    dsimp only
    rw [parsed]
  | ok descriptor =>
    have read (document : String) :
        Descriptor.parse (options.request document).descriptor = .ok descriptor := parsed
    rw [runCheck_of_parse (read document), runCheck_of_parse (read "-"), literal, dashed]
    rfl

theorem perform_invocation (surroundings : Surroundings) (options : CheckOptions)
    {document : String} (named : document ≠ "-") :
    perform surroundings (options.invocation document) =
      perform { surroundings with input := document } (options.invocation "-") := by
  unfold perform
  dsimp only [CheckOptions.invocation]
  simp only [runCheck_request _ surroundings.input options named]

theorem code_runCheck_lt (switch : Bool) (input : String) (request : CheckRequest) :
    (runCheck switch input request).code < 2 := by
  unfold runCheck
  split
  · exact Nat.one_lt_two
  · dsimp only
    split
    · exact Nat.one_lt_two
    · exact Nat.zero_lt_two
    · exact Nat.one_lt_two

theorem code_perform_invocation_lt (surroundings : Surroundings) (options : CheckOptions)
    (document : String) (monitor : Monitor) :
    ((perform surroundings (options.invocation document)).run monitor).1.code < 2 := by
  cases loaded : chosenConfiguration surroundings.files options.configuration? with
  | error failure =>
    have failed : perform surroundings (options.invocation document) =
        pure (Outcome.failed failure) := by
      rw [perform]
      dsimp only [CheckOptions.invocation]
      rw [loaded]
    rw [failed]
    exact Nat.one_lt_two
  | ok configuration? =>
    obtain ⟨left, -, said⟩ := @run_perform_of_check (options.request document) surroundings
      (options.invocation document) configuration? monitor loaded rfl
    rw [said]
    exact code_runCheck_lt _ _ _

theorem run_of_readInvocation {surroundings : Surroundings} {arguments : List String}
    {invocation : Invocation} (read : readInvocation arguments = .ok invocation) :
    run surroundings arguments = ((perform surroundings invocation).run .initial).1 := by
  rw [run, read]

/-- A document that does not look like an option is checked alike as an argument and through the
input, and so is one that is set apart. Any other one, which is a negative number, is refused as an
argument, though the same line takes it through the input. -/
theorem document_is_checked_alike_unless_negative {line : CheckLine} (suits : line.Suits)
    (surroundings : Surroundings) (document : String) :
    let literal := run surroundings (line.arguments document)
    let through := run { surroundings with input := document } (line.arguments "-")
    (document ≠ "-" → looksLikeOption document = false ∨ line.marked = true →
      literal = through) ∧
    (∀ json options, Json.ofText? document = some json → looksLikeOption document = true →
      line.marked = false → line.options = .ok options →
        literal.code = 2 ∧ literal.output = "" ∧ through.code < 2) := by
  intro literal through
  have dashed : readInvocation (line.arguments "-") =
      line.options.map fun options => options.invocation "-" :=
    CheckLine.readInvocation_arguments suits (.inl rfl)
  refine ⟨fun named word => ?_, ?_⟩
  · have read := CheckLine.readInvocation_arguments suits word
    change run _ _ = run _ _
    rw [run, run, read, dashed]
    cases line.options with
    | error stop => rfl
    | ok options =>
      change ((perform _ (options.invocation document)).run _).1 = _
      rw [perform_invocation surroundings options named]
      rfl
  · intro json options read negative plain accepted
    obtain ⟨rest, written⟩ := exists_of_looksLikeOption negative
    obtain ⟨digit, more, rfl, isDigit⟩ := Json.exists_digit_of_ofText? read written
    have refused := CheckLine.readInvocation_of_negative suits accepted plain written isDigit
    have taken : readInvocation (line.arguments "-") = .ok (options.invocation "-") := by
      rw [dashed, accepted]
      rfl
    have said : literal = stopped (.misuse (.unknownOption (String.ofList ['-', digit]))) := by
      change run _ _ = _
      rw [run, refused]
    have checked : through = _ := run_of_readInvocation taken
    rw [said, checked]
    exact ⟨rfl, rfl, code_perform_invocation_lt _ options "-" .initial⟩

/-- A forced check between options of both levels: of a number, and of a negative one. -/
theorem forced_check_takes_negative_number_from_input :
    let line : CheckLine := {
      top := [.joined ⟨"config", none, .path⟩ "ensure.yaml"]
      before := [.letters [⟨"verbose", some 'v', .counter⟩, ⟨"verbose", some 'v', .counter⟩],
        .apart ⟨"type", none, .text⟩ "?number"]
      after := [.alone ⟨"force", none, .flag⟩]
      marked := false }
    let here : Surroundings :=
      ⟨some "off", "", fun path => if path = "ensure.yaml" then some "enforce: true\n" else none⟩
    line.Suits ∧
    line.arguments "5" =
      ["--config=ensure.yaml", "check", "-vv", "--type", "?number", "5", "--force"] ∧
    run here (line.arguments "5") = run { here with input := "5" } (line.arguments "-") ∧
    Json.ofText? "-5" = some (.number (.integer (-5))) ∧
    (run here (line.arguments "-5")).code = 2 ∧ (run here (line.arguments "-5")).output = "" ∧
    (run { here with input := "-5" } (line.arguments "-")).code < 2 := by
  intro line here
  have suits : line.Suits := by
    constructor
    · simp [line, WrittenOption.Suits, topForms, sharedForms, OptionForm.wantsValue]
    · simp [line, WrittenOption.Suits, checkForms, sharedForms, OptionForm.wantsValue]
      rfl
  have read : Json.ofText? "-5" = some (.number (.integer (-5))) := rfl
  have accepted : line.options = .ok ⟨2, some "ensure.yaml", false, "?number", false, true⟩ := rfl
  have law (document : String) :=
    @document_is_checked_alike_unless_negative line suits here document
  exact ⟨suits, rfl, (law "5").1 (by decide) (.inl rfl), read,
    (law "-5").2 _ _ read rfl rfl accepted⟩

/-- A negative number that conforms is refused as an argument and accepted through the input. -/
theorem negative_number_is_refused_as_argument :
    let here : Surroundings := ⟨none, "", fun _ => none⟩
    Json.ofText? "-5" = some (.number (.integer (-5))) ∧
    run here ["check", "--type", "number", "-5"] = ⟨2, "", ["error: unexpected argument '-5'"]⟩ ∧
    run { here with input := "-5" } ["check", "--type", "number", "-"] = ⟨0, "ok\n", []⟩ :=
  ⟨rfl, rfl, rfl⟩

end CommandLine

end TypeAssertion
