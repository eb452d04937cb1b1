import TypeAssertion.CommandLine.Invocation

/-!
Options as they are written, and the reader against them. An option may stand alone, as a letter
among others, or with a value that is joined to it or follows it. What such options add to a level
does not depend on how they are written, and the words of the level do not matter for it.
-/

set_option autoImplicit false

namespace TypeAssertion.CommandLine

/-- True of an option that is followed by a value or joined with one. -/
def OptionForm.wantsValue (form : OptionForm) : Bool :=
  decide (form.kind = .text ∨ form.kind = .path)

/-- An option with the way in which it is written; letters are written as one run. -/
inductive WrittenOption where
  | alone (form : OptionForm)
  | letters (run : List OptionForm)
  | joined (form : OptionForm) (value : String)
  | apart (form : OptionForm) (value : String)

namespace WrittenOption

/-- The arguments that an option makes up. -/
def arguments : WrittenOption → List String
  | alone form => ["--" ++ form.name]
  | letters run => [String.ofList ('-' :: run.filterMap OptionForm.letter?)]
  | joined form value => ["--" ++ form.name ++ "=" ++ value]
  | apart form value => ["--" ++ form.name, value]

/-- True of an option of a level that is written as its form asks. A value that follows its option
must not look like an option itself. -/
def Suits (forms : List OptionForm) : WrittenOption → Prop
  | alone form => form ∈ forms ∧ form.wantsValue = false
  | letters run => run ≠ [] ∧ ∀ form ∈ run, form ∈ forms ∧ form.letter?.isSome = true
  | joined form _ => form ∈ forms ∧ form.wantsValue = true
  | apart form value => form ∈ forms ∧ form.wantsValue = true ∧ looksLikeOption value = false

end WrittenOption

namespace Given

/-- What an option adds, however it is written. -/
def addOption (given : Given) : WrittenOption → Except Stop Given
  | .alone form => given.addPlain form
  | .letters run => run.foldlM addPlain given
  | .joined form value => given.addValue form value
  | .apart form value => given.addValue form value

def addOptions (given : Given) (options : List WrittenOption) : Except Stop Given :=
  options.foldlM addOption given

def withWords (given : Given) (words : List String) : Given := { given with words := words }

variable {given : Given} {words : List String}

theorem addPlain_withWords (form : OptionForm) : (given.withWords words).addPlain form =
    (given.addPlain form).map fun next => next.withWords words := by
  unfold addPlain
  cases form.kind with
  | flag =>
    change (if given.has form.name then _ else _) = _
    dsimp only
    cases given.has form.name <;> rfl
  | _ => rfl

theorem addValue_withWords (form : OptionForm) (value : String) :
    (given.withWords words).addValue form value =
      (given.addValue form value).map fun next => next.withWords words := by
  unfold addValue
  change (if (given.value? form.name).isSome then _ else _) = _
  cases (given.value? form.name).isSome with
  | true => rfl
  | false => cases decide (form.kind = .path) && value.isEmpty <;> rfl

/-- Steps that leave the words alone do so together. -/
theorem foldlM_withWords {α : Type} {step : Given → α → Except Stop Given}
    (blind : ∀ (given : Given) (words : List String) (x : α), step (given.withWords words) x =
      (step given x).map fun next => next.withWords words) (xs : List α) (given : Given) :
    xs.foldlM step (given.withWords words) =
      (xs.foldlM step given).map fun next => next.withWords words := by
  induction xs generalizing given with
  | nil => rfl
  | cons x xs ih =>
    rw [List.foldlM_cons, List.foldlM_cons, blind]
    cases step given x with
    | error stop => rfl
    | ok next => exact ih next

theorem addOption_withWords (given : Given) (words : List String) (option : WrittenOption) :
    (given.withWords words).addOption option =
      (given.addOption option).map fun next => next.withWords words := by
  cases option with
  | alone form => exact addPlain_withWords form
  | letters run => exact foldlM_withWords (fun _ _ => addPlain_withWords) run given
  | joined form value => exact addValue_withWords form value
  | apart form value => exact addValue_withWords form value

theorem addOptions_withWords (given : Given) (words : List String)
    (options : List WrittenOption) :
    (given.withWords words).addOptions options =
      (given.addOptions options).map fun next => next.withWords words :=
  foldlM_withWords addOption_withWords options given

theorem addOptions_append (given : Given) (first second : List WrittenOption) :
    given.addOptions (first ++ second) =
      given.addOptions first >>= fun next => next.addOptions second :=
  List.foldlM_append

/-- Options add no words. -/
theorem words_of_addOptions {next : Given} {options : List WrittenOption}
    (added : given.addOptions options = .ok next) : next.words = given.words := by
  have same := addOptions_withWords given given.words options
  change given.addOptions options = _ at same
  rw [added] at same
  have fixed : next = next.withWords given.words := Except.ok.inj same
  rw [fixed]
  rfl

end Given

deriving instance DecidableEq for OptionForm

/-- The forms of a level are told apart by their names and letters, which can all be written. -/
structure Writable (forms : List OptionForm) : Prop where
  names : ∀ form ∈ forms, ∀ other ∈ forms, other.name = form.name → other = form
  letters : ∀ form ∈ forms, ∀ other ∈ forms, form.letter?.isSome = true →
    other.letter? = form.letter? → other = form
  name_ne : ∀ form ∈ forms, form.name.toList ≠ []
  equals_not_mem : ∀ form ∈ forms, '=' ∉ form.name.toList
  letter_ne : ∀ form ∈ forms, form.letter? ≠ some '-'

theorem writable_topForms : Writable topForms := by
  constructor <;> decide

theorem writable_checkForms : Writable checkForms := by
  constructor <;> decide

/-! ### Spellings -/

theorem looksLikeOption_of_toList {argument : String} {c : Char} {rest : List Char}
    (written : argument.toList = '-' :: c :: rest) : looksLikeOption argument = true := by
  rw [looksLikeOption, written]
  split
  · rfl
  · next other => exact absurd rfl (other c rest)

theorem exists_of_looksLikeOption {argument : String} (option : looksLikeOption argument = true) :
    ∃ rest, argument.toList = '-' :: rest := by
  unfold looksLikeOption at option
  split at option
  · next c rest written => exact ⟨c :: rest, written⟩
  · cases option

theorem ne_mark_of_toList {argument : String} {c : Char} {rest : List Char}
    (written : argument.toList = '-' :: c :: rest) (single : c ≠ '-') : argument ≠ "--" := by
  rintro rfl
  change ['-', '-'] = _ at written
  exact single (List.cons.inj (List.cons.inj written).2).1.symm

theorem spelling_of_dash {argument : String} {c : Char} {rest : List Char}
    (written : argument.toList = '-' :: c :: rest) (single : c ≠ '-') :
    spelling argument = .letters (c :: rest) := by
  rw [spelling, written]
  split
  · next h => exact absurd (List.cons.inj (List.cons.inj h).2).1 single
  · next h =>
    obtain ⟨rfl, rfl⟩ := List.cons.inj (List.cons.inj h).2
    rfl
  · next h => exact absurd rfl (h c rest)

/-- A long option is its name and, after the first equals sign, its value. -/
theorem spelling_of_dashes {argument : String} {name rest : List Char}
    (written : argument.toList = '-' :: '-' :: (name ++ rest)) (plain : '=' ∉ name)
    (ends : ∀ c ∈ rest.head?, c = '=') :
    spelling argument = .long (String.ofList name) (rest.tail?.map String.ofList) := by
  have stays : ∀ c ∈ name, (c != '=') = true := by
    intro c inside
    rw [bne_iff_ne]
    rintro rfl
    exact plain inside
  have taken : (name ++ rest).takeWhile (· != '=') = name := by
    rw [List.takeWhile_append_of_pos stays]
    cases rest with
    | nil => simp
    | cons c rest => simp [ends c rfl]
  have left : (name ++ rest).dropWhile (· != '=') = rest := by
    rw [List.dropWhile_append_of_pos stays]
    cases rest with
    | nil => rfl
    | cons c rest => simp [ends c rfl]
  simp only [spelling, written]
  rw [taken, left]
  cases rest <;> rfl

/-! ### Looking up -/

theorem find?_of_unique {α : Type} {items : List α} {item : α} {wanted : α → Bool}
    (inside : item ∈ items) (fits : wanted item = true)
    (unique : ∀ other ∈ items, wanted other = true → other = item) :
    items.find? wanted = some item := by
  cases found : items.find? wanted with
  | none => exact absurd fits (List.find?_eq_none.1 found item inside)
  | some other =>
    rw [unique other (List.mem_of_find?_eq_some found) (List.find?_some found)]

section Level

variable {forms : List OptionForm} {commands : List String} {most : Nat}

theorem Writable.find?_name (writable : Writable forms) {form : OptionForm}
    (inside : form ∈ forms) : forms.find? (fun other => other.name == form.name) = some form :=
  find?_of_unique inside (beq_self_eq_true _) fun other there same =>
    writable.names form inside other there (beq_iff_eq.1 same)

theorem Writable.find?_letter (writable : Writable forms) {form : OptionForm} {letter : Char}
    (inside : form ∈ forms) (has : form.letter? = some letter) :
    forms.find? (fun other => other.letter? == some letter) = some form :=
  find?_of_unique inside (beq_iff_eq.2 has) fun other there same =>
    writable.letters form inside other there (Option.isSome_of_eq_some has)
      ((beq_iff_eq.1 same).trans has.symm)

/-- A run of letters adds what the forms of the letters add, one after the other. -/
theorem addLetters_eq (writable : Writable forms) {run : List OptionForm}
    (known : ∀ form ∈ run, form ∈ forms ∧ form.letter?.isSome = true) (given : Given) :
    given.addLetters forms (run.filterMap OptionForm.letter?) =
      run.foldlM Given.addPlain given := by
  induction run generalizing given with
  | nil => rfl
  | cons form run ih =>
    obtain ⟨⟨inside, lettered⟩, known⟩ := List.forall_mem_cons.1 known
    obtain ⟨letter, has⟩ := Option.isSome_iff_exists.1 lettered
    rw [List.filterMap_cons_some has, Given.addLetters, writable.find?_letter inside has,
      List.foldlM_cons]
    dsimp only
    cases given.addPlain form with
    | error stop => rfl
    | ok next => exact ih known next

/-! ### Reading options -/

/-- An argument that looks like an option is read as one, whatever the commands are. -/
theorem readLevel_option (silent : ∀ command ∈ commands, looksLikeOption command = false)
    {argument : String} (option : looksLikeOption argument = true) (mark : argument ≠ "--")
    (given : Given) (rest : List String) :
    readLevel forms commands most none given (argument :: rest) =
      match readArgument forms most given argument with
      | .ok (waiting?, given) => readLevel forms commands most waiting? given rest
      | .error stop => .error stop := by
  have strange : commands.contains argument = false := by
    rw [List.contains_eq_mem, decide_eq_false_iff_not]
    intro inside
    rw [silent argument inside] at option
    cases option
  rw [readLevel, strange, if_neg Bool.false_ne_true]
  exact if_neg mark

theorem spelling_of_word {argument : String} (word : looksLikeOption argument = false) :
    spelling argument = .word := by
  unfold looksLikeOption at word
  unfold spelling
  split at word
  · cases word
  · next plain =>
    split
    · next written => exact absurd written (plain _ _)
    · next written => exact absurd written (plain _ _)
    · rfl

/-- What does not look like an option and names no command is a word. -/
theorem readLevel_word {word : String} (plain : looksLikeOption word = false)
    (strange : commands.contains word = false) (given : Given) (rest : List String) :
    readLevel forms commands most none given (word :: rest) =
      given.addWord most word >>= fun given => readLevel forms commands most none given rest := by
  have mark : word ≠ "--" := by
    rintro rfl
    cases plain
  rw [readLevel, strange, if_neg Bool.false_ne_true, if_neg mark, readArgument,
    spelling_of_word plain]
  dsimp only
  cases given.addWord most word <;> rfl

theorem readLevel_waiting {form : OptionForm} {value : String}
    (proper : looksLikeOption value = false) (given : Given) (rest : List String) :
    readLevel forms commands most (some form) given (value :: rest) =
      given.addValue form value >>= fun given =>
        readLevel forms commands most none given rest := by
  rw [readLevel, proper, if_neg Bool.false_ne_true]
  cases given.addValue form value <;> rfl

/-- A long option is read by the form of its name; without the value that it wants, it waits. -/
theorem readLevel_long (most : Nat) (writable : Writable forms)
    (silent : ∀ command ∈ commands, looksLikeOption command = false) {form : OptionForm}
    (inside : form ∈ forms) {argument : String} {value : List Char}
    (written : argument.toList = '-' :: '-' :: (form.name.toList ++ value))
    (ends : ∀ c ∈ value.head?, c = '=') (given : Given) (rest : List String) :
    readLevel forms commands most none given (argument :: rest) =
      match form.wantsValue, value.tail? with
      | true, some value => given.addValue form (String.ofList value) >>= fun given =>
          readLevel forms commands most none given rest
      | true, none => readLevel forms commands most (some form) given rest
      | false, some _ => .error (.misuse (.unwantedValue form.name))
      | false, none => given.addPlain form >>= fun given =>
          readLevel forms commands most none given rest := by
  have mark : argument ≠ "--" := by
    rintro rfl
    have short : form.name.toList ++ value = [] := by simpa using written.symm
    exact writable.name_ne form inside (List.append_eq_nil_iff.1 short).1
  have spelled := spelling_of_dashes written (writable.equals_not_mem form inside) ends
  rw [String.ofList_toList] at spelled
  rw [readLevel_option silent (looksLikeOption_of_toList written) mark, readArgument, spelled]
  dsimp only
  rw [readLong, writable.find?_name inside]
  dsimp only
  rw [← OptionForm.wantsValue]
  cases form.wantsValue with
  | false =>
    cases value.tail? with
    | none => cases given.addPlain form <;> rfl
    | some value => rfl
  | true =>
    cases value.tail? with
    | none => rfl
    | some value => cases h : given.addValue form (String.ofList value) <;> simp [h] <;> rfl

/-- A run of letters is read as what its letters add. -/
theorem readLevel_letters (writable : Writable forms)
    (silent : ∀ command ∈ commands, looksLikeOption command = false) {run : List OptionForm}
    (known : ∀ form ∈ run, form ∈ forms ∧ form.letter?.isSome = true) (written : run ≠ [])
    (given : Given) (rest : List String) :
    readLevel forms commands most none given
        (String.ofList ('-' :: run.filterMap OptionForm.letter?) :: rest) =
      run.foldlM Given.addPlain given >>= fun given =>
        readLevel forms commands most none given rest := by
  obtain ⟨form, more, rfl⟩ := List.exists_cons_of_ne_nil written
  obtain ⟨inside, lettered⟩ := known form List.mem_cons_self
  obtain ⟨letter, has⟩ := Option.isSome_iff_exists.1 lettered
  have single : letter ≠ '-' := by
    rintro rfl
    exact writable.letter_ne form inside has
  have letters : (form :: more).filterMap OptionForm.letter? =
      letter :: more.filterMap OptionForm.letter? := List.filterMap_cons_some has
  have spelled : (String.ofList ('-' :: (form :: more).filterMap OptionForm.letter?)).toList =
      '-' :: letter :: more.filterMap OptionForm.letter? := by
    rw [String.toList_ofList, letters]
  rw [readLevel_option silent (looksLikeOption_of_toList spelled)
    (ne_mark_of_toList spelled single), readArgument, spelling_of_dash spelled single, ← letters]
  dsimp only
  rw [addLetters_eq writable known]
  cases (form :: more).foldlM Given.addPlain given <;> rfl

/-- A written option is read as what it adds. -/
theorem readLevel_written (writable : Writable forms)
    (silent : ∀ command ∈ commands, looksLikeOption command = false) {option : WrittenOption}
    (suits : option.Suits forms) (given : Given) (rest : List String) :
    readLevel forms commands most none given (option.arguments ++ rest) =
      given.addOption option >>= fun given => readLevel forms commands most none given rest := by
  cases option with
  | alone form =>
    obtain ⟨inside, bare⟩ := suits
    have written : ("--" ++ form.name).toList = '-' :: '-' :: (form.name.toList ++ []) := by
      simp [String.toList_append]
    have read := readLevel_long most writable silent inside written (by simp) given rest
    rw [bare] at read
    exact read
  | letters run =>
    obtain ⟨written, known⟩ := suits
    exact readLevel_letters writable silent known written given rest
  | joined form value =>
    obtain ⟨inside, wants⟩ := suits
    have written : ("--" ++ form.name ++ "=" ++ value).toList =
        '-' :: '-' :: (form.name.toList ++ '=' :: value.toList) := by
      simp [String.toList_append]
    have read := readLevel_long most writable silent inside written (by simp) given rest
    rw [wants] at read
    dsimp only [List.tail?_cons] at read
    rw [String.ofList_toList] at read
    exact read
  | apart form value =>
    obtain ⟨inside, wants, proper⟩ := suits
    have written : ("--" ++ form.name).toList = '-' :: '-' :: (form.name.toList ++ []) := by
      simp [String.toList_append]
    have read := readLevel_long most writable silent inside written (by simp) given
      (value :: rest)
    rw [wants] at read
    exact read.trans (readLevel_waiting proper given rest)

theorem readLevel_options (most : Nat) (writable : Writable forms)
    (silent : ∀ command ∈ commands, looksLikeOption command = false)
    {options : List WrittenOption} (suits : ∀ option ∈ options, option.Suits forms) (given : Given)
    (rest : List String) :
    readLevel forms commands most none given (options.flatMap WrittenOption.arguments ++ rest) =
      given.addOptions options >>= fun given =>
        readLevel forms commands most none given rest := by
  induction options generalizing given with
  | nil => rfl
  | cons option options ih =>
    obtain ⟨here, later⟩ := List.forall_mem_cons.1 suits
    rw [List.flatMap_cons, List.append_assoc, readLevel_written writable silent here]
    rw [Given.addOptions, List.foldlM_cons, bind_assoc]
    congr 1
    funext next
    exact ih later next

end Level

end TypeAssertion.CommandLine
