import CounterMachine.Proofs.CommandLine.Words
import CounterMachine.Proofs.Text.Integer

/-!
Contract: commands as they are usually asked for.

Owns: the words that ask for a run, for a decoding and for an encoding, with numbers of any size,
and that they are understood as these commands.

Does not own: the other orders and spellings of the same words.
-/

set_option autoImplicit false

namespace CounterMachine.CommandLine

open Text

/-! ## Numbers -/

theorem naturalValue_decimal (value : Nat) : naturalValue (decimal value) = .ok value := by
  have natural : ¬ (value : Int) < 0 := Int.not_lt.mpr (Int.natCast_nonneg value)
  rw [naturalValue, readInteger?_decimal]
  simp only [if_neg natural, Int.toNat_natCast]

theorem integerValue_decimal (value : Int) : integerValue (decimal value) = .ok value := by
  rw [integerValue, readInteger?_decimal]

theorem decimal_ne_dashes (value : Int) : decimal value ≠ "--" := by
  intro same
  have read := readInteger?_decimal value
  rw [same] at read
  cases read

theorem sparesNumbers_programForm : programForm.SparesNumbers :=
  Form.sparesNumbers_of_all (by decide)

theorem sparesNumbers_form (name : CommandName) : name.form.SparesNumbers := by
  apply Form.sparesNumbers_of_all
  cases name <;> decide

/-- A number is read as a value in every form. -/
private theorem reads_decimal {form : Form} (spares : form.SparesNumbers) (value : Int) :
    form.Reads (decimal value) (.value (decimal value)) :=
  ⟨decimal_ne_dashes value, Form.word_decimal spares value⟩

def decimals (numbers : List Nat) : List String :=
  numbers.map fun (number : Nat) => decimal number

private theorem mapM_naturalValue (numbers : List Nat) :
    (decimals numbers).mapM naturalValue = .ok numbers := by
  induction numbers with
  | nil => rfl
  | cons number later inductionHypothesis =>
      show (decimal number :: decimals later).mapM naturalValue = _
      rw [List.mapM_cons, naturalValue_decimal, ok_bind, inductionHypothesis]
      rfl

private theorem ne_dashes_of_mem_decimals {numbers : List Nat} {text : String}
    (member : text ∈ decimals numbers) : text ≠ "--" := by
  obtain ⟨number, -, rfl⟩ := List.mem_map.mp member
  exact decimal_ne_dashes number

private theorem reads_decimals {form : Form} (spares : form.SparesNumbers) (numbers : List Nat) :
    List.Forall₂ form.Reads (decimals numbers) ((decimals numbers).map Word.value) := by
  rw [List.forall₂_map_right_iff, List.forall₂_same]
  intro text member
  obtain ⟨number, -, rfl⟩ := List.mem_map.mp member
  exact reads_decimal spares number

/-! ## Runs -/

/-- Words that ask for a run: the file, the arguments, and the settings behind them. -/
def runWords (file : String) (arguments : List Nat) (settings : Settings) : List String :=
  file :: decimals arguments ++ "--max-steps" :: decimal settings.maxSteps ::
    if settings.traceAll then ["--trace-all"] else []

private theorem words_runWords {form : Form} (spares : form.SparesNumbers) {file : String}
    (plain : file.toList.head? ≠ some '-') (arguments : List Nat) (settings : Settings)
    {maxSteps traceAll : Word} (budget : form.Reads "--max-steps" maxSteps)
    (trace : form.Reads "--trace-all" traceAll) :
    form.words (runWords file arguments settings) =
      .ok (.value file :: (decimals arguments).map Word.value ++
        maxSteps :: .value (decimal settings.maxSteps) ::
          if settings.traceAll then [traceAll] else []) := by
  have last : List.Forall₂ form.Reads (if settings.traceAll then ["--trace-all"] else [])
      (if settings.traceAll then [traceAll] else []) := by
    cases settings.traceAll with
    | false => exact .nil
    | true => exact .cons trace .nil
  refine Form.words_eq_ok (.cons (form.reads_plain plain) ?_)
  exact List.rel_append (reads_decimals spares arguments)
    (.cons budget (.cons (reads_decimal spares _) last))

private def argumentsPlace : Place := ⟨.arguments, "ARGS", .many, true⟩

private def maxStepsSwitch : Switch := ⟨.maxSteps, ["--max-steps"], true⟩

private def traceAllSwitch : Switch := ⟨.traceAll, ["--trace-all"], false⟩

private def switchWords (settings : Settings) : List Word :=
  .known "--max-steps" ⟨maxStepsSwitch, "--max-steps", none⟩ ::
    .value (decimal settings.maxSteps) ::
      if settings.traceAll then [.known "--trace-all" ⟨traceAllSwitch, "--trace-all", none⟩]
      else []

private def switchBindings (settings : Settings) : List Binding :=
  maxStepsSwitch.bind [decimal settings.maxSteps] ::
    if settings.traceAll then [traceAllSwitch.bind []] else []

/-- The places of a run take all words before the switches. -/
private theorem bindPlaces_run {file : String} (noDashes : file ≠ "--") (arguments : List Nat)
    (settings : Settings) :
    bindPlaces CommandName.run.form.places
        (.value file :: ((decimals arguments).map Word.value ++ switchWords settings)) =
      ([⟨.file, "FILE", [file]⟩, ⟨.arguments, "ARGS", decimals arguments⟩], [],
        switchWords settings) := by
  have first : filePlace.extent.take?
      (.value file :: ((decimals arguments).map Word.value ++ switchWords settings)) =
        some ([file].map Word.value,
          (decimals arguments).map Word.value ++ switchWords settings) := by
    refine Extent.take?_one ?_
    cases decimals arguments with
    | nil =>
        rintro word ⟨⟩
        simp
    | cons text later =>
        rintro word ⟨⟩
        simp
  have second : argumentsPlace.extent.take?
      ((decimals arguments).map Word.value ++ switchWords settings) =
        some ((decimals arguments).map Word.value, switchWords settings) := by
    refine Extent.take?_many ?_ ?_
    · intro word member
      obtain ⟨text, -, rfl⟩ := List.mem_map.mp member
      rfl
    · rintro word ⟨⟩
      rfl
  have ownFile : "--" ∉ [file] := by simpa using noDashes.symm
  have ownArguments : "--" ∉ decimals arguments := fun member =>
    ne_dashes_of_mem_decimals member rfl
  have none : bindPlaces [] (switchWords settings) = ([], [], switchWords settings) := rfl
  have both := bindPlaces_cons first (bindPlaces_cons second none)
  rw [Place.bind_values (by decide) ownFile, Place.bind_values (by decide) ownArguments] at both
  exact both

private theorem bindWithin_switchWords (fuel : Nat) (bindings : List Binding)
    (settings : Settings) :
    CommandName.run.form.bindWithin (fuel + 2) { bindings } (switchWords settings) =
      { bindings := bindings ++ switchBindings settings } := by
  have budget (behind : List Word) : CommandName.run.form.bindSwitch
      ⟨maxStepsSwitch, "--max-steps", none⟩ (.value (decimal settings.maxSteps) :: behind) =
        .ok ([maxStepsSwitch.bind [decimal settings.maxSteps]], behind) := rfl
  have trace : CommandName.run.form.bindSwitch ⟨traceAllSwitch, "--trace-all", none⟩ [] =
      .ok ([traceAllSwitch.bind []], []) := rfl
  rw [switchWords, switchBindings, Form.bindWithin_known (budget _)]
  cases settings.traceAll with
  | false => exact Form.bindWithin_nil rfl
  | true =>
      simp only [if_true]
      rw [Form.bindWithin_known trace, Form.bindWithin_nil rfl, List.append_assoc]
      rfl

private theorem parse_runWords {file : String} (plain : file.toList.head? ≠ some '-')
    (arguments : List Nat) (settings : Settings) :
    CommandName.run.form.parse (runWords file arguments settings) =
      { bindings :=
          ⟨.file, "FILE", [file]⟩ :: ⟨.arguments, "ARGS", decimals arguments⟩ ::
            switchBindings settings } := by
  have noDashes : file ≠ "--" := (programForm.reads_plain plain).1
  have read : CommandName.run.form.words (runWords file arguments settings) =
      .ok (.value file :: ((decimals arguments).map Word.value ++ switchWords settings)) :=
    words_runWords (sparesNumbers_form .run) plain arguments settings ⟨by decide, rfl⟩
      ⟨by decide, rfl⟩
  obtain ⟨fuel, enough⟩ : ∃ fuel, (Word.value file ::
      ((decimals arguments).map Word.value ++ switchWords settings)).length = fuel + 2 :=
    ⟨((decimals arguments).map Word.value ++ switchWords settings).length - 1, by
      simp [switchWords]
      omega⟩
  rw [Form.parse, read]
  simp only [enough]
  rw [Form.bindWithin_value (bindPlaces_run noDashes arguments settings) (by simp) rfl]
  exact bindWithin_switchWords fuel _ settings

private theorem chooseAll_run (file : String) (arguments : List Nat) (settings : Settings) :
    chooseAll CommandName.run.form {}
        (⟨.file, "FILE", [file]⟩ :: ⟨.arguments, "ARGS", decimals arguments⟩ ::
          switchBindings settings) =
      .ok { file, arguments, maxSteps := some settings.maxSteps,
            traceAll := settings.traceAll } := by
  have numbers (choices : Choices) :
      choices.choose ⟨.arguments, "ARGS", decimals arguments⟩ =
        .ok { choices with arguments } := by
    simp only [Choices.choose, mapM_naturalValue]
    rfl
  have budget (choices : Choices) :
      choices.choose (maxStepsSwitch.bind [decimal settings.maxSteps]) =
        .ok { choices with maxSteps := some settings.maxSteps } := by
    simp only [Choices.choose, maxStepsSwitch, Switch.bind, Binding.value?, integerValue_decimal]
    rfl
  rw [chooseAll_cons (by nofun) rfl, chooseAll_cons (by nofun) (numbers _), switchBindings,
    chooseAll_cons (by nofun) (budget _)]
  cases settings.traceAll with
  | false => rfl
  | true => rfl

/-- A run is asked for by its words, whatever the numbers among them. -/
theorem ofArguments_runWords {file : String} (plain : file.toList.head? ≠ some '-')
    (arguments : List Nat) (settings : Settings) :
    Request.ofArguments (CommandName.run.text :: runWords file arguments settings) =
      .perform 0 (.run file arguments (some settings) .standardOutput) := by
  have words := words_runWords sparesNumbers_programForm plain arguments settings
    (⟨by decide, rfl⟩ : programForm.Reads "--max-steps" (.unknown "--max-steps"))
    ⟨by decide, rfl⟩
  exact Request.ofArguments_command words
    (readCommand_eq_ok (parse_runWords plain arguments settings)
      (chooseAll_run file arguments settings))

/-! ## Numbers of programs -/

def decodeWords (number exponent : Nat) : List String :=
  [decimal number, "-s", decimal exponent]

private def exponentSwitch : Switch := ⟨.startExponent, ["-s", "--start-exponent"], true⟩

private theorem words_decodeWords {form : Form} (spares : form.SparesNumbers)
    (number exponent : Nat) {switch : Word} (known : form.Reads "-s" switch) :
    form.words (decodeWords number exponent) =
      .ok [.value (decimal number), switch, .value (decimal exponent)] :=
  Form.words_eq_ok
    (.cons (reads_decimal spares number) (.cons known (.cons (reads_decimal spares exponent) .nil)))

private theorem parse_decodeWords (number exponent : Nat) :
    CommandName.decode.form.parse (decodeWords number exponent) =
      { bindings :=
          [⟨.number, "NUMBER", [decimal number]⟩, exponentSwitch.bind [decimal exponent]] } := by
  have read : CommandName.decode.form.words (decodeWords number exponent) =
      .ok [.value (decimal number), .known "-s" ⟨exponentSwitch, "-s", none⟩,
        .value (decimal exponent)] :=
    words_decodeWords (sparesNumbers_form .decode) number exponent ⟨by decide, rfl⟩
  have own : "--" ∉ [decimal number] := by simpa using (decimal_ne_dashes number).symm
  have placed : bindPlaces CommandName.decode.form.places
      [.value (decimal number), .known "-s" ⟨exponentSwitch, "-s", none⟩,
        .value (decimal exponent)] =
        ([⟨.number, "NUMBER", [decimal number]⟩], [],
          [.known "-s" ⟨exponentSwitch, "-s", none⟩, .value (decimal exponent)]) := by
    have bound : Place.bind ⟨.number, "NUMBER", .one, true⟩ ([decimal number].map Word.value) =
        ⟨.number, "NUMBER", [decimal number]⟩ :=
      Place.bind_values (by decide) own
    rw [← bound]
    rfl
  have exponentBound : CommandName.decode.form.bindSwitch ⟨exponentSwitch, "-s", none⟩
      [.value (decimal exponent)] = .ok ([exponentSwitch.bind [decimal exponent]], []) := rfl
  rw [Form.parse, read]
  simp only [List.length_cons, List.length_nil]
  rw [Form.bindWithin_value placed (by simp) rfl, Form.bindWithin_known exponentBound,
    Form.bindWithin_nil rfl]
  rfl

theorem ofArguments_decodeWords (number exponent : Nat) :
    Request.ofArguments (CommandName.decode.text :: decodeWords number exponent) =
      .perform 0 (.decode number (some exponent) false .standardOutput) := by
  have words := words_decodeWords sparesNumbers_programForm number exponent
    (⟨by decide, rfl⟩ : programForm.Reads "-s" (.unknown "-s"))
  have chosen : chooseAll CommandName.decode.form {}
      [⟨.number, "NUMBER", [decimal number]⟩, exponentSwitch.bind [decimal exponent]] =
        .ok { number, exponent := some exponent } := by
    have value (choices : Choices) : choices.choose ⟨.number, "NUMBER", [decimal number]⟩ =
        .ok { choices with number } := by
      simp only [Choices.choose, Binding.text, List.headD_cons, naturalValue_decimal]
      rfl
    have power (choices : Choices) :
        choices.choose (exponentSwitch.bind [decimal exponent]) =
          .ok { choices with exponent := some exponent } := by
      simp only [Choices.choose, exponentSwitch, Switch.bind, Binding.value?,
        naturalValue_decimal]
      rfl
    rw [chooseAll_cons (by nofun) (value _), chooseAll_cons (by nofun) (power _)]
    rfl
  exact Request.ofArguments_command words
    (readCommand_eq_ok (parse_decodeWords number exponent) chosen)

theorem ofArguments_encode_standardInput :
    Request.ofArguments [CommandName.encode.text, "-"] =
      .perform 0 (.encode "-" false .standardOutput) := by
  rfl

end CounterMachine.CommandLine
