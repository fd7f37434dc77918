import SynthReport.CommandLine.Options

/-! # Reading the arguments

Arguments are read from left to right. An option takes its value from the same argument or from the
next one; short switches may be written together.

* **`Setting`**, **`Switch`** — options with and without a value, and their names;
* **`UsageError`** — what is wrong with the arguments, one constructor for each kind;
* **`Interruption`** — why there are no options: an error, or a request for help or the version;
* **`Options.ofArguments`** — the options that the arguments ask for.

An option whose value stands in an argument of its own is settled only when the next option starts
or the arguments end. What is wrong with it is therefore reported after an unknown argument that
follows it. -/

namespace SynthReport

/-- **An option with a value.** -/
inductive Setting where
  | input
  | report
  | baseline
  | markdownOutput
  | jsonOutput
  | consoleWidth
deriving DecidableEq

/-- **An option without a value.** -/
inductive Switch where
  | quiet
  | help
  | version
deriving DecidableEq

/-- What a name stands for. -/
inductive OptionKey where
  | setting (setting : Setting)
  | switch (switch : Switch)
deriving DecidableEq

namespace OptionKey

/-- The option with a long name. -/
def ofLong? : String → Option OptionKey
  | "input" => some (.setting .input)
  | "report" => some (.setting .report)
  | "baseline" => some (.setting .baseline)
  | "output-markdown" => some (.setting .markdownOutput)
  | "output-json" => some (.setting .jsonOutput)
  | "console-width" => some (.setting .consoleWidth)
  | "quiet" => some (.switch .quiet)
  | "help" => some (.switch .help)
  | "version" => some (.switch .version)
  | _ => none

/-- The option with a short name. -/
def ofShort? : Char → Option OptionKey
  | 'i' => some (.setting .input)
  | 'r' => some (.setting .report)
  | 'b' => some (.setting .baseline)
  | 'q' => some (.switch .quiet)
  | 'h' => some (.switch .help)
  | 'V' => some (.switch .version)
  | _ => none

end OptionKey

/-- The long name of an option with a value. -/
def Setting.longName : Setting → String
  | input => "--input"
  | report => "--report"
  | baseline => "--baseline"
  | markdownOutput => "--output-markdown"
  | jsonOutput => "--output-json"
  | consoleWidth => "--console-width"

/-- **What is wrong with the arguments.** -/
inductive UsageError where
  /-- An argument that is neither an option nor the value of one. -/
  | unknownArgument (argument : String)
  /-- A value that is missing or not among those allowed. -/
  | invalidValue (setting : Setting) (value : String)
  /-- A value that is not a number. -/
  | valueValidation (setting : Setting) (value : String)
  /-- An option that is given twice. -/
  | argumentConflict (name : String)
  /-- A value for an option that takes none. -/
  | tooManyValues (argument : String)
deriving DecidableEq

/-- The wording of a usage error. -/
def UsageError.message : UsageError → String
  | unknownArgument argument => "unexpected argument '" ++ argument ++ "' found"
  | invalidValue setting value =>
    "invalid value '" ++ value ++ "' for '" ++ setting.longName ++ "'"
  | valueValidation setting value =>
    "invalid value '" ++ value ++ "' for '" ++ setting.longName ++ "': not a number of columns"
  | argumentConflict name => "the argument '" ++ name ++ "' cannot be used multiple times"
  | tooManyValues argument => "unexpected value in '" ++ argument ++ "'"

/-- **Why the arguments give no options.** -/
inductive Interruption where
  | usage (error : UsageError)
  /-- Help is asked for, in full or as a summary. -/
  | help (full : Bool)
  | version
deriving DecidableEq

/-! ## Values -/

/-- The largest console width that can be given. -/
def maxConsoleWidth : Nat := 0xFFFFFFFFFFFFFFFF

/-- A number of columns: decimal digits, with an optional plus sign. -/
def columnsOfText? (text : String) : Option Nat :=
  let digits :=
    match text.toList with
    | '+' :: rest => rest
    | other => other
  if digits ≠ [] ∧ digits.all Char.isDigit then
    let n := digits.foldl (fun n c => n * 10 + (c.toNat - '0'.toNat)) 0
    if n ≤ maxConsoleWidth then some n else none
  else none

/-- **The options with one setting**, if the value is one that it can have. -/
def Options.put (options : Options) (setting : Setting) (value : String) :
    Except UsageError Options :=
  match setting with
  | .input =>
    if value = "" then .error (.invalidValue setting value) else .ok { options with input := value }
  | .report =>
    if value = "baseline" then .ok { options with report := .baseline }
    else if value = "variant" then .ok { options with report := .variant }
    else .error (.invalidValue setting value)
  | .baseline => .ok { options with baseline := value }
  | .markdownOutput =>
    if value = "" then .error (.invalidValue setting value)
    else .ok { options with markdownOutput := some value }
  | .jsonOutput =>
    if value = "" then .error (.invalidValue setting value)
    else .ok { options with jsonOutput := some value }
  | .consoleWidth =>
    match columnsOfText? value with
    | some width => .ok { options with consoleWidth := some width }
    | none => .error (.valueValidation setting value)

/-! ## The run over the arguments -/

/-- **What the arguments so far have given.** -/
structure ArgumentState where
  options : Options := {}
  /-- The settings that are settled. -/
  given : List Setting := []
  /-- The setting that is not, with its value once that was met. -/
  pending : Option (Setting × Option String) := none

namespace ArgumentState

/-- A setting with its value, which has to be given only once. -/
def settle (state : ArgumentState) (setting : Setting) (value : String) :
    Except UsageError ArgumentState := do
  if setting ∈ state.given then throw (.argumentConflict setting.longName)
  let options ← state.options.put setting value
  return { state with options, given := setting :: state.given }

/-- **The pending setting settled**; without a value it is an error. -/
def settlePending (state : ArgumentState) : Except UsageError ArgumentState :=
  match state.pending with
  | none => .ok state
  | some (setting, none) => .error (.invalidValue setting "")
  | some (setting, some value) => { state with pending := none }.settle setting value

/-- A setting whose value is attached, or else still to come. -/
def startSetting (state : ArgumentState) (setting : Setting) (value : Option String) :
    Except UsageError ArgumentState := do
  let state ← state.settlePending
  match value with
  | some v => state.settle setting v
  | none => return { state with pending := some (setting, none) }

/-- A switch, which takes effect at once. -/
def setSwitch (state : ArgumentState) (switch : Switch) (long : Bool) :
    Except Interruption ArgumentState := do
  let state ← state.settlePending.mapError .usage
  match switch with
  | .help => throw (.help long)
  | .version => throw .version
  | .quiet =>
    if state.options.quiet then throw (.usage (.argumentConflict "--quiet"))
    else return { state with options := { state.options with quiet := true } }

/-- **A long option**: its name, and its value after an equals sign. -/
def readLong (state : ArgumentState) (argument : String) (body : List Char) :
    Except Interruption ArgumentState :=
  let name := body.takeWhile (· ≠ '=')
  let value :=
    match body.dropWhile (· ≠ '=') with
    | [] => none
    | _ :: rest => some (String.ofList rest)
  match OptionKey.ofLong? (String.ofList name), value with
  | none, _ => .error (.usage (.unknownArgument argument))
  | some (.setting setting), value => (state.startSetting setting value).mapError .usage
  | some (.switch _), some _ => .error (.usage (.tooManyValues argument))
  | some (.switch switch), none => state.setSwitch switch true

/-- **Short options written together.** The first with a value takes the rest of the argument,
less an equals sign in front. -/
def readShort (state : ArgumentState) (argument : String) :
    List Char → Except Interruption ArgumentState
  | [] => .ok state
  | c :: rest =>
    match OptionKey.ofShort? c with
    | none => .error (.usage (.unknownArgument argument))
    | some (.setting setting) =>
      let value :=
        match rest with
        | [] => none
        | '=' :: attached => some (String.ofList attached)
        | attached => some (String.ofList attached)
      (state.startSetting setting value).mapError .usage
    | some (.switch switch) => do
      let state ← state.setSwitch switch false
      state.readShort argument rest

/-- An argument that is no option: the value that is due, or nothing known. -/
def readPlain (state : ArgumentState) (argument : String) :
    Except Interruption ArgumentState :=
  match state.pending with
  | some (setting, none) => .ok { state with pending := some (setting, some argument) }
  | _ => .error (.usage (.unknownArgument argument))

/-- **All arguments.** After two dashes alone nothing more may come. -/
def readAll (state : ArgumentState) : List String → Except Interruption ArgumentState
  | [] => state.settlePending.mapError .usage
  | argument :: rest => do
    match argument.toList with
    -- Two dashes alone end the options, and there is nothing else to give.
    | ['-', '-'] =>
      match rest with
      | [] => state.settlePending.mapError .usage
      | extra :: _ => throw (.usage (.unknownArgument extra))
    | '-' :: '-' :: body => (← state.readLong argument body).readAll rest
    -- A single dash alone is no option, so a character has to follow.
    | '-' :: c :: body => (← state.readShort argument (c :: body)).readAll rest
    | _ => (← state.readPlain argument).readAll rest

end ArgumentState

/-- **The options that the arguments ask for.** -/
def Options.ofArguments (arguments : List String) : Except Interruption Options := do
  let state ← ({} : ArgumentState).readAll arguments
  return state.options

end SynthReport
