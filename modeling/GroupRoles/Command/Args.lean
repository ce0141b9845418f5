import GroupRoles.Command.Load

/-!
# Command line arguments

A command is `apply`, `plan` or `validate` with its options. The value of an option stands behind
it, or behind an equals sign; the value of a short option may also follow directly. An option
may be given once, and a value behind its option does not start with a dash. Arguments are read up
to the first that asks for help; those behind it need not be understood.
-/

namespace GroupRoles

/-- What the command line asks for. -/
inductive Command where
  | apply (path : String) (overrides : Overrides)
  | validate (path : String)
deriving Repr, DecidableEq

/-- A command, or the question for the version or for help. -/
inductive Invocation where
  | version
  /-- Help with the program or with one of its commands. -/
  | help
  | command (c : Command)
deriving Repr, DecidableEq

namespace Args

/-- The kinds of options. -/
inductive Switch where
  | config
  | check
  | diff
  | state
  | realm
  | logLevel
  | help
deriving Repr, DecidableEq

/-- The long name of an option. -/
def Switch.long : Switch → String
  | config => "config"
  | check => "check"
  | diff => "diff"
  | state => "state"
  | realm => "realm"
  | logLevel => "log-level"
  | help => "help"

/-- Whether an option takes a value. -/
def Switch.hasValue : Switch → Bool
  | check | diff | help => false
  | _ => true

/-- Options with their values; a flag has an empty one. -/
abbrev Given := List (Switch × String)

/-- Whether an option takes a text as its value. -/
def accepts : Switch → String → Bool
  | .config, value => !value.isEmpty
  | .state, value => (Goal.ofName? value).isSome
  | _, _ => true

/-- Notes an option, which may neither be given twice nor have a value that it does not take. -/
def give (given : Given) (o : Switch) (value : String) : Option Given :=
  if (given.lookup o).isSome || !accepts o value then none else some ((o, value) :: given)

/-- The option of a long name. -/
def findLong (allowed : List Switch) (name : List Char) : Option Switch :=
  allowed.find? fun o => o.long.toList = name

/-- The value behind an option, and the arguments after it. -/
def nextValue : List String → Option (String × List String)
  | value :: rest =>
    if value.startsWith "-" && value ≠ "-" then none else some (value, rest)
  | [] => none

/-- A long option without its dashes, and the arguments after it. -/
def long (allowed : List Switch) (given : Given) (cs : List Char) (rest : List String) :
    Option (Given × List String) := do
  let o ← findLong allowed (cs.takeWhile (· ≠ '='))
  match cs.dropWhile (· ≠ '='), o.hasValue with
  | _ :: value, true => do
    let given ← give given o (String.ofList value)
    pure (given, rest)
  | _ :: _, false => none
  | [], false => do
    let given ← give given o ""
    pure (given, rest)
  | [], true => do
    let (value, rest) ← nextValue rest
    let given ← give given o value
    pure (given, rest)

/-- The short option for the settings file, without dash and letter. -/
def shortConfig (given : Given) (cs : List Char) (rest : List String) :
    Option (Given × List String) :=
  match cs with
  | [] => do
    let (value, rest) ← nextValue rest
    let given ← give given .config value
    pure (given, rest)
  | '=' :: value => (give given .config (String.ofList value)).map (·, rest)
  | value => (give given .config (String.ofList value)).map (·, rest)

/-- The options of a command, up to the question for help if there is one. -/
def options (allowed : List Switch) : Nat → Given → List String → Option Given
  | 0, _, _ => none
  | _ + 1, given, [] => some given
  | fuel + 1, given, arg :: rest =>
    match arg.toList with
    | ['-', '-'] => if rest.isEmpty then some given else none
    | '-' :: '-' :: cs =>
      if cs = Switch.help.long.toList then some ((.help, "") :: given)
      else (long allowed given cs rest).bind fun (given, rest) => options allowed fuel given rest
    | '-' :: 'h' :: _ => some ((.help, "") :: given)
    | '-' :: 'c' :: cs =>
      (shortConfig given cs rest).bind fun (given, rest) => options allowed fuel given rest
    | _ => none

/-- The settings file where none is named. -/
def defaultPath : String := "rolemap.yaml"

/-- The settings file that options name. -/
def path (given : Given) : String :=
  (given.lookup .config).getD defaultPath

/-- Whether a flag is given. -/
def has (given : Given) (o : Switch) : Bool :=
  (given.lookup o).isSome

/-- What a command with its options asks for. -/
def asked (given : Given) (c : Command) : Invocation :=
  if has given .help then .help else .command c

/-- Whether there is help with what these words name: nothing, or one command. -/
def isTopic : List String → Bool
  | [] => true
  | [word] => ["apply", "plan", "validate", "help"].contains word
  | _ => false

/-- What the word of a command asks for with the arguments behind it. -/
def command (word : String) (args : List String) : Option Invocation :=
  let fuel := args.length + 1
  if word = "apply" then
    (options [.config, .check, .diff, .state, .realm, .logLevel] fuel [] args).map fun given =>
      asked given <| .apply (path given)
        { dryRun := has given .check
          wantDelta := has given .diff
          goal := (given.lookup .state).bind Goal.ofName?
          realm := given.lookup .realm }
  else if word = "plan" then
    (options [.config, .diff, .logLevel] fuel [] args).map fun given =>
      asked given <| .apply (path given) { dryRun := true, wantDelta := has given .diff }
  else if word = "validate" then
    (options [.config, .logLevel] fuel [] args).map fun given =>
      asked given <| .validate (path given)
  else if word = "help" then if isTopic args then some .help else none
  else none

/-- Reads arguments up to the word of a command. -/
def read : Nat → Given → List String → Option Invocation
  | 0, _, _ => none
  | _ + 1, _, [] => none
  | fuel + 1, given, arg :: rest =>
    match arg.toList with
    | '-' :: 'V' :: _ => some .version
    | '-' :: 'h' :: _ => some .help
    | '-' :: '-' :: cs =>
      if cs = "version".toList then some .version
      else if cs = Switch.help.long.toList then some .help
      else (long [.logLevel] given cs rest).bind fun (given, rest) => read fuel given rest
    | _ => command arg rest

end Args

/-- What arguments ask for; `none` when they cannot be understood. -/
def Invocation.ofArgs? (args : List String) : Option Invocation :=
  Args.read (args.length + 1) [] args

end GroupRoles
