import Lineage.Text.Split

/-!
# Arguments of the command line

The arguments name a subcommand, options that may stand before it or behind it, and what the
subcommand is about.  An option may be given once before the subcommand and once behind it, where
the later one counts.  Arguments that are not understood are refused, and so are requests for help.
-/

namespace Lineage.CommandLine

open Lineage.Text

/-- How results are written. -/
inductive Format where
  | text
  | json
deriving DecidableEq, Repr

/-- The format with the given name. -/
def Format.ofName? (name : String) : Option Format :=
  if name == "text" then some .text else if name == "json" then some .json else none

/-- Why arguments lead to no command. -/
inductive Refusal where
  | help
  | version
  | nothingGiven
  | missingSubcommand
  | unknownSubcommand
  | unknownArgument
  | missingArgument
  | invalidValue
  | unwantedValue
  /-- An option is given twice, or together with one that excludes it. -/
  | conflict
deriving DecidableEq, Repr

/-- A word that names what to do. -/
inductive Subcommand where
  | introspect
  | validate
  | chain
  | list
deriving DecidableEq, Repr

/-- The subcommand with the given name. -/
def Subcommand.ofName? (name : String) : Option Subcommand :=
  if name == "introspect" then some .introspect
  else if name == "validate" then some .validate
  else if name == "chain" then some .chain
  else if name == "list" then some .list
  else none

/-- Where arguments stand: before the subcommand, or behind it. -/
inductive Place where
  | top
  | behind (subcommand : Subcommand)
deriving DecidableEq, Repr

/-- An option. -/
inductive Switch where
  | verbose
  | quiet
  | config
  | templatesDirectory
  | format
  | content
  | check
  | help
  | version
deriving DecidableEq, Repr

namespace Switch

/-- The options that are allowed at a place. -/
def allowed : Place → List Switch
  | .top => [verbose, quiet, config, templatesDirectory, format, help, version]
  | .behind .validate => [verbose, quiet, config, templatesDirectory, format, content, help]
  | .behind .list => [verbose, quiet, config, templatesDirectory, format, check, help]
  | .behind _ => [verbose, quiet, config, templatesDirectory, format, help]

/-- The name of an option. -/
def name : Switch → String
  | .verbose => "verbose"
  | .quiet => "quiet"
  | .config => "config"
  | .templatesDirectory => "templates-dir"
  | .format => "format"
  | .content => "content"
  | .check => "check"
  | .help => "help"
  | .version => "version"

/-- The letter of an option, if it has one. -/
def letter? : Switch → Option Char
  | .verbose => some 'v'
  | .quiet => some 'q'
  | .config => some 'c'
  | .help => some 'h'
  | .version => some 'V'
  | _ => none

/-- Whether an option takes a value. -/
def takesValue : Switch → Bool
  | .config | .templatesDirectory | .format | .content => true
  | _ => false

/-- Whether an option may have the value. -/
def accepts (switch : Switch) (value : String) : Bool :=
  if switch == .format then (Format.ofName? value).isSome else !value.isEmpty

/-- The option with the given name that is allowed at the place. -/
def ofName? (place : Place) (name : String) : Option Switch :=
  (allowed place).find? (·.name == name)

/-- The option with the given letter that is allowed at the place. -/
def ofLetter? (place : Place) (letter : Char) : Option Switch :=
  (allowed place).find? (·.letter? == some letter)

end Switch

/-- The number of arguments that are not options at a place. -/
def operandLimit : Place → Nat
  | .top | .behind .list => 0
  | .behind _ => 1

/-! ## Reading -/

/-- What has been read at a place. -/
structure Given where
  place : Place
  /-- The options with their values.  The value of an option that takes none is empty. -/
  switches : List (Switch × String)
  /-- An option whose value is still to be checked, or to come. -/
  pending : Option (Switch × Option String)
  operands : List String
  /-- Whether all further arguments are no options. -/
  onlyOperands : Bool

namespace Given

/-- What has been read before the first argument. -/
def start (place : Place) : Given :=
  ⟨place, [], none, [], false⟩

/-- The value of an option. -/
def value? (given : Given) (switch : Switch) : Option String :=
  given.switches.lookup switch

/-- Whether an option is given. -/
def has (given : Given) (switch : Switch) : Bool :=
  (given.value? switch).isSome

/-- Whether the next argument may be the value of an option. -/
def awaitsValue (given : Given) : Bool :=
  match given.pending with
  | some (_, none) => true
  | _ => false

/-- Adds an option with its value. -/
def add (given : Given) (switch : Switch) (value : String) : Except Refusal Given :=
  if given.has switch then .error .conflict
  else if switch.takesValue && !switch.accepts value then .error .invalidValue
  else .ok { given with switches := given.switches ++ [(switch, value)] }

/-- Checks the pending option. -/
def settle (given : Given) : Except Refusal Given :=
  match given.pending with
  | none => .ok given
  | some (_, none) => .error .invalidValue
  | some (switch, some value) => { given with pending := none }.add switch value

/-- Adds an option that takes no value.  A request for help ends the reading. -/
def addFlag (given : Given) (switch : Switch) : Except Refusal Given := do
  let given ← given.settle
  match switch with
  | .help => .error .help
  | .version => .error .version
  | _ => given.add switch ""

/-- Adds an option that takes a value, which may be attached to it. -/
def addOption (given : Given) (switch : Switch) (attached : Option String) :
    Except Refusal Given := do
  let given ← given.settle
  match attached with
  | some value => given.add switch value
  | none => return { given with pending := some (switch, none) }

/-- Reads an option by its name, with or without a value attached. -/
def addNamed (given : Given) (text : List Char) : Except Refusal Given :=
  let name := text.takeWhile (· != '=')
  let attached :=
    match text.dropWhile (· != '=') with
    | [] => none
    | _ :: value => some (String.ofList value)
  match Switch.ofName? given.place (String.ofList name) with
  | none => .error .unknownArgument
  | some switch =>
    if switch.takesValue then given.addOption switch attached
    else if attached.isSome then .error .unwantedValue
    else given.addFlag switch

/-- Reads options by their letters.  What follows the letter of an option that takes a value is that
value. -/
def addLetters (given : Given) : List Char → Except Refusal Given
  | [] => .ok given
  | letter :: rest =>
    match Switch.ofLetter? given.place letter with
    | none => .error .unknownArgument
    | some switch =>
      if switch.takesValue then
        match rest with
        | [] => given.addOption switch none
        | '=' :: value => given.addOption switch (some (String.ofList value))
        | value => given.addOption switch (some (String.ofList value))
      else
        match given.addFlag switch with
        | .ok given => given.addLetters rest
        | .error refusal => .error refusal

/-- The refusal of an argument for which there is no place. -/
def surplus (given : Given) (argument : String) : Refusal :=
  match given.place with
  | .behind _ => .unknownArgument
  | .top =>
    let isName := (Subcommand.ofName? argument).isSome || argument == Switch.help.name
    if given.onlyOperands && isName then .unknownArgument else .unknownSubcommand

/-- Reads an argument that is no option. -/
def addOperand (given : Given) (argument : String) : Except Refusal Given :=
  if given.operands.length < operandLimit given.place then do
    let given ← given.settle
    return { given with operands := given.operands ++ [argument] }
  else .error (given.surplus argument)

/-- Reads an argument. -/
def addArgument (given : Given) (argument : String) : Except Refusal Given :=
  if given.onlyOperands then given.addOperand argument
  else
    match argument.toList with
    | ['-', '-'] => .ok { given with onlyOperands := true }
    | '-' :: '-' :: text => given.addNamed text
    | '-' :: letter :: letters => given.addLetters (letter :: letters)
    | _ =>
      match given.pending with
      | some (switch, none) => .ok { given with pending := some (switch, some argument) }
      | _ => given.addOperand argument

/-- Refuses options that exclude each other. -/
def checkExclusion (given : Given) : Except Refusal Unit :=
  if given.has .verbose && given.has .quiet then .error .conflict else .ok ()

/-- Reads the arguments behind a subcommand. -/
def behind (given : Given) : List String → Except Refusal Given
  | [] => do
    let given ← given.settle
    given.checkExclusion
    if given.operands.length < operandLimit given.place then .error .missingArgument else .ok given
  | argument :: arguments => do
    (← given.addArgument argument).behind arguments

end Given

/-- What is read before the subcommand, and behind it. -/
structure Both where
  top : Given
  subcommand : Subcommand
  behind : Given

/-- The refusal of a request for help, which may be about one subcommand. -/
def helpRefusal : List String → Refusal
  | [] => .help
  | [name] =>
    let known := (Subcommand.ofName? name).isSome || name == Switch.help.name
    if known then .help else .unknownSubcommand
  | _ => .unknownSubcommand

/-- The refusal of arguments without a subcommand. -/
def withoutSubcommand (given : Given) : Refusal :=
  match given.settle with
  | .error refusal => refusal
  | .ok given => if given.switches.isEmpty then .nothingGiven else .missingSubcommand

/-- Reads the arguments.  The arguments behind the subcommand are checked before those in front of
it. -/
def readArguments (given : Given) : List String → Except Refusal Both
  | [] => .error (withoutSubcommand given)
  | argument :: arguments =>
    let mayBeName := !given.onlyOperands && !given.awaitsValue
    match mayBeName, Subcommand.ofName? argument with
    | true, some subcommand => do
      let behind ← (Given.start (.behind subcommand)).behind arguments
      let top ← given.settle
      top.checkExclusion
      return ⟨top, subcommand, behind⟩
    | _, _ =>
      if mayBeName && argument == Switch.help.name then .error (helpRefusal arguments)
      else do readArguments (← given.addArgument argument) arguments

/-! ## Commands -/

/-- What to do. -/
inductive Command where
  | introspect (template : String)
  | validate (template : String) (content : Option String)
  | chain (template : String)
  | list (check : Bool)
deriving DecidableEq, Repr

/-- The path that stands for the standard input. -/
def inputPath : String :=
  "-"

/-- Whether a command reads the standard input. -/
def Command.readsInput : Command → Bool
  | .validate _ content => content == some inputPath
  | _ => false

/-- A command with its options. -/
structure Invocation where
  command : Command
  verbose : Bool
  quiet : Bool
  config : Option String
  templatesDirectory : Option String
  format : Format
deriving DecidableEq, Repr

namespace Both

/-- The value of an option, of which the later one counts. -/
def value? (both : Both) (switch : Switch) : Option String :=
  both.behind.value? switch <|> both.top.value? switch

/-- Whether an option is given. -/
def has (both : Both) (switch : Switch) : Bool :=
  (both.value? switch).isSome

/-- What the subcommand is to do. -/
def command (both : Both) : Command :=
  let template := both.behind.operands.headD ""
  match both.subcommand with
  | .introspect => .introspect template
  | .validate => .validate template (both.behind.value? .content)
  | .chain => .chain template
  | .list => .list (both.behind.has .check)

/-- The command with its options. -/
def invocation (both : Both) : Invocation where
  command := both.command
  verbose := both.has .verbose
  quiet := both.has .quiet
  config := both.value? .config
  templatesDirectory := both.value? .templatesDirectory
  format := ((both.value? .format).bind Format.ofName?).getD .text

end Both

namespace Invocation

/-- The invocation that the arguments ask for. -/
def ofArguments (arguments : List String) : Except Refusal Invocation :=
  (readArguments (.start .top) arguments).map (·.invocation)

/-- The level of logging that the options ask for, if they ask for one. -/
def logLevel (invocation : Invocation) : Option String :=
  if invocation.verbose then some "debug" else if invocation.quiet then some "error" else none

end Invocation

/-- The exit code of a refusal: requests for help and for the version are no failures. -/
def Refusal.exitCode : Refusal → Nat
  | .help | .version => 0
  | _ => 2

end Lineage.CommandLine
