import Scaffold.Library

/-!
# Command line arguments

The command line has options that count everywhere and three subcommands: `run`, `list` and
`completions`. `Arguments.read` turns the arguments into a `Request`, or says why they are refused.

An option value is either attached or the next argument, and is checked when the next option or
operand is met or the arguments end. An option that takes one value, or none, comes at most once at
each level; where a global option is given both before and behind the subcommand, the latter counts.
-/

namespace Scaffold

/-- Why arguments are not a request. Asking for help or the version ends the reading as well. -/
inductive Refusal where
  | invalidValue
  | unknownArgument
  | invalidSubcommand
  | missingRequired
  | failedCheck
  | conflict
  | tooManyValues
  | helpWanted
  | versionWanted
deriving DecidableEq, Repr, Inhabited

/-- Options. -/
inductive Opt where
  | library
  | quiet
  | silent
  | verbose
  | pair
  | envFile
  | directory
  | noDeps
  | help
  | version
deriving DecidableEq, Repr, Inhabited

/-- Operands. -/
inductive Operand where
  | role
  | path
  | shell
deriving DecidableEq, Repr, Inhabited

/-- The command whose arguments are read. -/
inductive Scope where
  | top
  | run
  | list
  | completions
deriving DecidableEq, Repr, Inhabited

namespace Opt

/-- Whether an option takes a value. -/
def takesValue : Opt → Bool
  | .library => true
  | .pair => true
  | .envFile => true
  | .directory => true
  | _ => false

/-- Whether an option may come more than once. -/
def repeats : Opt → Bool
  | .library => true
  | .pair => true
  | _ => false

/-- The letter of an option. -/
def letter? : Opt → Option Char
  | .library => some 'l'
  | .quiet => some 'q'
  | .silent => some 's'
  | .verbose => some 'v'
  | .pair => some 'a'
  | .envFile => none
  | .directory => some 'C'
  | .noDeps => none
  | .help => some 'h'
  | .version => some 'V'

/-- The name of an option. -/
def name : Opt → String
  | .library => "library"
  | .quiet => "quiet"
  | .silent => "silent"
  | .verbose => "verbose"
  | .pair => "arg"
  | .envFile => "env-file"
  | .directory => "directory"
  | .noDeps => "no-deps"
  | .help => "help"
  | .version => "version"

end Opt

namespace Scope

/-- The options of a command. -/
def options : Scope → List Opt
  | .top => [.library, .quiet, .silent, .verbose, .help, .version]
  | .run =>
    [.library, .quiet, .silent, .verbose, .help, .pair, .envFile, .directory, .noDeps]
  | .list => [.library, .quiet, .silent, .verbose, .help]
  | .completions => [.library, .quiet, .silent, .verbose, .help]

/-- The operands of a command, in order. -/
def operands : Scope → List Operand
  | .top => []
  | .run => [.role, .path]
  | .list => [.role]
  | .completions => [.shell]

/-- The operands that must be there. -/
def required : Scope → List Operand
  | .top => []
  | .run => [.role, .path]
  | .list => []
  | .completions => [.shell]

/-- The subcommand of a name. -/
def ofName? : String → Option Scope
  | "run" => some .run
  | "list" => some .list
  | "completions" => some .completions
  | _ => none

end Scope

/-- The shells that completions can be asked for. -/
def shells : List String := ["bash", "elvish", "fish", "powershell", "zsh"]

/-- What was given at one level. -/
structure Given where
  options : List Opt := []
  values : List (Opt × String) := []
  operands : List (Operand × String) := []
deriving DecidableEq, Repr, Inhabited

namespace Given

/-- The values of an option, if it was given. -/
def values? (g : Given) (o : Opt) : Option (List String) :=
  if g.options.contains o then
    some (g.values.filterMap fun (k, v) => if k = o then some v else none)
  else none

/-- The values of an operand. -/
def operand (g : Given) (o : Operand) : List String :=
  g.operands.filterMap fun (k, v) => if k = o then some v else none

end Given

namespace Arguments

/-- A key and a value, divided at the first equals sign. -/
def keyValue? (s : String) : Option (String × String) :=
  (Text.splitFirst? '=' s).filter fun p => !p.1.isEmpty

/-- Check the value of an option. -/
def checkValue (o : Opt) (v : String) : Except Refusal Unit :=
  if o = .pair then
    if (keyValue? v).isSome then .ok () else .error .failedCheck
  else if v.isEmpty then .error .invalidValue
  else .ok ()

/-- Check the value of an operand. -/
def checkOperand (o : Operand) (v : String) : Except Refusal Unit :=
  let known : Bool := match o with
    | .role => roles.contains v
    | .path => true
    | .shell => shells.contains v
  if known then .ok () else .error .invalidValue

/-- An option or operands whose values are complete only when something else comes. -/
inductive Waiting where
  | nothing
  | option (o : Opt) (value : Option String)
  | operands (o : Operand) (values : List String)
deriving DecidableEq, Repr, Inhabited

/-- Take an option with its value, if it has one. -/
def takeOption (g : Given) (o : Opt) (value : Option String) : Except Refusal Given := do
  match value with
  | none => if o.takesValue then throw .invalidValue
  | some _ => pure ()
  if o = .help then throw .helpWanted
  if o = .version then throw .versionWanted
  if !o.repeats && g.options.contains o then throw .conflict
  match value with
  | none => return { g with options := o :: g.options }
  | some v =>
    checkValue o v
    return { g with options := o :: g.options, values := g.values ++ [(o, v)] }

/-- Take what was waiting. -/
def settle (g : Given) : Waiting → Except Refusal Given
  | .nothing => .ok g
  | .option o value => takeOption g o value
  | .operands o values => do
    values.forM (checkOperand o)
    return { g with operands := g.operands ++ values.map fun v => (o, v) }

/-- Where reading stands within a level. -/
structure Reading where
  given : Given := {}
  waiting : Waiting := .nothing
  /-- How many operands are complete. -/
  complete : Nat := 0
  /-- Whether only operands follow. -/
  operandsOnly : Bool := false
deriving Inhabited

/-- Whether an option still needs its value. -/
def Reading.needsValue (r : Reading) : Bool :=
  match r.waiting with
  | .option _ none => true
  | _ => false

/-- Settle what waits, then take an option that is complete. -/
def Reading.take (r : Reading) (o : Opt) (value : Option String) : Except Refusal Reading := do
  let given ← settle r.given r.waiting
  let given ← takeOption given o value
  return { r with given, waiting := .nothing }

/-- Settle what waits, then wait for the value of an option. -/
def Reading.await (r : Reading) (o : Opt) : Except Refusal Reading := do
  let given ← settle r.given r.waiting
  return { r with given, waiting := .option o none }

/-- An option with a long name, behind its dashes. -/
def readLong (scope : Scope) (text : String) (r : Reading) : Except Refusal Reading :=
  let (name, value) : String × Option String := match Text.splitFirst? '=' text with
    | some (name, value) => (name, some value)
    | none => (text, none)
  match scope.options.find? fun o => o.name = name with
  | none => .error .unknownArgument
  | some o =>
    if o.takesValue then
      match value with
      | some v => r.take o (some v)
      | none => r.await o
    else if value.isSome then .error .tooManyValues
    else r.take o none

/-- Letters of options, behind their dash. The first that takes a value takes the rest as its
value. -/
def readLetters (scope : Scope) : List Char → Reading → Except Refusal Reading
  | [], r => .ok r
  | c :: rest, r =>
    match scope.options.find? fun o => o.letter? = some c with
    | none => .error .unknownArgument
    | some o =>
      if o.takesValue then
        match rest with
        | [] => r.await o
        | '=' :: value => r.take o (some (String.ofList value))
        | value => r.take o (some (String.ofList value))
      else do
        let r ← r.take o none
        readLetters scope rest r

/-- An operand. -/
def readOperand (scope : Scope) (arg : String) (r : Reading) : Except Refusal Reading :=
  match scope.operands[r.complete]? with
  | none =>
    if scope = .top then
      if r.operandsOnly && ((Scope.ofName? arg).isSome || arg = "help") then .error .unknownArgument
      else .error .invalidSubcommand
    else .error .unknownArgument
  | some o =>
    match o, r.waiting with
    | .path, .operands .path values =>
      .ok { r with waiting := .operands .path (values ++ [arg]) }
    | _, _ => do
      let given ← settle r.given r.waiting
      return { r with
        given
        waiting := .operands o [arg]
        complete := if o = .path then r.complete else r.complete + 1 }

/-- One argument. -/
def readArgument (scope : Scope) (arg : String) (r : Reading) : Except Refusal Reading :=
  if r.operandsOnly then readOperand scope arg r
  else if arg = "--" then .ok { r with operandsOnly := true }
  else match Text.stripPrefix? "--" arg with
    | some text => readLong scope text r
    | none =>
      match arg.toList with
      | '-' :: c :: cs => readLetters scope (c :: cs) r
      | _ =>
        match r.waiting with
        | .option o none => .ok { r with waiting := .option o (some arg) }
        | _ => readOperand scope arg r

/-- What was given behind a subcommand: everything is settled and what is required is there. -/
def finish (scope : Scope) (r : Reading) : Except Refusal Given := do
  let given ← settle r.given r.waiting
  if scope.required.all fun o => !(given.operand o).isEmpty then return given
  else throw .missingRequired

/-- Read the arguments of a subcommand. -/
def readScope (scope : Scope) : List String → Reading → Except Refusal Given
  | [], r => finish scope r
  | arg :: rest, r => do
    let r ← readArgument scope arg r
    readScope scope rest r

/-- Help on nothing, or on one subcommand. -/
def readHelp : List String → Refusal
  | [] => .helpWanted
  | [name] =>
    if (Scope.ofName? name).isSome || name = "help" then .helpWanted else .invalidSubcommand
  | _ => .invalidSubcommand

/-- Read the arguments up to a subcommand, and those behind it. -/
def readTop : List String → Reading → Except Refusal (Given × Option (Scope × Given))
  | [], r => do return (← finish .top r, none)
  | arg :: rest, r => do
    if !r.operandsOnly && !r.needsValue then
      if arg = "help" then throw (readHelp rest)
      match Scope.ofName? arg with
      | some scope =>
        let inner ← readScope scope rest {}
        return (← finish .top r, some (scope, inner))
      | none => pure ()
    let r ← readArgument .top arg r
    readTop rest r

end Arguments

/-! ### Requests -/

/-- Options that count everywhere. -/
structure GlobalOptions where
  library : Option (List String) := none
  quiet : Bool := false
  silent : Bool := false
  verbose : Bool := false
deriving DecidableEq, Repr, Inhabited

/-- A run that is asked for. -/
structure RunRequest where
  role : String
  path : List String
  pairs : Option (List (String × String)) := none
  envFile : Option String := none
  directory : Option String := none
  noDeps : Bool := false
deriving DecidableEq, Repr, Inhabited

/-- What is asked for. -/
inductive Action where
  | nothing
  | run (r : RunRequest)
  | list (role : Option String)
  | completions (shell : String)
deriving DecidableEq, Repr, Inhabited

/-- A request on the command line. -/
structure Request where
  options : GlobalOptions := {}
  action : Action := .nothing
deriving DecidableEq, Repr, Inhabited

namespace Arguments

/-- The global options given before and behind a subcommand. -/
def globalOptions (outer inner : Given) : GlobalOptions :=
  let flag (o : Opt) : Bool := outer.options.contains o || inner.options.contains o
  { library := inner.values? .library <|> outer.values? .library
    quiet := flag .quiet
    silent := flag .silent
    verbose := flag .verbose }

/-- The action of a subcommand. -/
def action (scope : Scope) (g : Given) : Action :=
  match scope with
  | .top => .nothing
  | .run =>
    .run
      { role := (g.operand .role).headD ""
        path := g.operand .path
        pairs := (g.values? .pair).map fun vs => vs.filterMap keyValue?
        envFile := (g.values? .envFile).bind List.head?
        directory := (g.values? .directory).bind List.head?
        noDeps := g.options.contains .noDeps }
  | .list => .list (g.operand .role).head?
  | .completions => .completions ((g.operand .shell).headD "")

/-- Read the arguments of the program, without its name. -/
def read (args : List String) : Except Refusal Request := do
  let (outer, inner) ← readTop args {}
  match inner with
  | none => return { options := globalOptions outer {} }
  | some (scope, g) => return { options := globalOptions outer g, action := action scope g }

end Arguments

end Scaffold
