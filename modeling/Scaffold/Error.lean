import Scaffold.Text.Basic

/-!
# Errors

What can go wrong, as causes. Each family has one `message` function that holds its wording, and
`Error.message` adds the name of the family.
-/

namespace Scaffold

/-- A failed file operation: the number and the text the operating system gives. -/
inductive IoError where
  | noEntry
  | notPermitted
  | notDirectory
  | isDirectory
  | invalidArgument
  | nameTooLong
  | tooManyLinks
  | execFormat
  | noDevice
  | argumentsTooLong
  | brokenPipe
  | badDescriptor
  | alreadyThere
  | notEmpty
  | noSpace
  | badEncoding
  | zeroInName
  | zeroInArgument
deriving DecidableEq, Repr, Inhabited

/-- What went wrong in a failed file operation. -/
def IoError.reason : IoError → String
  | .noEntry => "No such file or directory"
  | .notPermitted => "Permission denied"
  | .notDirectory => "Not a directory"
  | .isDirectory => "Is a directory"
  | .invalidArgument => "Invalid argument"
  | .nameTooLong => "File name too long"
  | .tooManyLinks => "Too many levels of symbolic links"
  | .execFormat => "Exec format error"
  | .noDevice => "No such device or address"
  | .argumentsTooLong => "Argument list too long"
  | .brokenPipe => "Broken pipe"
  | .badDescriptor => "Bad file descriptor"
  | .alreadyThere => "File exists"
  | .notEmpty => "Directory not empty"
  | .noSpace => "No space left on device"
  | .badEncoding => "stream did not contain valid UTF-8"
  | .zeroInName => "file name contained an unexpected NUL byte"
  | .zeroInArgument => "nul byte found in provided data"

/-- The number the operating system gives a failure, if it was the one that failed. -/
def IoError.number? : IoError → Option Nat
  | .noEntry => some 2
  | .noDevice => some 6
  | .argumentsTooLong => some 7
  | .execFormat => some 8
  | .badDescriptor => some 9
  | .notPermitted => some 13
  | .alreadyThere => some 17
  | .notDirectory => some 20
  | .isDirectory => some 21
  | .invalidArgument => some 22
  | .noSpace => some 28
  | .brokenPipe => some 32
  | .nameTooLong => some 36
  | .notEmpty => some 39
  | .tooManyLinks => some 40
  | .badEncoding => none
  | .zeroInName => none
  | .zeroInArgument => none

/-- Text of a failed file operation. -/
def IoError.message (e : IoError) : String :=
  match e.number? with
  | some n => e.reason ++ " (os error " ++ toString n ++ ")"
  | none => e.reason

/-- Library discovery and script loading. -/
inductive ConfigError where
  | notFound (searched : String)
  | invalid (reason : String)
  | invalidScript (path reason : String)
  | assistantNotFound (path : String)
  | duplicateFlag (flag : String)
  | noRunner (tag : String)
deriving DecidableEq, Repr, Inhabited

/-- Text of a configuration error. -/
def ConfigError.message : ConfigError → String
  | .notFound searched => "No assistant library found (searched: " ++ searched ++ ")"
  | .invalid reason => "Invalid configuration: " ++ reason
  | .invalidScript path reason => "Failed to load script '" ++ path ++ "': " ++ reason
  | .assistantNotFound path => "Assistant '" ++ path ++ "' is not defined"
  | .duplicateFlag flag => "Argument flag '" ++ flag ++ "' is declared more than once"
  | .noRunner tag => "No command runner matches '" ++ tag ++ "'"

/-- Malformed expressions, variable references and block headers. -/
inductive SyntaxError where
  | invalidExpression (text : String)
  | invalidVariable (text : String)
  | tooManyVariables (target : String)
  | invalidFor (header : String)
  | notAMapping (kind : String)
  | invalidSection (reason : String)
deriving DecidableEq, Repr, Inhabited

/-- Text of a malformed construct. -/
def SyntaxError.message : SyntaxError → String
  | .invalidExpression text => "Not a valid expression: " ++ text
  | .invalidVariable text => "Not a proper variable name: " ++ text
  | .tooManyVariables target => "Max two variables allowed on left side: " ++ target
  | .invalidFor header =>
    "For loop call must be in form 'for $var in expression', got: " ++ header
  | .notAMapping kind => "Can't expand " ++ kind ++ " to two control variables"
  | .invalidSection reason => "Invalid section: " ++ reason

/-- Failures of a run. -/
inductive ExecutionError where
  | commandFailed (command : String) (code : Option Int) (output : String)
  | logged (message : String)
  | markerFile (reason : String)
  | missingArgument (name : String)
  | recursionLimit (calls : String)
deriving DecidableEq, Repr, Inhabited

/-- An exit code as it stands in messages; a process that a signal ended has none. -/
def exitCodeText : Option Int → String
  | some n => "Some(" ++ toString n ++ ")"
  | none => "None"

/-- Text of a failure. -/
def ExecutionError.message : ExecutionError → String
  | .commandFailed command code _ =>
    "Command '" ++ command ++ "' failed with exit code " ++ exitCodeText code
  | .logged message => message
  | .markerFile reason => "Couldn't find properly formatted .devassistant file: " ++ reason
  | .missingArgument name => "Argument '" ++ name ++ "' is required but not provided"
  | .recursionLimit calls => "Call depth limit exceeded: " ++ calls

/-- Every error of the library. -/
inductive Error where
  | config (e : ConfigError)
  | syntaxFault (e : SyntaxError)
  | execution (e : ExecutionError)
  | io (e : IoError)
  | yaml
deriving DecidableEq, Repr, Inhabited

/-- Text of an error with the name of its family. -/
def Error.message : Error → String
  | .config e => "Configuration error: " ++ e.message
  | .syntaxFault e => "Syntax error: " ++ e.message
  | .execution e => "Execution error: " ++ e.message
  | .io e => "I/O error: " ++ e.message
  | .yaml => "YAML parsing error"

/-- The error beneath the family name, where there is one. -/
def Error.cause? : Error → Option String
  | .config e => some e.message
  | .syntaxFault e => some e.message
  | .execution e => some e.message
  | .io e => some e.message
  | .yaml => none

/-- The output that a failed command left. -/
def Error.commandOutput? : Error → Option String
  | .execution (.commandFailed _ _ output) => some output
  | _ => none

/-! ### Results -/

theorem exists_of_bind_ok {α β ε : Type} {x : Except ε α} {f : α → Except ε β} {b : β}
    (h : (x >>= f) = .ok b) : ∃ a, x = .ok a ∧ f a = .ok b := by
  cases x with
  | error e => cases h
  | ok a => exact ⟨a, rfl, h⟩

theorem eq_ok_of_mapError {α ε δ : Type} {g : ε → δ} {x : Except ε α} {a : α}
    (h : x.mapError g = .ok a) : x = .ok a := by
  cases x with
  | error e => cases h
  | ok b => cases h; rfl

theorem eq_ok_of_toOption {α ε : Type} {x : Except ε α} {a : α} (h : x.toOption = some a) :
    x = .ok a := by
  cases x with
  | error e => cases h
  | ok b => cases h; rfl

/-- The error that a result is. -/
def failure? {α ε : Type} : Except ε α → Option ε
  | .ok _ => none
  | .error e => some e

theorem eq_error_of_failure? {α ε : Type} {x : Except ε α} {e : ε} (h : failure? x = some e) :
    x = .error e := by
  cases x <;> cases h
  rfl

theorem exists_of_map_ok {α β ε : Type} {g : α → β} {x : Except ε α} {b : β}
    (h : x.map g = .ok b) : ∃ a, x = .ok a ∧ g a = b := by
  cases x with
  | error e => cases h
  | ok a => cases h; exact ⟨a, rfl, rfl⟩

end Scaffold
