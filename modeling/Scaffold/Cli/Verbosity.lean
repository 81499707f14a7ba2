import Scaffold.Cli.Filter

/-!
# Verbosity

Which messages are shown. The environment counts before the options of the command line.
-/

namespace Scaffold

/-- How much is shown. -/
inductive Verbosity where
  | silent
  | quiet
  | normal
  | verbose
deriving DecidableEq, Repr, Inhabited

/-- The name of the filter of a verbosity. -/
def Verbosity.filter : Verbosity → String
  | .silent => "off"
  | .quiet => "warn"
  | .normal => "info"
  | .verbose => "debug"

/-- Everything from silent to verbose. -/
def Verbosity.all : List Verbosity := [.silent, .quiet, .normal, .verbose]

/-- The name of a level. -/
def Level.name : Level → String
  | .debug => "DEBUG"
  | .info => "INFO"
  | .warn => "WARN"
  | .error => "ERROR"

/-- The filter for a verbosity, unless the environment has one. -/
def Verbosity.messages (v : Verbosity) (environment : Option String) : Filter :=
  (environment.bind Filter.read?).getD [{ rank := (filterRank? v.filter).getD 0 }]

/-- A character of a message. Controls that a terminal obeys are written by their number. -/
def shownChar (c : Char) : List Char :=
  let n := c.toNat
  let digits := Nat.toDigits 16 n
  if [0x07, 0x08, 0x0c, 0x1b, 0x7f].contains n then
    '\\' :: 'x' :: (if n < 16 then '0' :: digits else digits)
  else if 0x80 ≤ n && n ≤ 0x9f then ['\\', 'u', '\x7b'] ++ digits ++ ['\x7d']
  else [c]

/-- A message as a line: the level in five columns, then the text. -/
def messageLine (level : Level) (message : String) : String :=
  let name := level.name
  Text.repeated (5 - name.length) " " ++ name ++ " " ++
    String.ofList (message.toList.flatMap shownChar)

/-- The lines of the messages that are shown. -/
def shownMessages (filter : Filter) (events : List Event) : List String :=
  events.filterMap fun
    | .logged origin level message =>
      if filter.shows origin level then some (messageLine level message) else none
    | _ => none

end Scaffold
