import Scaffold.Machine.Number
import Scaffold.Text.Basic

/-!
# Signals

Signals by name and number, and what a shell says about a program that one of them ended.
-/

namespace Scaffold

namespace Signal

/-- The names of signals by number. The number zero stands for the end of the shell. -/
def names : List String :=
  ["EXIT", "HUP", "INT", "QUIT", "ILL", "TRAP", "ABRT", "BUS", "FPE", "KILL", "USR1", "SEGV",
   "USR2", "PIPE", "ALRM", "TERM", "16", "CHLD", "CONT", "STOP", "TSTP", "TTIN", "TTOU", "URG",
   "XCPU", "XFSZ", "VTALRM", "PROF", "WINCH", "IO", "PWR", "SYS", "32", "33", "RTMIN"] ++
    ((List.range 15).map fun i => "RTMIN+" ++ toString (i + 1)) ++
    ((List.range 14).map fun i => "RTMAX-" ++ toString (14 - i)) ++ ["RTMAX"]

/-- The number of signals. -/
def count : Nat := 65

/-- The name of a signal; one without a name has its number. -/
def name (n : Nat) : String := names.getD n (toString n)

/-- The signal that a number names. -/
def ofNumber? (s : String) : Option Nat := (Integer.natural? s).filter (· < count)

/-- The signal that a name or a number names, from a number on. -/
def ofText? (least : Nat) (s : String) : Option Nat :=
  match Integer.natural? s with
  | some n => if n < count then some n else none
  | none => ((List.range names.length).drop least).find? fun n => names.getD n "" == s.toUpper

/-- Signals that do not end a program. -/
def isHarmless (n : Nat) : Bool := [0, 17, 18, 19, 20, 21, 22, 23, 28].contains n

/-- What is said about a program that a signal ended. -/
def description (n : Nat) : String :=
  match n with
  | 1 => "Hangup"
  | 2 => "Interrupt"
  | 3 => "Quit"
  | 4 => "Illegal instruction"
  | 5 => "Trace/breakpoint trap"
  | 6 => "Aborted"
  | 7 => "Bus error"
  | 8 => "Floating point exception"
  | 9 => "Killed"
  | 10 => "User defined signal 1"
  | 11 => "Segmentation fault"
  | 12 => "User defined signal 2"
  | 13 => "Broken pipe"
  | 14 => "Alarm clock"
  | 15 => "Terminated"
  | 16 => "Stack fault"
  | 24 => "CPU time limit exceeded"
  | 25 => "File size limit exceeded"
  | 26 => "Virtual timer expired"
  | 27 => "Profiling timer expired"
  | 29 => "I/O possible"
  | 30 => "Power failure"
  | 31 => "Bad system call"
  | n => "Real-time signal " ++ toString (n - 34)

end Signal

end Scaffold
