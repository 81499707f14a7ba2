import Scaffold.Machine.Tool.Basic

/-!
# Names of files

`basename` takes the directories off names, and `pwd` tells the current directory.
-/

namespace Scaffold

namespace Tool

/-- A path without separators at its end; separators alone are one. -/
def withoutSlashes (path : String) : String :=
  let cs := (path.toList.reverse.dropWhile (· == '/')).reverse
  if cs.isEmpty && !path.isEmpty then "/" else String.ofList cs

/-- The last part of a path. -/
def lastPart (path : String) : String :=
  let bare := withoutSlashes path
  if bare = "/" then bare
  else
    match Chars.splitLast? '/' bare.toList with
    | some (_, name) => String.ofList name
    | none => bare

/-- A name without a suffix, unless it is nothing else. -/
def withoutSuffix (suffix name : String) : String :=
  match Text.stripSuffix? suffix name with
  | some rest => if rest.isEmpty then name else rest
  | none => name

namespace BaseName

/-- What is taken off, and of how many names. -/
structure Settings where
  several : Bool := false
  suffix : Option String := none
  ending : String := "\n"
deriving Inhabited

/-- The options. -/
def grammar : Options.Grammar :=
  { short := Options.flags "az" ++ Options.valued "s"
    long :=
      [("multiple", .none, "a"), ("suffix", .required, "s"), ("zero", .none, "z"),
       ("help", .none, "help"), ("version", .none, "version")]
    mixed := false }

/-- Apply an option. -/
def apply (s : Settings) (code : String) (argument : Option String) : Tool Settings :=
  match code with
  | "a" => return { s with several := true }
  | "s" => return { s with several := true, suffix := argument }
  | "z" => return { s with ending := "\x00" }
  | _ => return s

end BaseName

/-- Write the last parts of paths. -/
def basename (args : List String) : Tool Nat := do
  let line := Options.read BaseName.grammar args
  let s ← eachOption 1 BaseName.apply line.steps {}
  let shown (suffix : Option String) (path : String) : Tool Unit := do
    let name := lastPart path
    let name := match suffix with
      | some suffix => if name = "/" then name else withoutSuffix suffix name
      | none => name
    say (name ++ s.ending)
  match line.operands with
  | [] => misuse 1 "missing operand"
  | paths =>
    if s.several then
      paths.forM (shown s.suffix)
    else
      match paths with
      | path :: suffix :: extra :: _ =>
        let _ := (path, suffix)
        misuse 1 ("extra operand " ++ Quote.plain extra)
      | path :: rest => shown rest.head? path
      | [] => pure ()
    return 0

/-- Write the current directory: without links, or as the environment names it. -/
def pwd (args : List String) : Tool Nat := do
  let grammar : Options.Grammar :=
    { short := Options.flags "LP"
      long :=
        [("logical", .none, "L"), ("physical", .none, "P"), ("help", .none, "help"),
         ("version", .none, "version")] }
  let line := Options.read grammar args
  let logical ← eachOption 1 (fun _ code _ => return code == "L") line.steps false
  if !line.operands.isEmpty then complain "ignoring non-option arguments"
  let s ← get
  let here := (s.machine.files.canonical s.process.dir ".").toOption.getD s.process.dir
  let named := (s.process.environment.get? "PWD").filter fun dir =>
    Path.isAbsolute (Machine.path dir) &&
      !((Text.split '/' dir).any fun part => part = "." || part = "..") &&
      (s.machine.files.canonical "/" (Machine.path dir)).toOption == some here
  say ((if logical then named.getD (Octets.ofText here) else Octets.ofText here) ++ "\n")
  return 0

end Tool

end Scaffold
