import Scaffold.Machine.Tool.Names

/-!
# Settings of a copy

What a copy does with links, with targets that are there and with what belongs to a file besides its
content, as the options of `cp` say it.
-/

namespace Scaffold

namespace Tool

namespace Copy

/-- When links are followed. -/
inductive Following where
  | never
  | always
  /-- Only those that are named as sources. -/
  | named
deriving DecidableEq, Repr, Inhabited

/-- What is done with a target that is there. -/
inductive Overwriting where
  | always
  | never
  | ask
deriving DecidableEq, Repr, Inhabited

/-- How the old content of a target is kept. -/
inductive Backup where
  | simple
  | numbered
  /-- Numbered where there are such copies already. -/
  | existing
deriving DecidableEq, Repr, Inhabited

/-- How is copied. -/
structure Settings where
  recursive : Bool := false
  follow : Option Following := none
  overwriting : Overwriting := .always
  /-- A target that cannot be opened is removed. -/
  force : Bool := false
  /-- A target is removed before it is opened. -/
  replace : Bool := false
  /-- Links are made instead of copies. -/
  hard : Bool := false
  symbolic : Bool := false
  content : Bool := true
  /-- Whether pipes and devices are read when directories are copied. -/
  devices : Bool := false
  mode : Bool := false
  /-- Whether files get the mode of new ones. -/
  plainMode : Bool := false
  times : Bool := false
  /-- Whether files that were the same stay so. -/
  links : Bool := false
  targetDir : Option String := none
  noTargetDir : Bool := false
  update : Bool := false
  verbose : Bool := false
  parents : Bool := false
  stripSlashes : Bool := false
  clone : Bool := false
  sparse : String := "auto"
  backs : Bool := false
  control : Option String := none
  suffix : Option String := none
  backup : Option Backup := none
deriving Inhabited

/-- The options. -/
def grammar : Options.Grammar :=
  { short := Options.flags "abdfilnprsuvxHLPRTZ" ++ Options.valued "St"
    long :=
      [("archive", .none, "a"), ("attributes-only", .none, "attributes"),
       ("backup", .optional, "b"), ("copy-contents", .none, "contents"),
       ("dereference", .none, "L"), ("force", .none, "f"),
       ("interactive", .none, "i"), ("link", .none, "l"), ("no-clobber", .none, "n"),
       ("no-dereference", .none, "P"), ("no-preserve", .required, "discard"),
       ("no-target-directory", .none, "T"), ("one-file-system", .none, "x"),
       ("parents", .none, "parents"), ("path", .none, "parents"),
       ("preserve", .optional, "preserve"), ("recursive", .none, "R"),
       ("remove-destination", .none, "remove"), ("sparse", .required, "sparse"),
       ("reflink", .optional, "clone"), ("strip-trailing-slashes", .none, "strip"),
       ("suffix", .required, "S"), ("symbolic-link", .none, "s"),
       ("target-directory", .required, "t"), ("update", .none, "u"), ("verbose", .none, "v"),
       ("context", .optional, "Z"), ("help", .none, "help"), ("version", .none, "version")] }

/-- What can be preserved. -/
def attributes : List (List String) :=
  [["mode"], ["timestamps"], ["ownership"], ["links"], ["context"], ["xattr"], ["all"]]

/-- Preserve what is named in a list, or discard it. -/
def preserve (option : String) (on : Bool) (s : Settings) (list : String) : Tool Settings :=
  (Text.split ',' list).foldlM (fun s name => do
    match ← choose option attributes name with
    | ["mode"] => return { s with mode := on, plainMode := !on }
    | ["timestamps"] => return { s with times := on }
    | ["links"] => return { s with links := on }
    | ["context"] =>
      if on then die 1 "cannot preserve security context without an SELinux-enabled kernel"
      return s
    | ["all"] => return { s with mode := on, plainMode := !on, times := on, links := on }
    | _ => return s) s

/-- Apply an option. -/
def apply (s : Settings) (code : String) (argument : Option String) : Tool Settings :=
  match code with
  | "a" => return { s with
      recursive := true, follow := some .never, mode := true, times := true, links := true }
  | "b" => return { s with backs := true, control := argument <|> s.control }
  | "d" => return { s with follow := some .never, links := true }
  | "f" => return { s with force := true }
  | "i" => return { s with overwriting := .ask }
  | "l" => return { s with hard := true }
  | "n" => return { s with overwriting := .never }
  | "p" => return { s with mode := true, times := true }
  | "r" => return { s with recursive := true }
  | "R" => return { s with recursive := true }
  | "s" => return { s with symbolic := true }
  | "u" => return { s with update := true }
  | "v" => return { s with verbose := true }
  | "H" => return { s with follow := some .named }
  | "L" => return { s with follow := some .always }
  | "P" => return { s with follow := some .never }
  | "T" => return { s with noTargetDir := true }
  | "S" => return { s with backs := true, suffix := argument }
  | "Z" => do
    if argument.isSome then
      complain "warning: ignoring --context; it requires an SELinux-enabled kernel"
    return s
  | "t" => do
    if s.targetDir.isSome then die 1 "multiple target directories specified"
    return { s with targetDir := argument }
  | "parents" => return { s with parents := true }
  | "attributes" => return { s with content := false }
  | "contents" => return { s with devices := true }
  | "remove" => return { s with replace := true }
  | "strip" => return { s with stripSlashes := true }
  | "sparse" => do
    let kind ← choose "--sparse" [["never"], ["auto"], ["always"]] (argument.getD "")
    return { s with sparse := kind.headD "" }
  | "clone" => do
    let kind ← match argument with
      | some text => choose "--reflink" [["auto"], ["always"], ["never"]] text
      | none => pure ["always"]
    return { s with clone := kind == ["always"] }
  | "preserve" =>
    match argument with
    | some list => preserve "--preserve" true s list
    | none => return { s with mode := true, times := true }
  | "discard" => preserve "--no-preserve" false s (argument.getD "")
  | _ => return s

/-- The ways to keep old content, by name. -/
def controls : List (List String) :=
  [["none", "off"], ["simple", "never"], ["existing", "nil"], ["numbered", "t"]]

/-- How old content is kept, from an argument or else from the environment. -/
def backupOf (s : Settings) : Tool (Option Backup) := do
  if !s.backs then return none
  let environment := (← get).process.environment
  let (context, text) := match s.control.filter fun t => !t.isEmpty with
    | some text => ("backup type", text)
    | none => ("$VERSION_CONTROL", (environment.get? "VERSION_CONTROL").getD "")
  if text.isEmpty then return some .existing
  match ← choose context controls text with
  | ["simple", "never"] => return some .simple
  | ["existing", "nil"] => return some .existing
  | ["numbered", "t"] => return some .numbered
  | _ => return none

/-- What stands behind the names of simple backups. A suffix cannot lead elsewhere. -/
def suffixOf (s : Settings) : Tool String := do
  let environment := (← get).process.environment
  let given := s.suffix <|> environment.get? "SIMPLE_BACKUP_SUFFIX"
  return (given.filter fun t => !t.isEmpty && !Text.contains '/' t).getD "~"

/-- Check the settings against each other, and complete them. -/
def checked (s : Settings) : Tool Settings := do
  if s.hard && s.symbolic then misuse 1 "cannot make both hard and symbolic links"
  if s.backs && s.overwriting = .never then
    misuse 1 "options --backup and --no-clobber are mutually exclusive"
  if s.clone && s.sparse != "auto" then misuse 1 "--reflink can be used only with --sparse=auto"
  let backup ← backupOf s
  let suffix ← suffixOf s
  return { s with
    backup
    suffix := some suffix
    update := s.update && s.overwriting != .never
    follow := some (s.follow.getD (if s.recursive && !s.hard then .never else .always))
    replace := s.replace || (s.force && (s.hard || s.symbolic)) }

end Copy

end Tool

end Scaffold
