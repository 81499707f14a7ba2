import Scaffold.Machine.Tool.Basic

/-!
# Joining files

`cat` writes files one after the other, possibly with line numbers, marks at line ends and all bytes
visible. Lines go on across files: a file that does not end in a line break is continued by the
next.
-/

namespace Scaffold

namespace Tool

namespace Cat

/-- What is shown besides the bytes themselves. -/
structure Settings where
  number : Bool := false
  /-- Only lines that are not empty are numbered. -/
  nonblank : Bool := false
  ends : Bool := false
  squeeze : Bool := false
  tabs : Bool := false
  visible : Bool := false
deriving DecidableEq, Inhabited

/-- Whether bytes are written as they are. -/
def Settings.isPlain (s : Settings) : Bool := s == {}

/-- A byte that is made visible. -/
def visibleByte (c : Char) : String :=
  let low (n : Nat) : String :=
    if n < 32 then "^" ++ String.singleton (Char.ofNat (n + 64))
    else if n = 127 then "^?"
    else String.singleton (Char.ofNat n)
  if c.toNat ≥ 128 then "M-" ++ low (c.toNat - 128) else low c.toNat

/-- Where in the lines the output is: the number of the last numbered line, and how many empty lines
came last, `none` within a line. -/
structure Place where
  last : Nat := 0
  blanks : Option Nat := some 0
deriving Inhabited

/-- The number in front of a line. -/
def numberText (n : Nat) : String :=
  let s := toString n
  Text.repeated (6 - s.length) " " ++ s ++ "\t"

/-- Show bytes from a place on. -/
def shown (s : Settings) : Place → List Char → Place × List String
  | p, [] => (p, [])
  | p, '\n' :: cs =>
    let ending := (if s.ends then "$" else "") ++ "\n"
    match p.blanks with
    | none =>
      let (q, rest) := shown s { p with blanks := some 0 } cs
      (q, ending :: rest)
    | some k =>
      if k ≥ 1 && s.squeeze then shown s p cs
      else
        let numbered := s.number && !s.nonblank
        let last := if numbered then p.last + 1 else p.last
        let (q, rest) := shown s { last, blanks := some (k + 1) } cs
        (q, ((if numbered then numberText last else "") ++ ending) :: rest)
  | p, c :: cs =>
    let starts := p.blanks.isSome && s.number
    let last := if starts then p.last + 1 else p.last
    let text :=
      if c == '\t' then (if s.tabs then "^I" else "\t")
      else if s.visible then visibleByte c
      else if c == '\r' && s.ends && cs.head? == some '\n' then "^M"
      else String.singleton c
    let (q, rest) := shown s { last, blanks := none } cs
    (q, ((if starts then numberText last else "") ++ text) :: rest)

/-- The options. -/
def grammar : Options.Grammar :=
  { short := Options.flags "benstuvAET"
    long :=
      [("number-nonblank", .none, "b"), ("number", .none, "n"), ("squeeze-blank", .none, "s"),
       ("show-nonprinting", .none, "v"), ("show-ends", .none, "E"), ("show-tabs", .none, "T"),
       ("show-all", .none, "A"), ("help", .none, "help"), ("version", .none, "version")] }

/-- Apply an option. -/
def apply (s : Settings) (code : String) (_ : Option String) : Tool Settings :=
  match code with
  | "b" => return { s with number := true, nonblank := true }
  | "e" => return { s with ends := true, visible := true }
  | "n" => return { s with number := true }
  | "s" => return { s with squeeze := true }
  | "t" => return { s with tabs := true, visible := true }
  | "v" => return { s with visible := true }
  | "A" => return { s with visible := true, ends := true, tabs := true }
  | "E" => return { s with ends := true }
  | "T" => return { s with tabs := true }
  | _ => return s

/-- Whether a file is also where the output goes, and has something left to be read. -/
def feedsItself (k : Nat) : Tool Bool := do
  let s ← get
  match s.machine.opened[k]?, s.machine.openedAt? s.process.channels 1 with
  | some { stream := .file a, position, .. }, some { stream := .file b, .. } =>
    return a == b && position < (s.machine.contentAt a).length
  | _, _ => return false

/-- Show files one after the other; the result says whether all could be read. -/
def each (s : Settings) : Place → (ok : Bool) → List String → Tool Bool
  | _, ok, [] => return ok
  | p, ok, name :: rest => do
    let failed (reason : String) : Tool Bool := do
      complain (Quote.needed name ++ ": " ++ reason)
      each s p false rest
    match ← if name = "-" then standardInput else openFile name .read with
    | .error e => failed e.reason
    | .ok k =>
      if ← feedsItself k then failed "input file is output file"
      else
        match ← readOpened k none with
        | .error e => failed e.reason
        | .ok bytes =>
          if s.isPlain then
            say (Octets.ofBytes bytes)
            each s p ok rest
          else
            let (q, parts) := shown s p (Octets.chars bytes)
            say (Text.join "" parts)
            each s q ok rest

end Cat

/-- Write files one after the other. -/
def cat (args : List String) : Tool Nat := do
  let line := Options.read Cat.grammar args
  let settings ← eachOption 1 Cat.apply line.steps {}
  let names := if line.operands.isEmpty then ["-"] else line.operands
  if ((← get).process.channels.get? 1).isNone then
    die 1 "standard output: Bad file descriptor"
  let ok ← Cat.each settings {} true names
  if names.contains "-" then
    if let .error e ← standardInput then
      die 1 ("closing standard input: " ++ e.reason)
  return if ok then 0 else 1

end Tool

end Scaffold
