import Scaffold.Machine.Shell.Builtin.Basic

/-!
# The current directory and the file mask

The shell remembers by which names it came to its directory. Unless told otherwise it takes parent
parts out of a path by these names, so that going through a link and back leads to where one was.
-/

namespace Scaffold

namespace Shell

namespace Builtin

/-- A directory seen from another by names alone. There is none if a directory on the way to a
parent part is missing. -/
def logicalPath (dir path : String) : String :=
  let isAbsolute := Text.startsWith "/" path
  let twoSlashes := Text.startsWith "//" path && !Text.startsWith "///" path
  let base := if isAbsolute then [] else (Text.split '/' dir).filter fun c => !c.isEmpty
  let steps := (Text.split '/' path).filter fun c => !c.isEmpty && c != "."
  let parts := steps.foldl
    (fun stack part => if part = ".." then stack.dropLast else stack ++ [part]) base
  let front := if twoSlashes || (!isAbsolute && Text.startsWith "//" dir) then "//" else "/"
  front ++ Text.join "/" parts

/-- The current directory without links. -/
def physicalDir (s : Session) : String :=
  let dir := Machine.path s.dir
  Octets.ofText ((s.machine.files.canonical dir dir).toOption.getD dir)

/-- The last of the options that choose between names and places. -/
def isPhysical (given : List (Char × String)) : Bool :=
  (given.getLast?.map Prod.fst) == some 'P'

/-- Print the current directory. -/
def pwd : Builtin := fun args => do
  let (given, _) ← options "LP" args
  let s ← get
  Sh.say ((if isPhysical given then physicalDir s else s.dir) ++ "\n")
  return 0

/-- Where a path leads to from the current directory, if a directory is there. -/
def reach? (s : Session) (physical : Bool) (path : String) : Option String :=
  let target := if physical then path else logicalPath s.dir path
  let files := s.machine.files
  if path.isEmpty then some s.dir
  else if files.isDir (Machine.path s.dir) (Machine.path target) then
    if physical then
      ((files.canonical (Machine.path s.dir) (Machine.path path)).toOption).map Octets.ofText
    else some target
  else none

/-- Places to look for a directory, each with whether it is announced. -/
def cdPlaces (s : Session) (path : String) : List (String × Bool) :=
  let first := (Text.split '/' path).headD ""
  if path.isEmpty || first.isEmpty || first = "." || first = ".." then [(path, false)]
  else
    match s.get? "CDPATH" with
    | none => [(path, false)]
    | some search =>
      let tried := (Text.split ':' search).map fun dir =>
        if dir.isEmpty then (path, false) else (dir ++ "/" ++ path, true)
      tried ++ [(path, false)]

/-- Change the current directory. -/
def cd : Builtin := fun args => do
  let (given, rest) ← options "LP" args
  let s ← get
  let (path, announced) : String × Bool := match rest with
    | [] => ((s.get? "HOME").getD "", false)
    | "-" :: _ => ((s.get? "OLDPWD").getD "", true)
    | path :: _ => (path, false)
  let found := (cdPlaces s path).findSome? fun (place, isListed) =>
    (reach? s (isPhysical given) place).map fun dir => (dir, isListed)
  match found with
  | none => Sh.fail ("can't cd to " ++ path)
  | some (dir, isListed) =>
    modify fun s =>
      { s with dir, remembered := s.remembered.filter fun e => Text.startsWith "/" e.2 }
    Sh.assign "OLDPWD" s.dir true
    Sh.assign "PWD" dir true
    if announced || isListed then Sh.say (dir ++ "\n")
    return 0

/-! ### The mask -/

/-- The rights that letters stand for. -/
def rights (letters : List Char) : Nat :=
  letters.foldl (fun n c => Nat.lor n (if c == 'r' then 4 else if c == 'w' then 2
    else if c == 'x' || c == 'X' then 1 else 0)) 0

/-- The rights of all those that letters stand for. -/
def spread (who : List Char) (n : Nat) : Nat :=
  let everyone := who.isEmpty || who.contains 'a'
  Nat.lor (if everyone || who.contains 'u' then n * 64 else 0)
    (Nat.lor (if everyone || who.contains 'g' then n * 8 else 0)
      (if everyone || who.contains 'o' then n else 0))

/-- Rights without others. -/
def without (mode taken : Nat) : Nat := mode - Nat.land mode taken

/-- Apply the actions of one clause to the rights that are granted. -/
def applyActions (who : List Char) : (fuel : Nat) → List Char → (mode : Nat) → Option Nat
  | 0, _, mode => some mode
  | _ + 1, [], mode => some mode
  | fuel + 1, op :: cs, mode =>
    let letters := cs.takeWhile fun c => "rwxXst".toList.contains c
    let n := spread who (rights letters)
    let rest := cs.drop letters.length
    match op with
    | '+' => applyActions who fuel rest (Nat.lor mode n)
    | '-' => applyActions who fuel rest (without mode n)
    | '=' => applyActions who fuel rest (Nat.lor (without mode (spread who 7)) n)
    | _ => none

/-- Apply a mode in words. -/
def applyMode? (text : String) (mode : Nat) : Option Nat :=
  (Text.split ',' text).foldl
    (fun mode? clause => mode?.bind fun mode =>
      let who := clause.toList.takeWhile fun c => "ugoa".toList.contains c
      match clause.toList.drop who.length with
      | [] => none
      | actions => applyActions who (actions.length + 1) actions mode)
    (some mode)

/-- Show or set the mask. -/
def umask : Builtin := fun args => do
  let (given, rest) ← options "S" args
  let s ← get
  match rest with
  | [] =>
    let letters (n : Nat) : String :=
      (if n / 4 % 2 = 1 then "r" else "") ++ (if n / 2 % 2 = 1 then "w" else "") ++
        (if n % 2 = 1 then "x" else "")
    let granted := 511 - s.mask
    if given.isEmpty then Sh.say (Integer.padded 8 4 s.mask ++ "\n")
    else Sh.say ("u=" ++ letters (granted / 64) ++ ",g=" ++ letters (granted / 8) ++ ",o=" ++
      letters granted ++ "\n")
    return 0
  | text :: _ =>
    if (text.toList.head?.map Char.isDigit).getD false then
      let (n, others) := Integer.digits 8 0 text.toList
      if !others.isEmpty then Sh.fail ("Illegal number: " ++ text)
      modify fun s => { s with mask := n % 512 }
    else
      match applyMode? text (511 - s.mask) with
      | some mode => modify fun s => { s with mask := 511 - mode % 512 }
      | none => Sh.fail ("Illegal mode: " ++ text)
    return 0

end Builtin

end Shell

end Scaffold
